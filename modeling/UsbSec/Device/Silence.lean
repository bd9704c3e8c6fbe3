import UsbSec.Device.Tables
import UsbSec.Device.Wired
import UsbSec.Rp2040.Unarmed

/-!
# The endpoints of keyboards are silent

`check_comm` stops core 0 when a packet of a keyboard is to be handed to a driver. The controller
goes on without core 0 and serves every buffer that is armed. The buffer of an endpoint whose slot
of the interface copies holds a keyboard is not armed: opening the endpoint clears its control word,
the HID driver arms nothing before a packet arrives, and no packet gets past `check_comm`.
-/

namespace UsbSec.Device

open Library Usb Rp2040

/-- The endpoints have their own registers, and no buffer of a keyboard is armed. -/
structure Silent (s : Master) : Prop where
  wired : s.Wired
  unarmed : ∀ epAddr, Numbered epAddr → IsKeyboard (s.drivers.itfCopy (slotOf epAddr)) →
    Unarmed s.dcd (tuEdptNumber epAddr).toNat (tuEdptDirIn epAddr)

/-- The interface copies are the same, and no buffer becomes armed but on endpoint 0. -/
structure KeepsSilence (s t : Master) : Prop where
  itfCopy : t.drivers.itfCopy = s.drivers.itfCopy
  unarmed : KeepsUnarmed s.dcd t.dcd

instance : IsPreorder Master KeepsSilence where
  refl s := ⟨rfl, refl_of KeepsUnarmed s.dcd⟩
  trans _ _ _ h k := ⟨k.itfCopy.trans h.itfCopy, trans_of KeepsUnarmed h.unarmed k.unarmed⟩

theorem Silent.of_keeps {s t : Master} (hs : Silent s) (h : KeepsSilence s t) : Silent t := by
  obtain ⟨hwired, hunarmed⟩ := h.unarmed hs.wired
  refine ⟨hwired, fun epAddr hnumbered hkeyboard => ?_⟩
  rw [h.itfCopy] at hkeyboard
  exact hunarmed _ _ hnumbered (hs.unarmed epAddr hnumbered hkeyboard)

theorem silent_of_keeps {α : Type} {program : MasterM α}
    (h : Program.Moves KeepsSilence program) : Program.Moves (Program.Keeps Silent) program :=
  h.mono fun _ _ hkeeps hs => hs.of_keeps hkeeps

theorem update_keeps_silence {change : Master → Master}
    (hitf : ∀ s, (change s).drivers.itfCopy = s.drivers.itfCopy)
    (hendpoints : ∀ s, (change s).dcd.hwEndpoints = s.dcd.hwEndpoints)
    (hword : ∀ s, (change s).dcd.memory.word = s.dcd.memory.word) :
    Program.Moves KeepsSilence (Program.update change : MasterM Unit) :=
  .update fun s => ⟨hitf s, keepsUnarmed_of_same (hendpoints s) (hword s)⟩

theorem record_keeps_silence (call : Call) : Program.Moves KeepsSilence (record call) :=
  update_keeps_silence (fun _ => rfl) (fun _ => rfl) fun _ => rfl

theorem enqueueSpiMessage_keeps_silence (message : SpiMessage) :
    Program.Moves KeepsSilence (enqueueSpiMessage message) :=
  update_keeps_silence (fun _ => rfl) (fun _ => rfl) fun _ => rfl

theorem onDcd_keeps_silence {α : Type} {program : DcdM α}
    (h : Program.Moves KeepsUnarmed program) : Program.Moves KeepsSilence (onDcd program) :=
  .onPart_of h fun _ _ hkeeps => ⟨rfl, hkeeps⟩

/-- A transfer on endpoint 0. -/
theorem controlXfer_keeps_silence {epAddr : UInt8} (hzero : (tuEdptNumber epAddr).toNat = 0)
    (buffer : UserBuf) (totalBytes : UInt16) :
    Program.Moves KeepsSilence (onDcd (dcdEdptXferNew epAddr buffer totalBytes)) := by
  refine onDcd_keeps_silence fun d => ?_
  have hnum : (tuEdptNumber epAddr).toNat < usbMaxEndpoints := by
    rw [hzero]
    decide
  rw [dcdEdptXferNew_apply hnum, hzero]
  exact withEndpoint_control _ (hwEndpointXferStart_writes_own _ _) d

/-! ## Packets for the drivers -/

/-- The endpoint is not that of a keyboard. -/
def Passed (epAddr : UInt8) (s : Master) : Prop :=
  Silent s ∧ ¬ IsKeyboard (s.drivers.itfCopy (slotOf epAddr))

theorem passed_of_keeps {α : Type} {epAddr : UInt8} {program : MasterM α}
    (h : Program.Moves KeepsSilence program) :
    Program.Moves (Program.Keeps (Passed epAddr)) program := by
  intro s hs
  refine ⟨hs.1.of_keeps (h s), ?_⟩
  rw [(h s).itfCopy]
  exact hs.2

/-- A transfer on an endpoint arms its own buffer at most. -/
theorem transfer_passed {epAddr : UInt8} {engine : Engine Unit}
    (h : Program.Moves WritesOwn engine) :
    Program.Moves (Program.Keeps (Passed epAddr)) (onDcd do
      let (num, dirIn) ← hwEndpointGetByAddr epAddr
      withEndpoint num dirIn engine) := by
  intro s hs
  unfold onDcd
  rw [Program.final_onPart]
  by_cases hnum : (tuEdptNumber epAddr).toNat < usbMaxEndpoints
  case neg =>
    have hstops : hwEndpointGetByAddr epAddr s.dcd = .error .undefined s.dcd :=
      Program.require_stops hnum _ _ _
    rw [Program.bind_error hstops]
    exact hs
  rw [Program.bind_ok (hwEndpointGetByAddr_apply hnum s.dcd)]
  obtain ⟨hwired, hothers⟩ := withEndpoint_others hnum h hs.1.wired
  refine ⟨⟨hwired, fun other hnumbered hkeyboard => ?_⟩, hs.2⟩
  have hplace : ¬ ((tuEdptNumber other).toNat = (tuEdptNumber epAddr).toNat ∧
      tuEdptDirIn other = tuEdptDirIn epAddr) := by
    intro hsame
    rw [eq_of_place_eq hsame.1 hsame.2] at hkeyboard
    exact hs.2 hkeyboard
  exact (hothers _ _ hplace).trans (hs.1.unarmed other hnumbered hkeyboard)

theorem dcdEdptXferNew_passed (epAddr : UInt8) (buffer : UserBuf) (totalBytes : UInt16) :
    Program.Moves (Program.Keeps (Passed epAddr)) (onDcd (dcdEdptXferNew epAddr buffer totalBytes)) :=
  transfer_passed (hwEndpointXferStart_writes_own _ _)

theorem mscSpi_passed (message : SlavePacket) (edpt : UInt8) :
    Program.Moves (Program.Keeps (Passed edpt)) (mscSpi message edpt) := by
  refine .bind (passed_of_keeps (record_keeps_silence _)) fun _ => .ite ?_ ?_
  · refine .bind .read fun s => .bind (passed_of_keeps (enqueueSpiMessage_keeps_silence _)) fun _ => ?_
    exact dcdEdptXferNew_passed _ _ _
  · refine .bind (passed_of_keeps ?_) fun _ => ?_
    · exact update_keeps_silence (fun _ => rfl) (fun _ => rfl) fun _ => rfl
    · exact transfer_passed (hwEndpointXferPartial_writes_own _ _)

theorem hidSpi_passed (message : SlavePacket) (edpt : UInt8) :
    Program.Moves (Program.Keeps (Passed edpt)) (hidSpi message edpt) :=
  .bind (passed_of_keeps (record_keeps_silence _)) fun _ => dcdEdptXferNew_passed _ _ _

/-- No packet of a keyboard comes to a driver. -/
theorem handleSpiSlaveEventWithDriver_silent (message : SlavePacket) (edpt : UInt8) :
    Program.Moves (Program.Keeps Silent) (handleSpiSlaveEventWithDriver message edpt) := by
  intro s hs
  unfold handleSpiSlaveEventWithDriver checkComm
  rw [Program.read_bind]
  by_cases hslot : (idx edpt).toNat < driverSlots
  case neg =>
    unfold defined
    rw [Program.require_stops hslot]
    exact hs
  unfold defined
  rw [Program.require_bind hslot]
  by_cases hkeyboard : IsKeyboard (s.drivers.itfCopy (idx edpt).toNat)
  · rw [Program.when_true hkeyboard]
    exact hs
  · rw [Program.when_false hkeyboard, Program.pure_bind]
    have hpassed : Passed edpt s := ⟨hs, hkeyboard⟩
    cases s.drivers.edptDriver (idx edpt).toNat with
    | illegal => exact hs
    | massStorage => exact (mscSpi_passed message edpt s hpassed).1
    | hid => exact (hidSpi_passed message edpt s hpassed).1

/-! ## Endpoint descriptors -/

/-- The endpoint is in the table, and its buffer is not armed. -/
def JustOpened (epAddr : UInt8) (s : Master) : Prop :=
  Silent s ∧ (tuEdptNumber epAddr).toNat < usbMaxEndpoints ∧
    (Numbered epAddr → Unarmed s.dcd (tuEdptNumber epAddr).toNat (tuEdptDirIn epAddr))

theorem justOpened_of_keeps {α : Type} {epAddr : UInt8} {program : MasterM α}
    (h : Program.Moves KeepsSilence program) :
    Program.Leads (JustOpened epAddr) (JustOpened epAddr) Silent program := by
  have hkeeps : Program.Moves (Program.Keeps (JustOpened epAddr)) program := by
    intro s hs
    obtain ⟨hsilent, hnum, hunarmed⟩ := hs
    obtain ⟨-, hstays⟩ := (h s).unarmed hsilent.wired
    refine ⟨hsilent.of_keeps (h s), hnum, fun hnumbered => ?_⟩
    exact hstays _ _ hnumbered (hunarmed hnumbered)
  exact hkeeps.leads fun _ hs => hs.1

/-- Opening an endpoint leaves its buffer unarmed, whatever has been in it. -/
theorem dcdEdptOpenNew_justOpened (edpt : EndpointPointer) :
    Program.Leads Silent (JustOpened edpt.bEndpointAddress) Silent (onDcd (dcdEdptOpenNew edpt)) := by
  intro s hs
  have hkeeps : KeepsSilence s (Program.final (onDcd (dcdEdptOpenNew edpt) s)) :=
    onDcd_keeps_silence (hwEndpointInit_keepsUnarmed _ _ _) s
  have hsilent := hs.of_keeps hkeeps
  cases hrun : onDcd (dcdEdptOpenNew edpt) s with
  | ok value t =>
      rw [hrun] at hsilent
      obtain ⟨d, hinit, rfl⟩ := Program.onPart_eq_ok hrun
      obtain ⟨hnum, hsetUp⟩ := hwEndpointInit_setUp hinit
      exact .of_ok hrun ⟨hsilent, hnum, fun _ => hsetUp.cleared⟩
  | error reason t =>
      rw [hrun] at hsilent
      exact .of_error hrun hsilent

/-- The slot of the endpoint holds the interface. -/
def Copied (epAddr : UInt8) (itf : InterfaceDescriptor) (s : Master) : Prop :=
  Silent s ∧ s.drivers.itfCopy (slotOf epAddr) = itf

theorem copied_of_keeps {α : Type} {epAddr : UInt8} {itf : InterfaceDescriptor}
    {program : MasterM α} (h : Program.Moves KeepsSilence program) :
    Program.Leads (Copied epAddr itf) (Copied epAddr itf) Silent program := by
  have hkeeps : Program.Moves (Program.Keeps (Copied epAddr itf)) program := by
    intro s hs
    exact ⟨hs.1.of_keeps (h s), (congrFun (h s).itfCopy _).trans hs.2⟩
  exact hkeeps.leads fun _ hs => hs.1

/-- No other endpoint in the table has the slot of the endpoint that was opened. -/
theorem copyInterface_copied (epAddr : UInt8) (itf : InterfaceDescriptor) :
    Program.Leads (JustOpened epAddr) (Copied epAddr itf) Silent
      (Program.update fun s => { s with drivers := { s.drivers with
        itfCopy := Function.update s.drivers.itfCopy (slotOf epAddr) itf } } : MasterM Unit) := by
  intro s hs
  obtain ⟨hsilent, hnum, hunarmed⟩ := hs
  refine .of_ok rfl ⟨⟨hsilent.wired, fun other hnumbered hkeyboard => ?_⟩,
    Function.update_self _ _ _⟩
  by_cases hslot : slotOf other = slotOf epAddr
  · have hsame : other = epAddr := eq_of_slotOf_eq hnum hnumbered.2 hslot
    subst hsame
    exact hunarmed hnumbered
  · have hcopy : IsKeyboard (Function.update s.drivers.itfCopy (slotOf epAddr) itf (slotOf other)) :=
      hkeyboard
    rw [Function.update_of_ne hslot] at hcopy
    exact hsilent.unarmed other hnumbered hcopy

/-- The mass-storage driver begins to listen, and the HID driver arms nothing. -/
theorem registerDriverForEdpt_silent (edpt : EndpointPointer) (itf : Option InterfaceDescriptor)
    (newMps : UInt8) :
    Program.Leads (JustOpened edpt.bEndpointAddress) Silent Silent
      (registerDriverForEdpt edpt itf newMps) := by
  refine (justOpened_of_keeps ?_).bind fun _ => ?_
  · exact update_keeps_silence (fun _ => rfl) (fun _ => rfl) fun _ => rfl
  cases itf with
  | none => exact fun s hs => hs.1
  | some itf =>
      refine (justOpened_of_keeps (record_keeps_silence _)).bind fun _ => ?_
      refine (justOpened_of_keeps (.require _ _)).bind fun _ => ?_
      refine (copyInterface_copied edpt.bEndpointAddress itf).bind fun _ => ?_
      have hend {program : MasterM Unit} (h : Program.Moves KeepsSilence program) :
          Program.Leads (Copied edpt.bEndpointAddress itf) Silent Silent program :=
        fun s hs => (copied_of_keeps h s hs).mono (fun _ _ ht => ht.1) fun _ ht => ht
      split
      · exact hend (update_keeps_silence (fun _ => rfl) (fun _ => rfl) fun _ => rfl)
      split
      · rename_i hstorage
        refine (copied_of_keeps ?_).bind fun _ => ?_
        · exact update_keeps_silence (fun _ => rfl) (fun _ => rfl) fun _ => rfl
        split
        · intro s hs
          have hpassed : Passed edpt.bEndpointAddress s := by
            refine ⟨hs.1, fun hkeyboard => ?_⟩
            rw [hs.2, IsKeyboard, hstorage] at hkeyboard
            exact absurd hkeyboard.1 (by decide)
          have hkept := dcdEdptXferNew_passed edpt.bEndpointAddress (.bugger 0) 64
          exact .of_moves hkept (fun _ _ h => (h hpassed).1) fun _ h => (h hpassed).1
        · exact hend (update_keeps_silence (fun _ => rfl) (fun _ => rfl) fun _ => rfl)
      · exact fun s hs => hs.1

theorem openEndpoint_silent (arr : Buffer) (pos : Nat) (itf : Option Nat) :
    Program.Moves (Program.Keeps Silent) (openEndpoint arr pos itf) := by
  have hkeeps {program : MasterM Unit} (h : Program.Moves KeepsSilence program) :
      Program.Leads Silent Silent Silent program := (silent_of_keeps h).leads fun _ hs => hs
  refine Program.Leads.moves ?_
  refine (hkeeps (record_keeps_silence _)).bind fun _ => ?_
  refine (dcdEdptOpenNew_justOpened ⟨arr, pos⟩).bind fun _ => ?_
  refine (justOpened_of_keeps .read).bind fun s => ?_
  refine (registerDriverForEdpt_silent ⟨arr, pos⟩ _ _).bind fun _ => ?_
  exact hkeeps (enqueueSpiMessage_keeps_silence _)

theorem walk_silent (arr : Buffer) (len fuel pos : Nat) (itf : Option Nat) :
    Program.Moves (Program.Keeps Silent) (walk arr len fuel pos itf) := by
  induction fuel generalizing pos itf with
  | zero => exact .ite (.stop _) (.pure _)
  | succ fuel ih => exact .ite (.bind (.when (openEndpoint_silent _ _ _)) fun _ => ih _ _) (.pure _)

/-! ## The functions of the loop -/

theorem handleSetupResponse_silent : Program.Moves (Program.Keeps Silent) handleSetupResponse := by
  refine .bind .read fun s => .bind (silent_of_keeps (record_keeps_silence _)) fun _ => ?_
  refine .bind (silent_of_keeps (.when ?_)) fun _ => .ite (.pure _) ?_
  · refine .bind (enqueueSpiMessage_keeps_silence _) fun _ => .bind ?_ fun _ => ?_
    · exact update_keeps_silence (fun _ => rfl) (fun _ => rfl) fun _ => rfl
    · exact update_keeps_silence (fun _ => rfl) (fun _ => rfl) fun _ => rfl
  · refine .bind (.when (walk_silent _ _ _ _ _)) fun _ => silent_of_keeps (.when ?_)
    exact .bind .read fun _ => enqueueSpiMessage_keeps_silence _

theorem registerResponse_keeps_silence (message : SlavePacket) :
    Program.Moves KeepsSilence (registerResponse message) := by
  refine .bind .read fun s => .bind (.require _ _) fun _ => .bind ?_ fun _ => ?_
  · exact update_keeps_silence (fun _ => rfl) (fun _ => rfl) fun _ => rfl
  · refine .bind (controlXfer_keeps_silence rfl _ _) fun _ => ?_
    exact update_keeps_silence (fun _ => rfl) (fun _ => rfl) fun _ => rfl

theorem handleSetupData_silent (message : SlavePacket) :
    Program.Moves (Program.Keeps Silent) (handleSetupData message) := by
  refine .bind (silent_of_keeps (registerResponse_keeps_silence _)) fun _ => .when ?_
  refine .bind handleSetupResponse_silent fun _ => silent_of_keeps (.bind ?_ fun _ => ?_)
  · exact update_keeps_silence (fun _ => rfl) (fun _ => rfl) fun _ => rfl
  · exact .bind .read fun _ => .when (controlXfer_keeps_silence rfl _ _)

theorem handleMessage_silent (message : SpiMessage) :
    Program.Moves (Program.Keeps Silent) (handleMessage message) := by
  unfold handleMessage
  cases message.payload.getLast? with
  | none => exact .stop _
  | some epAddr =>
      refine .bind (.require _ _) fun _ => .ite (handleSetupData_silent _) ?_
      exact handleSpiSlaveEventWithDriver_silent _ _

theorem handleSpiSlaveEvent_silent : Program.Moves (Program.Keeps Silent) handleSpiSlaveEvent := by
  have htake (rx : SpiQueue) : Program.Moves (Program.Keeps Silent)
      (Program.update fun s => { s with rx := rx } : MasterM Unit) :=
    silent_of_keeps (update_keeps_silence (fun _ => rfl) (fun _ => rfl) fun _ => rfl)
  refine .bind .read fun s => .ite (silent_of_keeps (.bind (.bind ?_ fun _ => .pure _) fun _ => ?_)) ?_
  · exact update_keeps_silence (fun _ => rfl) (fun _ => rfl) fun _ => rfl
  · exact .when (update_keeps_silence (fun _ => rfl) (fun _ => rfl) fun _ => rfl)
  · dsimp only
    cases (s.rx.dropWhile isString).remove with
    | none => exact htake _
    | some taken => exact .bind (htake _) fun _ => handleMessage_silent _

theorem dcdEventXferCompleteNew_keeps_silence (epAddr : UInt8) (xferredBytes : UInt16) :
    Program.Moves KeepsSilence (dcdEventXferCompleteNew epAddr xferredBytes) := by
  have hquiet {change : Master → Master}
      (hitf : ∀ s, (change s).drivers.itfCopy = s.drivers.itfCopy)
      (hdcd : ∀ s, (change s).dcd.hwEndpoints = s.dcd.hwEndpoints ∧
        (change s).dcd.memory.word = s.dcd.memory.word) :
      Program.Moves KeepsSilence (Program.update change : MasterM Unit) :=
    update_keeps_silence hitf (fun s => (hdcd s).1) fun s => (hdcd s).2
  refine .bind .read fun s => .ite ?_ (.ite (.pure _) ?_)
  · exact onDcd_keeps_silence (.ite (.update fun _ => keepsUnarmed_of_same rfl rfl) (.pure _))
  · refine .bind .read fun t => .bind (.require _ _) fun _ => ?_
    cases t.drivers.edptDriver (idx epAddr).toNat with
    | illegal => exact .stop _
    | hid => exact .bind .read fun _ => enqueueSpiMessage_keeps_silence _
    | massStorage =>
        refine .bind .read fun _ => .ite ?_ (.when (enqueueSpiMessage_keeps_silence _))
        refine .bind (hquiet (fun _ => rfl) fun _ => ⟨rfl, rfl⟩) fun _ => .bind (.require _ _) fun _ => ?_
        refine .bind (hquiet (fun _ => rfl) fun _ => ⟨rfl, rfl⟩) fun _ => .bind .read fun _ => ?_
        exact enqueueSpiMessage_keeps_silence _

theorem hwHandleBuffStatusBit_keeps_silence {i : Nat} (hi : i / 2 < usbMaxEndpoints) :
    Program.Moves KeepsSilence (hwHandleBuffStatusBit i) := by
  refine .bind ?_ fun _ => ?_
  · exact update_keeps_silence (fun _ => rfl) (fun _ => rfl) fun _ => rfl
  refine .bind (.bind (record_keeps_silence _) fun _ =>
    onDcd_keeps_silence (continue_keepsUnarmed hi _)) fun done => .when ?_
  refine .bind .read fun s => .bind (dcdEventXferCompleteNew_keeps_silence _ _) fun _ => ?_
  refine onDcd_keeps_silence (setEp_keepsUnarmed (fun ep hown => ?_) fun _ ep hcontrol => ?_)
  · exact ⟨hown.bufferControl, hown.endpointControl, hown.direction⟩
  · exact ⟨hcontrol.rx, hcontrol.endpointControl, hcontrol.bufferControl, hcontrol.hwDataBuf⟩

theorem handleOutEndpoints_keeps_silence {bits : List Nat}
    (h : ∀ i ∈ bits, i / 2 < usbMaxEndpoints) (remaining : BitVec 32) :
    Program.Moves KeepsSilence (handleOutEndpoints bits remaining) := by
  induction bits generalizing remaining with
  | nil => exact .pure _
  | cons i rest ih =>
      have hrest := ih fun j hj => h j (List.mem_cons_of_mem i hj)
      refine .ite (.pure _) (.ite (.bind ?_ fun _ => hrest _) (hrest _))
      exact hwHandleBuffStatusBit_keeps_silence (h i List.mem_cons_self)

theorem handleInEndpoints_keeps_silence {bits : List Nat}
    (h : ∀ i ∈ bits, i / 2 < usbMaxEndpoints) (remaining : BitVec 32) :
    Program.Moves KeepsSilence (handleInEndpoints bits remaining) := by
  induction bits with
  | nil => exact .pure _
  | cons i rest ih =>
      have hrest := ih fun j hj => h j (List.mem_cons_of_mem i hj)
      refine .ite (.pure _) (.bind (.when ?_) fun _ => hrest)
      exact hwHandleBuffStatusBit_keeps_silence (h i List.mem_cons_self)

theorem hwHandleBuffStatus_keeps_silence : Program.Moves KeepsSilence hwHandleBuffStatus := by
  refine .bind .read fun s => .bind (.when ?_) fun _ => .bind (.when ?_) fun _ => ?_
  · exact hwHandleBuffStatusBit_keeps_silence (by decide)
  · exact hwHandleBuffStatusBit_keeps_silence (by decide)
  · refine .bind (handleOutEndpoints_keeps_silence (by decide) _) fun _ => ?_
    exact handleInEndpoints_keeps_silence (by decide) _

theorem dcdRp2040Irq_keeps_silence (ints : DcdInts) :
    Program.Moves KeepsSilence (dcdRp2040Irq ints) := by
  refine .bind (.when ?_) fun _ => .bind (.when ?_) fun _ => .when hwHandleBuffStatus_keeps_silence
  · refine .bind (update_keeps_silence (fun _ => rfl) (fun _ => rfl) fun _ => rfl) fun _ => ?_
    refine .bind (onDcd_keeps_silence resetNonControlEndpoints_keepsUnarmed) fun _ => ?_
    exact .bind (record_keeps_silence _) fun _ => enqueueSpiMessage_keeps_silence _
  · refine .bind (onDcd_keeps_silence (.bind ?_ fun _ => ?_)) fun _ => .bind .read fun s => ?_
    · exact withEndpoint_control _ (.update fun _ => ⟨rfl, fun _ _ _ => rfl⟩)
    · exact withEndpoint_control _ (.update fun _ => ⟨rfl, fun _ _ _ => rfl⟩)
    refine .bind (record_keeps_silence _) fun _ => .bind ?_ fun _ => .ite ?_ (.ite ?_ (.ite ?_ ?_))
    · exact update_keeps_silence (fun _ => rfl) (fun _ => rfl) fun _ => rfl
    · exact enqueueSpiMessage_keeps_silence _
    · exact controlXfer_keeps_silence rfl _ _
    · exact controlXfer_keeps_silence rfl _ _
    · exact enqueueSpiMessage_keeps_silence _

/-! ## The host -/

/-- A buffer whose control word is zero is not sent. -/
theorem sendIn_unarmed {d : Dcd} {num : Nat} (h : Unarmed d num true) : sendIn d num = none := by
  unfold sendIn
  rw [h]
  cases controllerBuffer d num true <;> rfl

/-- A buffer whose control word is zero is not filled. -/
theorem receiveOut_unarmed {d : Dcd} {num : Nat} (h : Unarmed d num false) (packet : Packet) :
    receiveOut d num packet = none := by
  unfold receiveOut
  rw [h]
  cases controllerBuffer d num false <;> rfl

/-- The controller serves endpoints of the table only. -/
theorem controllerBuffer_bounded {d : Dcd} {num : Nat} {dirIn : Bool} {buffer : Nat}
    (h : controllerBuffer d num dirIn = some buffer) : num < usbMaxEndpoints := by
  unfold controllerBuffer at h
  split at h
  · rename_i hzero
    rw [hzero]
    decide
  split at h
  · assumption
  · cases h

theorem sendIn_keepsUnarmed {d e : Dcd} {num : Nat} (h : sendIn d num = some e) :
    KeepsUnarmed d e := by
  have hendpoints := sendIn_hwEndpoints h
  intro hd
  refine ⟨hd.of_progress fun _ _ => by rw [hendpoints], fun other dir _ hword => ?_⟩
  by_cases hsame : other = num ∧ dir = true
  · obtain ⟨rfl, rfl⟩ := hsame
    rw [sendIn_unarmed hword] at h
    cases h
  · simp only [sendIn, Option.bind_eq_bind, Option.bind_eq_some_iff] at h
    obtain ⟨_, hbuffer, _, -, h⟩ := h
    cases h
    have hother := (notOwn_epBufCtrl (controllerBuffer_bounded hbuffer) hsame).1
    exact (Memory.writeWord_other _ _ hother).trans hword

theorem receiveOut_keepsUnarmed {d e : Dcd} {num : Nat} {packet : Packet}
    (h : receiveOut d num packet = some e) : KeepsUnarmed d e := by
  have hendpoints := receiveOut_hwEndpoints h
  intro hd
  refine ⟨hd.of_progress fun _ _ => by rw [hendpoints], fun other dir _ hword => ?_⟩
  by_cases hsame : other = num ∧ dir = false
  · obtain ⟨rfl, rfl⟩ := hsame
    rw [receiveOut_unarmed hword] at h
    cases h
  · simp only [receiveOut, Option.bind_eq_bind, Option.bind_eq_some_iff] at h
    obtain ⟨_, hbuffer, _, -, h⟩ := h
    cases h
    have hother := (notOwn_epBufCtrl (controllerBuffer_bounded hbuffer) hsame).1
    exact (Memory.writeWord_other _ _ hother).trans hword

theorem Master.init_silent (romWord : BitVec 32) : Silent (Master.init romWord) where
  wired := init_wired romWord
  unarmed epAddr _ hkeyboard := by
    have hblank : IsKeyboard blankInterface := hkeyboard
    exact absurd hblank (by decide)

end UsbSec.Device
