import UsbSec.Rp2040.Dcd

/-!
# What the transfer engine leaves alone

A transfer changes the progress fields of its endpoint, its buffer control register and the
data. It never moves the endpoint's registers or buffer and never changes its packet size: these
form the `shape` of the endpoint, and every function of the engine keeps it. The walk through the
engine is made once, for every relation that allows these changes.
-/

namespace UsbSec.Rp2040

open Library Usb

/-- The endpoint without the fields that record the progress of a transfer. -/
def HwEndpoint.fixed (ep : HwEndpoint) : HwEndpoint :=
  { ep with nextPid := 0, active := false, remainingLen := 0, xferredLen := 0, userBuf := .null,
            isPartial := false }

/-- The next PID is that of DATA0 or that of DATA1. -/
def PidOk (pid : UInt8) : Prop := pid = 0 ∨ pid = 1

/-- A relation that the engine moves along: the progress of the transfer, the data, and the buffer
control register of the endpoint are free to change, and the next PID stays one of the two. -/
structure EngineRule (R : Channel → Channel → Prop) : Prop where
  progress : ∀ c ep, ep.fixed = c.ep.fixed → (PidOk c.ep.nextPid → PidOk ep.nextPid) →
    R c { c with ep := ep }
  data : ∀ c memory, memory.word = c.memory.word → R c { c with memory := memory }
  bufferControl : ∀ c value,
    R c { c with memory := c.memory.writeWord c.ep.bufferControl value }

/-- The other PID of the two. -/
theorem PidOk.toggle {pid : UInt8} (h : PidOk pid) : PidOk (pid ^^^ 1) := by
  rcases h with rfl | rfl
  · exact .inr rfl
  · exact .inl rfl

theorem PidOk.after {pid : UInt8} (h : PidOk pid) (remainingLen buflen wMaxPacketSize : UInt16) :
    PidOk (nextPidAfter pid remainingLen buflen wMaxPacketSize) := by
  unfold nextPidAfter
  split
  · exact h.toggle
  · split
    · exact h.toggle
    · exact h

section EngineRule

variable {R : Channel → Channel → Prop}

theorem EngineRule.setPid (hR : EngineRule R) {change : HwEndpoint → HwEndpoint}
    (h : ∀ ep, (change ep).fixed = ep.fixed) (hpid : ∀ ep, PidOk ep.nextPid → PidOk (change ep).nextPid) :
    Program.Moves R (Rp2040.setEp change) :=
  Program.Moves.update fun c => hR.progress c _ (h c.ep) (hpid c.ep)

/-- A change that leaves the next PID alone. -/
theorem EngineRule.setEp (hR : EngineRule R) {change : HwEndpoint → HwEndpoint}
    (h : ∀ ep, (change ep).fixed = ep.fixed) (hpid : ∀ ep, (change ep).nextPid = ep.nextPid) :
    Program.Moves R (Rp2040.setEp change) :=
  hR.setPid h fun ep hok => by rwa [hpid]

theorem EngineRule.setMemory (hR : EngineRule R) {change : Memory → Memory}
    (h : ∀ memory, (change memory).word = memory.word) : Program.Moves R (setMemory change) :=
  Program.Moves.update fun c => hR.data c _ (h c.memory)

theorem hwEndpointResetTransferNew_moves (hR : EngineRule R) :
    Program.Moves R hwEndpointResetTransferNew := hR.setEp (fun _ => rfl) fun _ => rfl

theorem hwEndpointBufferControlSetValue32_moves (hR : EngineRule R) (value : BitVec 32) :
    Program.Moves R (hwEndpointBufferControlSetValue32 value) := by
  intro c
  exact hR.bufferControl c _

variable [IsPreorder Channel R]

theorem defined_moves (condition : Prop) [Decidable condition] :
    Program.Moves R (defined condition : Engine Unit) := Program.Moves.require _ _

theorem readUser_moves (role : SpiRole) (buffer : UserBuf) (count : Nat) :
    Program.Moves R (readUser role buffer count) := by
  refine .bind .read fun c => ?_
  cases buffer <;> exact .bind (defined_moves _) fun _ => .pure _

theorem writeUser_moves (hR : EngineRule R) (role : SpiRole) (buffer : UserBuf)
    (bytes : List UInt8) : Program.Moves R (writeUser role buffer bytes) := by
  cases buffer with
  | null => exact defined_moves _
  | bugger offset => exact .bind (defined_moves _) fun _ => hR.setMemory fun _ => rfl
  | reserveBugger offset => exact .bind (defined_moves _) fun _ => hR.setMemory fun _ => rfl
  | object offset => exact .bind (defined_moves _) fun _ => hR.setMemory fun _ => rfl
  | payload _ _ => exact defined_moves _

theorem writeData_moves (hR : EngineRule R) (buffer : Option Nat) (skip : Nat)
    (bytes : List UInt8) : Program.Moves R (writeData buffer skip bytes) := by
  cases buffer with
  | none => exact defined_moves _
  | some offset => exact .bind (defined_moves _) fun _ => hR.setMemory fun _ => rfl

theorem readData_moves (buffer : Option Nat) (count : Nat) :
    Program.Moves R (readData buffer count) := by
  refine .bind .read fun c => ?_
  cases buffer <;> exact .bind (defined_moves _) fun _ => .pure _

theorem loadBuffer_moves (hR : EngineRule R) (role : SpiRole) (buffer : UserBuf)
    (skip count : Nat) : Program.Moves R (loadBuffer role buffer skip count) :=
  .bind .read fun _ => .bind (readUser_moves _ _ _) fun _ => writeData_moves hR _ _ _

theorem startNextBufferSlave_moves (hR : EngineRule R) :
    Program.Moves R startNextBufferSlave := by
  refine .bind .read fun c => .bind (hR.setEp (fun _ => rfl) fun _ => rfl) fun _ => ?_
  refine .bind (.when (loadBuffer_moves hR _ _ _ _)) fun _ => .bind (.when (.require _ _)) fun _ => ?_
  refine .bind (hR.setPid (fun _ => rfl) fun _ h => h.after _ _ _) fun _ => ?_
  exact hwEndpointBufferControlSetValue32_moves hR _

theorem prepareEpBuffer_moves (hR : EngineRule R) (role : SpiRole) (bufId : Nat) :
    Program.Moves R (prepareEpBuffer role bufId) := by
  refine .bind .read fun c => .bind (hR.setPid (fun _ => rfl) fun _ h => h.toggle) fun _ => ?_
  refine .bind (.when (.bind (loadBuffer_moves hR _ _ _ _) fun _ => ?_)) fun _ => .pure _
  exact hR.setEp (fun _ => rfl) fun _ => rfl

/-- The device half writes the endpoint control register too. -/
theorem startNextBufferMaster_moves (hR : EngineRule R)
    (hword : ∀ c pointer value, R c { c with memory := c.memory.writeWord pointer value }) :
    Program.Moves R startNextBufferMaster := by
  have hcontrol (pointer : Option Nat) (value : BitVec 32) :
      Program.Moves R (Rp2040.setMemory fun m => m.writeWord pointer value) :=
    Program.Moves.update fun c => hword c pointer value
  refine .bind .read fun c => .bind (prepareEpBuffer_moves hR _ _) fun _ => .bind .read fun d => ?_
  refine .ite (.bind (prepareEpBuffer_moves hR _ _) fun _ => ?_) ?_
  · exact .bind (hcontrol _ _) fun _ => hwEndpointBufferControlSetValue32_moves hR _
  · exact .bind (hcontrol _ _) fun _ => hwEndpointBufferControlSetValue32_moves hR _

theorem hwEndpointXferPartial_moves (hR : EngineRule R)
    (hword : ∀ c pointer value, R c { c with memory := c.memory.writeWord pointer value })
    (role : SpiRole) (buffer : UserBuf) (totalLen : UInt16) :
    Program.Moves R (hwEndpointXferPartial role buffer totalLen) := by
  refine .bind (hR.setEp (fun _ => rfl) fun _ => rfl) fun _ => .bind .read fun c => ?_
  refine .bind (prepareEpBuffer_moves hR _ _) fun _ => .bind .read fun d => .ite (.stop _) ?_
  refine .bind (Program.Moves.update fun c => hword c _ _) fun _ => ?_
  refine .bind (hR.setEp (fun _ => rfl) fun _ => rfl) fun _ => ?_
  exact hwEndpointBufferControlSetValue32_moves hR _

theorem hwEndpointXferStart_moves (hR : EngineRule R) {role : SpiRole}
    (hstart : Program.Moves R (hwEndpointStartNextBuffer role)) (buffer : UserBuf)
    (totalLen : UInt16) : Program.Moves R (hwEndpointXferStart role buffer totalLen) := by
  refine .bind .read fun c => ?_
  refine .bind (.when (hwEndpointResetTransferNew_moves hR)) fun _ => ?_
  exact .bind (hR.setEp (fun _ => rfl) fun _ => rfl) fun _ => hstart

theorem syncReceived_moves (hR : EngineRule R) (role : SpiRole) (bufCtrl : BitVec 32)
    (xferredBytes : UInt16) : Program.Moves R (syncReceived role bufCtrl xferredBytes) := by
  refine .bind (.when (.stop _)) fun _ => .bind .read fun c => ?_
  refine .bind (.when (hR.setEp (fun _ => rfl) fun _ => rfl)) fun _ => .bind .read fun d => ?_
  refine .bind (readData_moves _ _) fun bytes => ?_
  refine .bind (writeUser_moves hR _ _ _) fun _ => ?_
  refine .bind (hR.setEp (fun _ => rfl) fun _ => rfl) fun _ => ?_
  exact .when (hR.setEp (fun _ => rfl) fun _ => rfl)

theorem syncSent_moves (hR : EngineRule R) (bufCtrl : BitVec 32) (xferredBytes : UInt16) :
    Program.Moves R (syncSent bufCtrl xferredBytes) :=
  .bind (.require _ _) fun _ => hR.setEp (fun _ => rfl) fun _ => rfl

theorem syncEpBuffer_moves (hR : EngineRule R) (role : SpiRole) :
    Program.Moves R (syncEpBuffer role) := by
  refine .bind .read fun c => ?_
  refine .bind (.ite (syncSent_moves hR _ _) (syncReceived_moves hR _ _ _)) fun _ => ?_
  exact .bind .read fun d => .when (hR.setEp (fun _ => rfl) fun _ => rfl)

theorem hwEndpointXferContinue_moves (hR : EngineRule R) {role : SpiRole}
    (hstart : Program.Moves R (hwEndpointStartNextBuffer role)) :
    Program.Moves R (hwEndpointXferContinue role) := by
  refine .bind .read fun c => .ite (.pure _) ?_
  refine .bind (syncEpBuffer_moves hR role) fun _ => .bind .read fun d => ?_
  refine .ite (.stop _) (.ite (.pure _) ?_)
  exact .bind hstart fun _ => .pure _

end EngineRule

/-! ## Buffer control registers -/

/-- Setting a buffer control register writes the value. -/
theorem hwEndpointBufferControlSetValue32_apply (value : BitVec 32) (c : Channel) :
    hwEndpointBufferControlSetValue32 value c =
      .ok () { c with memory := c.memory.writeWord c.ep.bufferControl value } := by
  have hvalue : (if value ≠ 0 then 0 ||| value else 0) = value := by
    split
    · exact BitVec.zero_or
    · rename_i hzero
      exact (not_not.mp hzero).symm
  show EStateM.Result.ok () (Channel.mk c.ep (c.memory.writeWord c.ep.bufferControl
    (if value ≠ 0 then 0 ||| value else 0))) = _
  rw [hvalue]

/-! ## The shape of an endpoint -/

/-- Where an endpoint's registers and buffer are, and how large its packets are. -/
structure Shape where
  endpointControl : Option Nat
  bufferControl : Option Nat
  hwDataBuf : Option Nat
  wMaxPacketSize : UInt16
  deriving DecidableEq

/-- The shape of an endpoint. -/
def HwEndpoint.shape (ep : HwEndpoint) : Shape :=
  ⟨ep.endpointControl, ep.bufferControl, ep.hwDataBuf, ep.wMaxPacketSize⟩

/-- What does not depend on the progress fields is the same. -/
theorem eq_of_fixed {α : Type} {field : HwEndpoint → α} (hfield : ∀ ep, field ep.fixed = field ep)
    {first second : HwEndpoint} (h : first.fixed = second.fixed) : field first = field second := by
  rw [← hfield first, h, hfield]

theorem shape_of_fixed {first second : HwEndpoint} (h : first.fixed = second.fixed) :
    first.shape = second.shape := eq_of_fixed (fun _ => rfl) h

/-- The endpoint stays where it is, and no other register than its buffer control register is
written. -/
structure Elsewhere (c d : Channel) : Prop where
  fixed : d.ep.fixed = c.ep.fixed
  word : ∀ offset, c.ep.bufferControl ≠ some offset → d.memory.word offset = c.memory.word offset

instance : IsPreorder Channel Elsewhere where
  refl _ := ⟨rfl, fun _ _ => rfl⟩
  trans c d e h k := by
    refine ⟨k.fixed.trans h.fixed, fun offset hother => ?_⟩
    have hpointer : d.ep.bufferControl = c.ep.bufferControl :=
      congrArg Shape.bufferControl (shape_of_fixed h.fixed)
    exact (k.word offset (by rwa [hpointer])).trans (h.word offset hother)

theorem elsewhere_rule : EngineRule Elsewhere where
  progress _ _ h _ := ⟨h, fun _ _ => rfl⟩
  data _ _ h := ⟨rfl, fun _ _ => congrFun h _⟩
  bufferControl c value := by
    refine ⟨rfl, fun offset hother => ?_⟩
    cases hpointer : c.ep.bufferControl with
    | none => rfl
    | some pointer =>
        refine Memory.writeWord_other _ _ fun hsame => hother ?_
        rw [hpointer, hsame]

/-- The next PID stays one of the two. -/
def KeepsPid (c d : Channel) : Prop := PidOk c.ep.nextPid → PidOk d.ep.nextPid

instance : IsPreorder Channel KeepsPid where
  refl _ := fun h => h
  trans _ _ _ h k := fun hok => k (h hok)

theorem keepsPid_rule : EngineRule KeepsPid where
  progress _ _ _ h := h
  data _ _ _ := fun h => h
  bufferControl _ _ := fun h => h

/-! ## What starting and completing transfers leaves alone -/

/-- Only the progress of the endpoint differs. -/
def SameFixed (c d : Channel) : Prop := d.ep.fixed = c.ep.fixed

instance : IsPreorder Channel SameFixed where
  refl _ := rfl
  trans _ _ _ h k := Eq.trans k h

theorem sameFixed_rule : EngineRule SameFixed where
  progress _ _ h _ := h
  data _ _ _ := rfl
  bufferControl _ _ := rfl

theorem startNextBufferMaster_same_fixed :
    Program.Moves SameFixed startNextBufferMaster :=
  startNextBufferMaster_moves sameFixed_rule fun _ _ _ => rfl

theorem hwEndpointStartNextBuffer_same_fixed (role : SpiRole) :
    Program.Moves SameFixed (hwEndpointStartNextBuffer role) := by
  cases role with
  | master => exact startNextBufferMaster_same_fixed
  | slave => exact startNextBufferSlave_moves sameFixed_rule

theorem hwEndpointXferStart_same_fixed (role : SpiRole) (buffer : UserBuf)
    (totalLen : UInt16) :
    Program.Moves SameFixed (hwEndpointXferStart role buffer totalLen) :=
  hwEndpointXferStart_moves sameFixed_rule (hwEndpointStartNextBuffer_same_fixed role) _ _

theorem hwEndpointXferPartial_same_fixed (role : SpiRole) (buffer : UserBuf)
    (totalLen : UInt16) :
    Program.Moves SameFixed (hwEndpointXferPartial role buffer totalLen) :=
  hwEndpointXferPartial_moves sameFixed_rule (fun _ _ _ => rfl) _ _ _

theorem hwEndpointXferContinue_same_fixed (role : SpiRole) :
    Program.Moves SameFixed (hwEndpointXferContinue role) :=
  hwEndpointXferContinue_moves sameFixed_rule (hwEndpointStartNextBuffer_same_fixed role)

/-! ## The endpoint table -/

/-- In every endpoint of the table only the progress differs. -/
def OnlyProgress (d e : Dcd) : Prop :=
  ∀ num dirIn, (e.hwEndpoints num dirIn).fixed = (d.hwEndpoints num dirIn).fixed

instance : IsPreorder Dcd OnlyProgress where
  refl _ := fun _ _ => rfl
  trans _ _ _ h k := fun num dirIn => (k num dirIn).trans (h num dirIn)

/-- Every endpoint of the table has the same shape. -/
def SameShapes (d e : Dcd) : Prop :=
  ∀ num dirIn, (e.hwEndpoints num dirIn).shape = (d.hwEndpoints num dirIn).shape

instance : IsPreorder Dcd SameShapes where
  refl _ := fun _ _ => rfl
  trans _ _ _ h k := fun num dirIn => (k num dirIn).trans (h num dirIn)

theorem OnlyProgress.sameShapes {d e : Dcd} (h : OnlyProgress d e) : SameShapes d e :=
  fun num dirIn => shape_of_fixed (h num dirIn)

theorem withEndpoint_only_progress {α : Type} (num : Nat) (dirIn : Bool) {engine : Engine α}
    (h : Program.Moves SameFixed engine) :
    Program.Moves OnlyProgress (withEndpoint num dirIn engine) := by
  refine Program.Moves.onPart_of h fun d c hfixed other dir => ?_
  simp only [Dcd.setEndpoint, Function.update_apply]
  split
  · rename_i hnum
    subst hnum
    simp only [Function.update_apply]
    split
    · rename_i hdir
      subst hdir
      exact hfixed
    · rfl
  · rfl

theorem hwEndpointGetByAddr_only_progress (epAddr : UInt8) :
    Program.Moves OnlyProgress (hwEndpointGetByAddr epAddr) :=
  .bind (.require _ _) fun _ => .pure _

theorem dcdEdptXferNew_only_progress (epAddr : UInt8) (buffer : UserBuf) (totalBytes : UInt16) :
    Program.Moves OnlyProgress (dcdEdptXferNew epAddr buffer totalBytes) :=
  .bind (hwEndpointGetByAddr_only_progress _) fun _ =>
    withEndpoint_only_progress _ _ (hwEndpointXferStart_same_fixed _ _ _)

theorem dcdEdptXferPartial_only_progress (epAddr : UInt8) (buffer : UserBuf)
    (totalBytes : UInt16) :
    Program.Moves OnlyProgress (dcdEdptXferPartial epAddr buffer totalBytes) :=
  .bind (hwEndpointGetByAddr_only_progress _) fun _ =>
    withEndpoint_only_progress _ _ (hwEndpointXferPartial_same_fixed _ _ _)

theorem resetEp0Pid_only_progress : Program.Moves OnlyProgress resetEp0Pid :=
  .bind (withEndpoint_only_progress _ _ (sameFixed_rule.setPid (fun _ => rfl) fun _ _ => .inr rfl))
    fun _ => withEndpoint_only_progress _ _
      (sameFixed_rule.setPid (fun _ => rfl) fun _ _ => .inr rfl)

theorem dcdEdpt0StatusComplete_only_progress (request : ControlRequest) :
    Program.Moves OnlyProgress (dcdEdpt0StatusComplete request) :=
  .ite (Program.Moves.update fun _ _ _ => rfl) (.pure _)

/-! ## Endpoints of the table -/

theorem hwEndpointGetByAddr_apply {epAddr : UInt8}
    (hnum : (tuEdptNumber epAddr).toNat < usbMaxEndpoints) (d : Dcd) :
    hwEndpointGetByAddr epAddr d = .ok ((tuEdptNumber epAddr).toNat, tuEdptDirIn epAddr) d :=
  Program.require_bind hnum _ _ d

theorem dcdEdptXferNew_apply {epAddr : UInt8}
    (hnum : (tuEdptNumber epAddr).toNat < usbMaxEndpoints) (buffer : UserBuf)
    (totalBytes : UInt16) (d : Dcd) :
    dcdEdptXferNew epAddr buffer totalBytes d =
      withEndpoint (tuEdptNumber epAddr).toNat (tuEdptDirIn epAddr)
        (hwEndpointXferStart .master buffer totalBytes) d :=
  Program.bind_ok (hwEndpointGetByAddr_apply hnum d)

/-! ## What opening an endpoint does to the table -/

theorem Dcd.setEndpoint_same (d : Dcd) (num : Nat) (dirIn : Bool) (ep : HwEndpoint) :
    (d.setEndpoint num dirIn ep).hwEndpoints num dirIn = ep := by
  simp [Dcd.setEndpoint]

theorem Dcd.setEndpoint_other (d : Dcd) {num other : Nat} {dirIn dir : Bool} (ep : HwEndpoint)
    (h : ¬ (other = num ∧ dir = dirIn)) :
    (d.setEndpoint num dirIn ep).hwEndpoints other dir = d.hwEndpoints other dir := by
  simp only [Dcd.setEndpoint, Function.update_apply]
  split
  · rename_i hnum
    rw [Function.update_of_ne fun hdir => h ⟨hnum, hdir⟩, hnum]
  · rfl

/-- The shape of a non-control endpoint set up with the given buffer and packet size. -/
def openedShape (num : Nat) (dirIn : Bool) (buffer : Nat) (wMaxPacketSize : UInt16) : Shape where
  endpointControl := some (epCtrl (num - 1) dirIn)
  bufferControl := some (epBufCtrl num dirIn)
  hwDataBuf := some buffer
  wMaxPacketSize := wMaxPacketSize

/-- The allocator gives the endpoint the buffer at the allocation pointer and enables it. -/
theorem hwEndpointAlloc_eq_ok {num : Nat} {dirIn : Bool} {transferType : UInt8} {d e : Dcd}
    (h : hwEndpointAlloc num dirIn transferType d = .ok () e) :
    ∃ next, e = { d.setEndpoint num dirIn
        { d.hwEndpoints num dirIn with hwDataBuf := some d.nextBufferPtr } with
      nextBufferPtr := next
      memory := d.memory.writeWord (d.hwEndpoints num dirIn).endpointControl
        (endpointReg transferType (hwDataOffset d.nextBufferPtr)) } := by
  obtain ⟨_, _, hread, h⟩ := Program.bind_eq_ok h
  cases hread
  obtain ⟨_, _, hset, h⟩ := Program.bind_eq_ok h
  cases hset
  obtain ⟨_, _, hnext, h⟩ := Program.bind_eq_ok h
  cases hnext
  obtain ⟨_, _, haligned, h⟩ := Program.bind_eq_ok h
  obtain ⟨_, _, hmax, h⟩ := Program.bind_eq_ok h
  obtain ⟨-, rfl⟩ := Program.require_eq_ok haligned
  obtain ⟨-, rfl⟩ := Program.require_eq_ok hmax
  cases h
  refine ⟨d.nextBufferPtr +
    (allocSize (d.hwEndpoints num dirIn).wMaxPacketSize transferType).toNat, ?_⟩
  have hcontrol : ((d.setEndpoint num dirIn { d.hwEndpoints num dirIn with
      hwDataBuf := some d.nextBufferPtr }).hwEndpoints num dirIn).endpointControl =
        (d.hwEndpoints num dirIn).endpointControl := by
    rw [Dcd.setEndpoint_same]
  rw [← hcontrol]

theorem hwEndpointAlloc_ok {num : Nat} {dirIn : Bool} {transferType : UInt8} {d e : Dcd}
    (h : hwEndpointAlloc num dirIn transferType d = .ok () e) :
    e.hwEndpoints = (d.setEndpoint num dirIn
      { d.hwEndpoints num dirIn with hwDataBuf := some d.nextBufferPtr }).hwEndpoints := by
  obtain ⟨next, rfl⟩ := hwEndpointAlloc_eq_ok h
  rfl

theorem hwEndpointGetByAddr_ok {epAddr : UInt8} {place : Nat × Bool} {d e : Dcd}
    (h : hwEndpointGetByAddr epAddr d = .ok place e) :
    (tuEdptNumber epAddr).toNat < usbMaxEndpoints ∧
      place = ((tuEdptNumber epAddr).toNat, tuEdptDirIn epAddr) ∧ e = d := by
  obtain ⟨_, _, hdefined, hpure⟩ := Program.bind_eq_ok h
  obtain ⟨hnum, rfl⟩ := Program.require_eq_ok hdefined
  cases hpure
  exact ⟨hnum, rfl, rfl⟩

/-- Setting up an endpoint leaves the others alone; a non-control endpoint has its registers, a
buffer and the given packet size afterwards. -/
theorem hwEndpointInit_ok {epAddr : UInt8} {wMaxPacketSize : UInt16} {transferType : UInt8}
    {d e : Dcd} (h : hwEndpointInit epAddr wMaxPacketSize transferType d = .ok () e) :
    (tuEdptNumber epAddr).toNat < usbMaxEndpoints ∧
    (∀ num dirIn, ¬ (num = (tuEdptNumber epAddr).toNat ∧ dirIn = tuEdptDirIn epAddr) →
      e.hwEndpoints num dirIn = d.hwEndpoints num dirIn) ∧
    ((tuEdptNumber epAddr).toNat ≠ 0 →
      (e.hwEndpoints (tuEdptNumber epAddr).toNat (tuEdptDirIn epAddr)).shape =
        openedShape (tuEdptNumber epAddr).toNat (tuEdptDirIn epAddr) d.nextBufferPtr
          wMaxPacketSize) := by
  obtain ⟨⟨num, dirIn⟩, _, haddr, hinit⟩ := Program.bind_eq_ok h
  obtain ⟨hnum, hplace, rfl⟩ := hwEndpointGetByAddr_ok haddr
  cases hplace
  obtain ⟨_, _, hfields, h⟩ := Program.bind_eq_ok hinit
  cases hfields
  obtain ⟨_, _, hword, h⟩ := Program.bind_eq_ok h
  cases hword
  split at h
  · rename_i hzero
    cases h
    refine ⟨hnum, fun num dirIn hother => ?_, fun hne => absurd hzero hne⟩
    exact (Dcd.setEndpoint_other _ _ hother).trans (Dcd.setEndpoint_other _ _ hother)
  · obtain ⟨_, _, hcontrol, h⟩ := Program.bind_eq_ok h
    cases hcontrol
    have halloc := hwEndpointAlloc_ok h
    refine ⟨hnum, fun num dirIn hother => ?_, fun _ => ?_⟩
    · rw [halloc, Dcd.setEndpoint_other _ _ hother]
      exact (Dcd.setEndpoint_other _ _ hother).trans (Dcd.setEndpoint_other _ _ hother)
    · rw [halloc]
      simp only [Dcd.setEndpoint_same, HwEndpoint.shape]
      rfl

end UsbSec.Rp2040
