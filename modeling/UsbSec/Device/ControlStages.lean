import UsbSec.Device.DescriptorWalk
import UsbSec.Device.ResponseSize
import UsbSec.Device.SetAddress
import UsbSec.Device.TableCoherence
import UsbSec.Device.Wired
import UsbSec.Rp2040.Arming

/-!
# The stages of control transfers

A control transfer goes through when the master arms its stages on endpoint 0: the data stage, if
there is one, and a status stage of length 0 in the other direction. The master does so in four
places: for the device qualifier and for a HID SET_REPORT, which it answers itself, and for each
reply of the slave in `register_response` and once more behind the last one. This module says which
stages are armed when the handler is done.
-/

namespace UsbSec.Device

open Library Usb Rp2040

/-! ## Stages -/

/-- The buffer control word of endpoint 0. -/
def Master.controlWord (s : Master) (dirIn : Bool) : BitVec 32 :=
  s.dcd.memory.word (epBufCtrl 0 dirIn)

/-- The buffer is armed with a packet for the host. -/
def Offered (word : BitVec 32) : Prop :=
  hasBits word bufCtrlAvail = true ∧ hasBits word bufCtrlFull = true

instance (word : BitVec 32) : Decidable (Offered word) := inferInstanceAs (Decidable (_ ∧ _))

/-- The buffer is armed to receive data. -/
def AwaitsData (word : BitVec 32) : Prop :=
  hasBits word bufCtrlAvail = true ∧ hasBits word bufCtrlFull = false ∧ bufLen word ≠ 0

instance (word : BitVec 32) : Decidable (AwaitsData word) := inferInstanceAs (Decidable (_ ∧ _))

/-- Both stages of the control transfer are armed: for a request from device to host, a packet on
endpoint 0 IN and a status stage on endpoint 0 OUT; otherwise, the data stage on endpoint 0 OUT, if
there is one, and a status stage on endpoint 0 IN. -/
def StagesArmed (request : ControlRequest) (s : Master) : Prop :=
  if request.direction = 1 then
    Offered (s.controlWord true) ∧ ArmsBuffer true 0 (s.controlWord false)
  else (0 < request.wLength → AwaitsData (s.controlWord false)) ∧
    ArmsBuffer false 0 (s.controlWord true)

/-- The handler ends with the stages of the request armed. -/
def ArmsStages (request : ControlRequest) (handler : MasterM Unit) (s : Master) : Prop :=
  ∃ t, handler s = .ok () t ∧ StagesArmed request t

/-! ## Transfers on endpoint 0 -/

/-- The transfer leaves the register of the other direction alone, and the allocator and the setup
packet. -/
structure OneDirection (dirIn : Bool) (d e : Dcd) : Prop where
  wired : Wired e
  other : e.memory.word (epBufCtrl 0 !dirIn) = d.memory.word (epBufCtrl 0 !dirIn)
  nextBufferPtr : e.nextBufferPtr = d.nextBufferPtr
  setupPacket : e.setupPacket = d.setupPacket

theorem withEndpoint_one_direction (dirIn : Bool) (buffer : UserBuf) (totalLen : UInt16) :
    Program.Moves (fun d e => Wired d → OneDirection dirIn d e)
      (withEndpoint 0 dirIn (hwEndpointXferStart .master buffer totalLen)) := by
  intro d hd
  have hprogress : OnlyProgress d _ :=
    withEndpoint_only_progress 0 dirIn (hwEndpointXferStart_same_fixed .master buffer totalLen) d
  have hothers := withEndpoint_sameOthers (hwEndpointXferStart_writes_own buffer totalLen)
    (hd.own 0 (by decide) dirIn)
  have hother : ¬ (0 = 0 ∧ (!dirIn) = dirIn) := by simp
  refine ⟨hd.of_progress hprogress, hothers _ (notOwn_epBufCtrl (by decide) hother), ?_, ?_⟩
  all_goals
    unfold withEndpoint
    rw [Program.final_onPart]
    rfl

/-- An address of endpoint 0. -/
def controlAddress (dirIn : Bool) : UInt8 := if dirIn then 0x80 else 0

theorem dcdEdptXferNew_control (dirIn : Bool) (buffer : UserBuf) (totalLen : UInt16) (d : Dcd) :
    dcdEdptXferNew (controlAddress dirIn) buffer totalLen d =
      withEndpoint 0 dirIn (hwEndpointXferStart .master buffer totalLen) d := by
  cases dirIn <;> exact dcdEdptXferNew_apply (by decide) _ _ d

/-- What the engine leaves in the register of the endpoint. -/
theorem withEndpoint_control_word {dirIn : Bool} {engine : Engine Unit} {P : BitVec 32 → Prop}
    {d : Dcd} (h : Program.Outcome engine ⟨d.hwEndpoints 0 dirIn, d.memory⟩
      (fun _ c => P (c.memory.word (epBufCtrl 0 dirIn))) fun _ => False) :
    Program.Outcome (withEndpoint 0 dirIn engine) d
      (fun _ e => P (e.memory.word (epBufCtrl 0 dirIn))) fun _ => False :=
  .onPart h (fun _ _ hc => hc) fun _ hc => hc

/-- A transfer of length 0 never stops. -/
theorem dcdEdptXferNew_empty (dirIn : Bool) {d : Dcd} (hd : Wired d) :
    Program.Outcome (dcdEdptXferNew (controlAddress dirIn) .null 0) d
      (fun _ e => ArmsBuffer (!dirIn) 0 (e.memory.word (epBufCtrl 0 dirIn)) ∧
        OneDirection dirIn d e) fun _ => False := by
  have hcontrol := hd.control dirIn
  have hload : CanLoad .null 0 (d.hwEndpoints 0 dirIn) := by
    intro _
    refine ⟨rfl, ?_⟩
    unfold HasRoom
    rw [hcontrol.hwDataBuf]
    decide
  refine .of_eq (dcdEdptXferNew_control dirIn _ _ d) ?_
  have hword : Program.Outcome
      (withEndpoint 0 dirIn (hwEndpointXferStart .master .null 0)) d
      (fun _ e => ArmsBuffer (!dirIn) 0 (e.memory.word (epBufCtrl 0 dirIn))) fun _ => False := by
    refine withEndpoint_control_word (P := fun word => ArmsBuffer (!dirIn) 0 word) ?_
    refine (hwEndpointXferStart_whole (UInt16.zero_le)).mono (fun _ c hc => ?_) fun _ h => h hload
    obtain ⟨-, rfl⟩ := hc
    unfold wholeChannel armedMemory
    rw [hcontrol.bufferControl, Memory.writeWord_same, ← hcontrol.rx]
    exact wholeWord_arms _ (show (0 : UInt16).toNat < 1024 by decide)
  refine (hword.and_moves (withEndpoint_one_direction dirIn .null 0) fun _ h _ => h).mono ?_ ?_
  · exact fun _ e he => ⟨he.1, he.2 hd⟩
  · exact fun _ h => h

/-- A reply that fits behind the response is never too long for the buffers of endpoint 0. -/
theorem dcdEdptXferNew_reply {payload : List UInt8} {length : UInt16} {d : Dcd} (hd : Wired d)
    (hread : length.toNat ≤ payload.length) (hroom : length.toNat ≤ maxSetupResponseBugger) :
    Program.Outcome (dcdEdptXferNew 0x80 (.payload payload 0) length) d
      (fun _ e => SendsLength (tuMin16 length (d.hwEndpoints 0 true).wMaxPacketSize)
        (e.memory.word (epBufCtrl 0 true)) ∧ OneDirection true d e) fun _ => False := by
  have hcontrol := hd.control true
  have hroom' : length.toNat ≤ 1024 := hroom
  have hcan : CanSend ep0BufA (epBufCtrl 0 true)
      (freshChannel (.payload payload 0) length ⟨d.hwEndpoints 0 true, d.memory⟩) := by
    constructor
    case rx => exact hcontrol.rx
    case bufferControl => exact hcontrol.bufferControl
    case hwDataBuf => exact hcontrol.hwDataBuf
    case holds =>
      show 0 + length.toNat ≤ payload.length
      omega
    case room =>
      show 0x100 + 64 + length.toNat ≤ 4096
      omega
  refine .of_eq (dcdEdptXferNew_control true _ _ d) ?_
  have hword : Program.Outcome
      (withEndpoint 0 true (hwEndpointXferStart .master (.payload payload 0) length)) d
      (fun _ e => SendsLength (tuMin16 length (d.hwEndpoints 0 true).wMaxPacketSize)
        (e.memory.word (epBufCtrl 0 true))) fun _ => False :=
    withEndpoint_control_word
      (P := SendsLength (tuMin16 length (d.hwEndpoints 0 true).wMaxPacketSize))
      (hwEndpointXferStart_sends hcan)
  refine (hword.and_moves (withEndpoint_one_direction true _ length) fun _ h _ => h).mono ?_ ?_
  · exact fun _ e he => ⟨he.1, he.2 hd⟩
  · exact fun _ h => h

/-- The first packet of the reply has the length 0 in the register. -/
def FirstEmpty (s : Master) (message : SlavePacket) : Prop :=
  (tuMin16 message.payloadLength (s.hwEndpoint 0x80).wMaxPacketSize).toNat % 1024 = 0

instance (s : Master) (message : SlavePacket) : Decidable (FirstEmpty s message) :=
  inferInstanceAs (Decidable (_ = _))

/-- After `register_response` the response has the bytes of the reply, and its first packet is
offered to the host. -/
structure Registered (message : SlavePacket) (s t : Master) : Prop where
  collected : ∃ d, t = { s.withResponse message with dcd := d }
  direction : OneDirection true s.dcd t.dcd
  word : SendsLength (tuMin16 message.payloadLength (s.hwEndpoint 0x80).wMaxPacketSize)
    (t.controlWord true)

/-- The bytes of a reply fit behind those of the response. -/
def FitsBehind (s : Master) (message : SlavePacket) : Prop :=
  s.aggregator.len.toNat + message.payloadLength.toNat ≤ maxSetupResponseBugger

instance (s : Master) (message : SlavePacket) : Decidable (FitsBehind s message) :=
  inferInstanceAs (Decidable (_ ≤ _))

theorem registerResponse_control {message : SlavePacket} {s : Master} (hs : s.Wired)
    (hread : message.payloadLength.toNat ≤ message.payload.length) :
    Program.Outcome (registerResponse message) s
      (fun _ t => FitsBehind s message ∧ Registered message s t)
      (fun _ => ¬ FitsBehind s message) := by
  have hsends : Program.Outcome (registerResponse message) s
      (fun _ t => FitsBehind s message ∧ OneDirection true s.dcd t.dcd ∧
        SendsLength (tuMin16 message.payloadLength (s.hwEndpoint 0x80).wMaxPacketSize)
          (t.controlWord true))
      (fun _ => ¬ FitsBehind s message) := by
    refine .read_bind (.require_bind (fun hfits => ?_) fun hnot => hnot)
    refine .of_eq (Program.update_bind _ _ _) ?_
    have hreply := dcdEdptXferNew_reply (d := s.dcd) hs hread
      (Nat.le_trans (Nat.le_add_left _ _) hfits)
    refine .bind (P := fun _ u => OneDirection true s.dcd u.dcd ∧
      SendsLength (tuMin16 message.payloadLength (s.hwEndpoint 0x80).wMaxPacketSize)
        (u.controlWord true)) ?_ fun _ u hu => .of_ok rfl ⟨hfits, hu⟩
    exact .onPart hreply (fun _ e he => ⟨he.2, he.1⟩) fun _ h => h.elim
  cases hrun : registerResponse message s with
  | ok value t =>
      obtain ⟨hfits, hdirection, hword⟩ := hsends.ok hrun
      exact .of_ok hrun ⟨hfits, registerResponse_eq_ok hrun, hdirection, hword⟩
  | error reason t => exact .of_error hrun (hsends.error hrun)

/-! ## Endpoint 0 during the walk -/

/-- There is an endpoint descriptor for endpoint 0 IN here, which clears its register. -/
def Visit.Reopens (arr : Buffer) (v : Visit) : Prop :=
  v.IsEndpoint arr ∧ (tuEdptNumber (EndpointPointer.bEndpointAddress ⟨arr, v.pos⟩)).toNat = 0 ∧
    tuEdptDirIn (EndpointPointer.bEndpointAddress ⟨arr, v.pos⟩) = true

instance (arr : Buffer) (v : Visit) : Decidable (v.Reopens arr) :=
  inferInstanceAs (Decidable (_ ∧ _ ∧ _))

/-- The walk ends behind `len` within `fuel` descriptors, passes each of them and leaves endpoint 0
IN alone. -/
def Through (arr : Buffer) (len fuel : Nat) (v : Visit) : Prop :=
  ∃ count ≤ fuel, (∀ k < count, ((Visit.step arr)^[k] v).Passes arr len ∧
    ¬ ((Visit.step arr)^[k] v).Reopens arr) ∧ len ≤ ((Visit.step arr)^[count] v).pos

theorem through_of_le {arr : Buffer} {len fuel : Nat} {v : Visit} (h : len ≤ v.pos) :
    Through arr len fuel v := ⟨0, Nat.zero_le _, fun k hk => absurd hk (Nat.not_lt_zero k), h⟩

theorem not_through_zero {arr : Buffer} {len : Nat} {v : Visit} (h : v.pos < len) :
    ¬ Through arr len 0 v := by
  rintro ⟨count, hcount, -, hend⟩
  cases Nat.le_zero.mp hcount
  exact absurd hend (Nat.not_le.mpr h)

theorem through_succ {arr : Buffer} {len fuel : Nat} {v : Visit} (h : v.pos < len) :
    Through arr len (fuel + 1) v ↔
      (v.Passes arr len ∧ ¬ v.Reopens arr) ∧ Through arr len fuel (v.step arr) := by
  constructor
  · rintro ⟨count, hcount, hpasses, hend⟩
    cases count with
    | zero => exact absurd hend (Nat.not_le.mpr h)
    | succ count =>
        rw [Function.iterate_succ_apply] at hend
        rw [Nat.forall_lt_succ_left] at hpasses
        exact ⟨hpasses.1, count, by omega, hpasses.2, hend⟩
  · rintro ⟨hfirst, count, hcount, hpasses, hend⟩
    refine ⟨count + 1, by omega, ?_, ?_⟩
    · rw [Nat.forall_lt_succ_left]
      exact ⟨hfirst, hpasses⟩
    · rw [Function.iterate_succ_apply]
      exact hend

/-- The register of endpoint 0 IN is the same. -/
def SameReply (s t : Master) : Prop :=
  s.Wired → t.Wired ∧ t.controlWord true = s.controlWord true

instance : IsPreorder Master SameReply where
  refl _ := fun hs => ⟨hs, rfl⟩
  trans _ _ _ h k := fun hs => ⟨(k (h hs).1).1, (k (h hs).1).2.trans (h hs).2⟩

theorem update_same_reply {change : Master → Master} (h : ∀ s, (change s).dcd = s.dcd) :
    Program.Ends SameReply (Program.update change : MasterM Unit) := by
  refine (Program.Moves.update fun s hs => ?_).ends
  unfold Master.Wired Master.controlWord
  rw [h s]
  exact ⟨hs, rfl⟩

/-- A transfer from the host leaves the register alone. -/
theorem dcdEdptXferNew_same_reply {epAddr : UInt8} (hout : tuEdptDirIn epAddr = false)
    (buffer : UserBuf) (totalLen : UInt16) :
    Program.Ends SameReply (onDcd (dcdEdptXferNew epAddr buffer totalLen)) := by
  intro s value t hrun hs
  obtain ⟨e, he, rfl⟩ := Program.onPart_eq_ok hrun
  have hprogress : OnlyProgress s.dcd e := (dcdEdptXferNew_only_progress _ _ _).ok he
  refine ⟨Rp2040.Wired.of_progress hs hprogress, ?_⟩
  obtain ⟨place, _, haddr, -⟩ := Program.bind_eq_ok he
  obtain ⟨hnum, -, -⟩ := hwEndpointGetByAddr_ok haddr
  rw [dcdEdptXferNew_apply hnum, hout] at he
  have hothers := withEndpoint_sameOthers (hwEndpointXferStart_writes_own buffer totalLen)
    (hs.own _ hnum false)
  rw [he] at hothers
  exact hothers _ (notOwn_epBufCtrl hnum fun hsame => absurd hsame.2 (by decide))

theorem registerDriverForEdpt_same_reply (edpt : EndpointPointer)
    (itf : Option InterfaceDescriptor) (newMps : UInt8) :
    Program.Ends SameReply (registerDriverForEdpt edpt itf newMps) := by
  refine .bind (update_same_reply fun _ => rfl) fun _ => ?_
  cases itf with
  | none => exact .stop _
  | some descriptor =>
      refine .bind (update_same_reply fun _ => rfl) fun _ =>
        .bind (Program.Moves.require _ _).ends fun _ => ?_
      refine .bind (update_same_reply fun _ => rfl) fun _ =>
        .ite (update_same_reply fun _ => rfl) ?_
      refine .ite (.bind (update_same_reply fun _ => rfl) fun _ => ?_) (.stop _)
      by_cases hout : edpt.bEndpointAddress &&& 0x80 = 0
      · rw [if_pos hout]
        exact dcdEdptXferNew_same_reply (by simp [tuEdptDirIn, hout]) _ _
      · rw [if_neg hout]
        exact update_same_reply fun _ => rfl

/-- Opening an endpoint clears the register if the endpoint is endpoint 0 IN. -/
theorem openEndpoint_reply {arr : Buffer} {v : Visit} {s t : Master} (hs : s.Wired)
    (hendpoint : v.IsEndpoint arr) (hrun : openEndpoint arr v.pos v.itf s = .ok () t) :
    t.Wired ∧ t.controlWord true = if v.Reopens arr then 0 else s.controlWord true := by
  obtain ⟨_, _, hrecord, hopen⟩ := Program.bind_eq_ok hrun
  cases hrecord
  obtain ⟨_, opened, hhardware, hrest⟩ := Program.bind_eq_ok hopen
  obtain ⟨d, hd, rfl⟩ := Program.onPart_eq_ok hhardware
  obtain ⟨hnum, hsetUp⟩ := hwEndpointInit_setUp hd
  have hquiet : Program.Ends SameReply (do
      let s ← Program.read
      registerDriverForEdpt ⟨arr, v.pos⟩ (v.itf.map (InterfaceDescriptor.ofBuffer arr))
        s.events.bMaxPacketSize
      enqueueSpiMessage (.copyOf (MsgType.edptOpen ||| MsgType.debugPrintAsHex) arr v.pos
        (EndpointPointer.bLength ⟨arr, v.pos⟩).toUInt16)) :=
    .read_bind fun _ => .bind (registerDriverForEdpt_same_reply _ _ _) fun _ =>
      update_same_reply fun _ => rfl
  obtain ⟨hwired, hsame⟩ := hquiet _ _ _ hrest (hsetUp.wired hs)
  refine ⟨hwired, hsame.trans ?_⟩
  by_cases hreopens : v.Reopens arr
  · rw [if_pos hreopens]
    have hcleared := hsetUp.cleared
    rw [hreopens.2.1, hreopens.2.2] at hcleared
    exact hcleared
  · rw [if_neg hreopens]
    refine hsetUp.others _ (notOwn_epBufCtrl hnum fun hplace => hreopens ?_)
    exact ⟨hendpoint, hplace.1.symm, hplace.2.symm⟩

theorem walkBody_reply {arr : Buffer} {v : Visit} {s t : Master} (hs : s.Wired)
    (hrun : walkBody arr v.pos v.itf s = .ok () t) :
    t.Wired ∧ t.controlWord true = if v.Reopens arr then 0 else s.controlWord true := by
  unfold walkBody at hrun
  by_cases htype : v.IsEndpoint arr
  · have htype' : arr (v.pos + 1) = 0x05 := htype
    rw [Program.when_true htype', nextInterface_endpoint htype'] at hrun
    exact openEndpoint_reply hs htype hrun
  · have htype' : ¬ arr (v.pos + 1) = 0x05 := htype
    rw [Program.when_false htype'] at hrun
    cases hrun
    rw [if_neg fun hreopens => htype hreopens.1]
    exact ⟨hs, rfl⟩

/-- One iteration of the walk and the rest. -/
theorem walk_eq_bind {arr : Buffer} {len pos : Nat} (hpos : pos < len) (fuel : Nat)
    (itf : Option Nat) (s : Master) :
    walk arr len (fuel + 1) pos itf s =
      (walkBody arr pos itf >>= fun _ =>
        walk arr len fuel (pos + (arr pos).toNat) (nextInterface arr pos itf)) s := by
  rw [walk, if_pos hpos, walkBody]

theorem not_offered_zero : ¬ Offered 0 := by decide

/-- The walk ends with a packet offered on endpoint 0 IN exactly when one was offered before and no
descriptor on its way stops the master or is for endpoint 0 IN. The induction follows the
iterations. -/
theorem walk_control (arr : Buffer) (len fuel : Nat) {v : Visit} {s : Master} (hs : s.Wired)
    (hnext : v.next = s.dcd.nextBufferPtr) :
    Program.Outcome (walk arr len fuel v.pos v.itf) s
      (fun _ t => t.Wired ∧ (Offered (t.controlWord true) ↔
        Offered (s.controlWord true) ∧ Through arr len fuel v))
      (fun _ => ¬ Through arr len fuel v) := by
  induction fuel generalizing v s with
  | zero =>
      rw [walk]
      by_cases hpos : v.pos < len
      · rw [if_pos hpos]
        exact .stop (not_through_zero hpos)
      · rw [if_neg hpos]
        exact .pure ⟨hs, (and_iff_left (through_of_le (Nat.not_lt.mp hpos))).symm⟩
  | succ fuel ih =>
      by_cases hpos : v.pos < len
      · refine .of_eq (walk_eq_bind hpos fuel v.itf s) ?_
        have hbody := walkBody_visit arr hnext
        rw [through_succ hpos]
        cases hrun : walkBody arr v.pos v.itf s with
        | ok value t =>
            obtain ⟨haccepted, hstep⟩ := hbody.ok hrun
            obtain ⟨hwired, hword⟩ := walkBody_reply hs hrun
            have hpasses : v.Passes arr len := ⟨hpos, haccepted⟩
            refine .of_eq (Program.bind_ok hrun) ((ih hwired hstep).mono ?_ ?_)
            · rintro _ u ⟨hu, hoffered⟩
              refine ⟨hu, hoffered.trans ?_⟩
              rw [hword]
              by_cases hreopens : v.Reopens arr
              · rw [if_pos hreopens]
                exact ⟨fun h => absurd h.1 not_offered_zero, fun h => absurd hreopens h.2.1.2⟩
              · rw [if_neg hreopens, and_iff_right (⟨hpasses, hreopens⟩ : _ ∧ _)]
            · exact fun _ hnot h => hnot h.2
        | error reason t =>
            exact .of_error (Program.bind_error hrun) fun h =>
              hbody.error hrun h.1.1.accepted
      · rw [walk, if_neg hpos]
        exact .pure ⟨hs, (and_iff_left (through_of_le (Nat.not_lt.mp hpos))).symm⟩

/-! ## Interpreting a response -/

/-- The walk over the response ends, by its own test, and leaves endpoint 0 IN alone: it stops at no
descriptor before, and meets none for endpoint 0 IN. -/
def WalkedThrough (s : Master) : Prop :=
  ∃ count ≤ s.responseLen, (∀ k < count, (s.visit k).Passes s.aggregator.bugger s.responseLen ∧
    ¬ (s.visit k).Reopens s.aggregator.bugger) ∧ s.responseLen ≤ (s.visit count).pos

instance (s : Master) : Decidable (WalkedThrough s) :=
  inferInstanceAs (Decidable (∃ count ≤ _, (∀ k < count, _ ∧ _) ∧ _))

/-- The controller is the same, and the setup packet. -/
structure SameController (s t : Master) : Prop where
  dcd : t.dcd = s.dcd
  setup : t.events.setup = s.events.setup

instance : IsPreorder Master SameController where
  refl _ := ⟨rfl, rfl⟩
  trans _ _ _ h k := ⟨k.dcd.trans h.dcd, k.setup.trans h.setup⟩

theorem handleDeviceDescriptor_controller (arr : Buffer) (s : Master) :
    Program.Outcome (handleDeviceDescriptor arr) s (fun _ t => SameController s t)
      fun _ => False := .of_ok rfl ⟨rfl, rfl⟩

theorem handleHidReport_controller (setup : ControlRequest) (s : Master) :
    Program.Outcome (handleHidReport setup) s (fun _ t => SameController s t) fun _ => False :=
  .when (fun _ => .of_ok rfl ⟨rfl, rfl⟩) fun _ => refl_of SameController s

/-- What is left of a transfer once a response is interpreted. -/
structure Interpreted (s t : Master) : Prop where
  wired : t.Wired
  setup : t.events.setup = s.events.setup
  offered : Offered (t.controlWord true) ↔
    Offered (s.controlWord true) ∧ (Walked s → WalkedThrough s)
  quiet : ¬ Walked s → t.dcd = s.dcd

/-- A response that is not walked is interpreted without the controller. -/
theorem handleSetupResponse_quiet {s : Master} (hquiet : ¬ Walked s) :
    Program.Outcome handleSetupResponse s (fun _ t => SameController s t) fun _ => False := by
  refine .of_eq (handleSetupResponse_apply s) ?_
  refine .bind (P := fun _ t => SameController s t) (.when (fun _ => ?_) fun _ => ⟨rfl, rfl⟩) ?_
  · exact (handleDeviceDescriptor_controller _ _).mono (fun _ _ h => ⟨h.dcd, h.setup⟩) fun _ h => h
  · intro _ t ht
    refine .ite (fun _ => .pure ht) fun hlive => ?_
    rw [Program.when_false fun hconfig => hquiet ⟨hlive, hconfig⟩]
    refine (handleHidReport_controller _ t).mono (fun _ u hu => ?_) fun _ h => h
    exact trans_of SameController ht hu

theorem handleSetupResponse_control {s : Master} (hs : s.Wired) :
    Program.Outcome handleSetupResponse s (fun _ t => Interpreted s t)
      (fun _ => ¬ (Walked s → WalkedThrough s)) := by
  by_cases hwalked : Walked s
  · refine .of_eq (handleSetupResponse_apply s) ?_
    unfold interpretResponse
    rw [Program.when_false fun hdevice => not_isConfigRequest hdevice hwalked.2]
    refine .of_eq (Program.pure_bind _ _ _) ?_
    rw [if_neg hwalked.1, Program.when_true hwalked.2]
    have hwalk := walk_control s.aggregator.bugger s.responseLen s.responseLen
      (v := ⟨0, none, s.dcd.nextBufferPtr⟩) (s := s.interpreting) hs rfl
    refine .bind (hwalk.and_moves (walk_same_exchange _ _ _ _ _) fun _ hnot _ h =>
      hnot (h hwalked)) ?_
    rintro _ t ⟨⟨hwired, hoffered⟩, hexchange⟩
    refine (handleHidReport_controller _ t).mono (fun _ u hu => ?_) fun _ h => h.elim
    constructor
    case wired =>
      unfold Master.Wired
      rw [hu.dcd]
      exact hwired
    case setup => exact hu.setup.trans hexchange.setup
    case offered =>
      unfold Master.controlWord
      rw [hu.dcd]
      exact hoffered.trans (and_congr_right fun _ => ⟨fun h _ => h, fun h => h hwalked⟩)
    case quiet => exact fun hquiet => absurd hwalked hquiet
  · refine (handleSetupResponse_quiet hwalked).mono (fun _ t ht => ?_) fun _ h => h.elim
    constructor
    case wired =>
      unfold Master.Wired
      rw [ht.dcd]
      exact hs
    case setup => exact ht.setup
    case offered =>
      unfold Master.controlWord
      rw [ht.dcd]
      exact (and_iff_left fun h => absurd h hwalked).symm
    case quiet => exact fun _ => ht.dcd

/-! ## Replies -/

/-- The master does not take data from the host for the request, or there are none. -/
def NoDataOut (request : ControlRequest) : Prop := request.direction = 1 ∨ request.wLength = 0

instance (request : ControlRequest) : Decidable (NoDataOut request) :=
  inferInstanceAs (Decidable (_ ∨ _))

/-- The last reply arms the stages of the request: it fits behind the response, the walk over the
response ends, and a request to the device is answered with no bytes. -/
structure ReplyCompletes (message : SlavePacket) (s : Master) : Prop where
  fits : FitsBehind s message
  walked : Walked (s.withResponse message) → WalkedThrough (s.withResponse message)
  empty : s.events.setup.direction ≠ 1 → FirstEmpty s message

instance (message : SlavePacket) (s : Master) : Decidable (ReplyCompletes message s) :=
  decidable_of_iff (FitsBehind s message ∧
    (Walked (s.withResponse message) → WalkedThrough (s.withResponse message)) ∧
    (s.events.setup.direction ≠ 1 → FirstEmpty s message))
    ⟨fun h => ⟨h.1, h.2.1, h.2.2⟩, fun h => ⟨h.fits, h.walked, h.empty⟩⟩

/-- A request without a data stage is not answered by a configuration that is walked. -/
theorem not_walked_of_noDataOut {s : Master} (h : NoDataOut s.events.setup)
    (hout : s.events.setup.direction ≠ 1) : ¬ Walked s := by
  intro hwalked
  have hlength : 9 < s.events.setup.wLength := hwalked.2.2
  rw [h.resolve_left hout] at hlength
  exact absurd hlength (by decide)

/-- What decides about the walk is the response, the setup packets and the allocator. -/
theorem walk_condition_congr {s t : Master} (hsetup : t.events.setup = s.events.setup)
    (haggregator : t.aggregator = s.aggregator) (hpacket : t.dcd.setupPacket = s.dcd.setupPacket)
    (hnext : t.dcd.nextBufferPtr = s.dcd.nextBufferPtr) :
    (Walked t → WalkedThrough t) ↔ (Walked s → WalkedThrough s) := by
  unfold Walked WalkedThrough Master.responseLen Master.visit
  rw [hsetup, haggregator, hpacket, hnext]

/-- What follows the last reply: the response is interpreted, and the status stage of a request from
device to host is armed. -/
def afterLastReply : MasterM Unit := do
  handleSetupResponse
  Program.update fun s =>
    { s with events := { s.events with setupResponseDir := .writingResponse } }
  let s ← Program.read
  Program.when (s.events.setup.direction = 1) (onDcd (dcdEdptXferNew 0x00 .null 0))

/-- The status stage of a request from device to host leaves the packet for the host alone. -/
theorem statusStage_armed {s : Master} (hs : s.Wired) (hin : s.events.setup.direction = 1) :
    Program.Outcome (onDcd (dcdEdptXferNew 0x00 .null 0)) s
      (fun _ t => StagesArmed s.events.setup t ↔ Offered (s.controlWord true)) fun _ => False := by
  refine .onPart (dcdEdptXferNew_empty false hs) (fun _ e he => ?_) fun _ h => h
  unfold StagesArmed
  rw [if_pos hin]
  have hword : e.memory.word (epBufCtrl 0 true) = s.controlWord true := he.2.other
  show Offered (e.memory.word (epBufCtrl 0 true)) ∧ _ ↔ _
  rw [hword]
  exact and_iff_left he.1

theorem afterLastReply_control {s : Master} (hs : s.Wired) (hdata : NoDataOut s.events.setup)
    (hoffered : Offered (s.controlWord true)) :
    Program.Outcome afterLastReply s
      (fun _ t => StagesArmed s.events.setup t ↔ (Walked s → WalkedThrough s) ∧
        (s.events.setup.direction ≠ 1 → ArmsBuffer false 0 (s.controlWord true)))
      (fun _ => ¬ (Walked s → WalkedThrough s)) := by
  refine .bind (handleSetupResponse_control hs) fun _ t ht => ?_
  refine .of_eq (Program.update_bind _ _ _) (.read_bind ?_)
  dsimp only
  have hsame : t.events.setup.direction = s.events.setup.direction := by rw [ht.setup]
  by_cases hin : s.events.setup.direction = 1
  · rw [Program.when_true (hsame.trans hin)]
    let passed : Master :=
      { t with events := { t.events with setupResponseDir := .writingResponse } }
    have hstatus := statusStage_armed (s := passed) ht.wired (hsame.trans hin)
    refine hstatus.mono (fun _ u hu => ?_) fun _ h => h.elim
    have hstages : StagesArmed t.events.setup u ↔ Offered (t.controlWord true) := hu
    rw [← ht.setup, hstages, ht.offered, and_iff_right hoffered]
    exact (and_iff_left fun hout => absurd (hsame.trans hin) hout).symm
  · rw [Program.when_false fun h => hin (hsame.symm.trans h)]
    have hquiet := not_walked_of_noDataOut hdata hin
    refine .pure ?_
    unfold StagesArmed Master.controlWord
    rw [if_neg hin, ht.quiet hquiet, hdata.resolve_left hin]
    simp [hquiet, hin]

/-- The last reply of the slave arms the stages exactly where it fits, is walked to its end, and is
empty for a request to the device. -/
theorem handleSetupData_completes {message : SlavePacket} {s : Master} (hs : s.Wired)
    (hread : message.payloadLength.toNat ≤ message.payload.length)
    (hlast : hasFlag message.eFlag MsgType.lastPacket) (hdata : NoDataOut s.events.setup) :
    ArmsStages s.events.setup (handleSetupData message) s ↔ ReplyCompletes message s := by
  have houtcome : Program.Outcome (handleSetupData message) s
      (fun _ t => StagesArmed s.events.setup t ↔ ReplyCompletes message s)
      (fun _ => ¬ ReplyCompletes message s) := by
    unfold handleSetupData
    rw [Program.when_true hlast]
    refine .bind ((registerResponse_control hs hread).mono (fun _ _ h => h)
      fun _ hnot h => hnot h.fits) ?_
    rintro _ t ⟨hfits, hregistered⟩
    obtain ⟨d, rfl⟩ := hregistered.collected
    have hdirection := hregistered.direction
    have hwalk := walk_condition_congr (s := s.withResponse message)
      (t := { s.withResponse message with dcd := d }) rfl rfl hdirection.setupPacket
      hdirection.nextBufferPtr
    have hword := hregistered.word
    have hafter := afterLastReply_control (s := { s.withResponse message with dcd := d })
      hdirection.wired hdata ⟨hword.avail, hword.full⟩
    rw [hwalk, hword.armsEmpty_iff] at hafter
    refine hafter.mono (fun _ u hu => hu.trans ⟨fun h => ⟨hfits, h.1, h.2⟩, fun h => ?_⟩) ?_
    · exact ⟨h.walked, h.empty⟩
    · exact fun _ hnot h => hnot h.walked
  constructor
  · rintro ⟨t, hrun, harmed⟩
    exact (houtcome.ok hrun).mp harmed
  · intro hcompletes
    cases hrun : handleSetupData message s with
    | ok value t => exact ⟨t, hrun, (houtcome.ok hrun).mpr hcompletes⟩
    | error reason t => exact absurd hcompletes (houtcome.error hrun)

/-! ## Requests that the master answers itself -/

/-- The request is answered in `dcd_event_setup_received_new`. -/
def AnsweredByMaster (request : ControlRequest) : Prop :=
  IsDeviceQualifier request ∨ IsSetReport request

instance (request : ControlRequest) : Decidable (AnsweredByMaster request) :=
  inferInstanceAs (Decidable (_ ∨ _))

/-- The answer arms one direction of endpoint 0 with a packet of length 0. -/
structure EmptyAnswer (dirIn : Bool) (s t : Master) : Prop where
  arms : ArmsBuffer (!dirIn) 0 (t.controlWord dirIn)
  other : t.controlWord (!dirIn) = s.controlWord (!dirIn)

/-- The transfer that answers a request, behind `reset_ep0_pid`. -/
theorem handleSetupReq_answered (dirIn : Bool) {s : Master} (hs : s.Wired)
    (hanswer : ∀ t, dcdEventSetupReceivedNew s.dcd.setupPacket t =
      onDcd (dcdEdptXferNew (controlAddress dirIn) .null 0)
        { t with calls := t.calls ++ [.setupReceived s.livePacket]
                 events := { t.events with setup := s.livePacket } }) :
    Program.Outcome handleSetupReq s (fun _ t => EmptyAnswer dirIn s t) fun _ => False := by
  have hwired : Wired (Program.final (resetEp0Pid s.dcd)) :=
    Rp2040.Wired.of_progress hs (resetEp0Pid_only_progress s.dcd)
  refine .of_eq (Program.bind_ok rfl) (.read_bind (.of_eq (hanswer _) ?_))
  exact .onPart (dcdEdptXferNew_empty dirIn hwired) (fun _ e he => ⟨he.1, he.2.other⟩) fun _ h => h

/-- The device qualifier is answered on endpoint 0 IN, SET_REPORT on endpoint 0 OUT. -/
theorem handleSetupReq_local {s : Master} (hs : s.Wired) (h : AnsweredByMaster s.livePacket) :
    Program.Outcome handleSetupReq s
      (fun _ t => EmptyAnswer (decide (IsDeviceQualifier s.livePacket)) s t) fun _ => False := by
  by_cases hqualifier : IsDeviceQualifier s.livePacket
  · rw [decide_eq_true hqualifier]
    have haddress : ¬ IsSetAddress s.livePacket :=
      fun h => absurd (hqualifier.1.symm.trans h) (by decide)
    refine handleSetupReq_answered true hs fun t => ?_
    show (if IsSetAddress s.livePacket then _ else if IsDeviceQualifier s.livePacket then _
      else _ : MasterM Unit) _ = _
    rw [if_neg haddress, if_pos hqualifier]
    rfl
  · rw [decide_eq_false hqualifier]
    have hreport := h.resolve_left hqualifier
    have haddress : ¬ IsSetAddress s.livePacket :=
      fun h => absurd (hreport.2.symm.trans h) (by decide)
    refine handleSetupReq_answered false hs fun t => ?_
    show (if IsSetAddress s.livePacket then _ else if IsDeviceQualifier s.livePacket then _
      else if IsSetReport s.livePacket then _ else _ : MasterM Unit) _ = _
    rw [if_neg haddress, if_neg hqualifier, if_pos hreport]
    rfl

/-- The other stage is armed already when the master answers a request itself: the status stage of a
device qualifier that is asked for, the data stage of one that is sent, and the status stage of a
SET_REPORT, which must have no data. -/
structure LocalCompletes (request : ControlRequest) (word : Bool → BitVec 32) : Prop where
  status : IsDeviceQualifier request → request.direction = 1 → ArmsBuffer true 0 (word false)
  data : IsDeviceQualifier request → request.direction ≠ 1 → 0 < request.wLength →
    AwaitsData (word false)
  report : IsSetReport request → request.wLength = 0 ∧ ArmsBuffer false 0 (word true)

theorem not_qualifier_and_report {request : ControlRequest} (h : IsDeviceQualifier request) :
    ¬ IsSetReport request := fun hreport => absurd (h.1.symm.trans hreport.2) (by decide)

/-- A buffer that is armed for a status stage does not await data. -/
theorem not_awaitsData_of_status {word : BitVec 32} (h : ArmsBuffer true 0 word) :
    ¬ AwaitsData word := fun hdata => hdata.2.2 (UInt16.toNat_inj.mp h.length)

/-- The stages are armed by the answer to a device qualifier request exactly where the other stage
is armed already. -/
theorem qualifier_stages {s t : Master} (h : IsDeviceQualifier s.livePacket)
    (ht : EmptyAnswer true s t) :
    StagesArmed s.livePacket t ↔ LocalCompletes s.livePacket s.controlWord := by
  have hother : t.controlWord false = s.controlWord false := ht.other
  have hoffered : Offered (t.controlWord true) := ⟨ht.arms.avail, ht.arms.full⟩
  unfold StagesArmed
  rw [hother]
  by_cases hin : s.livePacket.direction = 1
  · rw [if_pos hin, and_iff_right hoffered]
    constructor
    · intro hstatus
      exact ⟨fun _ _ => hstatus, fun _ hout => absurd hin hout,
        fun hreport => absurd hreport (not_qualifier_and_report h)⟩
    · exact fun hlocal => hlocal.status h hin
  · rw [if_neg hin, and_iff_left (show ArmsBuffer false 0 (t.controlWord true) from ht.arms)]
    constructor
    · intro hdata
      exact ⟨fun _ hdir => absurd hdir hin, fun _ _ => hdata,
        fun hreport => absurd hreport (not_qualifier_and_report h)⟩
    · exact fun hlocal => hlocal.data h hin

theorem setReport_direction {request : ControlRequest} (h : IsSetReport request) :
    request.direction ≠ 1 := by
  unfold ControlRequest.direction
  rw [h.1]
  decide

/-- The stages are armed by the answer to SET_REPORT exactly where it has no data and the status
stage is armed already. -/
theorem report_stages {s t : Master} (h : IsSetReport s.livePacket) (ht : EmptyAnswer false s t) :
    StagesArmed s.livePacket t ↔ LocalCompletes s.livePacket s.controlWord := by
  have hother : t.controlWord true = s.controlWord true := ht.other
  have hqualifier : ¬ IsDeviceQualifier s.livePacket := fun hq => not_qualifier_and_report hq h
  unfold StagesArmed
  rw [if_neg (setReport_direction h), hother]
  constructor
  · rintro ⟨hdata, hstatus⟩
    refine ⟨fun hq => absurd hq hqualifier, fun hq => absurd hq hqualifier, fun _ => ⟨?_, hstatus⟩⟩
    by_contra hlength
    exact not_awaitsData_of_status ht.arms (hdata (UInt16.pos_iff_ne_zero.mpr hlength))
  · intro hlocal
    obtain ⟨hlength, hstatus⟩ := hlocal.report h
    refine ⟨fun hpos => ?_, hstatus⟩
    rw [hlength] at hpos
    exact absurd hpos (by decide)

theorem handleSetupReq_completes {s : Master} (hs : s.Wired) (h : AnsweredByMaster s.livePacket) :
    ArmsStages s.livePacket handleSetupReq s ↔ LocalCompletes s.livePacket s.controlWord := by
  have houtcome := handleSetupReq_local hs h
  have hstages {t : Master} (ht : EmptyAnswer (decide (IsDeviceQualifier s.livePacket)) s t) :
      StagesArmed s.livePacket t ↔ LocalCompletes s.livePacket s.controlWord := by
    by_cases hqualifier : IsDeviceQualifier s.livePacket
    · rw [decide_eq_true hqualifier] at ht
      exact qualifier_stages hqualifier ht
    · rw [decide_eq_false hqualifier] at ht
      exact report_stages (h.resolve_left hqualifier) ht
  constructor
  · rintro ⟨t, hrun, harmed⟩
    exact (hstages (houtcome.ok hrun)).mp harmed
  · intro hlocal
    cases hrun : handleSetupReq s with
    | ok value t => exact ⟨t, hrun, (hstages (houtcome.ok hrun)).mpr hlocal⟩
    | error reason t => exact (houtcome.error hrun).elim

/-! ## Reachable states -/

/-- The master in which the setup branch of the interrupt handler runs. -/
def Core0.atSetup (m : Core0) : Master :=
  if m.busReset then Program.final (handleBusReset m.master) else m.master

theorem Core0.atSetup_wired {m : Core0} (hm : m.master.Wired) : m.atSetup.Wired := by
  unfold Core0.atSetup
  split
  · exact resetNonControlEndpoints_wired { m.master.dcd with devAddrCtrl := 0 } ⟨hm.own, hm.control⟩
  · exact hm

theorem Core0.atSetup_livePacket (m : Core0) : m.atSetup.livePacket = m.master.livePacket := by
  unfold Core0.atSetup
  split <;> rfl

/-- A bus reset leaves the registers of endpoint 0 alone. -/
theorem Core0.atSetup_controlWord (m : Core0) :
    m.atSetup.controlWord = m.master.controlWord := by
  funext dirIn
  unfold Core0.atSetup
  split
  · show (if 0x08 ≤ epBufCtrl 0 dirIn ∧ epBufCtrl 0 dirIn < 0x80 then 0
      else m.master.dcd.memory.word (epBufCtrl 0 dirIn)) = _
    refine if_neg fun h => ?_
    unfold epBufCtrl at h
    omega
  · rfl

/-- `handle_spi_slave_event` is about to handle the last reply to a request that the slave answers
and that has no OUT data stage. -/
structure HandlesLastReply (s : Master) (message : SpiMessage) (rest : SpiQueue) : Prop where
  registers : RegistersReply s message rest
  last : hasFlag message.eFlag MsgType.lastPacket
  forwarded : ¬ AnsweredByMaster s.events.setup
  noDataOut : NoDataOut s.events.setup

/-- The control transfer at hand is completed towards the host: the stages of a request that the
master answers itself are armed when its setup packet is handled, and those of another request when
the last reply is. -/
structure Completes (m : Core0) : Prop where
  own : AnsweredByMaster m.master.livePacket → ArmsStages m.master.livePacket handleSetupReq m.atSetup
  forwarded : ∀ message rest, HandlesLastReply m.master message rest →
    ArmsStages m.master.events.setup handleSpiSlaveEvent m.master

/-- When the transfer at hand is completed: for a request that the master answers itself, the other
stage is armed already; for another one, the last reply completes it. -/
structure CompletesWhen (m : Core0) : Prop where
  own : LocalCompletes m.master.livePacket m.master.controlWord
  forwarded : ∀ message rest, HandlesLastReply m.master message rest →
    ReplyCompletes (handlerPacket message) { m.master with rx := rest }

/-- In every reachable state the transfer at hand is completed exactly when the conditions are
met. -/
theorem transferCompleted_iff {romWord : BitVec 32} {events : List Event} {m : Core0}
    (hreach : Reaches romWord events m) : Completes m ↔ CompletesWhen m := by
  have hwired := hreach.wired
  have hown (h : AnsweredByMaster m.master.livePacket) :
      ArmsStages m.master.livePacket handleSetupReq m.atSetup ↔
        LocalCompletes m.master.livePacket m.master.controlWord := by
    rw [← m.atSetup_livePacket, ← m.atSetup_controlWord]
    exact handleSetupReq_completes (Core0.atSetup_wired hwired) (m.atSetup_livePacket ▸ h)
  have hreply {message : SpiMessage} {rest : SpiQueue}
      (h : HandlesLastReply m.master message rest) :
      ArmsStages m.master.events.setup handleSpiSlaveEvent m.master ↔
        ReplyCompletes (handlerPacket message) { m.master with rx := rest } := by
    have hdata := handlerPacket_data message
    have hread : (handlerPacket message).payloadLength.toNat ≤ message.payload.length := by
      rw [← hdata.2, hdata.1, List.length_dropLast]
      omega
    rw [← handleSetupData_completes (s := { m.master with rx := rest }) hwired hread h.last
      h.noDataOut]
    unfold ArmsStages
    rw [h.registers.calls]
  constructor
  · intro h
    refine ⟨?_, fun message rest hlast => (hreply hlast).mp (h.forwarded message rest hlast)⟩
    by_cases hlocal : AnsweredByMaster m.master.livePacket
    · exact (hown hlocal).mp (h.own hlocal)
    · exact ⟨fun hq => absurd (.inl hq) hlocal, fun hq => absurd (.inl hq) hlocal,
        fun hreport => absurd (.inr hreport) hlocal⟩
  · intro h
    refine ⟨fun hlocal => (hown hlocal).mpr h.own, fun message rest hlast => ?_⟩
    exact (hreply hlast).mpr (h.forwarded message rest hlast)

instance (request : ControlRequest) (s : Master) : Decidable (StagesArmed request s) :=
  inferInstanceAs (Decidable (ite _ _ _))

/-- The handler ends with the stages armed, as a test. -/
def armsStages (request : ControlRequest) (handler : MasterM Unit) (s : Master) : Bool :=
  match handler s with
  | .ok _ t => decide (StagesArmed request t)
  | .error _ _ => false

theorem armsStages_of {request : ControlRequest} {handler : MasterM Unit} {s : Master}
    (h : ArmsStages request handler s) : armsStages request handler s = true := by
  obtain ⟨t, hrun, harmed⟩ := h
  unfold armsStages
  rw [hrun]
  exact decide_eq_true harmed

/-- For a request that the slave answers, what decides is the reply at the head of `rx`. -/
theorem completesWhen_of_next {m : Core0} (hforwarded : ¬ AnsweredByMaster m.master.livePacket)
    (hreply : ∀ message ∈ (m.master.rx.dropWhile isString).items.head?,
      ReplyCompletes (handlerPacket message) m.master) : CompletesWhen m := by
  refine ⟨⟨fun h => absurd (.inl h) hforwarded, fun h => absurd (.inl h) hforwarded,
    fun h => absurd (.inr h) hforwarded⟩, fun message rest hlast => ?_⟩
  have hitems := Fifo.remove_eq_some.mp hlast.registers.taken
  obtain ⟨hfits, hwalked, hempty⟩ := hreply message (by rw [hitems]; rfl)
  exact ⟨hfits, hwalked, hempty⟩

/-- The slave has answered the request for a configuration, and the master has not handled the
reply. -/
def storageAnswered : List Event :=
  (fetchConfiguration storageConfiguration storageConfiguration_short).take 3

/-- The last reply is about to be handled, and completes the transfer. -/
theorem storageAnswered_completes :
    ∃ m message rest, Reaches 0 storageAnswered m ∧ HandlesLastReply m.master message rest ∧
      Completes m := by
  have hends : ∃ m, Reaches 0 storageAnswered m ∧
      m.master.events.setupResponseDir = .readingResponse ∧
      ¬ AnsweredByMaster m.master.livePacket ∧ ¬ AnsweredByMaster m.master.events.setup ∧
      NoDataOut m.master.events.setup ∧
      ∃ message ∈ (m.master.rx.dropWhile isString).items.head?,
        IsReply message ∧ hasFlag message.eFlag MsgType.isPacket ∧ message.payload ≠ [] ∧
        hasFlag message.eFlag MsgType.lastPacket ∧
        ReplyCompletes (handlerPacket message) m.master :=
    exists_reaches_of_any (by decide +kernel)
  obtain ⟨m, hreach, hreading, hlive, hforwarded, hdata, message, hmessage, hreply, hpacket,
    haddressed, hlast, hcompletes⟩ := hends
  cases hremove : (m.master.rx.dropWhile isString).remove with
  | none =>
      rw [Fifo.remove_eq_none.mp hremove] at hmessage
      cases hmessage
  | some taken =>
      obtain ⟨first, rest⟩ := taken
      rw [Fifo.remove_eq_some.mp hremove] at hmessage
      cases hmessage
      have hhandles : HandlesLastReply m.master message rest :=
        ⟨⟨hreading, hremove, hreply, hpacket, haddressed⟩, hlast, hforwarded, hdata⟩
      refine ⟨m, message, rest, hreach, hhandles,
        (transferCompleted_iff hreach).mpr (completesWhen_of_next hlive fun other hother => ?_)⟩
      rw [Fifo.remove_eq_some.mp hremove] at hother
      cases hother
      exact hcompletes

/-- The host asks for the device qualifier. -/
def askQualifier : ControlRequest := ⟨0x80, 6, 0x0600, 0, 10⟩

/-- The status stage of a request for the device qualifier is not armed. -/
theorem askQualifier_not_completed :
    ¬ ∀ romWord events m, Reaches romWord events m → Completes m := by
  intro h
  have hends : ∃ m, Reaches 0 [.hostSetup askQualifier] m ∧ AnsweredByMaster m.master.livePacket ∧
      armsStages m.master.livePacket handleSetupReq m.atSetup = false :=
    exists_reaches_of_any (by decide +kernel)
  obtain ⟨m, hreach, hlocal, hunarmed⟩ := hends
  have harmed := armsStages_of ((h 0 _ m hreach).own hlocal)
  rw [hunarmed] at harmed
  cases harmed

end UsbSec.Device
