import UsbSec.Host.ControlTransfer
import UsbSec.Host.Known

/-!
# The address of a control transfer

The stages behind the setup packet take their address from the copy in `epx`. The interrupt
handler starts at most one of them at a time, and behind the last one it starts nothing until the
next message from the master.
-/

namespace UsbSec.Host

open Library Usb Rp2040

/-! ## Transactions and their addresses -/

/-- The address in a word of `dev_addr_ctrl`. -/
def programmedAddress (word : BitVec 32) : UInt8 := ⟨(word &&& 0x7f#32).setWidth 8⟩

/-- The call starts a transaction. -/
def IsStart : Call → Prop
  | .setupSend _ | .edptXfer _ => True
  | _ => False

instance : DecidablePred IsStart
  | .setupSend _ | .edptXfer _ => .isTrue trivial
  | .xferComplete _ _ _ _ | .sendEvent _ | .transacted _ => .isFalse id

/-- The number of transactions that were started. -/
def starts (s : Slave) : Nat := s.calls.countP fun call => IsStart call

/-- Whether the last control transfer was answered with LAST_PACKET, behind one more call. -/
def answeredBy (before : Bool) : Call → Bool
  | .setupSend _ => false
  | .sendEvent message =>
      before || decide (hasFlag message.eFlag MsgType.lastPacket ∧
        hasFlag message.eFlag MsgType.setupData)
  | _ => before

/-- The last control transfer, if any, was answered with LAST_PACKET. -/
def answered (s : Slave) : Bool := s.calls.foldl answeredBy true

/-- The step from `s` to `t` starts no transaction, or one at the given address. -/
def StartsAt (address : UInt8) (s t : Slave) : Prop :=
  starts t = starts s ∧ t.hcd.devAddrCtrl = s.hcd.devAddrCtrl ∨
    starts t = starts s + 1 ∧ programmedAddress t.hcd.devAddrCtrl = address

/-! ## Steps that start nothing -/

theorem programmedAddress_low (devAddr number : UInt8) :
    programmedAddress (devAddr.toBitVec.setWidth 32 ||| number.toBitVec.setWidth 32 <<< 16) =
      devAddr &&& 0x7f := by
  have hhigh : number.toBitVec.setWidth 32 <<< 16 &&& 0x7f#32 = 0 := by
    ext i hi
    have hmask : ∀ i < 32, 16 ≤ i → (0x7f#32).getLsbD i = false := by decide
    by_cases hlow : i < 16
    · simp [hlow]
    · simp [← BitVec.getLsbD_eq_getElem, hmask i hi (by omega)]
  have hand (first second : BitVec 32) (hsecond : second &&& 0x7f#32 = 0) :
      (first ||| second) &&& 0x7f#32 = first &&& 0x7f#32 := by
    have hdistrib : (first ||| second) &&& 0x7f#32 =
        (first &&& 0x7f#32) ||| (second &&& 0x7f#32) := by
      ext i hi
      simp [Bool.and_or_distrib_right]
    rw [hdistrib, hsecond]
    simp
  unfold programmedAddress
  rw [hand _ _ hhigh]
  let low (a : UInt8) : UInt8 := ⟨(a.toBitVec.setWidth 32 &&& 0x7f#32).setWidth 8⟩
  exact forall_byte (fun a => low a = a &&& 0x7f) (by decide +kernel) devAddr

theorem starts_withCall (s : Slave) (call : Call) :
    starts (withCall s call) = starts s + if IsStart call then 1 else 0 := by
  unfold starts withCall
  rw [List.countP_append, List.countP_singleton]
  simp

theorem answered_withCall (s : Slave) (call : Call) :
    answered (withCall s call) = answeredBy (answered s) call := by
  unfold answered withCall
  rw [List.foldl_append]
  rfl

/-- Nothing is started, and what later transactions depend on is as before, `epx` apart. -/
structure Silent (s t : Slave) : Prop where
  starts : starts t = starts s
  answered : answered t = answered s
  devAddrCtrl : t.hcd.devAddrCtrl = s.hcd.devAddrCtrl
  level : t.level = s.level
  setup : t.setup = s.setup
  devAddr : t.devAddr = s.devAddr
  sieCtrl : t.hcd.sieCtrl = s.hcd.sieCtrl
  activeEp : t.hcd.activeEp = s.hcd.activeEp
  fixed : ∀ slot, (t.hcd.epPool slot).fixed = (s.hcd.epPool slot).fixed
  intEpCtrl : t.hcd.intEpCtrl = s.hcd.intEpCtrl
  bufStatus : ∀ bits, hasBits t.hcd.bufStatus bits = true → hasBits s.hcd.bufStatus bits = true

instance : IsPreorder Slave Silent where
  refl _ := ⟨rfl, rfl, rfl, rfl, rfl, rfl, rfl, rfl, fun _ => rfl, rfl, fun _ => id⟩
  trans _ _ _ h k :=
    ⟨k.starts.trans h.starts, k.answered.trans h.answered, k.devAddrCtrl.trans h.devAddrCtrl,
      k.level.trans h.level, k.setup.trans h.setup, k.devAddr.trans h.devAddr,
      k.sieCtrl.trans h.sieCtrl, k.activeEp.trans h.activeEp,
      fun slot => (k.fixed slot).trans (h.fixed slot), k.intEpCtrl.trans h.intEpCtrl,
      fun bits hbits => h.bufStatus bits (k.bufStatus bits hbits)⟩

/-- The same, with `epx` and what the controller reports of it. -/
structure Beside (s t : Slave) : Prop extends Silent s t where
  control : t.hcd.epPool epx = s.hcd.epPool epx
  pending : hasBits t.hcd.bufStatus (slotBit epx) = hasBits s.hcd.bufStatus (slotBit epx)
  transComplete : t.hcd.transComplete = s.hcd.transComplete

instance : IsPreorder Slave Beside where
  refl s := ⟨refl_of Silent s, rfl, rfl, rfl⟩
  trans _ _ _ h k := ⟨trans_of Silent h.toSilent k.toSilent, k.control.trans h.control,
    k.pending.trans h.pending, k.transComplete.trans h.transComplete⟩

/-- A call that does not start a transaction and is no reply to a control transfer. -/
theorem silent_withCall {call : Call} (hstart : ¬ IsStart call)
    (hreply : ∀ before, answeredBy before call = before) (s : Slave) :
    Silent s (withCall s call) := by
  refine ⟨?_, ?_, rfl, rfl, rfl, rfl, rfl, rfl, fun _ => rfl, rfl, fun _ => id⟩
  · rw [starts_withCall, if_neg hstart]
    rfl
  · rw [answered_withCall, hreply]

/-- Memory, lock and messages have no part in it. -/
theorem beside_memory (s : Slave) (memory : Memory) (value : Bool) (outbox : List SpiMessage) :
    Beside s { s with hcd := { s.hcd with memory := memory }, debugLock := value
                      outbox := outbox } :=
  ⟨⟨rfl, rfl, rfl, rfl, rfl, rfl, rfl, rfl, fun _ => rfl, rfl, fun _ => id⟩, rfl, rfl, rfl⟩

theorem beside_rule : DataRule Beside where
  fill s _ := beside_memory s _ s.debugLock s.outbox
  lock s value := beside_memory s s.hcd.memory value s.outbox
  record s call hother := by
    refine ⟨silent_withCall (fun hstart => ?_) (fun before => ?_) s, rfl, rfl, rfl⟩
    · cases call <;> first | exact hother trivial | exact hstart
    · cases call with
      | setupSend setup => exact absurd trivial hother
      | sendEvent message =>
          have hnot : ¬ (hasFlag message.eFlag MsgType.lastPacket ∧
              hasFlag message.eFlag MsgType.setupData) := fun h => hother h.2
          simp [answeredBy, hnot]
      | _ => rfl
  enqueue s _ := beside_memory s s.hcd.memory s.debugLock _

/-! ### Completions of data endpoints -/

/-- The slots whose bit is set hold data endpoints. -/
def DataSlots (status : BitVec 32) (s : Slave) : Prop :=
  ∀ slot ∈ interruptSlots, hasBits status (slotBit slot) = true →
    ¬ IsControl (s.hcd.epPool slot).epAddr

theorem Silent.epAddr {s t : Slave} (h : Silent s t) (slot : Nat) :
    (t.hcd.epPool slot).epAddr = (s.hcd.epPool slot).epAddr :=
  eq_of_fixed (fun _ => rfl) (h.fixed slot)

theorem DataSlots.of_silent {status : BitVec 32} {s t : Slave} (hs : DataSlots status s)
    (h : Silent s t) : DataSlots status t := by
  intro slot hslot hbit
  rw [h.epAddr slot]
  exact hs slot hslot hbit

/-- The step is beside the control endpoint if the slots whose bit is set hold data endpoints. -/
def BesideIf (status : BitVec 32) (s t : Slave) : Prop := DataSlots status s → Beside s t

instance (status : BitVec 32) : IsPreorder Slave (BesideIf status) where
  refl s _ := refl_of Beside s
  trans _ _ _ h k hs := by
    have hfirst := h hs
    exact trans_of Beside hfirst (k (hs.of_silent hfirst.toSilent))

theorem silent_onSlot {α : Type} (slot : Nat) {engine : Engine α}
    (hengine : Program.Moves Elsewhere engine) :
    Program.Moves Silent (onHcd (onSlot slot engine)) := by
  intro s
  have helsewhere := hengine ⟨s.hcd.epPool slot, s.hcd.memory⟩
  unfold onHcd onSlot
  rw [Program.final_onPart, Program.final_onPart]
  refine ⟨rfl, rfl, rfl, rfl, rfl, rfl, rfl, rfl, fun other => ?_, rfl, fun _ => id⟩
  show (Function.update s.hcd.epPool slot _ other).fixed = _
  by_cases hother : other = slot
  · rw [hother, Function.update_self]
    exact helsewhere.fixed
  · rw [Function.update_of_ne hother]

theorem beside_onSlot {α : Type} {slot : Nat} (hslot : slot ≠ epx) {engine : Engine α}
    (hengine : Program.Moves Elsewhere engine) :
    Program.Moves Beside (onHcd (onSlot slot engine)) := by
  intro s
  refine ⟨silent_onSlot slot hengine s, ?_, ?_, ?_⟩
  · unfold onHcd onSlot
    rw [Program.final_onPart, Program.final_onPart]
    exact Function.update_of_ne hslot.symm _ _
  · unfold onHcd onSlot
    rw [Program.final_onPart, Program.final_onPart]
  · unfold onHcd onSlot
    rw [Program.final_onPart, Program.final_onPart]

/-- Bits of `buf_status` are only cleared. -/
theorem silent_acknowledge (bit : BitVec 32) (s : Slave) :
    Silent s (withHcd s { s.hcd with bufStatus := s.hcd.bufStatus &&& ~~~bit }) :=
  ⟨rfl, rfl, rfl, rfl, rfl, rfl, rfl, rfl, fun _ => rfl, rfl, fun _ h => hasBits_of_and h⟩

theorem beside_handleBuffStatusBit {status : BitVec 32} {slot : Nat} (hslot : slot ∈ interruptSlots)
    (hbit : hasBits status (slotBit slot) = true) :
    Program.Moves (BesideIf status) (handleBuffStatusBit (slotBit slot) slot) := by
  have hne := interruptSlots_ne hslot
  refine .bind (fun s _ => ?_) fun _ => .bind (fun s _ => ?_) fun done => fun s hs => ?_
  · exact ⟨silent_acknowledge _ s, rfl, pending_cleared hslot _, rfl⟩
  · exact beside_onSlot hne hwEndpointXferContinue_elsewhere s
  · have hother := hs slot hslot hbit
    refine Program.Moves.bind (R := Beside) (.when ?_) (fun _ => ?_) s
    · exact beside_onSlot hne (hwEndpointResetTransferNew_moves elsewhere_rule)
    · exact beside_rule.hcdEventXferComplete hother _ _ _

theorem beside_handleInterruptBuffers {status remaining : BitVec 32}
    (hremaining : ∀ bits, hasBits remaining bits = true → hasBits status bits = true) :
    Program.Moves (BesideIf status) (handleInterruptBuffers interruptSlots remaining) :=
  handleInterruptBuffers_of (fun _ => beside_handleBuffStatusBit) hremaining

/-! ### Behind the response -/

/-- The response to the last setup packet is complete, or data was sent behind it. -/
def Later (s : Slave) : Prop := s.level ≠ 0 ∧ s.level ≠ 1

/-- The step starts nothing if the response is complete. -/
def SilentIf (s t : Slave) : Prop := Later s → Silent s t

instance : IsPreorder Slave SilentIf where
  refl s _ := refl_of Silent s
  trans _ _ _ h k hs := by
    have hfirst := h hs
    refine trans_of Silent hfirst (k ?_)
    unfold Later
    rw [hfirst.level]
    exact hs

theorem silent_hcdEventXferComplete (devAddr epAddr : UInt8) (xferredBytes : UInt16)
    (result : XferResult) :
    Program.Moves SilentIf (hcdEventXferComplete devAddr epAddr xferredBytes result) := by
  intro s hlater
  by_cases hcontrol : IsControl epAddr
  · let call : Call := .xferComplete epAddr s.level xferredBytes result
    have hcall : Silent s (withCall s call) := @silent_withCall call (fun h => h) (fun _ => rfl) s
    by_cases hresult : result = .success ∨ result = .more
    · have hrun : hcdEventXferComplete devAddr epAddr xferredBytes result s =
          .ok () (withCall s call) := by
        unfold hcdEventXferComplete
        refine (Program.require_bind hresult _ _ _).trans ?_
        rw [Program.read_bind, if_pos hcontrol, if_neg hlater.1, if_neg hlater.2]
        rfl
      rw [hrun]
      exact hcall
    · have hrun : hcdEventXferComplete devAddr epAddr xferredBytes result s =
          .error .assertion s := Program.require_stops hresult _ _ _
      rw [hrun]
      exact refl_of Silent s
  · exact (beside_rule.hcdEventXferComplete hcontrol _ _ _ s).toSilent

theorem silentIf_of_silent {α : Type} {program : SlaveM α} (h : Program.Moves Silent program) :
    Program.Moves SilentIf program := h.mono fun _ _ hsilent _ => hsilent

theorem silent_hwXferComplete (slot : Nat) (result : XferResult) :
    Program.Moves SilentIf (hwXferComplete slot result) := by
  have hreset := silent_onSlot slot (hwEndpointResetTransferNew_moves elsewhere_rule)
  refine .bind .read fun s => .bind (.when (silentIf_of_silent hreset)) fun _ => ?_
  exact silent_hcdEventXferComplete _ _ _ _

theorem silent_handleBuffStatusBit (bit : BitVec 32) (slot : Nat) :
    Program.Moves SilentIf (handleBuffStatusBit bit slot) := by
  have hcontinue := silent_onSlot slot hwEndpointXferContinue_elsewhere
  refine .bind (.update fun s _ => silent_acknowledge bit s) fun _ => ?_
  exact .bind (silentIf_of_silent hcontinue) fun _ => silent_hwXferComplete _ _

/-- Behind the response the interrupt handler starts nothing. -/
theorem silent_hcdRp2040Irq (causes : List Cause) (buffStatus transComplete : Bool) :
    Program.Moves SilentIf (hcdRp2040Irq causes buffStatus transComplete) := by
  have hepx : Program.Moves SilentIf handleEpxBuffer := by
    refine .bind .read fun s => ?_
    cases s.hcd.activeEp with
    | none => exact .stop _
    | some slot => exact silent_handleBuffStatusBit _ _
  have hloop (remaining : BitVec 32) :
      Program.Moves SilentIf (handleInterruptBuffers interruptSlots remaining) :=
    handleInterruptBuffers_of (fun _ _ _ => silent_handleBuffStatusBit _ _) fun _ => id
  have hbuffers : Program.Moves SilentIf hwHandleBuffStatus := by
    refine .bind .read fun s => .bind (.when hepx) fun _ => ?_
    exact .bind (hloop _) fun _ => .when (.stop _)
  refine .bind (.when hbuffers) fun _ => .bind (.when ?_) fun _ => handleCauses_moves causes
  refine .bind (.update fun s _ => ?_) fun _ => ?_
  · exact ⟨rfl, rfl, rfl, rfl, rfl, rfl, rfl, rfl, fun _ => rfl, rfl, fun _ => id⟩
  · exact .bind .read fun s => .when (silent_hwXferComplete _ _)

/-! ## The stages of a control transfer -/

/-- No transaction was started yet. -/
structure Fresh (s : Slave) : Prop where
  level : s.level = 0
  idle : hasBits s.hcd.sieCtrl sieCtrlStartTrans = false
  pending : hasBits s.hcd.bufStatus (slotBit epx) = false
  transComplete : s.hcd.transComplete = false

/-- The setup packet was started. -/
structure SettingUp (address : UInt8) (s : Slave) : Prop where
  level : s.level = 0
  activeEp : s.hcd.activeEp = some epx
  onEpx : OnEpx (s.hcd.epPool epx)
  epAddr : (s.hcd.epPool epx).epAddr = 0x00
  devAddr : (s.hcd.epPool epx).devAddr = address
  sending : hasBits s.hcd.sieCtrl sieCtrlSendSetup = true
  unanswered : answered s = false

/-- A packet of the response is taken. -/
structure Response (address : UInt8) (s : Slave) : Prop where
  level : s.level = 1
  read : (epxView s.hcd).Read
  devAddr : (s.hcd.epPool epx).devAddr = address
  unanswered : answered s = false

/-- The response is being read. -/
structure Responding (address : UInt8) (s : Slave) : Prop extends Response address s where
  whole : (s.hcd.epPool epx).isPartial = false

theorem Response.onEpx {address : UInt8} {s : Slave} (h : Response address s) :
    OnEpx (s.hcd.epPool epx) :=
  ⟨h.read.onEpx.bufferControl, h.read.onEpx.endpointControl, h.read.onEpx.hwDataBuf⟩

/-- What a stage of a control transfer leaves alone. -/
structure Framed (s t : Slave) : Prop where
  setup : t.setup = s.setup
  devAddr : t.devAddr = s.devAddr
  fixed : ∀ slot, slot ≠ epx → (t.hcd.epPool slot).fixed = (s.hcd.epPool slot).fixed
  intEpCtrl : t.hcd.intEpCtrl = s.hcd.intEpCtrl
  bufStatus : ∀ bits, hasBits t.hcd.bufStatus bits = true → hasBits s.hcd.bufStatus bits = true

instance : IsPreorder Slave Framed where
  refl _ := ⟨rfl, rfl, fun _ _ => rfl, rfl, fun _ => id⟩
  trans _ _ _ h k :=
    ⟨k.setup.trans h.setup, k.devAddr.trans h.devAddr,
      fun slot hslot => (k.fixed slot hslot).trans (h.fixed slot hslot),
      k.intEpCtrl.trans h.intEpCtrl, fun bits hbits => h.bufStatus bits (k.bufStatus bits hbits)⟩

theorem Silent.framed {s t : Slave} (h : Silent s t) : Framed s t :=
  ⟨h.setup, h.devAddr, fun slot _ => h.fixed slot, h.intEpCtrl, h.bufStatus⟩

/-- Nothing was started. -/
def StartsNone (s t : Slave) : Prop :=
  starts t = starts s ∧ t.hcd.devAddrCtrl = s.hcd.devAddrCtrl

theorem Silent.startsNone {s t : Slave} (h : Silent s t) : StartsNone s t :=
  ⟨h.starts, h.devAddrCtrl⟩

/-- The slave after a transfer on `epx` is started. -/
def xferOnEpx (devAddr epAddr : UInt8) (buffer : UserBuf) (buflen : UInt16) (s : Slave) : Slave :=
  withHcd (withCall s (.edptXfer epAddr)) (xferStarted devAddr epAddr buffer buflen s.hcd)

/-- What has begun when a transfer on `epx` is started. -/
structure Begun (address : UInt8) (s t : Slave) : Prop where
  starts : starts t = starts s + 1
  programmed : programmedAddress t.hcd.devAddrCtrl = address
  framed : Framed s t

theorem Begun.startsAt {address : UInt8} {s t : Slave} (h : Begun address s t) :
    StartsAt address s t := .inr ⟨h.starts, h.programmed⟩

theorem xferOnEpx_begun {devAddr : UInt8} (hlow : devAddr &&& 0x7f = devAddr) (epAddr : UInt8)
    (buffer : UserBuf) (buflen : UInt16) (s : Slave) :
    Begun devAddr s (xferOnEpx devAddr epAddr buffer buflen s) := by
  have hstarts := starts_withCall s (.edptXfer epAddr)
  refine ⟨hstarts, ?_, rfl, rfl, fun slot hslot => ?_, rfl, fun _ => id⟩
  · exact (programmedAddress_low devAddr (tuEdptNumber epAddr)).trans hlow
  · show ((xferStarted devAddr epAddr buffer buflen s.hcd).epPool slot).fixed = _
    rw [xferStarted_slots hslot]

theorem xferStarted_devAddr {h : Hcd} {devAddr : UInt8}
    (hsame : (h.epPool epx).devAddr = devAddr) (epAddr : UInt8) (buffer : UserBuf)
    (buflen : UInt16) :
    ((xferStarted devAddr epAddr buffer buflen h).epPool epx).devAddr = devAddr := by
  rw [xferStarted_epx]
  show (turnedChannel devAddr epAddr (epxChannel h)).ep.devAddr = devAddr
  unfold turnedChannel
  split
  · rfl
  · exact hsame

/-- A read that is started reads the response. -/
theorem readStarted_responding {address : UInt8} {s : Slave} (hlevel : s.level = 1)
    (hread : (epxView s.hcd).Read ∨ (s.hcd.epPool epx).epAddr = 0x00)
    (honEpx : OnEpx (s.hcd.epPool epx)) (hdevAddr : (s.hcd.epPool epx).devAddr = address)
    (hunanswered : answered s = false) : Responding address (readStarted address s) := by
  refine ⟨⟨hlevel, xferStarted_read hread honEpx _ _ _, xferStarted_devAddr hdevAddr _ _ _, ?_⟩, ?_⟩
  · exact (answered_withCall s _).trans hunanswered
  · let reading := xferStarted address 0x80 (.bugger 0) (responseLength s.setup) s.hcd
    show (reading.epPool epx).isPartial = false
    rw [xferStarted_epx]
    rfl

/-- The setup packet is sent: the read of the response is started. -/
theorem SettingUp.completes {address : UInt8} {s : Slave} (hs : SettingUp address s)
    (hlow : address &&& 0x7f = address) (xferredBytes : UInt16) (result : XferResult) :
    Program.Outcome (hcdEventXferComplete address 0x00 xferredBytes result) s
      (fun _ t => Responding address t ∧ Begun address s t) (StartsNone s) := by
  let called := withCall s (.xferComplete 0x00 s.level xferredBytes result)
  have hcall : Silent s called :=
    @silent_withCall (.xferComplete 0x00 s.level xferredBytes result) (fun h => h) (fun _ => rfl) s
  have hrun (h : result = .success ∨ result = .more) :
      hcdEventXferComplete address 0x00 xferredBytes result s =
        completeSetup address xferredBytes result called := by
    unfold hcdEventXferComplete
    refine (Program.require_bind h _ _ _).trans ?_
    rw [Program.read_bind, if_pos (by decide), if_pos hs.level]
    rfl
  by_cases hresult : result = .success ∨ result = .more
  · refine .of_eq (hrun hresult) (.require_bind (fun _ => .require_bind (fun _ => ?_) ?_) ?_)
    · let ready : Slave := { called with level := 1 }
      have hother : ¬ (s.hcd.epPool epx).epAddr = 0x80 := by
        rw [hs.epAddr]
        decide
      have hread : readResponse address ready = .ok () (readStarted address ready) :=
        readResponse_ok (s := ready) hs.onEpx (fun h => absurd h hother) address
      have hbegun : Begun address ready (readStarted address ready) := xferOnEpx_begun hlow _ _ _ _
      have hunanswered : answered ready = false := hcall.answered.trans hs.unanswered
      have hready : Framed s ready := ⟨rfl, rfl, fun _ _ => rfl, rfl, fun _ => id⟩
      refine .of_ok hread ⟨?_, ?_, hbegun.programmed, trans_of Framed hready hbegun.framed⟩
      · exact readStarted_responding rfl (.inr hs.epAddr) hs.onEpx hs.devAddr hunanswered
      · rw [hbegun.starts]
        exact congrArg (· + 1) hcall.starts
    · exact fun _ => hcall.startsNone
    · exact fun _ => hcall.startsNone
  · exact .of_error (Program.require_stops hresult _ _ _) (refl_of Silent s).startsNone

/-- The response is complete, and no setup packet is being sent. -/
structure Completed (s : Slave) : Prop where
  later : Later s
  sending : hasBits s.hcd.sieCtrl sieCtrlSendSetup = false

/-- What taking a packet of the response leads to. -/
structure Responded (address : UInt8) (s t : Slave) : Prop where
  next : Responding address t ∨ Completed t
  startsAt : StartsAt address s t
  framed : Framed s t

/-- A reply is handed over behind what the handler started. -/
theorem reply_begun {address : UInt8} {s t : Slave} (h : StartsAt address s t) (bugger : Buffer)
    (message : SpiMessage) : StartsAt address s (withReply t bugger message) := by
  have hstarts : starts (withReply t bugger message) = starts t :=
    starts_withCall (withHcd t (withBugger t.hcd bugger)) (.sendEvent message)
  unfold StartsAt
  rw [hstarts]
  exact h

/-- The last packet of the response: the status stage is started behind a read. -/
theorem Response.last {address : UInt8} {s : Slave} (hs : Response address s)
    (hlow : address &&& 0x7f = address) (xferredBytes : UInt16) :
    Program.Outcome (hcdEventXferComplete address 0x80 xferredBytes .success) s
      (fun _ t => Completed t ∧ StartsAt address s t ∧ Framed s t ∧
        (s.setup.direction ≠ 1 → StartsNone s t))
      (fun t => StartsAt address s t ∧ (s.setup.direction ≠ 1 → StartsNone s t)) := by
  refine .of_eq (hcdEventXferComplete_response hs.level (.inl rfl) address xferredBytes) ?_
  let called := withCall s (.xferComplete 0x80 1 xferredBytes .success)
  have hcall : Silent s called :=
    @silent_withCall (.xferComplete 0x80 1 xferredBytes .success) (fun h => h) (fun _ => rfl) s
  let ended : Slave := { called with level := 2, debugLock := false }
  have hended : Framed s ended := ⟨rfl, rfl, fun _ _ => rfl, rfl, fun _ => id⟩
  have hlater : (2 : UInt8) ≠ 0 ∧ (2 : UInt8) ≠ 1 := by decide
  show Program.Outcome (Program.when (s.setup.direction = 1) (startXfer address 0x00 .null 0) >>=
    fun _ => sendEventToMaster xferredBytes 0x80 (MsgType.lastPacket ||| MsgType.setupData))
    ended _ _
  by_cases hin : s.setup.direction = 1
  · have hother : (s.hcd.epPool epx).epAddr = 0x00 → (s.hcd.epPool epx).rx = false :=
      fun hzero => absurd (hs.read.epAddr.symm.trans hzero) (by decide)
    let started := xferOnEpx address 0x00 .null 0 ended
    have hxfer : startXfer address 0x00 .null 0 ended = .ok () started :=
      startXfer_ok (hcdEdptXfer_status (h := s.hcd) hs.onEpx hother address)
    have hbegun : Begun address ended started := xferOnEpx_begun hlow _ _ _ _
    have hstarts : StartsAt address s started :=
      .inr ⟨hbegun.starts.trans (congrArg (· + 1) hcall.starts), hbegun.programmed⟩
    rw [Program.when_true hin]
    refine .of_eq (Program.bind_ok hxfer) ((sendEventToMaster_outcome _ _ _ started).mono ?_ ?_)
    · rintro _ _ ⟨message, bugger, -, rfl⟩
      refine ⟨⟨hlater, ?_⟩, reply_begun hstarts _ _, ?_, fun hnot => absurd hin hnot⟩
      · exact (startDataFlags_bits s.hcd 0x00).2.1
      · refine trans_of Framed (trans_of Framed hended hbegun.framed) ?_
        exact ⟨rfl, rfl, fun _ _ => rfl, rfl, fun _ => id⟩
    · rintro _ rfl
      exact ⟨hstarts, fun hnot => absurd hin hnot⟩
  · have hnone : StartsNone s ended := ⟨hcall.starts, rfl⟩
    rw [Program.when_false hin]
    refine (sendEventToMaster_outcome xferredBytes 0x80 _ ended).mono ?_ ?_
    · rintro _ _ ⟨message, bugger, -, rfl⟩
      have hreply : StartsNone s (withReply ended bugger message) := by
        refine ⟨(starts_withCall (withHcd ended _) (.sendEvent message)).trans ?_, rfl⟩
        exact hnone.1
      exact ⟨⟨hlater, hs.read.sendSetup⟩, .inl hreply,
        ⟨rfl, rfl, fun _ _ => rfl, rfl, fun _ => id⟩, fun _ => hreply⟩
    · rintro _ rfl
      exact ⟨.inl hnone, fun _ => hnone⟩

/-- A packet of the response behind which more is expected: the read is started again. -/
theorem Response.more {address : UInt8} {s : Slave} (hs : Response address s)
    (hlow : address &&& 0x7f = address) (xferredBytes : UInt16) :
    Program.Outcome (hcdEventXferComplete address 0x80 xferredBytes .more) s
      (fun _ t => Responding address t ∧ StartsAt address s t ∧ Framed s t)
      (StartsAt address s) := by
  refine .of_eq (hcdEventXferComplete_response hs.level (.inr rfl) address xferredBytes) ?_
  let called := withCall s (.xferComplete 0x80 1 xferredBytes .more)
  have hcall : Silent s called :=
    @silent_withCall (.xferComplete 0x80 1 xferredBytes .more) (fun h => h) (fun _ => rfl) s
  show Program.Outcome (readResponse address >>= fun _ =>
    sendEventToMaster xferredBytes 0x80 MsgType.setupData) called _ _
  have hread : readResponse address called = .ok () (readStarted address called) :=
    readResponse_ok (s := called) hs.onEpx (fun _ => hs.read.rx) address
  have hbegun : Begun address called (readStarted address called) := xferOnEpx_begun hlow _ _ _ _
  have hstarts : StartsAt address s (readStarted address called) :=
    .inr ⟨hbegun.starts.trans (congrArg (· + 1) hcall.starts), hbegun.programmed⟩
  have hresponding : Responding address (readStarted address called) :=
    readStarted_responding hs.level (.inl hs.read) hs.onEpx hs.devAddr
      (hcall.answered.trans hs.unanswered)
  refine .of_eq (Program.bind_ok hread) ((sendEventToMaster_outcome _ _ _ _).mono ?_ ?_)
  · rintro _ _ ⟨message, bugger, hflag, rfl⟩
    refine ⟨⟨⟨hresponding.level, hresponding.read, hresponding.devAddr, ?_⟩, hresponding.whole⟩,
      reply_begun hstarts _ _, ?_⟩
    · refine (answered_withCall _ (.sendEvent message)).trans ?_
      have hunanswered : answered (readStarted address called) = false := hresponding.unanswered
      have hnot : ¬ hasFlag message.eFlag MsgType.lastPacket := by
        rw [hflag]
        decide
      show (answered (readStarted address called) || decide _) = false
      rw [hunanswered]
      simp [hnot]
    · refine trans_of Framed (trans_of Framed hcall.framed hbegun.framed) ?_
      exact ⟨rfl, rfl, fun _ _ => rfl, rfl, fun _ => id⟩
  · rintro _ rfl
    exact hstarts

/-! ## The EPX buffer -/

/-- Only the progress of `epx` changes: nothing is started, and the stage goes on. -/
theorem OnlyEpx.silent {s t : Slave} (h : OnlyEpx s t) : Silent s t := by
  obtain ⟨c, hfixed, rfl⟩ := h
  refine ⟨rfl, rfl, rfl, rfl, rfl, rfl, rfl, rfl, fun slot => ?_, rfl, fun _ => id⟩
  show (Function.update s.hcd.epPool epx c.ep slot).fixed = _
  by_cases hslot : slot = epx
  · rw [hslot, Function.update_self]
    exact hfixed
  · rw [Function.update_of_ne hslot]

theorem OnlyEpx.settingUp {address : UInt8} {s t : Slave} (h : OnlyEpx s t)
    (hs : SettingUp address s) : SettingUp address t := by
  have hsilent := h.silent
  have hfield {α : Type} (field : HwEndpoint → α) (hfield : ∀ ep, field ep.fixed = field ep) :
      field (t.hcd.epPool epx) = field (s.hcd.epPool epx) :=
    eq_of_fixed hfield (hsilent.fixed epx)
  have hshape := hfield HwEndpoint.shape fun _ => rfl
  refine ⟨hsilent.level.trans hs.level, hsilent.activeEp.trans hs.activeEp, ⟨?_, ?_, ?_⟩, ?_, ?_,
    ?_, hsilent.answered.trans hs.unanswered⟩
  · exact (congrArg Shape.bufferControl hshape).trans hs.onEpx.bufferControl
  · exact (congrArg Shape.endpointControl hshape).trans hs.onEpx.endpointControl
  · exact (congrArg Shape.hwDataBuf hshape).trans hs.onEpx.hwDataBuf
  · exact (hfield HwEndpoint.epAddr fun _ => rfl).trans hs.epAddr
  · exact (hfield HwEndpoint.devAddr fun _ => rfl).trans hs.devAddr
  · rw [hsilent.sieCtrl]
    exact hs.sending

theorem OnlyEpx.response {address : UInt8} {s t : Slave} (h : OnlyEpx s t)
    (hs : Response address s) : Response address t := by
  have hsilent := h.silent
  have hdevAddr : (t.hcd.epPool epx).devAddr = (s.hcd.epPool epx).devAddr :=
    eq_of_fixed (fun _ => rfl) (hsilent.fixed epx)
  exact ⟨hsilent.level.trans hs.level, h.read hs.read, hdevAddr.trans hs.devAddr,
    hsilent.answered.trans hs.unanswered⟩

theorem epxAcknowledged_silent (s : Slave) : Silent s (epxAcknowledged s) :=
  silent_acknowledge (slotBit epx) s

/-- What was started behind a silent step. -/
theorem StartsAt.after {address : UInt8} {s middle t : Slave} (h : StartsAt address middle t)
    (hsilent : Silent s middle) : StartsAt address s t := by
  unfold StartsAt at h ⊢
  rwa [hsilent.starts, hsilent.devAddrCtrl] at h

/-- What was started before a silent step. -/
theorem StartsAt.before {address : UInt8} {s middle t : Slave} (h : StartsAt address s middle)
    (hsilent : Silent middle t) : StartsAt address s t := by
  unfold StartsAt at h ⊢
  rwa [hsilent.starts, hsilent.devAddrCtrl]

theorem hwEndpointXferContinue_ends (c : Channel) :
    Program.Outcome (hwEndpointXferContinue .slave) c (fun _ _ => True) fun _ => True :=
  .of_moves hwEndpointXferContinue_elsewhere (fun _ _ _ => trivial) fun _ _ => trivial

/-- A completion while the setup packet is being sent is taken for the one of the setup packet. -/
theorem SettingUp.handleEpxBuffer {address : UInt8} {s : Slave} (hs : SettingUp address s)
    (hlow : address &&& 0x7f = address) :
    Program.Outcome handleEpxBuffer s
      (fun _ t => Responding address t ∧ StartsAt address s t ∧ Framed s t)
      (StartsAt address s) := by
  have hacknowledged : SettingUp address (epxAcknowledged s) :=
    ⟨hs.level, hs.activeEp, hs.onEpx, hs.epAddr, hs.devAddr, hs.sending, hs.unanswered⟩
  refine handleEpxBuffer_control hs.activeEp (hwEndpointXferContinue_ends _) ?_ ?_
  · intro done t bytes _ ht
    have hsilent := trans_of Silent (epxAcknowledged_silent s) ht.silent
    rw [hs.devAddr, hs.epAddr]
    refine ((ht.settingUp hacknowledged).completes hlow bytes _).mono ?_ ?_
    · rintro _ u ⟨hresponding, hbegun⟩
      exact ⟨hresponding, hbegun.startsAt.after hsilent,
        trans_of Framed hsilent.framed hbegun.framed⟩
    · exact fun _ hnone => StartsAt.after (.inl hnone) hsilent
  · exact fun t ht => .inl (trans_of Silent (epxAcknowledged_silent s) ht.silent).startsNone

/-- A packet of the response goes on with the read, or ends it. -/
theorem Responding.handleEpxBuffer {address : UInt8} {s : Slave} (hs : Responding address s)
    (hlow : address &&& 0x7f = address) :
    Program.Outcome handleEpxBuffer s (fun _ t => Responded address s t)
      (StartsAt address s) := by
  have hread : (epxView (epxAcknowledged s).hcd).Read :=
    ⟨hs.read.activeEp, hs.read.onEpx, hs.read.epAddr, hs.read.rx, hs.read.sendSetup,
      hs.read.sendData⟩
  have hacknowledged : Response address (epxAcknowledged s) :=
    ⟨hs.level, hread, hs.devAddr, hs.unanswered⟩
  refine handleEpxBuffer_control hs.read.activeEp (hwEndpointXferContinue_ends _) ?_ ?_
  · intro done t bytes _ ht
    have hsilent := trans_of Silent (epxAcknowledged_silent s) ht.silent
    have hresponse := ht.response hacknowledged
    rw [hs.devAddr, show (s.hcd.epPool epx).epAddr = 0x80 from hs.read.epAddr]
    cases done with
    | true =>
        refine (hresponse.last hlow bytes).mono ?_ fun _ h => h.1.after hsilent
        rintro _ u ⟨hcompleted, hstarts, hframed, -⟩
        exact ⟨.inr hcompleted, hstarts.after hsilent, trans_of Framed hsilent.framed hframed⟩
    | false =>
        refine (hresponse.more hlow bytes).mono ?_ fun _ h => h.after hsilent
        rintro _ u ⟨hresponding, hstarts, hframed⟩
        exact ⟨.inl hresponding, hstarts.after hsilent, trans_of Framed hsilent.framed hframed⟩
  · exact fun t ht => .inl (trans_of Silent (epxAcknowledged_silent s) ht.silent).startsNone

/-- The empty packet of a status stage has arrived, and its completion is to be handled. -/
structure StatusArrived (address : UInt8) (s : Slave) : Prop extends Responding address s where
  direction : s.setup.direction ≠ 1
  pending : hasBits s.hcd.bufStatus (slotBit epx) = true
  empty : bufLen (s.hcd.memory.word epxBufCtrl) = 0
  idle : hasBits s.hcd.sieCtrl sieCtrlStartTrans = false

/-- An empty packet ends a read, whatever the packet size is. -/
theorem hwEndpointXferContinue_empty {c : Channel} (hrx : c.ep.rx = true)
    (hwhole : c.ep.isPartial = false)
    (hempty : bufLen (c.memory.readWord c.ep.bufferControl) = 0) :
    Program.Outcome (hwEndpointXferContinue .slave) c (fun done _ => done = true)
      fun _ => True := by
  have hshort (size : UInt16) : IsShort 0 size := by
    by_cases hzero : size = 0
    · exact .inr hzero
    · exact .inl (UInt16.pos_iff_ne_zero.mpr hzero)
  have hsync : Program.Outcome (syncEpBuffer .slave) c (fun _ d => d.ep.remainingLen = 0)
      fun _ => True := by
    have hreceive : Program.Moves Elsewhere (syncReceived .slave
        (c.memory.readWord c.ep.bufferControl) (bufLen (c.memory.readWord c.ep.bufferControl))) :=
      syncReceived_moves elsewhere_rule _ _ _
    have hnot : ¬ c.ep.rx = false := by simp [hrx]
    unfold syncEpBuffer
    refine .read_bind ?_
    dsimp only
    rw [if_neg hnot]
    refine .bind (.of_moves hreceive (fun _ _ _ => trivial) fun _ _ => trivial) fun _ d _ => ?_
    refine .read_bind ?_
    rw [hempty, Program.when_true (hshort _)]
    exact .of_ok rfl rfl
  unfold hwEndpointXferContinue
  refine .read_bind ?_
  rw [hwhole]
  refine .bind hsync fun _ d hd => .read_bind (.ite (fun _ => trivial) fun _ => ?_)
  rw [if_pos hd]
  exact .pure rfl

/-- Behind the status stage nothing more is started. -/
theorem StatusArrived.handleEpxBuffer {address : UInt8} {s : Slave} (hs : StatusArrived address s)
    (hlow : address &&& 0x7f = address) :
    Program.Outcome handleEpxBuffer s (fun _ t => Completed t ∧ StartsNone s t ∧ Framed s t)
      (StartsNone s) := by
  have hread : (epxView (epxAcknowledged s).hcd).Read :=
    ⟨hs.read.activeEp, hs.read.onEpx, hs.read.epAddr, hs.read.rx, hs.read.sendSetup,
      hs.read.sendData⟩
  have hacknowledged : Response address (epxAcknowledged s) :=
    ⟨hs.level, hread, hs.devAddr, hs.unanswered⟩
  have hempty : bufLen ((epxChannel s.hcd).memory.readWord (epxChannel s.hcd).ep.bufferControl) =
      0 := by
    show bufLen (s.hcd.memory.readWord (s.hcd.epPool epx).bufferControl) = 0
    rw [hs.onEpx.bufferControl]
    exact hs.empty
  refine handleEpxBuffer_control hs.read.activeEp
    (hwEndpointXferContinue_empty (c := epxChannel s.hcd) hs.read.rx hs.whole hempty) ?_ ?_
  · rintro _ t bytes rfl ht
    have hsilent := trans_of Silent (epxAcknowledged_silent s) ht.silent
    have hnot : t.setup.direction ≠ 1 := by
      rw [hsilent.setup]
      exact hs.direction
    have hafter {u : Slave} (h : StartsNone t u) : StartsNone s u :=
      ⟨h.1.trans hsilent.starts, h.2.trans hsilent.devAddrCtrl⟩
    rw [hs.devAddr, show (s.hcd.epPool epx).epAddr = 0x80 from hs.read.epAddr]
    refine ((ht.response hacknowledged).last hlow bytes).mono ?_ fun _ h => hafter (h.2 hnot)
    rintro _ u ⟨hcompleted, -, hframed, hnone⟩
    exact ⟨hcompleted, hafter (hnone hnot), trans_of Framed hsilent.framed hframed⟩
  · exact fun t ht => (trans_of Silent (epxAcknowledged_silent s) ht.silent).startsNone

/-! ## The interrupt handler -/

/-- What the EPX buffer leads to lasts while the buffers of data endpoints are handled. -/
theorem hwHandleBuffStatus_of {s : Slave} {P E : Slave → Prop}
    (hdata : DataSlots s.hcd.bufStatus s)
    (hepx : hasBits s.hcd.bufStatus (slotBit epx) = true →
      Program.Outcome handleEpxBuffer s (fun _ t => P t ∧ Framed s t) E)
    (hidle : hasBits s.hcd.bufStatus (slotBit epx) = false → P s)
    (hkept : ∀ t u, Beside t u → P t → P u) (hstops : ∀ t, P t → E t) :
    Program.Outcome hwHandleBuffStatus s (fun _ t => P t ∧ Framed s t) E := by
  have hloop : Program.Moves (BesideIf s.hcd.bufStatus)
      (handleInterruptBuffers interruptSlots (s.hcd.bufStatus &&& ~~~slotBit epx)) :=
    beside_handleInterruptBuffers fun _ h => hasBits_of_and h
  have hfirst : Program.Outcome (Program.when (hasBits s.hcd.bufStatus (slotBit epx))
      handleEpxBuffer) s (fun _ t => P t ∧ Framed s t) E := by
    refine .when hepx fun hnot => ⟨hidle ?_, refl_of Framed s⟩
    simpa using hnot
  unfold hwHandleBuffStatus
  refine .read_bind (.bind hfirst ?_)
  rintro _ t ⟨ht, hframed⟩
  have hslots : DataSlots s.hcd.bufStatus t := by
    intro slot hslot hbit
    have hsame : (t.hcd.epPool slot).epAddr = (s.hcd.epPool slot).epAddr :=
      eq_of_fixed (fun _ => rfl) (hframed.fixed slot (interruptSlots_ne hslot))
    rw [hsame]
    exact hdata slot hslot hbit
  have hbeside (u : Slave) (hu : BesideIf s.hcd.bufStatus t u) : P u ∧ Framed s u := by
    have hkeeps := hu hslots
    exact ⟨hkept t u hkeeps ht, trans_of Framed hframed hkeeps.toSilent.framed⟩
  refine .bind (P := fun _ u => P u ∧ Framed s u) ?_ fun _ u hu => ?_
  · exact .of_moves hloop (fun _ u hu => hbeside u hu) fun u hu => hstops u (hbeside u hu).1
  · exact .when (fun _ => .stop (hstops u hu.1)) fun _ => hu

/-- The handler takes the buffers, `TRANS_COMPLETE` and the other causes in turn. -/
theorem hcdRp2040Irq_of {s : Slave} {P Q E : Slave → Prop}
    (hdata : DataSlots s.hcd.bufStatus s)
    (hepx : hasBits s.hcd.bufStatus (slotBit epx) = true →
      Program.Outcome handleEpxBuffer s (fun _ t => P t ∧ Framed s t) E)
    (hidle : hasBits s.hcd.bufStatus (slotBit epx) = false → P s)
    (hkept : ∀ t u, Beside t u → P t → P u)
    (htrans : ∀ t, P t → s.hcd.transComplete = true →
      Program.Outcome hwTransComplete (withHcd t { t.hcd with transComplete := false })
        (fun _ u => Q u ∧ Framed t u) E)
    (hskipped : ∀ t, P t → s.hcd.transComplete = false → Q t)
    (hstops : ∀ t, P t → E t) (hends : ∀ t, Q t → E t) (causes : List Cause) :
    Program.Outcome (hcdRp2040Irq causes (s.hcd.bufStatus != 0) s.hcd.transComplete) s
      (fun _ t => Q t ∧ Framed s t) E := by
  have hnone (hzero : ¬ (s.hcd.bufStatus != 0) = true) :
      hasBits s.hcd.bufStatus (slotBit epx) = false := by
    have hclear : s.hcd.bufStatus = 0 := by simpa using hzero
    rw [hclear]
    decide
  refine .bind (.when (fun _ => hwHandleBuffStatus_of hdata hepx hidle hkept hstops)
    fun hzero => ⟨hidle (hnone hzero), refl_of Framed s⟩) ?_
  rintro _ t ⟨ht, hframed⟩
  refine .bind (P := fun _ u => Q u ∧ Framed s u) (.when (fun hcomplete => ?_) fun hnot => ?_) ?_
  · refine .of_eq (Program.update_bind _ _ _) ((htrans t ht hcomplete).mono ?_ fun _ => id)
    exact fun _ u hu => ⟨hu.1, trans_of Framed hframed hu.2⟩
  · exact ⟨hskipped t ht (by simpa using hnot), hframed⟩
  · rintro _ u hu
    refine .of_moves (R := Program.Same id) (handleCauses_moves causes) ?_ ?_
    · intro _ v hv
      rw [show v = u from hv]
      exact hu
    · intro v hv
      rw [show v = u from hv]
      exact hends u hu.1

/-- `TRANS_COMPLETE` means nothing unless a setup packet is being sent. -/
theorem hwTransComplete_ignored {s : Slave} (h : hasBits s.hcd.sieCtrl sieCtrlSendSetup = false) :
    hwTransComplete s = .ok () s := by
  unfold hwTransComplete
  rw [Program.read_bind, Program.when_false (by simp [h])]
  rfl

/-- Nothing is to be started by the interrupt handler. -/
def Resting (s : Slave) : Prop := Fresh s ∨ Later s

/-- A stage of a control transfer is to be started by the interrupt handler. -/
def Early (address : UInt8) (s : Slave) : Prop := SettingUp address s ∨ Responding address s

theorem Beside.fresh {s t : Slave} (h : Beside s t) (hs : Fresh s) : Fresh t := by
  refine ⟨h.level.trans hs.level, ?_, h.pending.trans hs.pending,
    h.transComplete.trans hs.transComplete⟩
  rw [h.sieCtrl]
  exact hs.idle

theorem Beside.settingUp {address : UInt8} {s t : Slave} (h : Beside s t)
    (hs : SettingUp address s) : SettingUp address t := by
  refine ⟨h.level.trans hs.level, h.activeEp.trans hs.activeEp, ?_, ?_, ?_, ?_,
    h.answered.trans hs.unanswered⟩
  · rw [h.control]
    exact hs.onEpx
  · rw [h.control]
    exact hs.epAddr
  · rw [h.control]
    exact hs.devAddr
  · rw [h.sieCtrl]
    exact hs.sending

theorem Beside.responding {address : UInt8} {s t : Slave} (h : Beside s t)
    (hs : Responding address s) : Responding address t := by
  have hread : (epxView t.hcd).Read := by
    refine ⟨h.activeEp.trans hs.read.activeEp, ?_, ?_, ?_, ?_, ?_⟩
    · show OnEpx (withoutSize (t.hcd.epPool epx))
      rw [h.control]
      exact hs.read.onEpx
    · show (t.hcd.epPool epx).epAddr = 0x80
      rw [h.control]
      exact hs.read.epAddr
    · show (t.hcd.epPool epx).rx = true
      rw [h.control]
      exact hs.read.rx
    · show hasBits t.hcd.sieCtrl sieCtrlSendSetup = false
      rw [h.sieCtrl]
      exact hs.read.sendSetup
    · show hasBits t.hcd.sieCtrl sieCtrlSendData = false
      rw [h.sieCtrl]
      exact hs.read.sendData
  refine ⟨⟨h.level.trans hs.level, hread, ?_, h.answered.trans hs.unanswered⟩, ?_⟩
  · rw [h.control]
    exact hs.devAddr
  · rw [h.control]
    exact hs.whole

theorem Silent.completed {s t : Slave} (h : Silent s t) (hs : Completed s) : Completed t := by
  refine ⟨?_, ?_⟩
  · unfold Later
    rw [h.level]
    exact hs.later
  · rw [h.sieCtrl]
    exact hs.sending

/-- The flag of `TRANS_COMPLETE` has no part in the later stages. -/
theorem framed_transComplete (s : Slave) :
    Framed s (withHcd s { s.hcd with transComplete := false }) :=
  ⟨rfl, rfl, fun _ _ => rfl, rfl, fun _ => id⟩

/-- The completion of the setup packet is reported with `TRANS_COMPLETE`. -/
theorem SettingUp.hwTransComplete {address : UInt8} {s : Slave} (hs : SettingUp address s)
    (hlow : address &&& 0x7f = address) :
    Program.Outcome hwTransComplete s (fun _ t => Responding address t ∧ Begun address s t)
      (StartsNone s) := by
  refine .read_bind ?_
  rw [Program.when_true hs.sending]
  refine .read_bind (.of_eq (Program.bind_ok (reset_epx s)) ?_)
  rw [hs.devAddr, hs.epAddr]
  have honly : OnlyEpx s (withEpx s { epxChannel s.hcd with
      ep := (s.hcd.epPool epx).resetTransfer }) := ⟨_, rfl, rfl⟩
  refine ((honly.settingUp hs).completes hlow (s.hcd.epPool epx).xferredLen .success).mono ?_ ?_
  · rintro _ t ⟨hresponding, hbegun⟩
    exact ⟨hresponding, hbegun.starts.trans (congrArg (· + 1) honly.silent.starts),
      hbegun.programmed, trans_of Framed honly.silent.framed hbegun.framed⟩
  · rintro t ⟨hstarts, hword⟩
    exact ⟨hstarts.trans honly.silent.starts, hword.trans honly.silent.devAddrCtrl⟩

/-- The interrupt handler starts nothing when no stage is to be started. -/
theorem Resting.hcdRp2040Irq {s : Slave} (hs : Resting s) (hdata : DataSlots s.hcd.bufStatus s)
    (causes : List Cause) :
    Program.Outcome (hcdRp2040Irq causes (s.hcd.bufStatus != 0) s.hcd.transComplete) s
      (fun _ t => (Resting t ∧ StartsNone s t) ∧ Framed s t) (StartsNone s) := by
  rcases hs with hfresh | hlater
  · refine hcdRp2040Irq_of (P := fun t => Fresh t ∧ StartsNone s t) hdata (fun hset => ?_)
      (fun _ => ⟨hfresh, rfl, rfl⟩) (fun t u h ht => ⟨h.fresh ht.1, ?_⟩) (fun t _ hset => ?_)
      (fun t ht _ => ⟨.inl ht.1, ht.2⟩) (fun t ht => ht.2) (fun t ht => ht.2) causes
    · cases hfresh.pending.symm.trans hset
    · exact ⟨h.starts.trans ht.2.1, h.devAddrCtrl.trans ht.2.2⟩
    · cases hfresh.transComplete.symm.trans hset
  · refine .of_moves (silent_hcdRp2040Irq _ _ _) (fun _ t ht => ?_) fun t ht => ?_
    · have hsilent := ht hlater
      refine ⟨⟨.inr ?_, hsilent.startsNone⟩, hsilent.framed⟩
      unfold Later
      rw [hsilent.level]
      exact hlater
    · exact (ht hlater).startsNone

/-- The interrupt handler starts the next stage of a control transfer, or nothing. -/
theorem Early.hcdRp2040Irq {address : UInt8} {s : Slave} (hs : Early address s)
    (hlow : address &&& 0x7f = address) (hdata : DataSlots s.hcd.bufStatus s)
    (causes : List Cause) :
    Program.Outcome (hcdRp2040Irq causes (s.hcd.bufStatus != 0) s.hcd.transComplete) s
      (fun _ t => ((Early address t ∨ Resting t) ∧ StartsAt address s t) ∧ Framed s t)
      (StartsAt address s) := by
  have hignored {t : Slave} (hsend : hasBits t.hcd.sieCtrl sieCtrlSendSetup = false)
      (hstage : Early address (withHcd t { t.hcd with transComplete := false }) ∨
        Resting (withHcd t { t.hcd with transComplete := false }))
      (hstarts : StartsAt address s t) :
      Program.Outcome hwTransComplete (withHcd t { t.hcd with transComplete := false })
        (fun _ u => ((Early address u ∨ Resting u) ∧ StartsAt address s u) ∧ Framed t u)
        (StartsAt address s) :=
    .of_ok (hwTransComplete_ignored hsend) ⟨⟨hstage, hstarts⟩, framed_transComplete t⟩
  have hreading {t : Slave} (ht : Responding address t) :
      Responding address (withHcd t { t.hcd with transComplete := false }) :=
    ⟨⟨ht.level, ⟨ht.read.activeEp, ht.read.onEpx, ht.read.epAddr, ht.read.rx, ht.read.sendSetup,
      ht.read.sendData⟩, ht.devAddr, ht.unanswered⟩, ht.whole⟩
  rcases hs with hsetup | hresponding
  · refine hcdRp2040Irq_of
      (P := fun t => SettingUp address t ∧ StartsNone s t ∨
        Responding address t ∧ StartsAt address s t) hdata
      (fun _ => ?_) (fun _ => .inl ⟨hsetup, rfl, rfl⟩) (fun t u h ht => ?_) (fun t ht _ => ?_)
      (fun t ht _ => ?_) (fun t ht => ?_) (fun t ht => ht.2) causes
    · refine (hsetup.handleEpxBuffer hlow).mono ?_ fun _ => id
      exact fun _ t ht => ⟨.inr ⟨ht.1, ht.2.1⟩, ht.2.2⟩
    · rcases ht with ⟨hsetting, hstarts⟩ | ⟨hreads, hstarts⟩
      · exact .inl ⟨h.settingUp hsetting, h.starts.trans hstarts.1, h.devAddrCtrl.trans hstarts.2⟩
      · exact .inr ⟨h.responding hreads, hstarts.before h.toSilent⟩
    · rcases ht with ⟨hsetting, hstarts⟩ | ⟨hreads, hstarts⟩
      · let cleared := withHcd t { t.hcd with transComplete := false }
        have hcleared : SettingUp address cleared :=
          ⟨hsetting.level, hsetting.activeEp, hsetting.onEpx, hsetting.epAddr, hsetting.devAddr,
            hsetting.sending, hsetting.unanswered⟩
        refine (hcleared.hwTransComplete hlow).mono ?_ ?_
        · rintro _ u ⟨hreads, hbegun⟩
          refine ⟨⟨.inl (.inr hreads), .inr ⟨?_, hbegun.programmed⟩⟩, ?_⟩
          · exact hbegun.starts.trans (congrArg (· + 1) hstarts.1)
          · exact trans_of Framed (framed_transComplete t) hbegun.framed
        · exact fun u hu => .inl ⟨hu.1.trans hstarts.1, hu.2.trans hstarts.2⟩
      · exact hignored hreads.read.sendSetup (.inl (.inr (hreading hreads))) hstarts
    · rcases ht with ⟨hsetting, hstarts⟩ | ⟨hreads, hstarts⟩
      · exact ⟨.inl (.inl hsetting), .inl hstarts⟩
      · exact ⟨.inl (.inr hreads), hstarts⟩
    · rcases ht with ⟨-, hstarts⟩ | ⟨-, hstarts⟩
      · exact .inl hstarts
      · exact hstarts
  · refine hcdRp2040Irq_of
      (P := fun t => (Responding address t ∨ Completed t) ∧ StartsAt address s t) hdata
      (fun _ => ?_) (fun _ => ⟨.inl hresponding, .inl ⟨rfl, rfl⟩⟩) (fun t u h ht => ?_)
      (fun t ht _ => ?_) (fun t ht _ => ?_) (fun t ht => ht.2) (fun t ht => ht.2) causes
    · refine (hresponding.handleEpxBuffer hlow).mono ?_ fun _ => id
      exact fun _ t ht => ⟨⟨ht.next, ht.startsAt⟩, ht.framed⟩
    · exact ⟨ht.1.imp h.responding h.toSilent.completed, ht.2.before h.toSilent⟩
    · rcases ht with ⟨hreads | hcompleted, hstarts⟩
      · exact hignored hreads.read.sendSetup (.inl (.inr (hreading hreads))) hstarts
      · exact hignored hcompleted.sending (.inr (.inr hcompleted.later)) hstarts
    · rcases ht with ⟨hreads | hcompleted, hstarts⟩
      · exact ⟨.inl (.inr hreads), hstarts⟩
      · exact ⟨.inr (.inr hcompleted.later), hstarts⟩

/-- Behind the status stage of a transfer towards the device the handler starts nothing. -/
theorem StatusArrived.hcdRp2040Irq {address : UInt8} {s : Slave} (hs : StatusArrived address s)
    (hlow : address &&& 0x7f = address) (hdata : DataSlots s.hcd.bufStatus s)
    (causes : List Cause) :
    Program.Outcome (hcdRp2040Irq causes (s.hcd.bufStatus != 0) s.hcd.transComplete) s
      (fun _ t => (Later t ∧ StartsNone s t) ∧ Framed s t) (StartsNone s) := by
  refine hcdRp2040Irq_of (P := fun t => Completed t ∧ StartsNone s t) hdata (fun _ => ?_)
    (fun hset => ?_) (fun t u h ht => ⟨h.toSilent.completed ht.1, ?_⟩) (fun t ht _ => ?_)
    (fun t ht _ => ⟨ht.1.later, ht.2⟩) (fun t ht => ht.2) (fun t ht => ht.2) causes
  · exact (hs.handleEpxBuffer hlow).mono (fun _ t ht => ⟨⟨ht.1, ht.2.1⟩, ht.2.2⟩) fun _ => id
  · cases hset.symm.trans hs.pending
  · exact ⟨h.starts.trans ht.2.1, h.devAddrCtrl.trans ht.2.2⟩
  · exact .of_ok (hwTransComplete_ignored ht.1.sending) ⟨⟨ht.1.later, ht.2⟩, framed_transComplete t⟩

end UsbSec.Host
