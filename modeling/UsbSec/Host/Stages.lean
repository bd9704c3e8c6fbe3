import UsbSec.Host.Irq

/-!
# The stages of a control transfer

A control transfer of the slave is the setup packet, one read for each packet of the response, the
reply with LAST_PACKET and, behind a read, the status stage. `advance` follows the calls and
transactions of a run through these stages and has no result on a call that does not belong to the
stage it is made in, so a run is undisturbed as long as its calls have a stage.

The slave keeps no such record. It has `level`, and one set of registers for every transfer; the
test of `debug_lock` that would hold back messages is commented out.
-/

namespace UsbSec.Host

open Library Usb Rp2040

/-- Where a control transfer is: what the controller is doing, or what the handler that took its
completion is to do next. -/
inductive Phase where
  | setup
  | setupSent
  | startRead
  | reading
  | received
  | restartRead
  | partReply
  | startStatus
  | lastReply
  | status
  | statusSent
  deriving DecidableEq, Repr

/-- No control transfer is in progress, or one with a data stage in the given direction is. -/
inductive Stage where
  | idle
  | control (dirIn : Bool) (phase : Phase)
  deriving DecidableEq, Repr

/-- The call has to do with control transfers. -/
def Concerns : Call → Prop
  | .xferComplete epAddr _ _ _ => IsControl epAddr
  | .sendEvent message => hasFlag message.eFlag MsgType.setupData
  | _ => True

instance : DecidablePred Concerns
  | .xferComplete epAddr _ _ _ => inferInstanceAs (Decidable (IsControl epAddr))
  | .sendEvent message => inferInstanceAs (Decidable (hasFlag message.eFlag MsgType.setupData))
  | .setupSend _ | .edptXfer _ | .transacted _ => .isTrue trivial

/-- A received packet ends the read or goes on with it. -/
def afterPacket (dirIn : Bool) : XferResult → Option Phase
  | .more => some .restartRead
  | .success => some (if dirIn then .startStatus else .lastReply)
  | _ => none

/-- The stage behind a call that belongs to the phase. -/
def Phase.next (dirIn : Bool) : Phase → Call → Option Stage
  | .setup, .transacted .setupSent => some (.control dirIn .setupSent)
  | .setupSent, .xferComplete epAddr level xferredBytes result =>
      if epAddr = 0x00 ∧ level = 0 ∧ xferredBytes = 0 ∧ result = .success then
        some (.control dirIn .startRead)
      else none
  | .startRead, .edptXfer epAddr =>
      if epAddr = 0x80 then some (.control dirIn .reading) else none
  | .reading, .transacted .packetIn => some (.control dirIn .received)
  | .received, .xferComplete epAddr level _ result =>
      if epAddr = 0x80 ∧ level = 1 then (afterPacket dirIn result).map (.control dirIn) else none
  | .restartRead, .edptXfer epAddr =>
      if epAddr = 0x80 then some (.control dirIn .partReply) else none
  | .partReply, .sendEvent message =>
      if hasFlag message.eFlag MsgType.lastPacket then none else some (.control dirIn .reading)
  | .startStatus, .edptXfer epAddr =>
      if epAddr = 0x00 then some (.control dirIn .lastReply) else none
  | .lastReply, .sendEvent message =>
      if hasFlag message.eFlag MsgType.lastPacket then
        some (if dirIn then .control dirIn .status else .idle)
      else none
  | .status, .transacted .packetOut => some (.control dirIn .statusSent)
  | .statusSent, .xferComplete epAddr level _ result =>
      if epAddr = 0x00 ∧ level = 2 ∧ result = .success then some .idle else none
  | _, _ => none

/-- The stage behind a call. Outside a control transfer every call is allowed, and in one every
call that has nothing to do with it. -/
def advance : Stage → Call → Option Stage
  | .idle, .setupSend setup => some (.control (setup.direction == 1) .setup)
  | .idle, _ => some .idle
  | .control dirIn phase, call =>
      if Concerns call then phase.next dirIn call else some (.control dirIn phase)

/-- The stage that a sequence of calls leads to. -/
def stageOf (calls : List Call) : Option Stage := calls.foldlM advance .idle

/-- The value of `level` in a phase that lasts. -/
def Phase.level : Phase → Option UInt8
  | .setup | .setupSent => some 0
  | .reading | .received => some 1
  | .status | .statusSent => some 2
  | _ => none

/-- The value of `level` in a stage, where a transfer prescribes it. -/
def Stage.level : Stage → Option UInt8
  | .idle => none
  | .control _ phase => phase.level

/-- Nothing is left to be done by the handler that led to the stage: no read is to be started and
no reply to be sent. -/
def Stage.Complete : Stage → Prop
  | .idle => True
  | .control _ phase => phase.level ≠ none

/-- Every call belonged to the stage it was made in, `level` is the one of the stage, and a core
that runs has done all that the stage asks for. -/
def Undisturbed (m : Core0) : Prop :=
  ∃ stage, stageOf m.slave.calls = some stage ∧
    (∀ level ∈ stage.level, m.slave.level = level) ∧ (m.halted = none → stage.Complete)

/-! ## When a step respects the transfer in progress -/

/-- No control transfer is in progress. -/
def NoTransfer (s : Slave) : Prop := stageOf s.calls = some .idle

instance (s : Slave) : Decidable (NoTransfer s) := inferInstanceAs (Decidable (_ = _))

/-- No completion of the EPX registers is waiting to be handled, and `epx` has counted no bytes. -/
def EpxQuiet (h : Hcd) : Prop :=
  hasBits h.bufStatus (slotBit epx) = false ∧ h.transComplete = false ∧
    (h.epPool epx).xferredLen = 0

instance (h : Hcd) : Decidable (EpxQuiet h) := inferInstanceAs (Decidable (_ ∧ _))

/-- The endpoint descriptor in a payload is one that is given the slot `epx`. -/
def TakesEpx (payload : List UInt8) : Prop :=
  let desc : EndpointPointer := ⟨payloadBuffer payload, 0⟩
  desc.xfer ≠ xferInterrupt ∧ desc.bEndpointAddress = 0

instance (payload : List UInt8) : Decidable (TakesEpx payload) :=
  inferInstanceAs (Decidable (_ ∧ _))

/-- A message that uses EPX comes when no control transfer is in progress, and one that starts a
control transfer when EPX is quiet too. -/
structure RespectfulMessage (s : Slave) (message : SpiMessage) : Prop where
  setup : messageKind message = MsgType.setupData ∨ messageKind message = MsgType.chgAddr →
    NoTransfer s ∧ EpxQuiet s.hcd
  data : messageKind message = MsgType.usbData → NoTransfer s
  opened : messageKind message = MsgType.edptOpen ∧ TakesEpx message.payload → NoTransfer s

instance (s : Slave) (message : SpiMessage) : Decidable (RespectfulMessage s message) :=
  decidable_of_iff
    ((messageKind message = MsgType.setupData ∨ messageKind message = MsgType.chgAddr →
        NoTransfer s ∧ EpxQuiet s.hcd) ∧
      (messageKind message = MsgType.usbData → NoTransfer s) ∧
      (messageKind message = MsgType.edptOpen ∧ TakesEpx message.payload → NoTransfer s))
    ⟨fun ⟨hsetup, hdata, hopened⟩ => ⟨hsetup, hdata, hopened⟩, fun h => ⟨h.1, h.2, h.3⟩⟩

/-- The endpoint is neither the control endpoint nor on the EPX registers. -/
def Bystander (ep : HwEndpoint) : Prop :=
  ¬ IsControl ep.epAddr ∧ ep.bufferControl ≠ some epxBufCtrl

instance (ep : HwEndpoint) : Decidable (Bystander ep) := inferInstanceAs (Decidable (_ ∧ _))

/-- The slots whose bit is set hold bystanders. -/
def Bystanders (status : BitVec 32) (s : Slave) : Prop :=
  ∀ slot ∈ interruptSlots, hasBits status (slotBit slot) = true → Bystander (s.hcd.epPool slot)

instance (status : BitVec 32) (s : Slave) : Decidable (Bystanders status s) :=
  inferInstanceAs (Decidable (∀ slot ∈ interruptSlots, _))

/-- The step leaves a control transfer in progress alone. -/
def Respectful (m : Core0) : Event → Prop
  | .slavework => ∀ message ∈ m.slave.rx.items.head?, RespectfulMessage m.slave message
  | .hcdIrq => NoTransfer m.slave ∨ Bystanders m.slave.hcd.bufStatus m.slave
  | _ => True

instance (m : Core0) : ∀ event, Decidable (Respectful m event)
  | .slavework => inferInstanceAs (Decidable (∀ _ ∈ _, _))
  | .hcdIrq => inferInstanceAs (Decidable (_ ∨ _))
  | .receive _ | .setupSent | .packetIn _ | .packetOut | .interruptIn _ _ | .raise _ =>
      .isTrue trivial

/-! ## Following the calls -/

theorem stageOf_concat {calls : List Call} {stage : Stage} (h : stageOf calls = some stage)
    (call : Call) : stageOf (calls ++ [call]) = advance stage call := by
  unfold stageOf at h ⊢
  rw [List.foldlM_append, h]
  exact bind_pure (advance stage call)

/-- A call that has nothing to do with control transfers changes no stage. -/
theorem advance_other {call : Call} (h : ¬ Concerns call) (stage : Stage) :
    advance stage call = some stage := by
  cases stage with
  | idle =>
      cases call with
      | setupSend setup => exact absurd trivial h
      | _ => rfl
  | control dirIn phase => exact if_neg h

/-- In a control transfer the phase decides on a call that concerns it. -/
theorem advance_control {call : Call} (h : Concerns call) (dirIn : Bool) (phase : Phase) :
    advance (.control dirIn phase) call = phase.next dirIn call := if_pos h

/-- A call that concerns the transfer takes it to the stage that its phase gives. -/
theorem stageOf_next {calls : List Call} {dirIn : Bool} {phase : Phase} {stage : Option Stage}
    {call : Call} (h : stageOf calls = some (.control dirIn phase)) (hconcerns : Concerns call)
    (hnext : phase.next dirIn call = stage) : stageOf (calls ++ [call]) = stage := by
  rw [stageOf_concat h, advance_control hconcerns, hnext]

/-- Outside a control transfer only `hcd_setup_send` starts one. -/
theorem advance_idle {call : Call} (h : ∀ setup, call ≠ .setupSend setup) :
    advance .idle call = some .idle := by
  cases call with
  | setupSend setup => exact absurd rfl (h setup)
  | _ => rfl

end UsbSec.Host
