import UsbSec.Host.Epx

/-!
# A control read on the slave

A setup packet that asks for `wLength` bytes is sent, and the device answers with packets of `m`
bytes. Each packet restarts the read for the whole `wLength`, so the number of bytes that remain
never falls below `wLength - m`, and only a short packet, or a first packet that covers all of
`wLength`, ends it. A response of exactly `wLength` bytes in more than one full packet is never
recognised as complete.
-/

namespace UsbSec.Host

open Library Usb Rp2040

/-! ## What is to happen -/

/-- The packets in which a device with packets of `size` bytes delivers the response to a request
for `requested` bytes: a shorter last packet is sent exactly when the response is shorter than
requested or is no multiple of `size`. -/
def DeliveredAs (size requested : Nat) (response : List UInt8) (packets : List Packet) : Prop :=
  (packets.flatMap Packet.bytes) = response ∧
    ∃ full : List Packet, (∀ packet ∈ full, packet.bytes.length = size) ∧
      if response.length < requested ∨ ¬ size ∣ response.length then
        ∃ short : Packet, short.bytes.length < size ∧ packets = full ++ [short]
      else packets = full

/-- The message with which the master forwards a setup packet. -/
def setupMessage (setup : ControlRequest) : SpiMessage where
  eFlag := MsgType.setupData ||| MsgType.debugPrintAsHex
  payload := setup.toBytes
  payload_lt := setup.toBytes_lt

/-- The device sends a packet and the slave takes it in. -/
def deliver (packet : Packet) : List Event := [.packetIn packet, .hcdIrq]

/-- A control read: the setup packet arrives, is sent, and is answered. -/
def controlRead (setup : ControlRequest) (packets : List Packet) : List Event :=
  [.receive (setupMessage setup), .slavework, .setupSent, .hcdIrq] ++ packets.flatMap deliver

/-- No interrupt cause is pending that stops the core. -/
def NoErrors (causes : List Cause) : Prop :=
  ∀ cause ∈ causes, cause = .hostConnDis ∨ cause = .errorRxTimeout

/-- The slave is between two transfers, with packets of `size` bytes on endpoint 0, and no message
or interrupt is waiting. -/
structure Ready (size : UInt8) (c : Core0) : Prop where
  running : c.halted = none
  causes : NoErrors c.causes
  rx : c.slave.rx.items = []
  size : (c.slave.hcd.epPool epx).wMaxPacketSize = size.toUInt16
  xferredLen : (c.slave.hcd.epPool epx).xferredLen = 0
  bufStatus : c.slave.hcd.bufStatus = 0
  transComplete : c.slave.hcd.transComplete = false

/-- The slave is between two transfers, whatever the packet size of endpoint 0, and no message or
interrupt is waiting. -/
structure Idle (c : Core0) : Prop where
  running : c.halted = none
  causes : NoErrors c.causes
  rx : c.slave.rx.items = []
  xferredLen : (c.slave.hcd.epPool epx).xferredLen = 0
  bufStatus : c.slave.hcd.bufStatus = 0
  transComplete : c.slave.hcd.transComplete = false

theorem Ready.idle {size : UInt8} {c : Core0} (hc : Ready size c) : Idle c :=
  ⟨hc.running, hc.causes, hc.rx, hc.xferredLen, hc.bufStatus, hc.transComplete⟩

/-- An IN buffer is armed. -/
def InArmed (h : Hcd) : Prop :=
  hasBits (h.memory.word epxBufCtrl) bufCtrlAvail = true ∧
    hasBits h.sieCtrl sieCtrlReceiveData = true

/-- An empty packet in DATA1 is to be sent to endpoint 0. -/
def StatusOutStarted (h : Hcd) : Prop :=
  DataStarted h sieCtrlSendData ∧ (h.epPool epx).epAddr = 0x00 ∧
    hasBits (h.memory.word epxBufCtrl) bufCtrlFull = true ∧
    hasBits (h.memory.word epxBufCtrl) bufCtrlData1Pid = true ∧
    bufLen (h.memory.word epxBufCtrl) = 0

/-- The replies to a setup packet among the messages. -/
def setupReplies (messages : List SpiMessage) : List SpiMessage :=
  messages.filter fun message => hasFlag message.eFlag MsgType.setupData

/-- Exactly the last message carries LAST_PACKET. -/
def LastIsMarked (messages : List SpiMessage) : Prop :=
  ∃ front last, messages = front ++ [last] ∧ hasFlag last.eFlag MsgType.lastPacket ∧
    ∀ message ∈ front, ¬ hasFlag message.eFlag MsgType.lastPacket

/-- The slave has passed on the response and started the status stage. -/
structure Answered (response : List UInt8) (before after : Core0) : Prop where
  running : after.halted = none
  outbox : ∃ messages, after.slave.outbox = before.slave.outbox ++ messages ∧
    (setupReplies messages).flatMap (fun message => message.payload.dropLast) = response ∧
    LastIsMarked (setupReplies messages)
  notArmed : ¬ InArmed after.slave.hcd
  status : StatusOutStarted after.slave.hcd

/-- The control read goes through to its status stage. -/
def ReadCompletes (c : Core0) (setup : ControlRequest) (response : List UInt8)
    (packets : List Packet) : Prop :=
  ∃ last, Machine.run step c (controlRead setup packets) = some last ∧ Answered response c last

/-! ## The controller while a read is armed -/

/-- The endpoint control word of `epx`. -/
def controlWord : BitVec 32 := hostEndpointReg 0 (hwDataOffset epxDataOffset) 0

/-- The controller waits for a packet of a read of `requested` bytes. -/
structure ReadArmed (size requested : UInt16) (h : Hcd) : Prop where
  activeEp : h.activeEp = some epx
  onEpx : OnEpx (h.epPool epx)
  epAddr : (h.epPool epx).epAddr = 0x80
  rx : (h.epPool epx).rx = true
  userBuf : (h.epPool epx).userBuf = .bugger 0
  xferredLen : (h.epPool epx).xferredLen = 0
  remainingLen : (h.epPool epx).remainingLen = requested - tuMin16 requested size
  size : (h.epPool epx).wMaxPacketSize = size
  whole : (h.epPool epx).isPartial = false
  armed : hasBits (h.memory.word epxBufCtrl) bufCtrlAvail = true
  control : h.memory.word epxCtrl = controlWord
  started : DataStarted h sieCtrlReceiveData
  noSetup : hasBits h.sieCtrl sieCtrlSendSetup = false

theorem xferStarted_readArmed {h : Hcd} {size requested : UInt16} (hready : OnEpx (h.epPool epx))
    (hrx : (h.epPool epx).epAddr = 0x80 → (h.epPool epx).rx = true)
    (hsize : (h.epPool epx).wMaxPacketSize = size)
    (hcontrol : (h.epPool epx).epAddr = 0x80 → h.memory.word epxCtrl = controlWord)
    (htype : (h.epPool epx).epAddr ≠ 0x80 → (h.epPool epx).transferType = 0) (devAddr : UInt8) :
    ReadArmed size requested (xferStarted devAddr 0x80 (.bugger 0) requested h) := by
  have hshape := turnedChannel_shape devAddr 0x80 (epxChannel h)
  obtain ⟨hbuffer, hword⟩ := xferStarted_words hready devAddr 0x80 (.bugger 0) requested
  obtain ⟨hstart, hsetup, hreceive, -⟩ := startDataFlags_bits h 0x80
  have hturnedSize : (turnedChannel devAddr 0x80 (epxChannel h)).ep.wMaxPacketSize = size :=
    (congrArg Shape.wMaxPacketSize hshape).trans hsize
  have hep := xferStarted_epx devAddr 0x80 (.bugger 0) requested h
  have havail := armedWord_avail
    (freshTransfer (.bugger 0) requested (turnedChannel devAddr 0x80 (epxChannel h)).ep)
  rw [← hbuffer] at havail
  constructor
  case activeEp => rfl
  case onEpx => exact xferStarted_onEpx hready devAddr 0x80 (.bugger 0) requested
  case epAddr =>
    rw [hep]
    exact turnedChannel_epAddr devAddr 0x80 (epxChannel h)
  case rx =>
    rw [hep]
    exact turnedChannel_rx hrx
  case userBuf => rw [hep]; rfl
  case xferredLen => rw [hep]; rfl
  case remainingLen =>
    rw [hep, ← hturnedSize]
    rfl
  case size =>
    rw [hep]
    exact hturnedSize
  case whole => rw [hep]; rfl
  case armed => exact havail
  case control =>
    rw [hword]
    unfold turnedChannel
    split
    · rename_i hne
      have hzero := htype fun hsame => hne hsame.symm
      simp [initialisedChannel, epxChannel, hzero, controlWord]
    · rename_i hsame
      exact hcontrol (not_not.mp hsame).symm
  case started => exact ⟨hstart, hsetup, hreceive, havail⟩
  case noSetup => exact hsetup

/-- The next PID after a buffer is armed with `pid` while `remaining` bytes remain. -/
def armPid (size remaining : UInt16) (pid : UInt8) : UInt8 :=
  nextPidAfter pid (remaining - tuMin16 remaining size) (tuMin16 remaining size) size

/-- `epx` and the registers are as `_hw_endpoint_start_next_buffer` leaves them when it is called
with the given `next_pid`, while `remaining` bytes remain of packets of `size` bytes. -/
def ArmedFrom (size remaining : UInt16) (pid : UInt8) (h : Hcd) : Prop :=
  ∃ c d, startNextBufferSlave c = .ok () d ∧ c.ep.nextPid = pid ∧ c.ep.remainingLen = remaining ∧
    c.ep.wMaxPacketSize = size ∧ h.epPool epx = d.ep ∧ h.memory.word = d.memory.word

/-- Starting a transfer on `epx` arms its buffer for the whole length. -/
theorem xferStarted_armedFrom {h : Hcd} {devAddr epAddr pid : UInt8} {buffer : UserBuf}
    {buflen size : UInt16}
    (hstart : hwEndpointXferStart .slave buffer buflen
      (turnedChannel devAddr epAddr (epxChannel h)) =
        .ok () (startedChannel buffer buflen (turnedChannel devAddr epAddr (epxChannel h))))
    (hpid : (turnedChannel devAddr epAddr (epxChannel h)).ep.nextPid = pid)
    (hsize : (turnedChannel devAddr epAddr (epxChannel h)).ep.wMaxPacketSize = size) :
    ArmedFrom size buflen pid (xferStarted devAddr epAddr buffer buflen h) := by
  rw [hwEndpointXferStart_apply] at hstart
  exact ⟨_, _, hstart, hpid, rfl, hsize, xferStarted_epx _ _ _ _ _, rfl⟩

/-- The read of `requested` bytes is armed with the given PID. -/
structure ReadWord (size requested : UInt16) (pid : UInt8) (h : Hcd) : Prop where
  armedFrom : ArmedFrom size requested pid h
  nextPid : (h.epPool epx).nextPid = armPid size requested pid

theorem xferStarted_readWord {h : Hcd} {size : UInt16} {pid devAddr : UInt8}
    (hrx : (h.epPool epx).epAddr = 0x80 → (h.epPool epx).rx = true)
    (hsize : (h.epPool epx).wMaxPacketSize = size)
    (hpid : (turnedChannel devAddr 0x80 (epxChannel h)).ep.nextPid = pid) (requested : UInt16) :
    ReadWord size requested pid (xferStarted devAddr 0x80 (.bugger 0) requested h) := by
  have hturnedSize : (turnedChannel devAddr 0x80 (epxChannel h)).ep.wMaxPacketSize = size :=
    (congrArg Shape.wMaxPacketSize (turnedChannel_shape devAddr 0x80 (epxChannel h))).trans hsize
  have hturnedRx : (turnedChannel devAddr 0x80 (epxChannel h)).ep.rx = true := turnedChannel_rx hrx
  constructor
  case armedFrom =>
    exact xferStarted_armedFrom (hwEndpointXferStart_receive hturnedRx _ _) hpid hturnedSize
  case nextPid =>
    rw [xferStarted_epx]
    unfold startedChannel armedChannel freshTransfer armPid
    simp only [hpid, hturnedSize]

/-- The status stage that is started behind a read. -/
theorem xferStarted_status {h : Hcd} {size : UInt16} (hready : OnEpx (h.epPool epx))
    (hturn : (h.epPool epx).epAddr = 0x80) (hsize : (h.epPool epx).wMaxPacketSize = size)
    (devAddr : UInt8) :
    ¬ InArmed (xferStarted devAddr 0x00 .null 0 h) ∧
      StatusOutStarted (xferStarted devAddr 0x00 .null 0 h) ∧
      ArmedFrom size 0 1 (xferStarted devAddr 0x00 .null 0 h) := by
  obtain ⟨hbuffer, -⟩ := xferStarted_words hready devAddr 0x00 .null 0
  obtain ⟨hstart, hsetup, hreceive, hsend⟩ := startDataFlags_bits h 0x00
  have hturned : turnedChannel devAddr 0x00 (epxChannel h) =
      initialisedChannel devAddr 0x00 (h.epPool epx).wMaxPacketSize (h.epPool epx).transferType
        (epxChannel h) := if_pos (by
          show (0x00 : UInt8) ≠ (h.epPool epx).epAddr
          rw [hturn]
          decide)
  have hword : (xferStarted devAddr 0x00 .null 0 h).memory.word epxBufCtrl = 0xe400#32 := by
    rw [hbuffer, hturned]
    unfold armedWord
    show lenBits 0 ||| bufCtrlAvail ||| fullBits false ||| pidBits 1 |||
      lastBits (0 - tuMin16 0 (h.epPool epx).wMaxPacketSize) = _
    rw [tuMin16_zero]
    decide
  have hep : ((xferStarted devAddr 0x00 .null 0 h).epPool epx).epAddr = 0x00 := by
    rw [xferStarted_epx]
    exact turnedChannel_epAddr devAddr 0x00 (epxChannel h)
  have hstarts : hwEndpointXferStart .slave .null 0 (turnedChannel devAddr 0x00 (epxChannel h)) =
      .ok () (startedChannel .null 0 (turnedChannel devAddr 0x00 (epxChannel h))) := by
    rw [hturned]
    exact hwEndpointXferStart_empty rfl hready.hwDataBuf
  refine ⟨fun harmed => ?_, ⟨⟨hstart, hsetup, hsend, ?_⟩, hep, ?_, ?_, ?_⟩, ?_⟩
  · exact Bool.noConfusion (harmed.2.symm.trans hreceive)
  · rw [hword]
    decide
  · rw [hword]
    decide
  · rw [hword]
    decide
  · rw [hword]
    decide
  · refine xferStarted_armedFrom hstarts ?_ ?_
    · rw [hturned]
      rfl
    · rw [hturned]
      exact hsize

/-! ## The handlers as equations -/

/-- The slave with another controller. -/
def withHcd (s : Slave) (hcd : Hcd) : Slave := { s with hcd := hcd }

/-- The slave with one more call recorded. -/
def withCall (s : Slave) (call : Call) : Slave := { s with calls := s.calls ++ [call] }

@[simp] theorem withHcd_hcd (s : Slave) (hcd : Hcd) : (withHcd s hcd).hcd = hcd := rfl
@[simp] theorem withHcd_level (s : Slave) (hcd : Hcd) : (withHcd s hcd).level = s.level := rfl
@[simp] theorem withHcd_setup (s : Slave) (hcd : Hcd) : (withHcd s hcd).setup = s.setup := rfl
@[simp] theorem withHcd_outbox (s : Slave) (hcd : Hcd) : (withHcd s hcd).outbox = s.outbox := rfl
@[simp] theorem withCall_hcd (s : Slave) (call : Call) : (withCall s call).hcd = s.hcd := rfl
@[simp] theorem withCall_level (s : Slave) (call : Call) : (withCall s call).level = s.level := rfl
@[simp] theorem withCall_setup (s : Slave) (call : Call) : (withCall s call).setup = s.setup := rfl
@[simp] theorem withCall_outbox (s : Slave) (call : Call) :
    (withCall s call).outbox = s.outbox := rfl

theorem onHcd_ok {α : Type} {program : HcdM α} {s : Slave} {value : α} {next : Hcd}
    (h : program s.hcd = .ok value next) : onHcd program s = .ok value (withHcd s next) :=
  Program.onPart_ok h

theorem startXfer_ok {devAddr epAddr : UInt8} {buffer : UserBuf} {buflen : UInt16} {s : Slave}
    {next : Hcd} (h : hcdEdptXfer devAddr epAddr buffer buflen s.hcd = .ok () next) :
    startXfer devAddr epAddr buffer buflen s =
      .ok () (withHcd (withCall s (.edptXfer epAddr)) next) :=
  onHcd_ok (s := withCall s (.edptXfer epAddr)) h

/-- The slave after it has started the read of a response. -/
def readStarted (devAddr : UInt8) (s : Slave) : Slave :=
  withHcd (withCall s (.edptXfer 0x80))
    (xferStarted devAddr 0x80 (.bugger 0) (responseLength s.setup) s.hcd)

theorem readResponse_ok {s : Slave} (hready : OnEpx (s.hcd.epPool epx))
    (hrx : (s.hcd.epPool epx).epAddr = 0x80 → (s.hcd.epPool epx).rx = true) (devAddr : UInt8) :
    readResponse devAddr s = .ok () (readStarted devAddr s) := by
  unfold readResponse
  rw [Program.read_bind]
  exact startXfer_ok (hcdEdptXfer_read hready hrx devAddr _ _)

/-- The controller with another content of the static buffer. -/
def withBugger (h : Hcd) (bugger : Buffer) : Hcd :=
  { h with memory := { h.memory with bugger := bugger } }

/-- The slave after `send_event_to_master`. -/
def withReply (s : Slave) (bugger : Buffer) (message : SpiMessage) : Slave :=
  { withCall (withHcd s (withBugger s.hcd bugger)) (.sendEvent message) with
    outbox := s.outbox ++ [message] }

@[simp] theorem withReply_hcd (s : Slave) (bugger : Buffer) (message : SpiMessage) :
    (withReply s bugger message).hcd = withBugger s.hcd bugger := rfl
@[simp] theorem withReply_level (s : Slave) (bugger : Buffer) (message : SpiMessage) :
    (withReply s bugger message).level = s.level := rfl
@[simp] theorem withReply_setup (s : Slave) (bugger : Buffer) (message : SpiMessage) :
    (withReply s bugger message).setup = s.setup := rfl
@[simp] theorem withReply_outbox (s : Slave) (bugger : Buffer) (message : SpiMessage) :
    (withReply s bugger message).outbox = s.outbox ++ [message] := rfl

/-- `send_event_to_master` passes on the bytes of the static buffer and the endpoint address. -/
theorem sendEventToMaster_ok {len : UInt16} (hlen : len.toNat < 1000) (epAddr : UInt8)
    (eFlag : UInt16) (s : Slave) :
    ∃ message bugger, message.eFlag = MsgType.isPacket ||| eFlag ∧
      message.payload = s.hcd.memory.bugger.bytesAt 0 len.toNat ++ [epAddr] ∧
      sendEventToMaster len epAddr eFlag s = .ok () (withReply s bugger message) := by
  by_cases hzero : len = 0
  · subst hzero
    exact ⟨⟨MsgType.isPacket ||| eFlag, [epAddr], by simp⟩, s.hcd.memory.bugger, rfl, rfl, rfl⟩
  · have hfill : fillBugger len.toNat [epAddr] s =
        .ok () (withHcd s (withBugger s.hcd (s.hcd.memory.bugger.writeAt len.toNat [epAddr]))) :=
      Program.require_bind (by
        show len.toNat + 1 ≤ 1000
        omega) _ _ _
    have hsucc : (len + 1).toNat = len.toNat + 1 := by
      rw [UInt16.toNat_add]
      simp
      omega
    refine ⟨.copyOf (MsgType.isPacket ||| eFlag) (s.hcd.memory.bugger.writeAt len.toNat [epAddr])
      0 (len + 1), s.hcd.memory.bugger.writeAt len.toNat [epAddr], rfl, ?_, ?_⟩
    · rw [SpiMessage.copyOf_payload, hsucc, Buffer.bytesAt_succ,
        Buffer.bytesAt_writeAt_before _ _ (by omega)]
      have hbyte := Buffer.writeAt_inside s.hcd.memory.bugger len.toNat [epAddr] (i := 0)
        (by simp)
      rw [Nat.zero_add]
      simpa using hbyte
    · unfold sendEventToMaster
      rw [Program.when_true hzero]
      refine (Program.bind_ok hfill).trans ?_
      rw [Program.read_bind, if_neg hzero]
      rfl

/-- At level 1 a completed transfer on endpoint 0 is data of the response. -/
theorem hcdEventXferComplete_response {s : Slave} (hlevel : s.level = 1)
    {result : XferResult} (hresult : result = .success ∨ result = .more) (devAddr : UInt8)
    (xferredBytes : UInt16) :
    hcdEventXferComplete devAddr 0x80 xferredBytes result s =
      completeResponse devAddr 0x80 xferredBytes result
        (withCall s (.xferComplete 0x80 1 xferredBytes result)) := by
  unfold hcdEventXferComplete
  refine (Program.require_bind hresult _ _ _).trans ?_
  rw [Program.read_bind, hlevel, if_pos (by decide), if_neg (by decide), if_pos rfl]
  rfl

theorem handleBuffStatusBit_ok {s : Slave} {done : Bool} {c : Channel}
    (hrun : hwEndpointXferContinue .slave (epxChannel s.hcd) = .ok done c) :
    handleBuffStatusBit (slotBit epx) epx s =
      hwXferComplete epx (if done then .success else .more)
        (withHcd s (storeEpx { s.hcd with bufStatus := s.hcd.bufStatus &&& ~~~slotBit epx } c)) := by
  have hslot : onSlot epx (hwEndpointXferContinue .slave)
      { s.hcd with bufStatus := s.hcd.bufStatus &&& ~~~slotBit epx } = .ok done _ :=
    onSlot_epx hrun
  unfold handleBuffStatusBit
  rw [Program.update_bind]
  exact Program.bind_ok (onHcd_ok hslot)

theorem handleCauses_ok {causes : List Cause} (h : NoErrors causes) (s : Slave) :
    handleCauses causes s = .ok () s := by
  have habsent (cause : Cause) (hattach : cause ≠ .hostConnDis)
      (htimeout : cause ≠ .errorRxTimeout) : cause ∉ causes := fun hmem =>
    (h cause hmem).elim hattach htimeout
  unfold handleCauses
  rw [Program.when_false (habsent .epStallNak nofun nofun),
    Program.when_false (habsent .stall nofun nofun),
    Program.when_false (habsent .errorDataSeq nofun nofun),
    Program.when_false (habsent .hostResume nofun nofun)]
  rfl

theorem handleInterruptBuffers_none (slots : List Nat) (s : Slave) :
    handleInterruptBuffers slots 0 s = .ok 0 s := by
  cases slots <;> rfl

/-- Only the EPX buffer is waiting to be handled. -/
theorem hwHandleBuffStatus_epx {s t : Slave} (hbits : s.hcd.bufStatus = slotBit epx)
    (hrun : handleEpxBuffer s = .ok () t) : hwHandleBuffStatus s = .ok () t := by
  unfold hwHandleBuffStatus
  rw [Program.read_bind, hbits, Program.when_true (by decide)]
  refine (Program.bind_ok hrun).trans ?_
  have hrest : slotBit epx &&& ~~~slotBit epx = 0 := by decide
  rw [hrest]
  exact (Program.bind_ok (handleInterruptBuffers_none _ t)).trans rfl

/-- The slave after `TRANS_COMPLETE` is acknowledged, if it was pending. -/
def acknowledged (transComplete : Bool) (s : Slave) : Slave :=
  withHcd s { s.hcd with transComplete := s.hcd.transComplete && !transComplete }

/-- Outside a setup transaction `TRANS_COMPLETE` is only acknowledged. -/
theorem hcdRp2040Irq_after {causes : List Cause} (hcauses : NoErrors causes) (buffStatus : Bool)
    {s t : Slave} (hrun : Program.when buffStatus hwHandleBuffStatus s = .ok () t)
    (hsetup : hasBits t.hcd.sieCtrl sieCtrlSendSetup = false) (transComplete : Bool) :
    hcdRp2040Irq causes buffStatus transComplete s = .ok () (acknowledged transComplete t) := by
  unfold hcdRp2040Irq
  refine (Program.bind_ok hrun).trans ?_
  cases transComplete with
  | false =>
      refine (handleCauses_ok hcauses t).trans ?_
      simp [acknowledged, withHcd]
  | true =>
      let cleared : Slave := withHcd t { t.hcd with transComplete := false }
      have hignored : hwTransComplete cleared = .ok () cleared := by
        unfold hwTransComplete
        have hnot : ¬ hasBits cleared.hcd.sieCtrl sieCtrlSendSetup = true := by
          show ¬ hasBits t.hcd.sieCtrl sieCtrlSendSetup = true
          rw [hsetup]
          decide
        rw [Program.read_bind, Program.when_false hnot]
        rfl
      have hclear : (do
          Program.update fun s : Slave => { s with hcd := { s.hcd with transComplete := false } }
          hwTransComplete : SlaveM Unit) t = .ok () cleared := hignored
      rw [Program.when_true rfl]
      refine (Program.bind_ok hclear).trans ?_
      refine (handleCauses_ok hcauses cleared).trans ?_
      simp [acknowledged, withHcd, cleared]

theorem hcdRp2040Irq_buffers {causes : List Cause} (hcauses : NoErrors causes) {s t : Slave}
    (hrun : hwHandleBuffStatus s = .ok () t)
    (hsetup : hasBits t.hcd.sieCtrl sieCtrlSendSetup = false) (transComplete : Bool) :
    hcdRp2040Irq causes true transComplete s = .ok () (acknowledged transComplete t) :=
  hcdRp2040Irq_after hcauses true ((congrFun (Program.when_true rfl _) s).trans hrun)
    hsetup transComplete

theorem hcdRp2040Irq_data {causes : List Cause} (hcauses : NoErrors causes) {s t : Slave}
    (hbits : s.hcd.bufStatus = slotBit epx) (hrun : handleEpxBuffer s = .ok () t)
    (hsetup : hasBits t.hcd.sieCtrl sieCtrlSendSetup = false) (transComplete : Bool) :
    hcdRp2040Irq causes true transComplete s = .ok () (acknowledged transComplete t) :=
  hcdRp2040Irq_buffers hcauses (hwHandleBuffStatus_epx hbits hrun) hsetup transComplete

/-! ## One packet -/

/-- The controller holds a packet of a read of `requested` bytes. -/
structure PacketHeld (size requested : UInt16) (packet : Packet) (h : Hcd) : Prop where
  activeEp : h.activeEp = some epx
  onEpx : OnEpx (h.epPool epx)
  epAddr : (h.epPool epx).epAddr = 0x80
  xferredLen : (h.epPool epx).xferredLen = 0
  remainingLen : (h.epPool epx).remainingLen = requested - tuMin16 requested size
  size : (h.epPool epx).wMaxPacketSize = size
  whole : (h.epPool epx).isPartial = false
  received : Received (epxChannel h) (UInt16.ofNat packet.bytes.length)
  bytes : h.memory.data.bytesAt epxDataOffset packet.bytes.length = packet.bytes
  control : h.memory.word epxCtrl = controlWord
  noSetup : hasBits h.sieCtrl sieCtrlSendSetup = false
  bufStatus : h.bufStatus = slotBit epx

theorem PacketHeld.finish {size requested : UInt16} {packet : Packet} {h : Hcd}
    (hheld : PacketHeld size requested packet h) :
    PacketHeld size requested packet (finishTransaction h) := by
  have hkept : hasBits (h.sieCtrl &&& ~~~sieCtrlStartTrans) sieCtrlSendSetup = false :=
    (hasBits_kept (by decide)).trans hheld.noSetup
  exact ⟨hheld.activeEp, hheld.onEpx, hheld.epAddr, hheld.xferredLen, hheld.remainingLen,
    hheld.size, hheld.whole, hheld.received, hheld.bytes, hheld.control, hkept, hheld.bufStatus⟩

/-- A packet that is received changes no endpoint. -/
theorem receiveIn_epPool {h next : Hcd} {packet : Packet} (hreceive : receiveIn h packet = some next) :
    next.epPool = h.epPool := by
  unfold receiveIn at hreceive
  split at hreceive
  · cases hreceive
    split <;> rfl
  · cases hreceive

/-- The armed controller receives a packet. -/
theorem ReadArmed.receiveIn {size requested : UInt16} {h : Hcd}
    (harmed : ReadArmed size requested h) (hstatus : h.bufStatus = 0) {packet : Packet}
    (hbounded : packet.bytes.length ≤ 1000) :
    ∃ next, receiveIn h packet = some next ∧ PacketHeld size requested packet next := by
  have hoffset : (h.memory.word epxCtrl &&& 0xffc0#32).toNat = epxDataOffset := by
    rw [harmed.control]
    decide
  have hbuffer : (fillEpx h packet).memory.word epxBufCtrl =
      receivedWord (h.memory.word epxBufCtrl) packet := storePacket_same _ _ _ _
  have hcontrol : (fillEpx h packet).memory.word epxCtrl = h.memory.word epxCtrl :=
    storePacket_other _ _ _ (by decide)
  have hread : (epxChannel (fillEpx h packet)).memory.readWord
      (epxChannel (fillEpx h packet)).ep.bufferControl =
      receivedWord (h.memory.word epxBufCtrl) packet := by
    have hpointer : (epxChannel (fillEpx h packet)).ep.bufferControl = some epxBufCtrl :=
      harmed.onEpx.bufferControl
    rw [hpointer]
    exact hbuffer
  have hheld : PacketHeld size requested packet (fillEpx h packet) := by
    constructor
    case activeEp => exact harmed.activeEp
    case onEpx => exact harmed.onEpx
    case epAddr => exact harmed.epAddr
    case xferredLen => exact harmed.xferredLen
    case remainingLen => exact harmed.remainingLen
    case size => exact harmed.size
    case whole => exact harmed.whole
    case received =>
      refine ⟨harmed.rx, harmed.userBuf, harmed.onEpx.hwDataBuf, ?_, ?_, ?_⟩
      · rw [hread]
        exact (receivedWord_bits _ packet).1
      · rw [hread]
        exact bufLen_receivedWord _ packet
      · rw [UInt16.toNat_ofNat']
        show packet.bytes.length % 65536 ≤ 1000
        omega
    case bytes =>
      show Buffer.bytesAt (h.memory.data.writeAt _ packet.bytes) epxDataOffset _ = _
      rw [hoffset]
      exact Buffer.bytesAt_writeAt_same _ _ _
    case control => exact hcontrol.trans harmed.control
    case noSetup => exact harmed.noSetup
    case bufStatus =>
      show h.bufStatus ||| slotBit epx = slotBit epx
      rw [hstatus]
      decide
  by_cases hover : hasBits (h.memory.word epxBufCtrl) bufCtrlLast ∨ packet.bytes = []
  · refine ⟨finishTransaction (fillEpx h packet), ?_, hheld.finish⟩
    unfold Host.receiveIn
    rw [if_pos harmed.started, if_pos hover]
  · refine ⟨fillEpx h packet, ?_, hheld⟩
    unfold Host.receiveIn
    rw [if_pos harmed.started, if_neg hover]

theorem ReadArmed.bugger {size requested : UInt16} {h : Hcd} (harmed : ReadArmed size requested h)
    (bugger : Buffer) : ReadArmed size requested (withBugger h bugger) :=
  ⟨harmed.activeEp, harmed.onEpx, harmed.epAddr, harmed.rx, harmed.userBuf, harmed.xferredLen,
    harmed.remainingLen, harmed.size, harmed.whole, harmed.armed, harmed.control, harmed.started,
    harmed.noSetup⟩

theorem PacketHeld.single {size requested : UInt16} {packet : Packet} {h : Hcd}
    (hheld : PacketHeld size requested packet h) :
    hasBits ((epxChannel h).memory.readWord (epxChannel h).ep.endpointControl)
      epCtrlDoubleBuffered = false := by
  have hpointer : (epxChannel h).ep.endpointControl = some epxCtrl :=
    hheld.onEpx.endpointControl
  have hword : (epxChannel h).memory.readWord (some epxCtrl) = controlWord := hheld.control
  rw [hpointer, hword]
  decide

/-- The static buffer holds the bytes of a packet that is taken in. -/
theorem PacketHeld.synced_bytes {size requested : UInt16} {packet : Packet} {h : Hcd}
    (hheld : PacketHeld size requested packet h) :
    (syncedChannel (UInt16.ofNat packet.bytes.length) (epxChannel h)).memory.bugger.bytesAt 0
      (UInt16.ofNat packet.bytes.length).toNat = packet.bytes := by
  have hlength : (UInt16.ofNat packet.bytes.length).toNat = packet.bytes.length := by
    have hbounded := packet.bounded
    rw [UInt16.toNat_ofNat']
    omega
  rw [hlength]
  show Buffer.bytesAt (Buffer.writeAt _ 0 (h.memory.data.bytesAt epxDataOffset
    (UInt16.ofNat packet.bytes.length).toNat)) 0 _ = _
  rw [hlength, hheld.bytes]
  exact Buffer.bytesAt_writeAt_same _ _ _

/-- The part of the slave that the handling of a packet is about. -/
structure Waiting (size requested : UInt16) (packet : Packet) (s : Slave) : Prop where
  level : s.level = 1
  direction : s.setup.direction = 1
  wLength : s.setup.wLength = requested
  held : PacketHeld size requested packet s.hcd

/-- The handler has taken in a packet, and passes it on from the state `t`. -/
structure PassedOn (packet : Packet) (flags : UInt16) (s t : Slave) : Prop where
  run : handleEpxBuffer s =
    sendEventToMaster (UInt16.ofNat packet.bytes.length) 0x80 flags t
  outbox : t.outbox = s.outbox
  bytes : t.hcd.memory.bugger.bytesAt 0 (UInt16.ofNat packet.bytes.length).toNat = packet.bytes

/-- A packet for which the static buffer has room is passed on with the endpoint address. -/
theorem PassedOn.replies {packet : Packet} {flags : UInt16} {s t : Slave}
    (h : PassedOn packet flags s t) (hfits : packet.bytes.length < 1000) :
    ∃ bugger message, handleEpxBuffer s = .ok () (withReply t bugger message) ∧
      message.eFlag = MsgType.isPacket ||| flags ∧ message.payload = packet.bytes ++ [0x80] := by
  have hcount : (UInt16.ofNat packet.bytes.length).toNat < 1000 := by
    rw [UInt16.toNat_ofNat']
    omega
  obtain ⟨message, bugger, hflag, hpayload, hsend⟩ := sendEventToMaster_ok hcount 0x80 flags t
  rw [h.bytes] at hpayload
  exact ⟨bugger, message, h.run.trans hsend, hflag, hpayload⟩

/-- A packet that does not end the read starts it again. -/
theorem handleEpxBuffer_restarts {size requested : UInt16} {packet : Packet} {s : Slave}
    (hs : Waiting size requested packet s)
    (hmore : (syncedChannel (UInt16.ofNat packet.bytes.length)
      (epxChannel s.hcd)).ep.remainingLen ≠ 0) :
    ∃ t, PassedOn packet MsgType.setupData s t ∧ ReadArmed size requested t.hcd ∧
      ReadWord size requested (armPid size (requested - tuMin16 requested size)
        (s.hcd.epPool epx).nextPid) t.hcd ∧
      t.hcd.bufStatus = 0 ∧ t.level = 1 ∧ t.setup = s.setup := by
  have hheld := hs.held
  let count := UInt16.ofNat packet.bytes.length
  let c := armedChannel (syncedChannel count (epxChannel s.hcd))
  let taken := withHcd s
    (storeEpx { s.hcd with bufStatus := s.hcd.bufStatus &&& ~~~slotBit epx } c)
  have hcontinue : hwEndpointXferContinue .slave (epxChannel s.hcd) = .ok false c :=
    hwEndpointXferContinue_more hheld.received hheld.whole hheld.single hmore
  have hep : taken.hcd.epPool epx = c.ep := storeEpx_epx _ _
  have hcount : c.ep.xferredLen = count := by
    show (s.hcd.epPool epx).xferredLen + count = count
    rw [hheld.xferredLen]
    simp
  have hready : OnEpx (taken.hcd.epPool epx) := by
    rw [hep]
    exact ⟨hheld.onEpx.bufferControl, hheld.onEpx.endpointControl, hheld.onEpx.hwDataBuf⟩
  have haddress : (taken.hcd.epPool epx).epAddr = 0x80 := by
    rw [hep]
    exact hheld.epAddr
  have hrx : (taken.hcd.epPool epx).rx = true := by
    rw [hep]
    exact hheld.received.rx
  have hlength : responseLength s.setup = requested := by
    unfold responseLength
    rw [hs.direction, if_neg (by decide), hs.wLength]
  have hcontrol : taken.hcd.memory.word epxCtrl = controlWord := by
    have hpointer : (syncedChannel count (epxChannel s.hcd)).ep.bufferControl =
        some epxBufCtrl := hheld.onEpx.bufferControl
    show (Memory.writeWord _ (syncedChannel count (epxChannel s.hcd)).ep.bufferControl _).word _ = _
    rw [hpointer, Memory.writeWord_other _ _ (by decide)]
    exact hheld.control
  have harmed : ReadArmed size requested
      (xferStarted c.ep.devAddr 0x80 (.bugger 0) requested taken.hcd) :=
    xferStarted_readArmed hready (fun _ => hrx)
      (by rw [hep]; exact hheld.size) (fun _ => hcontrol) (fun hne => absurd haddress hne) _
  have hpid : (turnedChannel c.ep.devAddr 0x80 (epxChannel taken.hcd)).ep.nextPid =
      armPid size (requested - tuMin16 requested size) (s.hcd.epPool epx).nextPid := by
    have hkept : turnedChannel c.ep.devAddr 0x80 (epxChannel taken.hcd) = epxChannel taken.hcd :=
      if_neg fun hne => hne haddress.symm
    have hremaining : (syncedChannel count (epxChannel s.hcd)).ep.remainingLen =
        requested - tuMin16 requested size := by
      unfold syncedChannel at hmore ⊢
      split at hmore
      · exact absurd rfl hmore
      · rename_i hlong
        exact (if_neg hlong).trans hheld.remainingLen
    have hsize : (syncedChannel count (epxChannel s.hcd)).ep.wMaxPacketSize = size := hheld.size
    rw [hkept]
    show (taken.hcd.epPool epx).nextPid = _
    rw [hep]
    show nextPidAfter _ ((syncedChannel count (epxChannel s.hcd)).ep.remainingLen - _) _ _ = _
    rw [hremaining, hsize]
    rfl
  have hsize : (taken.hcd.epPool epx).wMaxPacketSize = size := by
    rw [hep]
    exact hheld.size
  have hword := xferStarted_readWord (fun _ => hrx) hsize hpid requested
  let called := withCall taken (.xferComplete 0x80 1 count .more)
  let restarted := readStarted c.ep.devAddr called
  have hbytes : restarted.hcd.memory.bugger.bytesAt 0 count.toNat = packet.bytes := by
    have hbugger : restarted.hcd.memory.bugger =
        (syncedChannel count (epxChannel s.hcd)).memory.bugger := by
      show (xferStarted _ _ _ _ taken.hcd).memory.bugger = _
      rw [xferStarted_bugger]
      exact Memory.writeWord_bugger _ _ _
    rw [hbugger]
    exact hheld.synced_bytes
  refine ⟨restarted, ⟨?_, ?_, hbytes⟩, ?_, ?_, ?_, ?_, ?_⟩
  · unfold handleEpxBuffer
    rw [Program.read_bind, hheld.activeEp]
    refine (handleBuffStatusBit_ok hcontinue).trans ?_
    show hwXferComplete epx .more taken = _
    unfold hwXferComplete
    rw [Program.read_bind, Program.when_false (by decide), Program.pure_bind, hep, hcount]
    rw [hep] at haddress
    rw [haddress]
    refine (hcdEventXferComplete_response (s := taken) hs.level (.inr rfl) _ _).trans ?_
    have hread : readResponse c.ep.devAddr called = .ok () restarted :=
      readResponse_ok (s := called) hready (fun _ => hrx) _
    exact Program.bind_ok hread
  · simp [restarted, readStarted, called, taken]
  · show ReadArmed size requested (xferStarted _ 0x80 (.bugger 0) (responseLength s.setup) taken.hcd)
    rw [hlength]
    exact harmed
  · show ReadWord size requested _
      (xferStarted _ 0x80 (.bugger 0) (responseLength s.setup) taken.hcd)
    rw [hlength]
    exact hword
  · have hcleared : s.hcd.bufStatus &&& ~~~slotBit epx = 0 := by
      rw [hheld.bufStatus]
      decide
    exact hcleared
  · simpa [restarted, readStarted, called, taken] using hs.level
  · simp [restarted, readStarted, called, taken]

theorem handleEpxBuffer_more {size requested : UInt16} {packet : Packet} {s : Slave}
    (hs : Waiting size requested packet s) (hbounded : packet.bytes.length < 1000)
    (hmore : (syncedChannel (UInt16.ofNat packet.bytes.length)
      (epxChannel s.hcd)).ep.remainingLen ≠ 0) :
    ∃ t message, handleEpxBuffer s = .ok () t ∧ ReadArmed size requested t.hcd ∧
      ReadWord size requested (armPid size (requested - tuMin16 requested size)
        (s.hcd.epPool epx).nextPid) t.hcd ∧
      t.hcd.bufStatus = 0 ∧ t.level = 1 ∧ t.setup = s.setup ∧
      t.outbox = s.outbox ++ [message] ∧
      message.eFlag = MsgType.isPacket ||| MsgType.setupData ∧
      message.payload = packet.bytes ++ [0x80] := by
  obtain ⟨t, hpassed, harmed, hword, hstatus, hlevel, hsetup⟩ := handleEpxBuffer_restarts hs hmore
  obtain ⟨bugger, message, hrun, hflag, hpayload⟩ := hpassed.replies hbounded
  exact ⟨withReply t bugger message, message, hrun, harmed.bugger bugger,
    ⟨hword.armedFrom, hword.nextPid⟩, hstatus, hlevel, hsetup,
    congrArg (· ++ [message]) hpassed.outbox, hflag, hpayload⟩

/-- The packet that ends the read starts the status stage. -/
theorem handleEpxBuffer_ends {size requested : UInt16} {packet : Packet} {s : Slave}
    (hs : Waiting size requested packet s)
    (hlast : (syncedChannel (UInt16.ofNat packet.bytes.length)
      (epxChannel s.hcd)).ep.remainingLen = 0) :
    ∃ t, PassedOn packet (MsgType.lastPacket ||| MsgType.setupData) s t ∧ ¬ InArmed t.hcd ∧
      StatusOutStarted t.hcd ∧ ArmedFrom size 0 1 t.hcd := by
  have hheld := hs.held
  let count := UInt16.ofNat packet.bytes.length
  let c := syncedChannel count (epxChannel s.hcd)
  let taken := withHcd s
    (storeEpx { s.hcd with bufStatus := s.hcd.bufStatus &&& ~~~slotBit epx } c)
  have hcontinue : hwEndpointXferContinue .slave (epxChannel s.hcd) = .ok true c :=
    hwEndpointXferContinue_last hheld.received hheld.whole hheld.single hlast
  have hep : taken.hcd.epPool epx = c.ep := storeEpx_epx _ _
  have hcount : c.ep.xferredLen = count := by
    show (s.hcd.epPool epx).xferredLen + count = count
    rw [hheld.xferredLen]
    simp
  have haddress : c.ep.epAddr = 0x80 := hheld.epAddr
  let reset := storeEpx taken.hcd { epxChannel taken.hcd with ep := c.ep.resetTransfer }
  have hresetEp : reset.epPool epx = c.ep.resetTransfer := storeEpx_epx _ _
  have hready : OnEpx (reset.epPool epx) := by
    rw [hresetEp]
    exact ⟨hheld.onEpx.bufferControl, hheld.onEpx.endpointControl, hheld.onEpx.hwDataBuf⟩
  have hturn : (reset.epPool epx).epAddr = 0x80 := by
    rw [hresetEp]
    exact hheld.epAddr
  have hxfer := hcdEdptXfer_status hready
    (fun hzero => absurd (hturn.symm.trans hzero) (by decide)) c.ep.devAddr
  have hsize : (reset.epPool epx).wMaxPacketSize = size := by
    rw [hresetEp]
    exact hheld.size
  obtain ⟨hnotArmed, hstatus, hpid⟩ := xferStarted_status hready hturn hsize c.ep.devAddr
  let called := withCall (withHcd taken reset) (.xferComplete 0x80 1 count .success)
  let acked : Slave := { called with level := 2, debugLock := false }
  let restarted := withHcd (withCall acked (.edptXfer 0x00))
    (xferStarted c.ep.devAddr 0x00 .null 0 reset)
  have hbytes : restarted.hcd.memory.bugger.bytesAt 0 count.toNat = packet.bytes := by
    have hbugger : restarted.hcd.memory.bugger =
        (syncedChannel count (epxChannel s.hcd)).memory.bugger :=
      xferStarted_bugger _ _ _ _ _
    rw [hbugger]
    exact hheld.synced_bytes
  refine ⟨restarted, ⟨?_, rfl, hbytes⟩, hnotArmed, hstatus, hpid⟩
  unfold handleEpxBuffer
  rw [Program.read_bind, hheld.activeEp]
  refine (handleBuffStatusBit_ok hcontinue).trans ?_
  show hwXferComplete epx .success taken = _
  unfold hwXferComplete
  rw [Program.read_bind, Program.when_true (by decide), hep, hcount, haddress]
  have hreset : onHcd (onSlot epx hwEndpointResetTransferNew) taken =
      .ok () (withHcd taken reset) := by
    have hrun := onSlot_setEp HwEndpoint.resetTransfer taken.hcd
    rw [hep] at hrun
    exact onHcd_ok hrun
  refine (Program.bind_ok hreset).trans ?_
  refine (hcdEventXferComplete_response (s := withHcd taken reset) hs.level (.inl rfl) _ _).trans ?_
  have hack : Program.when (acked.setup.direction = 1) (startXfer c.ep.devAddr 0x00 .null 0) acked =
      .ok () restarted := by
    have hdirection : acked.setup.direction = 1 := hs.direction
    rw [Program.when_true hdirection]
    exact startXfer_ok (s := acked) hxfer
  exact Program.bind_ok hack

theorem handleEpxBuffer_last {size requested : UInt16} {packet : Packet} {s : Slave}
    (hs : Waiting size requested packet s) (hbounded : packet.bytes.length < 1000)
    (hlast : (syncedChannel (UInt16.ofNat packet.bytes.length)
      (epxChannel s.hcd)).ep.remainingLen = 0) :
    ∃ t message, handleEpxBuffer s = .ok () t ∧ ¬ InArmed t.hcd ∧ StatusOutStarted t.hcd ∧
      ArmedFrom size 0 1 t.hcd ∧ t.outbox = s.outbox ++ [message] ∧
      message.eFlag = MsgType.isPacket ||| (MsgType.lastPacket ||| MsgType.setupData) ∧
      message.payload = packet.bytes ++ [0x80] := by
  obtain ⟨t, hpassed, hnotArmed, hstatus, hpid⟩ := handleEpxBuffer_ends hs hlast
  obtain ⟨bugger, message, hrun, hflag, hpayload⟩ := hpassed.replies hbounded
  exact ⟨withReply t bugger message, message, hrun, hnotArmed, hstatus, hpid,
    congrArg (· ++ [message]) hpassed.outbox, hflag, hpayload⟩

/-! ## A run of packets -/

/-- The slave waits for a packet of a read. -/
structure Reading (size requested : UInt16) (c : Core0) : Prop where
  running : c.halted = none
  causes : NoErrors c.causes
  level : c.slave.level = 1
  direction : c.slave.setup.direction = 1
  wLength : c.slave.setup.wLength = requested
  armed : ReadArmed size requested c.slave.hcd
  bufStatus : c.slave.hcd.bufStatus = 0

/-- One reply with the given bytes is enqueued. -/
def Replied (before after : Core0) (flags : UInt16) (bytes : List UInt8) : Prop :=
  ∃ message : SpiMessage, after.slave.outbox = before.slave.outbox ++ [message] ∧
    message.eFlag = MsgType.isPacket ||| flags ∧ message.payload = bytes ++ [0x80]

/-- The length of a packet that does not cover the request. -/
theorem tuMin16_right {size requested : UInt16} (h : size.toNat ≤ requested.toNat) :
    tuMin16 requested size = size := by
  unfold tuMin16
  rw [if_neg]
  rw [UInt16.lt_iff_toNat_lt]
  omega

/-- A first packet that covers the request leaves nothing. -/
theorem tuMin16_left {size requested : UInt16} (h : requested.toNat ≤ size.toNat) :
    tuMin16 requested size = requested := by
  unfold tuMin16
  split
  · rfl
  · rename_i hnot
    rw [UInt16.lt_iff_toNat_lt] at hnot
    apply UInt16.toNat_inj.mp
    omega

/-- What remains after a packet is taken in. -/
theorem remainingLen_synced {size requested : UInt16} {packet : Packet} {h : Hcd}
    (hheld : PacketHeld size requested packet h) :
    (syncedChannel (UInt16.ofNat packet.bytes.length) (epxChannel h)).ep.remainingLen =
      if IsShort (UInt16.ofNat packet.bytes.length) size then 0
      else requested - tuMin16 requested size := by
  rw [← hheld.remainingLen, ← hheld.size]
  rfl

/-- The controller completes a packet of a read. -/
theorem Reading.packetIn {size requested : UInt16} {c : Core0}
    (hc : Reading size requested c) {packet : Packet} (hbounded : packet.bytes.length ≤ 1000) :
    ∃ next, step c (.packetIn packet) = some next ∧ next.halted = none ∧
      NoErrors next.causes ∧ next.slave.outbox = c.slave.outbox ∧
      next.slave.hcd.epPool = c.slave.hcd.epPool ∧
      Waiting size requested packet next.slave := by
  obtain ⟨hcd, hreceive, hheld⟩ := hc.armed.receiveIn hc.bufStatus hbounded
  refine ⟨{ c with slave := { c.slave with
    hcd := hcd, calls := c.slave.calls ++ [.transacted .packetIn] } }, ?_, hc.running, hc.causes,
    rfl, receiveIn_epPool hreceive, hc.level, hc.direction, hc.wLength, hheld⟩
  rw [step_running hc.running]
  simp only [stepRunning, transact, hreceive, Option.map_some]

/-- The interrupt handler takes in a packet of a read. -/
theorem Waiting.hcdIrq {size requested : UInt16} {packet : Packet} {c : Core0}
    (hc : Waiting size requested packet c.slave) (hrunning : c.halted = none)
    (hcauses : NoErrors c.causes) {t : Slave} (hrun : handleEpxBuffer c.slave = .ok () t)
    (hsetup : hasBits t.hcd.sieCtrl sieCtrlSendSetup = false) :
    step c .hcdIrq =
      some { c with slave := acknowledged c.slave.hcd.transComplete t } := by
  have hstatus : (c.slave.hcd.bufStatus != 0) = true := by
    rw [hc.held.bufStatus]
    decide
  have hirq := hcdRp2040Irq_data hcauses hc.held.bufStatus hrun hsetup c.slave.hcd.transComplete
  rw [step_running hrunning]
  unfold stepRunning
  rw [hstatus, runHandler_ok hirq]

theorem ReadArmed.acknowledge {size requested : UInt16} {h : Hcd}
    (harmed : ReadArmed size requested h) (transComplete : Bool) :
    ReadArmed size requested { h with transComplete := transComplete } :=
  ⟨harmed.activeEp, harmed.onEpx, harmed.epAddr, harmed.rx, harmed.userBuf, harmed.xferredLen,
    harmed.remainingLen, harmed.size, harmed.whole, harmed.armed, harmed.control, harmed.started,
    harmed.noSetup⟩

/-- Two steps, one after the other. -/
theorem run_deliver {c middle next : Core0} {packet : Packet}
    (hfirst : step c (.packetIn packet) = some middle)
    (hsecond : step middle .hcdIrq = some next) :
    Machine.run step c (deliver packet) = some next := by
  unfold deliver
  rw [Machine.run_cons, hfirst, Option.bind_some, Machine.run_cons, hsecond]
  rfl

/-- A full packet that is not known to be the last one leaves the read going. -/
theorem Reading.deliver_more {size requested : UInt16} {c : Core0}
    (hc : Reading size requested c) {packet : Packet}
    (hfull : packet.bytes.length = size.toNat) (hsize : size ≠ 0)
    (hmore : size.toNat < requested.toNat) (hfits : packet.bytes.length < 1000) :
    ∃ next, Machine.run step c (deliver packet) = some next ∧ Reading size requested next ∧
      ReadWord size requested (armPid size
        (requested - tuMin16 requested size) (c.slave.hcd.epPool epx).nextPid)
        next.slave.hcd ∧
      Replied c next MsgType.setupData packet.bytes := by
  have hlength : packet.bytes.length ≤ 1000 := Nat.le_of_lt hfits
  obtain ⟨middle, hfirst, hrunning, hcauses, houtbox, hpool, hwaiting⟩ := hc.packetIn hlength
  have hremaining := remainingLen_synced hwaiting.held
  have hcount : UInt16.ofNat packet.bytes.length = size := by
    rw [hfull]
    exact UInt16.ofNat_toNat
  have hshort : ¬ IsShort (UInt16.ofNat packet.bytes.length) size := by
    rw [hcount]
    rintro (hless | hzero)
    · exact absurd hless (UInt16.lt_irrefl _)
    · exact hsize hzero
  have hnonzero : requested - tuMin16 requested size ≠ 0 := by
    rw [tuMin16_right (Nat.le_of_lt hmore)]
    intro hzero
    have hnat := congrArg UInt16.toNat hzero
    rw [UInt16.toNat_sub_of_le _ _ (UInt16.le_iff_toNat_le.mpr (Nat.le_of_lt hmore)),
      UInt16.toNat_zero] at hnat
    omega
  rw [if_neg hshort] at hremaining
  obtain ⟨t, message, hrun, harmed, hword, hstatus, hlevel, hsetup, hadded, hflag, hpayload⟩ :=
    handleEpxBuffer_more hwaiting hfits (by rw [hremaining]; exact hnonzero)
  rw [hpool] at hword
  have hsecond := hwaiting.hcdIrq hrunning hcauses hrun harmed.noSetup
  refine ⟨_, run_deliver hfirst hsecond, ⟨hrunning, hcauses, hlevel, ?_, ?_,
    harmed.acknowledge _, hstatus⟩, ⟨hword.armedFrom, hword.nextPid⟩, message, ?_, hflag, hpayload⟩
  · exact (congrArg ControlRequest.direction hsetup).trans hwaiting.direction
  · exact (congrArg ControlRequest.wLength hsetup).trans hwaiting.wLength
  · exact hadded.trans (by rw [houtbox])

/-- A short packet ends the read, and so does the first packet of a request that it covers. -/
theorem Reading.deliver_last {size requested : UInt16} {c : Core0}
    (hc : Reading size requested c) {packet : Packet}
    (hlast : packet.bytes.length < size.toNat ∨ requested.toNat ≤ size.toNat)
    (hfits : packet.bytes.length < 1000) :
    ∃ next, Machine.run step c (deliver packet) = some next ∧ next.halted = none ∧
      ¬ InArmed next.slave.hcd ∧ StatusOutStarted next.slave.hcd ∧
      ArmedFrom size 0 1 next.slave.hcd ∧
      Replied c next (MsgType.lastPacket ||| MsgType.setupData) packet.bytes := by
  have hlength : packet.bytes.length ≤ 1000 := Nat.le_of_lt hfits
  obtain ⟨middle, hfirst, hrunning, hcauses, houtbox, -, hwaiting⟩ := hc.packetIn hlength
  have hremaining : (syncedChannel (UInt16.ofNat packet.bytes.length)
      (epxChannel middle.slave.hcd)).ep.remainingLen = 0 := by
    rw [remainingLen_synced hwaiting.held]
    by_cases hshort : IsShort (UInt16.ofNat packet.bytes.length) size
    · rw [if_pos hshort]
    · rw [if_neg hshort]
      rcases hlast with hless | hcovered
      · refine absurd (.inl ?_) hshort
        rw [UInt16.lt_iff_toNat_lt, UInt16.toNat_ofNat']
        omega
      · rw [tuMin16_left hcovered]
        exact UInt16.sub_self _
  obtain ⟨t, message, hrun, hnotArmed, hstatus, hpid, hadded, hflag, hpayload⟩ :=
    handleEpxBuffer_last hwaiting hfits hremaining
  have hsecond := hwaiting.hcdIrq hrunning hcauses hrun hstatus.1.2.1
  exact ⟨_, run_deliver hfirst hsecond, hrunning, hnotArmed, hstatus, hpid, message,
    hadded.trans (by rw [houtbox]), hflag, hpayload⟩

/-! ## The setup packet -/

/-- The setup packet is sent, and its completion is waiting to be handled. -/
structure SetupWaiting (size : UInt16) (setup : ControlRequest) (s : Slave) : Prop where
  level : s.level = 0
  setup : s.setup = setup
  onEpx : OnEpx (s.hcd.epPool epx)
  epAddr : (s.hcd.epPool epx).epAddr = 0x00
  xferredLen : (s.hcd.epPool epx).xferredLen = 0
  size : (s.hcd.epPool epx).wMaxPacketSize = size
  transferType : (s.hcd.epPool epx).transferType = 0
  sending : hasBits s.hcd.sieCtrl sieCtrlSendSetup = true
  bufStatus : s.hcd.bufStatus = 0

theorem sendSetupFlags_bits (h : Hcd) :
    hasBits (sendSetupFlags h) sieCtrlStartTrans = true ∧
      hasBits (sendSetupFlags h) sieCtrlSendSetup = true := by
  unfold sendSetupFlags preambleBits
  cases needPre h <;> decide

/-- The slave after `hcd_setup_send`. -/
def setupSending (setup : ControlRequest) (s : Slave) : Slave :=
  withHcd { s with debugLock := true, setup := setup, level := 0
                   calls := s.calls ++ [.setupSend setup] }
    (setupStarted s.devAddr setup.toBytes s.hcd)

theorem sendSetup_apply (setup : ControlRequest) (s : Slave) :
    sendSetup setup s = .ok () (setupSending setup s) := by
  have hsend := hcdSetupSend_apply s.devAddr setup.toBytes s.hcd
  exact onHcd_ok (s := { s with debugLock := true, setup := setup, level := 0
                                calls := s.calls ++ [.setupSend setup] }) hsend

theorem handleMessage_setup (setup : ControlRequest) (s : Slave) :
    handleMessage (setupMessage setup) s = .ok () (setupSending setup s) := by
  have hrequest : ControlRequest.ofBuffer (payloadBuffer setup.toBytes) = setup :=
    setup.ofBuffer_toBytes
  have hkind : messageKind (setupMessage setup) = MsgType.setupData := by
    show (MsgType.setupData ||| MsgType.debugPrintAsHex) &&& ~~~MsgType.debugPrintAsHex = _
    decide
  have hmessage : handleMessage (setupMessage setup) = handleSetupData setup.toBytes := by
    unfold handleMessage
    rw [hkind, if_neg (by decide), if_neg (by decide), if_pos rfl]
    rfl
  rw [hmessage]
  refine (Program.require_bind (by simp [ControlRequest.toBytes]) _ _ _).trans ?_
  rw [hrequest]
  exact sendSetup_apply setup s

theorem slavework_setup {s : Slave} {setup : ControlRequest} {rest : SpiQueue}
    (h : s.rx.remove = some (setupMessage setup, rest)) :
    slavework s = .ok () (setupSending setup { s with rx := rest }) := by
  unfold slavework
  rw [Program.read_bind, h]
  exact handleMessage_setup setup { s with rx := rest }

/-- The slave after the progress of `epx` is reset and the end of its transfer is recorded. -/
def epxCompleted (call : Call) (s : Slave) : Slave :=
  withCall (withHcd s (storeEpx s.hcd
    { epxChannel s.hcd with ep := (s.hcd.epPool epx).resetTransfer })) call

@[simp] theorem epxCompleted_epx (call : Call) (s : Slave) :
    (epxCompleted call s).hcd.epPool epx = (s.hcd.epPool epx).resetTransfer := storeEpx_epx _ _

theorem reset_epx (s : Slave) : onHcd (onSlot epx hwEndpointResetTransferNew) s =
    .ok () (withHcd s (storeEpx s.hcd
      { epxChannel s.hcd with ep := (s.hcd.epPool epx).resetTransfer })) :=
  onHcd_ok (onSlot_setEp HwEndpoint.resetTransfer s.hcd)

/-- The completion of the setup packet starts the read. -/
theorem hwTransComplete_apply {s : Slave} (hlevel : s.level = 0)
    (honEpx : OnEpx (s.hcd.epPool epx)) (haddress : (s.hcd.epPool epx).epAddr = 0x00)
    (hxferred : (s.hcd.epPool epx).xferredLen = 0)
    (hsending : hasBits s.hcd.sieCtrl sieCtrlSendSetup = true) :
    hwTransComplete s =
      .ok () (readStarted (s.hcd.epPool epx).devAddr
        { epxCompleted (.xferComplete 0x00 0 0 .success) s with level := 1 }) := by
  have hep := epxCompleted_epx (.xferComplete 0x00 0 0 .success) s
  have hready : OnEpx ((epxCompleted (.xferComplete 0x00 0 0 .success) s).hcd.epPool epx) := by
    rw [hep]
    exact ⟨honEpx.bufferControl, honEpx.endpointControl, honEpx.hwDataBuf⟩
  have hother :
      ((epxCompleted (.xferComplete 0x00 0 0 .success) s).hcd.epPool epx).epAddr ≠ 0x80 := by
    rw [hep]
    show (s.hcd.epPool epx).epAddr ≠ 0x80
    rw [haddress]
    decide
  unfold hwTransComplete
  rw [Program.read_bind, Program.when_true hsending]
  unfold hwXferComplete
  rw [Program.read_bind, Program.when_true (by decide), haddress, hxferred]
  refine (Program.bind_ok (reset_epx s)).trans ?_
  unfold hcdEventXferComplete
  refine (Program.require_bind (.inl rfl) _ _ _).trans ?_
  rw [Program.read_bind, withHcd_level, hlevel, if_pos (by decide), if_pos rfl]
  exact readResponse_ok
    (s := { epxCompleted (.xferComplete 0x00 0 0 .success) s with level := 1 })
    hready (fun hsame => absurd hsame hother) _

/-- A read that is started behind a setup packet is armed. -/
theorem hwTransComplete_setup {size : UInt16} {setup : ControlRequest} {s : Slave}
    (hs : SetupWaiting size setup s) (hdirection : setup.direction = 1) :
    ∃ t, hwTransComplete s = .ok () t ∧ t.level = 1 ∧ t.setup = setup ∧
      ReadArmed size setup.wLength t.hcd ∧ ReadWord size setup.wLength 1 t.hcd ∧
      t.hcd.bufStatus = 0 ∧ t.outbox = s.outbox := by
  have hep := epxCompleted_epx (.xferComplete 0x00 0 0 .success) s
  have hother :
      ((epxCompleted (.xferComplete 0x00 0 0 .success) s).hcd.epPool epx).epAddr ≠ 0x80 := by
    rw [hep]
    show (s.hcd.epPool epx).epAddr ≠ 0x80
    rw [hs.epAddr]
    decide
  have hlength : responseLength s.setup = setup.wLength := by
    unfold responseLength
    rw [hs.setup, hdirection, if_neg (by decide)]
  have hready : OnEpx ((epxCompleted (.xferComplete 0x00 0 0 .success) s).hcd.epPool epx) := by
    rw [hep]
    exact ⟨hs.onEpx.bufferControl, hs.onEpx.endpointControl, hs.onEpx.hwDataBuf⟩
  have hsize :
      ((epxCompleted (.xferComplete 0x00 0 0 .success) s).hcd.epPool epx).wMaxPacketSize =
        size := by
    rw [hep]
    exact hs.size
  refine ⟨_, hwTransComplete_apply hs.level hs.onEpx hs.epAddr hs.xferredLen hs.sending, rfl,
    hs.setup, ?_, ?_, hs.bufStatus, rfl⟩
  · show ReadArmed size setup.wLength (xferStarted _ 0x80 (.bugger 0) (responseLength s.setup)
      (epxCompleted (.xferComplete 0x00 0 0 .success) s).hcd)
    rw [hlength]
    refine xferStarted_readArmed hready (fun hsame => absurd hsame hother) hsize
      (fun hsame => absurd hsame hother) (fun _ => ?_) _
    rw [hep]
    exact hs.transferType
  · show ReadWord size setup.wLength 1 (xferStarted _ 0x80 (.bugger 0) (responseLength s.setup)
      (epxCompleted (.xferComplete 0x00 0 0 .success) s).hcd)
    rw [hlength]
    refine xferStarted_readWord (fun hsame => absurd hsame hother) hsize ?_ _
    -- The turned endpoint is initialised again, and its first packet is DATA1.
    exact congrArg (fun c : Channel => c.ep.nextPid) (if_pos (Ne.symm hother))

/-- Between two transfers the slave gets to wait for the first packet of a read. -/
theorem Idle.start {size : UInt16} {c : Core0} (hc : Idle c)
    (hsize : (c.slave.hcd.epPool epx).wMaxPacketSize = size) {setup : ControlRequest}
    (hdirection : setup.direction = 1) :
    ∃ next, Machine.run step c [.receive (setupMessage setup), .slavework, .setupSent, .hcdIrq] =
        some next ∧ Reading size setup.wLength next ∧
      ReadWord size setup.wLength 1 next.slave.hcd ∧
      next.slave.outbox = c.slave.outbox := by
  have hroom : c.slave.rx.items.length < spiQueueMaxCapacity := by
    rw [hc.rx]
    decide
  obtain ⟨full, hadd⟩ : ∃ full, c.slave.rx.add (setupMessage setup) = some full := by
    unfold Fifo.add
    rw [dif_pos hroom]
    exact ⟨_, rfl⟩
  have hitems : full.items = [setupMessage setup] := by
    rw [(Fifo.add_eq_some.mp hadd).2, hc.rx]
    rfl
  have hremove : full.remove = some (setupMessage setup, .empty) :=
    Fifo.remove_eq_some.mpr (by rw [hitems]; rfl)
  let sent := setupSending setup { c.slave with rx := .empty }
  obtain ⟨hstart, hsetup⟩ := sendSetupFlags_bits c.slave.hcd
  have hsendPacket : sendSetupPacket sent.hcd = some (finishTransaction sent.hcd) :=
    if_pos ⟨hstart, hsetup⟩
  let waiting : Slave :=
    { sent with hcd := finishTransaction sent.hcd, calls := sent.calls ++ [.transacted .setupSent] }
  let cleared := withHcd waiting { waiting.hcd with transComplete := false }
  have hchannel : cleared.hcd.epPool epx =
      (setupChannel c.slave.devAddr (epxChannel c.slave.hcd)).ep :=
    setupStarted_epx c.slave.devAddr setup.toBytes c.slave.hcd
  have hwaiting : SetupWaiting size setup cleared := by
    constructor
    case level => rfl
    case setup => rfl
    case onEpx =>
      rw [hchannel]
      exact ⟨rfl, rfl, rfl⟩
    case epAddr => rw [hchannel]; rfl
    case xferredLen =>
      rw [hchannel]
      exact hc.xferredLen
    case size =>
      rw [hchannel]
      exact hsize
    case transferType => rw [hchannel]; rfl
    case sending => exact (hasBits_kept (by decide)).trans hsetup
    case bufStatus => exact hc.bufStatus
  obtain ⟨t, hrun, hlevel, hkept, harmed, hword, hstatus, houtbox⟩ :=
    hwTransComplete_setup hwaiting hdirection
  have hirq : hcdRp2040Irq c.causes false true waiting = .ok () t := by
    unfold hcdRp2040Irq
    rw [Program.when_true rfl]
    have hclear : (do
        Program.update fun s : Slave => { s with hcd := { s.hcd with transComplete := false } }
        hwTransComplete : SlaveM Unit) waiting = .ok () t := hrun
    refine (Program.bind_ok hclear).trans ?_
    exact handleCauses_ok hc.causes t
  have hnone : (waiting.hcd.bufStatus != 0) = false := by
    show (c.slave.hcd.bufStatus != 0) = false
    rw [hc.bufStatus]
    decide
  refine ⟨{ c with slave := t }, ?_, ⟨hc.running, hc.causes, hlevel, ?_, ?_, harmed, hstatus⟩,
    hword, houtbox⟩
  · have hrunning (s : Slave) : Core0.halted { c with slave := s } = none := hc.running
    rw [Machine.run_cons]
    have hreceive : step c (.receive (setupMessage setup)) =
        some { c with slave := { c.slave with rx := full } } := by
      rw [step_running hc.running]
      simp only [stepRunning, hadd, Option.map_some]
    have hwork : step { c with slave := { c.slave with rx := full } } .slavework =
        some { c with slave := sent } := by
      refine (step_running (hrunning _) _).trans ?_
      exact congrArg some (runHandler_ok (slavework_setup hremove))
    have hsent : step { c with slave := sent } .setupSent = some { c with slave := waiting } := by
      refine (step_running (hrunning _) _).trans ?_
      simp only [stepRunning, transact, hsendPacket, Option.map_some]
      rfl
    have hhandled : step { c with slave := waiting } .hcdIrq = some { c with slave := t } := by
      refine (step_running (hrunning _) _).trans ?_
      unfold stepRunning
      rw [hnone]
      exact congrArg some (runHandler_ok hirq)
    rw [hreceive, Option.bind_some, Machine.run_cons, hwork, Option.bind_some, Machine.run_cons,
      hsent, Option.bind_some, Machine.run_cons, hhandled]
    rfl
  · exact (congrArg ControlRequest.direction hkept).trans hdirection
  · exact congrArg ControlRequest.wLength hkept

/-! ## The whole read -/

/-- The messages that answer full packets: replies without LAST_PACKET. -/
structure PartialReplies (messages : List SpiMessage) (bytes : List UInt8) : Prop where
  bytes : messages.flatMap (fun message => message.payload.dropLast) = bytes
  flag : ∀ message ∈ messages, message.eFlag = MsgType.isPacket ||| MsgType.setupData

/-- Full packets of a larger request leave the read going. -/
theorem Reading.deliver_full {size requested : UInt16} {full : List Packet} {c : Core0}
    (hc : Reading size requested c) (hsize : size ≠ 0) (hfits : size.toNat < 1000)
    (hmore : size.toNat < requested.toNat) (hfull : ∀ packet ∈ full, packet.bytes.length = size.toNat) :
    ∃ next messages, Machine.run step c (full.flatMap deliver) = some next ∧
      Reading size requested next ∧ next.slave.outbox = c.slave.outbox ++ messages ∧
      PartialReplies messages (full.flatMap Packet.bytes) := by
  -- Every packet brings the slave back to where it waits for the first one.
  induction full generalizing c with
  | nil => exact ⟨c, [], rfl, hc, (List.append_nil _).symm, rfl, nofun⟩
  | cons packet rest ih =>
      have hpacket := hfull packet List.mem_cons_self
      obtain ⟨middle, hfirst, hmiddle, -, message, houtbox, hflag, hpayload⟩ :=
        hc.deliver_more hpacket hsize hmore (by omega)
      obtain ⟨next, messages, hrest, hnext, hadded, hbytes, hflags⟩ :=
        ih hmiddle fun other hmem => hfull other (List.mem_cons_of_mem _ hmem)
      refine ⟨next, message :: messages, ?_, hnext, ?_, ?_, ?_⟩
      · rw [List.flatMap_cons, Machine.run_append, hfirst]
        exact hrest
      · rw [hadded, houtbox, List.append_assoc]
        rfl
      · rw [List.flatMap_cons, List.flatMap_cons, hbytes, hpayload, List.dropLast_concat]
      · intro other hmem
        rcases List.mem_cons.mp hmem with rfl | htail
        · exact hflag
        · exact hflags other htail

theorem PartialReplies.replies {messages : List SpiMessage} {bytes : List UInt8}
    (h : PartialReplies messages bytes) : setupReplies messages = messages := by
  refine List.filter_eq_self.mpr fun message hmem => ?_
  rw [h.flag message hmem]
  decide

theorem PartialReplies.not_last {messages : List SpiMessage} {bytes : List UInt8}
    (h : PartialReplies messages bytes) {message : SpiMessage} (hmem : message ∈ messages) :
    ¬ hasFlag message.eFlag MsgType.lastPacket := by
  rw [h.flag message hmem]
  decide

/-- A read whose last packet is recognised goes through. -/
theorem Reading.completes {size requested : UInt16} {c : Core0}
    (hc : Reading size requested c) (hsize : size ≠ 0) (hfits : size.toNat < 1000)
    (full : List Packet)
    (hmore : full ≠ [] → size.toNat < requested.toNat)
    (hfull : ∀ packet ∈ full, packet.bytes.length = size.toNat) {short : Packet}
    (hbounded : short.bytes.length ≤ size.toNat)
    (hlast : short.bytes.length < size.toNat ∨ requested.toNat ≤ size.toNat) :
    ∃ last, Machine.run step c ((full ++ [short]).flatMap deliver) = some last ∧
      Answered ((full ++ [short]).flatMap Packet.bytes) c last := by
  obtain ⟨middle, messages, hfront, hmiddle, houtbox, hreplies⟩ :
      ∃ next messages, Machine.run step c (full.flatMap deliver) = some next ∧
        Reading size requested next ∧ next.slave.outbox = c.slave.outbox ++ messages ∧
        PartialReplies messages (full.flatMap Packet.bytes) := by
    by_cases hempty : full = []
    · subst hempty
      exact ⟨c, [], rfl, hc, (List.append_nil _).symm, rfl, nofun⟩
    · exact hc.deliver_full hsize hfits (hmore hempty) hfull
  obtain ⟨last, hrun, hrunning, hnotArmed, hstatus, -, message, hadded, hflag, hpayload⟩ :=
    hmiddle.deliver_last hlast (by omega)
  have hreply : hasFlag message.eFlag MsgType.setupData := by
    rw [hflag]
    decide
  have hall : setupReplies (messages ++ [message]) = messages ++ [message] := by
    have hone : setupReplies [message] = [message] := by simp [setupReplies, hreply]
    rw [setupReplies, List.filter_append]
    exact congrArg₂ (· ++ ·) hreplies.replies hone
  refine ⟨last, ?_, hrunning, ⟨messages ++ [message], ?_, ?_, ?_⟩, hnotArmed, hstatus⟩
  · rw [List.flatMap_append, Machine.run_append, hfront]
    simpa using hrun
  · rw [hadded, houtbox, List.append_assoc]
  · rw [hall, List.flatMap_append, List.flatMap_append, hreplies.bytes]
    simp [hpayload]
  · rw [hall]
    refine ⟨messages, message, rfl, ?_, fun other hmem => hreplies.not_last hmem⟩
    rw [hflag]
    decide

/-- Full packets alone do not end a read of more than one packet. -/
theorem Reading.not_answered {size requested : UInt16} {full : List Packet}
    {c last : Core0} (hc : Reading size requested c) (hsize : size ≠ 0)
    (hfits : size.toNat < 1000) (hmore : size.toNat < requested.toNat)
    (hfull : ∀ packet ∈ full, packet.bytes.length = size.toNat)
    (hrun : Machine.run step c (full.flatMap deliver) = some last) (response : List UInt8) :
    ¬ Answered response c last := by
  intro hanswered
  obtain ⟨next, messages, hnext, -, houtbox, hreplies⟩ := hc.deliver_full hsize hfits hmore hfull
  have hsame : next = last := Option.some.inj (hnext.symm.trans hrun)
  obtain ⟨others, hothers, -, front, marked, hsplit, hmarked, -⟩ := hanswered.outbox
  have hmessages : others = messages := by
    rw [← hsame, houtbox] at hothers
    exact (List.append_cancel_left hothers).symm
  rw [hmessages, hreplies.replies] at hsplit
  have hmem : marked ∈ messages := by
    rw [hsplit]
    exact List.mem_append_right _ (List.mem_singleton_self _)
  exact hreplies.not_last hmem hmarked

theorem length_full {size : Nat} {full : List Packet}
    (hfull : ∀ packet ∈ full, packet.bytes.length = size) :
    (full.flatMap Packet.bytes).length = full.length * size := by
  induction full with
  | nil => simp
  | cons packet rest ih =>
      have hrest := ih fun other hmem => hfull other (List.mem_cons_of_mem _ hmem)
      rw [List.flatMap_cons, List.length_append, hrest, hfull packet List.mem_cons_self,
        List.length_cons, Nat.succ_mul, Nat.add_comm]

/-- A control read goes through to its status stage unless the response is exactly as long as
requested and consists of several full packets. -/
theorem readCompletes_iff {size : UInt8} {c : Core0} (hready : Ready size c) (hsize : size ≠ 0)
    {setup : ControlRequest} (hdirection : setup.direction = 1) (hlength : setup.wLength ≠ 0)
    {response : List UInt8} (hresponse : response.length ≤ setup.wLength.toNat)
    {packets : List Packet}
    (hpackets : DeliveredAs size.toNat setup.wLength.toNat response packets) :
    ReadCompletes c setup response packets ↔
      ¬ (response.length = setup.wLength.toNat ∧ size.toNat ∣ setup.wLength.toNat ∧
        size.toNat < setup.wLength.toNat) := by
  have hpositive : 0 < size.toNat := by
    rcases Nat.eq_zero_or_pos size.toNat with hzero | hpos
    · exact absurd (UInt8.toNat_inj.mp hzero) hsize
    · exact hpos
  have hfits : size.toNat < 1000 := Nat.lt_of_lt_of_le size.toNat_lt (by decide)
  obtain ⟨start, hstart, hreading, -, houtbox⟩ := hready.idle.start hready.size hdirection
  -- From here on the packet size is the field of 16 bits.
  have hwide : size.toUInt16 ≠ 0 := by
    intro hzero
    have hnat := congrArg UInt16.toNat hzero
    rw [UInt8.toNat_toUInt16] at hnat
    exact hsize (UInt8.toNat_inj.mp hnat)
  rw [← UInt8.toNat_toUInt16 size] at hpackets hpositive hfits ⊢
  clear hsize hready
  generalize size.toUInt16 = size at *
  have hrun (packets : List Packet) : Machine.run step c (controlRead setup packets) =
      Machine.run step start (packets.flatMap deliver) := by
    unfold controlRead
    rw [Machine.run_append, hstart]
    rfl
  have hanswered (last : Core0) : Answered response c last ↔ Answered response start last := by
    constructor
    · rintro ⟨hrunning, hout, harmed, hstatus⟩
      exact ⟨hrunning, houtbox ▸ hout, harmed, hstatus⟩
    · rintro ⟨hrunning, hout, harmed, hstatus⟩
      exact ⟨hrunning, houtbox.symm ▸ hout, harmed, hstatus⟩
  obtain ⟨hbytes, full, hfull, hkind⟩ := hpackets
  have hfullLength := length_full hfull
  by_cases hends : response.length < setup.wLength.toNat ∨ ¬ size.toNat ∣ response.length
  · -- The last packet is short.
    rw [if_pos hends] at hkind
    obtain ⟨short, hshort, rfl⟩ := hkind
    have hmore : full ≠ [] → size.toNat < setup.wLength.toNat := by
      intro hne
      have hsum : response.length = full.length * size.toNat + short.bytes.length := by
        rw [← hbytes, List.flatMap_append, List.length_append, hfullLength]
        simp
      have hone : size.toNat ≤ full.length * size.toNat :=
        Nat.le_mul_of_pos_left _ (List.length_pos_iff.mpr hne)
      rcases hends with hless | hdivides
      · omega
      · have hother : response.length ≠ size.toNat := by
          intro hsame
          exact hdivides (hsame ▸ Nat.dvd_refl _)
        omega
    constructor
    · rintro - ⟨hall, hdivides, -⟩
      rcases hends with hless | hnot
      · omega
      · exact hnot (hall ▸ hdivides)
    · intro _
      obtain ⟨last, hlast, hdone⟩ :=
        hreading.completes hwide hfits full hmore hfull (Nat.le_of_lt hshort) (.inl hshort)
      rw [hbytes] at hdone
      exact ⟨last, (hrun _).trans hlast, (hanswered last).mpr hdone⟩
  · -- The response is as long as requested, in full packets only.
    rw [if_neg hends] at hkind
    subst hkind
    rw [not_or, not_not] at hends
    have hall : response.length = setup.wLength.toNat := by omega
    have hdivides : size.toNat ∣ setup.wLength.toNat := hall ▸ hends.2
    by_cases hmore : size.toNat < setup.wLength.toNat
    · constructor
      · rintro ⟨last, hlast, hdone⟩
        rw [hrun] at hlast
        exact absurd ((hanswered last).mp hdone)
          (hreading.not_answered hwide hfits hmore hfull hlast response)
      · exact fun hnot => absurd ⟨hall, hdivides, hmore⟩ hnot
    · have hrequested : 0 < setup.wLength.toNat := by
        rcases Nat.eq_zero_or_pos setup.wLength.toNat with hzero | hpos
        · exact absurd (UInt16.toNat_inj.mp hzero) hlength
        · exact hpos
      have hsame : setup.wLength.toNat = size.toNat :=
        Nat.le_antisymm (Nat.le_of_not_lt hmore) (Nat.le_of_dvd hrequested hdivides)
      have hsingle : packets.length = 1 := by
        have hproduct : packets.length * size.toNat = 1 * size.toNat := by
          rw [← hfullLength, hbytes, hall, hsame, Nat.one_mul]
        exact Nat.eq_of_mul_eq_mul_right hpositive hproduct
      obtain ⟨packet, rfl⟩ := List.length_eq_one_iff.mp hsingle
      constructor
      · exact fun _ hnot => hmore hnot.2.2
      · intro _
        have hpacket := hfull packet (List.mem_singleton_self _)
        obtain ⟨last, hlast, hdone⟩ := hreading.completes hwide hfits []
          (fun hne => absurd rfl hne) nofun (Nat.le_of_eq hpacket) (.inr (Nat.le_of_eq hsame))
        rw [List.nil_append, hbytes] at hdone
        exact ⟨last, (hrun _).trans hlast, (hanswered last).mpr hdone⟩

/-! ## Two reads with packets of eight bytes -/

/-- The master sets the packet size of endpoint 0 to eight. -/
def packetSizeEight : List Event :=
  [.receive ⟨MsgType.chgEpxPacketsize, [8], by decide⟩, .slavework]

/-- The state of the slave that a read needs, in a form that can be tested. -/
theorem packetSizeEight_ready {P : Core0 → Prop} [DecidablePred P]
    (h : (Machine.run step (.init 0) packetSizeEight).any (fun c =>
      decide (c.halted = none ∧ c.causes = [] ∧ c.slave.rx.items = [] ∧
        (c.slave.hcd.epPool epx).wMaxPacketSize = UInt8.toUInt16 8 ∧
        (c.slave.hcd.epPool epx).xferredLen = 0 ∧ c.slave.hcd.bufStatus = 0 ∧
        c.slave.hcd.transComplete = false ∧ P c)) = true) :
    ∃ c, Machine.run step (.init 0) packetSizeEight = some c ∧ Ready 8 c ∧ P c := by
  obtain ⟨c, hrun, hrunning, hcauses, hrx, hsize, hxferred, hstatus, htrans, hP⟩ :=
    Machine.exists_run_of_any h
  refine ⟨c, hrun, ⟨hrunning, ?_, hrx, hsize, hxferred, hstatus, htrans⟩, hP⟩
  rw [hcauses]
  exact nofun

/-- A packet with the given bytes. -/
def packetOf (bytes : List UInt8) (h : bytes.length ≤ 1023) : Packet := ⟨bytes, h⟩

/-- The device descriptor in packets of eight bytes. -/
def deviceDescriptorPackets : List Packet :=
  [packetOf [18, 1, 0, 2, 0, 0, 0, 8] (by decide),
    packetOf [0x5e, 4, 0xa5, 7, 0x10, 1, 1, 2] (by decide), packetOf [3, 1] (by decide)]

theorem deviceDescriptor_readCompletes :
    ∃ c, Machine.run step (.init 0) packetSizeEight = some c ∧
      ReadCompletes c ⟨0x80, 6, 0x0100, 0, 18⟩
        [18, 1, 0, 2, 0, 0, 0, 8, 0x5e, 4, 0xa5, 7, 0x10, 1, 1, 2, 3, 1]
        deviceDescriptorPackets := by
  obtain ⟨c, hrun, hready, -⟩ := packetSizeEight_ready (P := fun _ => True) (by decide +kernel)
  refine ⟨c, hrun, (readCompletes_iff hready (by decide) (by decide) (by decide) (by decide) ?_).mpr
    (by decide)⟩
  refine ⟨by decide, deviceDescriptorPackets.take 2, by decide, ?_⟩
  rw [if_pos (by decide)]
  exact ⟨packetOf [3, 1] (by decide), by decide, rfl⟩

/-- A string descriptor of sixteen bytes in two packets of eight. -/
def stringDescriptorPackets : List Packet :=
  [packetOf [16, 3, 75, 0, 101, 0, 121, 0] (by decide),
    packetOf [98, 0, 111, 0, 97, 0, 114, 0] (by decide)]

/-- Sixteen bytes are requested and sixteen arrive in two packets: no reply is marked as the
last. -/
theorem fullPackets_not_readCompletes :
    ¬ ∀ (size : UInt8) (c : Core0) (setup : ControlRequest) (response : List UInt8)
      (packets : List Packet), Ready size c → size ≠ 0 → setup.direction = 1 →
      setup.wLength ≠ 0 → response.length ≤ setup.wLength.toNat →
      DeliveredAs size.toNat setup.wLength.toNat response packets →
      ReadCompletes c setup response packets := by
  intro hclaim
  obtain ⟨c, -, hready, hnone⟩ := packetSizeEight_ready (P := fun c =>
    (Machine.run step c (controlRead ⟨0x80, 6, 0x0301, 0, 16⟩ stringDescriptorPackets)).all
      (fun last => last.slave.outbox.all fun message =>
        decide (¬ hasFlag message.eFlag MsgType.lastPacket)) = true) (by decide +kernel)
  obtain ⟨last, hrun, hanswered⟩ := hclaim 8 c ⟨0x80, 6, 0x0301, 0, 16⟩
    [16, 3, 75, 0, 101, 0, 121, 0, 98, 0, 111, 0, 97, 0, 114, 0] stringDescriptorPackets hready
    (by decide) (by decide) (by decide) (by decide)
    ⟨by decide, stringDescriptorPackets, by decide, by rw [if_neg (by decide)]⟩
  obtain ⟨messages, houtbox, -, front, marked, hsplit, hmarked, -⟩ := hanswered.outbox
  have hmem : marked ∈ last.slave.outbox := by
    have hreply : marked ∈ setupReplies messages := by simp [hsplit]
    rw [houtbox]
    exact List.mem_append_right _ (List.mem_filter.mp hreply).1
  rw [hrun] at hnone
  simp only [Option.all_some, List.all_eq_true, decide_eq_true_eq] at hnone
  exact hnone marked hmem hmarked

end UsbSec.Host
