import UsbSec.Host.Irq
import UsbSec.Rp2040.Frame

/-!
# Transfers on the control endpoint

What the functions of the host controller driver do on `epx`, as equations: arming the EPX buffer
for a read or for an empty packet, sending a setup packet, and taking in what was received. None
of them can stop once `epx` has the EPX registers, which `hcd_setup_send` gives it.
-/

namespace UsbSec.Host

open Library Usb Rp2040

/-! ## The transfer engine -/

/-- The word that arms the buffer of an endpoint for what remains. -/
def armedWord (ep : HwEndpoint) : BitVec 32 :=
  lenBits ep.remainingLen ||| bufCtrlAvail ||| fullBits ep.rx ||| pidBits ep.nextPid |||
    lastBits (ep.remainingLen - tuMin16 ep.remainingLen ep.wMaxPacketSize)

/-- The endpoint and the memory after the next buffer is armed without moving data. -/
def armedChannel (c : Channel) : Channel :=
  let buflen := tuMin16 c.ep.remainingLen c.ep.wMaxPacketSize
  let remaining := c.ep.remainingLen - buflen
  { ep := { c.ep with
      remainingLen := remaining
      nextPid := nextPidAfter c.ep.nextPid remaining buflen c.ep.wMaxPacketSize }
    memory := c.memory.writeWord c.ep.bufferControl (armedWord c.ep) }

/-- An endpoint at the start of a transfer. -/
def freshTransfer (buffer : UserBuf) (totalLen : UInt16) (ep : HwEndpoint) : HwEndpoint :=
  { ep with remainingLen := totalLen, xferredLen := 0, active := true, userBuf := buffer
            isPartial := false }

/-- The endpoint and the memory after a transfer is started. -/
def startedChannel (buffer : UserBuf) (totalLen : UInt16) (c : Channel) : Channel :=
  armedChannel { c with ep := freshTransfer buffer totalLen c.ep }

/-- The part of starting a transfer that is common to both directions. -/
theorem hwEndpointXferStart_apply (buffer : UserBuf) (totalLen : UInt16) (c : Channel) :
    hwEndpointXferStart .slave buffer totalLen c =
      startNextBufferSlave { c with ep := freshTransfer buffer totalLen c.ep } := by
  obtain ⟨ep, memory⟩ := c
  cases ep
  rename_i active _ _ _ _ _ _ _ _
  cases active <;> rfl

/-- Arming a buffer for reception moves no data. -/
theorem startNextBufferSlave_receive {c : Channel} (hrx : c.ep.rx = true) :
    startNextBufferSlave c = .ok () (armedChannel c) := by
  obtain ⟨ep, memory⟩ := c
  cases ep
  cases hrx
  unfold startNextBufferSlave
  simp only [Program.read_bind, when_divides]
  exact hwEndpointBufferControlSetValue32_apply _ _

/-- Starting a read moves no data. -/
theorem hwEndpointXferStart_receive {c : Channel} (hrx : c.ep.rx = true) (buffer : UserBuf)
    (totalLen : UInt16) :
    hwEndpointXferStart .slave buffer totalLen c =
      .ok () (startedChannel buffer totalLen c) := by
  rw [hwEndpointXferStart_apply]
  exact startNextBufferSlave_receive hrx

theorem tuMin16_zero (length : UInt16) : tuMin16 0 length = 0 := by
  unfold tuMin16
  split
  · rfl
  · rename_i hlt
    exact UInt16.le_zero_iff.mp (UInt16.not_lt.mp hlt)

/-- Loading no bytes changes nothing. -/
theorem loadBuffer_empty {c : Channel} (hbuf : c.ep.hwDataBuf = some epxDataOffset) :
    loadBuffer .slave .null 0 0 c = .ok () c := by
  obtain ⟨ep, memory⟩ := c
  cases ep
  cases hbuf
  show EStateM.Result.ok () (Channel.mk _ { memory with data := memory.data.writeAt _ [] }) = _
  rw [Buffer.writeAt_nil]

/-- Starting an empty packet moves no data. -/
theorem hwEndpointXferStart_empty {c : Channel} (hrx : c.ep.rx = false)
    (hbuf : c.ep.hwDataBuf = some epxDataOffset) :
    hwEndpointXferStart .slave .null 0 c = .ok () (startedChannel .null 0 c) := by
  obtain ⟨ep, memory⟩ := c
  cases ep
  cases hrx
  cases hbuf
  rw [hwEndpointXferStart_apply]
  unfold startNextBufferSlave startedChannel armedChannel armedWord freshTransfer
  simp only [Program.read_bind, when_divides, tuMin16_zero]
  refine (Program.bind_ok rfl).trans ?_
  refine (Program.bind_ok (loadBuffer_empty rfl)).trans ?_
  refine (Program.bind_ok rfl).trans ?_
  exact hwEndpointBufferControlSetValue32_apply _ _

/-- The endpoint and the memory after a received packet is taken in. -/
def syncedChannel (count : UInt16) (c : Channel) : Channel where
  ep := { c.ep with
    xferredLen := c.ep.xferredLen + count
    remainingLen := if IsShort count c.ep.wMaxPacketSize then 0 else c.ep.remainingLen }
  memory := { c.memory with
    bugger := c.memory.bugger.writeAt 0 (c.memory.data.bytesAt epxDataOffset count.toNat) }

/-- The buffer of a read into the static buffer holds a packet. -/
structure Received (c : Channel) (count : UInt16) : Prop where
  rx : c.ep.rx = true
  userBuf : c.ep.userBuf = .bugger 0
  hwDataBuf : c.ep.hwDataBuf = some epxDataOffset
  full : hasBits (c.memory.readWord c.ep.bufferControl) bufCtrlFull = true
  bufLen : bufLen (c.memory.readWord c.ep.bufferControl) = count
  bounded : count.toNat ≤ buggerSize .slave

/-- The endpoint and the memory after a packet is taken in from the buffer at `offset`. -/
def takenChannel (offset : Nat) (count : UInt16) (c : Channel) : Channel where
  ep := { c.ep with
    xferredLen := c.ep.xferredLen + count
    remainingLen := if IsShort count c.ep.wMaxPacketSize then 0 else c.ep.remainingLen }
  memory := { c.memory with
    bugger := c.memory.bugger.writeAt 0 (c.memory.data.bytesAt offset count.toNat) }

/-- The buffer at `offset`, that of a read into the static buffer, holds a packet. -/
structure Holds (offset : Nat) (c : Channel) (count : UInt16) : Prop where
  rx : c.ep.rx = true
  userBuf : c.ep.userBuf = .bugger 0
  hwDataBuf : c.ep.hwDataBuf = some offset
  full : hasBits (c.memory.readWord c.ep.bufferControl) bufCtrlFull = true
  bufLen : bufLen (c.memory.readWord c.ep.bufferControl) = count
  bounded : count.toNat ≤ buggerSize .slave
  inside : offset + count.toNat ≤ usbDpramMax

theorem Received.holds {c : Channel} {count : UInt16} (h : Received c count) :
    Holds epxDataOffset c count := by
  refine ⟨h.rx, h.userBuf, h.hwDataBuf, h.full, h.bufLen, h.bounded, ?_⟩
  have hbounded : count.toNat ≤ 1000 := h.bounded
  show 0x180 + count.toNat ≤ 4096
  omega

theorem syncReceived_apply {offset : Nat} {c : Channel} {count : UInt16}
    (h : Holds offset c count) :
    syncReceived .slave (c.memory.readWord c.ep.bufferControl) count c =
      .ok () { takenChannel offset count c with
        ep := { c.ep with xferredLen := c.ep.xferredLen + count } } := by
  have hread : readData c.ep.hwDataBuf count.toNat c =
      .ok (c.memory.data.bytesAt offset count.toNat) c := by
    rw [h.hwDataBuf]
    exact Program.require_bind h.inside _ _ _
  have hwrite : writeUser .slave c.ep.userBuf (c.memory.data.bytesAt offset count.toNat) c =
      .ok () { takenChannel offset count c with ep := c.ep } := by
    rw [h.userBuf]
    exact Program.require_bind (by simpa using h.bounded) _ _ _
  have hkept : ¬ (c.ep.userBuf = .null ∧ 0 < count) := by simp [h.userBuf]
  unfold syncReceived
  rw [h.full, Program.when_false (by decide), Program.pure_bind, Program.read_bind,
    Program.when_false hkept, Program.pure_bind, Program.read_bind]
  refine (Program.bind_ok hread).trans ?_
  refine (Program.bind_ok hwrite).trans ?_
  rfl

theorem syncEpBuffer_receive {offset : Nat} {c : Channel} {count : UInt16}
    (h : Holds offset c count) :
    syncEpBuffer .slave c = .ok () (takenChannel offset count c) := by
  have hsync : (if c.ep.rx = false then syncSent (c.memory.readWord c.ep.bufferControl) count
      else syncReceived .slave (c.memory.readWord c.ep.bufferControl) count) c =
        .ok () { takenChannel offset count c with
          ep := { c.ep with xferredLen := c.ep.xferredLen + count } } := by
    rw [if_neg (by simp [h.rx])]
    exact syncReceived_apply h
  unfold syncEpBuffer
  rw [Program.read_bind, h.bufLen]
  refine (Program.bind_ok hsync).trans ?_
  rw [Program.read_bind]
  show Program.when (IsShort count c.ep.wMaxPacketSize) _ _ = _
  by_cases hshort : IsShort count c.ep.wMaxPacketSize
  · rw [Program.when_true hshort]
    simp only [takenChannel, if_pos hshort]
    rfl
  · rw [Program.when_false hshort]
    simp only [takenChannel, if_neg hshort]
    rfl

theorem not_doubleBuffered {c : Channel}
    (hsingle : hasBits (c.memory.readWord c.ep.endpointControl) epCtrlDoubleBuffered = false)
    (offset : Nat) (count : UInt16) :
    ¬ hasBits ((takenChannel offset count c).memory.readWord
      (takenChannel offset count c).ep.endpointControl) epCtrlDoubleBuffered = true := by
  have hsame : (takenChannel offset count c).memory.readWord
      (takenChannel offset count c).ep.endpointControl =
        c.memory.readWord c.ep.endpointControl := by
    unfold takenChannel Memory.readWord
    rfl
  rw [hsame, hsingle]
  decide

/-- The last packet of a read is taken in. -/
theorem Holds.continue_last {offset : Nat} {c : Channel} {count : UInt16}
    (h : Holds offset c count) (hwhole : c.ep.isPartial = false)
    (hsingle : hasBits (c.memory.readWord c.ep.endpointControl) epCtrlDoubleBuffered = false)
    (hlast : (takenChannel offset count c).ep.remainingLen = 0) :
    hwEndpointXferContinue .slave c = .ok true (takenChannel offset count c) := by
  unfold hwEndpointXferContinue
  rw [Program.read_bind, hwhole]
  refine (Program.bind_ok (syncEpBuffer_receive h)).trans ?_
  rw [Program.read_bind, if_neg (not_doubleBuffered hsingle offset count), if_pos hlast]
  rfl

/-- A packet of a read that goes on is taken in, and the buffer is armed again. -/
theorem Holds.continue_more {offset : Nat} {c : Channel} {count : UInt16}
    (h : Holds offset c count) (hwhole : c.ep.isPartial = false)
    (hsingle : hasBits (c.memory.readWord c.ep.endpointControl) epCtrlDoubleBuffered = false)
    (hmore : (takenChannel offset count c).ep.remainingLen ≠ 0) :
    hwEndpointXferContinue .slave c = .ok false (armedChannel (takenChannel offset count c)) := by
  unfold hwEndpointXferContinue
  rw [Program.read_bind, hwhole]
  refine (Program.bind_ok (syncEpBuffer_receive h)).trans ?_
  have hrx : (takenChannel offset count c).ep.rx = true := h.rx
  rw [Program.read_bind, if_neg (not_doubleBuffered hsingle offset count), if_neg hmore]
  exact (Program.bind_ok (startNextBufferSlave_receive hrx)).trans rfl

theorem hwEndpointXferContinue_last {c : Channel} {count : UInt16} (h : Received c count)
    (hwhole : c.ep.isPartial = false)
    (hsingle : hasBits (c.memory.readWord c.ep.endpointControl) epCtrlDoubleBuffered = false)
    (hlast : (syncedChannel count c).ep.remainingLen = 0) :
    hwEndpointXferContinue .slave c = .ok true (syncedChannel count c) :=
  h.holds.continue_last hwhole hsingle hlast

theorem hwEndpointXferContinue_more {c : Channel} {count : UInt16} (h : Received c count)
    (hwhole : c.ep.isPartial = false)
    (hsingle : hasBits (c.memory.readWord c.ep.endpointControl) epCtrlDoubleBuffered = false)
    (hmore : (syncedChannel count c).ep.remainingLen ≠ 0) :
    hwEndpointXferContinue .slave c = .ok false (armedChannel (syncedChannel count c)) :=
  h.holds.continue_more hwhole hsingle hmore

/-! ## The driver -/

/-- The endpoint has the EPX registers. -/
structure OnEpx (ep : HwEndpoint) : Prop where
  bufferControl : ep.bufferControl = some epxBufCtrl
  endpointControl : ep.endpointControl = some epxCtrl
  hwDataBuf : ep.hwDataBuf = some epxDataOffset

/-- `epx` and the memory. -/
def epxChannel (h : Hcd) : Channel := ⟨h.epPool epx, h.memory⟩

/-- Put `epx` and the memory back. -/
def storeEpx (h : Hcd) (c : Channel) : Hcd :=
  { h with epPool := Function.update h.epPool epx c.ep, memory := c.memory }

@[simp] theorem storeEpx_epx (h : Hcd) (c : Channel) : (storeEpx h c).epPool epx = c.ep := by
  simp [storeEpx]

@[simp] theorem storeEpx_memory (h : Hcd) (c : Channel) : (storeEpx h c).memory = c.memory := rfl

@[simp] theorem storeEpx_storeEpx (h : Hcd) (c d : Channel) :
    storeEpx (storeEpx h c) d = storeEpx h d := by
  simp [storeEpx]

@[simp] theorem epxChannel_storeEpx (h : Hcd) (c : Channel) : epxChannel (storeEpx h c) = c := by
  simp [epxChannel]

theorem onSlot_epx {α : Type} {engine : Engine α} {h : Hcd} {value : α} {c : Channel}
    (hrun : engine (epxChannel h) = .ok value c) :
    onSlot epx engine h = .ok value (storeEpx h c) := Program.onPart_ok hrun

theorem onSlot_storeEpx {α : Type} {engine : Engine α} {c d : Channel} {value : α}
    (hrun : engine c = .ok value d) (h : Hcd) :
    onSlot epx engine (storeEpx h c) = .ok value (storeEpx h d) := by
  rw [← epxChannel_storeEpx h c] at hrun
  rw [onSlot_epx hrun, storeEpx_storeEpx]

theorem onSlot_setEp (change : HwEndpoint → HwEndpoint) (h : Hcd) :
    onSlot epx (setEp change) h =
      .ok () (storeEpx h { epxChannel h with ep := change (h.epPool epx) }) := rfl

/-- `epx` after `_hw_endpoint_init`. -/
def initialisedChannel (devAddr epAddr : UInt8) (wMaxPacketSize : UInt16) (transferType : UInt8)
    (c : Channel) : Channel where
  ep := { HwEndpoint.initialised devAddr epAddr wMaxPacketSize transferType c.ep with
    configured := true }
  memory := c.memory.writeWord (some epxCtrl)
    (hostEndpointReg transferType (hwDataOffset epxDataOffset) 0)

theorem hostEndpointInit_epx {h : Hcd} (hready : OnEpx (h.epPool epx)) (devAddr epAddr : UInt8)
    (wMaxPacketSize : UInt16) (transferType : UInt8) :
    hostEndpointInit epx devAddr epAddr wMaxPacketSize transferType 0 h =
      .ok () (storeEpx h
        (initialisedChannel devAddr epAddr wMaxPacketSize transferType (epxChannel h))) := by
  obtain ⟨hbuffer, hcontrol, hdata⟩ := hready
  have haligned : hwDataOffset epxDataOffset % 64 = 0 := by decide
  unfold hostEndpointInit
  rw [Program.read_bind]
  simp only [hbuffer, hcontrol, hdata, runtimeAssert, ne_eq, reduceCtorEq, not_false_eq_true,
    Program.require_true, Program.pure_bind, Option.getD_some, haligned]
  refine (Program.bind_ok (onSlot_setEp _ _)).trans ?_
  refine (Program.bind_ok rfl).trans ?_
  refine (Program.bind_ok rfl).trans ?_
  refine (Program.bind_ok (onSlot_setEp _ _)).trans ?_
  simp [storeEpx, initialisedChannel, epxChannel]

/-- `epx` turned into the given direction, when it has another. -/
def turnedChannel (devAddr epAddr : UInt8) (c : Channel) : Channel :=
  if epAddr ≠ c.ep.epAddr then
    initialisedChannel devAddr epAddr c.ep.wMaxPacketSize c.ep.transferType c
  else c

/-- The controller after a transfer is started on `epx`. -/
def xferStarted (devAddr epAddr : UInt8) (buffer : UserBuf) (buflen : UInt16) (h : Hcd) : Hcd :=
  { storeEpx h (startedChannel buffer buflen (turnedChannel devAddr epAddr (epxChannel h))) with
    activeEp := some epx
    devAddrCtrl := devAddr.toBitVec.setWidth 32 |||
      (tuEdptNumber epAddr).toBitVec.setWidth 32 <<< 16
    sieCtrl := startDataFlags h epAddr }

/-- Turning the control endpoint when it has another direction. -/
theorem turn_epx {h : Hcd} (hready : OnEpx (h.epPool epx)) (devAddr epAddr : UInt8) :
    Program.when (epAddr ≠ (h.epPool epx).epAddr)
      (hostEndpointInit epx devAddr epAddr (h.epPool epx).wMaxPacketSize
        (h.epPool epx).transferType 0) h =
      .ok () (storeEpx h (turnedChannel devAddr epAddr (epxChannel h))) := by
  by_cases hturn : epAddr ≠ (h.epPool epx).epAddr
  · have hturned : turnedChannel devAddr epAddr (epxChannel h) = _ := if_pos hturn
    rw [Program.when_true hturn, hturned]
    exact hostEndpointInit_epx hready _ _ _ _
  · have hturned : turnedChannel devAddr epAddr (epxChannel h) = _ := if_neg hturn
    rw [Program.when_false hturn, hturned]
    simp [storeEpx, epxChannel, Program.pure_apply]

/-- `hcd_edpt_xfer` on the control endpoint, when the transfer itself can be started. -/
theorem hcdEdptXfer_control {h : Hcd} (hready : OnEpx (h.epPool epx)) {devAddr epAddr : UInt8}
    {buffer : UserBuf} {buflen : UInt16} (hnumber : tuEdptNumber epAddr = 0)
    (hstart : hwEndpointXferStart .slave buffer buflen
      (turnedChannel devAddr epAddr (epxChannel h)) =
        .ok () (startedChannel buffer buflen (turnedChannel devAddr epAddr (epxChannel h)))) :
    hcdEdptXfer devAddr epAddr buffer buflen h =
      .ok () (xferStarted devAddr epAddr buffer buflen h) := by
  have hslot : getDevEp h epAddr = some epx := by simp [getDevEp, hnumber]
  let active : Hcd := { h with activeEp := some epx }
  unfold hcdEdptXfer
  rw [Program.read_bind, hslot]
  show (Program.when _ _ >>= _) active = _
  refine (Program.bind_ok (turn_epx (h := active) hready devAddr epAddr)).trans ?_
  exact (Program.bind_ok (onSlot_storeEpx hstart active)).trans rfl

/-- The direction of a turned endpoint, given that it is right when it is not turned. -/
theorem turnedChannel_rx {devAddr epAddr : UInt8} {c : Channel}
    (hrx : c.ep.epAddr = epAddr → c.ep.rx = tuEdptDirIn epAddr) :
    (turnedChannel devAddr epAddr c).ep.rx = tuEdptDirIn epAddr := by
  unfold turnedChannel
  split
  · rfl
  · rename_i hsame
    exact hrx (not_not.mp hsame).symm

@[simp] theorem turnedChannel_epAddr (devAddr epAddr : UInt8) (c : Channel) :
    (turnedChannel devAddr epAddr c).ep.epAddr = epAddr := by
  unfold turnedChannel
  split
  · rfl
  · rename_i hsame
    exact (not_not.mp hsame).symm

@[simp] theorem turnedChannel_shape (devAddr epAddr : UInt8) (c : Channel) :
    (turnedChannel devAddr epAddr c).ep.shape = c.ep.shape := by
  unfold turnedChannel
  split <;> rfl

theorem turnedChannel_bugger (devAddr epAddr : UInt8) (c : Channel) :
    (turnedChannel devAddr epAddr c).memory.bugger = c.memory.bugger := by
  unfold turnedChannel
  split <;> rfl

/-- A read on the control endpoint can always be started. -/
theorem hcdEdptXfer_read {h : Hcd} (hready : OnEpx (h.epPool epx))
    (hrx : (h.epPool epx).epAddr = 0x80 → (h.epPool epx).rx = true) (devAddr : UInt8)
    (buffer : UserBuf) (buflen : UInt16) :
    hcdEdptXfer devAddr 0x80 buffer buflen h =
      .ok () (xferStarted devAddr 0x80 buffer buflen h) :=
  hcdEdptXfer_control hready rfl (hwEndpointXferStart_receive (turnedChannel_rx hrx) _ _)

/-- The status stage of a read can always be started. -/
theorem hcdEdptXfer_status {h : Hcd} (hready : OnEpx (h.epPool epx))
    (hrx : (h.epPool epx).epAddr = 0x00 → (h.epPool epx).rx = false) (devAddr : UInt8) :
    hcdEdptXfer devAddr 0x00 .null 0 h = .ok () (xferStarted devAddr 0x00 .null 0 h) := by
  refine hcdEdptXfer_control hready rfl (hwEndpointXferStart_empty (turnedChannel_rx hrx) ?_)
  have hshape := congrArg Shape.hwDataBuf (turnedChannel_shape devAddr 0x00 (epxChannel h))
  exact hshape.trans hready.hwDataBuf

theorem startDataFlags_bits (h : Hcd) (epAddr : UInt8) :
    hasBits (startDataFlags h epAddr) sieCtrlStartTrans = true ∧
      hasBits (startDataFlags h epAddr) sieCtrlSendSetup = false ∧
      hasBits (startDataFlags h epAddr) sieCtrlReceiveData = tuEdptDirIn epAddr ∧
      hasBits (startDataFlags h epAddr) sieCtrlSendData = !tuEdptDirIn epAddr := by
  unfold startDataFlags preambleBits
  cases tuEdptDirIn epAddr <;> cases needPre h <;> decide

theorem armedWord_avail (ep : HwEndpoint) : hasBits (armedWord ep) bufCtrlAvail = true := by
  have havail : hasBits bufCtrlAvail bufCtrlAvail = true := by decide
  simp [armedWord, hasBits_or, havail]

@[simp] theorem xferStarted_epx (devAddr epAddr : UInt8) (buffer : UserBuf) (buflen : UInt16)
    (h : Hcd) : (xferStarted devAddr epAddr buffer buflen h).epPool epx =
      (startedChannel buffer buflen (turnedChannel devAddr epAddr (epxChannel h))).ep := by
  simp [xferStarted, storeEpx]

/-- A transfer that is started leaves `epx` its registers. -/
theorem xferStarted_onEpx {h : Hcd} (hready : OnEpx (h.epPool epx)) (devAddr epAddr : UInt8)
    (buffer : UserBuf) (buflen : UInt16) :
    OnEpx ((xferStarted devAddr epAddr buffer buflen h).epPool epx) := by
  have hshape := turnedChannel_shape devAddr epAddr (epxChannel h)
  rw [xferStarted_epx]
  exact ⟨(congrArg Shape.bufferControl hshape).trans hready.bufferControl,
    (congrArg Shape.endpointControl hshape).trans hready.endpointControl,
    (congrArg Shape.hwDataBuf hshape).trans hready.hwDataBuf⟩

/-- Starting a transfer on `epx` leaves the other slots alone. -/
theorem xferStarted_slots {slot : Nat} (hslot : slot ≠ epx) (devAddr epAddr : UInt8)
    (buffer : UserBuf) (buflen : UInt16) (h : Hcd) :
    (xferStarted devAddr epAddr buffer buflen h).epPool slot = h.epPool slot :=
  Function.update_of_ne hslot _ _

/-- Starting a transfer on `epx` leaves the static buffer alone. -/
theorem xferStarted_bugger (devAddr epAddr : UInt8) (buffer : UserBuf) (buflen : UInt16)
    (h : Hcd) : (xferStarted devAddr epAddr buffer buflen h).memory.bugger = h.memory.bugger := by
  show (Memory.writeWord (turnedChannel devAddr epAddr (epxChannel h)).memory _ _).bugger = _
  rw [Memory.writeWord_bugger, turnedChannel_bugger]
  rfl

/-- The EPX buffer and its control register after a transfer is started. -/
theorem xferStarted_words {h : Hcd} (hready : OnEpx (h.epPool epx)) (devAddr epAddr : UInt8)
    (buffer : UserBuf) (buflen : UInt16) :
    (xferStarted devAddr epAddr buffer buflen h).memory.word epxBufCtrl =
      armedWord (freshTransfer buffer buflen (turnedChannel devAddr epAddr (epxChannel h)).ep) ∧
    (xferStarted devAddr epAddr buffer buflen h).memory.word epxCtrl =
      (turnedChannel devAddr epAddr (epxChannel h)).memory.word epxCtrl := by
  have hshape := congrArg Shape.bufferControl (turnedChannel_shape devAddr epAddr (epxChannel h))
  have hbuffer : (turnedChannel devAddr epAddr (epxChannel h)).ep.bufferControl =
      some epxBufCtrl := hshape.trans hready.bufferControl
  refine ⟨?_, ?_⟩
  · show (Memory.writeWord _ (turnedChannel devAddr epAddr (epxChannel h)).ep.bufferControl
      (armedWord (freshTransfer buffer buflen _))).word epxBufCtrl = _
    rw [hbuffer, Memory.writeWord_same]
  · show (Memory.writeWord _ (turnedChannel devAddr epAddr (epxChannel h)).ep.bufferControl
      (armedWord (freshTransfer buffer buflen _))).word epxCtrl = _
    rw [hbuffer, Memory.writeWord_other _ _ (by decide)]

/-- `epx` and the memory after `hcd_setup_send`. -/
def setupChannel (devAddr : UInt8) (c : Channel) : Channel :=
  let ready := initialisedChannel devAddr 0x00 c.ep.wMaxPacketSize 0
    { c with ep := c.ep.onEpxRegisters }
  { ready with ep := { ready.ep with remainingLen := 8, active := true } }

/-- The controller after `hcd_setup_send`. -/
def setupStarted (devAddr : UInt8) (setupPacket : List UInt8) (h : Hcd) : Hcd :=
  { storeEpx h (setupChannel devAddr (epxChannel h)) with
    setupPacket := h.setupPacket.writeAt 0 setupPacket
    activeEp := some epx
    devAddrCtrl := devAddr.toBitVec.setWidth 32
    sieCtrl := sendSetupFlags h }

@[simp] theorem setupStarted_epx (devAddr : UInt8) (setupPacket : List UInt8) (h : Hcd) :
    (setupStarted devAddr setupPacket h).epPool epx = (setupChannel devAddr (epxChannel h)).ep := by
  simp [setupStarted, storeEpx]

/-- A setup packet can always be sent. -/
theorem hcdSetupSend_apply (devAddr : UInt8) (setupPacket : List UInt8) (h : Hcd) :
    hcdSetupSend devAddr setupPacket h = .ok () (setupStarted devAddr setupPacket h) := by
  let loaded : Hcd := { h with setupPacket := h.setupPacket.writeAt 0 setupPacket }
  let ready : Channel := { epxChannel h with ep := (h.epPool epx).onEpxRegisters }
  have hallocate : hwEndpointAllocate 0 0 loaded = .ok epx (storeEpx loaded ready) := rfl
  have hready : OnEpx ((storeEpx loaded ready).epPool epx) := by
    rw [storeEpx_epx]
    exact ⟨rfl, rfl, rfl⟩
  unfold hcdSetupSend
  rw [Program.update_bind]
  refine (Program.bind_ok hallocate).trans ?_
  rw [Program.read_bind]
  refine (Program.bind_ok (hostEndpointInit_epx hready _ _ _ _)).trans ?_
  rw [Program.update_bind]
  refine (Program.bind_ok (onSlot_setEp _ _)).trans ?_
  simp [setupStarted, setupChannel, storeEpx, epxChannel, loaded, ready, sendSetupFlags,
    preambleBits, needPre, HwEndpoint.onEpxRegisters]

/-! ## Received packets -/

theorem storePacket_same (memory : Memory) (control buffer : Nat) (packet : Packet) :
    (storePacket memory control buffer packet).word buffer =
      receivedWord (memory.word buffer) packet := by
  unfold storePacket
  exact Memory.writeWord_same _ _ _

theorem storePacket_other (memory : Memory) (control : Nat) {buffer other : Nat}
    (packet : Packet) (h : other ≠ buffer) :
    (storePacket memory control buffer packet).word other = memory.word other := by
  unfold storePacket
  exact Memory.writeWord_other _ _ h

/-- The number of bytes in the word of a received packet. -/
theorem bufLen_receivedWord (word : BitVec 32) (packet : Packet) :
    bufLen (receivedWord word packet) = UInt16.ofNat packet.bytes.length :=
  bufLen_filled word packet

/-- A received packet fills the buffer, which is no longer armed. -/
theorem receivedWord_bits (word : BitVec 32) (packet : Packet) :
    hasBits (receivedWord word packet) bufCtrlFull = true ∧
      hasBits (receivedWord word packet) bufCtrlAvail = false := filled_bits word packet

end UsbSec.Host
