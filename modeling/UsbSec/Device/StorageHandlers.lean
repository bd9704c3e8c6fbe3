import UsbSec.Device.BufferPass
import UsbSec.Device.MassStorage

/-!
# The handlers of core 0 on a mounted mass-storage interface

What the functions of the master's loop do in each situation that a mass-storage command brings
about: a command block has arrived, its echo has arrived, a packet of the device has arrived, or the
host has taken a packet. In each the interface stays mounted. The buffers that completed are given
by the bits of `buf_status`.
-/

namespace UsbSec.Device

open Library Usb Rp2040

/-! ## One completed buffer -/

theorem hasBits_bufStatusBit : ∀ i < 32, ∀ j < 32,
    hasBits (bufStatusBit i) (bufStatusBit j) = decide (i = j) := by
  decide +kernel

theorem bufStatusBit_ne_zero : ∀ i < 32, bufStatusBit i ≠ 0 := by decide +kernel

/-- Bits of different buffers. -/
theorem bufStatusBit_or_masked : ∀ i < 32, ∀ j < 32, i ≠ j →
    (bufStatusBit i ||| bufStatusBit j) &&& ~~~bufStatusBit i = bufStatusBit j := by
  decide +kernel

theorem ne_zero_of_hasBits {word bits : BitVec 32} (h : hasBits word bits = true) : word ≠ 0 := by
  rintro rfl
  simp [hasBits] at h

theorem handledBits_out : ∀ num < 16, num ≠ 0 →
    handledBits (bufStatusBit (2 * num + 1)) = [2 * num + 1] := by
  decide +kernel

theorem handledBits_in : ∀ num < 16, num ≠ 0 →
    handledBits (bufStatusBit (2 * num)) = [2 * num] := by
  decide +kernel

theorem handledBits_both : ∀ out < 16, out ≠ 0 → ∀ into < 16, into ≠ 0 →
    handledBits (bufStatusBit (2 * out + 1) ||| bufStatusBit (2 * into)) =
      (2 * out + 1) :: if into = 1 then [] else [2 * into] := by
  decide +kernel

/-- Only the buffer of an OUT endpoint has completed. -/
theorem hwHandleBuffStatus_out {s : Master} {num : Nat} (hnum : num < usbMaxEndpoints)
    (hpos : num ≠ 0) (h : s.dcd.bufStatus = bufStatusBit (2 * num + 1)) :
    hwHandleBuffStatus s = hwHandleBuffStatusBit (2 * num + 1) s := by
  rw [hwHandleBuffStatus_apply, h, handledBits_out num hnum hpos, handleBuffers_singleton]

/-- Only the buffer of an IN endpoint has completed. -/
theorem hwHandleBuffStatus_in {s : Master} {num : Nat} (hnum : num < usbMaxEndpoints)
    (hpos : num ≠ 0) (h : s.dcd.bufStatus = bufStatusBit (2 * num)) :
    hwHandleBuffStatus s = hwHandleBuffStatusBit (2 * num) s := by
  rw [hwHandleBuffStatus_apply, h, handledBits_in num hnum hpos, handleBuffers_singleton]

/-- A buffer of an OUT endpoint and one of an IN endpoint have completed: the loop over the OUT
endpoints forgets the bit of IN endpoint 1, which stays set in `buf_status`. -/
theorem hwHandleBuffStatus_both {s : Master} {out into : Nat} (hout : out < usbMaxEndpoints)
    (houtPos : out ≠ 0) (hin : into < usbMaxEndpoints) (hinPos : into ≠ 0)
    (h : s.dcd.bufStatus = bufStatusBit (2 * out + 1) ||| bufStatusBit (2 * into)) :
    hwHandleBuffStatus s = (hwHandleBuffStatusBit (2 * out + 1) >>= fun _ =>
      Program.when (into ≠ 1) (hwHandleBuffStatusBit (2 * into))) s := by
  rw [hwHandleBuffStatus_apply, h, handledBits_both out hout houtPos into hin hinPos,
    handleBuffers_cons]
  by_cases hone : into = 1
  · rw [if_pos hone, Program.when_false (not_not.mpr hone)]
    rfl
  · rw [if_neg hone, Program.when_true hone, handleBuffers_singleton]

/-! ## Addresses -/

theorem StorageInterface.out_bits (dev : StorageInterface) : dev.epOut &&& 0x80 = 0 := by
  have hdir := dev.out_dir
  simpa [tuEdptDirIn] using hdir

theorem StorageInterface.in_bits (dev : StorageInterface) : dev.epIn &&& 0x80 ≠ 0 := by
  have hdir := dev.in_dir
  simpa [tuEdptDirIn] using hdir

/-- An endpoint with another number than 0 is not the control endpoint. -/
theorem ne_control {epAddr : UInt8} (h : endpointNum epAddr ≠ 0) :
    ¬ (epAddr = 0 ∨ epAddr = 0x80) := by
  rintro (rfl | rfl)
  · exact h rfl
  · exact h rfl

/-! ## Handlers -/

/-- The completion of a transfer goes to the mass-storage driver. -/
theorem dcdEventXferCompleteNew_storage {edpt : UInt8} {count : UInt16} {s : Master}
    (hpos : endpointNum edpt ≠ 0) (hlt : endpointNum edpt < usbMaxEndpoints)
    (hdriver : s.drivers.edptDriver (slotOf edpt) = .massStorage) :
    dcdEventXferCompleteNew edpt count s = mscXfer edpt count s := by
  have hcontrol := ne_control hpos
  have haddress : ¬ (IsSetAddress s.events.setup ∧ edpt = 0x80) := fun h => hcontrol (Or.inr h.2)
  unfold dcdEventXferCompleteNew
  rw [Program.read_bind, if_neg haddress, if_neg hcontrol]
  unfold handleDeviceXferCompleteWithDriver
  rw [Program.read_bind]
  refine (Program.require_bind (slotOf_lt hlt) _ _ _).trans ?_
  rw [show s.drivers.edptDriver (idx edpt).toNat = .massStorage from hdriver]

/-- The master after a completed OUT transfer is forwarded. -/
def Master.forwarded (s : Master) (edpt : UInt8) (count : UInt16) : Master :=
  let bugger := s.dcd.memory.bugger.writeAt count.toNat [edpt]
  { s with
    drivers := { s.drivers with permit0x81 := false, count0x81 := 0 }
    dcd := { s.dcd with memory := { s.dcd.memory with bugger := bugger } }
    outbox := s.outbox ++
      [.copyOf (MsgType.usbData ||| MsgType.debugPrintAsHex) bugger 0 (count + 1)] }

theorem mscXfer_out {edpt : UInt8} {count : UInt16} (hout : edpt &&& 0x80 = 0)
    (hcount : count.toNat < buggerSize .master) (s : Master) :
    mscXfer edpt count s = .ok () (s.forwarded edpt count) := by
  unfold mscXfer
  rw [Program.read_bind, if_pos hout]
  unfold mscXferOut
  rw [Program.update_bind]
  exact Program.require_bind hcount _ _ _

/-- The master after the transfer engine has dealt with a completed buffer. -/
def Master.continued (s : Master) (i num : Nat) (dirIn : Bool) (c : Rp2040.Channel) : Master :=
  let dcd := { s.dcd with bufStatus := s.dcd.bufStatus &&& ~~~bufStatusBit i }
  { s with dcd := dcd.withChannel num dirIn c, calls := s.calls ++ [.xferContinue num dirIn] }

/-- A completed transfer is reported, and the endpoint is reset after that. -/
theorem hwHandleBuffStatusBit_done {i num : Nat} {dirIn : Bool} {s : Master} {c : Rp2040.Channel}
    (hnum : i / 2 = num) (hdir : (i % 2 == 0) = dirIn)
    (hdone : hwEndpointXferContinue .master (s.dcd.channel num dirIn) = .ok true c) :
    hwHandleBuffStatusBit i s =
      (dcdEventXferCompleteNew c.ep.epAddr c.ep.xferredLen >>= fun _ =>
        onDcd (withEndpoint num dirIn hwEndpointResetTransferNew)) (s.continued i num dirIn c) := by
  have hpart : xferContinue num dirIn
      { s with dcd := { s.dcd with bufStatus := s.dcd.bufStatus &&& ~~~bufStatusBit i } } =
        .ok true (s.continued i num dirIn c) := xferContinue_ok hdone
  have hep : (s.continued i num dirIn c).dcd.hwEndpoints num dirIn = c.ep :=
    Dcd.setEndpoint_same _ _ _ _
  unfold hwHandleBuffStatusBit
  rw [Program.update_bind, hnum, hdir, Program.bind_ok hpart, Program.when_true rfl,
    Program.read_bind, hep]

/-- Resetting an endpoint leaves the registers and the other fields alone. -/
theorem reset_apply (num : Nat) (dirIn : Bool) (s : Master) :
    onDcd (withEndpoint num dirIn hwEndpointResetTransferNew) s =
      .ok () { s with
        dcd := s.dcd.withChannel num dirIn
          ⟨(s.dcd.hwEndpoints num dirIn).resetTransfer, s.dcd.memory⟩ } := rfl

/-- A report for a mass-storage endpoint goes to its driver. -/
theorem handleSpiSlaveEvent_storage {s : Master} {msg : SpiMessage} {edpt : UInt8}
    (hreading : s.events.setupResponseDir = .readingResponse) (hrx : s.rx.items = [msg])
    (hflag : msg.eFlag = reportFlag) (hlast : msg.payload.getLast? = some edpt)
    (hlt : endpointNum edpt < usbMaxEndpoints)
    (hdriver : s.drivers.edptDriver (slotOf edpt) = .massStorage)
    (hitf : ¬ IsKeyboard (s.drivers.itfCopy (slotOf edpt))) :
    handleSpiSlaveEvent s =
      mscSpi ⟨reportFlag, msg.payload, UInt16.ofNat (msg.payload.length - 1)⟩ edpt
        { s with rx := .empty } := by
  have hstring : isString msg = false := by
    unfold isString
    rw [hflag]
    decide
  have hremove : (s.rx.dropWhile isString).remove = some (msg, .empty) := by
    refine Fifo.remove_eq_some.mpr ?_
    rw [Fifo.dropWhile_items, hrx]
    simp [hstring]
  have hwriting : ¬ s.events.setupResponseDir = .writingResponse := by
    rw [hreading]
    decide
  unfold handleSpiSlaveEvent
  rw [Program.read_bind, if_neg hwriting]
  rw [hremove]
  dsimp only
  rw [Program.update_bind]
  unfold handleMessage
  rw [hlast, hflag]
  refine (Program.require_bind (show hasFlag reportFlag MsgType.isPacket by decide) _ _ _).trans ?_
  rw [if_neg (by decide)]
  unfold handleSpiSlaveEventWithDriver
  rw [Program.read_bind]
  refine (Program.require_bind (slotOf_lt hlt) _ _ _).trans ?_
  unfold checkComm
  rw [show s.drivers.itfCopy (idx edpt).toNat = s.drivers.itfCopy (slotOf edpt) from rfl,
    show s.drivers.edptDriver (idx edpt).toNat = .massStorage from hdriver,
    Program.when_false hitf, Program.pure_bind]

/-- The message with which the driver asks for the first packet. -/
def knock (edpt len : UInt8) : SpiMessage where
  eFlag := MsgType.usbData ||| MsgType.debugPrintAsHex
  payload := List.replicate len.toNat 0 ++ [edpt]
  payload_lt := SpiMessage.zeros_lt len edpt

/-- The master after the echo of a command block: it asks for a packet and listens again. -/
def Master.listening (s : Master) (edpt : UInt8) : Master :=
  let num := endpointNum edpt
  let c := listeningChannel (.bugger 0) s.drivers.bMaxPacketSize.toUInt16 (s.dcd.channel num false)
  { s with
    calls := s.calls ++ [.mscSpi edpt]
    outbox := s.outbox ++ [knock s.drivers.otherEdpt s.drivers.bMaxPacketSize]
    dcd := s.dcd.withChannel num false c }

theorem mscSpi_out {message : SlavePacket} {edpt : UInt8} {s : Master}
    (hout : edpt &&& 0x80 = 0) (hdir : tuEdptDirIn edpt = false)
    (hlt : endpointNum edpt < usbMaxEndpoints)
    (hrx : (s.dcd.hwEndpoints (endpointNum edpt) false).rx = true)
    (hmode : DeviceMode s.dcd.memory) :
    mscSpi message edpt s = .ok () (s.listening edpt) := by
  have hstart : dcdEdptXferNew edpt (.bugger 0) s.drivers.bMaxPacketSize.toUInt16 s.dcd =
      .ok () (s.listening edpt).dcd := by
    rw [dcdEdptXferNew_apply hlt, hdir]
    exact withEndpoint_apply (hwEndpointXferStart_listens hrx hmode)
  unfold mscSpi record
  rw [Program.update_bind, if_pos hout, Program.read_bind]
  unfold knockOnSlaveEdpt enqueueSpiMessage
  rw [Program.update_bind]
  exact Program.onPart_ok hstart

/-- The master after a packet of the device has arrived: it is offered to the host. -/
def Master.offering (s : Master) (edpt : UInt8) (payload : List UInt8) (count : UInt16) : Master :=
  let num := endpointNum edpt
  { s with
    calls := s.calls ++ [.mscSpi edpt]
    drivers := { s.drivers with permit0x81 := true, count0x81 := s.drivers.count0x81 + 1 }
    dcd := s.dcd.withChannel num true
      (partChannel (.payload payload 0) count (s.dcd.channel num true)) }

theorem mscSpi_in {message : SlavePacket} {edpt : UInt8} {s : Master}
    (hin : edpt &&& 0x80 ≠ 0) (hdir : tuEdptDirIn edpt = true)
    (hlt : endpointNum edpt < usbMaxEndpoints)
    (hfits : message.payloadLength ≤ (s.dcd.hwEndpoints (endpointNum edpt) true).wMaxPacketSize)
    (hload : CanLoad (.payload message.payload 0) message.payloadLength
      (s.dcd.hwEndpoints (endpointNum edpt) true)) :
    mscSpi message edpt s = .ok () (s.offering edpt message.payload message.payloadLength) := by
  let c := s.dcd.channel (endpointNum edpt) true
  have hpart : hwEndpointXferPartial .master (.payload message.payload 0) message.payloadLength c =
      .ok () (partChannel (.payload message.payload 0) message.payloadLength c) := by
    have hwhole : Program.Outcome
        (hwEndpointXferPartial .master (.payload message.payload 0) message.payloadLength) c
        (fun _ d => d = partChannel (.payload message.payload 0) message.payloadLength c)
        fun _ => False :=
      (hwEndpointXferPartial_whole fun _ => hfits).mono (fun _ _ h => h.2.2)
        fun _ hnot => hnot ⟨hfits, hload⟩
    obtain ⟨_, _, hrun, rfl⟩ := hwhole.exists_ok
    exact hrun
  have hstart : dcdEdptXferPartial edpt (.payload message.payload 0) message.payloadLength s.dcd =
      .ok () (s.offering edpt message.payload message.payloadLength).dcd := by
    refine (Program.bind_ok (hwEndpointGetByAddr_apply hlt s.dcd)).trans ?_
    rw [hdir]
    exact withEndpoint_apply hpart
  unfold mscSpi record
  rw [Program.update_bind, if_neg hin, Program.update_bind]
  exact Program.onPart_ok hstart

/-! ## What the handlers do for a mounted interface -/

section Handlers

variable {dev : StorageInterface} {s t : Master}

theorem OutLane.of_fixed {lane next : Lane} (h : OutLane dev lane)
    (hfixed : next.ep.fixed = lane.ep.fixed) (hcontrol : Controls dev.outBase next.control) :
    OutLane dev next where
  opened := h.opened.of_fixed hfixed hcontrol
  epAddr := (eq_of_fixed (fun _ => rfl) hfixed).trans h.epAddr
  size := by
    rw [show next.ep.wMaxPacketSize = lane.ep.wMaxPacketSize from eq_of_fixed (fun _ => rfl) hfixed]
    exact h.size

theorem InLane.of_fixed {lane next : Lane} (h : InLane dev lane)
    (hfixed : next.ep.fixed = lane.ep.fixed) (hcontrol : Controls dev.inBase next.control) :
    InLane dev next where
  opened := h.opened.of_fixed hfixed hcontrol
  epAddr := (eq_of_fixed (fun _ => rfl) hfixed).trans h.epAddr
  size := (eq_of_fixed (fun _ => rfl) hfixed).trans h.size

/-- The bookkeeping of the driver is not part of its tables. -/
theorem StorageDrivers.of_permit {drivers : Drivers} (h : StorageDrivers dev drivers)
    (permit : Bool) (count : Nat) :
    StorageDrivers dev { drivers with permit0x81 := permit, count0x81 := count } :=
  ⟨h.out, h.into, h.outItf, h.inItf, h.otherEdpt, h.bMaxPacketSize⟩

/-- A transfer on the OUT endpoint leaves the lane of the IN endpoint alone. -/
theorem inLane_withChannel {d : Dcd} {c : Rp2040.Channel}
    (hword : ∀ offset, NotOwn (endpointNum dev.epOut) false offset →
      c.memory.word offset = d.memory.word offset) :
    (d.withChannel (endpointNum dev.epOut) false c).lane (endpointNum dev.epIn) true =
      d.lane (endpointNum dev.epIn) true :=
  Dcd.lane_withChannel_other dev.out_lt dev.in_pos dev.in_lt (by simp) hword

/-- A transfer on the IN endpoint leaves the lane of the OUT endpoint alone. -/
theorem outLane_withChannel {d : Dcd} {c : Rp2040.Channel}
    (hword : ∀ offset, NotOwn (endpointNum dev.epIn) true offset →
      c.memory.word offset = d.memory.word offset) :
    (d.withChannel (endpointNum dev.epIn) true c).lane (endpointNum dev.epOut) false =
      d.lane (endpointNum dev.epOut) false :=
  Dcd.lane_withChannel_other dev.in_lt dev.out_pos dev.out_lt (by simp) hword

/-- The command block has arrived in the buffer of the OUT endpoint. -/
structure BlockHeld (dev : StorageInterface) (block : List UInt8) (s : Master) : Prop where
  held : HoldsPacket 31 (s.outLane dev)
  xferredLen : (s.outLane dev).ep.xferredLen = 0
  data : s.dcd.memory.data.bytesAt dev.outBase 31 = block

/-- The bytes of a block with the endpoint address behind them. -/
theorem bytesAt_forwarded (buffer : Buffer) {block : List UInt8} (hlength : block.length = 31)
    (edpt : UInt8) :
    ((buffer.writeAt 0 block).writeAt 31 [edpt]).bytesAt 0 32 = block ++ [edpt] := by
  have hlast : (buffer.writeAt 0 block).writeAt 31 [edpt] (0 + 31) = edpt :=
    Buffer.writeAt_inside _ 31 [edpt] (i := 0) (by simp)
  have hblock : (buffer.writeAt 0 block).bytesAt 0 31 = block := by
    rw [← hlength]
    exact Buffer.bytesAt_writeAt_same _ _ _
  have hfirst : 0 + 31 ≤ 31 := by omega
  rw [Buffer.bytesAt_succ, Buffer.bytesAt_writeAt_before _ _ hfirst, hblock, hlast]

/-- A command block was forwarded to the slave. -/
structure ForwardsBlock (dev : StorageInterface) (block : List UInt8) (s t : Master) : Prop where
  mounted : Mounted dev t
  bufStatus : t.dcd.bufStatus = s.dcd.bufStatus &&& ~~~bufStatusBit (2 * endpointNum dev.epOut + 1)
  rx : t.rx = s.rx
  inLane : t.inLane dev = s.inLane dev
  permit : t.drivers.permit0x81 = false
  outbox : ∃ message, t.outbox = s.outbox ++ [message] ∧ AsksWrite dev message ∧
    message.payload = block ++ [dev.epOut]

/-- A completed OUT buffer is forwarded to the slave. -/
theorem outBuffer_forwards {block : List UInt8} (hm : Mounted dev s)
    (hheld : BlockHeld dev block s) :
    ∃ t, hwHandleBuffStatusBit (2 * endpointNum dev.epOut + 1) s = .ok () t ∧
      ForwardsBlock dev block s t := by
  let num := endpointNum dev.epOut
  let c := receivedChannel dev.outBase 31 (s.dcd.channel num false)
  let s₁ := s.continued (2 * num + 1) num false c
  let s₂ := s₁.forwarded dev.epOut 31
  have hlength : block.length = 31 := by
    rw [← hheld.data]
    exact Buffer.length_bytesAt _ _ _
  have hcontinue : hwEndpointXferContinue .master (s.dcd.channel num false) = .ok true c :=
    hwEndpointXferContinue_receives hm.out.opened hheld.held
  have hcount : c.ep.xferredLen = 31 := by
    show (s.outLane dev).ep.xferredLen + 31 = 31
    rw [hheld.xferredLen]
    rfl
  have hxfer : dcdEventXferCompleteNew c.ep.epAddr c.ep.xferredLen s₁ = .ok () s₂ := by
    rw [hcount, show c.ep.epAddr = dev.epOut from hm.out.epAddr]
    refine (dcdEventXferCompleteNew_storage (s := s₁) dev.out_pos dev.out_lt hm.drivers.out).trans ?_
    exact mscXfer_out dev.out_bits (by decide) s₁
  have hrun : hwHandleBuffStatusBit (2 * num + 1) s =
      (dcdEventXferCompleteNew c.ep.epAddr c.ep.xferredLen >>= fun _ =>
        onDcd (withEndpoint num false hwEndpointResetTransferNew)) s₁ :=
    hwHandleBuffStatusBit_done (by omega) (by simp) hcontinue
  have hin : (s₁.dcd.lane (endpointNum dev.epIn) true) = s.inLane dev :=
    inLane_withChannel (d := { s.dcd with
      bufStatus := s.dcd.bufStatus &&& ~~~bufStatusBit (2 * num + 1) }) fun _ _ => rfl
  have hpayload : (c.memory.bugger.writeAt 31 [dev.epOut]).bytesAt 0 32 = block ++ [dev.epOut] := by
    rw [← bytesAt_forwarded s.dcd.memory.bugger hlength, ← hheld.data]
    rfl
  let last : Rp2040.Channel := ⟨(s₂.dcd.hwEndpoints num false).resetTransfer, s₂.dcd.memory⟩
  have hfixed : last.ep.fixed = (s.outLane dev).ep.fixed := by
    show (s₂.dcd.hwEndpoints num false).fixed = _
    rw [show s₂.dcd.hwEndpoints num false = c.ep from Dcd.setEndpoint_same _ _ _ _]
    rfl
  refine ⟨_, hrun.trans ((Program.bind_ok hxfer).trans (reset_apply num false s₂)), ?_⟩
  constructor
  case bufStatus => rfl
  case rx => rfl
  case permit => rfl
  case inLane => exact (inLane_withChannel fun _ _ => rfl).trans hin
  case outbox =>
    refine ⟨_, rfl, ⟨?_, ?_⟩, hpayload⟩
    · show hasFlag (MsgType.usbData ||| MsgType.debugPrintAsHex) MsgType.usbData
      decide
    · show ((c.memory.bugger.writeAt 31 [dev.epOut]).bytesAt 0 32).getLast? = _
      rw [hpayload]
      simp
  case mounted =>
    constructor
    case reading => exact hm.reading
    case drivers => exact hm.drivers.of_permit false 0
    case mode => exact hm.mode
    case out =>
      have hlane := Dcd.lane_withChannel s₂.dcd num false last
      show OutLane dev ((s₂.dcd.withChannel num false last).lane num false)
      rw [hlane]
      exact hm.out.of_fixed hfixed hm.out.opened.control
    case into =>
      show InLane dev ((s₂.dcd.withChannel num false last).lane (endpointNum dev.epIn) true)
      rw [inLane_withChannel fun _ _ => rfl]
      exact hin ▸ hm.into

/-- The echo of a block goes to the driver. -/
theorem handleSpiSlaveEvent_echo {msg : SpiMessage} (hm : Mounted dev s) (hrx : s.rx.items = [msg])
    (hflag : msg.eFlag = reportFlag) (hlast : msg.payload.getLast? = some dev.epOut) :
    handleSpiSlaveEvent s = .ok () (({ s with rx := .empty } : Master).listening dev.epOut) :=
  (handleSpiSlaveEvent_storage hm.reading hrx hflag hlast dev.out_lt hm.drivers.out
    hm.drivers.outItf).trans (mscSpi_out dev.out_bits dev.out_dir dev.out_lt hm.out.opened.rx hm.mode)

/-- After the echo of its block the master asks for a packet and waits for the next block. -/
theorem handle_listens {msg : SpiMessage} (hm : Mounted dev s) (hrx : s.rx.items = [msg])
    (hflag : msg.eFlag = reportFlag) (hlast : msg.payload.getLast? = some dev.epOut) :
    ∃ t, handleSpiSlaveEvent s = .ok () t ∧ Mounted dev t ∧ t.drivers = s.drivers ∧
      t.dcd.bufStatus = s.dcd.bufStatus ∧ t.rx.items = [] ∧ t.inLane dev = s.inLane dev ∧
      AwaitsBlock (t.outLane dev) ∧ t.outbox = s.outbox ++ [knock dev.epIn dev.controlSize] := by
  let num := endpointNum dev.epOut
  let s₁ : Master := { s with rx := .empty }
  let c := listeningChannel (.bugger 0) s.drivers.bMaxPacketSize.toUInt16 (s.dcd.channel num false)
  have hrun : handleSpiSlaveEvent s = .ok () (s₁.listening dev.epOut) :=
    handleSpiSlaveEvent_echo hm hrx hflag hlast
  have hopen : Opened num false dev.outBase ((s.dcd.channel num false).lane num false) :=
    hm.out.opened
  have hword (offset : Nat) (hother : NotOwn num false offset) :
      c.memory.word offset = s.dcd.memory.word offset :=
    hopen.armed_other dev.out_pos _ _ hother
  have hsame : SameData s.dcd.memory c.memory := armedMemory_sameData _ _ _
  have hout : (s₁.listening dev.epOut).outLane dev = c.lane num false :=
    Dcd.lane_withChannel _ _ _ _
  have hin : (s₁.listening dev.epOut).inLane dev = s.inLane dev := inLane_withChannel hword
  refine ⟨_, hrun, ?_, rfl, rfl, rfl, hin, ?_, ?_⟩
  · constructor
    case reading => exact hm.reading
    case drivers => exact hm.drivers
    case mode =>
      show hasBits c.memory.mainCtrl mainCtrlHostNdevice = false
      rw [hsame.mainCtrl]
      exact hm.mode
    case out =>
      rw [hout]
      exact hm.out.of_fixed rfl (hopen.armed_control dev.out_lt _ _)
    case into =>
      rw [hin]
      exact hm.into
  · rw [hout]
    refine ⟨?_, rfl, rfl, rfl⟩
    have hsmall : s.drivers.bMaxPacketSize.toUInt16.toNat < 1024 := by
      have hlt := s.drivers.bMaxPacketSize.toNat_lt
      rw [UInt8.toNat_toUInt16]
      omega
    show Listens (c.memory.word (epBufCtrl num false))
    rw [show c.memory.word (epBufCtrl num false) = _ from hopen.armed_buffer _ _]
    exact listenWord_listens _ hsmall
  · show s.outbox ++ [knock s.drivers.otherEdpt s.drivers.bMaxPacketSize] = _
    rw [hm.drivers.otherEdpt, hm.drivers.bMaxPacketSize]

/-- A packet is offered to the host, and the driver expects its transfer to complete. -/
structure PacketOffered (dev : StorageInterface) (packet : Packet) (s : Master) : Prop where
  arms : ArmsBuffer false packet.bytes.length (s.inLane dev).buffer
  isPartial : (s.inLane dev).ep.isPartial = false
  remainingLen : (s.inLane dev).ep.remainingLen = 0
  xferredLen : (s.inLane dev).ep.xferredLen = 0
  data : s.dcd.memory.data.bytesAt dev.inBase packet.bytes.length = packet.bytes
  permit : s.drivers.permit0x81 = true
  count : 0 < s.drivers.count0x81

/-- A packet of the device is offered to the host. -/
theorem handle_offers {packet : Packet} (hm : Mounted dev s)
    (hrx : s.rx.items = [packetReport dev packet]) (hsize : packet.bytes.length ≤ 64)
    (hfits : packet.bytes.length ≤ dev.inSize.toNat) :
    ∃ t, handleSpiSlaveEvent s = .ok () t ∧ Mounted dev t ∧
      t.dcd.bufStatus = s.dcd.bufStatus ∧ t.rx.items = [] ∧ t.outLane dev = s.outLane dev ∧
      t.outbox = s.outbox ∧ PacketOffered dev packet t := by
  let num := endpointNum dev.epIn
  let s₁ : Master := { s with rx := .empty }
  let payload := packet.bytes ++ [dev.epIn]
  let count := UInt16.ofNat (payload.length - 1)
  let c := partChannel (.payload payload 0) count (s.dcd.channel num true)
  have hcount : count.toNat = packet.bytes.length := by
    have hlength : payload.length = packet.bytes.length + 1 := by simp [payload]
    show (UInt16.ofNat (payload.length - 1)).toNat = _
    rw [hlength, UInt16.toNat_ofNat']
    omega
  have hopen : Opened num true dev.inBase ((s.dcd.channel num true).lane num true) :=
    hm.into.opened
  have hmps : count ≤ (s.dcd.hwEndpoints num true).wMaxPacketSize := by
    rw [show (s.dcd.hwEndpoints num true).wMaxPacketSize = dev.inSize from hm.into.size]
    show count.toNat ≤ dev.inSize.toNat
    omega
  have hload : CanLoad (.payload payload 0) count (s.dcd.hwEndpoints num true) := by
    have hroom := hopen.room
    intro _
    refine ⟨?_, ?_⟩
    · show 0 + count.toNat ≤ payload.length
      have hlength : payload.length = packet.bytes.length + 1 := by simp [payload]
      omega
    · rw [show (s.dcd.hwEndpoints num true).hwDataBuf = some dev.inBase from hopen.hwDataBuf]
      show dev.inBase + count.toNat ≤ usbDpramMax
      omega
  have hrun : handleSpiSlaveEvent s = .ok () (s₁.offering dev.epIn payload count) := by
    refine (handleSpiSlaveEvent_storage hm.reading hrx rfl (by simp [packetReport]) dev.in_lt
      hm.drivers.into hm.drivers.inItf).trans ?_
    exact mscSpi_in dev.in_bits dev.in_dir dev.in_lt hmps hload
  have hrx' : (s.dcd.channel num true).ep.rx = false := hopen.rx
  have hmemory : loadedMemory (.payload payload 0) count (s.dcd.channel num true) =
      { s.dcd.memory with data := s.dcd.memory.data.writeAt dev.inBase packet.bytes } := by
    unfold loadedMemory
    rw [if_neg (by simp [hrx']),
      show (s.dcd.channel num true).ep.hwDataBuf = some dev.inBase from hopen.hwDataBuf]
    show { s.dcd.memory with
      data := s.dcd.memory.data.writeAt dev.inBase ((payload.drop 0).take count.toNat) } = _
    rw [hcount, List.drop_zero, List.take_left]
  have hsame : SameData (loadedMemory (.payload payload 0) count (s.dcd.channel num true))
      c.memory := armedMemory_sameData _ _ _
  rw [hmemory] at hsame
  have hword (offset : Nat) (hother : NotOwn num true offset) :
      c.memory.word offset = s.dcd.memory.word offset := by
    refine (hopen.armed_other dev.in_pos _ _ hother).trans ?_
    rw [hmemory]
  have hin : (s₁.offering dev.epIn payload count).inLane dev = c.lane num true :=
    Dcd.lane_withChannel _ _ _ _
  have hout : (s₁.offering dev.epIn payload count).outLane dev = s.outLane dev :=
    outLane_withChannel hword
  refine ⟨_, hrun, ?_, rfl, rfl, hout, rfl, ?_⟩
  · constructor
    case reading => exact hm.reading
    case drivers => exact hm.drivers.of_permit _ _
    case mode =>
      show hasBits c.memory.mainCtrl mainCtrlHostNdevice = false
      rw [hsame.mainCtrl]
      exact hm.mode
    case out =>
      rw [hout]
      exact hm.out
    case into =>
      rw [hin]
      exact hm.into.of_fixed rfl (hopen.armed_control dev.in_lt _ _)
  · constructor
    case arms =>
      rw [hin, ← hcount]
      show ArmsBuffer false count.toNat (c.memory.word (epBufCtrl num true))
      rw [show c.memory.word (epBufCtrl num true) = _ from hopen.armed_buffer _ _, ← hrx']
      exact partWord_arms _ (by omega)
    case isPartial =>
      rw [hin]
      rfl
    case remainingLen =>
      rw [hin]
      rfl
    case xferredLen =>
      rw [hin]
      rfl
    case data =>
      show c.memory.data.bytesAt dev.inBase packet.bytes.length = packet.bytes
      rw [hsame.data]
      exact Buffer.bytesAt_writeAt_same _ _ _
    case permit => rfl
    case count => exact Nat.succ_pos _

/-- The host has taken a packet that was offered. -/
structure PacketGone (dev : StorageInterface) (packet : Packet) (s : Master) : Prop where
  taken : PacketTaken (UInt16.ofNat packet.bytes.length) (s.inLane dev)
  idle : (s.inLane dev).Idle
  xferredLen : (s.inLane dev).ep.xferredLen = 0
  permit : s.drivers.permit0x81 = true
  count : 0 < s.drivers.count0x81

/-- The reads that the driver requests when a packet of `count` bytes is taken. -/
def nextReads (dev : StorageInterface) (drivers : Drivers) (count : UInt16) : List SpiMessage :=
  if drivers.permit0x81 ∧ ¬ (count = 13 ∧ 0 < drivers.count0x81) then [mscRead dev.epIn] else []

/-- The packet of the IN endpoint was accounted for. -/
structure CompletesPacket (dev : StorageInterface) (requests : List SpiMessage) (s t : Master) :
    Prop where
  mounted : Mounted dev t
  bufStatus : t.dcd.bufStatus = s.dcd.bufStatus &&& ~~~bufStatusBit (2 * endpointNum dev.epIn)
  rx : t.rx = s.rx
  outLane : t.outLane dev = s.outLane dev
  idle : (t.inLane dev).Idle
  outbox : t.outbox = s.outbox ++ requests

/-- A completed IN buffer may lead to the request for the next packet. -/
theorem inBuffer_completes {count : UInt16} (hm : Mounted dev s)
    (htaken : PacketTaken count (s.inLane dev)) (hidle : (s.inLane dev).Idle) :
    ∃ t, hwHandleBuffStatusBit (2 * endpointNum dev.epIn) s = .ok () t ∧
      CompletesPacket dev (nextReads dev s.drivers ((s.inLane dev).ep.xferredLen + count)) s t := by
  let num := endpointNum dev.epIn
  let c := sentChannel count (s.dcd.channel num true)
  let s₁ := s.continued (2 * num) num true c
  let s₂ : Master := { s₁ with outbox := s.outbox ++ nextReads dev s.drivers c.ep.xferredLen }
  have hcontinue : hwEndpointXferContinue .master (s.dcd.channel num true) = .ok true c :=
    hwEndpointXferContinue_sends hm.into.opened htaken
  have hxfer : dcdEventXferCompleteNew c.ep.epAddr c.ep.xferredLen s₁ = .ok () s₂ := by
    rw [show c.ep.epAddr = dev.epIn from hm.into.epAddr]
    refine (dcdEventXferCompleteNew_storage (s := s₁) dev.in_pos dev.in_lt hm.drivers.into).trans ?_
    unfold mscXfer
    rw [Program.read_bind, if_neg dev.in_bits]
    by_cases hask : s₁.drivers.permit0x81 = true ∧
        ¬ (c.ep.xferredLen = 13 ∧ 0 < s₁.drivers.count0x81)
    · have hreads : nextReads dev s.drivers c.ep.xferredLen = [mscRead dev.epIn] := if_pos hask
      rw [Program.when_true hask]
      show EStateM.Result.ok () { s₁ with outbox := s.outbox ++ [mscRead dev.epIn] } = .ok () s₂
      rw [← hreads]
    · have hreads : nextReads dev s.drivers c.ep.xferredLen = [] := if_neg hask
      rw [Program.when_false hask]
      show EStateM.Result.ok () { s₁ with outbox := s.outbox } = .ok () { s₁ with
        outbox := s.outbox ++ nextReads dev s.drivers c.ep.xferredLen }
      rw [hreads, List.append_nil]
  have hrun : hwHandleBuffStatusBit (2 * num) s =
      (dcdEventXferCompleteNew c.ep.epAddr c.ep.xferredLen >>= fun _ =>
        onDcd (withEndpoint num true hwEndpointResetTransferNew)) s₁ :=
    hwHandleBuffStatusBit_done (by omega) (by simp) hcontinue
  have hout : (s₁.dcd.lane (endpointNum dev.epOut) false) = s.outLane dev :=
    outLane_withChannel (d := { s.dcd with
      bufStatus := s.dcd.bufStatus &&& ~~~bufStatusBit (2 * num) }) fun _ _ => rfl
  let last : Rp2040.Channel := ⟨(s₂.dcd.hwEndpoints num true).resetTransfer, s₂.dcd.memory⟩
  have hfixed : last.ep.fixed = (s.inLane dev).ep.fixed := by
    show (s₂.dcd.hwEndpoints num true).fixed = _
    rw [show s₂.dcd.hwEndpoints num true = c.ep from Dcd.setEndpoint_same _ _ _ _]
    rfl
  have hlane := Dcd.lane_withChannel s₂.dcd num true last
  refine ⟨_, hrun.trans ((Program.bind_ok hxfer).trans (reset_apply num true s₂)), ?_⟩
  constructor
  case bufStatus => rfl
  case rx => rfl
  case outbox => rfl
  case outLane => exact (outLane_withChannel fun _ _ => rfl).trans hout
  case idle =>
    show ((s₂.dcd.withChannel num true last).lane num true).Idle
    rw [hlane]
    exact hidle
  case mounted =>
    constructor
    case reading => exact hm.reading
    case drivers => exact hm.drivers
    case mode => exact hm.mode
    case out =>
      show OutLane dev ((s₂.dcd.withChannel num true last).lane (endpointNum dev.epOut) false)
      rw [outLane_withChannel fun _ _ => rfl]
      exact hout ▸ hm.out
    case into =>
      show InLane dev ((s₂.dcd.withChannel num true last).lane num true)
      rw [hlane]
      exact hm.into.of_fixed hfixed hm.into.opened.control

/-! ## What the host does -/

/-- The controller finds the buffer of an endpoint that is set up. -/
theorem controllerBuffer_opened {d : Dcd} {num base : Nat} {dirIn : Bool}
    (hopen : Opened num dirIn base (d.lane num dirIn)) (hpos : num ≠ 0)
    (hlt : num < usbMaxEndpoints) : controllerBuffer d num dirIn = some base := by
  have hcontrol : Controls base (d.memory.word (epCtrl (num - 1) dirIn)) := hopen.control
  unfold controllerBuffer
  rw [if_neg hpos, if_pos hlt]
  dsimp only
  rw [hcontrol.enabled, hcontrol.buffer]
  rfl

/-- Writing the buffer control register of a lane changes nothing else in it. -/
theorem lane_writeWord {d e : Dcd} {num : Nat} {dirIn : Bool} {word : BitVec 32}
    (hlt : num < usbMaxEndpoints) (hep : e.hwEndpoints = d.hwEndpoints)
    (hword : e.memory.word = (d.memory.writeWord (some (epBufCtrl num dirIn)) word).word) :
    e.lane num dirIn = { d.lane num dirIn with buffer := word } := by
  unfold Dcd.lane Channel.lane Dcd.channel
  dsimp only
  rw [hep, hword, Memory.writeWord_same,
    Memory.writeWord_other _ _ (Ne.symm (epBufCtrl_ne_epCtrl hlt))]

/-- Writing the buffer control register of another lane changes nothing. -/
theorem lane_writeWord_other {d e : Dcd} {num other : Nat} {dirIn dir : Bool} {word : BitVec 32}
    (hlt : num < usbMaxEndpoints) (hother : other ≠ 0) (hotherLt : other < usbMaxEndpoints)
    (hne : ¬ (other = num ∧ dir = dirIn)) (hep : e.hwEndpoints = d.hwEndpoints)
    (hword : e.memory.word = (d.memory.writeWord (some (epBufCtrl num dirIn)) word).word) :
    e.lane other dir = d.lane other dir := by
  unfold Dcd.lane Channel.lane Dcd.channel
  dsimp only
  rw [hep, hword, Memory.writeWord_other _ _ (notOwn_epCtrl hother hotherLt hne).1,
    Memory.writeWord_other _ _ (notOwn_epBufCtrl hlt hne).1]

/-- The buffer that waits for a command block takes one. -/
theorem receiveOut_accepts {packet : Packet} (hm : Mounted dev s)
    (hawaits : AwaitsBlock (s.outLane dev)) (hlength : packet.bytes.length = 31) :
    ∃ d, receiveOut s.dcd (endpointNum dev.epOut) packet = some d ∧
      Mounted dev { s with dcd := d } ∧ BlockHeld dev packet.bytes { s with dcd := d } ∧
      d.bufStatus = s.dcd.bufStatus ||| bufStatusBit (2 * endpointNum dev.epOut + 1) ∧
      d.lane (endpointNum dev.epIn) true = s.inLane dev := by
  let num := endpointNum dev.epOut
  let word := (s.dcd.memory.word (epBufCtrl num false) &&& ~~~(bufCtrlAvail ||| bufCtrlLenMask)) |||
    bufCtrlFull ||| BitVec.ofNat 32 packet.bytes.length
  let memory := s.dcd.memory.writeWord (some (epBufCtrl num false)) word
  let d : Dcd := { s.dcd with
    memory := { memory with data := memory.data.writeAt dev.outBase packet.bytes }
    bufStatus := s.dcd.bufStatus ||| bufStatusBit (2 * num + 1) }
  have hbuffer := controllerBuffer_opened hm.out.opened dev.out_pos dev.out_lt
  have hlistens : (hasBits (s.dcd.memory.word (epBufCtrl num false)) bufCtrlAvail &&
      !hasBits (s.dcd.memory.word (epBufCtrl num false)) bufCtrlFull) = true := hawaits.listens
  have hout : d.lane num false = { s.outLane dev with buffer := word } :=
    lane_writeWord dev.out_lt rfl rfl
  have hin : d.lane (endpointNum dev.epIn) true = s.inLane dev :=
    lane_writeWord_other dev.out_lt dev.in_pos dev.in_lt (by simp) rfl rfl
  have hbits := filled_bits (s.dcd.memory.word (epBufCtrl num false)) packet
  refine ⟨d, ?_, ?_, ?_, rfl, hin⟩
  · unfold receiveOut
    rw [hbuffer]
    simp only [Option.bind_eq_bind, Option.bind_some]
    rw [show (guard ((hasBits (s.dcd.memory.word (epBufCtrl num false)) bufCtrlAvail &&
      !hasBits (s.dcd.memory.word (epBufCtrl num false)) bufCtrlFull) = true) : Option Unit) =
        some () from if_pos hlistens]
    rfl
  · constructor
    case reading => exact hm.reading
    case drivers => exact hm.drivers
    case mode =>
      show hasBits memory.mainCtrl mainCtrlHostNdevice = false
      rw [(writeWord_sameData _ _ _).mainCtrl]
      exact hm.mode
    case out =>
      show OutLane dev (d.lane num false)
      rw [hout]
      exact hm.out.of_fixed rfl hm.out.opened.control
    case into =>
      show InLane dev (d.lane (endpointNum dev.epIn) true)
      rw [hin]
      exact hm.into
  · constructor
    case held =>
      show HoldsPacket 31 (d.lane num false)
      rw [hout]
      refine ⟨hawaits.userBuf, hawaits.isPartial, hbits.1, ?_, hm.out.size, by decide⟩
      show bufLen word = 31
      rw [show bufLen word = _ from bufLen_filled _ packet, hlength]
      rfl
    case xferredLen =>
      show (d.lane num false).ep.xferredLen = 0
      rw [hout]
      exact hawaits.xferredLen
    case data =>
      show (memory.data.writeAt dev.outBase packet.bytes).bytesAt dev.outBase 31 = _
      rw [← hlength]
      exact Buffer.bytesAt_writeAt_same _ _ _

/-- The host takes the packet that is offered. -/
theorem sendIn_takes {packet : Packet} (hm : Mounted dev s) (hoffer : PacketOffered dev packet s) :
    offeredBytes s.dcd (endpointNum dev.epIn) = packet.bytes ∧
    ∃ d, sendIn s.dcd (endpointNum dev.epIn) = some d ∧
      Mounted dev { s with dcd := d } ∧ PacketGone dev packet { s with dcd := d } ∧
      d.bufStatus = s.dcd.bufStatus ||| bufStatusBit (2 * endpointNum dev.epIn) ∧
      d.lane (endpointNum dev.epOut) false = s.outLane dev := by
  let num := endpointNum dev.epIn
  let word := s.dcd.memory.word (epBufCtrl num true) &&& ~~~(bufCtrlAvail ||| bufCtrlFull)
  let d : Dcd := { s.dcd with
    memory := s.dcd.memory.writeWord (some (epBufCtrl num true)) word
    bufStatus := s.dcd.bufStatus ||| bufStatusBit (2 * num) }
  have hbuffer := controllerBuffer_opened hm.into.opened dev.in_pos dev.in_lt
  have harms : (hasBits (s.dcd.memory.word (epBufCtrl num true)) bufCtrlAvail &&
      hasBits (s.dcd.memory.word (epBufCtrl num true)) bufCtrlFull) = true := by
    rw [show hasBits (s.dcd.memory.word (epBufCtrl num true)) bufCtrlAvail = true from
        hoffer.arms.avail,
      show hasBits (s.dcd.memory.word (epBufCtrl num true)) bufCtrlFull = true from
        hoffer.arms.full]
    rfl
  have hin : d.lane num true = { s.inLane dev with buffer := word } :=
    lane_writeWord dev.in_lt rfl rfl
  have hout : d.lane (endpointNum dev.epOut) false = s.outLane dev :=
    lane_writeWord_other dev.in_lt dev.out_pos dev.out_lt (by simp) rfl rfl
  refine ⟨?_, d, ?_, ?_, ?_, rfl, hout⟩
  · unfold offeredBytes
    rw [hbuffer]
    dsimp only
    rw [show (bufLen (s.dcd.memory.word (epBufCtrl num true))).toNat = packet.bytes.length from
      hoffer.arms.length]
    exact hoffer.data
  · unfold sendIn
    rw [hbuffer]
    simp only [Option.bind_eq_bind, Option.bind_some]
    rw [show (guard ((hasBits (s.dcd.memory.word (epBufCtrl num true)) bufCtrlAvail &&
      hasBits (s.dcd.memory.word (epBufCtrl num true)) bufCtrlFull) = true) : Option Unit) =
        some () from if_pos harms]
    rfl
  · constructor
    case reading => exact hm.reading
    case drivers => exact hm.drivers
    case mode =>
      show hasBits (s.dcd.memory.writeWord _ word).mainCtrl mainCtrlHostNdevice = false
      rw [(writeWord_sameData _ _ _).mainCtrl]
      exact hm.mode
    case out =>
      show OutLane dev (d.lane (endpointNum dev.epOut) false)
      rw [hout]
      exact hm.out
    case into =>
      show InLane dev (d.lane num true)
      rw [hin]
      exact hm.into.of_fixed rfl hm.into.opened.control
  · constructor
    case taken =>
      show PacketTaken _ (d.lane num true)
      rw [hin]
      refine ⟨hoffer.isPartial, hoffer.remainingLen, hasBits_cleared (by decide), ?_⟩
      have hcount : (bufLen (s.dcd.memory.word (epBufCtrl num true))).toNat = packet.bytes.length :=
        hoffer.arms.length
      show bufLen word = _
      rw [show bufLen word = _ from bufLen_taken _, ← hcount, UInt16.ofNat_toNat]
    case idle =>
      show (d.lane num true).Idle
      rw [hin]
      exact hasBits_cleared (by decide)
    case xferredLen =>
      show (d.lane num true).ep.xferredLen = 0
      rw [hin]
      exact hoffer.xferredLen
    case permit => exact hoffer.permit
    case count => exact hoffer.count

end Handlers

end UsbSec.Device
