import Mathlib.Algebra.Group.Nat.Defs
import Mathlib.Logic.Function.Basic
import UsbSec.Debug
import UsbSec.Messages.Message
import UsbSec.Usb.Types

/-!
# The transfer engine

After `lib/rp2040/rp2040_usb.c` and the `hw_endpoint` structure. The engine is compiled for both
roles and tests `get_role()` where they differ, so its functions take the role. They work on one
endpoint and on the memory that the transfer reads and writes.

The USB DPRAM is modelled by its word offsets (control registers) and its byte offsets (data
buffers). A register pointer is an offset, or nothing for `NULL`. Address 0 of the chip is the
boot ROM: reading through a `NULL` register pointer gives a ROM word and writing has no effect.
The firmware relies on it, for endpoint 0 of the device has no endpoint control register.
-/

namespace UsbSec.Rp2040

open Library Usb

/-! ## Register layout -/

def bufCtrlFull : BitVec 32 := 0x8000#32
def bufCtrlLast : BitVec 32 := 0x4000#32
def bufCtrlData1Pid : BitVec 32 := 0x2000#32
def bufCtrlData0Pid : BitVec 32 := 0x0#32
def bufCtrlSel : BitVec 32 := 0x1000#32
def bufCtrlStall : BitVec 32 := 0x800#32
def bufCtrlAvail : BitVec 32 := 0x400#32
def bufCtrlLenMask : BitVec 32 := 0x3ff#32

def epCtrlEnable : BitVec 32 := 0x80000000#32
def epCtrlDoubleBuffered : BitVec 32 := 0x40000000#32
def epCtrlInterruptPerBuffer : BitVec 32 := 0x20000000#32
def epCtrlInterruptPerDoubleBuffer : BitVec 32 := 0x10000000#32

/-- `USB_MAIN_CTRL_CONTROLLER_EN_BITS`. -/
def mainCtrlControllerEn : BitVec 32 := 0x1#32

/-- `USB_MAIN_CTRL_HOST_NDEVICE_BITS`. -/
def mainCtrlHostNdevice : BitVec 32 := 0x2#32

/-- `USB_DPRAM_MAX`. -/
def usbDpramMax : Nat := 4096

/-- The offset of `epx_data`. -/
def epxDataOffset : Nat := 0x180

/-- A test of register bits. -/
def hasBits (word bits : BitVec 32) : Bool := word &&& bits != 0

theorem hasBits_or (first second bits : BitVec 32) :
    hasBits (first ||| second) bits = (hasBits first bits || hasBits second bits) := by
  have hand : (first ||| second) &&& bits = (first &&& bits) ||| (second &&& bits) := by
    ext i hi
    simp [Bool.and_or_distrib_right]
  unfold hasBits
  rw [hand, Bool.eq_iff_iff]
  simp [BitVec.or_eq_zero_iff, imp_iff_not_or]

theorem hasBits_and_not (word mask bits : BitVec 32) :
    hasBits (word &&& ~~~mask) bits = hasBits word (bits &&& ~~~mask) := by
  unfold hasBits
  rw [BitVec.and_assoc, BitVec.and_comm (~~~mask)]

/-- A masked word has no bits that the word does not have. -/
theorem hasBits_of_and {word mask bits : BitVec 32} (h : hasBits (word &&& mask) bits = true) :
    hasBits word bits = true := by
  by_contra hnot
  have hnone : word &&& bits = 0 := by simpa [hasBits] using hnot
  have hand : word &&& mask &&& bits = 0 := by
    rw [BitVec.and_assoc, BitVec.and_comm mask, ← BitVec.and_assoc, hnone]
    simp
  simp [hasBits, hand] at h

/-- Clearing bits clears the ones that are tested. -/
theorem hasBits_cleared {word mask bits : BitVec 32} (h : bits &&& ~~~mask = 0) :
    hasBits (word &&& ~~~mask) bits = false := by
  rw [hasBits_and_not, h]
  simp [hasBits]

/-- Clearing other bits than the ones that are tested changes nothing. -/
theorem hasBits_kept {word mask bits : BitVec 32} (h : bits &&& ~~~mask = bits) :
    hasBits (word &&& ~~~mask) bits = hasBits word bits := by
  rw [hasBits_and_not, h]

/-- A test of a single bit. -/
theorem hasBits_shift (word : BitVec 32) {i : Nat} (hi : i < 32) :
    hasBits word (1#32 <<< i) = word.getLsbD i := by
  have hone : word &&& 1#32 <<< i = if word.getLsbD i then BitVec.twoPow 32 i else 0#32 :=
    BitVec.and_twoPow word i
  have htwo : BitVec.twoPow 32 i ≠ 0 := by
    intro hzero
    have hbit := congrArg (fun bits : BitVec 32 => bits.getLsbD i) hzero
    simp [hi] at hbit
  unfold hasBits
  rw [hone]
  cases word.getLsbD i with
  | false => rfl
  | true => simpa using htwo

/-! ## Endpoints and memory -/

/-- Where `user_buf` points: the static buffer of the role's own transfers (`bugger` of
`drivers.c` or of `host_event_handlers.c`), `reserve_bugger`, another object of a caller, or the
payload of a message. -/
inductive UserBuf where
  | null
  | bugger (offset : Nat)
  | reserveBugger (offset : Nat)
  | object (offset : Nat)
  | payload (bytes : List UInt8) (offset : Nat)
  deriving DecidableEq

/-- Pointer addition. -/
def UserBuf.advance (count : Nat) : UserBuf → UserBuf
  | .null => .null
  | .bugger offset => .bugger (offset + count)
  | .reserveBugger offset => .reserveBugger (offset + count)
  | .object offset => .object (offset + count)
  | .payload bytes offset => .payload bytes (offset + count)

/-- `struct hw_endpoint`. -/
structure HwEndpoint where
  configured : Bool
  rx : Bool
  epAddr : UInt8
  nextPid : UInt8
  endpointControl : Option Nat
  bufferControl : Option Nat
  hwDataBuf : Option Nat
  active : Bool
  remainingLen : UInt16
  xferredLen : UInt16
  userBuf : UserBuf
  wMaxPacketSize : UInt16
  transferType : UInt8
  devAddr : UInt8
  interruptNum : UInt8
  isPartial : Bool
  deriving DecidableEq

/-- An endpoint after `memset` to zero. -/
def HwEndpoint.zero : HwEndpoint where
  configured := false
  rx := false
  epAddr := 0
  nextPid := 0
  endpointControl := none
  bufferControl := none
  hwDataBuf := none
  active := false
  remainingLen := 0
  xferredLen := 0
  userBuf := .null
  wMaxPacketSize := 0
  transferType := 0
  devAddr := 0
  interruptNum := 0
  isPartial := false

/-- The memory a transfer reads and writes: the DPRAM, the role's static buffers, the object of a
caller, the main control register and the ROM word behind a `NULL` register pointer. -/
structure Memory where
  word : Nat → BitVec 32
  data : Buffer
  bugger : Buffer
  reserveBugger : Buffer
  object : Buffer
  mainCtrl : BitVec 32
  romWord : BitVec 32

/-- The word behind a register pointer. -/
def Memory.readWord (memory : Memory) : Option Nat → BitVec 32
  | none => memory.romWord
  | some offset => memory.word offset

/-- Write the register behind a pointer. -/
def Memory.writeWord (memory : Memory) (pointer : Option Nat) (value : BitVec 32) : Memory :=
  match pointer with
  | none => memory
  | some offset => { memory with word := Function.update memory.word offset value }

@[simp] theorem Memory.writeWord_same (memory : Memory) (offset : Nat) (value : BitVec 32) :
    (memory.writeWord (some offset) value).word offset = value := by
  simp [Memory.writeWord]

theorem Memory.writeWord_other (memory : Memory) {offset other : Nat} (value : BitVec 32)
    (h : other ≠ offset) : (memory.writeWord (some offset) value).word other = memory.word other := by
  simp [Memory.writeWord, Function.update_of_ne h]

@[simp] theorem Memory.writeWord_bugger (memory : Memory) (pointer : Option Nat)
    (value : BitVec 32) : (memory.writeWord pointer value).bugger = memory.bugger := by
  cases pointer <;> rfl

@[simp] theorem Memory.writeWord_data (memory : Memory) (pointer : Option Nat)
    (value : BitVec 32) : (memory.writeWord pointer value).data = memory.data := by
  cases pointer <;> rfl

/-- The size of the role's static transfer buffer. -/
def buggerSize : SpiRole → Nat
  | .master => 1024
  | .slave => 1000

/-- The size of the object of a caller: as many bytes as a transfer can have. -/
def objectSize : Nat := 65535

/-- One endpoint together with the memory. -/
structure Channel where
  ep : HwEndpoint
  memory : Memory

/-- A program of the transfer engine. -/
abbrev Engine (α : Type) := Program Halt Channel α

/-- Change the fields of the endpoint. -/
def setEp (change : HwEndpoint → HwEndpoint) : Engine Unit :=
  Program.update fun c => { c with ep := change c.ep }

/-- Change the memory. -/
def setMemory (change : Memory → Memory) : Engine Unit :=
  Program.update fun c => { c with memory := change c.memory }

/-! ## Copies between user memory and the DPRAM -/

/-- The next `count` bytes at `buffer`. Reading outside an object is undefined. -/
def readUser (role : SpiRole) (buffer : UserBuf) (count : Nat) : Engine (List UInt8) := do
  let c ← Program.read
  match buffer with
  | .null => do
      defined (count = 0)
      pure []
  | .bugger offset => do
      defined (offset + count ≤ buggerSize role)
      pure (c.memory.bugger.bytesAt offset count)
  | .reserveBugger offset => do
      defined (offset + count ≤ 64)
      pure (c.memory.reserveBugger.bytesAt offset count)
  | .object offset => do
      defined (offset + count ≤ objectSize)
      pure (c.memory.object.bytesAt offset count)
  | .payload bytes offset => do
      defined (offset + count ≤ bytes.length)
      pure ((bytes.drop offset).take count)

/-- Copy `bytes` to `buffer`. The payload of a message is freed when its handler returns, so
storing into one is undefined. -/
def writeUser (role : SpiRole) (buffer : UserBuf) (bytes : List UInt8) : Engine Unit :=
  match buffer with
  | .null => defined (bytes = [])
  | .bugger offset => do
      defined (offset + bytes.length ≤ buggerSize role)
      setMemory fun m => { m with bugger := m.bugger.writeAt offset bytes }
  | .reserveBugger offset => do
      defined (offset + bytes.length ≤ 64)
      setMemory fun m => { m with reserveBugger := m.reserveBugger.writeAt offset bytes }
  | .object offset => do
      defined (offset + bytes.length ≤ objectSize)
      setMemory fun m => { m with object := m.object.writeAt offset bytes }
  | .payload _ _ => defined (bytes = [])

/-- Copy `bytes` to the DPRAM at `buffer + skip`. -/
def writeData (buffer : Option Nat) (skip : Nat) (bytes : List UInt8) : Engine Unit :=
  match buffer with
  | none => defined (bytes = [])
  | some offset => do
      defined (offset + skip + bytes.length ≤ usbDpramMax)
      setMemory fun m => { m with data := m.data.writeAt (offset + skip) bytes }

/-- The first `count` bytes of the DPRAM at `buffer`. -/
def readData (buffer : Option Nat) (count : Nat) : Engine (List UInt8) := do
  let c ← Program.read
  match buffer with
  | none => do
      defined (count = 0)
      pure []
  | some offset => do
      defined (offset + count ≤ usbDpramMax)
      pure (c.memory.data.bytesAt offset count)

/-! ## Functions of rp2040_usb.c -/

/-- The fields that `hw_endpoint_reset_transfer_new` clears. -/
def HwEndpoint.resetTransfer (ep : HwEndpoint) : HwEndpoint :=
  { ep with active := false, remainingLen := 0, xferredLen := 0, userBuf := .null,
            isPartial := false }

/-- `hw_endpoint_reset_transfer_new`. -/
def hwEndpointResetTransferNew : Engine Unit := setEp HwEndpoint.resetTransfer

/-- `hw_endpoint_buffer_control_update32`. The write that clears AVAIL first is followed by the
write of the value itself. -/
def hwEndpointBufferControlUpdate32 (andMask orMask : BitVec 32) : Engine Unit := do
  let c ← Program.read
  let value := if andMask ≠ 0 then c.memory.readWord c.ep.bufferControl &&& andMask else 0
  let value := if orMask ≠ 0 then value ||| orMask else value
  setMemory fun m => m.writeWord c.ep.bufferControl value

/-- `hw_endpoint_buffer_control_set_value32`. -/
def hwEndpointBufferControlSetValue32 (value : BitVec 32) : Engine Unit :=
  hwEndpointBufferControlUpdate32 0 value

/-- The PID bit for the next buffer. -/
def pidBits (nextPid : UInt8) : BitVec 32 :=
  if nextPid ≠ 0 then bufCtrlData1Pid else bufCtrlData0Pid

/-- A 16-bit length in a 32-bit register. -/
def lenBits (length : UInt16) : BitVec 32 := length.toBitVec.setWidth 32

/-- Copy `count` bytes at `buffer` to the endpoint's DPRAM buffer, behind `skip` bytes. -/
def loadBuffer (role : SpiRole) (buffer : UserBuf) (skip count : Nat) : Engine Unit := do
  let c ← Program.read
  let bytes ← readUser role buffer count
  writeData c.ep.hwDataBuf skip bytes

/-- The FULL bit of a buffer that is to be sent. -/
def fullBits (rx : Bool) : BitVec 32 := if rx then 0 else bufCtrlFull

/-- The LAST bit of a buffer after which nothing remains. -/
def lastBits (remainingLen : UInt16) : BitVec 32 := if remainingLen = 0 then bufCtrlLast else 0

/-- `prepare_ep_buffer`: charge the next packet, and give the buffer control word for it. -/
def prepareEpBuffer (role : SpiRole) (bufId : Nat) : Engine (BitVec 32) := do
  let c ← Program.read
  let buflen := tuMin16 c.ep.remainingLen c.ep.wMaxPacketSize
  let remaining := c.ep.remainingLen - buflen
  setEp fun ep => { ep with remainingLen := remaining, nextPid := ep.nextPid ^^^ 1 }
  Program.when (c.ep.rx = false) do
    loadBuffer role c.ep.userBuf (bufId * 64) buflen.toNat
    setEp fun ep => { ep with userBuf := ep.userBuf.advance buflen.toNat }
  let bufCtrl := lenBits buflen ||| bufCtrlAvail ||| pidBits c.ep.nextPid ||| fullBits c.ep.rx |||
    lastBits remaining
  pure (if bufId ≠ 0 then bufCtrl <<< 16 else bufCtrl)

/-- The endpoint control word for a single buffer. -/
def singleBuffered (epCtrl : BitVec 32) : BitVec 32 :=
  (epCtrl &&& ~~~(epCtrlDoubleBuffered ||| epCtrlInterruptPerDoubleBuffer)) |||
    epCtrlInterruptPerBuffer

/-- The endpoint control word for two buffers. -/
def doubleBuffered (epCtrl : BitVec 32) : BitVec 32 :=
  (epCtrl &&& ~~~epCtrlInterruptPerBuffer) ||| epCtrlDoubleBuffered |||
    epCtrlInterruptPerDoubleBuffer

/-- The device half of `_hw_endpoint_start_next_buffer`. -/
def startNextBufferMaster : Engine Unit := do
  let c ← Program.read
  let epCtrl := c.memory.readWord c.ep.endpointControl
  let bufCtrl ← prepareEpBuffer .master 0
  let bufCtrl := bufCtrl ||| bufCtrlSel
  -- What remains is read again, behind the first packet.
  let d ← Program.read
  let forceSingle := !hasBits d.memory.mainCtrl mainCtrlHostNdevice
  if d.ep.remainingLen ≠ 0 ∧ forceSingle = false then do
    let second ← prepareEpBuffer .master 1
    setMemory fun m => m.writeWord c.ep.endpointControl (doubleBuffered epCtrl)
    hwEndpointBufferControlSetValue32 (bufCtrl ||| second)
  else do
    setMemory fun m => m.writeWord c.ep.endpointControl (singleBuffered epCtrl)
    hwEndpointBufferControlSetValue32 bufCtrl

/-- The number of packets that the host half predicts for the rest of the transfer. The divisor is
tested where the number is computed, in `startNextBufferSlave`. -/
def packetCount (remainingLen buflen wMaxPacketSize : UInt16) : Nat :=
  1 + (remainingLen.toNat + buflen.toNat - 1) / wMaxPacketSize.toNat

/-- The PID after a buffer is armed by the host half: a zero-length packet toggles it, and so does
an odd number of predicted packets. -/
def nextPidAfter (nextPid : UInt8) (remainingLen buflen wMaxPacketSize : UInt16) : UInt8 :=
  if buflen = 0 then nextPid ^^^ 1
  else if packetCount remainingLen buflen wMaxPacketSize % 2 = 1 then nextPid ^^^ 1
  else nextPid

/-- The host half of `_hw_endpoint_start_next_buffer`. The length that goes into the register is
the whole remaining length, not the length of the packet. -/
def startNextBufferSlave : Engine Unit := do
  let c ← Program.read
  let buflen := tuMin16 c.ep.remainingLen c.ep.wMaxPacketSize
  let remaining := c.ep.remainingLen - buflen
  setEp fun ep => { ep with remainingLen := remaining }
  Program.when (c.ep.rx = false)
    (loadBuffer .slave (c.ep.userBuf.advance c.ep.xferredLen.toNat) 0 buflen.toNat)
  Program.when (buflen ≠ 0) (divides c.ep.wMaxPacketSize)
  -- The toggle is for the next word; this one is built with the PID before it.
  setEp fun ep =>
    { ep with nextPid := nextPidAfter ep.nextPid remaining buflen ep.wMaxPacketSize }
  hwEndpointBufferControlSetValue32 (lenBits c.ep.remainingLen ||| bufCtrlAvail |||
    fullBits c.ep.rx ||| pidBits c.ep.nextPid ||| lastBits remaining)

/-- A packet size of zero leaves no bytes for the next packet, and then nothing is divided. -/
@[simp] theorem when_divides {σ : Type} (remainingLen wMaxPacketSize : UInt16) :
    (Program.when (tuMin16 remainingLen wMaxPacketSize ≠ 0) (divides wMaxPacketSize) :
      Program Halt σ Unit) = pure () := by
  by_cases hsize : wMaxPacketSize = 0
  · have hempty : tuMin16 remainingLen wMaxPacketSize = 0 := by
      rw [hsize]
      exact if_neg (UInt16.not_lt.mpr (UInt16.zero_le))
    exact Program.when_false (not_not.mpr hempty) _
  · unfold divides
    rw [Program.require_true hsize]
    exact ite_self _

/-- `_hw_endpoint_start_next_buffer`. -/
def hwEndpointStartNextBuffer : SpiRole → Engine Unit
  | .master => startNextBufferMaster
  | .slave => startNextBufferSlave

/-- `hw_endpoint_xfer_start`. -/
def hwEndpointXferStart (role : SpiRole) (buffer : UserBuf) (totalLen : UInt16) :
    Engine Unit := do
  let c ← Program.read
  Program.when c.ep.active hwEndpointResetTransferNew
  setEp fun ep =>
    { ep with remainingLen := totalLen, xferredLen := 0, active := true, userBuf := buffer,
              isPartial := false }
  hwEndpointStartNextBuffer role

/-- `hw_endpoint_xfer_partial`. -/
def hwEndpointXferPartial (role : SpiRole) (buffer : UserBuf) (totalLen : UInt16) :
    Engine Unit := do
  setEp fun ep =>
    { ep with remainingLen := totalLen, xferredLen := 0, active := true, userBuf := buffer,
              isPartial := true }
  let c ← Program.read
  let epCtrl := c.memory.readWord c.ep.endpointControl
  let bufCtrl ← prepareEpBuffer role 0
  let bufCtrl := bufCtrl ||| bufCtrlSel
  let d ← Program.read
  let forceSingle := !hasBits d.memory.mainCtrl mainCtrlHostNdevice && !tuEdptDirIn d.ep.epAddr
  if d.ep.remainingLen ≠ 0 ∧ forceSingle = false then
    error ""
  else do
    setMemory fun m => m.writeWord c.ep.endpointControl (singleBuffered epCtrl)
    let bufCtrl := bufCtrl &&& ~~~bufCtrlLast
    let bufCtrl := if totalLen < 64 then bufCtrl ||| bufCtrlLast else bufCtrl
    setEp fun ep => { ep with isPartial := false }
    hwEndpointBufferControlSetValue32 bufCtrl

/-- The number of bytes in a buffer control word. -/
def bufLen (word : BitVec 32) : UInt16 := ⟨(word &&& bufCtrlLenMask).setWidth 16⟩

/-- The receive branch of `sync_ep_buffer`. On the slave each packet is copied to the start of
the user buffer. -/
def syncReceived (role : SpiRole) (bufCtrl : BitVec 32) (xferredBytes : UInt16) :
    Engine Unit := do
  Program.when (hasBits bufCtrl bufCtrlFull = false) (error "WARNING: ep %d %s cracked\n")
  let c ← Program.read
  Program.when (c.ep.userBuf = .null ∧ 0 < xferredBytes) do
    setEp fun ep => { ep with active := true, userBuf := .reserveBugger 0 }
  let d ← Program.read
  let bytes ← readData d.ep.hwDataBuf xferredBytes.toNat
  writeUser role d.ep.userBuf bytes
  setEp fun ep => { ep with xferredLen := ep.xferredLen + xferredBytes }
  Program.when (role = .master) do
    setEp fun ep => { ep with userBuf := ep.userBuf.advance xferredBytes.toNat }

/-- The transmit branch of `sync_ep_buffer`. -/
def syncSent (bufCtrl : BitVec 32) (xferredBytes : UInt16) : Engine Unit := do
  runtimeAssert (hasBits bufCtrl bufCtrlFull = false)
  setEp fun ep => { ep with xferredLen := ep.xferredLen + xferredBytes }

/-- The packet was short, or the packet size is not known yet. -/
def IsShort (xferredBytes wMaxPacketSize : UInt16) : Prop :=
  xferredBytes < wMaxPacketSize ∨ wMaxPacketSize = 0

instance (xferredBytes wMaxPacketSize : UInt16) :
    Decidable (IsShort xferredBytes wMaxPacketSize) := inferInstanceAs (Decidable (_ ∨ _))

/-- `sync_ep_buffer`. -/
def syncEpBuffer (role : SpiRole) : Engine Unit := do
  let c ← Program.read
  let bufCtrl := c.memory.readWord c.ep.bufferControl
  let xferredBytes := bufLen bufCtrl
  (if c.ep.rx = false then syncSent bufCtrl xferredBytes
    else syncReceived role bufCtrl xferredBytes)
  let d ← Program.read
  Program.when (IsShort xferredBytes d.ep.wMaxPacketSize) do
    setEp fun ep => { ep with remainingLen := 0 }

/-- `hw_endpoint_xfer_continue`: true when the transfer is complete. -/
def hwEndpointXferContinue (role : SpiRole) : Engine Bool := do
  let c ← Program.read
  if c.ep.isPartial then pure false else do
    syncEpBuffer role
    let d ← Program.read
    if hasBits (d.memory.readWord d.ep.endpointControl) epCtrlDoubleBuffered then
      error "Double buffering unsupported"
    else if d.ep.remainingLen = 0 then pure true
    else do
      hwEndpointStartNextBuffer role
      pure false

/-! ## The word of a packet that has arrived -/

/-- The length of a packet fits the length field. -/
theorem packetLength_masked (packet : Packet) :
    BitVec.ofNat 32 packet.bytes.length &&& bufCtrlLenMask =
      BitVec.ofNat 32 packet.bytes.length := by
  have hle := packet.bounded
  apply BitVec.eq_of_toNat_eq
  show BitVec.toNat _ &&& (2 ^ 10 - 1) = _
  rw [Nat.and_two_pow_sub_one_eq_mod, BitVec.toNat_ofNat]
  omega

/-- The controller puts the length of the packet into the word. -/
theorem bufLen_filled (word : BitVec 32) (packet : Packet) :
    bufLen ((word &&& ~~~(bufCtrlAvail ||| bufCtrlLenMask)) ||| bufCtrlFull |||
      BitVec.ofNat 32 packet.bytes.length) = UInt16.ofNat packet.bytes.length := by
  have hle := packet.bounded
  have hcleared : (word &&& ~~~(bufCtrlAvail ||| bufCtrlLenMask)) &&& bufCtrlLenMask = 0 := by
    have hmask : ~~~(bufCtrlAvail ||| bufCtrlLenMask) &&& bufCtrlLenMask = 0#32 := by decide
    rw [BitVec.and_assoc, hmask]
    exact BitVec.and_zero
  have hfull : bufCtrlFull &&& bufCtrlLenMask = 0 := by decide
  have hmasked : ((word &&& ~~~(bufCtrlAvail ||| bufCtrlLenMask)) ||| bufCtrlFull |||
      BitVec.ofNat 32 packet.bytes.length) &&& bufCtrlLenMask =
        BitVec.ofNat 32 packet.bytes.length := by
    rw [BitVec.and_comm, BitVec.and_or_distrib_left, BitVec.and_or_distrib_left,
      BitVec.and_comm, hcleared, BitVec.and_comm, hfull, BitVec.and_comm, packetLength_masked]
    simp
  unfold bufLen
  rw [hmasked]
  apply UInt16.toNat_inj.mp
  show ((BitVec.ofNat 32 packet.bytes.length).setWidth 16).toNat = _
  rw [BitVec.toNat_setWidth, BitVec.toNat_ofNat, UInt16.toNat_ofNat']
  omega

/-- A packet that has arrived fills the buffer, which is no longer armed. -/
theorem filled_bits (word : BitVec 32) (packet : Packet) :
    hasBits ((word &&& ~~~(bufCtrlAvail ||| bufCtrlLenMask)) ||| bufCtrlFull |||
        BitVec.ofNat 32 packet.bytes.length) bufCtrlFull = true ∧
      hasBits ((word &&& ~~~(bufCtrlAvail ||| bufCtrlLenMask)) ||| bufCtrlFull |||
        BitVec.ofNat 32 packet.bytes.length) bufCtrlAvail = false := by
  have hfull : hasBits bufCtrlFull bufCtrlFull = true := by decide
  have hother : hasBits bufCtrlFull bufCtrlAvail = false := by decide
  have hcleared : hasBits (word &&& ~~~(bufCtrlAvail ||| bufCtrlLenMask)) bufCtrlAvail = false :=
    hasBits_cleared (by decide)
  have hlength : hasBits (BitVec.ofNat 32 packet.bytes.length) bufCtrlAvail = false := by
    have hmask : bufCtrlLenMask &&& bufCtrlAvail = 0#32 := by decide
    unfold hasBits
    rw [← packetLength_masked, BitVec.and_assoc, hmask]
    simp
  simp [hasBits_or, hfull, hother, hcleared, hlength]

end UsbSec.Rp2040
