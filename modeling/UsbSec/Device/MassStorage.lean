import UsbSec.Device.Reread
import UsbSec.Rp2040.Exchange

/-!
# A mass-storage interface on the master

The two bulk endpoints of a bulk-only mass-storage interface, what core 0 of the master asks the
slave to do with them, and the state in which the interface is set up and waits for a command.
-/

namespace UsbSec.Device

open Library Usb Rp2040

/-! ## Interfaces -/

/-- The endpoint number of an address, as an index into the table. -/
def endpointNum (epAddr : UInt8) : Nat := (tuEdptNumber epAddr).toNat

/-- The two bulk endpoints of a mass-storage interface, the places of their DPRAM buffers, the
packet size of the IN endpoint, and that of endpoint 0, which is the length of the first read after
a block. -/
structure StorageInterface where
  epOut : UInt8
  epIn : UInt8
  outBase : Nat
  inBase : Nat
  inSize : UInt16
  controlSize : UInt8
  out_dir : tuEdptDirIn epOut = false
  in_dir : tuEdptDirIn epIn = true
  out_pos : endpointNum epOut ≠ 0
  in_pos : endpointNum epIn ≠ 0
  out_lt : endpointNum epOut < usbMaxEndpoints
  in_lt : endpointNum epIn < usbMaxEndpoints
  in_status : 13 ≤ inSize.toNat

/-- The function that `core0_loop` calls next. -/
inductive Turn where
  | handle
  | irq
  deriving DecidableEq

/-! ## Messages for the slave -/

/-- The message asks the slave to read from the IN endpoint. -/
def AsksRead (dev : StorageInterface) (message : SpiMessage) : Prop :=
  hasFlag message.eFlag MsgType.usbData ∧ message.payload.getLast? = some dev.epIn

instance (dev : StorageInterface) (message : SpiMessage) : Decidable (AsksRead dev message) :=
  inferInstanceAs (Decidable (_ ∧ _))

/-- The message has the slave write to the OUT endpoint. -/
def AsksWrite (dev : StorageInterface) (message : SpiMessage) : Prop :=
  hasFlag message.eFlag MsgType.usbData ∧ message.payload.getLast? = some dev.epOut

instance (dev : StorageInterface) (message : SpiMessage) : Decidable (AsksWrite dev message) :=
  inferInstanceAs (Decidable (_ ∧ _))

/-- The flag of a message with which the slave reports a completed transfer. -/
def reportFlag : UInt16 := MsgType.isPacket ||| MsgType.lastPacket

/-- The report of a read that its first packet ends. -/
def packetReport (dev : StorageInterface) (packet : Packet) : SpiMessage where
  eFlag := reportFlag
  payload := packet.bytes ++ [dev.epIn]
  payload_lt := by
    have hbound := packet.bounded
    simp
    omega

/-- The bytes of the packet that is offered on an IN endpoint. -/
def offeredBytes (d : Dcd) (num : Nat) : List UInt8 :=
  match controllerBuffer d num true with
  | some buffer => d.memory.data.bytesAt buffer (bufLen (d.memory.word (epBufCtrl num true))).toNat
  | none => []

/-! ## Mounted interfaces -/

/-- The lane of the OUT endpoint waits for a command block. -/
structure AwaitsBlock (lane : Lane) : Prop where
  listens : Listens lane.buffer
  userBuf : lane.ep.userBuf = .bugger 0
  xferredLen : lane.ep.xferredLen = 0
  isPartial : lane.ep.isPartial = false

instance (lane : Lane) : Decidable (AwaitsBlock lane) :=
  decidable_of_iff (Listens lane.buffer ∧ lane.ep.userBuf = .bugger 0 ∧ lane.ep.xferredLen = 0 ∧
    lane.ep.isPartial = false) ⟨fun h => ⟨h.1, h.2.1, h.2.2.1, h.2.2.2⟩,
      fun h => ⟨h.1, h.2, h.3, h.4⟩⟩

/-- The OUT endpoint of the interface, large enough for a command block. -/
structure OutLane (dev : StorageInterface) (lane : Lane) : Prop where
  opened : Opened (endpointNum dev.epOut) false dev.outBase lane
  epAddr : lane.ep.epAddr = dev.epOut
  size : 31 < lane.ep.wMaxPacketSize

instance (dev : StorageInterface) (lane : Lane) : Decidable (OutLane dev lane) :=
  decidable_of_iff (Opened (endpointNum dev.epOut) false dev.outBase lane ∧
    lane.ep.epAddr = dev.epOut ∧ 31 < lane.ep.wMaxPacketSize)
    ⟨fun h => ⟨h.1, h.2.1, h.2.2⟩, fun h => ⟨h.1, h.2, h.3⟩⟩

/-- The IN endpoint of the interface. -/
structure InLane (dev : StorageInterface) (lane : Lane) : Prop where
  opened : Opened (endpointNum dev.epIn) true dev.inBase lane
  epAddr : lane.ep.epAddr = dev.epIn
  size : lane.ep.wMaxPacketSize = dev.inSize

instance (dev : StorageInterface) (lane : Lane) : Decidable (InLane dev lane) :=
  decidable_of_iff (Opened (endpointNum dev.epIn) true dev.inBase lane ∧
    lane.ep.epAddr = dev.epIn ∧ lane.ep.wMaxPacketSize = dev.inSize)
    ⟨fun h => ⟨h.1, h.2.1, h.2.2⟩, fun h => ⟨h.1, h.2, h.3⟩⟩

/-- The lane of the OUT endpoint. -/
def Master.outLane (s : Master) (dev : StorageInterface) : Lane :=
  s.dcd.lane (endpointNum dev.epOut) false

/-- The lane of the IN endpoint. -/
def Master.inLane (s : Master) (dev : StorageInterface) : Lane :=
  s.dcd.lane (endpointNum dev.epIn) true

/-- Both endpoints have the mass-storage driver, which reads from the IN endpoint, and neither
belongs to a keyboard. The first read has the length of a packet of endpoint 0. -/
structure StorageDrivers (dev : StorageInterface) (drivers : Drivers) : Prop where
  out : drivers.edptDriver (slotOf dev.epOut) = .massStorage
  into : drivers.edptDriver (slotOf dev.epIn) = .massStorage
  outItf : ¬ IsKeyboard (drivers.itfCopy (slotOf dev.epOut))
  inItf : ¬ IsKeyboard (drivers.itfCopy (slotOf dev.epIn))
  otherEdpt : drivers.otherEdpt = dev.epIn
  bMaxPacketSize : drivers.bMaxPacketSize = dev.controlSize

instance (dev : StorageInterface) (drivers : Drivers) : Decidable (StorageDrivers dev drivers) :=
  decidable_of_iff (drivers.edptDriver (slotOf dev.epOut) = .massStorage ∧
    drivers.edptDriver (slotOf dev.epIn) = .massStorage ∧
    ¬ IsKeyboard (drivers.itfCopy (slotOf dev.epOut)) ∧
    ¬ IsKeyboard (drivers.itfCopy (slotOf dev.epIn)) ∧ drivers.otherEdpt = dev.epIn ∧
    drivers.bMaxPacketSize = dev.controlSize)
    ⟨fun h => ⟨h.1, h.2.1, h.2.2.1, h.2.2.2.1, h.2.2.2.2.1, h.2.2.2.2.2⟩,
      fun h => ⟨h.1, h.2, h.3, h.4, h.5, h.6⟩⟩

/-- The interface is set up on the master, which is reading messages. -/
structure Mounted (dev : StorageInterface) (s : Master) : Prop where
  reading : s.events.setupResponseDir = .readingResponse
  drivers : StorageDrivers dev s.drivers
  mode : hasBits s.dcd.memory.mainCtrl mainCtrlHostNdevice = false
  out : OutLane dev (s.outLane dev)
  into : InLane dev (s.inLane dev)

instance (dev : StorageInterface) (s : Master) : Decidable (Mounted dev s) :=
  decidable_of_iff (s.events.setupResponseDir = .readingResponse ∧ StorageDrivers dev s.drivers ∧
    hasBits s.dcd.memory.mainCtrl mainCtrlHostNdevice = false ∧ OutLane dev (s.outLane dev) ∧
    InLane dev (s.inLane dev))
    ⟨fun h => ⟨h.1, h.2.1, h.2.2.1, h.2.2.2.1, h.2.2.2.2⟩, fun h => ⟨h.1, h.2, h.3, h.4, h.5⟩⟩

/-- The interface is mounted and nothing is under way. -/
structure AwaitsCommand (dev : StorageInterface) (m : Core0) : Prop where
  mounted : Mounted dev m.master
  busReset : m.busReset = false
  setupReq : m.setupReq = false
  awaits : AwaitsBlock (m.master.outLane dev)
  idle : (m.master.inLane dev).Idle
  bufStatus : m.master.dcd.bufStatus = 0
  rx : m.master.rx.items = []

instance (dev : StorageInterface) (m : Core0) : Decidable (AwaitsCommand dev m) :=
  decidable_of_iff (Mounted dev m.master ∧ m.busReset = false ∧ m.setupReq = false ∧
    AwaitsBlock (m.master.outLane dev) ∧ (m.master.inLane dev).Idle ∧
    m.master.dcd.bufStatus = 0 ∧ m.master.rx.items = [])
    ⟨fun h => ⟨h.1, h.2.1, h.2.2.1, h.2.2.2.1, h.2.2.2.2.1, h.2.2.2.2.2.1, h.2.2.2.2.2.2⟩,
      fun h => ⟨h.1, h.2, h.3, h.4, h.5, h.6, h.7⟩⟩

end UsbSec.Device
