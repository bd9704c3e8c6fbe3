import UsbSec.Device.State

/-!
# Drivers and validator

After `lib/drivers/drivers.c` and `lib/validator/validator.c`: the table from endpoints to the
mass-storage or HID driver, filled from configuration descriptors, and the keyboard ban that is
checked on every message from the slave.
-/

namespace UsbSec.Device

open Library Usb Rp2040

/-- A message that a handler has dequeued: the payload is still the whole heap block, but
`payload_length` no longer counts the endpoint address at its end. -/
structure SlavePacket where
  eFlag : UInt16
  payload : List UInt8
  payloadLength : UInt16

/-- The bytes that the message carries for the endpoint. -/
def SlavePacket.data (packet : SlavePacket) : List UInt8 :=
  packet.payload.take packet.payloadLength.toNat

/-- The interface belongs to a keyboard. -/
def IsKeyboard (itf : InterfaceDescriptor) : Prop :=
  itf.bInterfaceClass = 0x03 ∧ itf.bInterfaceProtocol = 0x01

instance (itf : InterfaceDescriptor) : Decidable (IsKeyboard itf) :=
  inferInstanceAs (Decidable (_ ∧ _))

/-- The text with which `check_comm` stops the master. -/
def keyboardBanned : Halt := .error "~~~~~~~~~~~~KEYBOARD BANNED~~~~~~~~~~~~"

/-- `check_comm`. -/
def checkComm (itf : InterfaceDescriptor) : MasterM Unit :=
  Program.when (IsKeyboard itf) (Program.stop keyboardBanned)

/-- `idx`: the slot of an endpoint address in the driver tables. -/
def idx (edpt : UInt8) : UInt8 :=
  if edpt &&& 0x80 ≠ 0 then (edpt &&& 0x7f) ||| 0x10 else edpt

/-- The number of slots in the driver tables. -/
def driverSlots : Nat := 32

/-- `msc_spi`. -/
def mscSpi (message : SlavePacket) (edpt : UInt8) : MasterM Unit := do
  record (.mscSpi edpt)
  if edpt &&& 0x80 = 0 then do
    -- The device has taken the block: ask for its answer and wait for the next block.
    let s ← Program.read
    knockOnSlaveEdpt s.drivers.otherEdpt s.drivers.bMaxPacketSize
    onDcd (dcdEdptXferNew edpt (.bugger 0) s.drivers.bMaxPacketSize.toUInt16)
  else do
    Program.update fun s =>
      { s with drivers :=
          { s.drivers with permit0x81 := true, count0x81 := s.drivers.count0x81 + 1 } }
    onDcd (dcdEdptXferPartial edpt (.payload message.payload 0) message.payloadLength)

/-- The branch of `msc_xfer` for a completed OUT transfer: forward its bytes, with the endpoint
address behind them. -/
def mscXferOut (edpt : UInt8) (xferredBytes : UInt16) : MasterM Unit := do
  Program.update fun s =>
    { s with drivers := { s.drivers with permit0x81 := false, count0x81 := 0 } }
  defined (xferredBytes.toNat < buggerSize .master)
  Program.update fun s =>
    let bugger := s.dcd.memory.bugger.writeAt xferredBytes.toNat [edpt]
    { s with dcd := { s.dcd with memory := { s.dcd.memory with bugger := bugger } } }
  let s ← Program.read
  enqueueSpiMessage (.copyOf (MsgType.usbData ||| MsgType.debugPrintAsHex)
    s.dcd.memory.bugger 0 (xferredBytes + 1))

/-- The request for 64 bytes from an IN endpoint. -/
def mscRead (edpt : UInt8) : SpiMessage where
  eFlag := MsgType.usbData
  payload := List.replicate 64 0 ++ [edpt]
  payload_lt := by simp

/-- `msc_xfer`. -/
def mscXfer (edpt : UInt8) (xferredBytes : UInt16) : MasterM Unit := do
  let s ← Program.read
  if edpt &&& 0x80 = 0 then mscXferOut edpt xferredBytes
  else
    -- A packet of 13 bytes is taken for the status, after which nothing more is read.
    Program.when (s.drivers.permit0x81 ∧ ¬ (xferredBytes = 13 ∧ 0 < s.drivers.count0x81))
      (enqueueSpiMessage (mscRead edpt))

/-- `hid_spi`. -/
def hidSpi (message : SlavePacket) (edpt : UInt8) : MasterM Unit := do
  record (.hidSpi edpt)
  onDcd (dcdEdptXferNew edpt (.payload message.payload 0) message.payloadLength)

/-- `hid_xfer`. -/
def hidXfer (edpt : UInt8) : MasterM Unit := do
  let s ← Program.read
  knockOnSlaveEdpt edpt s.drivers.bMaxPacketSize

/-- `register_driver_for_edpt`. Copying the interface descriptor from `NULL` and storing past the
tables are undefined. -/
def registerDriverForEdpt (edpt : EndpointPointer) (itf : Option InterfaceDescriptor)
    (newMps : UInt8) : MasterM Unit := do
  Program.update fun s => { s with drivers := { s.drivers with bMaxPacketSize := newMps } }
  let epAddr := edpt.bEndpointAddress
  let slot := (idx epAddr).toNat
  match itf with
  -- `memcpy` from `NULL`.
  | none => Program.stop .undefined
  | some itf => do
      record (.registerDriver epAddr edpt.maxPacketSize itf)
      defined (slot < driverSlots)
      Program.update fun s =>
        { s with drivers :=
            { s.drivers with itfCopy := Function.update s.drivers.itfCopy slot itf } }
      if itf.bInterfaceClass = 0x03 then
        Program.update fun s =>
          { s with drivers :=
              { s.drivers with edptDriver := Function.update s.drivers.edptDriver slot .hid } }
      else if itf.bInterfaceClass = 0x08 then do
        Program.update fun s =>
          { s with drivers :=
              { s.drivers with
                edptDriver := Function.update s.drivers.edptDriver slot .massStorage } }
        -- The first command block can come at once.
        if epAddr &&& 0x80 = 0 then onDcd (dcdEdptXferNew epAddr (.bugger 0) 64)
        else Program.update fun s => { s with drivers := { s.drivers with otherEdpt := epAddr } }
      else error "Invalid interface number 0x%x"

/-- `handle_spi_slave_event_with_driver`. -/
def handleSpiSlaveEventWithDriver (message : SlavePacket) (edpt : UInt8) : MasterM Unit := do
  let s ← Program.read
  let slot := (idx edpt).toNat
  defined (slot < driverSlots)
  checkComm (s.drivers.itfCopy slot)
  match s.drivers.edptDriver slot with
  | .massStorage => mscSpi message edpt
  | .hid => hidSpi message edpt
  | .illegal => error "Unregistered edpt 0x%x"

/-- `handle_device_xfer_complete_with_driver`. -/
def handleDeviceXferCompleteWithDriver (edpt : UInt8) (xferredBytes : UInt16) :
    MasterM Unit := do
  let s ← Program.read
  let slot := (idx edpt).toNat
  defined (slot < driverSlots)
  match s.drivers.edptDriver slot with
  | .massStorage => mscXfer edpt xferredBytes
  | .hid => hidXfer edpt
  | .illegal => error "Unregistered edpt 0x%x"

end UsbSec.Device
