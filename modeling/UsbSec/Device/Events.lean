import UsbSec.Device.Drivers

/-!
# Device event handlers

After `lib/usb_event_handlers/device_event_handlers.c` and
`lib/setup_response_aggregator/setup_response_aggregator.c`: what the master does with messages
from the slave, with SETUP packets and completed transfers, and with a bus reset.

The waits for a device to be attached to the slave have no other effect and are left out.
-/

namespace UsbSec.Device

open Library Usb Rp2040

/-! ## The aggregator of setup responses -/

/-- `MAX_SETUP_RESPONSE_BUGGER`. -/
def maxSetupResponseBugger : Nat := 1024

/-- `register_response`: append the bytes to the response and pass them on to the host. -/
def registerResponse (message : SlavePacket) : MasterM Unit := do
  let s ← Program.read
  defined (s.aggregator.len.toNat + message.payloadLength.toNat ≤ maxSetupResponseBugger)
  Program.update fun s =>
    let bugger := s.aggregator.bugger.writeAt s.aggregator.len.toNat message.data
    { s with aggregator := { s.aggregator with bugger := bugger } }
  onDcd (dcdEdptXferNew 0x80 (.payload message.payload 0) message.payloadLength)
  Program.update fun s =>
    { s with aggregator := { s.aggregator with len := s.aggregator.len + message.payloadLength } }

/-- `send_packet_upstream`. -/
def sendPacketUpstream : MasterM Bool := do
  Program.update fun s => { s with aggregator := { s.aggregator with len := 0 } }
  pure true

/-- `set_max_packet_size`. -/
def setMaxPacketSize (newMps : UInt8) : MasterM Unit :=
  Program.update fun s => { s with aggregator := { s.aggregator with mps := newMps } }

/-! ## The response to a setup packet -/

/-- The endpoint branch of the descriptor walk: open the endpoint, register its driver, and have
the slave open it too. `arr` is the response and `itf` points to an interface descriptor in it. -/
def openEndpoint (arr : Buffer) (pos : Nat) (itf : Option Nat) : MasterM Unit := do
  let edpt : EndpointPointer := ⟨arr, pos⟩
  record (.edptOpen edpt.bEndpointAddress edpt.maxPacketSize edpt.xfer)
  onDcd (dcdEdptOpenNew edpt)
  let s ← Program.read
  registerDriverForEdpt edpt (itf.map (InterfaceDescriptor.ofBuffer arr)) s.events.bMaxPacketSize
  enqueueSpiMessage (.copyOf (MsgType.edptOpen ||| MsgType.debugPrintAsHex) arr pos
    edpt.bLength.toUInt16)

/-- The interface pointer after the descriptor at `pos` is looked at. -/
def nextInterface (arr : Buffer) (pos : Nat) (itf : Option Nat) : Option Nat :=
  if arr (pos + 1) = 0x04 then some pos else itf

/-- The loop `while (pos < len)` over the descriptors, for at most `fuel` iterations. A loop that
has not ended after `len` iterations has met a descriptor of length 0, and stays there. -/
def walk (arr : Buffer) (len : Nat) : Nat → Nat → Option Nat → MasterM Unit
  | 0, pos, _ => if pos < len then Program.stop .hang else pure ()
  | fuel + 1, pos, itf =>
      if pos < len then do
        -- An interface descriptor counts for the endpoints behind it, of whatever length it is.
        let itf := nextInterface arr pos itf
        Program.when (arr (pos + 1) = 0x05) (openEndpoint arr pos itf)
        walk arr len fuel (pos + (arr pos).toNat) itf
      else pure ()

/-- The setup packet asked for the device descriptor. -/
def IsDeviceRequest (setup : ControlRequest) : Prop :=
  setup.bRequest = 0x6 ∧ setup.wValue = 0x100

instance (setup : ControlRequest) : Decidable (IsDeviceRequest setup) :=
  inferInstanceAs (Decidable (_ ∧ _))

/-- The test under which a response is walked as a configuration descriptor. -/
def IsConfigRequest (setup : ControlRequest) : Prop :=
  setup.wValue = 0x0200 ∧ 9 < setup.wLength

instance (setup : ControlRequest) : Decidable (IsConfigRequest setup) :=
  inferInstanceAs (Decidable (_ ∧ _))

/-- The first part of `handle_setup_response`: tell the slave the packet size of endpoint 0. -/
def handleDeviceDescriptor (arr : Buffer) : MasterM Unit := do
  enqueueSpiMessage (.copyOf (MsgType.chgEpxPacketsize ||| MsgType.debugPrintAsHex) arr 7 1)
  Program.update fun s => { s with events := { s.events with bMaxPacketSize := arr 7 } }
  setMaxPacketSize (arr 7)

/-- The last part of `handle_setup_response`: the first poll of a HID endpoint. -/
def handleHidReport (setup : ControlRequest) : MasterM Unit :=
  Program.when (setup.wValue = 0x2200 ∧ setup.wIndex = 0x01) do
    let s ← Program.read
    knockOnSlaveEdpt (setup.wIndex + 0x80).toUInt8 s.events.bMaxPacketSize

/-- `handle_setup_response`. The early return tests the setup packet that lies in the DPRAM,
the other tests use the copy in `setup`. -/
def handleSetupResponse : MasterM Unit := do
  let s ← Program.read
  let arr := s.aggregator.bugger
  let len := s.aggregator.len.toNat
  let setup := s.events.setup
  record (.handleSetupResponse setup (arr.bytesAt 0 len))
  Program.when (IsDeviceRequest setup) (handleDeviceDescriptor arr)
  if (ControlRequest.ofBuffer s.dcd.setupPacket).bRequest = 0x5 then pure ()
  else do
    Program.when (IsConfigRequest setup) (walk arr len len 0 none)
    handleHidReport setup

/-! ## Messages from the slave -/

/-- The reply to a setup packet. The status stage of a device-to-host request is armed after the
last packet. -/
def handleSetupData (message : SlavePacket) : MasterM Unit := do
  registerResponse message
  Program.when (hasFlag message.eFlag MsgType.lastPacket) do
    handleSetupResponse
    Program.update fun s =>
      { s with events := { s.events with setupResponseDir := .writingResponse } }
    let s ← Program.read
    Program.when (s.events.setup.direction = 1) (onDcd (dcdEdptXferNew 0x00 .null 0))

/-- What follows in `handle_spi_slave_event` once a message other than a string is dequeued. -/
def handleMessage (msg : SpiMessage) : MasterM Unit :=
  match msg.payload.getLast? with
  | none => Program.stop .undefined
  | some epAddr => do
      let message : SlavePacket :=
        ⟨msg.eFlag, msg.payload, UInt16.ofNat (msg.payload.length - 1)⟩
      runtimeAssert (hasFlag msg.eFlag MsgType.isPacket)
      if hasFlag msg.eFlag MsgType.setupData then handleSetupData message
      else handleSpiSlaveEventWithDriver message epAddr

/-- The message is a text of the slave, to be printed. -/
def isString (msg : SpiMessage) : Bool := msg.eFlag == MsgType.debugPrintAsString

/-- `handle_spi_slave_event`. Strings at the head of `rx` are printed and dropped. -/
def handleSpiSlaveEvent : MasterM Unit := do
  let s ← Program.read
  if s.events.setupResponseDir = .writingResponse then do
    let done ← sendPacketUpstream
    Program.when done do
      Program.update fun s =>
        { s with events := { s.events with setupResponseDir := .readingResponse } }
  else
    let rx := s.rx.dropWhile isString
    match rx.remove with
    | none => Program.update fun s => { s with rx := rx }
    | some (msg, rest) => do
        Program.update fun s => { s with rx := rest }
        handleMessage msg

/-! ## SETUP packets, completed transfers and bus resets -/

/-- The request is SET_ADDRESS by its number alone. -/
def IsSetAddress (setup : ControlRequest) : Prop := setup.bRequest = 0x5

instance (setup : ControlRequest) : Decidable (IsSetAddress setup) :=
  inferInstanceAs (Decidable (_ = _))

/-- The request is for the device qualifier, which the master answers itself. -/
def IsDeviceQualifier (setup : ControlRequest) : Prop :=
  setup.bRequest = 0x6 ∧ setup.wValue = 0x0600

instance (setup : ControlRequest) : Decidable (IsDeviceQualifier setup) :=
  inferInstanceAs (Decidable (_ ∧ _))

/-- The request is a HID SET_REPORT, which the master answers itself. -/
def IsSetReport (setup : ControlRequest) : Prop :=
  setup.bmRequestType = 0x21 ∧ setup.bRequest = 0x9

instance (setup : ControlRequest) : Decidable (IsSetReport setup) :=
  inferInstanceAs (Decidable (_ ∧ _))

/-- `dcd_event_setup_received_new`. -/
def dcdEventSetupReceivedNew (pSetup : Buffer) : MasterM Unit := do
  let setup := ControlRequest.ofBuffer pSetup
  record (.setupReceived setup)
  Program.update fun s => { s with events := { s.events with setup := setup } }
  -- The slave makes its own SET_ADDRESS request of it.
  if IsSetAddress setup then enqueueSpiMessage (.bare MsgType.chgAddr)
  else if IsDeviceQualifier setup then onDcd (dcdEdptXferNew 0x80 .null 0)
  else if IsSetReport setup then onDcd (dcdEdptXferNew 0x00 .null 0)
  else
    enqueueSpiMessage
      { eFlag := MsgType.setupData ||| MsgType.debugPrintAsHex, payload := setup.toBytes
        payload_lt := setup.toBytes_lt }

/-- `dcd_event_xfer_complete_new`. -/
def dcdEventXferCompleteNew (epAddr : UInt8) (xferredBytes : UInt16) : MasterM Unit := do
  let s ← Program.read
  if IsSetAddress s.events.setup ∧ epAddr = 0x80 then
    -- Tested on the copy, but the address is that of the packet in the DPRAM.
    onDcd (dcdEdpt0StatusComplete (ControlRequest.ofBuffer s.dcd.setupPacket))
  else if epAddr = 0 ∨ epAddr = 0x80 then pure ()
  else handleDeviceXferCompleteWithDriver epAddr xferredBytes

/-- `device_event_bus_reset`. -/
def deviceEventBusReset : MasterM Unit := do
  record .busReset
  enqueueSpiMessage (.bare MsgType.resetUsb)

end UsbSec.Device
