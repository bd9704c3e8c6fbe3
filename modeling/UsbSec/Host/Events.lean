import UsbSec.Rp2040.Hcd

/-!
# Host event handlers

After `lib/usb_event_handlers/host_event_handlers.c`: the state of core 0 on the slave, what it
does with messages from the master and with completed transfers. As on the master, the messages
handed to `enqueue_spi_message` are kept in order in `outbox`. `calls` records the calls that
properties of runs speak about, and no function of the model reads it.
-/

namespace UsbSec.Host

open Library Usb Rp2040

/-- `xfer_result_t`, with the literal 4 that stands for a transfer that is not complete. -/
inductive XferResult where
  | success
  | failed
  | stalled
  | more
  deriving DecidableEq, Repr

/-- A completed transaction of the EPX registers. -/
inductive Transaction where
  | setupSent
  | packetIn
  | packetOut
  deriving DecidableEq, Repr

/-- A call of interest, or a transaction that the controller completed. -/
inductive Call where
  | setupSend (setup : ControlRequest)
  | edptXfer (epAddr : UInt8)
  | xferComplete (epAddr level : UInt8) (xferredBytes : UInt16) (result : XferResult)
  | sendEvent (message : SpiMessage)
  | transacted (transaction : Transaction)
  deriving DecidableEq

/-- The state of core 0 on the slave: the statics of `host_event_handlers.c` less its buffer,
which the transfer engine writes, the host controller, and the queues as core 0 sees them. -/
structure Slave where
  setup : ControlRequest
  level : UInt8
  devAddr : UInt8
  debugLock : Bool
  hcd : Hcd
  rx : SpiQueue
  outbox : List SpiMessage
  calls : List Call

/-- A program of the slave's core 0. -/
abbrev SlaveM (α : Type) := Program Halt Slave α

/-- Run a program of the host controller driver. -/
def onHcd {α : Type} (program : HcdM α) : SlaveM α :=
  Program.onPart Slave.hcd (fun hcd s => { s with hcd := hcd }) program

/-- Record a call. -/
def record (call : Call) : SlaveM Unit :=
  Program.update fun s => { s with calls := s.calls ++ [call] }

/-- `enqueue_spi_message`. -/
def enqueueSpiMessage (message : SpiMessage) : SlaveM Unit :=
  Program.update fun s => { s with outbox := s.outbox ++ [message] }

/-- Set `level`. -/
def setLevel (level : UInt8) : SlaveM Unit := Program.update fun s => { s with level := level }

/-- Set `debug_lock`. Nothing tests it: the test in `slavework` is commented out. -/
def setDebugLock (value : Bool) : SlaveM Unit :=
  Program.update fun s => { s with debugLock := value }

/-- Copy bytes into the static buffer. -/
def fillBugger (start : Nat) (bytes : List UInt8) : SlaveM Unit := do
  defined (start + bytes.length ≤ buggerSize .slave)
  Program.update fun s =>
    let memory := s.hcd.memory
    { s with hcd := { s.hcd with
        memory := { memory with bugger := memory.bugger.writeAt start bytes } } }

/-- A call of `hcd_edpt_xfer`. -/
def startXfer (devAddr epAddr : UInt8) (buffer : UserBuf) (buflen : UInt16) : SlaveM Unit := do
  record (.edptXfer epAddr)
  onHcd (hcdEdptXfer devAddr epAddr buffer buflen)

/-! ## Messages from the master -/

/-- `CHG_ADDR_SETUP`. -/
def chgAddrSetup : ControlRequest := ⟨0, 5, 7, 0, 0⟩

/-- The common part of SETUP_DATA and CHG_ADDR: define the setup packet and send it. -/
def sendSetup (setup : ControlRequest) : SlaveM Unit := do
  setDebugLock true
  Program.update fun s => { s with setup := setup }
  setLevel 0
  record (.setupSend setup)
  let s ← Program.read
  onHcd (hcdSetupSend s.devAddr setup.toBytes)

/-- The bytes of a payload as a buffer. -/
def payloadBuffer (payload : List UInt8) : Buffer := fun i => payload.getD i 0

/-- RESET_USB. -/
def handleResetUsb : SlaveM Unit :=
  Program.update fun s =>
    { s with devAddr := 0, hcd := { s.hcd with sieCtrl := s.hcd.sieCtrl ||| sieCtrlResetBus } }

/-- EDPT_OPEN. The payload is read as an endpoint descriptor of seven bytes. -/
def handleEdptOpen (payload : List UInt8) : SlaveM Unit := do
  defined (7 ≤ payload.length)
  let s ← Program.read
  onHcd (hcdEdptOpen ⟨payloadBuffer payload, 0⟩ s.devAddr)

/-- SETUP_DATA. -/
def handleSetupData (payload : List UInt8) : SlaveM Unit := do
  defined (8 ≤ payload.length)
  sendSetup (.ofBuffer (payloadBuffer payload))

/-- USB_DATA. The byte behind the data is the endpoint address. -/
def handleUsbData (payload : List UInt8) : SlaveM Unit := do
  setLevel 3
  match payload.getLast? with
  | none => Program.stop .undefined
  | some epAddr => do
      fillBugger 0 payload.dropLast
      let s ← Program.read
      startXfer s.devAddr epAddr (.bugger 0) (UInt16.ofNat (payload.length - 1))

/-- CHG_ADDR. -/
def handleChgAddr : SlaveM Unit := do
  sendSetup chgAddrSetup
  Program.update fun s => { s with devAddr := chgAddrSetup.wValue.toUInt8 }

/-- CHG_EPX_PACKETSIZE. -/
def handleChgEpxPacketsize (payload : List UInt8) : SlaveM Unit :=
  match payload with
  | [size] => onHcd (changeEpxPacketsize size)
  | _ => Program.stop .assertion

/-- The flag that `slavework` switches on. -/
def messageKind (message : SpiMessage) : UInt16 := message.eFlag &&& ~~~MsgType.debugPrintAsHex

/-- The `switch` of `slavework`. -/
def handleMessage (message : SpiMessage) : SlaveM Unit :=
  let kind := messageKind message
  if kind = MsgType.resetUsb then handleResetUsb
  else if kind = MsgType.edptOpen then handleEdptOpen message.payload
  else if kind = MsgType.setupData then handleSetupData message.payload
  else if kind = MsgType.usbData then handleUsbData message.payload
  else if kind = MsgType.chgAddr then handleChgAddr
  else if kind = MsgType.chgEpxPacketsize then handleChgEpxPacketsize message.payload
  else if kind = 0 then pure ()
  else error "Invalid message from master!"

/-- `slavework`. -/
def slavework : SlaveM Unit := do
  let s ← Program.read
  match s.rx.remove with
  | none => pure ()
  | some (message, rest) => do
      Program.update fun s => { s with rx := rest }
      handleMessage message

/-! ## Completed transfers -/

/-- `send_event_to_master`. -/
def sendEventToMaster (len : UInt16) (epAddr : UInt8) (eFlag : UInt16) : SlaveM Unit := do
  -- The address goes behind the data, into the buffer that the transfer was received in.
  Program.when (len ≠ 0) (fillBugger len.toNat [epAddr])
  let s ← Program.read
  let message : SpiMessage :=
    if len = 0 then ⟨MsgType.isPacket ||| eFlag, [epAddr], SpiMessage.single_lt epAddr⟩
    else .copyOf (MsgType.isPacket ||| eFlag) s.hcd.memory.bugger 0 (len + 1)
  record (.sendEvent message)
  enqueueSpiMessage message

/-- The length of the read that follows a setup packet. -/
def responseLength (setup : ControlRequest) : UInt16 :=
  if setup.direction = 0 then 64 else setup.wLength

/-- Read from endpoint 0. -/
def readResponse (devAddr : UInt8) : SlaveM Unit := do
  let s ← Program.read
  startXfer devAddr 0x80 (.bugger 0) (responseLength s.setup)

/-- Level 0 of `hcd_event_xfer_complete`: the setup packet is sent. -/
def completeSetup (devAddr : UInt8) (xferredBytes : UInt16) (result : XferResult) :
    SlaveM Unit := do
  runtimeAssert (xferredBytes = 0)
  runtimeAssert (result = .success)
  setLevel 1
  readResponse devAddr

/-- Level 1 of `hcd_event_xfer_complete`: data of the response. While more is expected the read
is started again, for the whole length. -/
def completeResponse (devAddr epAddr : UInt8) (xferredBytes : UInt16) (result : XferResult) :
    SlaveM Unit :=
  if result = .success then do
    setLevel 2
    setDebugLock false
    let s ← Program.read
    -- Otherwise the read of level 0 was the status stage.
    Program.when (s.setup.direction = 1) (startXfer devAddr 0x00 .null 0)
    sendEventToMaster xferredBytes epAddr (MsgType.lastPacket ||| MsgType.setupData)
  else do
    readResponse devAddr
    sendEventToMaster xferredBytes epAddr MsgType.setupData

/-- The flag of a message that ends or continues a transfer other than a control transfer. -/
def transferFlag (result : XferResult) : UInt16 :=
  match result with
  | .success => MsgType.lastPacket
  | .more => MsgType.firstPacket
  | _ => 0

/-- The endpoint is the control endpoint in either direction. -/
def IsControl (epAddr : UInt8) : Prop := epAddr &&& 0x7f = 0

instance (epAddr : UInt8) : Decidable (IsControl epAddr) := inferInstanceAs (Decidable (_ = _))

/-- `hcd_event_xfer_complete`. -/
def hcdEventXferComplete (devAddr epAddr : UInt8) (xferredBytes : UInt16) (result : XferResult) :
    SlaveM Unit := do
  runtimeAssert (result = .success ∨ result = .more)
  let s ← Program.read
  record (.xferComplete epAddr s.level xferredBytes result)
  if IsControl epAddr then
    if s.level = 0 then completeSetup devAddr xferredBytes result
    else if s.level = 1 then completeResponse devAddr epAddr xferredBytes result
    -- At level 2 the status stage is done; level 3 belongs to another endpoint.
    else pure ()
  else do
    setDebugLock false
    sendEventToMaster xferredBytes epAddr (transferFlag result)

/-- The slave when its loop starts. -/
def Slave.init (romWord : BitVec 32) : Slave where
  setup := ⟨0, 0, 0, 0, 0⟩
  level := 0
  devAddr := 0
  debugLock := false
  hcd := .init romWord
  rx := .empty
  outbox := []
  calls := []

end UsbSec.Host
