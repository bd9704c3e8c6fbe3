import UsbSec.Rp2040.Dcd

/-!
# The state of core 0 on the master

The statics of `device_event_handlers.c`, `setup_response_aggregator.c` and `drivers.c`, the
device controller, and the two queues as core 0 sees them: it removes messages from `rx` and
hands messages to `enqueue_spi_message`. The messages handed over are kept in order in `outbox`;
putting them into `tx`, where a full queue makes core 0 wait, is the business of
`System/TwoCores.lean`. `calls` records the calls that properties of runs speak about. No
function of the model reads it.
-/

namespace UsbSec.Device

open Library Usb Rp2040

/-- `driver_t`. -/
inductive DriverType where
  | illegal
  | massStorage
  | hid
  deriving DecidableEq, Repr

/-- `setup_response_dir`. -/
inductive SetupResponseDir where
  | readingResponse
  | writingResponse
  deriving DecidableEq, Repr

/-- The statics of `device_event_handlers.c`. -/
structure DeviceEvents where
  bMaxPacketSize : UInt8
  setup : ControlRequest
  setupResponseDir : SetupResponseDir

/-- The statics of `setup_response_aggregator.c`. Its `idx` is never used. -/
structure Aggregator where
  bugger : Buffer
  mps : UInt8
  len : UInt16

/-- The statics of `drivers.c`, less its buffer, which the transfer engine writes and which is
therefore part of the engine's memory. -/
structure Drivers where
  edptDriver : Nat → DriverType
  itfCopy : Nat → InterfaceDescriptor
  permit0x81 : Bool
  count0x81 : Nat
  otherEdpt : UInt8
  bMaxPacketSize : UInt8

/-- A call of interest, with the arguments it was made with. -/
inductive Call where
  | busReset
  | setupReceived (setup : ControlRequest)
  | handleSetupResponse (setup : ControlRequest) (response : List UInt8)
  | edptOpen (epAddr : UInt8) (maxPacketSize : UInt16) (xfer : UInt8)
  | registerDriver (epAddr : UInt8) (maxPacketSize : UInt16) (itf : InterfaceDescriptor)
  | mscSpi (edpt : UInt8)
  | hidSpi (edpt : UInt8)
  | xferContinue (num : Nat) (dirIn : Bool)
  deriving DecidableEq

/-- The state of core 0 on the master, with the calls made so far, oldest first. -/
structure Master where
  events : DeviceEvents
  aggregator : Aggregator
  drivers : Drivers
  dcd : Dcd
  rx : SpiQueue
  outbox : List SpiMessage
  calls : List Call

/-- A program of the master's core 0. -/
abbrev MasterM (α : Type) := Program Halt Master α

/-- Run a program of the device controller driver. -/
def onDcd {α : Type} (program : DcdM α) : MasterM α :=
  Program.onPart Master.dcd (fun dcd s => { s with dcd := dcd }) program

/-- Record a call. -/
def record (call : Call) : MasterM Unit :=
  Program.update fun s => { s with calls := s.calls ++ [call] }

/-- `enqueue_spi_message`. -/
def enqueueSpiMessage (message : SpiMessage) : MasterM Unit :=
  Program.update fun s => { s with outbox := s.outbox ++ [message] }

/-- `knock_on_slave_edpt`: ask the slave for `len` bytes from an endpoint. The message has `len`
zero bytes and the endpoint address. The buffer it is built in is shared with core 1; see
`Link/SharedBuffer.lean`. -/
def knockOnSlaveEdpt (edpt len : UInt8) : MasterM Unit :=
  enqueueSpiMessage
    { eFlag := MsgType.usbData ||| MsgType.debugPrintAsHex
      payload := List.replicate len.toNat 0 ++ [edpt]
      payload_lt := SpiMessage.zeros_lt len edpt }

/-- The static data before `main` runs. -/
def Master.zero (romWord : BitVec 32) : Master where
  events :=
    { bMaxPacketSize := 64, setup := ⟨0, 0, 0, 0, 0⟩, setupResponseDir := .readingResponse }
  aggregator := { bugger := fun _ => 0, mps := 64, len := 0 }
  drivers :=
    { edptDriver := fun _ => .illegal, itfCopy := fun _ => ⟨0, 0, 0, 0, 0, 0, 0, 0, 0⟩
      permit0x81 := false, count0x81 := 0, otherEdpt := 0, bMaxPacketSize := 0 }
  dcd := .cleared romWord
  rx := .empty
  outbox := []
  calls := []

/-- The state in which `core0_loop` starts on the master. `romWord` is the word the boot ROM has
at address 0. -/
def Master.init (romWord : BitVec 32) : Master :=
  Program.final (onDcd dcdInitNew (Master.zero romWord))

end UsbSec.Device
