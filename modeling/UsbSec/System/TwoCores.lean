import UsbSec.Device.Outbox
import UsbSec.Host.Frame
import UsbSec.Link.Delivery

/-!
# Both microcontrollers with both of their cores

`main.c` puts the parts together: core 0 of each chip runs its handlers in turn, core 1 runs
`sync`, and the two queues of a chip are all that its cores share. A handler reads `rx` when it
starts and hands its messages over in `outbox`; core 0 then puts them into `tx` one by one, and
begins no other function of its loop before the last of them has found a place. Core 0 adds to
`tx` where `queue_add_blocking` waits on a full queue, so that is where it waits here.

What the host, the device and the controllers do between two handlers is as in the machines of
the two cores 0. Every order of steps is a run.
-/

namespace UsbSec.System

open Library

/-- The state of both chips. `rx` of a core 0 is overwritten with the queue of its chip before
each handler. -/
structure Board where
  master : Device.Core0
  masterHalted : Option Halt
  slave : Host.Core0
  chips : Link.Chips

/-- The messages that the handlers of a core 0 have handed over, oldest first. -/
def Board.outbox (b : Board) : SpiRole → List SpiMessage
  | .master => b.master.master.outbox
  | .slave => b.slave.slave.outbox

/-- Why a core 0 has stopped. -/
def Board.halted (b : Board) : SpiRole → Option Halt
  | .master => b.masterHalted
  | .slave => b.slave.halted

/-- The messages that have been handed over and are not in `tx` yet. Core 0 is adding the first
of them. -/
def Board.handing (b : Board) (role : SpiRole) : List SpiMessage :=
  (b.outbox role).drop (b.chips.chip role).enqueued.length

/-- Core 0 is about to begin a function of its loop. -/
def Board.Idle (b : Board) (role : SpiRole) : Prop :=
  b.handing role = [] ∧ b.halted role = none

instance (b : Board) (role : SpiRole) : Decidable (b.Idle role) :=
  inferInstanceAs (Decidable (_ ∧ _))

/-- The chip when a handler has left `rx` behind. -/
def taken (chip : Link.Chip) (rx : SpiQueue) : Link.Chip :=
  { chip with
    rx := rx
    dequeued := chip.dequeued ++ chip.rx.items.take (chip.rx.level - rx.level) }

/-- The reason why a program stopped. -/
def stopReason {σ : Type} : EStateM.Result Halt σ Unit → Option Halt
  | .ok _ _ => none
  | .error reason _ => some reason

/-- Core 0 of the master runs a handler. -/
def runMaster (handler : Device.MasterM Unit) (b : Board) : Board :=
  let result := handler { b.master.master with rx := b.chips.master.rx }
  { b with
    master := { b.master with master := Program.final result }
    masterHalted := stopReason result
    chips := { b.chips with master := taken b.chips.master (Program.final result).rx } }

/-- Core 0 of the slave runs a handler. -/
def runSlave (handler : Host.SlaveM Unit) (b : Board) : Board :=
  let result := handler { b.slave.slave with rx := b.chips.slave.rx }
  { b with
    slave := { b.slave with slave := Program.final result, halted := stopReason result }
    chips := { b.chips with slave := taken b.chips.slave (Program.final result).rx } }

/-- What can happen: an event of the master or of the slave other than the arrival of a message,
core 0 of a chip finds a place in `tx`, core 1 of a chip takes a step, or
`GPIO_SLAVE_DEVICE_ATTACHED_PIN` changes. -/
inductive Action where
  | device (event : Device.Event)
  | host (event : Host.Event)
  | enqueue (role : SpiRole)
  | core1 (role : SpiRole)
  | attach (level : Bool)

/-- An event of the master. -/
def deviceStep (b : Board) : Device.Event → Option Board
  | .handleSpiSlaveEvent =>
      if b.Idle .master then some (runMaster Device.handleSpiSlaveEvent b) else none
  | .dcdIrq =>
      if b.Idle .master then
        some (runMaster (Device.dcdRp2040Irq b.master.ints)
          { b with master := { b.master with busReset := false, setupReq := false } })
      else none
  | .receive _ => none
  | event => (Device.step b.master event).map fun master => { b with master := master }

/-- An event of the slave. -/
def hostStep (b : Board) : Host.Event → Option Board
  | .slavework => if b.Idle .slave then some (runSlave Host.slavework b) else none
  | .hcdIrq =>
      if b.Idle .slave then
        let hcd := b.slave.slave.hcd
        some (runSlave (Host.hcdRp2040Irq b.slave.causes (hcd.bufStatus != 0) hcd.transComplete) b)
      else none
  | .receive _ => none
  | event => (Host.stepRunning b.slave event).map fun slave => { b with slave := slave }

/-- A step of the link, which changes nothing else. -/
def linkStep (b : Board) (action : Link.Action) : Option Board :=
  (Link.step b.chips action).map fun chips => { b with chips := chips }

/-- One step of the board. -/
def step (b : Board) : Action → Option Board
  | .device event => deviceStep b event
  | .host event => hostStep b event
  | .enqueue role =>
      match b.handing role with
      | [] => none
      | message :: _ => linkStep b (.enqueue role message)
  | .core1 role => linkStep b (.core1 role)
  | .attach level => linkStep b (.attach level)

/-- The board when the loops start. The two words are those that the boot ROMs have at
address 0. -/
def init (masterRom slaveRom : BitVec 32) : Board where
  master := .init masterRom
  masterHalted := none
  slave := .init slaveRom
  chips := Link.init

/-- The board reaches `b` from its start by the given actions. -/
def Reaches (masterRom slaveRom : BitVec 32) (actions : List Action) (b : Board) : Prop :=
  Machine.run step (init masterRom slaveRom) actions = some b

/-! ## Pieces of runs -/

/-- Core 1 of a chip takes some steps. -/
def turns (role : SpiRole) (count : Nat) : List Action := List.replicate count (.core1 role)

/-- A device is attached, the slave waits for a frame, and the master is about to look into
`tx`. -/
def linkUp : List Action := [.attach true] ++ turns .slave 1 ++ turns .master 1

/-- A message goes from the `tx` of the master to the `rx` of the slave. -/
def toSlave : List Action := turns .master 3 ++ turns .slave 4

/-- The master asks for messages, and some go from the `tx` of the slave to its `rx`. -/
def toMaster (count : Nat) : List Action :=
  turns .master 3 ++ turns .slave (7 + 2 * count) ++ turns .master (3 + 2 * count)

/-- The host sends a setup packet, and the master puts it into `tx`. -/
def hostRequest (setup : Usb.ControlRequest) : List Action :=
  [.device (.hostSetup setup), .device .dcdIrq, .enqueue .master]

/-- The slave dequeues a setup packet and sends it. -/
def sendSetup : List Action := [.host .slavework, .host .setupSent, .host .hcdIrq]

/-- A packet arrives on EPX, and the slave puts its reply into `tx`. -/
def replyWith (packet : Usb.Packet) : List Action :=
  [.host (.packetIn packet), .host .hcdIrq, .enqueue .slave]

/-- The status stage of a read is over. -/
def statusStage : List Action := [.host .packetOut, .host .hcdIrq]

end UsbSec.System
