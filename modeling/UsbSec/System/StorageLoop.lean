import UsbSec.System.BulkPhases

/-!
# Bulk-only commands from the host to the device and back

Core 0 of the master and core 0 of the slave with their neighbours, for one bulk-only mass-storage
interface. The host sends command blocks and takes the packets offered to it, and issues a command
only when it has the status of the one before. The device takes each block and answers the reads of
its IN endpoint with its packets. Between the controllers there is a queue in either direction, to
which the loops of both cores 1 come down. `log` records, in order, the blocks that reach the device,
the reads that the master requests and the packets that the host takes.
-/

namespace UsbSec.System

open Library Usb Device Host

/-! ## Commands -/

/-- A command without data-out stage: its block, and the packets with which the device answers. -/
structure StorageCommand where
  block : Packet
  data : List Packet
  status : Packet
  block_length : block.bytes.length = 31
  data_length : ∀ packet ∈ data, 1 ≤ packet.bytes.length ∧ packet.bytes.length ≤ 64
  status_length : status.bytes.length = 13

/-- The packets of the device, the status wrapper last. -/
def StorageCommand.packets (command : StorageCommand) : List Packet :=
  command.data ++ [command.status]

/-- The device sends no packet that is longer than its endpoint allows. -/
def StorageCommand.Suits (dev : StorageInterface) (command : StorageCommand) : Prop :=
  ∀ packet ∈ command.data, packet.bytes.length ≤ dev.inSize.toNat

instance (dev : StorageInterface) (command : StorageCommand) : Decidable (command.Suits dev) :=
  inferInstanceAs (Decidable (∀ packet ∈ command.data, _))

/-- The packet ends a read of so many bytes: it is short, or no more than one packet is asked for. -/
def Suffices (dev : StorageInterface) (length : Nat) (packet : Packet) : Prop :=
  packet.bytes.length < dev.inSize.toNat ∨ length ≤ dev.inSize.toNat

instance (dev : StorageInterface) (length : Nat) (packet : Packet) :
    Decidable (Suffices dev length packet) := inferInstanceAs (Decidable (_ ∨ _))

/-- No data packet of the command has the length of a status wrapper, and every packet ends the read
that it answers. The first read asks for a packet of endpoint 0, the others for 64 bytes. -/
structure StorageCommand.Distinct (dev : StorageInterface) (command : StorageCommand) : Prop where
  data : ∀ packet ∈ command.data, packet.bytes.length ≠ 13
  first : ∀ packet ∈ command.packets.head?, Suffices dev dev.controlSize.toNat packet
  others : ∀ packet ∈ command.packets.tail, Suffices dev 64 packet

instance (dev : StorageInterface) (command : StorageCommand) : Decidable (command.Distinct dev) :=
  decidable_of_iff ((∀ packet ∈ command.data, packet.bytes.length ≠ 13) ∧
    (∀ packet ∈ command.packets.head?, Suffices dev dev.controlSize.toNat packet) ∧
    ∀ packet ∈ command.packets.tail, Suffices dev 64 packet)
    ⟨fun h => ⟨h.1, h.2.1, h.2.2⟩, fun h => ⟨h.data, h.first, h.others⟩⟩

/-- What happens to a command: its block reaches the device, the master requests a read, the host
takes a packet. -/
inductive Entry where
  | block (bytes : List UInt8)
  | read
  | taken (bytes : List UInt8)
  deriving DecidableEq

/-- The log of the packets of one command, each preceded by the read that asked for it. -/
def packetEntries (packets : List Packet) : List Entry :=
  packets.flatMap fun packet => [.read, .taken packet.bytes]

/-- The log of one command. -/
def StorageCommand.entries (command : StorageCommand) : List Entry :=
  .block command.block.bytes :: packetEntries command.packets

/-- The log of a sequence of commands. -/
def expectedLog (commands : List StorageCommand) : List Entry :=
  commands.flatMap StorageCommand.entries

/-! ## The loop -/

/-- Core 0 of both controllers with their neighbours: how many messages of either `outbox` the other
side has, the packets the device still has for the command, and the number of packets the host still
waits for. -/
structure Loop where
  master : Device.Core0
  slave : Host.Core0
  turn : Turn
  handed : Nat
  reported : Nat
  answer : List Packet
  waiting : Nat
  log : List Entry

/-- What can happen: the host issues a command, the queues deliver a message, core 0 of the slave
runs a function of its loop, the device takes or sends a packet, core 0 of the master runs the next
function of its loop, the host takes a packet. -/
inductive LoopEvent where
  | command (command : StorageCommand)
  | toSlave
  | slavework
  | packetOut
  | packetIn
  | hcdIrq
  | toMaster
  | handle
  | irq
  | take

/-- The event issues no command. -/
def LoopEvent.IsLocal : LoopEvent → Prop
  | .command _ => False
  | _ => True

/-- The commands that a list of events issues. -/
def commandsOf (events : List LoopEvent) : List StorageCommand :=
  events.filterMap fun event =>
    match event with
    | .command command => some command
    | _ => none

/-- The messages on their way to the slave. -/
def Loop.sent (l : Loop) : List SpiMessage := l.master.master.outbox.drop l.handed

/-- The messages on their way to the master. -/
def Loop.reports (l : Loop) : List SpiMessage := l.slave.slave.outbox.drop l.reported

/-- The reads that were requested between two states of the master. -/
def newReads (dev : StorageInterface) (s t : Master) : List Entry :=
  ((t.outbox.drop s.outbox.length).filter fun message => AsksRead dev message).map fun _ => .read

/-- The loop after a function of the master's core 0 has run. -/
def Loop.afterHandler (dev : StorageInterface) (l : Loop) (turn : Turn) (master : Device.Core0) :
    Loop :=
  { l with master := master, turn := turn, log := l.log ++ newReads dev l.master.master master.master }

/-- One step of the loop. The device answers when its endpoint is addressed. -/
def storageStep (path : BulkPath) (l : Loop) : LoopEvent → Option Loop
  | .command command => do
      guard (l.waiting = 0 ∧ command.Suits path.interface)
      let master ← Device.step l.master (.hostOut (endpointNum path.interface.epOut) command.block)
      some { l with master := master, answer := command.packets, waiting := command.packets.length }
  | .toSlave => do
      let message ← l.sent.head?
      let slave ← Host.step l.slave (.receive message)
      some { l with slave := slave, handed := l.handed + 1 }
  | .slavework => (Host.step l.slave .slavework).map fun slave => { l with slave := slave }
  | .packetOut => do
      guard (addressedEndpoint l.slave.slave.hcd = path.interface.epOut)
      let slave ← Host.step l.slave .packetOut
      some { l with slave := slave, log := l.log ++ [.block (epxBytes l.slave.slave.hcd)] }
  | .packetIn => do
      guard (addressedEndpoint l.slave.slave.hcd = path.interface.epIn)
      let packet ← l.answer.head?
      let slave ← Host.step l.slave (.packetIn packet)
      some { l with slave := slave, answer := l.answer.tail }
  | .hcdIrq => (Host.step l.slave .hcdIrq).map fun slave => { l with slave := slave }
  | .toMaster => do
      let message ← l.reports.head?
      let master ← Device.step l.master (.receive message)
      some { l with master := master, reported := l.reported + 1 }
  | .handle =>
      if l.turn = .handle then
        (Device.step l.master .handleSpiSlaveEvent).map (l.afterHandler path.interface .irq)
      else none
  | .irq =>
      if l.turn = .irq then
        (Device.step l.master .dcdIrq).map (l.afterHandler path.interface .handle)
      else none
  | .take => do
      let num := endpointNum path.interface.epIn
      let master ← Device.step l.master (.hostIn num)
      some { l with master := master, waiting := l.waiting - 1
                    log := l.log ++ [.taken (offeredBytes l.master.master.dcd num)] }

/-- Nothing more happens until the host issues a command: no message is on its way, the device and
the host have nothing to exchange, and neither core 0 has a message or a buffer to handle. -/
structure Quiet (path : BulkPath) (l : Loop) : Prop where
  exchanges : ∀ event ∈ [LoopEvent.toSlave, .packetOut, .packetIn, .toMaster, .take],
    (storageStep path l event).isNone = true
  slaveRx : l.slave.slave.rx.items = []
  slaveBuffers : l.slave.slave.hcd.bufStatus = 0
  masterRx : l.master.master.rx.items = []
  masterInts : l.master.ints = ⟨false, false, false⟩

instance (path : BulkPath) (l : Loop) : Decidable (Quiet path l) :=
  decidable_of_iff ((∀ event ∈ [LoopEvent.toSlave, .packetOut, .packetIn, .toMaster, .take],
      (storageStep path l event).isNone = true) ∧ l.slave.slave.rx.items = [] ∧
      l.slave.slave.hcd.bufStatus = 0 ∧ l.master.master.rx.items = [] ∧
      l.master.ints = ⟨false, false, false⟩)
    ⟨fun h => ⟨h.1, h.2.1, h.2.2.1, h.2.2.2.1, h.2.2.2.2⟩, fun h => ⟨h.1, h.2, h.3, h.4, h.5⟩⟩

/-- The host may issue the next command, and the master takes its block. -/
def AcceptsCommand (path : BulkPath) (l : Loop) : Prop :=
  ∀ command : StorageCommand, command.Suits path.interface →
    (storageStep path l (.command command)).isSome

/-- The commands issued so far are served as they should be: everything that happened is in the
order of the commands, nothing is missing when nothing more happens and the next command is
accepted then, and this point is reached without a further command. -/
structure Serves (path : BulkPath) (commands : List StorageCommand) (l : Loop) : Prop where
  inOrder : l.log <+: expectedLog commands
  complete : Quiet path l → l.log = expectedLog commands ∧ AcceptsCommand path l
  settles : ∃ events last, (∀ event ∈ events, event.IsLocal) ∧
    Machine.run (storageStep path) l events = some last ∧ Quiet path last

/-! ## The start -/

/-- The interface is set up on both controllers, and nothing is under way. -/
structure StorageAtRest (path : BulkPath) (master : Device.Core0) (slave : Host.Core0) : Prop where
  master : AwaitsCommand path.interface master
  ready : BulkReady path.slave slave.slave.hcd
  idle : EpxIdle slave.slave.hcd
  rx : slave.slave.rx.items = []
  running : slave.halted = none
  causes : NoErrors slave.causes

instance (path : BulkPath) (master : Device.Core0) (slave : Host.Core0) :
    Decidable (StorageAtRest path master slave) :=
  decidable_of_iff (AwaitsCommand path.interface master ∧
    BulkOpen path.slave.out slave.slave.hcd ∧ BulkOpen path.slave.into slave.slave.hcd ∧
    EpxIdle slave.slave.hcd ∧ slave.slave.rx.items = [] ∧ slave.halted = none ∧
    ∀ cause ∈ slave.causes, cause = .hostConnDis ∨ cause = .errorRxTimeout)
    ⟨fun h => ⟨h.1, ⟨h.2.1, h.2.2.1⟩, h.2.2.2.1, h.2.2.2.2.1, h.2.2.2.2.2.1, h.2.2.2.2.2.2⟩,
      fun h => ⟨h.master, h.ready.out, h.ready.into, h.idle, h.rx, h.running, h.causes⟩⟩

/-- The loop when the interface is set up. Earlier messages are not the business of the loop. -/
def Loop.start (master : Device.Core0) (slave : Host.Core0) (turn : Turn) : Loop :=
  ⟨master, slave, turn, master.master.outbox.length, slave.slave.outbox.length, [], 0, []⟩

end UsbSec.System
