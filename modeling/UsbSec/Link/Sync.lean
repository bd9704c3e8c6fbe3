import UsbSec.Library.Machine
import UsbSec.Messages.Message

/-!
# The link between the two chips

After `messages.c` and `spi_data.c`: core 1 of each chip runs `sync` again and again, with the
master's half of it on the master and the slave's half on the slave. Each half is a program
counter with the locals that are alive there, and each step of it is one operation on a queue, on
the link or on `GPIO_SLAVE_WAITING_PIN`.

The link carries frames without losing any: a frame is the flag and the bytes that
`spi_send_blocking` was called with. Core 0 of either chip adds messages to `tx` and takes them
from `rx` at any time. The receive buffer is private to core 1 here; on the master core 0 writes
it too, which is the subject of `Link/SharedBuffer.lean`.

A step that has to wait has no successor, and neither has one that writes behind the receive
buffer: the runs in which it happens end there.
-/

namespace UsbSec

/-- The other role. -/
def SpiRole.other : SpiRole → SpiRole
  | .master => .slave
  | .slave => .master

namespace Link

open Library

/-- The size of `bugger` in `messages.c`. -/
def receiveBufferSize : Nat := 1025

/-- What the master hands to `send_message`: a message from `tx`, or the query behind them. -/
inductive Outgoing where
  | fromTx (message : SpiMessage)
  | query
  deriving DecidableEq

/-- The frame on the chips. -/
def Outgoing.frame : Outgoing → SpiMessage
  | .fromTx message => message
  | .query => .bare MsgType.slaveDataQuery

/-- Where core 1 of the master is in `sync`. In `waitPin` it waits for the slave, in `transmit`
it has seen the pin high. -/
inductive MasterPc where
  | start
  | drain
  | waitPin (outgoing : Outgoing)
  | transmit (outgoing : Outgoing)
  | receiveCount
  | receiveReplies (recCount : Nat)
  | addReply (message : SpiMessage) (recCount : Nat)
  | halted
  deriving DecidableEq

/-- Where core 1 of the slave is in `sync`. -/
inductive SlavePc where
  | raisePin
  | receive
  | lowerPin (frame : SpiMessage)
  | process (frame : SpiMessage)
  | readLevel
  | sendCount (recCount : Nat)
  | sendReplies (recCount : Nat)
  | transmit (message : SpiMessage) (recCount : Nat)
  deriving DecidableEq

/-- The queues of one chip, with the messages that core 0 has passed to `enqueue_spi_message` and
got from `dequeue_spi_message`. -/
structure Chip where
  tx : SpiQueue
  rx : SpiQueue
  enqueued : List SpiMessage
  dequeued : List SpiMessage

/-- Both chips and the wires between them. -/
structure Chips where
  master : Chip
  slave : Chip
  masterPc : MasterPc
  slavePc : SlavePc
  toSlave : List SpiMessage
  toMaster : List SpiMessage
  slaveWaiting : Bool
  deviceAttached : Bool

/-! ## Core 0 -/

/-- `enqueue_spi_message`, from the moment at which there is room in `tx`. -/
def Chip.enqueue (chip : Chip) (message : SpiMessage) : Option Chip :=
  (chip.tx.add message).map fun tx =>
    { chip with tx := tx, enqueued := chip.enqueued ++ [message] }

/-- `dequeue_spi_message`, which does not wait. -/
def Chip.dequeue (chip : Chip) : Chip :=
  match chip.rx.remove with
  | none => chip
  | some (message, rest) => { chip with rx := rest, dequeued := chip.dequeued ++ [message] }

/-- The chip with the given role. -/
def Chips.chip (chips : Chips) : SpiRole → Chip
  | .master => chips.master
  | .slave => chips.slave

/-- Replace the chip with the given role. -/
def Chips.setChip (chips : Chips) (role : SpiRole) (chip : Chip) : Chips :=
  match role with
  | .master => { chips with master := chip }
  | .slave => { chips with slave := chip }

/-! ## Core 1 -/

/-- `spi_receive_blocking` into the receive buffer. -/
def receiveFrame : List SpiMessage → Option (SpiMessage × List SpiMessage)
  | [] => none
  | frame :: rest => if frame.payload.length ≤ receiveBufferSize then some (frame, rest) else none

/-- The frame with the number of messages that the slave is about to send. -/
def countFrame (recCount : Nat) : SpiMessage := ⟨0, [UInt8.ofNat recCount], by simp⟩

/-- Where the master goes behind a transmitted frame. -/
def Outgoing.next : Outgoing → MasterPc
  | .fromTx _ => .drain
  | .query => .receiveCount

/-- The next step of `sync` on the master. Only core 1 removes messages from `tx`, so the test
that it is not empty and the removal are one step. -/
def masterStep (chips : Chips) : Option Chips :=
  match chips.masterPc with
  | .start => some { chips with masterPc := if chips.deviceAttached then .drain else .start }
  | .drain =>
      match chips.master.tx.remove with
      -- Nothing is left to send, so the slave is asked for its messages.
      | none => some { chips with masterPc := .waitPin .query }
      | some (message, rest) =>
          some
            { chips with
              master := { chips.master with tx := rest }, masterPc := .waitPin (.fromTx message) }
  | .waitPin outgoing =>
      if chips.slaveWaiting then some { chips with masterPc := .transmit outgoing } else none
  | .transmit outgoing =>
      some
        { chips with toSlave := chips.toSlave ++ [outgoing.frame], masterPc := outgoing.next }
  | .receiveCount =>
      (receiveFrame chips.toMaster).map fun (frame, rest) =>
        { chips with
          toMaster := rest
          masterPc :=
            match frame.payload with
            | [recCount] => .receiveReplies recCount.toNat
            -- The assertion on the length of the frame.
            | _ => .halted }
  | .receiveReplies 0 => some { chips with masterPc := .start }
  | .receiveReplies (recCount + 1) =>
      (receiveFrame chips.toMaster).map fun (frame, rest) =>
        { chips with toMaster := rest, masterPc := .addReply frame recCount }
  | .addReply message recCount =>
      (chips.master.rx.add message).map fun rx =>
        { chips with
          master := { chips.master with rx := rx }, masterPc := .receiveReplies recCount }
  | .halted => none

/-- The next step of `sync` on the slave. -/
def slaveStep (chips : Chips) : Option Chips :=
  match chips.slavePc with
  | .raisePin => some { chips with slaveWaiting := true, slavePc := .receive }
  | .receive =>
      (receiveFrame chips.toSlave).map fun (frame, rest) =>
        { chips with toSlave := rest, slavePc := .lowerPin frame }
  | .lowerPin frame => some { chips with slaveWaiting := false, slavePc := .process frame }
  | .process frame =>
      if hasFlag frame.eFlag MsgType.slaveDataQuery then some { chips with slavePc := .readLevel }
      else
        -- `queue_add_blocking`: with `rx` full the slave stays here, and does not raise the pin.
        (chips.slave.rx.add frame).map fun rx =>
          { chips with slave := { chips.slave with rx := rx }, slavePc := .raisePin }
  -- Messages that core 0 adds behind this point wait for the next query.
  | .readLevel => some { chips with slavePc := .sendCount chips.slave.tx.level }
  | .sendCount recCount =>
      some
        { chips with
          toMaster := chips.toMaster ++ [countFrame recCount], slavePc := .sendReplies recCount }
  | .sendReplies 0 => some { chips with slavePc := .raisePin }
  | .sendReplies (recCount + 1) =>
      chips.slave.tx.remove.map fun (message, rest) =>
        { chips with
          slave := { chips.slave with tx := rest }, slavePc := .transmit message recCount }
  | .transmit message recCount =>
      some { chips with toMaster := chips.toMaster ++ [message], slavePc := .sendReplies recCount }

/-- Core 1 of the master leaves the slave alone, apart from the wires. -/
theorem masterStep_slave {chips next : Chips} (h : masterStep chips = some next) :
    next.slave = chips.slave ∧ next.slavePc = chips.slavePc ∧
      next.slaveWaiting = chips.slaveWaiting := by
  unfold masterStep at h
  split at h
  case h_1 | h_4 | h_6 =>
    cases h
    exact ⟨rfl, rfl, rfl⟩
  case h_2 => split at h <;> cases h <;> exact ⟨rfl, rfl, rfl⟩
  case h_3 =>
    obtain ⟨-, hnext⟩ := Option.ite_none_right_eq_some.mp h
    cases hnext
    exact ⟨rfl, rfl, rfl⟩
  case h_5 | h_7 | h_8 =>
    obtain ⟨_, -, rfl⟩ := Option.map_eq_some_iff.mp h
    exact ⟨rfl, rfl, rfl⟩
  case h_9 => cases h

/-- Core 1 of the slave leaves the master alone, apart from the wires. -/
theorem slaveStep_master {chips next : Chips} (h : slaveStep chips = some next) :
    next.master = chips.master ∧ next.masterPc = chips.masterPc := by
  unfold slaveStep at h
  split at h
  case h_1 | h_3 | h_5 | h_6 | h_7 | h_9 =>
    cases h
    exact ⟨rfl, rfl⟩
  case h_2 | h_8 =>
    obtain ⟨_, -, rfl⟩ := Option.map_eq_some_iff.mp h
    exact ⟨rfl, rfl⟩
  case h_4 =>
    split at h
    · cases h
      exact ⟨rfl, rfl⟩
    · obtain ⟨_, -, rfl⟩ := Option.map_eq_some_iff.mp h
      exact ⟨rfl, rfl⟩

/-! ## Runs -/

/-- What can happen: core 0 of a chip enqueues a message or asks for one, core 1 of a chip takes
a step, or `GPIO_SLAVE_DEVICE_ATTACHED_PIN` changes. -/
inductive Action where
  | enqueue (role : SpiRole) (message : SpiMessage)
  | dequeue (role : SpiRole)
  | core1 (role : SpiRole)
  | attach (level : Bool)

/-- One step of the chips. -/
def step (chips : Chips) : Action → Option Chips
  | .enqueue role message => ((chips.chip role).enqueue message).map (chips.setChip role)
  | .dequeue role => some (chips.setChip role (chips.chip role).dequeue)
  | .core1 .master => masterStep chips
  | .core1 .slave => slaveStep chips
  | .attach level => some { chips with deviceAttached := level }

/-- A chip after `messages_config`. -/
def Chip.init : Chip := ⟨.empty, .empty, [], []⟩

/-- Both chips when core 1 is launched. -/
def init : Chips where
  master := .init
  slave := .init
  masterPc := .start
  slavePc := .raisePin
  toSlave := []
  toMaster := []
  slaveWaiting := false
  deviceAttached := false

/-! ## The queues of received messages -/

/-- What a step of the link does to `rx`: nothing, or it adds a message. -/
def Receives (rx next : SpiQueue) : Prop := next = rx ∨ ∃ message, rx.add message = some next

theorem masterStep_receives {chips next : Chips} (h : masterStep chips = some next) :
    Receives chips.master.rx next.master.rx := by
  unfold masterStep at h
  split at h
  case h_1 | h_4 | h_6 =>
    cases h
    exact .inl rfl
  case h_2 => split at h <;> cases h <;> exact .inl rfl
  case h_3 =>
    obtain ⟨-, hnext⟩ := Option.ite_none_right_eq_some.mp h
    cases hnext
    exact .inl rfl
  case h_5 | h_7 =>
    obtain ⟨_, -, rfl⟩ := Option.map_eq_some_iff.mp h
    exact .inl rfl
  case h_8 =>
    obtain ⟨rx, hadd, rfl⟩ := Option.map_eq_some_iff.mp h
    exact .inr ⟨_, hadd⟩
  case h_9 => cases h

theorem slaveStep_receives {chips next : Chips} (h : slaveStep chips = some next) :
    Receives chips.slave.rx next.slave.rx := by
  unfold slaveStep at h
  split at h
  case h_1 | h_3 | h_5 | h_6 | h_7 | h_9 =>
    cases h
    exact .inl rfl
  case h_2 | h_8 =>
    obtain ⟨_, -, rfl⟩ := Option.map_eq_some_iff.mp h
    exact .inl rfl
  case h_4 =>
    split at h
    · cases h
      exact .inl rfl
    · obtain ⟨rx, hadd, rfl⟩ := Option.map_eq_some_iff.mp h
      exact .inr ⟨_, hadd⟩

/-- A step of the link adds at most one message to the `rx` of a chip, except when core 0
dequeues. -/
theorem step_receives {chips next : Chips} {action : Action}
    (h : step chips action = some next) (hdequeue : ∀ role, action ≠ .dequeue role)
    (role : SpiRole) : Receives (chips.chip role).rx (next.chip role).rx := by
  cases action with
  | enqueue sender message =>
      obtain ⟨chip, henqueue, rfl⟩ := Option.map_eq_some_iff.mp h
      obtain ⟨tx, -, rfl⟩ := Option.map_eq_some_iff.mp henqueue
      cases sender <;> cases role <;> exact .inl rfl
  | dequeue sender => exact absurd rfl (hdequeue sender)
  | core1 sender =>
      cases sender with
      | master =>
          cases role with
          | master => exact masterStep_receives h
          | slave => exact .inl (congrArg Chip.rx (masterStep_slave h).1)
      | slave =>
          cases role with
          | master => exact .inl (congrArg Chip.rx (slaveStep_master h).1)
          | slave => exact slaveStep_receives h
  | attach level =>
      cases h
      cases role <;> exact .inl rfl

end Link

end UsbSec
