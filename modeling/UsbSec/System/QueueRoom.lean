import UsbSec.Device.Workload
import UsbSec.Host.Workload
import UsbSec.System.QueueWait

/-!
# When the queues have room

The messages of a chip that are due are those under way and those that the interrupts raised by its
controller may still make. A handler takes as much work away as it hands over messages, those of the
master for a message of the slave apart. So what is due in a direction grows when the host or the
device does something, and when the master handles a message of the slave. As long as each of these
leaves room for the messages in one of the two directions, no chip is deadlocked.
-/

namespace UsbSec.System

open Library Link

/-! ## The messages that are due -/

/-- The interrupts of a chip that core 0 has not handled. Each makes one message at most. -/
def Board.interrupts (b : Board) : SpiRole → Nat
  | .master => bitCount b.master.master.dcd.bufStatus + b.master.ints.work
  | .slave => Host.interrupts b.slave.slave.hcd

/-- The messages of a chip that are under way or may come from its interrupts. -/
def Board.due (b : Board) (sender : SpiRole) : Nat := underWay b sender + b.interrupts sender

/-- The master as a handler finds it. -/
def Board.reading (b : Board) : Device.Master := { b.master.master with rx := b.chips.master.rx }

/-- The messages of a chip that an action makes due: one for each interrupt that is raised, and those
that the master makes of a message from the slave. A packet completes a buffer and may end the
transaction. -/
def makesDue (b : Board) : Action → SpiRole → Nat
  | .device (.hostSetup _), .master | .device .hostReset, .master => 1
  | .device (.hostIn _), .master | .device (.hostOut _ _), .master => 1
  | .device .handleSpiSlaveEvent, .master => Device.eventWork b.reading
  | .host .setupSent, .slave | .host (.interruptIn _ _), .slave => 1
  | .host (.packetIn _), .slave | .host .packetOut, .slave => 2
  | _, _ => 0

/-- The messages of the slave that an action takes. -/
def takes (b : Board) : Action → Nat
  | .device .handleSpiSlaveEvent => b.reading.nextMessage.elim 0 fun _ => 1
  | _ => 0

/-- The action makes nothing due, or the messages that are due after it fit into one queue in one of
the two directions. -/
def LeavesRoom (b : Board) (action : Action) : Prop :=
  makesDue b action .master = 0 ∧ makesDue b action .slave = 0 ∨
    b.due .master + makesDue b action .master ≤ spiQueueMaxCapacity ∨
    b.due .slave + makesDue b action .slave ≤ spiQueueMaxCapacity + takes b action

instance (b : Board) (action : Action) : Decidable (LeavesRoom b action) :=
  inferInstanceAs (Decidable (_ ∧ _ ∨ _ ∨ _))

/-! ## What a step does to them -/

/-- The messages that a chip has handed over, and those that may come from its interrupts. -/
def Board.made (b : Board) (sender : SpiRole) : Nat := (b.outbox sender).length + b.interrupts sender

/-- The messages of a chip that the other one has dequeued. -/
def Board.done (b : Board) (sender : SpiRole) : Nat :=
  (b.chips.chip sender.other).dequeued.length

/-- From `b` to `n` at most so many messages become due, and at least so many are dequeued. -/
structure Works (b n : Board) (sender : SpiRole) (made taken : Nat) : Prop where
  made : n.made sender ≤ b.made sender + made
  taken : b.done sender + taken ≤ n.done sender

/-- A board on which neither happens for the chip. -/
theorem works_of_same {b n : Board} {sender : SpiRole} (hmade : n.made sender = b.made sender)
    (hdone : n.done sender = b.done sender) (made : Nat) : Works b n sender made 0 :=
  ⟨by rw [hmade]; exact Nat.le_add_right _ _, Nat.le_of_eq hdone.symm⟩

/-- A handler dequeues what it removes from `rx`. -/
theorem length_taken {chip : Chip} {rx : SpiQueue} (hle : rx.level ≤ chip.rx.level) :
    (taken chip rx).dequeued.length = chip.dequeued.length + (chip.rx.level - rx.level) := by
  show (chip.dequeued ++ chip.rx.items.take (chip.rx.level - rx.level)).length = _
  have hlevel : chip.rx.items.length = chip.rx.level := rfl
  rw [List.length_append, List.length_take, hlevel]
  omega

theorem runMaster_works {handler : Device.MasterM Unit} {b : Board} {made taken : Nat}
    (hmade : (Program.final (handler b.reading)).work ≤ b.reading.work + made)
    (hrx : (Program.final (handler b.reading)).rx.level + taken ≤ b.chips.master.rx.level) :
    Works b (runMaster handler b) .master made 0 ∧ Works b (runMaster handler b) .slave 0 taken := by
  have hle : (Program.final (handler b.reading)).rx.level ≤ b.chips.master.rx.level :=
    Nat.le_trans (Nat.le_add_right _ _) hrx
  have hdone : (runMaster handler b).done .slave = b.done .slave + (b.chips.master.rx.level -
      (Program.final (handler b.reading)).rx.level) := length_taken hle
  have hafter : (runMaster handler b).made .master =
      (Program.final (handler b.reading)).work +
        (b.master.busReset.toNat + b.master.setupReq.toNat) := (Nat.add_assoc _ _ _).symm
  have hbefore : b.made .master =
      b.reading.work + (b.master.busReset.toNat + b.master.setupReq.toNat) :=
    (Nat.add_assoc _ _ _).symm
  refine ⟨⟨?_, Nat.le_refl _⟩, Nat.le_refl _, ?_⟩
  · rw [hafter, hbefore]
    omega
  · rw [hdone]
    omega

theorem runSlave_works {handler : Host.SlaveM Unit} {b : Board}
    (hdue : (Program.final (handler { b.slave.slave with rx := b.chips.slave.rx })).due ≤
      b.slave.slave.due) (role : SpiRole) : Works b (runSlave handler b) role 0 0 := by
  cases role with
  | slave =>
      have hafter : (runSlave handler b).made .slave =
          (Program.final (handler { b.slave.slave with rx := b.chips.slave.rx })).due :=
        (Nat.add_assoc _ _ _).symm
      have hbefore : b.made .slave = b.slave.slave.due := (Nat.add_assoc _ _ _).symm
      refine ⟨?_, Nat.le_refl _⟩
      rw [hafter, hbefore]
      exact hdue
  | master =>
      refine ⟨Nat.le_refl _, ?_⟩
      show b.chips.slave.dequeued.length ≤ (b.chips.slave.dequeued ++ _).length
      rw [List.length_append]
      omega

/-- A step of the link leaves what is due alone. -/
theorem linkStep_works {b n : Board} {action : Link.Action} (hstep : linkStep b action = some n)
    (hdone : ∀ role, n.done role = b.done role) (role : SpiRole) : Works b n role 0 0 := by
  obtain ⟨chips, -, rfl⟩ := linkStep_eq_some hstep
  refine works_of_same ?_ (hdone role) 0
  cases role <;> rfl

/-- Nothing but the interrupts of a chip changes. -/
theorem raises_works {b n : Board} (sender : SpiRole) {made : Nat} (hchips : n.chips = b.chips)
    (houtbox : ∀ role, n.outbox role = b.outbox role)
    (hother : n.interrupts sender.other = b.interrupts sender.other)
    (hraised : n.interrupts sender ≤ b.interrupts sender + made) :
    Works b n sender made 0 ∧ Works b n sender.other 0 0 := by
  have hdone (role : SpiRole) : n.done role = b.done role := by
    unfold Board.done
    rw [hchips]
  refine ⟨⟨?_, Nat.le_of_eq (hdone _).symm⟩, works_of_same ?_ (hdone _) 0⟩
  · unfold Board.made
    rw [houtbox]
    omega
  · unfold Board.made
    rw [houtbox, hother]

/-- Every message will do. -/
theorem masterSends_any : Device.MasterSends fun _ => True :=
  ⟨trivial, trivial, fun _ _ _ => trivial, fun _ _ _ => trivial, fun _ _ _ => trivial⟩

theorem deviceStep_works {b n : Board} {event : Device.Event} (hstep : deviceStep b event = some n) :
    Works b n .master (makesDue b (.device event) .master) 0 ∧
      Works b n .slave 0 (takes b (.device event)) := by
  have hraise {master : Device.Core0} {made : Nat} (houtbox : master.master.outbox = b.master.master.outbox)
      (hraised : bitCount master.master.dcd.bufStatus + master.ints.work ≤
        bitCount b.master.master.dcd.bufStatus + b.master.ints.work + made) :
      Works b { b with master := master } .master made 0 ∧
        Works b { b with master := master } .slave 0 0 := by
    refine raises_works .master rfl (fun role => ?_) rfl hraised
    cases role with
    | master => exact houtbox
    | slave => rfl
  cases event with
  | handleSpiSlaveEvent =>
      obtain ⟨-, hnext⟩ := Option.ite_none_right_eq_some.mp hstep
      cases hnext
      refine runMaster_works (Device.Hands.work (Device.handleSpiSlaveEvent_hands b.reading)) ?_
      show _ + b.reading.nextMessage.elim 0 (fun _ => 1) ≤ _
      cases hnextMessage : b.reading.nextMessage with
      | none =>
          have hany := Device.nextOpensOnly_of_forall (P := fun _ => True) (fun _ _ => trivial) b.reading
          exact (Device.handleSpiSlaveEvent_sends masterSends_any hany).rx.length_le
      | some message =>
          exact Device.handleSpiSlaveEvent_takes (by rw [hnextMessage]; exact Option.some_ne_none _)
  | dcdIrq =>
      obtain ⟨-, hnext⟩ := Option.ite_none_right_eq_some.mp hstep
      cases hnext
      -- The two flags are cleared before the handler runs, so they pay for what it makes of them.
      let quiet : Board := { b with master := { b.master with busReset := false, setupReq := false } }
      have hrx : (Program.final (Device.dcdRp2040Irq b.master.ints b.reading)).rx.level + 0 ≤
          b.chips.master.rx.level :=
        (Device.dcdRp2040Irq_sends masterSends_any b.master.ints b.reading).rx.length_le
      obtain ⟨hmaster, hslave⟩ :=
        runMaster_works (b := quiet) (Device.dcdRp2040Irq_work b.master.ints b.reading) hrx
      have hmade : quiet.made .master + b.master.ints.work = b.made .master := Nat.add_assoc _ _ _
      exact ⟨⟨Nat.le_trans hmaster.made (Nat.le_of_eq hmade), hmaster.taken⟩, hslave.made, hslave.taken⟩
  | receive message => cases hstep
  | hostSetup packet =>
      cases hstep
      refine hraise rfl ?_
      show bitCount b.master.master.dcd.bufStatus + (b.master.busReset.toNat + 1) ≤
        bitCount b.master.master.dcd.bufStatus +
          (b.master.busReset.toNat + b.master.setupReq.toNat) + 1
      omega
  | hostReset =>
      cases hstep
      refine hraise rfl ?_
      show bitCount b.master.master.dcd.bufStatus + (1 + b.master.setupReq.toNat) ≤
        bitCount b.master.master.dcd.bufStatus +
          (b.master.busReset.toNat + b.master.setupReq.toNat) + 1
      omega
  | hostIn num =>
      obtain ⟨master, hmaster, rfl⟩ := Option.map_eq_some_iff.mp hstep
      obtain ⟨dcd, hsend, rfl⟩ := Option.map_eq_some_iff.mp hmaster
      have hcount := Device.sendIn_bitCount hsend
      refine hraise rfl ?_
      show bitCount dcd.bufStatus + b.master.ints.work ≤
        bitCount b.master.master.dcd.bufStatus + b.master.ints.work + 1
      omega
  | hostOut num packet =>
      obtain ⟨master, hmaster, rfl⟩ := Option.map_eq_some_iff.mp hstep
      obtain ⟨dcd, hreceive, rfl⟩ := Option.map_eq_some_iff.mp hmaster
      have hcount := Device.receiveOut_bitCount hreceive
      refine hraise rfl ?_
      show bitCount dcd.bufStatus + b.master.ints.work ≤
        bitCount b.master.master.dcd.bufStatus + b.master.ints.work + 1
      omega

theorem hostStep_works {b n : Board} {event : Host.Event} (hstep : hostStep b event = some n) :
    Works b n .slave (makesDue b (.host event) .slave) 0 ∧ Works b n .master 0 0 := by
  have hraise {slave : Host.Core0} {made : Nat} (houtbox : slave.slave.outbox = b.slave.slave.outbox)
      (hraised : Host.interrupts slave.slave.hcd ≤ Host.interrupts b.slave.slave.hcd + made) :
      Works b { b with slave := slave } .slave made 0 ∧
        Works b { b with slave := slave } .master 0 0 := by
    refine raises_works .slave rfl (fun role => ?_) rfl hraised
    cases role with
    | master => rfl
    | slave => exact houtbox
  have htransact {transaction : Host.Transaction} {hcd : Option Rp2040.Hcd} {slave : Host.Core0}
      {made : Nat} (h : Host.transact transaction hcd b.slave = some slave)
      (hraised : ∀ next, hcd = some next →
        Host.interrupts next ≤ Host.interrupts b.slave.slave.hcd + made) :
      Works b { b with slave := slave } .slave made 0 ∧
        Works b { b with slave := slave } .master 0 0 := by
    obtain ⟨next, hnext, rfl⟩ := Option.map_eq_some_iff.mp h
    exact hraise rfl (hraised next hnext)
  cases event with
  | slavework =>
      obtain ⟨-, hnext⟩ := Option.ite_none_right_eq_some.mp hstep
      cases hnext
      have hdue := Host.Hands.due
        (Host.slavework_makes { b.slave.slave with rx := b.chips.slave.rx })
      exact ⟨runSlave_works hdue _, runSlave_works hdue _⟩
  | hcdIrq =>
      obtain ⟨-, hnext⟩ := Option.ite_none_right_eq_some.mp hstep
      cases hnext
      have hdue := Host.hcdRp2040Irq_due b.slave.causes
        { b.slave.slave with rx := b.chips.slave.rx }
      exact ⟨runSlave_works hdue _, runSlave_works hdue _⟩
  | receive message => cases hstep
  | setupSent =>
      obtain ⟨slave, hslave, rfl⟩ := Option.map_eq_some_iff.mp hstep
      exact htransact hslave fun _ => Host.sendSetupPacket_interrupts
  | packetIn packet =>
      obtain ⟨slave, hslave, rfl⟩ := Option.map_eq_some_iff.mp hstep
      exact htransact hslave fun _ => Host.receiveIn_interrupts
  | packetOut =>
      obtain ⟨slave, hslave, rfl⟩ := Option.map_eq_some_iff.mp hstep
      exact htransact hslave fun _ => Host.sendOut_interrupts
  | interruptIn slot packet =>
      obtain ⟨slave, hslave, rfl⟩ := Option.map_eq_some_iff.mp hstep
      obtain ⟨hcd, hreceived, rfl⟩ := Option.map_eq_some_iff.mp hslave
      exact hraise rfl (Host.receiveInterrupt_interrupts hreceived)
  | raise cause =>
      cases hstep
      exact hraise rfl (Nat.le_refl _)

/-- What a step makes due, and what it takes. -/
theorem step_works {b n : Board} {action : Action} (hinStep : InStep b.chips)
    (hstep : step b action = some n) :
    Works b n .master (makesDue b action .master) 0 ∧
      Works b n .slave (makesDue b action .slave) (takes b action) := by
  cases action with
  | device event =>
      have hnone : makesDue b (.device event) .slave = 0 := by cases event <;> rfl
      rw [hnone]
      exact deviceStep_works hstep
  | host event =>
      have hnone : makesDue b (.host event) .master = 0 := by cases event <;> rfl
      rw [hnone]
      exact (hostStep_works hstep).symm
  | enqueue role =>
      unfold step at hstep
      dsimp only at hstep
      split at hstep
      · cases hstep
      · have hdone (other : SpiRole) : n.done other = b.done other := by
          obtain ⟨chips, hchips, rfl⟩ := linkStep_eq_some hstep
          obtain ⟨chip, henqueue, rfl⟩ := Option.map_eq_some_iff.mp hchips
          obtain ⟨tx, -, rfl⟩ := Option.map_eq_some_iff.mp henqueue
          cases role <;> cases other <;> rfl
        exact ⟨linkStep_works hstep hdone _, linkStep_works hstep hdone _⟩
  | core1 role =>
      have hdone (other : SpiRole) : n.done other = b.done other := by
        obtain ⟨chips, hchips, rfl⟩ := linkStep_eq_some hstep
        exact congrArg List.length ((core1_moved hinStep hchips).dequeued other.other)
      exact ⟨linkStep_works hstep hdone _, linkStep_works hstep hdone _⟩
  | attach level =>
      have hdone (other : SpiRole) : n.done other = b.done other := by
        obtain ⟨chips, hchips, rfl⟩ := linkStep_eq_some hstep
        cases hchips
        cases other <;> rfl
      exact ⟨linkStep_works hstep hdone _, linkStep_works hstep hdone _⟩

/-! ## Runs that leave room -/

/-- What has been dequeued was handed over, so the messages that are due are the difference. -/
theorem Reaches.due {masterRom slaveRom : BitVec 32} {actions : List Action} {b : Board}
    (h : Reaches masterRom slaveRom actions b) (sender : SpiRole) :
    b.due sender + b.done sender = b.made sender := by
  obtain ⟨_, -, -, hcarries⟩ := h.carries
  have hordered := (h.delivered sender).ordered.length_le
  have hhanded := congrArg List.length (hcarries.inOrder.outbox sender)
  rw [List.length_append] at hhanded
  unfold Board.due Board.done Board.made System.underWay
  omega

/-- A reachable board on which the messages that are due fit into one queue in one of the two
directions. -/
structure Roomy (masterRom slaveRom : BitVec 32) (b : Board) : Prop where
  reached : ∃ actions, Reaches masterRom slaveRom actions b
  room : b.due .master ≤ spiQueueMaxCapacity ∨ b.due .slave ≤ spiQueueMaxCapacity

theorem roomy_init (masterRom slaveRom : BitVec 32) :
    Roomy masterRom slaveRom (init masterRom slaveRom) := by
  refine ⟨⟨[], rfl⟩, .inr ?_⟩
  show 0 - 0 + (bitCount 0#32 + 0) ≤ 20
  decide

/-- A step that leaves room keeps it. -/
theorem Roomy.step {masterRom slaveRom : BitVec 32} {b n : Board} {action : Action}
    (hb : Roomy masterRom slaveRom b) (hroom : LeavesRoom b action)
    (hstep : step b action = some n) : Roomy masterRom slaveRom n := by
  obtain ⟨actions, hreached⟩ := hb.reached
  have hnext : Reaches masterRom slaveRom (actions ++ [action]) n :=
    (Machine.run_concat hreached).trans hstep
  obtain ⟨_, -, -, hcarries⟩ := hreached.carries
  obtain ⟨mail, hmail⟩ := hcarries.implements
  obtain ⟨hmaster, hslave⟩ := step_works hmail.1 hstep
  -- What is due is what was made less what was taken, before the step and after it.
  have hdue (sender : SpiRole) {made taken : Nat} (h : Works b n sender made taken) :
      n.due sender + taken ≤ b.due sender + made := by
    have hbefore := hreached.due sender
    have hafter := hnext.due sender
    have hmade := h.made
    have htaken := h.taken
    omega
  have hdueMaster := hdue .master hmaster
  have hdueSlave := hdue .slave hslave
  refine ⟨⟨_, hnext⟩, ?_⟩
  have hroomBefore := hb.room
  unfold LeavesRoom at hroom
  omega

/-- In a run whose steps leave room no chip is ever deadlocked. -/
theorem not_deadlocked_of_leavesRoom {masterRom slaveRom : BitVec 32} {actions : List Action}
    {b : Board} (hroom : Machine.Guarded step LeavesRoom (init masterRom slaveRom) actions)
    (h : Reaches masterRom slaveRom actions b) (role : SpiRole) : ¬ Deadlocked b role := by
  have hroomy : Roomy masterRom slaveRom b := Machine.guarded_invariant
    (fun _ _ _ hb hok hstep => hb.step hok hstep) (roomy_init masterRom slaveRom) hroom h
  have hunderWay (sender : SpiRole) : underWay b sender ≤ b.due sender := Nat.le_add_right _ _
  rcases hroomy.room with hmaster | hslave
  · exact not_deadlocked_of_few_underWay h .master ((hunderWay .master).trans hmaster) role
  · exact not_deadlocked_of_few_underWay h .slave ((hunderWay .slave).trans hslave) role

/-- With one bus reset less the queues of the slave have room, although its `tx` is full. -/
theorem twentyResets_not_deadlocked :
    ∃ b, Reaches 0 0 (fillTx ++ resets 20) b ∧ Core0Waits b .slave ∧ ∀ role, ¬ Deadlocked b role := by
  have hends : ∃ b, Machine.run step (init 0 0) (fillTx ++ resets 20) = some b ∧ Core0Waits b .slave :=
    Machine.exists_run_of_any (by decide +kernel)
  obtain ⟨b, hrun, hwaits⟩ := hends
  exact ⟨b, hrun, hwaits, not_deadlocked_of_leavesRoom (by decide +kernel) hrun⟩

end UsbSec.System
