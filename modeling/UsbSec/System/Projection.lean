import UsbSec.System.Refinement

/-!
# The board runs both machines

Core 0 of a chip sees of the rest of the board only the `rx` of its chip, into which core 1 puts
messages. While it runs, a step of the board is for the machine of that core 0 one of its own
events, the arrival of a message, or nothing. Every run of the board is therefore a run of the
machine of the master and one of the machine of the slave.
-/

namespace UsbSec.System

open Library

/-- The master's core 0 with the `rx` of its chip. -/
def Board.device (b : Board) : Device.Core0 :=
  { b.master with master := { b.master.master with rx := b.chips.master.rx } }

/-- The slave's core 0 with the `rx` of its chip. -/
def Board.host (b : Board) : Host.Core0 :=
  { b.slave with slave := { b.slave.slave with rx := b.chips.slave.rx } }

/-- What a step of the board is for the machine of the master. -/
inductive OnDevice (b n : Board) : Action → Prop where
  | event (event : Device.Event) (step : Device.step b.device event = some n.device) :
      OnDevice b n (.device event)
  | receive (action : Action) (message : SpiMessage)
      (step : Device.step b.device (.receive message) = some n.device) : OnDevice b n action
  | same (action : Action) (same : n.device = b.device) : OnDevice b n action

/-- What a step of the board is for the machine of the slave. -/
inductive OnHost (b n : Board) : Action → Prop where
  | event (event : Host.Event) (step : Host.step b.host event = some n.host) :
      OnHost b n (.host event)
  | receive (action : Action) (message : SpiMessage)
      (step : Host.step b.host (.receive message) = some n.host) : OnHost b n action
  | same (action : Action) (same : n.host = b.host) : OnHost b n action

/-! ## Steps that leave a machine alone, or bring it a message -/

/-- Only the `rx` of the master may have changed. -/
theorem onDevice_of_receives {b n : Board} (action : Action) (hmaster : n.master = b.master)
    (h : Link.Receives b.chips.master.rx n.chips.master.rx) : OnDevice b n action := by
  rcases h with hsame | ⟨message, hadd⟩
  · refine .same action ?_
    unfold Board.device
    rw [hmaster, hsame]
  · refine .receive action message (Option.map_eq_some_iff.mpr ⟨_, hadd, ?_⟩)
    unfold Board.device
    rw [hmaster]

/-- Only the `rx` of the slave may have changed. -/
theorem onHost_of_receives {b n : Board} (action : Action) (hslave : n.slave = b.slave)
    (hrunning : b.slave.halted = none) (h : Link.Receives b.chips.slave.rx n.chips.slave.rx) :
    OnHost b n action := by
  rcases h with hsame | ⟨message, hadd⟩
  · refine .same action ?_
    unfold Board.host
    rw [hslave, hsame]
  · refine .receive action message ?_
    rw [Host.step_running (show b.host.halted = none from hrunning)]
    refine Option.map_eq_some_iff.mpr ⟨_, hadd, ?_⟩
    unfold Board.host
    rw [hslave]

theorem linkStep_machines {b n : Board} {action : Link.Action} (taken : Action)
    (hdequeue : ∀ role, action ≠ .dequeue role) (h : linkStep b action = some n) :
    OnDevice b n taken ∧ (b.slave.halted = none → OnHost b n taken) := by
  obtain ⟨chips, hchips, rfl⟩ := linkStep_eq_some h
  have hreceives := Link.step_receives hchips hdequeue
  exact ⟨onDevice_of_receives taken rfl (hreceives .master),
    fun hrunning => onHost_of_receives taken rfl hrunning (hreceives .slave)⟩

/-! ## Steps of the two cores 0 -/

theorem runMaster_device {handler : Device.MasterM Unit} {b : Board}
    (hrunning : (runMaster handler b).masterHalted = none) :
    Device.runHandler handler b.device = some (runMaster handler b).device := by
  have hend : stopReason (handler { b.master.master with rx := b.chips.master.rx }) = none :=
    hrunning
  have hmaster : (runMaster handler b).device = { b.master with
      master := Program.final (handler { b.master.master with rx := b.chips.master.rx }) } := rfl
  rw [hmaster]
  unfold Device.runHandler
  show _ = some _
  cases hrun : handler { b.master.master with rx := b.chips.master.rx } with
  | ok value master =>
      have hdevice : handler b.device.master = .ok value master := hrun
      rw [hdevice]
      rfl
  | error reason master =>
      rw [hrun] at hend
      cases hend

theorem deviceStep_device {b n : Board} {event : Device.Event}
    (hstep : deviceStep b event = some n) (hrunning : n.masterHalted = none) :
    Device.step b.device event = some n.device := by
  cases event with
  | handleSpiSlaveEvent =>
      obtain ⟨-, hnext⟩ := Option.ite_none_right_eq_some.mp hstep
      cases hnext
      exact runMaster_device hrunning
  | dcdIrq =>
      obtain ⟨-, hnext⟩ := Option.ite_none_right_eq_some.mp hstep
      cases hnext
      exact runMaster_device hrunning
  | receive message => cases hstep
  | hostSetup packet | hostReset =>
      cases hstep
      rfl
  | hostIn num | hostOut num packet =>
      obtain ⟨master, hmaster, rfl⟩ := Option.map_eq_some_iff.mp hstep
      obtain ⟨dcd, hdcd, rfl⟩ := Option.map_eq_some_iff.mp hmaster
      exact Option.map_eq_some_iff.mpr ⟨dcd, hdcd, rfl⟩

/-- An event of the master leaves the slave and its `rx` alone. -/
theorem deviceStep_host {b n : Board} {event : Device.Event}
    (hstep : deviceStep b event = some n) : n.host = b.host := by
  cases event with
  | handleSpiSlaveEvent | dcdIrq =>
      obtain ⟨-, hnext⟩ := Option.ite_none_right_eq_some.mp hstep
      cases hnext
      rfl
  | receive message => cases hstep
  | hostSetup packet | hostReset =>
      cases hstep
      rfl
  | hostIn num | hostOut num packet =>
      obtain ⟨master, -, rfl⟩ := Option.map_eq_some_iff.mp hstep
      rfl

theorem runSlave_host {handler : Host.SlaveM Unit} {b : Board} (hrunning : b.slave.halted = none) :
    Host.runHandler handler b.host = (runSlave handler b).host := by
  have hslave : (runSlave handler b).host = { b.slave with
      slave := Program.final (handler { b.slave.slave with rx := b.chips.slave.rx })
      halted := stopReason (handler { b.slave.slave with rx := b.chips.slave.rx }) } := rfl
  rw [hslave]
  unfold Host.runHandler
  cases hrun : handler { b.slave.slave with rx := b.chips.slave.rx } with
  | ok value slave =>
      have hhost : handler b.host.slave = .ok value slave := hrun
      rw [hhost]
      show _ = { b.slave with slave := slave, halted := none }
      rw [← hrunning]
      rfl
  | error reason slave =>
      have hhost : handler b.host.slave = .error reason slave := hrun
      rw [hhost]
      rfl

theorem hostStep_host {b n : Board} {event : Host.Event} (hrunning : b.slave.halted = none)
    (hstep : hostStep b event = some n) : Host.step b.host event = some n.host := by
  rw [Host.step_running (show b.host.halted = none from hrunning)]
  cases event with
  | slavework =>
      obtain ⟨-, hnext⟩ := Option.ite_none_right_eq_some.mp hstep
      cases hnext
      exact congrArg some (runSlave_host hrunning)
  | hcdIrq =>
      obtain ⟨-, hnext⟩ := Option.ite_none_right_eq_some.mp hstep
      cases hnext
      exact congrArg some (runSlave_host hrunning)
  | receive message => cases hstep
  | setupSent | packetOut =>
      obtain ⟨slave, hslave, rfl⟩ := Option.map_eq_some_iff.mp hstep
      obtain ⟨hcd, hhcd, rfl⟩ := Option.map_eq_some_iff.mp hslave
      exact Option.map_eq_some_iff.mpr ⟨hcd, hhcd, rfl⟩
  | packetIn packet =>
      obtain ⟨slave, hslave, rfl⟩ := Option.map_eq_some_iff.mp hstep
      obtain ⟨hcd, hhcd, rfl⟩ := Option.map_eq_some_iff.mp hslave
      exact Option.map_eq_some_iff.mpr ⟨hcd, hhcd, rfl⟩
  | interruptIn slot packet =>
      obtain ⟨slave, hslave, rfl⟩ := Option.map_eq_some_iff.mp hstep
      obtain ⟨hcd, hhcd, rfl⟩ := Option.map_eq_some_iff.mp hslave
      exact Option.map_eq_some_iff.mpr ⟨hcd, hhcd, rfl⟩
  | raise cause =>
      cases hstep
      rfl

/-- An event of the slave leaves the master and its `rx` alone. -/
theorem hostStep_device {b n : Board} {event : Host.Event} (hstep : hostStep b event = some n) :
    n.device = b.device ∧ n.masterHalted = b.masterHalted := by
  cases event with
  | slavework | hcdIrq =>
      obtain ⟨-, hnext⟩ := Option.ite_none_right_eq_some.mp hstep
      cases hnext
      exact ⟨rfl, rfl⟩
  | receive message => cases hstep
  | setupSent | packetOut =>
      obtain ⟨slave, -, rfl⟩ := Option.map_eq_some_iff.mp hstep
      exact ⟨rfl, rfl⟩
  | packetIn packet =>
      obtain ⟨slave, -, rfl⟩ := Option.map_eq_some_iff.mp hstep
      exact ⟨rfl, rfl⟩
  | interruptIn slot packet =>
      obtain ⟨slave, -, rfl⟩ := Option.map_eq_some_iff.mp hstep
      exact ⟨rfl, rfl⟩
  | raise cause =>
      cases hstep
      exact ⟨rfl, rfl⟩

/-! ## Steps of the board -/

/-- A step of the link does not dequeue. -/
theorem step_link {b n : Board} {action : Action} (hstep : step b action = some n)
    (hdevice : ∀ event, action ≠ .device event) (hhost : ∀ event, action ≠ .host event) :
    ∃ taken, (∀ role, taken ≠ .dequeue role) ∧ linkStep b taken = some n := by
  cases action with
  | device event => exact absurd rfl (hdevice event)
  | host event => exact absurd rfl (hhost event)
  | enqueue role =>
      unfold step at hstep
      dsimp only at hstep
      split at hstep
      · cases hstep
      · refine ⟨_, fun _ => ?_, hstep⟩
        exact fun h => by cases h
  | core1 role =>
      refine ⟨.core1 role, fun _ => ?_, hstep⟩
      exact fun h => by cases h
  | attach level =>
      refine ⟨.attach level, fun _ => ?_, hstep⟩
      exact fun h => by cases h

/-- A step after which core 0 of the master runs is one of its machine. -/
theorem step_onDevice {b n : Board} {action : Action} (hstep : step b action = some n)
    (hrunning : n.masterHalted = none) : OnDevice b n action := by
  by_cases hdevice : ∃ event, action = .device event
  · obtain ⟨event, rfl⟩ := hdevice
    exact .event event (deviceStep_device hstep hrunning)
  by_cases hhost : ∃ event, action = .host event
  · obtain ⟨event, rfl⟩ := hhost
    exact .same _ (hostStep_device hstep).1
  obtain ⟨taken, hdequeue, hlink⟩ := step_link hstep (fun event h => hdevice ⟨event, h⟩)
    fun event h => hhost ⟨event, h⟩
  exact (linkStep_machines action hdequeue hlink).1

/-- A step before which core 0 of the slave runs is one of its machine. -/
theorem step_onHost {b n : Board} {action : Action} (hstep : step b action = some n)
    (hrunning : b.slave.halted = none) : OnHost b n action := by
  by_cases hhost : ∃ event, action = .host event
  · obtain ⟨event, rfl⟩ := hhost
    exact .event event (hostStep_host hrunning hstep)
  by_cases hdevice : ∃ event, action = .device event
  · obtain ⟨event, rfl⟩ := hdevice
    exact .same _ (deviceStep_host hstep)
  obtain ⟨taken, hdequeue, hlink⟩ := step_link hstep (fun event h => hdevice ⟨event, h⟩)
    fun event h => hhost ⟨event, h⟩
  exact (linkStep_machines action hdequeue hlink).2 hrunning

/-- A core 0 of the master that has stopped does not run again. -/
theorem step_masterHalted {b n : Board} {action : Action} (hstep : step b action = some n)
    (hrunning : n.masterHalted = none) : b.masterHalted = none := by
  by_cases hdevice : ∃ event, action = .device event
  · obtain ⟨event, rfl⟩ := hdevice
    cases event with
    | handleSpiSlaveEvent | dcdIrq =>
        obtain ⟨hidle, -⟩ := Option.ite_none_right_eq_some.mp hstep
        exact hidle.2
    | receive message => cases hstep
    | hostSetup packet | hostReset =>
        cases hstep
        exact hrunning
    | hostIn num | hostOut num packet =>
        obtain ⟨master, -, rfl⟩ := Option.map_eq_some_iff.mp hstep
        exact hrunning
  by_cases hhost : ∃ event, action = .host event
  · obtain ⟨event, rfl⟩ := hhost
    exact (hostStep_device hstep).2 ▸ hrunning
  obtain ⟨taken, -, hlink⟩ := step_link hstep (fun event h => hdevice ⟨event, h⟩)
    fun event h => hhost ⟨event, h⟩
  obtain ⟨chips, -, rfl⟩ := linkStep_eq_some hlink
  exact hrunning

theorem hostStep_slaveHalted {b n : Board} {event : Host.Event} (hstep : hostStep b event = some n)
    (hrunning : n.slave.halted = none) : b.slave.halted = none := by
  cases event with
  | slavework | hcdIrq =>
      obtain ⟨hidle, -⟩ := Option.ite_none_right_eq_some.mp hstep
      exact hidle.2
  | receive message => cases hstep
  | setupSent | packetOut =>
      obtain ⟨slave, hslave, rfl⟩ := Option.map_eq_some_iff.mp hstep
      obtain ⟨hcd, -, rfl⟩ := Option.map_eq_some_iff.mp hslave
      exact hrunning
  | packetIn packet =>
      obtain ⟨slave, hslave, rfl⟩ := Option.map_eq_some_iff.mp hstep
      obtain ⟨hcd, -, rfl⟩ := Option.map_eq_some_iff.mp hslave
      exact hrunning
  | interruptIn slot packet =>
      obtain ⟨slave, hslave, rfl⟩ := Option.map_eq_some_iff.mp hstep
      obtain ⟨hcd, -, rfl⟩ := Option.map_eq_some_iff.mp hslave
      exact hrunning
  | raise cause =>
      cases hstep
      exact hrunning

/-- A core 0 of the slave that has stopped does not run again. -/
theorem step_slaveHalted {b n : Board} {action : Action} (hstep : step b action = some n)
    (hrunning : n.slave.halted = none) : b.slave.halted = none := by
  by_cases hhost : ∃ event, action = .host event
  · obtain ⟨event, rfl⟩ := hhost
    exact hostStep_slaveHalted hstep hrunning
  by_cases hdevice : ∃ event, action = .device event
  · obtain ⟨event, rfl⟩ := hdevice
    exact (congrArg Host.Core0.halted (deviceStep_host hstep)).symm.trans hrunning
  obtain ⟨taken, -, hlink⟩ := step_link hstep (fun event h => hdevice ⟨event, h⟩)
    fun event h => hhost ⟨event, h⟩
  obtain ⟨chips, -, rfl⟩ := linkStep_eq_some hlink
  exact hrunning

/-! ## What core 0 of the slave has dequeued -/

theorem take_self {chip : Link.Chip} {rx : SpiQueue} (hsame : rx = chip.rx) :
    (taken chip rx).dequeued = chip.dequeued := by
  unfold taken
  simp [hsame]

theorem take_first {chip : Link.Chip} {rx : SpiQueue} {message : SpiMessage}
    (hitems : chip.rx.items = message :: rx.items) :
    (taken chip rx).dequeued = chip.dequeued ++ [message] := by
  have hlevel : chip.rx.level - rx.level = 1 := by
    unfold Fifo.level
    rw [hitems, List.length_cons]
    omega
  unfold taken
  simp [hlevel, hitems]

/-- An event of the slave other than `slavework` dequeues nothing. -/
theorem hostStep_dequeued {b n : Board} {event : Host.Event} (hstep : hostStep b event = some n)
    (hother : event ≠ .slavework) : n.chips.slave.dequeued = b.chips.slave.dequeued := by
  cases event with
  | slavework => exact absurd rfl hother
  | hcdIrq =>
      obtain ⟨-, hnext⟩ := Option.ite_none_right_eq_some.mp hstep
      cases hnext
      exact take_self (Host.hcdRp2040Irq_moves Host.sameRx_rule _ _ _ _)
  | receive message => cases hstep
  | setupSent | packetOut =>
      obtain ⟨slave, -, rfl⟩ := Option.map_eq_some_iff.mp hstep
      rfl
  | packetIn packet =>
      obtain ⟨slave, -, rfl⟩ := Option.map_eq_some_iff.mp hstep
      rfl
  | interruptIn slot packet =>
      obtain ⟨slave, -, rfl⟩ := Option.map_eq_some_iff.mp hstep
      rfl
  | raise cause =>
      cases hstep
      rfl

theorem deviceStep_dequeued {b n : Board} {event : Device.Event}
    (hstep : deviceStep b event = some n) : n.chips.slave = b.chips.slave := by
  cases event with
  | handleSpiSlaveEvent | dcdIrq =>
      obtain ⟨-, hnext⟩ := Option.ite_none_right_eq_some.mp hstep
      cases hnext
      rfl
  | receive message => cases hstep
  | hostSetup packet | hostReset =>
      cases hstep
      rfl
  | hostIn num | hostOut num packet =>
      obtain ⟨master, -, rfl⟩ := Option.map_eq_some_iff.mp hstep
      rfl

theorem linkStep_dequeued {chips next : Link.Chips} {action : Link.Action}
    (h : Link.step chips action = some next) (hdequeue : ∀ role, action ≠ .dequeue role)
    (hinStep : Link.InStep chips) (role : SpiRole) :
    (next.chip role).dequeued = (chips.chip role).dequeued := by
  cases action with
  | enqueue sender message =>
      obtain ⟨chip, henqueue, rfl⟩ := Option.map_eq_some_iff.mp h
      obtain ⟨tx, -, rfl⟩ := Option.map_eq_some_iff.mp henqueue
      cases sender <;> cases role <;> rfl
  | dequeue sender => exact absurd rfl (hdequeue sender)
  | core1 sender => exact (core1_moved hinStep h).dequeued role
  | attach level =>
      cases h
      cases role <;> rfl

/-- Only `slavework` dequeues a message. -/
theorem step_dequeued {b n : Board} {action : Action} (hstep : step b action = some n)
    (hinStep : Link.InStep b.chips) (hother : action ≠ .host .slavework) :
    n.chips.slave.dequeued = b.chips.slave.dequeued := by
  by_cases hhost : ∃ event, action = .host event
  · obtain ⟨event, rfl⟩ := hhost
    exact hostStep_dequeued hstep fun hwork => hother (congrArg _ hwork)
  by_cases hdevice : ∃ event, action = .device event
  · obtain ⟨event, rfl⟩ := hdevice
    exact congrArg Link.Chip.dequeued (deviceStep_dequeued hstep)
  obtain ⟨taken, hdequeue, hlink⟩ := step_link hstep (fun event h => hdevice ⟨event, h⟩)
    fun event h => hhost ⟨event, h⟩
  obtain ⟨chips, hchips, rfl⟩ := linkStep_eq_some hlink
  exact linkStep_dequeued hchips hdequeue hinStep .slave

/-- `slavework` finds no message, or it dequeues the first one and handles it. -/
theorem slavework_dequeued {b n : Board} (hstep : step b (.host .slavework) = some n)
    (hrunning : n.slave.halted = none) :
    n.chips.slave.dequeued = b.chips.slave.dequeued ∨
      ∃ message rest, b.chips.slave.rx.items = message :: rest.items ∧
        n.chips.slave.dequeued = b.chips.slave.dequeued ++ [message] ∧
        Host.handleMessage message { b.host.slave with rx := rest } = .ok () n.host.slave := by
  obtain ⟨hidle, hnext⟩ := Option.ite_none_right_eq_some.mp hstep
  cases hnext
  have hreason : stopReason (Host.slavework b.host.slave) = none := hrunning
  show (taken b.chips.slave (Program.final (Host.slavework b.host.slave)).rx).dequeued = _ ∨
    ∃ message rest, _ ∧ (taken b.chips.slave
      (Program.final (Host.slavework b.host.slave)).rx).dequeued = _ ∧
      _ = EStateM.Result.ok () (Program.final (Host.slavework b.host.slave))
  cases hrun : Host.slavework b.host.slave with
  | error reason slave =>
      rw [hrun] at hreason
      cases hreason
  | ok value slave =>
      rcases Host.slavework_ok hrun with hsame | ⟨message, rest, hitems, hhandle⟩
      · left
        exact take_self (congrArg Host.Slave.rx hsame)
      · right
        refine ⟨message, rest, hitems, take_first ?_, hhandle⟩
        have hrx : slave.rx = rest :=
          (Host.handleMessage_moves Host.sameRx_rule message (fun _ _ => rfl)).ok hhandle
        show b.chips.slave.rx.items = message :: slave.rx.items
        rw [hrx]
        exact hitems

/-! ## Invariants of the master -/

/-! ## Messages on their way -/

/-- The messages of a sender that the other core 0 has not dequeued. -/
def Board.undelivered (b : Board) (sender : SpiRole) : List SpiMessage :=
  (b.outbox sender).drop (b.chips.chip sender.other).dequeued.length

section Undelivered

variable {b n : Board}

/-- What was dequeued was handed over, in the same order. -/
theorem Carries.dequeued (h : Carries b b.chips) (sender : SpiRole) :
    (b.chips.chip sender.other).dequeued <+: b.outbox sender := by
  obtain ⟨mail, hmail⟩ := h.implements
  exact (hmail.delivered sender).ordered.trans (h.inOrder sender)

theorem Carries.outbox_eq (h : Carries b b.chips) (sender : SpiRole) :
    b.outbox sender = (b.chips.chip sender.other).dequeued ++ b.undelivered sender := by
  obtain ⟨rest, hrest⟩ := h.dequeued sender
  unfold Board.undelivered
  rw [← hrest, List.drop_left]

/-- The messages in the `rx` of the other chip are the first of them. -/
theorem Carries.rx (h : Carries b b.chips) (sender : SpiRole) :
    (b.chips.chip sender.other).rx.items <+: b.undelivered sender := by
  obtain ⟨mail, hmail⟩ := h.implements
  have hcomplete := (hmail.delivered sender).complete
  have houtbox := h.inOrder.outbox sender
  rw [hcomplete, h.outbox_eq sender, List.append_assoc] at houtbox
  have hsame := List.append_cancel_left houtbox
  rw [hsame, Link.missing, List.append_assoc, List.append_assoc]
  exact List.prefix_append _ _

/-- A handler of a core 0 adds to its own messages, and takes from those of the other one. -/
theorem undelivered_handler (role : SpiRole) {rx : SpiQueue} {more : List SpiMessage}
    (h : Carries b b.chips)
    (hchips : n.chips = b.chips.setChip role (taken (b.chips.chip role) rx))
    (houtbox : n.outbox role = b.outbox role ++ more)
    (hother : n.outbox role.other = b.outbox role.other) :
    n.undelivered role = b.undelivered role ++ more ∧
      (rx = (b.chips.chip role).rx →
        n.undelivered role.other = b.undelivered role.other) ∧
      ∀ message, (b.chips.chip role).rx.items = message :: rx.items →
        b.undelivered role.other = message :: n.undelivered role.other := by
  have hle := (h.dequeued role).length_le
  have hdequeued : (n.chips.chip role.other).dequeued = (b.chips.chip role.other).dequeued := by
    rw [hchips, Link.chip_setChip_other]
  refine ⟨?_, fun hsame => ?_, fun message hitems => ?_⟩
  · unfold Board.undelivered
    rw [hdequeued, houtbox, List.drop_append_of_le_length hle]
  · unfold Board.undelivered
    rw [hother, Link.SpiRole.other_other, hchips, Link.chip_setChip, take_self hsame]
  · have hfront := h.rx role.other
    rw [Link.SpiRole.other_other, hitems] at hfront
    obtain ⟨rest, hrest⟩ := hfront
    have hcons : b.undelivered role.other = message :: (rx.items ++ rest) := hrest.symm
    have hnext : n.undelivered role.other = (b.undelivered role.other).drop 1 := by
      unfold Board.undelivered
      rw [hother, Link.SpiRole.other_other, hchips, Link.chip_setChip, take_first hitems,
        List.length_append, List.drop_drop]
      rfl
    rw [hnext, hcons]
    rfl

/-- Nothing is dequeued, and nothing handed over. -/
theorem undelivered_same (houtbox : ∀ role, n.outbox role = b.outbox role)
    (hdequeued : ∀ role, (n.chips.chip role).dequeued = (b.chips.chip role).dequeued)
    (sender : SpiRole) : n.undelivered sender = b.undelivered sender := by
  unfold Board.undelivered
  rw [houtbox, hdequeued]

end Undelivered

/-! ## What a step does to a core 0 -/

/-- What the host does to the controller of the master: it sends a setup packet, takes a packet from
an IN endpoint, or fills the buffer of an OUT endpoint. -/
inductive ByHost (d : Rp2040.Dcd) : Rp2040.Dcd → Prop where
  | nothing : ByHost d d
  | setup (bytes : Buffer) : ByHost d { d with setupPacket := bytes }
  | taken (num : Nat) (e : Rp2040.Dcd) (h : Device.sendIn d num = some e) : ByHost d e
  | filled (num : Nat) (packet : Usb.Packet) (e : Rp2040.Dcd)
      (h : Device.receiveOut d num packet = some e) : ByHost d e

/-- Core 0 of the master runs one of the two functions of its loop, or it is left alone. The host
reaches the controller of the master at any time. -/
inductive MasterStep (b n : Board) : Prop where
  | handleSpiSlaveEvent (hidle : b.Idle .master)
      (hnext : n = runMaster Device.handleSpiSlaveEvent b)
  | dcdIrq (hidle : b.Idle .master) (ints : Device.DcdInts) (master : Device.Core0)
      (hmaster : master.master = b.master.master)
      (hnext : n = runMaster (Device.dcdRp2040Irq ints) { b with master := master })
  | other (dcd : Rp2040.Dcd) (hdcd : ByHost b.master.master.dcd dcd)
      (hmaster : n.master.master = { b.master.master with dcd := dcd })
      (hhalted : n.masterHalted = b.masterHalted)
      (hdequeued : n.chips.master.dequeued = b.chips.master.dequeued)

/-- Core 0 of the slave runs one of the two functions of its loop, the controller completes a
transaction on the EPX registers, or core 0 is left alone. -/
inductive SlaveStep (b n : Board) : Prop where
  | slavework (hidle : b.Idle .slave) (hnext : n = runSlave Host.slavework b)
  | hcdIrq (hidle : b.Idle .slave) (causes : List Host.Cause) (buffStatus transComplete : Bool)
      (hnext : n = runSlave (Host.hcdRp2040Irq causes buffStatus transComplete) b)
  | transacted (hcd : Rp2040.Hcd) (transaction : Host.Transaction)
      (hslave : n.slave.slave = { b.slave.slave with
        hcd := hcd, calls := b.slave.slave.calls ++ [.transacted transaction] })
      (hhalted : n.slave.halted = b.slave.halted)
      (hdequeued : n.chips.slave.dequeued = b.chips.slave.dequeued)
  | other (hcd : Rp2040.Hcd) (hslave : n.slave.slave = { b.slave.slave with hcd := hcd })
      (hhalted : n.slave.halted = b.slave.halted)
      (hdequeued : n.chips.slave.dequeued = b.chips.slave.dequeued)

section Steps

variable {b n : Board}

theorem deviceStep_masterStep {event : Device.Event} (hstep : deviceStep b event = some n) :
    MasterStep b n := by
  cases event with
  | handleSpiSlaveEvent =>
      obtain ⟨hidle, hnext⟩ := Option.ite_none_right_eq_some.mp hstep
      cases hnext
      exact .handleSpiSlaveEvent hidle rfl
  | dcdIrq =>
      obtain ⟨hidle, hnext⟩ := Option.ite_none_right_eq_some.mp hstep
      cases hnext
      exact .dcdIrq hidle _ { b.master with busReset := false, setupReq := false } rfl rfl
  | receive message => cases hstep
  | hostSetup packet =>
      cases hstep
      exact .other _ (.setup _) rfl rfl rfl
  | hostReset =>
      cases hstep
      exact .other _ .nothing rfl rfl rfl
  | hostIn num =>
      obtain ⟨master, hmaster, rfl⟩ := Option.map_eq_some_iff.mp hstep
      obtain ⟨dcd, hsend, rfl⟩ := Option.map_eq_some_iff.mp hmaster
      exact .other dcd (.taken num dcd hsend) rfl rfl rfl
  | hostOut num packet =>
      obtain ⟨master, hmaster, rfl⟩ := Option.map_eq_some_iff.mp hstep
      obtain ⟨dcd, hreceive, rfl⟩ := Option.map_eq_some_iff.mp hmaster
      exact .other dcd (.filled num packet dcd hreceive) rfl rfl rfl

theorem hostStep_slaveStep {event : Host.Event} (hstep : hostStep b event = some n) :
    SlaveStep b n := by
  cases event with
  | slavework =>
      obtain ⟨hidle, hnext⟩ := Option.ite_none_right_eq_some.mp hstep
      cases hnext
      exact .slavework hidle rfl
  | hcdIrq =>
      obtain ⟨hidle, hnext⟩ := Option.ite_none_right_eq_some.mp hstep
      cases hnext
      exact .hcdIrq hidle _ _ _ rfl
  | receive message => cases hstep
  | setupSent | packetIn packet | packetOut =>
      obtain ⟨slave, hslave, rfl⟩ := Option.map_eq_some_iff.mp hstep
      obtain ⟨hcd, -, rfl⟩ := Option.map_eq_some_iff.mp hslave
      exact .transacted hcd _ rfl rfl rfl
  | interruptIn slot packet =>
      obtain ⟨slave, hslave, rfl⟩ := Option.map_eq_some_iff.mp hstep
      obtain ⟨hcd, -, rfl⟩ := Option.map_eq_some_iff.mp hslave
      exact .other hcd rfl rfl rfl
  | raise cause =>
      cases hstep
      exact .other _ rfl rfl rfl

theorem deviceStep_slaveStep {event : Device.Event} (hstep : deviceStep b event = some n) :
    SlaveStep b n := by
  cases event with
  | handleSpiSlaveEvent | dcdIrq =>
      obtain ⟨-, hnext⟩ := Option.ite_none_right_eq_some.mp hstep
      cases hnext
      exact .other _ rfl rfl rfl
  | receive message => cases hstep
  | hostSetup packet | hostReset =>
      cases hstep
      exact .other _ rfl rfl rfl
  | hostIn num | hostOut num packet =>
      obtain ⟨master, -, rfl⟩ := Option.map_eq_some_iff.mp hstep
      exact .other _ rfl rfl rfl

theorem hostStep_masterStep {event : Host.Event} (hstep : hostStep b event = some n) :
    MasterStep b n := by
  cases event with
  | slavework | hcdIrq =>
      obtain ⟨-, hnext⟩ := Option.ite_none_right_eq_some.mp hstep
      cases hnext
      exact .other _ .nothing rfl rfl rfl
  | receive message => cases hstep
  | setupSent | packetIn packet | packetOut | interruptIn slot packet =>
      obtain ⟨slave, -, rfl⟩ := Option.map_eq_some_iff.mp hstep
      exact .other _ .nothing rfl rfl rfl
  | raise cause =>
      cases hstep
      exact .other _ .nothing rfl rfl rfl

/-- Every step is one of these for each core 0. -/
theorem step_cores {action : Action} (hinStep : Link.InStep b.chips)
    (hstep : step b action = some n) : MasterStep b n ∧ SlaveStep b n := by
  by_cases hdevice : ∃ event, action = .device event
  · obtain ⟨event, rfl⟩ := hdevice
    exact ⟨deviceStep_masterStep hstep, deviceStep_slaveStep hstep⟩
  by_cases hhost : ∃ event, action = .host event
  · obtain ⟨event, rfl⟩ := hhost
    exact ⟨hostStep_masterStep hstep, hostStep_slaveStep hstep⟩
  obtain ⟨taken, hdequeue, hlink⟩ := step_link hstep (fun event h => hdevice ⟨event, h⟩)
    fun event h => hhost ⟨event, h⟩
  obtain ⟨chips, hchips, rfl⟩ := linkStep_eq_some hlink
  have hdequeued := linkStep_dequeued hchips hdequeue hinStep
  exact ⟨.other _ .nothing rfl rfl (hdequeued .master), .other _ rfl rfl (hdequeued .slave)⟩

/-- What every step keeps that a core 0 takes or the board takes around it holds in every run. -/
theorem Reaches.invariant {I : Board → Prop} {masterRom slaveRom : BitVec 32}
    (hinit : I (init masterRom slaveRom))
    (hkept : ∀ b n, Carries b b.chips → I b → MasterStep b n → SlaveStep b n → I n)
    {actions : List Action} {b : Board} (h : Reaches masterRom slaveRom actions b) :
    Carries b b.chips ∧ I b := by
  refine Machine.run_invariant (I := fun b => Carries b b.chips ∧ I b)
    (fun b action n hb hstep => ?_) ⟨init_carries masterRom slaveRom, hinit⟩ h
  obtain ⟨mail, hmail⟩ := hb.1.implements
  obtain ⟨_, last, -, -, hcarries⟩ := step_carries hb.1 hstep
  obtain rfl := hcarries.same
  obtain ⟨hmaster, hslave⟩ := step_cores hmail.1 hstep
  exact ⟨hcarries, hkept b n hb.1 hb.2 hmaster hslave⟩

end Steps

end UsbSec.System
