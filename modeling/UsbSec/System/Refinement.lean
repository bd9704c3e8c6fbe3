import UsbSec.System.TwoCores

/-!
# The board refines the link

What the cores share are the queues and what core 0 has handed over. A step of the board is a
handler of one core 0, which takes messages from the front of its `rx` and hands over others; a
step of the link; or something that happens in the surroundings of a core 0 and leaves alone what
the cores share. Every run of the board is therefore a run of the link.
-/

namespace UsbSec.System

open Library Link

/-! ## What a step does to what the cores share -/

/-- A step of the board from `b` to `n`, when what core 0 of a chip hands over has the property
for its role. -/
inductive Shares (P : SpiRole → SpiMessage → Prop) (b n : Board) : Prop where
  | handler (role : SpiRole) (rx : SpiQueue) (more : List SpiMessage) (idle : b.Idle role)
      (suffix : rx.items <:+ (b.chips.chip role).rx.items)
      (chips : n.chips = b.chips.setChip role (taken (b.chips.chip role) rx))
      (outbox : n.outbox role = b.outbox role ++ more) (has : ∀ message ∈ more, P role message)
      (other : n.outbox role.other = b.outbox role.other)
  | enqueue (role : SpiRole) (message : SpiMessage) (rest : List SpiMessage)
      (handing : b.handing role = message :: rest)
      (chips : Link.step b.chips (.enqueue role message) = some n.chips)
      (outbox : ∀ role, n.outbox role = b.outbox role)
  | core1 (role : SpiRole) (chips : Link.step b.chips (.core1 role) = some n.chips)
      (outbox : ∀ role, n.outbox role = b.outbox role)
  | attach (level : Bool) (chips : Link.step b.chips (.attach level) = some n.chips)
      (outbox : ∀ role, n.outbox role = b.outbox role)
  | surroundings (chips : n.chips = b.chips) (outbox : ∀ role, n.outbox role = b.outbox role)

theorem linkStep_eq_some {b n : Board} {action : Link.Action} (h : linkStep b action = some n) :
    ∃ chips, Link.step b.chips action = some chips ∧ n = { b with chips := chips } := by
  obtain ⟨chips, hchips, rfl⟩ := Option.map_eq_some_iff.mp h
  exact ⟨chips, hchips, rfl⟩

section Shares

variable {P : SpiRole → SpiMessage → Prop} {b n : Board}

theorem runMaster_shares {handler : Device.MasterM Unit} (hidle : b.Idle .master)
    (h : Device.Sends (P .master) { b.master.master with rx := b.chips.master.rx }
      (Program.final (handler { b.master.master with rx := b.chips.master.rx }))) :
    Shares P b (runMaster handler b) := by
  obtain ⟨hrx, more, houtbox, hhas⟩ := h
  exact .handler .master _ more hidle hrx rfl houtbox hhas rfl

theorem runSlave_shares {handler : Host.SlaveM Unit} (hidle : b.Idle .slave)
    (hP : ∀ message, Host.IsReply message → P .slave message)
    (h : Program.Moves Host.Sends handler) : Shares P b (runSlave handler b) := by
  obtain ⟨hrx, more, houtbox, hhas⟩ := h { b.slave.slave with rx := b.chips.slave.rx }
  exact .handler .slave _ more hidle hrx rfl houtbox (fun message hmem => hP _ (hhas _ hmem)) rfl

theorem deviceStep_shares {event : Device.Event} (hP : Device.MasterSends (P .master))
    (hopens : event = .handleSpiSlaveEvent → Device.NextOpensOnly (P .master)
      { b.master.master with rx := b.chips.master.rx })
    (hstep : deviceStep b event = some n) : Shares P b n := by
  cases event with
  | handleSpiSlaveEvent =>
      obtain ⟨hidle, hnext⟩ := Option.ite_none_right_eq_some.mp hstep
      cases hnext
      exact runMaster_shares hidle (Device.handleSpiSlaveEvent_sends hP (hopens rfl))
  | dcdIrq =>
      obtain ⟨hidle, hnext⟩ := Option.ite_none_right_eq_some.mp hstep
      cases hnext
      obtain ⟨hrx, more, houtbox, hhas⟩ := Device.dcdRp2040Irq_sends hP b.master.ints
        { b.master.master with rx := b.chips.master.rx }
      exact .handler .master _ more hidle hrx rfl houtbox hhas rfl
  | receive message => cases hstep
  | hostSetup packet | hostReset =>
      cases hstep
      exact .surroundings rfl fun role => by cases role <;> rfl
  | hostIn num =>
      obtain ⟨master, hmaster, rfl⟩ := Option.map_eq_some_iff.mp hstep
      obtain ⟨dcd, -, rfl⟩ := Option.map_eq_some_iff.mp hmaster
      exact .surroundings rfl fun role => by cases role <;> rfl
  | hostOut num packet =>
      obtain ⟨master, hmaster, rfl⟩ := Option.map_eq_some_iff.mp hstep
      obtain ⟨dcd, -, rfl⟩ := Option.map_eq_some_iff.mp hmaster
      exact .surroundings rfl fun role => by cases role <;> rfl

theorem transact_outbox {m next : Host.Core0} {transaction : Host.Transaction}
    {hcd : Option Rp2040.Hcd} (h : Host.transact transaction hcd m = some next) :
    next.slave.outbox = m.slave.outbox := by
  obtain ⟨hcd, -, rfl⟩ := Option.map_eq_some_iff.mp h
  rfl

theorem hostStep_shares {event : Host.Event}
    (hP : ∀ message, Host.IsReply message → P .slave message)
    (hstep : hostStep b event = some n) : Shares P b n := by
  have hquiet {next : Host.Core0} (hsame : next.slave.outbox = b.slave.slave.outbox) :
      Shares P b { b with slave := next } := by
    refine .surroundings rfl fun role => ?_
    cases role with
    | master => rfl
    | slave => exact hsame
  cases event with
  | slavework =>
      obtain ⟨hidle, hnext⟩ := Option.ite_none_right_eq_some.mp hstep
      cases hnext
      exact runSlave_shares hidle hP Host.slavework_sends
  | hcdIrq =>
      obtain ⟨hidle, hnext⟩ := Option.ite_none_right_eq_some.mp hstep
      cases hnext
      exact runSlave_shares hidle hP (Host.hcdRp2040Irq_sends _ _ _)
  | receive message => cases hstep
  | setupSent | packetOut =>
      obtain ⟨slave, hslave, rfl⟩ := Option.map_eq_some_iff.mp hstep
      exact hquiet (transact_outbox hslave)
  | packetIn packet =>
      obtain ⟨slave, hslave, rfl⟩ := Option.map_eq_some_iff.mp hstep
      exact hquiet (transact_outbox hslave)
  | interruptIn slot packet =>
      obtain ⟨slave, hslave, rfl⟩ := Option.map_eq_some_iff.mp hstep
      obtain ⟨hcd, -, rfl⟩ := Option.map_eq_some_iff.mp hslave
      exact hquiet rfl
  | raise cause =>
      cases hstep
      exact hquiet rfl

/-- Every step of the board is one of these. -/
theorem step_shares {action : Action} (hP : Device.MasterSends (P .master))
    (hslave : ∀ message, Host.IsReply message → P .slave message)
    (hopens : action = .device .handleSpiSlaveEvent → Device.NextOpensOnly (P .master)
      { b.master.master with rx := b.chips.master.rx })
    (hstep : step b action = some n) : Shares P b n := by
  cases action with
  | device event => exact deviceStep_shares hP (fun h => hopens (congrArg _ h)) hstep
  | host event => exact hostStep_shares hslave hstep
  | enqueue role =>
      unfold step at hstep
      dsimp only at hstep
      split at hstep
      · cases hstep
      · rename_i message rest hhanding
        obtain ⟨chips, hchips, rfl⟩ := linkStep_eq_some hstep
        exact .enqueue role message rest hhanding hchips fun role => by cases role <;> rfl
  | core1 role =>
      obtain ⟨chips, hchips, rfl⟩ := linkStep_eq_some hstep
      exact .core1 role hchips fun role => by cases role <;> rfl
  | attach level =>
      obtain ⟨chips, hchips, rfl⟩ := linkStep_eq_some hstep
      exact .attach level hchips fun role => by cases role <;> rfl

end Shares

/-! ## The link inside the board -/

/-- No message of the master looks like a query. -/
def NoQueries (role : SpiRole) (message : SpiMessage) : Prop :=
  role = .master → ¬ hasFlag message.eFlag MsgType.slaveDataQuery

instance (role : SpiRole) (message : SpiMessage) : Decidable (NoQueries role message) :=
  inferInstanceAs (Decidable (_ → _))

theorem noQueries_of_flag {message : SpiMessage} {role : SpiRole} {flag : UInt16}
    (hflag : message.eFlag = flag) (h : ¬ hasFlag flag MsgType.slaveDataQuery) :
    NoQueries role message := by
  intro _
  rw [hflag]
  exact h

theorem noQueries_master : Device.MasterSends (NoQueries .master) where
  reset := by decide
  chgAddr := by decide
  setup _ hflag _ := noQueries_of_flag hflag (by decide)
  packetSize _ hflag _ := noQueries_of_flag hflag (by decide)
  usbData _ hflag _ := by
    rcases hflag with hflag | hflag
    · exact noQueries_of_flag hflag (by decide)
    · exact noQueries_of_flag hflag (by decide)

theorem step_noQueries {b n : Board} {action : Action} (hstep : step b action = some n) :
    Shares NoQueries b n :=
  have hflag : ¬ hasFlag (MsgType.edptOpen ||| MsgType.debugPrintAsHex)
      MsgType.slaveDataQuery := by decide
  step_shares noQueries_master (fun _ _ => nofun)
    (fun _ => Device.nextOpensOnly_of_forall (fun _ _ => noQueries_of_flag rfl hflag) _) hstep

/-- Messages taken from the front of `rx` are dequeued one by one. -/
theorem dequeues_run (role : SpiRole) (front : List SpiMessage) (rx : SpiQueue) (chips : Chips)
    (hfront : (chips.chip role).rx.items = front ++ rx.items) :
    Machine.run Link.step chips (List.replicate front.length (.dequeue role)) =
      some (chips.setChip role (taken (chips.chip role) rx)) := by
  induction front generalizing chips with
  | nil =>
      have hrx : rx = (chips.chip role).rx := Fifo.ext hfront.symm
      have hsame : chips.setChip role (taken (chips.chip role) rx) = chips := by
        subst hrx
        unfold taken
        rw [Nat.sub_self, List.take_zero, List.append_nil]
        cases role <;> rfl
      rw [hsame]
      rfl
  | cons message front ih =>
      have hbounded := (chips.chip role).rx.bounded
      rw [hfront] at hbounded
      let middle : SpiQueue := ⟨front ++ rx.items, Nat.le_of_succ_le hbounded⟩
      have hremove : (chips.chip role).rx.remove = some (message, middle) :=
        Fifo.remove_eq_some.mpr hfront
      have hdequeue : (chips.chip role).dequeue =
          { chips.chip role with
            rx := middle, dequeued := (chips.chip role).dequeued ++ [message] } := by
        unfold Chip.dequeue
        rw [hremove]
      show Machine.run Link.step (chips.setChip role (chips.chip role).dequeue) _ = _
      rw [ih _ (by rw [chip_setChip, hdequeue]), chip_setChip, hdequeue]
      have hlevel : (chips.chip role).rx.level - rx.level = front.length + 1 := by
        unfold Fifo.level
        rw [hfront]
        simp
        omega
      have hmiddle : middle.level - rx.level = front.length := by
        unfold Fifo.level
        simp [middle]
      have htaken : taken { chips.chip role with
          rx := middle, dequeued := (chips.chip role).dequeued ++ [message] } rx =
            taken (chips.chip role) rx := by
        unfold taken
        rw [hlevel]
        dsimp only
        rw [hmiddle, hfront]
        simp [middle]
      rw [htaken]
      cases role <;> rfl

/-- What is in `tx` or has left it was handed over, in the same order. -/
def HandedInOrder (b : Board) : Prop :=
  ∀ role, (b.chips.chip role).enqueued <+: b.outbox role

/-- What is handed over and not in `tx` yet is the rest. -/
theorem HandedInOrder.outbox {b : Board} (h : HandedInOrder b) (role : SpiRole) :
    b.outbox role = (b.chips.chip role).enqueued ++ b.handing role := by
  obtain ⟨rest, hrest⟩ := h role
  unfold Board.handing
  rw [← hrest, List.drop_left]

/-- Core 0 is adding the first message of the rest. -/
theorem HandedInOrder.enqueue {b n : Board} (h : HandedInOrder b) {role : SpiRole}
    {message : SpiMessage} {rest : List SpiMessage} (hhanding : b.handing role = message :: rest)
    (hchips : Link.step b.chips (.enqueue role message) = some n.chips)
    (houtbox : ∀ role, n.outbox role = b.outbox role) : HandedInOrder n := by
  obtain ⟨chip, henqueue, hnext⟩ := Option.map_eq_some_iff.mp hchips
  obtain ⟨tx, -, rfl⟩ := Option.map_eq_some_iff.mp henqueue
  intro other
  rw [houtbox, ← hnext]
  by_cases hsame : other = role
  · subst hsame
    refine ⟨rest, ?_⟩
    rw [chip_setChip, h.outbox, hhanding]
    simp
  · obtain rfl := SpiRole.eq_other hsame
    rw [chip_setChip_other]
    exact h _

/-- Core 1 of a chip moves messages along. -/
theorem core1_moved {chips next : Chips} {role : SpiRole} (h : InStep chips)
    (hstep : Link.step chips (.core1 role) = some next) : Moved chips next := by
  cases role with
  | master => exact (masterStep_moved h hstep).2
  | slave => exact (slaveStep_moved h hstep).2

theorem Shares.handedInOrder {P : SpiRole → SpiMessage → Prop} {b n : Board} (h : Shares P b n)
    (hb : HandedInOrder b) (hinStep : InStep b.chips) : HandedInOrder n := by
  cases h with
  | handler role rx more _ _ hchips houtbox _ hother =>
      intro other
      rw [hchips]
      by_cases hsame : other = role
      · subst hsame
        rw [chip_setChip, houtbox]
        exact (hb other).trans (List.prefix_append _ _)
      · obtain rfl := SpiRole.eq_other hsame
        rw [chip_setChip_other, hother]
        exact hb _
  | enqueue role message rest hhanding hchips houtbox => exact hb.enqueue hhanding hchips houtbox
  | core1 role hchips houtbox =>
      intro other
      rw [houtbox, (core1_moved hinStep hchips).enqueued]
      exact hb other
  | attach level hchips houtbox =>
      intro other
      rw [houtbox, ← Option.some.inj hchips]
      have hsame : (Chips.chip { b.chips with deviceAttached := level } other).enqueued =
          (b.chips.chip other).enqueued := by
        cases other <;> rfl
      rw [hsame]
      exact hb other
  | surroundings hchips houtbox =>
      intro role
      rw [houtbox, hchips]
      exact hb role

/-- What core 0 of a chip has handed over has the property for its role. -/
def AllHave (P : SpiRole → SpiMessage → Prop) (b : Board) : Prop :=
  ∀ role, ∀ message ∈ b.outbox role, P role message

theorem Shares.allHave {P : SpiRole → SpiMessage → Prop} {b n : Board} (h : Shares P b n)
    (hb : AllHave P b) : AllHave P n := by
  have hkept (hsame : ∀ role, n.outbox role = b.outbox role) : AllHave P n := by
    intro role message hmem
    rw [hsame] at hmem
    exact hb role message hmem
  cases h with
  | handler role rx more _ _ _ houtbox hhas hother =>
      intro sender message hmem
      by_cases hsame : sender = role
      · subst hsame
        rw [houtbox] at hmem
        rcases List.mem_append.mp hmem with hold | hnew
        · exact hb sender message hold
        · exact hhas message hnew
      · obtain rfl := SpiRole.eq_other hsame
        rw [hother] at hmem
        exact hb _ message hmem
  | enqueue role message rest _ _ houtbox => exact hkept houtbox
  | core1 role _ houtbox => exact hkept houtbox
  | attach level _ houtbox => exact hkept houtbox
  | surroundings _ houtbox => exact hkept houtbox

/-- A board whose link is in the given state. -/
structure Carries (b : Board) (chips : Chips) : Prop where
  same : b.chips = chips
  inOrder : HandedInOrder b
  noQueries : AllHave NoQueries b
  implements : ∃ mail, Implements chips mail

/-- What the link does in a step of the board. -/
theorem Shares.link {b n : Board} (h : Shares NoQueries b n) (hb : Carries b b.chips) :
    ∃ actions, (∀ action ∈ actions, NoQuery action) ∧
      Machine.run Link.step b.chips actions = some n.chips := by
  have hone (action : Link.Action) (hquiet : NoQuery action)
      (hchips : Link.step b.chips action = some n.chips) : ∃ actions,
        (∀ action ∈ actions, NoQuery action) ∧
          Machine.run Link.step b.chips actions = some n.chips := by
    refine ⟨[action], fun other hmem => ?_, ?_⟩
    · rw [List.mem_singleton.mp hmem]
      exact hquiet
    · rw [Machine.run_cons, hchips]
      rfl
  cases h with
  | handler role rx more _ hsuffix hchips =>
      obtain ⟨front, hfront⟩ := hsuffix
      refine ⟨List.replicate front.length (.dequeue role), fun other hmem => ?_, ?_⟩
      · rw [List.eq_of_mem_replicate hmem]
        trivial
      · rw [hchips]
        exact dequeues_run role front rx b.chips hfront.symm
  | enqueue role message rest hhanding hchips =>
      refine hone _ ?_ hchips
      cases role with
      | slave => trivial
      | master =>
          refine hb.noQueries .master message ?_ rfl
          rw [hb.inOrder.outbox, hhanding]
          simp
  | core1 role hchips => exact hone (.core1 role) trivial hchips
  | attach level hchips => exact hone (.attach level) trivial hchips
  | surroundings hchips =>
      refine ⟨[], nofun, ?_⟩
      rw [hchips]
      rfl

/-- A run of the link keeps the channels that it implements. -/
theorem implements_run {actions : List Link.Action} {chips last : Chips}
    (h : ∃ mail, Implements chips mail) (hquiet : ∀ action ∈ actions, NoQuery action)
    (hrun : Machine.run Link.step chips actions = some last) : ∃ mail, Implements last mail := by
  induction actions generalizing chips with
  | nil =>
      cases hrun
      exact h
  | cons action rest ih =>
      obtain ⟨next, hnext, hrest⟩ := Machine.run_cons_eq_some.mp hrun
      obtain ⟨mail, hmail⟩ := h
      obtain ⟨taken, after, -, hafter⟩ :=
        step_implements hmail (hquiet action List.mem_cons_self) hnext
      exact ih ⟨after, hafter⟩ (fun other hmem => hquiet other (List.mem_cons_of_mem _ hmem)) hrest

/-- Every step of the board is a run of the link. -/
theorem step_carries {b n : Board} {chips : Chips} {action : Action} (h : Carries b chips)
    (hstep : step b action = some n) :
    ∃ actions last, (∀ other ∈ actions, NoQuery other) ∧
      Machine.run Link.step chips actions = some last ∧ Carries n last := by
  obtain rfl := h.same
  have hshares := step_noQueries hstep
  obtain ⟨actions, hquiet, hrun⟩ := hshares.link h
  obtain ⟨mail, hmail⟩ := h.implements
  exact ⟨actions, n.chips, hquiet, hrun, rfl, hshares.handedInOrder h.inOrder hmail.1,
    hshares.allHave h.noQueries, implements_run h.implements hquiet hrun⟩

theorem init_carries (masterRom slaveRom : BitVec 32) :
    Carries (init masterRom slaveRom) Link.init := by
  have houtbox : ∀ role, (init masterRom slaveRom).outbox role = [] := fun role => by
    cases role <;> rfl
  refine ⟨rfl, fun role => ?_, fun role message hmem => ?_, ?_⟩
  · cases role <;> exact List.nil_prefix
  · rw [houtbox] at hmem
    cases hmem
  · have hrun : Machine.run Link.step Link.init [] = some Link.init := rfl
    exact implements_of_run (by simp) hrun

/-- Every run of the board is a run of the link in which the master enqueues no message that
looks like a query. -/
theorem Reaches.carries {masterRom slaveRom : BitVec 32} {actions : List Action} {b : Board}
    (h : Reaches masterRom slaveRom actions b) :
    ∃ taken, (∀ other ∈ taken, NoQuery other) ∧
      Machine.run Link.step Link.init taken = some b.chips ∧ Carries b b.chips := by
  obtain ⟨taken, chips, hquiet, hrun, hcarries⟩ :=
    Machine.run_simulation (R := Carries) (G := fun _ => True)
      (fun _ _ _ _ hb _ hstep => step_carries hb hstep) (init_carries masterRom slaveRom)
      (fun _ _ => trivial) h
  obtain rfl := hcarries.same
  exact ⟨taken, hquiet, hrun, hcarries⟩

/-- On every board messages arrive once and in order. -/
theorem Reaches.delivered {masterRom slaveRom : BitVec 32} {actions : List Action} {b : Board}
    (h : Reaches masterRom slaveRom actions b) (sender : SpiRole) : Delivered b.chips sender := by
  obtain ⟨_, _, _, hcarries⟩ := h.carries
  obtain ⟨mail, hmail⟩ := hcarries.implements
  exact hmail.delivered sender

end UsbSec.System
