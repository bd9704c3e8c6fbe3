import UsbSec.System.Refinement

/-!
# When the cores of a chip wait for each other

Core 0 is the only one to take messages from `rx`, and core 1 the only one to take them from `tx`.
A core 0 that waits for a place in `tx` while core 1 waits for one in `rx` waits for ever, and so
does core 1. The firmware has no flow control that would prevent it. It takes more messages than
one queue holds, though, and it takes them in both directions at once.
-/

namespace UsbSec.System

open Library Link

/-- Core 0 waits in `enqueue_spi_message` for a place in `tx`. -/
def Core0Waits (b : Board) (role : SpiRole) : Prop :=
  b.handing role ≠ [] ∧ (b.chips.chip role).tx.Full

instance (b : Board) (role : SpiRole) : Decidable (Core0Waits b role) :=
  inferInstanceAs (Decidable (_ ∧ _))

/-- Core 1 is adding a message it has received to `rx`. -/
def Adding (chips : Chips) : SpiRole → Prop
  | .master => chips.masterPc.reply ≠ []
  | .slave =>
      match chips.slavePc with
      | .process frame => ¬ hasFlag frame.eFlag MsgType.slaveDataQuery
      | _ => False

instance (chips : Chips) (role : SpiRole) : Decidable (Adding chips role) := by
  cases role with
  | master => exact inferInstanceAs (Decidable (_ ≠ _))
  | slave =>
      unfold Adding
      dsimp only
      split <;> infer_instance

/-- Core 1 waits for a place in `rx`. -/
def Core1Waits (b : Board) (role : SpiRole) : Prop :=
  Adding b.chips role ∧ (b.chips.chip role).rx.Full

/-- The two cores of the chip wait for each other. -/
def Deadlocked (b : Board) (role : SpiRole) : Prop := Core0Waits b role ∧ Core1Waits b role

instance (b : Board) (role : SpiRole) : Decidable (Deadlocked b role) :=
  inferInstanceAs (Decidable ((_ ∧ _) ∧ (_ ∧ _)))

/-- The number of messages that the core 0 of a chip has handed over and the core 0 of the other
chip has not dequeued. -/
def underWay (b : Board) (sender : SpiRole) : Nat :=
  (b.outbox sender).length - (b.chips.chip sender.other).dequeued.length

/-! ## What a deadlock takes -/

/-- What is under way is between the two cores 0 or has still to be put into `tx`. -/
theorem Reaches.underWay {masterRom slaveRom : BitVec 32} {actions : List Action} {b : Board}
    (h : Reaches masterRom slaveRom actions b) (sender : SpiRole) :
    underWay b sender = (missing b.chips sender).length + (b.handing sender).length := by
  obtain ⟨_, -, -, hcarries⟩ := h.carries
  have hcomplete := congrArg List.length (h.delivered sender).complete
  have hhanded := congrArg List.length (hcarries.inOrder.outbox sender)
  rw [List.length_append] at hcomplete hhanded
  unfold System.underWay
  omega

/-- What core 1 is adding to `rx` is on its way. -/
theorem Adding.inTransit {chips : Chips} {role : SpiRole} (h : Adding chips role) :
    0 < (inTransit chips role.other).length := by
  cases role with
  | master =>
      show 0 < (chips.masterPc.reply ++ pendingReplies chips ++ chips.slavePc.reply).length
      have hheld := List.length_pos_of_ne_nil h
      rw [List.length_append, List.length_append]
      omega
  | slave =>
      unfold Adding at h
      dsimp only at h
      split at h
      · rename_i frame hpc
        have hmessage : isMessage frame = true := by simpa [isMessage] using h
        show 0 < ((chips.slavePc.frame ++ chips.toSlave).filter isMessage ++
          chips.masterPc.outgoing).length
        rw [hpc]
        simp [SlavePc.frame, hmessage]
      · exact h.elim

/-- A core 0 that waits for a place in `tx` has more messages under way than `tx` holds. -/
theorem Core0Waits.lt_underWay {masterRom slaveRom : BitVec 32} {actions : List Action}
    {b : Board} (h : Reaches masterRom slaveRom actions b) {role : SpiRole}
    (hwaits : Core0Waits b role) : spiQueueMaxCapacity < underWay b role := by
  obtain ⟨hhanding, hfull⟩ := hwaits
  have hheld := List.length_pos_of_ne_nil hhanding
  have hfull : (b.chips.chip role).tx.items.length = spiQueueMaxCapacity := hfull
  rw [h.underWay]
  unfold missing
  rw [List.length_append]
  omega

/-- A core 1 that waits for a place in `rx` does so because the other chip has more messages under
way than `rx` holds. -/
theorem Core1Waits.lt_underWay {masterRom slaveRom : BitVec 32} {actions : List Action}
    {b : Board} (h : Reaches masterRom slaveRom actions b) {role : SpiRole}
    (hwaits : Core1Waits b role) : spiQueueMaxCapacity < underWay b role.other := by
  obtain ⟨hadding, hfull⟩ := hwaits
  have hheld := hadding.inTransit
  have hfull : (b.chips.chip role).rx.items.length = spiQueueMaxCapacity := hfull
  rw [h.underWay]
  unfold missing
  rw [SpiRole.other_other, List.length_append, List.length_append]
  omega

/-- While at most 20 messages are under way in one of the two directions, the cores of neither
chip wait for each other. -/
theorem not_deadlocked_of_few_underWay {masterRom slaveRom : BitVec 32} {actions : List Action}
    {b : Board} (h : Reaches masterRom slaveRom actions b) (direction : SpiRole)
    (hfew : underWay b direction ≤ spiQueueMaxCapacity) (role : SpiRole) :
    ¬ Deadlocked b role := by
  rintro ⟨hcore0, hcore1⟩
  have hsent := hcore0.lt_underWay h
  have hreceived := hcore1.lt_underWay h
  by_cases hsame : direction = role
  · subst hsame
    omega
  · obtain rfl := SpiRole.eq_other hsame
    omega

theorem descriptorHead_le : ([18, 1, 0, 2, 0, 0, 0, 8] : List UInt8).length ≤ 1023 := by decide

/-- The first eight bytes of a device descriptor that gives 8 as the packet size. -/
def descriptorHead : Usb.Packet := ⟨[18, 1, 0, 2, 0, 0, 0, 8], descriptorHead_le⟩

/-- The host asks for the head of the device descriptor, and the slave learns the packet size. -/
def learnPacketSize : List Action :=
  linkUp ++ hostRequest ⟨0x80, 6, 0x100, 0, 8⟩ ++ toSlave ++ sendSetup ++
    replyWith descriptorHead ++ statusStage ++ toMaster 1 ++
    [.device .handleSpiSlaveEvent, .enqueue .master, .device .handleSpiSlaveEvent] ++ toSlave ++
    [.host .slavework]

/-- The host asks for the configuration, and the device sends 21 full packets while core 1 of the
slave does not run. -/
def fillTx : List Action :=
  let packets := List.replicate 20 (replyWith descriptorHead)
  learnPacketSize ++ hostRequest ⟨0x80, 6, 0x200, 0, 255⟩ ++ toSlave ++ sendSetup ++
    packets.flatten ++ (replyWith descriptorHead).take 2

/-- The host resets the bus again and again, and core 1 of the slave takes the messages about it. -/
def resets (count : Nat) : List Action :=
  (List.replicate count ([.device .hostReset, .device .dcdIrq, .enqueue .master] ++
    turns .master 3 ++ turns .slave 4)).flatten

/-- The last of 21 messages about bus resets does not fit into `rx`. -/
def fillBothQueues : List Action := fillTx ++ (resets 21).dropLast.dropLast

/-- The cores of the slave wait for each other. -/
theorem fillBothQueues_deadlocked :
    ¬ ∀ (masterRom slaveRom : BitVec 32) (actions : List Action) (b : Board),
      Reaches masterRom slaveRom actions b → ∀ role, ¬ Deadlocked b role := by
  intro hclaim
  have hends : ∃ b, Machine.run step (init 0 0) fillBothQueues = some b ∧ Deadlocked b .slave :=
    Machine.exists_run_of_any (by decide +kernel)
  obtain ⟨b, hrun, hdeadlocked⟩ := hends
  exact hclaim 0 0 fillBothQueues b hrun .slave hdeadlocked

/-! ## A deadlock stays -/

/-- Core 1 of the other chip does not end a wait. -/
theorem core1_other {chips next : Chips} {role : SpiRole}
    (h : Link.step chips (.core1 role.other) = some next) :
    next.chip role = chips.chip role ∧ (Adding chips role → Adding next role) := by
  cases role with
  | master =>
      obtain ⟨hchip, hpc⟩ := slaveStep_master h
      refine ⟨hchip, fun hadding => ?_⟩
      show next.masterPc.reply ≠ []
      rw [hpc]
      exact hadding
  | slave =>
      obtain ⟨hchip, hpc, -⟩ := masterStep_slave h
      refine ⟨hchip, fun hadding => ?_⟩
      unfold Adding at hadding ⊢
      rw [hpc]
      exact hadding

/-- A core 1 that waits for a place in `rx` takes no step. -/
theorem Core1Waits.stuck {b : Board} {role : SpiRole} (h : Core1Waits b role) :
    Link.step b.chips (.core1 role) = none := by
  obtain ⟨hadding, hfull⟩ := h
  cases role with
  | master =>
      have hadd {message : SpiMessage} : b.chips.master.rx.add message = none :=
        Fifo.add_eq_none.mpr hfull
      cases hpc : b.chips.masterPc with
      | addReply message recCount =>
          show masterStep b.chips = none
          unfold masterStep
          rw [hpc]
          dsimp only
          rw [hadd]
          rfl
      | _ => exact absurd (congrArg MasterPc.reply hpc) hadding
  | slave =>
      have hadd {message : SpiMessage} : b.chips.slave.rx.add message = none :=
        Fifo.add_eq_none.mpr hfull
      unfold Adding at hadding
      dsimp only at hadding
      split at hadding
      · rename_i frame hpc
        show slaveStep b.chips = none
        unfold slaveStep
        rw [hpc]
        dsimp only
        rw [if_neg hadding, hadd]
        rfl
      · exact hadding.elim

/-- What core 0 of a chip is waiting for depends on its chip and on what it has handed over. -/
theorem Deadlocked.congr {b n : Board} {role : SpiRole} (h : Deadlocked b role)
    (hchip : n.chips.chip role = b.chips.chip role)
    (hadding : Adding b.chips role → Adding n.chips role)
    (houtbox : n.outbox role = b.outbox role) : Deadlocked n role := by
  obtain ⟨⟨hhanding, htx⟩, hcore1, hrx⟩ := h
  refine ⟨⟨?_, ?_⟩, hadding hcore1, ?_⟩
  · unfold Board.handing
    rw [houtbox, hchip]
    exact hhanding
  · rw [hchip]
    exact htx
  · rw [hchip]
    exact hrx

/-- Core 0 of the other chip does not change where core 1 is. -/
theorem Adding.setChip {chips : Chips} {role : SpiRole} (h : Adding chips role) (other : SpiRole)
    (chip : Chip) : Adding (chips.setChip other chip) role := by
  cases role <;> cases other <;> exact h

/-- Once the two cores of a chip wait for each other they do so for ever. -/
theorem Deadlocked.step {b n : Board} {role : SpiRole} {action : Action} (h : Deadlocked b role)
    (hstep : step b action = some n) : Deadlocked n role := by
  cases step_noQueries hstep with
  | handler other rx more hidle _ hchips _ _ houtbox =>
      by_cases hsame : role = other
      · subst hsame
        exact absurd hidle.1 h.1.1
      · obtain rfl := SpiRole.eq_other hsame
        refine h.congr ?_ (fun hadding => ?_) houtbox
        · rw [hchips]
          exact chip_setChip_other b.chips _ _
        · rw [hchips]
          exact hadding.setChip _ _
  | enqueue other message rest _ hchips houtbox =>
      obtain ⟨chip, henqueue, hnext⟩ := Option.map_eq_some_iff.mp hchips
      by_cases hsame : role = other
      · subst hsame
        have hfull : (b.chips.chip role).tx.add message = none := Fifo.add_eq_none.mpr h.1.2
        unfold Chip.enqueue at henqueue
        rw [hfull] at henqueue
        cases henqueue
      · obtain rfl := SpiRole.eq_other hsame
        refine h.congr ?_ (fun hadding => ?_) (houtbox _)
        · rw [← hnext]
          exact chip_setChip_other b.chips _ _
        · rw [← hnext]
          exact hadding.setChip _ _
  | core1 other hchips houtbox =>
      by_cases hsame : other = role
      · subst hsame
        cases h.2.stuck.symm.trans hchips
      · obtain rfl := SpiRole.eq_other hsame
        obtain ⟨hchip, hadding⟩ := core1_other hchips
        exact h.congr hchip hadding (houtbox role)
  | attach level hchips houtbox =>
      have hnext : n.chips = { b.chips with deviceAttached := level } :=
        (Option.some.inj hchips).symm
      refine h.congr ?_ (fun hadding => ?_) (houtbox role)
      · rw [hnext]
        cases role <;> rfl
      · rw [hnext]
        cases role <;> exact hadding
  | surroundings hchips houtbox =>
      refine h.congr ?_ (fun hadding => ?_) (houtbox role)
      · rw [hchips]
      · rw [hchips]
        exact hadding

end UsbSec.System
