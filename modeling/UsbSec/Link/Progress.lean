import Mathlib.Algebra.Ring.Nat
import UsbSec.Library.Progress
import UsbSec.Link.Delivery

/-!
# Messages arrive after a bounded number of steps

No message is lost (`Link/Delivery.lean`), and none stays on its way either. While a device is
attached and the messages that are missing fit into the queues they go to, the two halves of
`sync` alone bring them there: the round that is going on ends, the next one takes along whatever
is in a `tx`, and neither half can wait for the other forever. The order in which the two take
their steps does not matter.
-/

namespace UsbSec.Link

open Library

/-- Core 1 of a chip takes a step. -/
def IsTurn : Action → Prop
  | .core1 _ => True
  | _ => False

/-- A device is attached, there is room for what is missing in the `rx` it goes to, and the frames
fit the receive buffer. -/
structure Provided (chips : Chips) : Prop where
  attached : chips.deviceAttached = true
  room : ∀ sender, (missing chips sender).length ≤ spiQueueMaxCapacity
  fits : ∀ sender, ∀ message ∈ missing chips sender, message.payload.length ≤ receiveBufferSize

/-- What was missing has arrived. -/
def Arrived (chips next : Chips) : Prop :=
  ∀ sender, (next.chip sender.other).rx.items = missing chips sender

/-! ## What keeps the halves going -/

/-- The number of replies that the slave has announced and not taken from `tx`. -/
def SlavePc.announced : SlavePc → Nat
  | .sendCount recCount | .sendReplies recCount | .transmit _ recCount => recCount
  | _ => 0

/-- The slave has in `tx` what it has announced, and waits for a frame with the pin up. -/
structure Primed (chips : Chips) : Prop where
  stocked : chips.slavePc.announced ≤ chips.slave.tx.level
  pinUp : chips.slavePc = .receive → chips.slaveWaiting = true

theorem Primed.congr {chips next : Chips} (h : Primed chips) (hpc : next.slavePc = chips.slavePc)
    (hlevel : chips.slave.tx.level ≤ next.slave.tx.level)
    (hpin : next.slaveWaiting = chips.slaveWaiting) : Primed next := by
  refine ⟨?_, ?_⟩
  · rw [hpc]
    exact Nat.le_trans h.stocked hlevel
  · rw [hpc, hpin]
    exact h.pinUp

theorem slaveStep_primed {chips next : Chips} (h : Primed chips)
    (hstep : slaveStep chips = some next) : Primed next := by
  obtain ⟨master, slave, masterPc, slavePc, toSlave, toMaster, waiting, attached⟩ := chips
  have hstocked : slavePc.announced ≤ slave.tx.level := h.stocked
  cases slavePc with
  | raisePin =>
      cases hstep
      exact ⟨Nat.zero_le _, fun _ => rfl⟩
  | receive =>
      obtain ⟨⟨frame, rest⟩, -, rfl⟩ := Option.map_eq_some_iff.mp hstep
      exact ⟨Nat.zero_le _, nofun⟩
  | lowerPin frame =>
      cases hstep
      exact ⟨Nat.zero_le _, nofun⟩
  | process frame =>
      unfold slaveStep at hstep
      dsimp only at hstep
      split at hstep
      · cases hstep
        exact ⟨Nat.zero_le _, nofun⟩
      · obtain ⟨rx, -, rfl⟩ := Option.map_eq_some_iff.mp hstep
        exact ⟨Nat.zero_le _, nofun⟩
  | readLevel =>
      cases hstep
      exact ⟨Nat.le_refl _, nofun⟩
  | sendCount recCount | transmit message recCount =>
      cases hstep
      exact ⟨hstocked, nofun⟩
  | sendReplies recCount =>
      cases recCount with
      | zero =>
          cases hstep
          exact ⟨Nat.zero_le _, nofun⟩
      | succ recCount =>
          obtain ⟨⟨message, rest⟩, hremove, rfl⟩ := Option.map_eq_some_iff.mp hstep
          have hitems : slave.tx.items = message :: rest.items := Fifo.remove_eq_some.mp hremove
          have hlevel : recCount + 1 ≤ slave.tx.items.length := hstocked
          rw [hitems, List.length_cons] at hlevel
          exact ⟨Nat.le_of_succ_le_succ hlevel, nofun⟩

theorem step_primed {chips next : Chips} {action : Action} (h : Primed chips)
    (hstep : step chips action = some next) : Primed next := by
  cases action with
  | enqueue role message =>
      obtain ⟨chip, henqueue, rfl⟩ := Option.map_eq_some_iff.mp hstep
      cases role with
      | master => exact h.congr rfl (Nat.le_refl _) rfl
      | slave =>
          obtain ⟨tx, hadd, rfl⟩ := Option.map_eq_some_iff.mp henqueue
          have hitems : tx.items = chips.slave.tx.items ++ [message] := (Fifo.add_eq_some.mp hadd).2
          refine h.congr rfl ?_ rfl
          show chips.slave.tx.items.length ≤ tx.items.length
          rw [hitems, List.length_append]
          exact Nat.le_add_right _ _
  | dequeue role =>
      cases hstep
      cases role with
      | master => exact h.congr rfl (Nat.le_refl _) rfl
      | slave =>
          have htx : chips.slave.dequeue.tx = chips.slave.tx := by
            unfold Chip.dequeue
            split <;> rfl
          refine h.congr rfl ?_ rfl
          exact Nat.le_of_eq (congrArg Fifo.level htx.symm)
  | core1 role =>
      cases role with
      | master =>
          obtain ⟨hslave, hpc, hpin⟩ := masterStep_slave hstep
          exact h.congr hpc (Nat.le_of_eq (by rw [hslave])) hpin
      | slave => exact slaveStep_primed h hstep
  | attach level =>
      cases hstep
      exact h.congr rfl (Nat.le_refl _) rfl

/-- What the steps of core 1 keep while core 0 is silent. The messages are those that were missing
in `start`. -/
structure Going (start chips : Chips) : Prop where
  inStep : InStep chips
  primed : Primed chips
  attached : chips.deviceAttached = true
  same : ∀ sender, missing chips sender = missing start sender

theorem turn_attached {chips next : Chips} {role : SpiRole}
    (hstep : step chips (.core1 role) = some next) :
    next.deviceAttached = chips.deviceAttached := by
  cases role with
  | master =>
      have hstep : masterStep chips = some next := hstep
      unfold masterStep at hstep
      split at hstep
      case h_1 | h_4 | h_6 =>
        cases hstep
        rfl
      case h_2 => split at hstep <;> cases hstep <;> rfl
      case h_3 =>
        obtain ⟨-, hnext⟩ := Option.ite_none_right_eq_some.mp hstep
        cases hnext
        rfl
      case h_5 | h_7 | h_8 =>
        obtain ⟨_, -, rfl⟩ := Option.map_eq_some_iff.mp hstep
        rfl
      case h_9 => cases hstep
  | slave =>
      have hstep : slaveStep chips = some next := hstep
      unfold slaveStep at hstep
      split at hstep
      case h_1 | h_3 | h_5 | h_6 | h_7 | h_9 =>
        cases hstep
        rfl
      case h_2 | h_8 =>
        obtain ⟨_, -, rfl⟩ := Option.map_eq_some_iff.mp hstep
        rfl
      case h_4 =>
        split at hstep
        · cases hstep
          rfl
        · obtain ⟨_, -, rfl⟩ := Option.map_eq_some_iff.mp hstep
          rfl

theorem Going.turn {start chips next : Chips} {role : SpiRole} (h : Going start chips)
    (hstep : step chips (.core1 role) = some next) : Going start next := by
  have hmoved : InStep next ∧ Moved chips next := by
    cases role with
    | master => exact masterStep_moved h.inStep hstep
    | slave => exact slaveStep_moved h.inStep hstep
  exact ⟨hmoved.1, step_primed h.primed hstep, (turn_attached hstep).trans h.attached,
    fun sender => (hmoved.2.kept sender).trans (h.same sender)⟩

/-! ## One of the halves can go on -/

theorem receiveFrame_cons {frame : SpiMessage} {rest : List SpiMessage}
    (hfits : frame.payload.length ≤ receiveBufferSize) :
    receiveFrame (frame :: rest) = some (frame, rest) := if_pos hfits

theorem add_of_lt {queue : SpiQueue} (message : SpiMessage) {most : Nat}
    (hlt : queue.items.length < most) (hroom : most ≤ spiQueueMaxCapacity) :
    ∃ next, queue.add message = some next := by
  cases hadd : queue.add message with
  | some next => exact ⟨next, rfl⟩
  | none =>
      have hfull : queue.items.length = spiQueueMaxCapacity := Fifo.add_eq_none.mp hadd
      omega

/-- What the halves may rely on, in the state they are in. -/
theorem Going.provided {start chips : Chips} (h : Going start chips) (hstart : Provided start) :
    Provided chips := by
  refine ⟨h.attached, fun sender => ?_, fun sender => ?_⟩
  · rw [h.same]
    exact hstart.room sender
  · rw [h.same]
    exact hstart.fits sender

/-- A slave that has announced a reply can take it from `tx`. -/
theorem reply_enabled {chips : Chips} (h : Primed chips) {recCount : Nat}
    (hpc : chips.slavePc = .sendReplies (recCount + 1)) : ∃ next, slaveStep chips = some next := by
  have hstocked := h.stocked
  rw [hpc] at hstocked
  have hstocked : recCount + 1 ≤ chips.slave.tx.items.length := hstocked
  unfold slaveStep
  rw [hpc]
  dsimp only
  cases hremove : chips.slave.tx.remove with
  | none =>
      rw [Fifo.remove_eq_none.mp hremove] at hstocked
      exact absurd hstocked (Nat.not_succ_le_zero _)
  | some taken => exact ⟨_, rfl⟩

section Enabled

variable {chips : Chips} (hinStep : InStep chips) (hprovided : Provided chips)
include hinStep hprovided

/-- A frame on the link to the slave fits its buffer. -/
theorem fits_toSlave {frame : SpiMessage} {rest : List SpiMessage}
    (hlink : chips.toSlave = frame :: rest) : frame.payload.length ≤ receiveBufferSize := by
  have hmem : frame ∈ pendingFrames chips := by
    unfold pendingFrames
    rw [hlink]
    simp
  by_cases hmessage : isMessage frame = true
  · refine hprovided.fits .master frame ?_
    rw [missing_master]
    have hframes : frame ∈ (chips.slavePc.frame ++ chips.toSlave).filter isMessage :=
      List.mem_filter.mpr ⟨hmem, hmessage⟩
    exact List.mem_append_left _ (List.mem_append_right _ (List.mem_append_left _ hframes))
  · -- The only frame that is no message is the query, which is empty.
    cases hinStep.agree with
    | sending _ _ hall => exact absurd (hall frame hmem) hmessage
    | asked front _ _ hfront hall =>
        rw [hall, List.mem_append, List.mem_singleton] at hmem
        rcases hmem with hold | rfl
        · exact absurd (hfront frame hold) hmessage
        · decide
    | answering _ _ _ hall | counted _ _ _ _ _ _ hall | replying _ _ _ _ hall =>
        rw [hall] at hmem
        cases hmem

/-- The slave can go on in every round in which it owes the master nothing, unless it waits for a
frame that was not sent. -/
theorem slave_enabled (hremaining : chips.slavePc.remaining = some 0)
    (hframes : chips.slavePc = .receive → chips.toSlave ≠ []) :
    ∃ next, slaveStep chips = some next := by
  have hfits : ∀ frame rest, chips.toSlave = frame :: rest →
      frame.payload.length ≤ receiveBufferSize :=
    fun frame rest hlink => fits_toSlave hinStep hprovided hlink
  have hroom := hprovided.room .master
  rw [missing_master] at hroom
  obtain ⟨master, slave, masterPc, slavePc, toSlave, toMaster, waiting, attached⟩ := chips
  cases slavePc with
  | raisePin | lowerPin frame => exact ⟨_, rfl⟩
  | receive =>
      cases hlink : toSlave with
      | nil => exact absurd hlink (hframes rfl)
      | cons frame rest =>
          unfold slaveStep
          dsimp only
          rw [receiveFrame_cons (hfits frame rest hlink)]
          exact ⟨_, rfl⟩
  | process frame =>
      unfold slaveStep
      dsimp only
      split
      · exact ⟨_, rfl⟩
      · rename_i hflag
        have hmessage : isMessage frame = true := by simpa [isMessage] using hflag
        have hlt : slave.rx.items.length < (slave.rx.items ++
            ((SlavePc.process frame).frame ++ toSlave).filter isMessage).length := by
          simp [SlavePc.frame, hmessage]
        have hmost : (slave.rx.items ++
            ((SlavePc.process frame).frame ++ toSlave).filter isMessage).length ≤
              spiQueueMaxCapacity := by
          refine Nat.le_trans ?_ hroom
          simp only [List.length_append]
          omega
        obtain ⟨rx, hadd⟩ := add_of_lt frame hlt hmost
        rw [hadd]
        exact ⟨_, rfl⟩
  | sendReplies recCount =>
      cases hremaining
      exact ⟨_, rfl⟩
  | readLevel | sendCount recCount => cases hremaining
  | transmit message recCount => cases hremaining

/-- A frame on the link to the master fits its buffer. -/
theorem fits_toMaster {frame : SpiMessage} {rest : List SpiMessage}
    (hlink : chips.toMaster = frame :: rest) : frame.payload.length ≤ receiveBufferSize := by
  have hreply (hmem : frame ∈ pendingReplies chips) :
      frame.payload.length ≤ receiveBufferSize := by
    refine hprovided.fits .slave frame ?_
    rw [missing_slave]
    exact List.mem_append_left _
      (List.mem_append_right _ (List.mem_append_left _ (List.mem_append_right _ hmem)))
  cases hinStep.agree with
  | sending _ _ _ hnone | asked _ _ _ _ _ hnone | answering _ _ _ _ hnone =>
      cases hlink.symm.trans hnone
  | counted recCount _ replies _ _ _ _ hreplies =>
      obtain ⟨rfl, -⟩ := List.cons.inj (hlink.symm.trans hreplies)
      show 1 ≤ receiveBufferSize
      decide
  | replying recCount _ hmaster =>
      refine hreply ?_
      unfold pendingReplies
      rw [hmaster, if_neg (Option.some_ne_none _), hlink]
      exact List.mem_cons_self

/-- Core 1 of one of the chips can take a step. -/
theorem turn_enabled (hprimed : Primed chips) :
    ∃ action next, IsTurn action ∧ step chips action = some next := by
  have hfitsMaster : ∀ frame rest, chips.toMaster = frame :: rest →
      frame.payload.length ≤ receiveBufferSize :=
    fun frame rest hlink => fits_toMaster hinStep hprovided hlink
  have hslave (hremaining : chips.slavePc.remaining = some 0)
      (hframes : chips.slavePc = .receive → chips.toSlave ≠ []) :
      ∃ action next, IsTurn action ∧ step chips action = some next := by
    obtain ⟨next, hnext⟩ := slave_enabled hinStep hprovided hremaining hframes
    exact ⟨.core1 .slave, next, trivial, hnext⟩
  have hroom := hprovided.room .slave
  rw [missing_slave] at hroom
  have hagree := hinStep.agree
  obtain ⟨master, slave, masterPc, slavePc, toSlave, toMaster, waiting, attached⟩ := chips
  cases hnext : masterStep ⟨master, slave, masterPc, slavePc, toSlave, toMaster, waiting, attached⟩ with
  | some next => exact ⟨.core1 .master, next, trivial, hnext⟩
  | none =>
  cases masterPc with
  | start | transmit outgoing => cases hnext
  | drain =>
      unfold masterStep at hnext
      dsimp only at hnext
      split at hnext <;> cases hnext
  | waitPin outgoing =>
      -- The pin is down, so the slave is not at the receive step and can go on until it is.
      have hdown : waiting ≠ true := by
        intro hup
        subst hup
        cases hnext
      have hnotReceive : slavePc ≠ .receive := fun hpc => hdown (hprimed.pinUp hpc)
      obtain ⟨hremaining, -, -⟩ := hagree.of_sending trivial
      exact hslave hremaining fun hpc => absurd hpc hnotReceive
  | receiveCount =>
      cases hagree with
      | sending hpc => exact hpc.elim
      | replying _ _ hpc => cases hpc
      | asked front _ hremaining _ hframes _ =>
          refine hslave hremaining ?_
          rintro hpc hnone
          have hframes : slavePc.frame ++ toSlave = front ++ [Outgoing.query.frame] := hframes
          have hpc : slavePc = .receive := hpc
          have hnone : toSlave = [] := hnone
          subst hpc hnone
          cases front <;> cases hframes
      | answering _ hremaining =>
          cases slavePc with
          | readLevel | sendCount recCount => exact ⟨.core1 .slave, _, trivial, rfl⟩
          | raisePin | receive | lowerPin frame | process frame | sendReplies recCount
          | transmit message recCount => cases hremaining
      | counted recCount _ replies _ _ _ _ hreplies =>
          have hreplies : toMaster = countFrame recCount :: replies := hreplies
          unfold masterStep at hnext
          dsimp only at hnext
          rw [hreplies, receiveFrame_cons (hfitsMaster _ _ hreplies)] at hnext
          cases hnext
  | receiveReplies recCount =>
      cases recCount with
      | zero => cases hnext
      | succ recCount =>
          obtain ⟨remaining, hremaining, hframes, hsum⟩ := hagree.of_awaiting rfl
          cases hlink : toMaster with
          | cons frame rest =>
              unfold masterStep at hnext
              dsimp only at hnext
              rw [hlink, receiveFrame_cons (hfitsMaster _ _ hlink)] at hnext
              cases hnext
          | nil =>
              -- The slave still has all the replies that the master waits for.
              subst hlink
              have hsum : 0 + remaining = recCount + 1 := hsum
              cases slavePc with
              | raisePin | receive | lowerPin frame | process frame =>
                  cases hremaining
                  omega
              | readLevel | sendCount other => cases hremaining
              | transmit message other => exact ⟨.core1 .slave, _, trivial, rfl⟩
              | sendReplies other =>
                  cases hremaining
                  have hcount : remaining = recCount + 1 := (Nat.zero_add _).symm.trans hsum
                  obtain ⟨next, hstep⟩ :=
                    reply_enabled hprimed (congrArg SlavePc.sendReplies hcount)
                  exact ⟨.core1 .slave, next, trivial, hstep⟩
  | addReply message recCount =>
      have hroom : (master.rx.items ++ ([message] ++ pendingReplies _ ++ slavePc.reply) ++
          slave.tx.items).length ≤ spiQueueMaxCapacity := hroom
      simp only [List.length_append, List.length_singleton] at hroom
      obtain ⟨rx, hadd⟩ := add_of_lt message
        (Nat.lt_succ_self master.rx.items.length) (by omega)
      unfold masterStep at hnext
      dsimp only at hnext
      rw [hadd] at hnext
      cases hnext
  | halted =>
      cases hagree with
      | sending hpc => exact hpc.elim
      | asked _ hpc | answering hpc | counted _ _ _ hpc | replying _ _ hpc => cases hpc

end Enabled

/-! ## The work that is left in a round -/

/-- The work that a frame on the link makes: a message goes to `rx` and the pin up again, and the
query asks for the `level` messages in the `tx` of the slave. -/
def frameWork (level : Nat) (frame : SpiMessage) : Nat :=
  if isMessage frame then 4 else 9 + 4 * level

/-- The work that the master's half makes, with `pending` messages in its `tx`. -/
def MasterPc.work (pending level : Nat) : MasterPc → Nat
  | .start => 13 + 7 * pending + 4 * level
  | .drain => 12 + 7 * pending + 4 * level
  | .waitPin (.fromTx _) => 18 + 7 * pending + 4 * level
  | .transmit (.fromTx _) => 17 + 7 * pending + 4 * level
  | .waitPin .query => 11 + 4 * level
  | .transmit .query => 10 + 4 * level
  | .addReply _ _ => 1
  | .receiveCount | .receiveReplies _ | .halted => 0

/-- The work that the slave's half makes. -/
def SlavePc.work (level : Nat) : SlavePc → Nat
  | .raisePin => 1
  | .receive => 0
  | .lowerPin frame => frameWork level frame - 1
  | .process frame => frameWork level frame - 2
  | .readLevel => 6 + 4 * level
  | .sendCount recCount => 5 + 4 * recCount
  | .sendReplies recCount => 2 + 4 * recCount
  | .transmit _ recCount => 5 + 4 * recCount

/-- The work that is left before the master starts the next round. -/
def work (chips : Chips) : Nat :=
  chips.masterPc.work chips.master.tx.level chips.slave.tx.level +
    chips.slavePc.work chips.slave.tx.level +
    (chips.toSlave.map (frameWork chips.slave.tx.level)).sum + 2 * chips.toMaster.length

theorem frameWork_message {frame : SpiMessage} (h : isMessage frame = true) (level : Nat) :
    frameWork level frame = 4 := if_pos h

theorem frameWork_query (level : Nat) : frameWork level Outgoing.query.frame = 9 + 4 * level :=
  if_neg (by decide)

theorem four_le_frameWork (level : Nat) (frame : SpiMessage) : 4 ≤ frameWork level frame := by
  unfold frameWork
  split <;> omega

/-- A step of the master's half lowers the work, unless the round is over. -/
theorem masterStep_work {chips next : Chips} (h : InStep chips)
    (hattached : chips.deviceAttached = true) (hstep : masterStep chips = some next) :
    chips.masterPc = .receiveReplies 0 ∧ next = { chips with masterPc := .start } ∨
      next.masterPc ≠ .start ∧ work next < work chips := by
  obtain ⟨master, slave, masterPc, slavePc, toSlave, toMaster, waiting, attached⟩ := chips
  have hmessages := h.messages
  cases masterPc with
  | start =>
      have hattached : attached = true := hattached
      subst hattached
      cases hstep
      refine .inr ⟨by simp, ?_⟩
      simp only [work, if_true, MasterPc.work]
      omega
  | drain =>
      unfold masterStep at hstep
      dsimp only at hstep
      split at hstep
      · cases hstep
        refine .inr ⟨by simp, ?_⟩
        simp only [work, MasterPc.work]
        omega
      · rename_i message rest hremove
        cases hstep
        refine .inr ⟨by simp, ?_⟩
        have hitems : master.tx.items = message :: rest.items := Fifo.remove_eq_some.mp hremove
        have hlevel : master.tx.level = rest.level + 1 := congrArg List.length hitems
        simp only [work, MasterPc.work, hlevel]
        omega
  | waitPin outgoing =>
      unfold masterStep at hstep
      dsimp only at hstep
      split at hstep
      · cases hstep
        refine .inr ⟨by simp, ?_⟩
        cases outgoing <;> simp only [work, MasterPc.work] <;> omega
      · cases hstep
  | transmit outgoing =>
      cases hstep
      cases outgoing with
      | fromTx message =>
          refine .inr ⟨by simp [Outgoing.next], ?_⟩
          have hmessage : isMessage message = true := hmessages message List.mem_cons_self
          simp only [work, MasterPc.work, Outgoing.next, Outgoing.frame, List.map_append,
            List.sum_append, List.map_cons, List.map_nil, List.sum_cons, List.sum_nil,
            frameWork_message hmessage]
          omega
      | query =>
          refine .inr ⟨by simp [Outgoing.next], ?_⟩
          simp only [work, MasterPc.work, Outgoing.next, List.map_append, List.sum_append,
            List.map_cons, List.map_nil, List.sum_cons, List.sum_nil, frameWork_query]
          omega
  | receiveCount =>
      unfold masterStep at hstep
      dsimp only at hstep
      obtain ⟨⟨frame, rest⟩, hreceive, hnext⟩ := Option.map_eq_some_iff.mp hstep
      have hlink : toMaster = frame :: rest := receiveFrame_eq_some hreceive
      cases hnext
      subst hlink
      dsimp only
      right
      split
      · refine ⟨by simp, ?_⟩
        simp only [work, MasterPc.work, List.length_cons]
        omega
      · refine ⟨by simp, ?_⟩
        simp only [work, MasterPc.work, List.length_cons]
        omega
  | receiveReplies recCount =>
      cases recCount with
      | zero =>
          cases hstep
          exact .inl ⟨rfl, rfl⟩
      | succ recCount =>
          unfold masterStep at hstep
          dsimp only at hstep
          obtain ⟨⟨frame, rest⟩, hreceive, hnext⟩ := Option.map_eq_some_iff.mp hstep
          have hlink : toMaster = frame :: rest := receiveFrame_eq_some hreceive
          cases hnext
          refine .inr ⟨by simp, ?_⟩
          simp only [work, MasterPc.work, hlink, List.length_cons]
          omega
  | addReply message recCount =>
      unfold masterStep at hstep
      dsimp only at hstep
      obtain ⟨rx, -, rfl⟩ := Option.map_eq_some_iff.mp hstep
      refine .inr ⟨by simp, ?_⟩
      simp only [work, MasterPc.work]
      omega
  | halted => cases hstep

/-- A step of the slave's half lowers the work. -/
theorem slaveStep_work {chips next : Chips} (h : InStep chips)
    (hstep : slaveStep chips = some next) : work next < work chips := by
  obtain ⟨master, slave, masterPc, slavePc, toSlave, toMaster, waiting, attached⟩ := chips
  have hagree := h.agree
  cases slavePc with
  | raisePin | readLevel =>
      cases hstep
      simp only [work, SlavePc.work]
      omega
  | receive =>
      unfold slaveStep at hstep
      dsimp only at hstep
      obtain ⟨⟨frame, rest⟩, hreceive, rfl⟩ := Option.map_eq_some_iff.mp hstep
      have hlink : toSlave = frame :: rest := receiveFrame_eq_some hreceive
      have hframe := four_le_frameWork slave.tx.level frame
      simp only [work, SlavePc.work, hlink, List.map_cons, List.sum_cons]
      omega
  | lowerPin frame =>
      cases hstep
      have hframe := four_le_frameWork slave.tx.level frame
      simp only [work, SlavePc.work]
      omega
  | process frame =>
      unfold slaveStep at hstep
      dsimp only at hstep
      split at hstep
      · rename_i hflag
        cases hstep
        have hquery : ¬ isMessage frame = true := by simpa [isMessage] using hflag
        simp only [work, SlavePc.work, frameWork, if_neg hquery]
        omega
      · rename_i hflag
        have hmessage : isMessage frame = true := by simpa [isMessage] using hflag
        obtain ⟨rx, -, rfl⟩ := Option.map_eq_some_iff.mp hstep
        simp only [work, SlavePc.work, frameWork_message hmessage]
        omega
  | sendCount recCount =>
      cases hstep
      simp only [work, SlavePc.work, List.length_append, List.length_singleton]
      omega
  | sendReplies recCount =>
      cases recCount with
      | zero =>
          cases hstep
          simp only [work, SlavePc.work]
          omega
      | succ recCount =>
          unfold slaveStep at hstep
          dsimp only at hstep
          obtain ⟨⟨message, rest⟩, -, rfl⟩ := Option.map_eq_some_iff.mp hstep
          -- While the slave answers, the work of the others does not depend on its level.
          cases hagree with
          | sending _ hslave | asked _ _ hslave | answering _ hslave => cases hslave
          | counted _ _ _ hmaster _ _ hframes =>
              have hmaster : masterPc = .receiveCount := hmaster
              have hlink : toSlave = [] := hframes
              subst hmaster hlink
              simp only [work, MasterPc.work, SlavePc.work, List.map_nil, List.sum_nil]
              omega
          | replying _ _ hmaster _ hframes =>
              have hmaster : masterPc.awaiting = some _ := hmaster
              have hlink : toSlave = [] := hframes
              subst hlink
              cases masterPc with
              | receiveReplies other | addReply message other =>
                  simp only [work, MasterPc.work, SlavePc.work, List.map_nil, List.sum_nil]
                  omega
              | start | drain | waitPin other | transmit other | receiveCount | halted =>
                  cases hmaster
  | transmit message recCount =>
      cases hstep
      simp only [work, SlavePc.work, List.length_append, List.length_singleton]
      omega

/-- The slave's half makes no more work than its frame does. -/
theorem SlavePc.work_le {slavePc : SlavePc} (h : slavePc.remaining = some 0) (level : Nat) :
    slavePc.work level ≤ (slavePc.frame.map (frameWork level)).sum + 2 := by
  cases slavePc with
  | raisePin | receive => exact Nat.le_of_ble_eq_true rfl
  | lowerPin frame | process frame =>
      simp only [SlavePc.work, SlavePc.frame, List.map_cons, List.map_nil, List.sum_cons,
        List.sum_nil]
      omega
  | sendReplies recCount =>
      cases h
      exact Nat.le_refl _
  | readLevel | sendCount recCount | transmit message recCount => cases h

/-- A slave that has no frame makes work for the replies that it has announced. -/
theorem SlavePc.work_le_announced {slavePc : SlavePc} {remaining : Nat}
    (h : slavePc.remaining = some remaining) (hframe : slavePc.frame = []) (level : Nat) :
    slavePc.work level ≤ 5 + 4 * slavePc.announced := by
  cases slavePc with
  | raisePin | receive | sendReplies recCount | transmit message recCount =>
      simp only [SlavePc.work, SlavePc.announced]
      omega
  | lowerPin frame | process frame => cases hframe
  | readLevel | sendCount recCount => cases h

theorem sum_frameWork {frames : List SpiMessage} (h : ∀ frame ∈ frames, isMessage frame = true)
    (level : Nat) : (frames.map (frameWork level)).sum = 4 * frames.length := by
  induction frames with
  | nil => rfl
  | cons frame rest ih =>
      rw [List.map_cons, List.sum_cons, List.length_cons,
        frameWork_message (h frame List.mem_cons_self),
        ih fun other hmem => h other (List.mem_cons_of_mem _ hmem)]
      omega

/-- The most work that is left in a round, from what is missing. -/
def roundBound (chips : Chips) : Nat :=
  21 + 7 * (missing chips .master).length + 4 * (missing chips .slave).length

theorem work_le_roundBound {chips : Chips} (h : InStep chips) (hprimed : Primed chips) :
    work chips ≤ roundBound chips := by
  have hlevel : chips.slave.tx.level = chips.slave.tx.items.length := rfl
  have hpending : chips.master.tx.level = chips.master.tx.items.length := rfl
  have hstocked := hprimed.stocked
  -- What is pending between the two halves makes the work of its frames.
  have hslave (hremaining : chips.slavePc.remaining = some 0) :
      chips.slavePc.work chips.slave.tx.level +
          (chips.toSlave.map (frameWork chips.slave.tx.level)).sum ≤
        ((pendingFrames chips).map (frameWork chips.slave.tx.level)).sum + 2 := by
    have hwork := SlavePc.work_le hremaining chips.slave.tx.level
    unfold pendingFrames
    rw [List.map_append, List.sum_append]
    omega
  have hmissing : (pendingFrames chips).filter isMessage =
      (chips.slavePc.frame ++ chips.toSlave).filter isMessage := rfl
  unfold roundBound work
  rw [missing_master, missing_slave]
  simp only [List.length_append, ← hmissing]
  cases h.agree with
  | sending hmaster hremaining hall hnone =>
      have hpc : chips.masterPc.work chips.master.tx.level chips.slave.tx.level ≤
          18 + 7 * chips.master.tx.level + 4 * chips.slave.tx.level := by
        cases hcases : chips.masterPc with
        | waitPin outgoing | transmit outgoing =>
            cases outgoing <;> simp only [MasterPc.work] <;> omega
        | start | drain =>
            simp only [MasterPc.work]
            omega
        | receiveCount | receiveReplies _ | addReply _ _ | halted =>
            rw [hcases] at hmaster
            exact hmaster.elim
      have hframes := hslave hremaining
      rw [sum_frameWork hall] at hframes
      rw [List.filter_eq_self.mpr hall, hnone, List.length_nil]
      omega
  | asked front hmaster hremaining hfront hall hnone =>
      have hframes := hslave hremaining
      rw [hall, List.map_append, List.sum_append, sum_frameWork hfront, List.map_singleton,
        List.sum_singleton, frameWork_query] at hframes
      rw [hall, hnone, hmaster, List.filter_append, List.filter_eq_self.mpr hfront]
      simp only [MasterPc.work, List.length_append, List.length_nil]
      omega
  | answering hmaster hremaining hcount hall hnone =>
      have hlink : chips.toSlave = [] := (List.append_eq_nil_iff.mp hall).2
      rw [hmaster, hnone, hlink]
      cases hpc : chips.slavePc with
      | readLevel =>
          simp only [MasterPc.work, SlavePc.work, List.map_nil, List.sum_nil, List.length_nil]
          omega
      | sendCount recCount =>
          rw [hpc] at hstocked
          have hstocked : recCount ≤ chips.slave.tx.level := hstocked
          simp only [MasterPc.work, SlavePc.work, List.map_nil, List.sum_nil, List.length_nil]
          omega
      | raisePin | receive | lowerPin frame | process frame | sendReplies recCount
      | transmit message recCount =>
          rw [hpc] at hremaining
          cases hremaining
  | counted recCount remaining replies hmaster hremaining hcount hall hreplies hsum =>
      obtain ⟨hframe, hlink⟩ := List.append_eq_nil_iff.mp hall
      have hpc := SlavePc.work_le_announced hremaining hframe chips.slave.tx.level
      have hawaiting : MasterPc.receiveCount.awaiting = none := rfl
      unfold pendingReplies
      rw [hmaster, hreplies, hlink, if_pos hawaiting]
      simp only [MasterPc.work, List.map_nil, List.sum_nil, List.length_cons, List.tail_cons]
      omega
  | replying recCount remaining hmaster hremaining hall hsum =>
      obtain ⟨hframe, hlink⟩ := List.append_eq_nil_iff.mp hall
      have hpc := SlavePc.work_le_announced hremaining hframe chips.slave.tx.level
      have hwork : chips.masterPc.work chips.master.tx.level chips.slave.tx.level ≤ 1 := by
        cases hcases : chips.masterPc with
        | receiveReplies other | addReply message other =>
            simp only [MasterPc.work]
            omega
        | start | drain | waitPin _ | transmit _ | receiveCount | halted =>
            rw [hcases] at hmaster
            cases hmaster
      unfold pendingReplies
      rw [hmaster, hlink, if_neg (Option.some_ne_none _)]
      simp only [List.map_nil, List.sum_nil]
      omega

/-! ## A round that core 0 does not disturb takes everything along -/

/-- The master has found `tx` empty in this round. -/
def MasterPc.HasDrained : MasterPc → Prop
  | .waitPin .query | .transmit .query | .receiveCount | .receiveReplies _ | .addReply _ _ => True
  | _ => False

/-- What the halves leave in the two `tx` while core 0 adds nothing. -/
structure LeavesNothing (chips : Chips) : Prop where
  drained : chips.masterPc.HasDrained → chips.master.tx.items = []
  announced : ∀ recCount, chips.slavePc = .sendCount recCount → recCount = chips.slave.tx.level
  answered : chips.toMaster ≠ [] ∨ chips.masterPc.awaiting ≠ none →
    chips.slavePc.remaining = some (chips.slave.tx.level + chips.slavePc.reply.length)

/-- At the start of a round nothing is claimed yet. -/
theorem leavesNothing_of_start {chips : Chips} (h : InStep chips)
    (hpc : chips.masterPc = .start) : LeavesNothing chips := by
  have hsending : chips.masterPc.Sending := by
    rw [hpc]
    trivial
  obtain ⟨hremaining, -, hnone⟩ := h.agree.of_sending hsending
  refine ⟨fun hdrained => ?_, fun recCount hcount => ?_, fun hanswered => ?_⟩
  · rw [hpc] at hdrained
    exact hdrained.elim
  · rw [hcount] at hremaining
    cases hremaining
  · rcases hanswered with hlink | hawaiting
    · exact absurd hnone hlink
    · rw [hpc] at hawaiting
      exact absurd rfl hawaiting

theorem masterStep_leavesNothing {chips next : Chips} (h : LeavesNothing chips)
    (hinStep : InStep chips) (hstep : masterStep chips = some next)
    (hgoes : next.masterPc ≠ .start) : LeavesNothing next := by
  obtain ⟨master, slave, masterPc, slavePc, toSlave, toMaster, waiting, attached⟩ := chips
  obtain ⟨hdrained, hannounced, hanswered⟩ := h
  have hagree := hinStep.agree
  cases masterPc with
  | start =>
      cases hstep
      cases attached
      · exact absurd rfl hgoes
      · exact ⟨nofun, hannounced, hanswered⟩
  | drain =>
      unfold masterStep at hstep
      dsimp only at hstep
      split at hstep
      · rename_i hremove
        cases hstep
        exact ⟨fun _ => Fifo.remove_eq_none.mp hremove, hannounced, hanswered⟩
      · cases hstep
        exact ⟨nofun, hannounced, hanswered⟩
  | waitPin outgoing =>
      obtain ⟨-, hnext⟩ := Option.ite_none_right_eq_some.mp hstep
      cases hnext
      refine ⟨fun hasked => hdrained ?_, hannounced, hanswered⟩
      cases outgoing with
      | fromTx message => exact hasked.elim
      | query => trivial
  | transmit outgoing =>
      cases hstep
      cases outgoing with
      | fromTx message => exact ⟨nofun, hannounced, hanswered⟩
      | query => exact ⟨fun _ => hdrained trivial, hannounced, hanswered⟩
  | receiveCount =>
      unfold masterStep at hstep
      dsimp only at hstep
      obtain ⟨⟨frame, rest⟩, hreceive, hnext⟩ := Option.map_eq_some_iff.mp hstep
      have hlink : toMaster = frame :: rest := receiveFrame_eq_some hreceive
      have hnonempty : toMaster ≠ [] := by
        rw [hlink]
        exact List.cons_ne_nil _ _
      cases hnext
      exact ⟨fun _ => hdrained trivial, hannounced, fun _ => hanswered (.inl hnonempty)⟩
  | receiveReplies recCount =>
      have hawaits : (MasterPc.receiveReplies recCount).awaiting ≠ none := Option.some_ne_none _
      cases recCount with
      | zero =>
          cases hstep
          exact absurd rfl hgoes
      | succ recCount =>
          unfold masterStep at hstep
          dsimp only at hstep
          obtain ⟨⟨frame, rest⟩, -, hnext⟩ := Option.map_eq_some_iff.mp hstep
          cases hnext
          exact ⟨fun _ => hdrained trivial, hannounced, fun _ => hanswered (.inr hawaits)⟩
  | addReply message recCount =>
      have hawaits : (MasterPc.addReply message recCount).awaiting ≠ none := Option.some_ne_none _
      obtain ⟨rx, -, rfl⟩ := Option.map_eq_some_iff.mp hstep
      exact ⟨fun _ => hdrained trivial, hannounced, fun _ => hanswered (.inr hawaits)⟩
  | halted => cases hstep

/-- Until the slave has announced its replies the master has none to wait for. -/
theorem Agree.silent {chips : Chips} (h : Agree chips)
    (hearly : chips.slavePc.remaining = none ∨ pendingFrames chips ≠ []) :
    ¬ (chips.toMaster ≠ [] ∨ chips.masterPc.awaiting ≠ none) := by
  rintro (hlink | hawaiting)
  · cases h with
    | sending _ _ _ hnone | asked _ _ _ _ _ hnone | answering _ _ _ _ hnone => exact hlink hnone
    | counted _ _ _ _ hremaining _ hframes | replying _ _ _ hremaining hframes =>
        rcases hearly with hnone | hsome
        · cases hremaining.symm.trans hnone
        · exact hsome hframes
  · obtain ⟨recCount, hrecCount⟩ := Option.ne_none_iff_exists'.mp hawaiting
    obtain ⟨remaining, hremaining, hframes, -⟩ := h.of_awaiting hrecCount
    rcases hearly with hnone | hsome
    · cases hremaining.symm.trans hnone
    · exact hsome hframes

theorem slaveStep_leavesNothing {chips next : Chips} (h : LeavesNothing chips)
    (hinStep : InStep chips) (hstep : slaveStep chips = some next) : LeavesNothing next := by
  obtain ⟨master, slave, masterPc, slavePc, toSlave, toMaster, waiting, attached⟩ := chips
  obtain ⟨hdrained, hannounced, hanswered⟩ := h
  have hagree := hinStep.agree
  cases slavePc with
  | raisePin | lowerPin frame =>
      cases hstep
      exact ⟨hdrained, nofun, hanswered⟩
  | receive =>
      obtain ⟨⟨frame, rest⟩, -, rfl⟩ := Option.map_eq_some_iff.mp hstep
      exact ⟨hdrained, nofun, hanswered⟩
  | process frame =>
      unfold slaveStep at hstep
      dsimp only at hstep
      split at hstep
      · -- The slave has not answered the query yet.
        cases hstep
        have hsilent := hagree.silent (.inr (List.cons_ne_nil frame toSlave))
        exact ⟨hdrained, nofun, fun hlate => absurd hlate hsilent⟩
      · obtain ⟨rx, -, rfl⟩ := Option.map_eq_some_iff.mp hstep
        exact ⟨hdrained, nofun, hanswered⟩
  | readLevel =>
      cases hstep
      refine ⟨hdrained, ?_, fun hlate => absurd hlate (hagree.silent (.inl rfl))⟩
      rintro recCount ⟨⟩
      rfl
  | sendCount recCount =>
      cases hstep
      refine ⟨hdrained, nofun, fun _ => ?_⟩
      exact congrArg some (hannounced recCount rfl)
  | sendReplies recCount =>
      cases recCount with
      | zero =>
          cases hstep
          exact ⟨hdrained, nofun, hanswered⟩
      | succ recCount =>
          unfold slaveStep at hstep
          dsimp only at hstep
          obtain ⟨⟨message, rest⟩, hremove, rfl⟩ := Option.map_eq_some_iff.mp hstep
          have hitems : slave.tx.items = message :: rest.items := Fifo.remove_eq_some.mp hremove
          have hlevel : slave.tx.level = rest.level + 1 := congrArg List.length hitems
          refine ⟨hdrained, nofun, fun hlate => ?_⟩
          have hleft : some (recCount + 1) = some (slave.tx.level + 0) := hanswered hlate
          rw [hlevel] at hleft
          exact hleft
  | transmit message recCount =>
      cases hstep
      refine ⟨hdrained, nofun, fun _ => ?_⟩
      have hlate : toMaster ≠ [] ∨ masterPc.awaiting ≠ none := by
        cases hagree with
        | sending _ hslave | asked _ _ hslave | answering _ hslave => cases hslave
        | counted _ _ _ _ _ _ _ hreplies =>
            have hreplies : toMaster = _ := hreplies
            rw [hreplies]
            exact .inl (List.cons_ne_nil _ _)
        | replying _ _ hmaster =>
            have hmaster : masterPc.awaiting = some _ := hmaster
            rw [hmaster]
            exact .inr (Option.some_ne_none _)
      have hleft : some (recCount + 1) = some (slave.tx.level + 1) := hanswered hlate
      exact congrArg some (Nat.succ_inj.mp (Option.some.inj hleft))

/-- When the master knows that the last reply has come, nothing is left on its way. -/
theorem arrived_of_roundEnd {chips : Chips} (h : LeavesNothing chips) (hinStep : InStep chips)
    (hpc : chips.masterPc = .receiveReplies 0) :
    Arrived chips { chips with masterPc := .start } := by
  have hawaiting : chips.masterPc.awaiting = some 0 := by
    rw [hpc]
    rfl
  obtain ⟨remaining, hremaining, hframes, hsum⟩ := hinStep.agree.of_awaiting hawaiting
  have hleft := h.answered (.inr (by rw [hawaiting]; exact Option.some_ne_none _))
  have hsame : remaining = chips.slave.tx.level + chips.slavePc.reply.length :=
    Option.some.inj (hremaining.symm.trans hleft)
  have htx : chips.slave.tx.items = [] :=
    List.length_eq_zero_iff.mp (show chips.slave.tx.level = 0 by omega)
  have hreply : chips.slavePc.reply = [] := List.length_eq_zero_iff.mp (by omega)
  have hlink : chips.toMaster = [] := List.length_eq_zero_iff.mp (by omega)
  have hdrained : chips.master.tx.items = [] := h.drained (by rw [hpc]; trivial)
  have hfilter : (chips.slavePc.frame ++ chips.toSlave).filter isMessage = [] := by
    have hall : chips.slavePc.frame ++ chips.toSlave = [] := hframes
    rw [hall]
    rfl
  intro sender
  cases sender with
  | master =>
      rw [missing_master, hfilter, hdrained, hpc]
      show chips.slave.rx.items = _
      simp [MasterPc.outgoing]
  | slave =>
      rw [missing_slave, hreply, htx]
      unfold pendingReplies
      rw [hawaiting, if_neg (Option.some_ne_none _), hlink, hpc]
      show chips.master.rx.items = _
      simp [MasterPc.reply]

/-! ## Every order of steps -/

/-- The most steps that core 1 of the two chips take before what is missing has arrived: those of
the round that is going on and of the next one. -/
def deliveryBound (chips : Chips) : Nat := 2 * (roundBound chips + 1)

theorem Going.roundBound {start chips : Chips} (h : Going start chips) :
    roundBound chips = roundBound start := by
  unfold Link.roundBound
  rw [h.same, h.same]

/-- The round that is going on ends. -/
theorem reaches_start {start chips : Chips} (h : Going start chips) (hprovided : Provided start) :
    Machine.ReachesWithin step IsTurn (fun next => Going start next ∧ next.masterPc = .start)
      (roundBound start + 1) chips := by
  have hwork := work_le_roundBound h.inStep h.primed
  rw [h.roundBound] at hwork
  refine (Machine.ReachesWithin.of_rank work (fun state hgoing _ => ?_)
    (fun state action next hgoing hearly hturn hstep => ?_) h).mono (Nat.succ_le_succ hwork)
  · exact turn_enabled hgoing.inStep (hgoing.provided hprovided) hgoing.primed
  · cases action with
    | enqueue | dequeue | attach => exact hturn.elim
    | core1 role =>
        have hnext := hgoing.turn hstep
        cases role with
        | master =>
            rcases masterStep_work hgoing.inStep hgoing.attached hstep with ⟨-, rfl⟩ | ⟨-, hless⟩
            · exact .inl ⟨hnext, rfl⟩
            · exact .inr ⟨hnext, hless⟩
        | slave => exact .inr ⟨hnext, slaveStep_work hgoing.inStep hstep⟩

/-- A round from its start to its end brings everything along. -/
theorem reaches_arrived {start chips : Chips} (h : Going start chips) (hprovided : Provided start)
    (hleaves : LeavesNothing chips) :
    Machine.ReachesWithin step IsTurn (fun next => Going start next ∧ Arrived start next)
      (roundBound start + 1) chips := by
  have hwork := work_le_roundBound h.inStep h.primed
  rw [h.roundBound] at hwork
  refine (Machine.ReachesWithin.of_rank work
    (I := fun state => Going start state ∧ LeavesNothing state) (fun state hgoing _ => ?_)
    (fun state action next hgoing hearly hturn hstep => ?_) ⟨h, hleaves⟩).mono
      (Nat.succ_le_succ hwork)
  · exact turn_enabled hgoing.1.inStep (hgoing.1.provided hprovided) hgoing.1.primed
  · obtain ⟨hgoing, hleaves⟩ := hgoing
    cases action with
    | enqueue | dequeue | attach => exact hturn.elim
    | core1 role =>
        have hnext := hgoing.turn hstep
        cases role with
        | master =>
            rcases masterStep_work hgoing.inStep hgoing.attached hstep with
              ⟨hpc, rfl⟩ | ⟨hgoes, hless⟩
            · refine .inl ⟨hnext, fun sender => ?_⟩
              rw [← hgoing.same]
              exact arrived_of_roundEnd hleaves hgoing.inStep hpc sender
            · exact .inr ⟨⟨hnext, masterStep_leavesNothing hleaves hgoing.inStep hstep hgoes⟩, hless⟩
        | slave =>
            exact .inr ⟨⟨hnext, slaveStep_leavesNothing hleaves hgoing.inStep hstep⟩,
              slaveStep_work hgoing.inStep hstep⟩

/-- What has arrived stays in `rx` while core 0 is silent. -/
theorem Arrived.turn {start chips next : Chips} {role : SpiRole} (h : Arrived start chips)
    (hgoing : Going start chips) (hstep : step chips (.core1 role) = some next) :
    Arrived start next := by
  intro sender
  have hgrows : (chips.chip sender.other).rx.items <+: (next.chip sender.other).rx.items := by
    rcases step_receives hstep nofun sender.other with hsame | ⟨message, hadd⟩
    · simp [hsame]
    · rw [(Fifo.add_eq_some.mp hadd).2]
      exact List.prefix_append _ _
  rw [h sender] at hgrows
  have hmissing := (hgoing.turn hstep).same sender
  have hpart : (next.chip sender.other).rx.items <+: missing next sender := by
    unfold missing
    rw [List.append_assoc]
    exact List.prefix_append _ _
  rw [hmissing] at hpart
  exact hpart.eq_of_length_le hgrows.length_le

/-- While a device is attached, what is missing has room in the queues it goes to, and core 0 of
both chips is silent, every message that was sent arrives: whatever order core 1 of the two chips
take their steps in, one of them can take a step until everything has arrived, and everything has
after `deliveryBound` steps. -/
theorem arrives_of_run {actions : List Action} {chips : Chips}
    (hactions : ∀ action ∈ actions, NoQuery action)
    (hrun : Machine.run step init actions = some chips) (hprovided : Provided chips) :
    Machine.ReachesWithin step IsTurn (Arrived chips) (deliveryBound chips) chips ∧
      ∀ turns last, (∀ action ∈ turns, IsTurn action) → deliveryBound chips ≤ turns.length →
        Machine.run step chips turns = some last → Arrived chips last := by
  obtain ⟨mail, hinStep, -⟩ := implements_of_run hactions hrun
  have hinit : Primed init := ⟨Nat.le_refl _, nofun⟩
  have hprimed : Primed chips :=
    Machine.run_invariant (fun _ _ _ h hstep => step_primed h hstep) hinit hrun
  have hgoing : Going chips chips := ⟨hinStep, hprimed, hprovided.attached, fun _ => rfl⟩
  have hreaches : Machine.ReachesWithin step IsTurn
      (fun next => Going chips next ∧ Arrived chips next) (deliveryBound chips) chips := by
    unfold deliveryBound
    rw [Nat.two_mul]
    refine (reaches_start hgoing hprovided).trans fun next ⟨hnext, hpc⟩ => ?_
    exact reaches_arrived hnext hprovided (leavesNothing_of_start hnext.inStep hpc)
  refine ⟨hreaches.imp fun _ h => h.2, fun turns last hturns hlong hlast => ?_⟩
  refine (hreaches.of_run (fun state action next h hturn hstep => ?_) hturns hlong hlast).2
  cases action with
  | enqueue | dequeue | attach => exact hturn.elim
  | core1 role => exact ⟨h.1.turn hstep, h.2.turn h.1 hstep⟩

/-- Each side has handed over a message, and the slave waits for the first frame. -/
def twoMessages : List Action :=
  [.attach true, .enqueue .master setupPacket, .enqueue .slave setupReply] ++ turns .slave 1

theorem twoMessages_arrive :
    ∃ chips, Machine.run step init twoMessages = some chips ∧
      missing chips .master = [setupPacket] ∧ missing chips .slave = [setupReply] ∧
      Machine.ReachesWithin step IsTurn (Arrived chips) 66 chips := by
  have hactions : ∀ action ∈ twoMessages, NoQuery action := by decide +kernel
  have hends : ∃ chips, Machine.run step init twoMessages = some chips ∧
      (chips.deviceAttached = true ∧ missing chips .master = [setupPacket] ∧
        missing chips .slave = [setupReply]) := Machine.exists_run_of_any (by decide +kernel)
  obtain ⟨chips, hrun, hattached, hdown, hup⟩ := hends
  have hprovided : Provided chips := by
    refine ⟨hattached, fun sender => ?_, fun sender => ?_⟩
    · cases sender
      · rw [hdown]
        decide
      · rw [hup]
        decide
    · cases sender
      · rw [hdown]
        decide
      · rw [hup]
        decide
  have harrives := (arrives_of_run hactions hrun hprovided).1
  have hbound : deliveryBound chips = 66 := by
    unfold deliveryBound roundBound
    rw [hdown, hup]
    rfl
  rw [hbound] at harrives
  exact ⟨chips, hrun, hdown, hup, harrives⟩

end UsbSec.Link
