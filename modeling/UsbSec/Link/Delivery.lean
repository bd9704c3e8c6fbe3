import Mathlib.Logic.Function.Basic
import UsbSec.Library.Channel
import UsbSec.Link.Sync

/-!
# Messages arrive once and in order

Seen from core 0 of the two chips, queues, link and the two halves of `sync` are one channel in
each direction. The messages inside it are spread over `tx`, the hands of core 1, the link and
`rx`; a step of core 1 moves them along and neither adds nor removes any. What keeps the halves
together is that they agree on the round: on whether the query was seen, on whose frames are on
the link, and on how many replies are still to come.
-/

namespace UsbSec.Link

open Library

/-! ## What is on the way -/

/-- The message that core 1 of the master has taken from `tx`. -/
def MasterPc.outgoing : MasterPc → List SpiMessage
  | .waitPin (.fromTx message) => [message]
  | .transmit (.fromTx message) => [message]
  | _ => []

/-- The message that core 1 of the master is adding to `rx`. -/
def MasterPc.reply : MasterPc → List SpiMessage
  | .addReply message _ => [message]
  | _ => []

/-- The number of replies that the master still waits for, once it knows it. -/
def MasterPc.awaiting : MasterPc → Option Nat
  | .receiveReplies recCount => some recCount
  | .addReply _ recCount => some recCount
  | _ => none

/-- The master is sending, or about to start. -/
def MasterPc.Sending : MasterPc → Prop
  | .start | .drain | .waitPin _ | .transmit _ => True
  | _ => False

/-- The frame that core 1 of the slave has received and not dealt with. -/
def SlavePc.frame : SlavePc → List SpiMessage
  | .lowerPin frame => [frame]
  | .process frame => [frame]
  | _ => []

/-- The message that core 1 of the slave has taken from `tx`. -/
def SlavePc.reply : SlavePc → List SpiMessage
  | .transmit message _ => [message]
  | _ => []

/-- The number of replies that the slave has still to send, unless it has yet to announce it. -/
def SlavePc.remaining : SlavePc → Option Nat
  | .readLevel | .sendCount _ => none
  | .sendReplies recCount => some recCount
  | .transmit _ recCount => some (recCount + 1)
  | _ => some 0

/-- The frame carries a message; the query does not. -/
def isMessage (frame : SpiMessage) : Bool := !decide (hasFlag frame.eFlag MsgType.slaveDataQuery)

/-- The frames for the slave that it has not dealt with. -/
def pendingFrames (chips : Chips) : List SpiMessage := chips.slavePc.frame ++ chips.toSlave

/-- The messages among the frames for the master. Until it has the count, that is the first. -/
def pendingReplies (chips : Chips) : List SpiMessage :=
  if chips.masterPc.awaiting = none then chips.toMaster.tail else chips.toMaster

/-- The messages of a sender between the two queues. -/
def inTransit (chips : Chips) : SpiRole → List SpiMessage
  | .master => (pendingFrames chips).filter isMessage ++ chips.masterPc.outgoing
  | .slave => chips.masterPc.reply ++ pendingReplies chips ++ chips.slavePc.reply

/-- The messages of a sender that have not arrived: in the receiver's `rx`, between the queues, or
in the sender's `tx`. -/
def missing (chips : Chips) (sender : SpiRole) : List SpiMessage :=
  (chips.chip sender.other).rx.items ++ inTransit chips sender ++ (chips.chip sender).tx.items

/-- The receiver has got what the sender has sent, in order, except for what is still missing. -/
structure Delivered (chips : Chips) (sender : SpiRole) : Prop where
  ordered : (chips.chip sender.other).dequeued <+: (chips.chip sender).enqueued
  complete : (chips.chip sender).enqueued =
    (chips.chip sender.other).dequeued ++ missing chips sender

/-! ## The two halves agree on the round -/

/-- Where a round is: the master sends; it has asked; the slave is about to answer; the count is
on the link; the replies are. -/
inductive Agree (chips : Chips) : Prop where
  | sending (hmaster : chips.masterPc.Sending) (hslave : chips.slavePc.remaining = some 0)
      (hframes : ∀ frame ∈ pendingFrames chips, isMessage frame = true)
      (hreplies : chips.toMaster = [])
  | asked (front : List SpiMessage) (hmaster : chips.masterPc = .receiveCount)
      (hslave : chips.slavePc.remaining = some 0)
      (hfront : ∀ frame ∈ front, isMessage frame = true)
      (hframes : pendingFrames chips = front ++ [Outgoing.query.frame])
      (hreplies : chips.toMaster = [])
  | answering (hmaster : chips.masterPc = .receiveCount)
      (hslave : chips.slavePc.remaining = none)
      (hcount : ∀ recCount, chips.slavePc = .sendCount recCount → recCount ≤ spiQueueMaxCapacity)
      (hframes : pendingFrames chips = []) (hreplies : chips.toMaster = [])
  | counted (recCount remaining : Nat) (replies : List SpiMessage)
      (hmaster : chips.masterPc = .receiveCount)
      (hslave : chips.slavePc.remaining = some remaining)
      (hcount : recCount ≤ spiQueueMaxCapacity) (hframes : pendingFrames chips = [])
      (hreplies : chips.toMaster = countFrame recCount :: replies)
      (hsum : replies.length + remaining = recCount)
  | replying (recCount remaining : Nat) (hmaster : chips.masterPc.awaiting = some recCount)
      (hslave : chips.slavePc.remaining = some remaining) (hframes : pendingFrames chips = [])
      (hsum : chips.toMaster.length + remaining = recCount)

/-- What every step keeps: the halves agree on the round, and nothing that the master has to send
looks like a query. -/
structure InStep (chips : Chips) : Prop where
  agree : Agree chips
  messages : ∀ message ∈ chips.masterPc.outgoing ++ chips.master.tx.items,
    isMessage message = true

/-- A step of core 1 moves messages along. -/
structure Moved (chips next : Chips) : Prop where
  enqueued : ∀ role, (next.chip role).enqueued = (chips.chip role).enqueued
  dequeued : ∀ role, (next.chip role).dequeued = (chips.chip role).dequeued
  kept : ∀ sender, missing next sender = missing chips sender

/-- The master's half says where a round is only while it waits for replies. -/
theorem Agree.of_sending {chips : Chips} (h : Agree chips) (hmaster : chips.masterPc.Sending) :
    chips.slavePc.remaining = some 0 ∧
      (∀ frame ∈ pendingFrames chips, isMessage frame = true) ∧ chips.toMaster = [] := by
  cases h with
  | sending _ hslave hframes hreplies => exact ⟨hslave, hframes, hreplies⟩
  | asked _ hpc | answering hpc | counted _ _ _ hpc =>
      rw [hpc] at hmaster
      exact hmaster.elim
  | replying recCount _ hpc =>
      cases hmasterPc : chips.masterPc <;> rw [hmasterPc] at hmaster hpc
      case receiveReplies | addReply => exact hmaster.elim
      all_goals cases hpc

/-- While the master waits for replies nothing is on the way to the slave. -/
theorem Agree.of_awaiting {chips : Chips} (h : Agree chips) {recCount : Nat}
    (hmaster : chips.masterPc.awaiting = some recCount) :
    ∃ remaining, chips.slavePc.remaining = some remaining ∧ pendingFrames chips = [] ∧
      chips.toMaster.length + remaining = recCount := by
  cases h with
  | replying other remaining hpc hslave hframes hsum =>
      cases hpc.symm.trans hmaster
      exact ⟨remaining, hslave, hframes, hsum⟩
  | asked _ hpc | answering hpc | counted _ _ _ hpc =>
      rw [hpc] at hmaster
      cases hmaster
  | sending hpc =>
      cases hmasterPc : chips.masterPc <;> rw [hmasterPc] at hmaster hpc
      case receiveReplies | addReply => exact hpc.elim
      all_goals cases hmaster

/-! ## Steps of core 1 -/

/-- The chip's history is the same. -/
def SameHistory (first second : Chip) : Prop :=
  second.enqueued = first.enqueued ∧ second.dequeued = first.dequeued

theorem Moved.of {chips next : Chips} (hmaster : SameHistory chips.master next.master)
    (hslave : SameHistory chips.slave next.slave)
    (hdown : missing next .master = missing chips .master)
    (hup : missing next .slave = missing chips .slave) : Moved chips next := by
  refine ⟨fun role => ?_, fun role => ?_, fun sender => ?_⟩
  · cases role
    · exact hmaster.1
    · exact hslave.1
  · cases role
    · exact hmaster.2
    · exact hslave.2
  · cases sender
    · exact hdown
    · exact hup

/-- What is missing from the master, and where. -/
theorem missing_master (chips : Chips) : missing chips .master =
    chips.slave.rx.items ++
      ((chips.slavePc.frame ++ chips.toSlave).filter isMessage ++ chips.masterPc.outgoing) ++
      chips.master.tx.items := rfl

/-- What is missing from the slave, and where. -/
theorem missing_slave (chips : Chips) : missing chips .slave =
    chips.master.rx.items ++
      (chips.masterPc.reply ++ pendingReplies chips ++ chips.slavePc.reply) ++
      chips.slave.tx.items := rfl

theorem receiveFrame_eq_some {frames rest : List SpiMessage} {frame : SpiMessage}
    (h : receiveFrame frames = some (frame, rest)) : frames = frame :: rest := by
  unfold receiveFrame at h
  split at h
  · cases h
  · split at h
    · cases h
      rfl
    · cases h

theorem isMessage_query : isMessage Outgoing.query.frame = false := by decide

/-- The count that the slave announces is the one that the master reads. -/
theorem toNat_count {recCount : Nat} (h : recCount ≤ spiQueueMaxCapacity) :
    (UInt8.ofNat recCount).toNat = recCount := by
  have hle : recCount ≤ 20 := h
  rw [UInt8.toNat_ofNat']
  omega

/-- A step of core 1 of the master. -/
theorem masterStep_moved {chips next : Chips} (h : InStep chips)
    (hstep : masterStep chips = some next) : InStep next ∧ Moved chips next := by
  obtain ⟨master, slave, masterPc, slavePc, toSlave, toMaster, waiting, attached⟩ := chips
  obtain ⟨hagree, hmessages⟩ := h
  cases masterPc with
  | start =>
      obtain ⟨hslave, hframes, hreplies⟩ := hagree.of_sending trivial
      cases hstep
      cases attached
      · exact ⟨⟨.sending trivial hslave hframes hreplies, hmessages⟩,
          .of ⟨rfl, rfl⟩ ⟨rfl, rfl⟩ rfl rfl⟩
      · exact ⟨⟨.sending trivial hslave hframes hreplies, hmessages⟩,
          .of ⟨rfl, rfl⟩ ⟨rfl, rfl⟩ rfl rfl⟩
  | drain =>
      obtain ⟨hslave, hframes, hreplies⟩ := hagree.of_sending trivial
      unfold masterStep at hstep
      dsimp only at hstep
      split at hstep
      · cases hstep
        exact ⟨⟨.sending trivial hslave hframes hreplies, hmessages⟩,
          .of ⟨rfl, rfl⟩ ⟨rfl, rfl⟩ rfl rfl⟩
      · rename_i message rest hremove
        cases hstep
        have hitems : master.tx.items = message :: rest.items := Fifo.remove_eq_some.mp hremove
        refine ⟨⟨.sending trivial hslave hframes hreplies, ?_⟩,
          .of ⟨rfl, rfl⟩ ⟨rfl, rfl⟩ ?_ rfl⟩
        · intro other hmem
          refine hmessages other ?_
          show other ∈ [] ++ master.tx.items
          rw [hitems]
          exact hmem
        · rw [missing_master, missing_master]
          simp [MasterPc.outgoing, hitems]
  | waitPin outgoing =>
      obtain ⟨hslave, hframes, hreplies⟩ := hagree.of_sending trivial
      unfold masterStep at hstep
      dsimp only at hstep
      split at hstep
      · cases hstep
        have hsame : (MasterPc.transmit outgoing).outgoing =
            (MasterPc.waitPin outgoing).outgoing := by
          cases outgoing <;> rfl
        refine ⟨⟨.sending trivial hslave hframes hreplies, ?_⟩,
          .of ⟨rfl, rfl⟩ ⟨rfl, rfl⟩ ?_ rfl⟩
        · show ∀ message ∈ (MasterPc.transmit outgoing).outgoing ++ master.tx.items, _
          rw [hsame]
          exact hmessages
        · rw [missing_master, missing_master, hsame]
      · cases hstep
  | transmit outgoing =>
      obtain ⟨hslave, hframes, hreplies⟩ := hagree.of_sending trivial
      cases hstep
      have hframesNext : ∀ frame, slavePc.frame ++ (toSlave ++ [frame]) =
          slavePc.frame ++ toSlave ++ [frame] := by
        intro frame
        rw [List.append_assoc]
      cases outgoing with
      | fromTx message =>
          have hmessage : isMessage message = true := hmessages message List.mem_cons_self
          refine ⟨⟨.sending trivial hslave ?_ hreplies, ?_⟩, .of ⟨rfl, rfl⟩ ⟨rfl, rfl⟩ ?_ rfl⟩
          · intro frame hmem
            have hmem : frame ∈ slavePc.frame ++ (toSlave ++ [message]) := hmem
            rw [hframesNext, List.mem_append, List.mem_singleton] at hmem
            rcases hmem with hold | rfl
            · exact hframes frame hold
            · exact hmessage
          · exact fun other hmem => hmessages other (List.mem_cons_of_mem _ hmem)
          · rw [missing_master, missing_master]
            simp [Outgoing.frame, Outgoing.next, MasterPc.outgoing, hmessage]
      | query =>
          refine ⟨⟨.asked (slavePc.frame ++ toSlave) rfl hslave hframes (hframesNext _) hreplies,
            hmessages⟩, .of ⟨rfl, rfl⟩ ⟨rfl, rfl⟩ ?_ rfl⟩
          rw [missing_master, missing_master]
          simp [Outgoing.next, MasterPc.outgoing, isMessage_query]
  | receiveCount =>
      unfold masterStep at hstep
      dsimp only at hstep
      obtain ⟨⟨frame, rest⟩, hreceive, hnext⟩ := Option.map_eq_some_iff.mp hstep
      have hframe : toMaster = frame :: rest := receiveFrame_eq_some hreceive
      cases hagree with
      | sending hpc => exact hpc.elim
      | replying _ _ hpc => cases hpc
      | asked _ _ _ _ _ hreplies | answering _ _ _ _ hreplies =>
          -- Nothing is on the link before the slave has answered.
          cases hframe.symm.trans hreplies
      | counted recCount remaining replies _ hslave hcount hframes hreplies hsum =>
          obtain ⟨rfl, rfl⟩ := List.cons.inj (hframe.symm.trans hreplies)
          have hnat := toNat_count hcount
          cases hnext
          refine ⟨⟨.replying recCount remaining ?_ hslave hframes hsum, hmessages⟩,
            .of ⟨rfl, rfl⟩ ⟨rfl, rfl⟩ rfl ?_⟩
          · exact congrArg some hnat
          · rw [missing_slave, missing_slave]
            have hreplies : toMaster = countFrame recCount :: rest := hframe
            simp [pendingReplies, countFrame, MasterPc.awaiting, MasterPc.reply, hreplies]
  | receiveReplies recCount =>
      obtain ⟨remaining, hslave, hframes, hsum⟩ := hagree.of_awaiting rfl
      cases recCount with
      | zero =>
          cases hstep
          have hsum : toMaster.length + remaining = 0 := hsum
          have hreplies : toMaster = [] := List.length_eq_zero_iff.mp (by omega)
          have hdone : remaining = 0 := by omega
          subst hdone
          refine ⟨⟨.sending trivial hslave ?_ hreplies, hmessages⟩,
            .of ⟨rfl, rfl⟩ ⟨rfl, rfl⟩ rfl ?_⟩
          · intro frame hmem
            have hmem : frame ∈ pendingFrames
              ⟨master, slave, .receiveReplies 0, slavePc, toSlave, toMaster, waiting, attached⟩ :=
                hmem
            rw [hframes] at hmem
            cases hmem
          · rw [missing_slave, missing_slave]
            simp [pendingReplies, MasterPc.awaiting, MasterPc.reply, hreplies]
      | succ recCount =>
          unfold masterStep at hstep
          dsimp only at hstep
          obtain ⟨⟨frame, rest⟩, hreceive, hnext⟩ := Option.map_eq_some_iff.mp hstep
          have hframe : toMaster = frame :: rest := receiveFrame_eq_some hreceive
          have hsum : toMaster.length + remaining = recCount + 1 := hsum
          rw [hframe, List.length_cons] at hsum
          cases hnext
          refine ⟨⟨.replying recCount remaining rfl hslave hframes ?_, hmessages⟩,
            .of ⟨rfl, rfl⟩ ⟨rfl, rfl⟩ rfl ?_⟩
          · show rest.length + remaining = recCount
            omega
          · rw [missing_slave, missing_slave]
            simp [pendingReplies, MasterPc.awaiting, MasterPc.reply, hframe]
  | addReply message recCount =>
      obtain ⟨remaining, hslave, hframes, hsum⟩ := hagree.of_awaiting rfl
      unfold masterStep at hstep
      dsimp only at hstep
      obtain ⟨rx, hadd, rfl⟩ := Option.map_eq_some_iff.mp hstep
      obtain ⟨-, hitems⟩ := Fifo.add_eq_some.mp hadd
      refine ⟨⟨.replying recCount remaining rfl hslave hframes hsum, hmessages⟩,
        .of ⟨rfl, rfl⟩ ⟨rfl, rfl⟩ rfl ?_⟩
      rw [missing_slave, missing_slave]
      simp [pendingReplies, MasterPc.awaiting, MasterPc.reply, hitems]
  | halted => cases hstep

/-- The round is where it was while what it depends on is the same. -/
theorem Agree.congr {chips next : Chips} (h : Agree chips)
    (hmaster : next.masterPc = chips.masterPc)
    (hslave : next.slavePc.remaining = chips.slavePc.remaining)
    (hcount : ∀ recCount, next.slavePc = .sendCount recCount →
      chips.slavePc = .sendCount recCount ∨ recCount ≤ spiQueueMaxCapacity)
    (hframes : pendingFrames next = pendingFrames chips)
    (hreplies : next.toMaster = chips.toMaster) : Agree next := by
  cases h with
  | sending hpc hremaining hall hnone =>
      refine .sending ?_ (hslave.trans hremaining) ?_ (hreplies.trans hnone)
      · rw [hmaster]
        exact hpc
      · rw [hframes]
        exact hall
  | asked front hpc hremaining hfront hall hnone =>
      exact .asked front (hmaster.trans hpc) (hslave.trans hremaining) hfront (hframes.trans hall)
        (hreplies.trans hnone)
  | answering hpc hremaining hle hall hnone =>
      exact .answering (hmaster.trans hpc) (hslave.trans hremaining)
        (fun recCount hsend => (hcount recCount hsend).elim (hle recCount) id) (hframes.trans hall)
        (hreplies.trans hnone)
  | counted recCount remaining replies hpc hremaining hle hall hlink hsum =>
      exact .counted recCount remaining replies (hmaster.trans hpc) (hslave.trans hremaining) hle
        (hframes.trans hall) (hreplies.trans hlink) hsum
  | replying recCount remaining hpc hremaining hall hsum =>
      refine .replying recCount remaining ?_ (hslave.trans hremaining) (hframes.trans hall) ?_
      · rw [hmaster]
        exact hpc
      · rw [hreplies]
        exact hsum

/-- A message that the slave has received goes to `rx`; the round goes on. -/
theorem Agree.processed {chips next : Chips} (h : Agree chips) {frame : SpiMessage}
    (hmessage : isMessage frame = true) (hmaster : next.masterPc = chips.masterPc)
    (hremaining : next.slavePc.remaining = some 0)
    (hframes : pendingFrames chips = frame :: pendingFrames next)
    (hreplies : next.toMaster = chips.toMaster) : Agree next := by
  cases h with
  | sending hpc _ hall hnone =>
      refine .sending ?_ hremaining (fun other hmem => hall other ?_) (hreplies.trans hnone)
      · rw [hmaster]
        exact hpc
      · rw [hframes]
        exact List.mem_cons_of_mem _ hmem
  | asked front hpc _ hfront hall hnone =>
      cases front with
      | nil =>
          obtain ⟨rfl, -⟩ := List.cons.inj (hframes.symm.trans hall)
          cases hmessage.symm.trans isMessage_query
      | cons first rest =>
          obtain ⟨-, hrest⟩ := List.cons.inj (hframes.symm.trans hall)
          exact .asked rest (hmaster.trans hpc) hremaining
            (fun other hmem => hfront other (List.mem_cons_of_mem _ hmem)) hrest
            (hreplies.trans hnone)
  | answering _ _ _ hall | counted _ _ _ _ _ _ hall | replying _ _ _ _ hall =>
      cases hframes.symm.trans hall

/-- A query that the slave has received is the last frame of the master's half. -/
theorem Agree.queried {chips next : Chips} (h : Agree chips) {frame : SpiMessage}
    (hquery : isMessage frame = false) (hmaster : next.masterPc = chips.masterPc)
    (hslave : next.slavePc = .readLevel) (hframes : pendingFrames chips = frame :: next.toSlave)
    (hreplies : next.toMaster = chips.toMaster) : Agree next := by
  cases h with
  | sending _ _ hall =>
      have hmessage := hall frame (by rw [hframes]; exact List.mem_cons_self)
      cases hmessage.symm.trans hquery
  | asked front hpc _ hfront hall hnone =>
      cases front with
      | nil =>
          obtain ⟨-, hrest⟩ := List.cons.inj (hframes.symm.trans hall)
          refine .answering (hmaster.trans hpc) ?_ ?_ ?_ (hreplies.trans hnone)
          · rw [hslave]
            rfl
          · intro recCount hcount
            cases hslave.symm.trans hcount
          · unfold pendingFrames
            rw [hslave, hrest]
            rfl
      | cons first rest =>
          obtain ⟨rfl, -⟩ := List.cons.inj (hframes.symm.trans hall)
          cases (hfront _ List.mem_cons_self).symm.trans hquery
  | answering _ _ _ hall | counted _ _ _ _ _ _ hall | replying _ _ _ _ hall =>
      cases hframes.symm.trans hall

/-- A step of core 1 of the slave. -/
theorem slaveStep_moved {chips next : Chips} (h : InStep chips)
    (hstep : slaveStep chips = some next) : InStep next ∧ Moved chips next := by
  obtain ⟨master, slave, masterPc, slavePc, toSlave, toMaster, waiting, attached⟩ := chips
  obtain ⟨hagree, hmessages⟩ := h
  cases slavePc with
  | raisePin =>
      cases hstep
      exact ⟨⟨hagree.congr rfl rfl nofun rfl rfl, hmessages⟩, .of ⟨rfl, rfl⟩ ⟨rfl, rfl⟩ rfl rfl⟩
  | receive =>
      unfold slaveStep at hstep
      dsimp only at hstep
      obtain ⟨⟨frame, rest⟩, hreceive, rfl⟩ := Option.map_eq_some_iff.mp hstep
      have hframe : toSlave = frame :: rest := receiveFrame_eq_some hreceive
      subst hframe
      exact ⟨⟨hagree.congr rfl rfl nofun rfl rfl, hmessages⟩, .of ⟨rfl, rfl⟩ ⟨rfl, rfl⟩ rfl rfl⟩
  | lowerPin frame =>
      cases hstep
      exact ⟨⟨hagree.congr rfl rfl nofun rfl rfl, hmessages⟩, .of ⟨rfl, rfl⟩ ⟨rfl, rfl⟩ rfl rfl⟩
  | process frame =>
      unfold slaveStep at hstep
      dsimp only at hstep
      split at hstep
      · rename_i hflag
        cases hstep
        have hquery : isMessage frame = false := by simpa [isMessage] using hflag
        refine ⟨⟨hagree.queried hquery rfl rfl rfl rfl, hmessages⟩,
          .of ⟨rfl, rfl⟩ ⟨rfl, rfl⟩ ?_ rfl⟩
        rw [missing_master, missing_master]
        simp [SlavePc.frame, hquery]
      · rename_i hflag
        have hmessage : isMessage frame = true := by simpa [isMessage] using hflag
        obtain ⟨rx, hadd, rfl⟩ := Option.map_eq_some_iff.mp hstep
        obtain ⟨-, hitems⟩ := Fifo.add_eq_some.mp hadd
        refine ⟨⟨hagree.processed hmessage rfl rfl rfl rfl, hmessages⟩,
          .of ⟨rfl, rfl⟩ ⟨rfl, rfl⟩ ?_ rfl⟩
        rw [missing_master, missing_master]
        simp [SlavePc.frame, hmessage, hitems]
  | readLevel =>
      cases hstep
      refine ⟨⟨hagree.congr rfl rfl ?_ rfl rfl, hmessages⟩, .of ⟨rfl, rfl⟩ ⟨rfl, rfl⟩ rfl rfl⟩
      rintro _ ⟨⟩
      exact .inr slave.tx.bounded
  | sendCount recCount =>
      cases hstep
      cases hagree with
      | sending _ hslave | asked _ _ hslave | counted _ _ _ _ hslave | replying _ _ _ hslave =>
          cases hslave
      | answering hmaster _ hcount hframes hreplies =>
          have hreplies : toMaster = [] := hreplies
          have hmaster : masterPc = .receiveCount := hmaster
          subst hreplies hmaster
          exact ⟨⟨.counted recCount recCount [] rfl rfl (hcount recCount rfl) hframes rfl
            (Nat.zero_add _), hmessages⟩, .of ⟨rfl, rfl⟩ ⟨rfl, rfl⟩ rfl rfl⟩
  | sendReplies recCount =>
      cases recCount with
      | zero =>
          cases hstep
          exact ⟨⟨hagree.congr rfl rfl nofun rfl rfl, hmessages⟩,
            .of ⟨rfl, rfl⟩ ⟨rfl, rfl⟩ rfl rfl⟩
      | succ recCount =>
          unfold slaveStep at hstep
          dsimp only at hstep
          obtain ⟨⟨message, rest⟩, hremove, rfl⟩ := Option.map_eq_some_iff.mp hstep
          have hitems := Fifo.remove_eq_some.mp hremove
          refine ⟨⟨hagree.congr rfl rfl nofun rfl rfl, hmessages⟩,
            .of ⟨rfl, rfl⟩ ⟨rfl, rfl⟩ rfl ?_⟩
          rw [missing_slave, missing_slave]
          simp [SlavePc.reply, pendingReplies, hitems]
  | transmit message recCount =>
      cases hstep
      cases hagree with
      | sending _ hslave | asked _ _ hslave | answering _ hslave => cases hslave
      | counted total remaining replies hmaster hslave hcount hframes hreplies hsum =>
          cases hslave
          have hreplies : toMaster = countFrame total :: replies := hreplies
          have hmaster : masterPc = .receiveCount := hmaster
          subst hreplies hmaster
          refine ⟨⟨.counted total recCount (replies ++ [message]) rfl rfl hcount hframes rfl ?_,
            hmessages⟩, .of ⟨rfl, rfl⟩ ⟨rfl, rfl⟩ rfl ?_⟩
          · rw [List.length_append, List.length_singleton]
            omega
          · rw [missing_slave, missing_slave]
            simp [SlavePc.reply, pendingReplies, MasterPc.awaiting]
      | replying total remaining hmaster hslave hframes hsum =>
          cases hslave
          have hmaster : masterPc.awaiting = some total := hmaster
          have hsum : toMaster.length + (recCount + 1) = total := hsum
          refine ⟨⟨.replying total recCount hmaster rfl hframes ?_, hmessages⟩,
            .of ⟨rfl, rfl⟩ ⟨rfl, rfl⟩ rfl ?_⟩
          · show (toMaster ++ [message]).length + recCount = total
            rw [List.length_append, List.length_singleton]
            omega
          · rw [missing_slave, missing_slave]
            simp [SlavePc.reply, pendingReplies, hmaster]

/-! ## The link as two channels -/

/-- What the link is for: a channel from each chip to the other. -/
abbrev Mail := SpiRole → Channel SpiMessage

/-- The use of the channels: a chip sends a message, or receives one. -/
inductive MailAction where
  | send (sender : SpiRole) (message : SpiMessage)
  | receive (receiver : SpiRole)

/-- One use of the channels. -/
def mailStep (mail : Mail) : MailAction → Option Mail
  | .send sender message => some (Function.update mail sender ((mail sender).send message))
  | .receive receiver => (mail receiver.other).receive.map (Function.update mail receiver.other)

/-- The channel of a sender shows what its two ends have seen, and what is missing. -/
structure Shows (chips : Chips) (sender : SpiRole) (channel : Channel SpiMessage) : Prop where
  sent : channel.sent = (chips.chip sender).enqueued
  received : channel.received = (chips.chip sender.other).dequeued
  inside : channel.inside = missing chips sender

/-- The two halves are in step, and the channels show what they do. -/
structure Implements (chips : Chips) (mail : Mail) : Prop where
  inStep : InStep chips
  shows : ∀ sender, Shows chips sender (mail sender)

theorem SpiRole.eq_other {first second : SpiRole} (h : first ≠ second) : first = second.other := by
  cases first <;> cases second <;> first | rfl | exact absurd rfl h

@[simp] theorem SpiRole.other_other (role : SpiRole) : role.other.other = role := by
  cases role <;> rfl

@[simp] theorem chip_setChip (chips : Chips) (role : SpiRole) (chip : Chip) :
    (chips.setChip role chip).chip role = chip := by
  cases role <;> rfl

@[simp] theorem chip_setChip_other (chips : Chips) (role : SpiRole) (chip : Chip) :
    (chips.setChip role chip).chip role.other = chips.chip role.other := by
  cases role <;> rfl

@[simp] theorem inTransit_setChip (chips : Chips) (role : SpiRole) (chip : Chip) :
    inTransit (chips.setChip role chip) = inTransit chips := by
  cases role <;> rfl

/-- Core 0 does not change the round. -/
theorem Agree.setChip {chips : Chips} (h : Agree chips) (role : SpiRole) (chip : Chip) :
    Agree (chips.setChip role chip) := by
  cases role <;> exact h.congr rfl rfl (fun _ => .inl) rfl rfl

/-- A message that core 0 enqueues goes to the end of what is missing. -/
theorem enqueue_shows {chips : Chips} {mail : Mail} (h : ∀ sender, Shows chips sender (mail sender))
    {role : SpiRole} {message : SpiMessage} {chip : Chip}
    (henqueue : (chips.chip role).enqueue message = some chip) (sender : SpiRole) :
    Shows (chips.setChip role chip) sender
      (Function.update mail role ((mail role).send message) sender) := by
  obtain ⟨tx, hadd, rfl⟩ := Option.map_eq_some_iff.mp henqueue
  obtain ⟨-, hitems⟩ := Fifo.add_eq_some.mp hadd
  obtain ⟨hsent, hreceived, hinside⟩ := h sender
  by_cases hsame : sender = role
  · subst hsame
    rw [Function.update_self]
    refine ⟨?_, ?_, ?_⟩
    · rw [chip_setChip]
      exact congrArg (· ++ [message]) hsent
    · rw [chip_setChip_other]
      exact hreceived
    · unfold missing
      rw [chip_setChip_other, inTransit_setChip, chip_setChip]
      show (mail sender).inside ++ [message] = _ ++ tx.items
      rw [hinside, hitems, ← List.append_assoc]
      rfl
  · rw [Function.update_of_ne hsame]
    obtain rfl := SpiRole.eq_other hsame
    refine ⟨?_, ?_, ?_⟩
    · rw [chip_setChip_other]
      exact hsent
    · rw [SpiRole.other_other, chip_setChip]
      rw [SpiRole.other_other] at hreceived
      exact hreceived
    · rw [hinside]
      unfold missing
      rw [SpiRole.other_other, chip_setChip, inTransit_setChip, chip_setChip_other]

/-- A message that core 0 dequeues is the first of what is missing. -/
theorem dequeue_shows {chips : Chips} {mail : Mail} (h : ∀ sender, Shows chips sender (mail sender))
    (role : SpiRole) :
    ∃ taken last, Machine.run mailStep mail taken = some last ∧
      ∀ sender, Shows (chips.setChip role (chips.chip role).dequeue) sender (last sender) := by
  cases hremove : (chips.chip role).rx.remove with
  | none =>
      have hsame : chips.setChip role (chips.chip role).dequeue = chips := by
        unfold Chip.dequeue
        rw [hremove]
        cases role <;> rfl
      rw [hsame]
      exact ⟨[], mail, rfl, h⟩
  | some head =>
      obtain ⟨message, rest⟩ := head
      have hitems := Fifo.remove_eq_some.mp hremove
      have hdequeue : (chips.chip role).dequeue =
          { chips.chip role with
            rx := rest, dequeued := (chips.chip role).dequeued ++ [message] } := by
        unfold Chip.dequeue
        rw [hremove]
      obtain ⟨hsent, hreceived, hinside⟩ := h role.other
      unfold missing at hinside
      rw [SpiRole.other_other] at hreceived hinside
      rw [hitems, List.cons_append, List.cons_append] at hinside
      obtain ⟨next, hreceive, hnextSent, hnextReceived, hnextInside⟩ :=
        Channel.receive_cons hinside
      have hrun : Machine.run mailStep mail [.receive role] =
          some (Function.update mail role.other next) := by
        rw [Machine.run_cons]
        show ((mail role.other).receive.map _).bind _ = _
        rw [hreceive]
        rfl
      refine ⟨[.receive role], _, hrun, fun sender => ?_⟩
      rw [hdequeue]
      by_cases hsame : sender = role.other
      · subst hsame
        rw [Function.update_self]
        refine ⟨?_, ?_, ?_⟩
        · rw [chip_setChip_other]
          exact hnextSent.trans hsent
        · rw [SpiRole.other_other, chip_setChip, hnextReceived, hreceived]
        · unfold missing
          rw [SpiRole.other_other, chip_setChip, inTransit_setChip, chip_setChip_other]
          exact hnextInside
      · rw [Function.update_of_ne hsame]
        have hrole : sender = role := by
          rw [SpiRole.eq_other hsame, SpiRole.other_other]
        subst hrole
        obtain ⟨hsent, hreceived, hinside⟩ := h sender
        refine ⟨?_, ?_, ?_⟩
        · rw [chip_setChip]
          exact hsent
        · rw [chip_setChip_other]
          exact hreceived
        · rw [hinside]
          unfold missing
          rw [chip_setChip_other, inTransit_setChip, chip_setChip]

/-- Core 1 works behind the channels. -/
theorem Moved.shows {chips next : Chips} (h : Moved chips next) {sender : SpiRole}
    {channel : Channel SpiMessage} (hchips : Shows chips sender channel) :
    Shows next sender channel :=
  ⟨hchips.sent.trans (h.enqueued sender).symm,
    hchips.received.trans (h.dequeued sender.other).symm,
    hchips.inside.trans (h.kept sender).symm⟩

/-- The master's core 0 enqueues no message that looks like a query. -/
def NoQuery : Action → Prop
  | .enqueue .master message => ¬ hasFlag message.eFlag MsgType.slaveDataQuery
  | _ => True

instance : DecidablePred NoQuery := fun action => by
  cases action with
  | enqueue role message => cases role <;> unfold NoQuery <;> infer_instance
  | _ => exact isTrue trivial

/-- Every step of the link is a use of the channels, or none. -/
theorem step_implements {chips next : Chips} {action : Action} {mail : Mail}
    (h : Implements chips mail) (haction : NoQuery action) (hstep : step chips action = some next) :
    ∃ taken last, Machine.run mailStep mail taken = some last ∧ Implements next last := by
  obtain ⟨hinStep, hshows⟩ := h
  cases action with
  | enqueue role message =>
      obtain ⟨chip, henqueue, rfl⟩ := Option.map_eq_some_iff.mp hstep
      refine ⟨[.send role message], _, rfl, ⟨hinStep.agree.setChip role chip, ?_⟩,
        enqueue_shows hshows henqueue⟩
      obtain ⟨tx, hadd, rfl⟩ := Option.map_eq_some_iff.mp henqueue
      obtain ⟨-, hitems⟩ := Fifo.add_eq_some.mp hadd
      cases role with
      | slave => exact hinStep.messages
      | master =>
          intro other hmem
          have hmem : other ∈ chips.masterPc.outgoing ++ tx.items := hmem
          have hitems : tx.items = chips.master.tx.items ++ [message] := hitems
          rw [hitems, ← List.append_assoc, List.mem_append, List.mem_singleton] at hmem
          rcases hmem with hold | rfl
          · exact hinStep.messages other hold
          · have hflag : ¬ hasFlag other.eFlag MsgType.slaveDataQuery := haction
            simpa [isMessage] using hflag
  | dequeue role =>
      cases hstep
      obtain ⟨taken, last, hrun, hlast⟩ := dequeue_shows hshows role
      refine ⟨taken, last, hrun, ⟨hinStep.agree.setChip role _, ?_⟩, hlast⟩
      cases role with
      | slave => exact hinStep.messages
      | master =>
          have htx : chips.master.dequeue.tx = chips.master.tx := by
            unfold Chip.dequeue
            split <;> rfl
          intro other hmem
          have hmem : other ∈ chips.masterPc.outgoing ++ chips.master.dequeue.tx.items := hmem
          rw [htx] at hmem
          exact hinStep.messages other hmem
  | core1 role =>
      have hmoved : InStep next ∧ Moved chips next := by
        cases role with
        | master => exact masterStep_moved hinStep hstep
        | slave => exact slaveStep_moved hinStep hstep
      exact ⟨[], mail, rfl, hmoved.1, fun sender => hmoved.2.shows (hshows sender)⟩
  | attach level =>
      cases hstep
      refine ⟨[], mail, rfl, ⟨hinStep.agree.congr rfl rfl (fun _ => .inl) rfl rfl,
        hinStep.messages⟩, fun sender => ?_⟩
      obtain ⟨hsent, hreceived, hinside⟩ := hshows sender
      cases sender <;> exact ⟨hsent, hreceived, hinside⟩

/-- Every run of the link is a use of the two channels. -/
theorem implements_of_run {actions : List Action} {chips : Chips}
    (hactions : ∀ action ∈ actions, NoQuery action)
    (hrun : Machine.run step init actions = some chips) : ∃ mail, Implements chips mail := by
  have hinStep : InStep init := ⟨.sending trivial rfl nofun rfl, nofun⟩
  have hinit : Implements init (fun _ => .empty) := by
    refine ⟨hinStep, fun sender => ?_⟩
    cases sender <;> exact ⟨rfl, rfl, rfl⟩
  obtain ⟨_, mail, -, -, himplements⟩ :=
    Machine.run_simulation (R := Implements) (Q := fun _ => True)
      (fun _ _ _ _ h hok hstep => by
        obtain ⟨taken, last, htaken, hlast⟩ := step_implements h hok hstep
        exact ⟨taken, last, fun _ _ => trivial, htaken, hlast⟩) hinit hactions hrun
  exact ⟨mail, himplements⟩

/-- What has left a channel and what is inside it is what was put into it. -/
theorem Implements.delivered {chips : Chips} {mail : Mail} (h : Implements chips mail)
    (sender : SpiRole) : Delivered chips sender := by
  obtain ⟨hsent, hreceived, hinside⟩ := h.2 sender
  refine ⟨?_, ?_⟩
  · rw [← hsent, ← hreceived]
    exact (mail sender).received_ordered
  · rw [← hsent, ← hreceived, ← hinside]
    exact (mail sender).accounted

/-- The master's assertion on the length of the count frame holds in every run. -/
theorem not_halted_of_run {actions : List Action} {chips : Chips}
    (hactions : ∀ action ∈ actions, NoQuery action)
    (hrun : Machine.run step init actions = some chips) : chips.masterPc ≠ .halted := by
  obtain ⟨mail, hinStep, -⟩ := implements_of_run hactions hrun
  intro hhalted
  cases hinStep.agree with
  | sending hpc =>
      rw [hhalted] at hpc
      exact hpc
  | asked _ hpc | answering hpc | counted _ _ _ hpc => cases hhalted.symm.trans hpc
  | replying recCount _ hpc =>
      rw [hhalted] at hpc
      cases hpc

/-- In every run in which the master enqueues no message that looks like a query, messages arrive
once and in order in both directions, and what is missing is still on its way. -/
theorem delivered_of_run {actions : List Action} {chips : Chips}
    (hactions : ∀ action ∈ actions, NoQuery action)
    (hrun : Machine.run step init actions = some chips) (sender : SpiRole) :
    Delivered chips sender := by
  obtain ⟨mail, himplements⟩ := implements_of_run hactions hrun
  exact himplements.delivered sender

/-- A message from each side. -/
def setupPacket : SpiMessage := ⟨MsgType.setupData, [0x80, 6, 0, 1, 0, 0, 18, 0], by decide⟩
def setupReply : SpiMessage := ⟨MsgType.isPacket ||| MsgType.setupData, [18, 1, 0x80], by decide⟩

/-- Core 1 of a chip takes some steps. -/
def turns (role : SpiRole) (count : Nat) : List Action := List.replicate count (.core1 role)

/-- A round in which the master sends a setup packet and the slave a reply. -/
def oneRound : List Action :=
  [.attach true, .enqueue .master setupPacket, .enqueue .slave setupReply] ++
    turns .slave 1 ++ turns .master 4 ++ turns .slave 4 ++ turns .master 3 ++ turns .slave 8 ++
    turns .master 4 ++ [.dequeue .slave, .dequeue .master]

theorem oneRound_delivered :
    ∃ chips, Machine.run step init oneRound = some chips ∧
      (∀ sender, Delivered chips sender) ∧
      chips.slave.dequeued = [setupPacket] ∧ chips.master.dequeued = [setupReply] := by
  have hactions : ∀ action ∈ oneRound, NoQuery action := by decide +kernel
  have hends : ∃ chips, Machine.run step init oneRound = some chips ∧
      (chips.slave.dequeued = [setupPacket] ∧ chips.master.dequeued = [setupReply]) :=
    Machine.exists_run_of_any (by decide +kernel)
  obtain ⟨chips, hrun, hends⟩ := hends
  exact ⟨chips, hrun, delivered_of_run hactions hrun, hends⟩

end UsbSec.Link
