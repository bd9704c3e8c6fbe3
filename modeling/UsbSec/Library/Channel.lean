import Mathlib.Data.List.Basic

/-!
# Channels that lose nothing

A channel keeps what was sent, what was received, and what is inside it, together with the proof
that these account for each other: everything sent was received or is still inside, in order. It
is the abstract view of any arrangement of queues and wires that hands items on.
-/

namespace UsbSec.Library

/-- A first-in first-out channel with its history. -/
structure Channel (α : Type) where
  sent : List α
  received : List α
  inside : List α
  accounted : sent = received ++ inside

namespace Channel

variable {α : Type}

/-- A channel that was not used yet. -/
def empty : Channel α := ⟨[], [], [], rfl⟩

/-- Put an item in. -/
def send (channel : Channel α) (item : α) : Channel α where
  sent := channel.sent ++ [item]
  received := channel.received
  inside := channel.inside ++ [item]
  accounted := by rw [channel.accounted, List.append_assoc]

/-- Take the oldest item out, when there is one. -/
def receive (channel : Channel α) : Option (Channel α) :=
  match h : channel.inside with
  | [] => none
  | item :: rest =>
      some
        { sent := channel.sent
          received := channel.received ++ [item]
          inside := rest
          accounted := by rw [channel.accounted, h, List.append_assoc, List.singleton_append] }

/-- What was received is a prefix of what was sent: nothing is lost, duplicated or reordered. -/
theorem received_ordered (channel : Channel α) : channel.received <+: channel.sent :=
  ⟨channel.inside, channel.accounted.symm⟩

/-- Receiving takes the first item inside. -/
theorem receive_cons {channel : Channel α} {item : α} {rest : List α}
    (h : channel.inside = item :: rest) :
    ∃ next, channel.receive = some next ∧ next.sent = channel.sent ∧
      next.received = channel.received ++ [item] ∧ next.inside = rest := by
  unfold receive
  split
  · rename_i hnil
    cases h.symm.trans hnil
  · rename_i first others hcons
    cases h.symm.trans hcons
    exact ⟨_, rfl, rfl, rfl, rfl⟩

end Channel

end UsbSec.Library
