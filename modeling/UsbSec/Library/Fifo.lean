/-!
# Bounded first-in first-out queues

A queue that carries the proof that it holds at most `capacity` items. `add` has no result on a
full queue and `remove` none on an empty one: where the queue is used, that is where the caller
has to wait. Both keep the order of the items.
-/

namespace UsbSec.Library

/-- A queue of at most `capacity` items, oldest first. -/
structure Fifo (α : Type) (capacity : Nat) where
  items : List α
  bounded : items.length ≤ capacity

namespace Fifo

variable {α : Type} {capacity : Nat}

@[ext] theorem ext {first second : Fifo α capacity} (h : first.items = second.items) :
    first = second := by
  cases first
  cases second
  cases h
  rfl

/-- The queue without items. -/
def empty : Fifo α capacity := ⟨[], Nat.zero_le _⟩

/-- The number of items in the queue. -/
def level (queue : Fifo α capacity) : Nat := queue.items.length

/-- The queue has no place left. -/
def Full (queue : Fifo α capacity) : Prop := queue.items.length = capacity

instance (queue : Fifo α capacity) : Decidable queue.Full :=
  inferInstanceAs (Decidable (_ = _))

/-- Put an item at the end, when there is a place for it. -/
def add (queue : Fifo α capacity) (item : α) : Option (Fifo α capacity) :=
  if h : queue.items.length < capacity then
    some ⟨queue.items ++ [item], by simpa [Nat.succ_le_iff] using h⟩
  else none

/-- Take the oldest item, when there is one. -/
def remove : Fifo α capacity → Option (α × Fifo α capacity)
  | ⟨[], _⟩ => none
  | ⟨item :: rest, h⟩ => some (item, ⟨rest, Nat.le_of_succ_le h⟩)

/-- The queue from the first item on that does not satisfy `drop`. -/
def dropWhile (queue : Fifo α capacity) (drop : α → Bool) : Fifo α capacity :=
  ⟨queue.items.dropWhile drop,
    Nat.le_trans (List.dropWhile_suffix drop).length_le queue.bounded⟩

@[simp] theorem dropWhile_items (queue : Fifo α capacity) (drop : α → Bool) :
    (queue.dropWhile drop).items = queue.items.dropWhile drop := rfl

@[simp] theorem empty_items : (empty : Fifo α capacity).items = [] := rfl

theorem add_eq_some {queue next : Fifo α capacity} {item : α} :
    queue.add item = some next ↔
      queue.items.length < capacity ∧ next.items = queue.items ++ [item] := by
  unfold add
  split
  · rename_i h
    rw [Option.some.injEq]
    constructor
    · rintro rfl
      exact ⟨h, rfl⟩
    · rintro ⟨-, hitems⟩
      exact Fifo.ext hitems.symm
  · rename_i h
    simp [h]

theorem add_eq_none {queue : Fifo α capacity} {item : α} :
    queue.add item = none ↔ queue.Full := by
  have hbounded := queue.bounded
  unfold add Full
  split <;> simp <;> omega

theorem remove_eq_some {queue next : Fifo α capacity} {item : α} :
    queue.remove = some (item, next) ↔ queue.items = item :: next.items := by
  obtain ⟨items, hbounded⟩ := queue
  cases items with
  | nil => simp [remove]
  | cons head rest =>
      simp only [remove, Option.some.injEq, Prod.mk.injEq, List.cons.injEq]
      constructor
      · rintro ⟨rfl, rfl⟩
        exact ⟨rfl, rfl⟩
      · rintro ⟨rfl, hrest⟩
        exact ⟨rfl, Fifo.ext hrest⟩

theorem remove_eq_none {queue : Fifo α capacity} :
    queue.remove = none ↔ queue.items = [] := by
  obtain ⟨items, hbounded⟩ := queue
  cases items <;> simp [remove]

end Fifo

end UsbSec.Library
