import Mathlib.Logic.Function.Basic

/-!
# Regions handed out by a moving pointer

An allocator that hands out the memory at a pointer and then moves the pointer behind it. `Placed`
says that the regions in use lie between the start of the memory and the pointer, begin at
multiples of a unit, and do not overlap. Handing out one more region keeps it, also when it
replaces a region in use, and so does starting again with no region in use.
-/

namespace UsbSec.Library

/-- The memory from `base` on, `size` bytes long. -/
structure Region where
  base : Nat
  size : Nat
  deriving DecidableEq

namespace Region

/-- The index behind the region. -/
def finish (region : Region) : Nat := region.base + region.size

/-- The index lies in the region. -/
def Contains (region : Region) (i : Nat) : Prop := region.base ≤ i ∧ i < region.finish

/-- The two regions do not overlap. -/
def Apart (first second : Region) : Prop :=
  first.finish ≤ second.base ∨ second.finish ≤ first.base

end Region

/-- The regions in use, one at most for each index, are placed between `low` and `next`. -/
structure Placed {ι : Type} (unit low next : Nat) (regions : ι → Option Region) : Prop where
  pointer_aligned : unit ∣ next
  low_le_pointer : low ≤ next
  aligned : ∀ i region, regions i = some region → unit ∣ region.base
  low_le : ∀ i region, regions i = some region → low ≤ region.base
  finish_le : ∀ i region, regions i = some region → region.finish ≤ next
  apart : ∀ i j first second, i ≠ j → regions i = some first → regions j = some second →
    first.Apart second

namespace Placed

variable {ι : Type} {unit low next : Nat} {regions : ι → Option Region}

/-- With no region in use the pointer is back at the start. -/
theorem none (hlow : unit ∣ low) : Placed unit low low (fun _ : ι => Option.none) where
  pointer_aligned := hlow
  low_le_pointer := Nat.le_refl low
  aligned := nofun
  low_le := nofun
  finish_le := nofun
  apart := nofun

/-- The region at the pointer can be handed out for any index. -/
theorem allocate [DecidableEq ι] (h : Placed unit low next regions) (index : ι) {size : Nat}
    (hsize : unit ∣ size) :
    Placed unit low (next + size) (Function.update regions index (some ⟨next, size⟩)) := by
  have hcases : ∀ i region, Function.update regions index (some ⟨next, size⟩) i = some region →
      (i = index ∧ region = ⟨next, size⟩) ∨ (i ≠ index ∧ regions i = some region) := by
    intro i region hregion
    by_cases hi : i = index
    · rw [hi, Function.update_self, Option.some.injEq] at hregion
      exact .inl ⟨hi, hregion.symm⟩
    · rw [Function.update_of_ne hi] at hregion
      exact .inr ⟨hi, hregion⟩
  constructor
  case pointer_aligned => exact Nat.dvd_add h.pointer_aligned hsize
  case low_le_pointer => exact Nat.le_trans h.low_le_pointer (Nat.le_add_right _ _)
  case aligned =>
    intro i region hregion
    rcases hcases i region hregion with ⟨-, rfl⟩ | ⟨-, hold⟩
    · exact h.pointer_aligned
    · exact h.aligned i region hold
  case low_le =>
    intro i region hregion
    rcases hcases i region hregion with ⟨-, rfl⟩ | ⟨-, hold⟩
    · exact h.low_le_pointer
    · exact h.low_le i region hold
  case finish_le =>
    intro i region hregion
    rcases hcases i region hregion with ⟨-, rfl⟩ | ⟨-, hold⟩
    · exact Nat.le_refl _
    · exact Nat.le_trans (h.finish_le i region hold) (Nat.le_add_right _ _)
  case apart =>
    intro i j first second hne hfirst hsecond
    -- A region in use ends at or before the pointer, where the new one begins.
    rcases hcases i first hfirst with ⟨hi, rfl⟩ | ⟨hi, hold⟩
    · rcases hcases j second hsecond with ⟨hj, -⟩ | ⟨-, hold⟩
      · exact absurd (hi.trans hj.symm) hne
      · exact .inr (h.finish_le j second hold)
    · rcases hcases j second hsecond with ⟨-, rfl⟩ | ⟨-, hold'⟩
      · exact .inl (h.finish_le i first hold)
      · exact h.apart i j first second hne hold hold'

end Placed

end UsbSec.Library
