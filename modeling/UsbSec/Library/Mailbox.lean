import Mathlib.Data.List.Basic

/-!
# A place for one item

Items are put into a place, each over the one that was there, and one is taken from it now and then.
What has been taken comes from what was put in, in the same order and each item once, whatever is
lost in between.
-/

namespace UsbSec.Library

variable {α : Type} {given taken : List α} {place : Option α}

/-- What has been taken, with what is in the place behind it, was given in this order. -/
def Passes (given taken : List α) (place : Option α) : Prop := (taken ++ place.toList).Sublist given

theorem Passes.taken_sublist (h : Passes given taken place) : taken.Sublist given :=
  (List.sublist_append_left taken place.toList).trans h

/-- An item is put into the place. -/
theorem Passes.put (h : Passes given taken place) (item : α) :
    Passes (given ++ [item]) taken (some item) :=
  h.taken_sublist.append (List.Sublist.refl _)

/-- Items are given that do not come to the place. -/
theorem Passes.more (h : Passes given taken place) (more : List α) :
    Passes (given ++ more) taken place := h.trans (List.sublist_append_left given more)

theorem Passes.clear (h : Passes given taken place) : Passes given taken none := by
  unfold Passes
  rw [Option.toList_none, List.append_nil]
  exact h.taken_sublist

/-- The item in the place is taken. -/
theorem Passes.take {item : α} (h : Passes given taken (some item)) :
    Passes given (taken ++ [item]) none := by
  unfold Passes
  rw [Option.toList_none, List.append_nil]
  exact h

end UsbSec.Library
