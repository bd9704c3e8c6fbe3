import UsbSec.Library.Program

/-!
# Logs

A log is a list in the state to which programs only add. Most of its entries are of no interest to
a given property: `picked log pick` is what `pick` makes of the others. A program that adds one
entry of interest does so at one place, and what comes before and after it adds nothing.
-/

namespace UsbSec.Library

section Picked

variable {σ β γ : Type} {log : σ → List β} {pick : β → Option γ} {state next : σ}

/-- What is of interest in a log. -/
def picked (log : σ → List β) (pick : β → Option γ) (state : σ) : List γ :=
  (log state).filterMap pick

theorem filterMap_concat (pick : β → Option γ) (entries : List β) (entry : β) :
    (entries ++ [entry]).filterMap pick = entries.filterMap pick ++ (pick entry).toList := by
  rw [List.filterMap_append, List.filterMap_cons, List.filterMap_nil]
  cases pick entry <;> rfl

theorem picked_congr (h : log next = log state) :
    picked log pick next = picked log pick state := by
  unfold picked
  rw [h]

theorem picked_concat {entry : β} (h : log next = log state ++ [entry]) :
    picked log pick next = picked log pick state ++ (pick entry).toList := by
  unfold picked
  rw [h, filterMap_concat]

/-- An entry that is of no interest. -/
theorem picked_skip {entry : β} (h : log next = log state ++ [entry]) (hnone : pick entry = none) :
    picked log pick next = picked log pick state := by
  rw [picked_concat h, hnone, Option.toList_none, List.append_nil]

end Picked

namespace Program

variable {ε σ α β γ : Type} {view : σ → List γ} {entry : Option γ}

/-- The view of the state has one more entry at its end, or is the same. -/
def Adds (view : σ → List γ) (entry : Option γ) (state next : σ) : Prop :=
  view next = view state ++ entry.toList

theorem adds_none {state next : σ} : Adds view none state next ↔ Same view state next := by
  unfold Adds Same
  rw [Option.toList_none, List.append_nil]

/-- What adds nothing may follow. -/
theorem Adds.same {state middle next : σ} (h : Adds view entry state middle)
    (hsame : Same view middle next) : Adds view entry state next := Eq.trans hsame h

/-- What adds nothing may come before. -/
theorem Adds.after {state middle next : σ} (hsame : Same view state middle)
    (h : Adds view entry middle next) : Adds view entry state next := by
  unfold Adds at *
  rw [h, hsame]

/-- The first half of a program adds an entry, and the rest of it nothing. -/
theorem Moves.adds_bind {program : Program ε σ α} {next : α → Program ε σ β}
    (hprogram : Moves (Adds view entry) program) (hnext : ∀ value, Moves (Same view) (next value)) :
    Moves (Adds view entry) (program >>= next) :=
  .bind_of hprogram hnext fun _ _ _ => Adds.same

end Program

end UsbSec.Library
