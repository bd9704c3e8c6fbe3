import Mathlib.Data.List.Basic
import UsbSec.Library.Program

/-!
# Work that is due

A program leaves work for others: entries of a list, or bits of a word. `Costs work n` bounds by how
much a run raises the work that is due. The costs of the parts of a program add up, and a program
that does the work of a bit pays with it for what it leaves itself.
-/

namespace UsbSec.Library

/-! ## The bits of a word -/

/-- The number of bits of a word that are set. -/
def bitCount {w : Nat} (word : BitVec w) : Nat := (List.range w).countP word.getLsbD

section bitCount

variable {w : Nat}

theorem bitCount_le {first second : BitVec w}
    (h : ∀ i, first.getLsbD i = true → second.getLsbD i = true) :
    bitCount first ≤ bitCount second :=
  List.countP_mono_left fun i _ => h i

/-- A list without repetitions loses one element when one is taken out. -/
theorem countP_without {α : Type} [DecidableEq α] {p : α → Bool} {a : α} {l : List α}
    (hl : l.Nodup) (hmem : a ∈ l) (ha : p a = true) :
    l.countP (fun b => p b && decide (b ≠ a)) + 1 = l.countP p := by
  induction l with
  | nil => cases hmem
  | cons b rest ih =>
      obtain ⟨hnot, hrest⟩ := List.nodup_cons.mp hl
      by_cases hsame : b = a
      · subst hsame
        have hothers : rest.countP (fun c => p c && decide (c ≠ b)) = rest.countP p := by
          refine List.countP_congr fun c hc => ?_
          have hne : c ≠ b := fun heq => hnot (heq ▸ hc)
          simp [hne]
        rw [List.countP_cons, List.countP_cons, hothers]
        simp [ha]
      · have htail := ih hrest ((List.mem_cons.mp hmem).resolve_left (Ne.symm hsame))
        rw [List.countP_cons, List.countP_cons, ← htail]
        simp only [ne_eq, hsame, not_false_eq_true, decide_true, Bool.and_true]
        omega

theorem getLsbD_clear (word : BitVec w) (i j : Nat) :
    (word &&& ~~~BitVec.twoPow w i).getLsbD j = (word.getLsbD j && decide (j ≠ i)) := by
  by_cases hj : j < w
  · by_cases hsame : i = j
    · simp [hsame, hj]
    · simp [hj, Ne.symm hsame]
  · simp [BitVec.getLsbD_of_ge word j (by omega)]

/-- Clearing a bit that is set lowers the count. -/
theorem bitCount_clear {word : BitVec w} {i : Nat} (h : word.getLsbD i = true) :
    bitCount (word &&& ~~~BitVec.twoPow w i) + 1 = bitCount word := by
  have hlt : i < w := BitVec.lt_of_getLsbD h
  unfold bitCount
  rw [← countP_without List.nodup_range (List.mem_range.mpr hlt) h]
  refine congrArg (· + 1) (List.countP_congr fun j _ => ?_)
  rw [getLsbD_clear]

/-- Setting a bit raises the count by one at most. -/
theorem bitCount_set_le (word : BitVec w) (i : Nat) :
    bitCount (word ||| BitVec.twoPow w i) ≤ bitCount word + 1 := by
  by_cases hlt : i < w
  · have hset : (word ||| BitVec.twoPow w i).getLsbD i = true := by simp [hlt]
    rw [← bitCount_clear hset]
    refine Nat.succ_le_succ (bitCount_le fun j hj => ?_)
    rw [getLsbD_clear, BitVec.getLsbD_or] at hj
    by_cases hsame : j = i
    · simp [hsame] at hj
    · have hother : ¬ i = j := Ne.symm hsame
      simpa [hsame, hother] using hj
  · have hsame : bitCount (word ||| BitVec.twoPow w i) ≤ bitCount word := by
      refine bitCount_le fun j hj => ?_
      have hj' : j < w := BitVec.lt_of_getLsbD hj
      have hne : i ≠ j := by omega
      simpa [hne] using hj
    omega

end bitCount

/-! ## Programs -/

namespace Program

variable {ε σ α β γ : Type}

/-- The work that is due grows by at most `cost`, and the view of the state stays the same. -/
structure Costs (work : σ → Nat) (view : σ → γ) (cost : Nat) (state next : σ) : Prop where
  bounded : work next ≤ work state + cost
  same : view next = view state

section Costs

variable {work : σ → Nat} {view : σ → γ}

instance : IsPreorder σ (Costs work view 0) where
  refl _ := ⟨Nat.le_refl _, rfl⟩
  trans _ _ _ first second :=
    ⟨Nat.le_trans second.bounded first.bounded, second.same.trans first.same⟩

theorem Costs.trans {m n : Nat} {state middle next : σ} (first : Costs work view m state middle)
    (second : Costs work view n middle next) : Costs work view (m + n) state next := by
  refine ⟨?_, second.same.trans first.same⟩
  have hfirst := first.bounded
  have hsecond := second.bounded
  omega

theorem Costs.mono {m n : Nat} {state next : σ} (h : Costs work view m state next) (hle : m ≤ n) :
    Costs work view n state next :=
  ⟨Nat.le_trans h.bounded (Nat.add_le_add_left hle _), h.same⟩

theorem Moves.costs_mono {m n : Nat} {program : Program ε σ α}
    (h : Moves (Costs work view m) program) (hle : m ≤ n) : Moves (Costs work view n) program :=
  h.mono fun _ _ hcosts => hcosts.mono hle

/-- A program that costs nothing is within every bound. -/
theorem Moves.costs_any {n : Nat} {program : Program ε σ α}
    (h : Moves (Costs work view 0) program) : Moves (Costs work view n) program :=
  h.costs_mono (Nat.zero_le n)

theorem Moves.costs_pure {n : Nat} (value : α) :
    Moves (Costs work view n) (Pure.pure value : Program ε σ α) := (Moves.pure value).costs_any

theorem Moves.costs_stop {n : Nat} (reason : ε) :
    Moves (Costs work view n) (Program.stop reason : Program ε σ α) := (Moves.stop reason).costs_any

theorem Moves.costs_bind {m n : Nat} {program : Program ε σ α} {next : α → Program ε σ β}
    (hprogram : Moves (Costs work view m) program)
    (hnext : ∀ value, Moves (Costs work view n) (next value)) :
    Moves (Costs work view (m + n)) (program >>= next) := by
  intro state
  have hfirst := hprogram state
  rw [bind_apply]
  cases hp : program state with
  | ok value middle =>
      rw [hp] at hfirst
      exact hfirst.trans (hnext value middle)
  | error reason middle =>
      rw [hp] at hfirst
      exact hfirst.mono (Nat.le_add_right m n)

/-- The first half of a program costs nothing. -/
theorem Moves.free_bind {n : Nat} {program : Program ε σ α} {next : α → Program ε σ β}
    (hprogram : Moves (Costs work view 0) program)
    (hnext : ∀ value, Moves (Costs work view n) (next value)) :
    Moves (Costs work view n) (program >>= next) :=
  (hprogram.costs_bind hnext).costs_mono (Nat.le_of_eq (Nat.zero_add n))

/-- The second half of a program costs nothing. -/
theorem Moves.bind_free {n : Nat} {program : Program ε σ α} {next : α → Program ε σ β}
    (hprogram : Moves (Costs work view n) program)
    (hnext : ∀ value, Moves (Costs work view 0) (next value)) :
    Moves (Costs work view n) (program >>= next) := hprogram.costs_bind hnext

theorem Moves.costs_ite {m n : Nat} {condition : Prop} [Decidable condition]
    {first second : Program ε σ α} (hfirst : Moves (Costs work view m) first)
    (hsecond : Moves (Costs work view n) second) :
    Moves (Costs work view (if condition then m else n)) (if condition then first else second) := by
  split
  · exact hfirst
  · exact hsecond

theorem Moves.costs_when {n : Nat} {condition : Prop} [Decidable condition]
    {program : Program ε σ Unit} (h : Moves (Costs work view n) program) :
    Moves (Costs work view (if condition then n else 0)) (Program.when condition program) :=
  .costs_ite h (.pure ())

end Costs

end Program

end UsbSec.Library
