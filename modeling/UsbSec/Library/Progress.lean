import UsbSec.Library.Machine

/-!
# What a machine cannot put off

Of the actions of a machine some are its own and the others come from outside.
`ReachesWithin step kind P count` says of a state that the actions of the kind alone lead to `P`:
whichever enabled one is taken, at most `count` of them are taken before `P` holds, and until then
one is enabled. A rank that every step lowers gives the count.
-/

namespace UsbSec.Library.Machine

variable {State Action : Type}

/-- Every order of enabled actions of the kind reaches `P` after at most `count` of them. -/
inductive ReachesWithin (step : State → Action → Option State) (kind : Action → Prop)
    (P : State → Prop) : Nat → State → Prop where
  | done {count : Nat} {state : State} (holds : P state) : ReachesWithin step kind P count state
  | step {count : Nat} {state : State}
      (enabled : ∃ action next, kind action ∧ step state action = some next)
      (rest : ∀ action next, kind action → step state action = some next →
        ReachesWithin step kind P count next) : ReachesWithin step kind P (count + 1) state

variable {step : State → Action → Option State} {kind : Action → Prop} {P Q : State → Prop}

namespace ReachesWithin

/-- More steps may be allowed. -/
theorem mono {count more : Nat} {state : State} (h : ReachesWithin step kind P count state)
    (hle : count ≤ more) : ReachesWithin step kind P more state := by
  induction h generalizing more with
  | done holds => exact .done holds
  | step enabled _ ih =>
      cases more with
      | zero => exact absurd hle (Nat.not_succ_le_zero _)
      | succ more =>
          exact .step enabled fun action next hkind hnext =>
            ih action next hkind hnext (Nat.le_of_succ_le_succ hle)

/-- What is reached may be weakened. -/
theorem imp {count : Nat} {state : State} (h : ReachesWithin step kind P count state)
    (hQ : ∀ state, P state → Q state) : ReachesWithin step kind Q count state := by
  induction h with
  | done holds => exact .done (hQ _ holds)
  | step enabled _ ih => exact .step enabled ih

/-- From where `P` holds one may go on to `Q`. -/
theorem trans {first second : Nat} {state : State} (h : ReachesWithin step kind P first state)
    (hQ : ∀ state, P state → ReachesWithin step kind Q second state) :
    ReachesWithin step kind Q (first + second) state := by
  induction h with
  | done holds => exact (hQ _ holds).mono (Nat.le_add_left _ _)
  | step enabled _ ih =>
      rw [Nat.add_right_comm]
      exact .step enabled ih

/-- A rank that every step lowers until `P` holds bounds the number of steps. -/
theorem of_rank {I : State → Prop} (rank : State → Nat)
    (henabled : ∀ state, I state → ¬ P state →
      ∃ action next, kind action ∧ step state action = some next)
    (hstep : ∀ state action next, I state → ¬ P state → kind action →
      step state action = some next → P next ∨ I next ∧ rank next < rank state)
    {state : State} (h : I state) : ReachesWithin step kind P (rank state + 1) state := by
  suffices hbound : ∀ bound state, I state → rank state < bound →
      ReachesWithin step kind P bound state from hbound _ state h (Nat.lt_succ_self _)
  clear h
  intro bound
  induction bound with
  | zero => exact fun _ _ hlt => absurd hlt (Nat.not_lt_zero _)
  | succ bound ih =>
      intro state h hlt
      by_cases hP : P state
      · exact .done hP
      · refine .step (henabled state h hP) fun action next hkind hnext => ?_
        rcases hstep state action next h hP hkind hnext with hdone | ⟨hI, hless⟩
        · exact .done hdone
        · exact ih next hI (by omega)

/-- When `P` stays, it holds after every execution of as many actions of the kind. -/
theorem of_run (hstays : ∀ state action next, P state → kind action →
      step state action = some next → P next)
    {count : Nat} {state last : State} {actions : List Action}
    (h : ReachesWithin step kind P count state) (hkind : ∀ action ∈ actions, kind action)
    (hlong : count ≤ actions.length) (hrun : run step state actions = some last) : P last := by
  induction h generalizing actions with
  | done holds => exact run_invariant_of_mem hstays holds hkind hrun
  | step _ _ ih =>
      cases actions with
      | nil => exact absurd hlong (Nat.not_succ_le_zero _)
      | cons action rest =>
          obtain ⟨next, hnext, hrest⟩ := run_cons_eq_some.mp hrun
          exact ih action next (hkind action List.mem_cons_self) hnext
            (fun other hmem => hkind other (List.mem_cons_of_mem _ hmem))
            (Nat.le_of_succ_le_succ hlong) hrest

end ReachesWithin

end UsbSec.Library.Machine
