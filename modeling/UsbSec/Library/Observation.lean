import UsbSec.Library.Machine

/-!
# What is noted of an execution

An observer notes something at each step of an execution, from the state before the step and the
action taken in it. The state need not remember what was noted: a relation between the notes so far
and the state is an invariant of the execution like any other.
-/

namespace UsbSec.Library.Machine

variable {State Action Note : Type} {step : State → Action → Option State}

/-- What is noted at the steps of an execution, oldest first. -/
def observed (step : State → Action → Option State) (note : State → Action → List Note) :
    State → List Action → List Note
  | _, [] => []
  | state, action :: rest =>
      match step state action with
      | none => []
      | some next => note state action ++ observed step note next rest

theorem observed_cons {note : State → Action → List Note} {state next : State} {action : Action}
    (rest : List Action) (h : step state action = some next) :
    observed step note state (action :: rest) =
      note state action ++ observed step note next rest := by
  rw [observed, h]

/-- What every step that meets the guard preserves of the notes and the state holds after every
guarded execution. -/
theorem guarded_observed {note : State → Action → List Note} {ok : State → Action → Prop}
    {I : List Note → State → Prop}
    (hstep : ∀ notes state action next, I notes state → ok state action →
      step state action = some next → I (notes ++ note state action) next)
    {state last : State} {actions : List Action} (hinit : I [] state)
    (hguard : Guarded step ok state actions) (hrun : run step state actions = some last) :
    I (observed step note state actions) last := by
  suffices hfrom : ∀ notes, I notes state → I (notes ++ observed step note state actions) last from
    hfrom [] hinit
  clear hinit
  induction actions generalizing state with
  | nil =>
      intro notes hnotes
      cases hrun
      rwa [observed, List.append_nil]
  | cons action rest ih =>
      intro notes hnotes
      obtain ⟨next, hnext, hrest⟩ := run_cons_eq_some.mp hrun
      have hfirst := hstep notes state action next hnotes hguard.1 hnext
      have hlater := ih (hguard.2 next hnext) hrest _ hfirst
      rwa [List.append_assoc, ← observed_cons rest hnext] at hlater

/-- What every step preserves of the notes and the state holds after every execution. -/
theorem run_observed {note : State → Action → List Note} {I : List Note → State → Prop}
    (hstep : ∀ notes state action next, I notes state → step state action = some next →
      I (notes ++ note state action) next)
    {state last : State} {actions : List Action} (hinit : I [] state)
    (hrun : run step state actions = some last) : I (observed step note state actions) last := by
  have hguard : Guarded step (fun _ _ => True) state actions :=
    guarded_of_forall (fun _ _ => trivial) state actions
  exact guarded_observed (fun notes state action next h _ => hstep notes state action next h) hinit
    hguard hrun

end UsbSec.Library.Machine
