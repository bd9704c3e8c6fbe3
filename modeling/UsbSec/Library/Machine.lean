/-!
# Machines that take actions

A machine is a partial step function `step : State → Action → Option State`; an action that is
not enabled has no successor. Every choice of an execution is in its list of actions, so a
statement about every list of actions is a statement about every interleaving. `Guarded ok`
says that each step of an execution meets a condition on the state before it.
-/

namespace UsbSec.Library.Machine

variable {State Action : Type}

/-- Take the actions in order; an action that is not enabled ends the attempt. -/
def run (step : State → Action → Option State) : State → List Action → Option State
  | state, [] => some state
  | state, action :: rest => (step state action).bind fun next => run step next rest

/-- Each step of the execution meets `ok` in the state before it. -/
def Guarded (step : State → Action → Option State) (ok : State → Action → Prop) :
    State → List Action → Prop
  | _, [] => True
  | state, action :: rest =>
      ok state action ∧ ∀ next, step state action = some next → Guarded step ok next rest

variable {step : State → Action → Option State}

/-- Whether an execution meets a guard can be computed when the guard can. -/
instance decidableGuarded {ok : State → Action → Prop}
    [∀ state action, Decidable (ok state action)] :
    ∀ (state : State) (actions : List Action), Decidable (Guarded step ok state actions)
  | _, [] => isTrue trivial
  | state, action :: rest =>
      match hstep : step state action with
      | none => decidable_of_iff (ok state action) (by simp [Guarded, hstep])
      | some next =>
          have : Decidable (Guarded step ok next rest) := decidableGuarded next rest
          decidable_of_iff (ok state action ∧ Guarded step ok next rest)
            (by simp [Guarded, hstep])

@[simp] theorem run_nil (state : State) : run step state [] = some state := rfl

theorem run_cons (state : State) (action : Action) (rest : List Action) :
    run step state (action :: rest) = (step state action).bind fun next => run step next rest :=
  rfl

/-- A nonempty execution is a step followed by an execution. -/
theorem run_cons_eq_some {state last : State} {action : Action} {rest : List Action} :
    run step state (action :: rest) = some last ↔
      ∃ next, step state action = some next ∧ run step next rest = some last := by
  simp [run_cons, Option.bind_eq_some_iff]

/-- An execution of two lists of actions is one execution after the other. -/
theorem run_append (state : State) (first second : List Action) :
    run step state (first ++ second) =
      (run step state first).bind fun middle => run step middle second := by
  induction first generalizing state with
  | nil => rfl
  | cons action rest ih =>
      simp only [List.cons_append, run_cons]
      cases step state action with
      | none => rfl
      | some next => exact ih next

/-- An execution followed by one more step. -/
theorem run_concat {state middle : State} {actions : List Action} {action : Action}
    (h : run step state actions = some middle) :
    run step state (actions ++ [action]) = step middle action := by
  rw [run_append, h]
  simp [run_cons]

/-- An execution that can be computed ends in a state with a property that can be tested. -/
theorem exists_run_of_any {state : State} {actions : List Action} {P : State → Prop}
    [DecidablePred P] (h : (run step state actions).any (fun last => decide (P last)) = true) :
    ∃ last, run step state actions = some last ∧ P last := by
  rw [Option.any_eq_true] at h
  obtain ⟨last, hrun, hP⟩ := h
  exact ⟨last, hrun, of_decide_eq_true hP⟩

/-- What every step preserves holds after every execution. -/
theorem run_invariant {I : State → Prop}
    (hstep : ∀ state action next, I state → step state action = some next → I next)
    {state last : State} {actions : List Action} (hinit : I state)
    (hrun : run step state actions = some last) : I last := by
  induction actions generalizing state with
  | nil =>
      cases hrun
      exact hinit
  | cons action rest ih =>
      obtain ⟨next, hnext, hrest⟩ := run_cons_eq_some.mp hrun
      exact ih (hstep state action next hinit hnext) hrest

/-- What every step with an action of a kind preserves holds after every execution with actions of
that kind. -/
theorem run_invariant_of_mem {ok : Action → Prop} {I : State → Prop}
    (hstep : ∀ state action next, I state → ok action → step state action = some next → I next)
    {state last : State} {actions : List Action} (hinit : I state)
    (hok : ∀ action ∈ actions, ok action) (hrun : run step state actions = some last) :
    I last := by
  induction actions generalizing state with
  | nil =>
      cases hrun
      exact hinit
  | cons action rest ih =>
      obtain ⟨next, hnext, hrest⟩ := run_cons_eq_some.mp hrun
      have hfirst := hstep state action next hinit (hok action List.mem_cons_self) hnext
      exact ih hfirst (fun other hmem => hok other (List.mem_cons_of_mem _ hmem)) hrest

/-- What every step that meets the guard preserves holds after every guarded execution. -/
theorem guarded_invariant {ok : State → Action → Prop} {I : State → Prop}
    (hstep : ∀ state action next, I state → ok state action → step state action = some next →
      I next)
    {state last : State} {actions : List Action} (hinit : I state)
    (hguard : Guarded step ok state actions) (hrun : run step state actions = some last) :
    I last := by
  induction actions generalizing state with
  | nil =>
      cases hrun
      exact hinit
  | cons action rest ih =>
      obtain ⟨next, hnext, hrest⟩ := run_cons_eq_some.mp hrun
      exact ih (hstep state action next hinit hguard.1 hnext) (hguard.2 next hnext) hrest

/-- What holds of a state and the actions that led to it, and is extended by every step, holds
after every execution. -/
theorem run_history {H : List Action → State → Prop} {init last : State} {actions : List Action}
    (hstep : ∀ before state action next, H before state → step state action = some next →
      H (before ++ [action]) next)
    (hinit : H [] init) (hrun : run step init actions = some last) : H actions last := by
  suffices hfrom : ∀ before state, H before state → run step state actions = some last →
      H (before ++ actions) last from hfrom [] init hinit hrun
  clear hinit hrun
  induction actions with
  | nil =>
      intro before state hbefore hrun
      cases hrun
      rwa [List.append_nil]
  | cons action rest ih =>
      intro before state hbefore hrun
      obtain ⟨next, hnext, hrest⟩ := run_cons_eq_some.mp hrun
      have hlater := ih _ next (hstep before state action next hbefore hnext) hrest
      rwa [List.append_assoc, List.singleton_append] at hlater

/-- If each step of one machine is matched by an execution of another from related states, then
so is each execution. What is known of the actions of the one may say something about those of
the other. -/
theorem run_simulation {Abstract AbstractAction : Type}
    {abstractStep : Abstract → AbstractAction → Option Abstract} {R : State → Abstract → Prop}
    {G : Action → Prop} {Q : AbstractAction → Prop}
    (hstep : ∀ state action next abstract, R state abstract → G action →
      step state action = some next →
        ∃ taken last, (∀ other ∈ taken, Q other) ∧
          run abstractStep abstract taken = some last ∧ R next last)
    {state last : State} {actions : List Action} {abstract : Abstract} (hinit : R state abstract)
    (hok : ∀ action ∈ actions, G action) (hrun : run step state actions = some last) :
    ∃ taken abstractLast, (∀ other ∈ taken, Q other) ∧
      run abstractStep abstract taken = some abstractLast ∧ R last abstractLast := by
  induction actions generalizing state abstract with
  | nil =>
      cases hrun
      exact ⟨[], abstract, nofun, rfl, hinit⟩
  | cons action rest ih =>
      obtain ⟨next, hnext, hrest⟩ := run_cons_eq_some.mp hrun
      obtain ⟨taken, middle, htakenOk, htaken, hmiddle⟩ :=
        hstep state action next abstract hinit (hok action List.mem_cons_self) hnext
      obtain ⟨later, abstractLast, hlaterOk, hlater, hlast⟩ :=
        ih hmiddle (fun other hmem => hok other (List.mem_cons_of_mem _ hmem)) hrest
      refine ⟨taken ++ later, abstractLast, fun other hmem => ?_, ?_, hlast⟩
      · rcases List.mem_append.mp hmem with hfirst | hsecond
        · exact htakenOk other hfirst
        · exact hlaterOk other hsecond
      · rw [run_append, htaken]
        exact hlater

/-- A guard that every step meets is met by every execution. -/
theorem guarded_of_forall {ok : State → Action → Prop} (h : ∀ state action, ok state action)
    (state : State) (actions : List Action) : Guarded step ok state actions := by
  induction actions generalizing state with
  | nil => exact trivial
  | cons action rest ih => exact ⟨h state action, fun next _ => ih next⟩

/-- What holds of every action of an execution guards it. -/
theorem guarded_of_mem {D : Action → Prop} {state : State} {actions : List Action}
    (h : ∀ action ∈ actions, D action) : Guarded step (fun _ action => D action) state actions := by
  induction actions generalizing state with
  | nil => exact trivial
  | cons action rest ih =>
      refine ⟨h action List.mem_cons_self, fun next _ => ih fun later hmem => ?_⟩
      exact h later (List.mem_cons_of_mem _ hmem)

/-- What the guard and an invariant give at each step holds at each step of a guarded execution. -/
theorem guarded_of_invariant {ok other : State → Action → Prop} {I : State → Prop}
    (hstep : ∀ state action next, I state → ok state action → step state action = some next →
      I next)
    (himp : ∀ state action, I state → ok state action → other state action) {state : State}
    {actions : List Action} (hinit : I state) (hguard : Guarded step ok state actions) :
    Guarded step other state actions := by
  induction actions generalizing state with
  | nil => exact trivial
  | cons action rest ih =>
      refine ⟨himp state action hinit hguard.1, fun next hnext => ?_⟩
      exact ih (hstep state action next hinit hguard.1 hnext) (hguard.2 next hnext)

/-- A guard that implies another may be replaced by it. -/
theorem guarded_mono {ok other : State → Action → Prop}
    (h : ∀ state action, ok state action → other state action) {state : State}
    {actions : List Action} (hguard : Guarded step ok state actions) :
    Guarded step other state actions :=
  guarded_of_invariant (I := fun _ => True) (fun _ _ _ _ _ _ => trivial)
    (fun state action _ hok => h state action hok) trivial hguard

/-- Two guards that agree wherever the invariant holds and the action is of a kind are met by the
same executions with actions of that kind. -/
theorem guarded_iff {ok other : State → Action → Prop} {D : Action → Prop} {I : State → Prop}
    (hstep : ∀ state action next, I state → D action → step state action = some next → I next)
    (hagree : ∀ state action, I state → D action → (ok state action ↔ other state action))
    {state : State} {actions : List Action} (hinit : I state) (hkind : ∀ action ∈ actions, D action) :
    Guarded step ok state actions ↔ Guarded step other state actions := by
  induction actions generalizing state with
  | nil => exact Iff.rfl
  | cons action rest ih =>
      have hfirst := hkind action List.mem_cons_self
      have hrest : ∀ later ∈ rest, D later := fun later hmem =>
        hkind later (List.mem_cons_of_mem _ hmem)
      have hlater : ∀ next, step state action = some next →
          (Guarded step ok next rest ↔ Guarded step other next rest) := fun next hnext =>
        ih (hstep state action next hinit hfirst hnext) hrest
      exact and_congr (hagree state action hinit hfirst)
        (forall_congr' fun next => imp_congr_right fun hnext => hlater next hnext)

/-- Two guards that are met are met together. -/
theorem guarded_and {ok other : State → Action → Prop} {state : State} {actions : List Action}
    (hfirst : Guarded step ok state actions) (hsecond : Guarded step other state actions) :
    Guarded step (fun state action => ok state action ∧ other state action) state actions := by
  induction actions generalizing state with
  | nil => exact trivial
  | cons action rest ih =>
      exact ⟨⟨hfirst.1, hsecond.1⟩, fun next hnext => ih (hfirst.2 next hnext) (hsecond.2 next hnext)⟩

/-- A guarded execution split in two is guarded on both halves. -/
theorem guarded_append {ok : State → Action → Prop} {state middle : State}
    {first second : List Action} (hguard : Guarded step ok state (first ++ second))
    (hrun : run step state first = some middle) :
    Guarded step ok state first ∧ Guarded step ok middle second := by
  induction first generalizing state with
  | nil =>
      cases hrun
      exact ⟨trivial, hguard⟩
  | cons action rest ih =>
      obtain ⟨next, hnext, hrest⟩ := run_cons_eq_some.mp hrun
      refine ⟨⟨hguard.1, fun other hother => ?_⟩, (ih (hguard.2 next hnext) hrest).2⟩
      cases hnext.symm.trans hother
      exact (ih (hguard.2 next hnext) hrest).1

end UsbSec.Library.Machine
