import Mathlib.Order.Defs.Unbundled

/-!
# Programs over a state that can stop early

A `Program` transforms a state and ends with a value, or stops early with a reason. The state
reached is kept in both cases, so what a program did before it stopped can be stated.
`Moves R p` says that every run of `p`, stopped or not, takes the state along the preorder `R`;
with `R s t := I s → I t` it says that `p` keeps the invariant `I`. One rule for each way to
build a program makes such a statement compositional.
-/

namespace UsbSec.Library

/-- A program over the state `σ` that ends with a value or stops early with a reason. -/
abbrev Program (ε σ α : Type) := EStateM ε σ α

namespace Program

variable {ε σ τ α β : Type}

/-- The state that a run leaves behind, whether it ended or stopped. -/
def final : EStateM.Result ε σ α → σ
  | .ok _ state => state
  | .error _ state => state

/-- The value of the current state. -/
def read : Program ε σ σ := fun state => .ok state state

/-- Replace the state by its image under `change`. -/
def update (change : σ → σ) : Program ε σ Unit := fun state => .ok () (change state)

/-- Stop the program. -/
def stop (reason : ε) : Program ε σ α := fun state => .error reason state

/-- Stop the program with `reason` unless `condition` holds. -/
def require (condition : Prop) [Decidable condition] (reason : ε) : Program ε σ Unit :=
  if condition then pure () else stop reason

/-- Run the program only under a condition. -/
def when (condition : Prop) [Decidable condition] (program : Program ε σ Unit) :
    Program ε σ Unit :=
  if condition then program else pure ()

/-- Run a program on one part of the state. -/
def onPart (part : σ → τ) (replace : τ → σ → σ) (program : Program ε τ α) : Program ε σ α :=
  fun state =>
    match program (part state) with
    | .ok value next => .ok value (replace next state)
    | .error reason next => .error reason (replace next state)

/-! ## Running the primitives -/

@[simp] theorem pure_apply (value : α) (state : σ) :
    (pure value : Program ε σ α) state = .ok value state := rfl

@[simp] theorem read_apply (state : σ) : (read : Program ε σ σ) state = .ok state state := rfl

@[simp] theorem update_apply (change : σ → σ) (state : σ) :
    (update change : Program ε σ Unit) state = .ok () (change state) := rfl

@[simp] theorem stop_apply (reason : ε) (state : σ) :
    (stop reason : Program ε σ α) state = .error reason state := rfl

@[simp] theorem final_ok (value : α) (state : σ) :
    final (.ok value state : EStateM.Result ε σ α) = state := rfl

@[simp] theorem final_error (reason : ε) (state : σ) :
    final (.error reason state : EStateM.Result ε σ α) = state := rfl

/-- A run that ends ends in its final state. -/
theorem eq_ok_final {program : Program ε σ α} {state next : σ} {value : α}
    (h : program state = .ok value next) :
    program state = .ok value (final (program state)) := by
  rw [h, final_ok]

theorem bind_apply (program : Program ε σ α) (next : α → Program ε σ β) (state : σ) :
    (program >>= next) state =
      match program state with
      | .ok value middle => next value middle
      | .error reason middle => .error reason middle := rfl

/-- A run that ends hands its value and state to the rest of the program. -/
theorem bind_ok {program : Program ε σ α} {next : α → Program ε σ β} {state middle : σ}
    {value : α} (h : program state = .ok value middle) :
    (program >>= next) state = next value middle := by
  rw [bind_apply, h]

/-- A run that stops skips the rest of the program. -/
theorem bind_error {program : Program ε σ α} {next : α → Program ε σ β} {state middle : σ}
    {reason : ε} (h : program state = .error reason middle) :
    (program >>= next) state = .error reason middle := by
  rw [bind_apply, h]

@[simp] theorem read_bind (next : σ → Program ε σ β) (state : σ) :
    ((read : Program ε σ σ) >>= next) state = next state state := rfl

@[simp] theorem update_bind (change : σ → σ) (next : Unit → Program ε σ β) (state : σ) :
    ((update change : Program ε σ Unit) >>= next) state = next () (change state) := rfl

@[simp] theorem pure_bind (value : α) (next : α → Program ε σ β) (state : σ) :
    ((pure value : Program ε σ α) >>= next) state = next value state := rfl

@[simp] theorem stop_bind (reason : ε) (next : α → Program ε σ β) (state : σ) :
    ((stop reason : Program ε σ α) >>= next) state = .error reason state := rfl

theorem require_apply (condition : Prop) [Decidable condition] (reason : ε) (state : σ) :
    (require condition reason : Program ε σ Unit) state =
      if condition then .ok () state else .error reason state := by
  unfold require
  split <;> rfl

@[simp] theorem require_true {condition : Prop} [Decidable condition] (h : condition)
    (reason : ε) : (require condition reason : Program ε σ Unit) = pure () := if_pos h

@[simp] theorem require_false {condition : Prop} [Decidable condition] (h : ¬ condition)
    (reason : ε) : (require condition reason : Program ε σ Unit) = stop reason := if_neg h

/-- A requirement that is met lets the program go on. -/
theorem require_bind {condition : Prop} [Decidable condition] (h : condition) (reason : ε)
    (next : Unit → Program ε σ β) (state : σ) :
    ((require condition reason : Program ε σ Unit) >>= next) state = next () state := by
  rw [require_true h]
  rfl

/-- A requirement that is not met stops the program. -/
theorem require_stops {condition : Prop} [Decidable condition] (h : ¬ condition) (reason : ε)
    (next : Unit → Program ε σ β) (state : σ) :
    ((require condition reason : Program ε σ Unit) >>= next) state = .error reason state := by
  rw [require_false h]
  rfl

/-- A requirement that lets the program go on is met and leaves the state alone. -/
theorem require_eq_ok {condition : Prop} [Decidable condition] {reason : ε} {state next : σ}
    {value : Unit} (h : (require condition reason : Program ε σ Unit) state = .ok value next) :
    condition ∧ next = state := by
  rw [require_apply] at h
  split at h
  · rename_i hcondition
    cases h
    exact ⟨hcondition, rfl⟩
  · cases h

@[simp] theorem when_true {condition : Prop} [Decidable condition] (h : condition)
    (program : Program ε σ Unit) : when condition program = program := if_pos h

@[simp] theorem when_false {condition : Prop} [Decidable condition] (h : ¬ condition)
    (program : Program ε σ Unit) : when condition program = pure () := if_neg h

/-- A bind that ends has a first half that ends. -/
theorem bind_eq_ok {program : Program ε σ α} {next : α → Program ε σ β} {state last : σ}
    {result : β} (h : (program >>= next) state = .ok result last) :
    ∃ value middle, program state = .ok value middle ∧ next value middle = .ok result last := by
  rw [bind_apply] at h
  cases hp : program state with
  | ok value middle =>
      rw [hp] at h
      exact ⟨value, middle, rfl, h⟩
  | error reason middle =>
      rw [hp] at h
      cases h

theorem onPart_ok {part : σ → τ} {replace : τ → σ → σ} {program : Program ε τ α} {state : σ}
    {value : α} {next : τ} (h : program (part state) = .ok value next) :
    onPart part replace program state = .ok value (replace next state) := by
  simp [onPart, h]

theorem onPart_error {part : σ → τ} {replace : τ → σ → σ} {program : Program ε τ α} {state : σ}
    {reason : ε} {next : τ} (h : program (part state) = .error reason next) :
    onPart part replace program state = .error reason (replace next state) := by
  simp [onPart, h]

/-- A run on a part that ends ran to its end on that part. -/
theorem onPart_eq_ok {part : σ → τ} {replace : τ → σ → σ} {program : Program ε τ α}
    {state last : σ} {value : α} (h : onPart part replace program state = .ok value last) :
    ∃ next, program (part state) = .ok value next ∧ last = replace next state := by
  unfold onPart at h
  split at h
  · rename_i result next hp
    cases h
    exact ⟨next, hp, rfl⟩
  · cases h

@[simp] theorem final_onPart (part : σ → τ) (replace : τ → σ → σ) (program : Program ε τ α)
    (state : σ) :
    final (onPart part replace program state) =
      replace (final (program (part state))) state := by
  unfold onPart
  cases program (part state) <;> rfl

/-! ## What every run of a program does to the state -/

/-- Every run of the program takes the state along `R`. -/
def Moves (R : σ → σ → Prop) (program : Program ε σ α) : Prop :=
  ∀ state, R state (final (program state))

section Moves

variable {R : σ → σ → Prop}

theorem Moves.ok {program : Program ε σ α} (h : Moves R program) {state next : σ} {value : α}
    (hrun : program state = .ok value next) : R state next := by
  simpa [hrun] using h state

theorem Moves.mono {S : σ → σ → Prop} {program : Program ε σ α} (h : Moves R program)
    (himp : ∀ state next, R state next → S state next) : Moves S program :=
  fun state => himp state _ (h state)

theorem Moves.update {change : σ → σ} (h : ∀ state, R state (change state)) :
    Moves R (update change : Program ε σ Unit) := h

/-- A program that reads the state first may use the value read. -/
theorem Moves.read_bind {next : σ → Program ε σ β}
    (h : ∀ state, R state (final (next state state))) :
    Moves R ((read : Program ε σ σ) >>= next) := h

theorem Moves.onPart {part : σ → τ} {replace : τ → σ → σ} {program : Program ε τ α}
    (h : ∀ state next, R state (replace next state)) :
    Moves R (onPart part replace program) := by
  intro state
  rw [final_onPart]
  exact h state _

/-- A relation on the part lifts to one on the whole. -/
theorem Moves.onPart_of {P : τ → τ → Prop} {part : σ → τ} {replace : τ → σ → σ}
    {program : Program ε τ α} (hprogram : Moves P program)
    (h : ∀ state next, P (part state) next → R state (replace next state)) :
    Moves R (Program.onPart part replace program) := by
  intro state
  rw [final_onPart]
  exact h state _ (hprogram _)

theorem Moves.ite {condition : Prop} [Decidable condition] {first second : Program ε σ α}
    (hfirst : Moves R first) (hsecond : Moves R second) :
    Moves R (if condition then first else second) := by
  split
  · exact hfirst
  · exact hsecond

variable [IsPreorder σ R]

theorem Moves.pure (value : α) : Moves R (pure value : Program ε σ α) :=
  fun state => refl_of R state

theorem Moves.read : Moves R (read : Program ε σ σ) := fun state => refl_of R state

theorem Moves.stop (reason : ε) : Moves R (stop reason : Program ε σ α) :=
  fun state => refl_of R state

theorem Moves.require (condition : Prop) [Decidable condition] (reason : ε) :
    Moves R (require condition reason : Program ε σ Unit) := by
  unfold Program.require
  split
  · exact Moves.pure _
  · exact Moves.stop _

theorem Moves.when {condition : Prop} [Decidable condition] {program : Program ε σ Unit}
    (h : Moves R program) : Moves R (Program.when condition program) :=
  Moves.ite h (Moves.pure _)

theorem Moves.bind {program : Program ε σ α} {next : α → Program ε σ β}
    (hprogram : Moves R program) (hnext : ∀ value, Moves R (next value)) :
    Moves R (program >>= next) := by
  intro state
  have hfirst := hprogram state
  rw [bind_apply]
  cases hp : program state with
  | ok value middle =>
      rw [hp] at hfirst
      exact trans_of R hfirst (hnext value middle)
  | error reason middle =>
      rw [hp] at hfirst
      exact hfirst

/-- After a requirement the program may use it. -/
theorem Moves.require_bind {condition : Prop} [Decidable condition] {reason : ε}
    {next : Unit → Program ε σ α} (h : condition → Moves R (next ())) :
    Moves R (Program.require condition reason >>= next) := by
  by_cases hcondition : condition
  · rw [require_true hcondition]
    exact h hcondition
  · rw [require_false hcondition]
    exact fun state => refl_of R state

end Moves

/-- After a first half that ends, the rest of the program moves from the state reached. -/
theorem Moves.after_ok {R : σ → σ → Prop} {program : Program ε σ α} {next : α → Program ε σ β}
    {state middle : σ} {value : α} (hrun : program state = .ok value middle)
    (hnext : Moves R (next value)) : R middle (final ((program >>= next) state)) := by
  rw [bind_ok hrun]
  exact hnext middle

/-- The rest of the program moves from wherever the first half arrives. -/
theorem Moves.after {R : σ → σ → Prop} [IsPreorder σ R] (program : Program ε σ α)
    {next : α → Program ε σ β} (hnext : ∀ value, Moves R (next value)) (state : σ) :
    R (final (program state)) (final ((program >>= next) state)) := by
  rw [bind_apply]
  cases program state with
  | ok value middle => exact hnext value middle
  | error reason middle => exact refl_of R middle

/-- A rest that moves along `S` extends what the first half does. -/
theorem Moves.bind_of {R S : σ → σ → Prop} {program : Program ε σ α}
    {next : α → Program ε σ β} (hprogram : Moves R program)
    (hnext : ∀ value, Moves S (next value))
    (hcomp : ∀ state middle last, R state middle → S middle last → R state last) :
    Moves R (program >>= next) := by
  intro state
  have hfirst := hprogram state
  rw [bind_apply]
  cases hp : program state with
  | ok value middle =>
      rw [hp] at hfirst
      exact hcomp state middle _ hfirst (hnext value middle)
  | error reason middle =>
      rw [hp] at hfirst
      exact hfirst

/-- If the invariant `I` holds before, it holds after. -/
def Keeps (I : σ → Prop) (state next : σ) : Prop := I state → I next

instance (I : σ → Prop) : IsPreorder σ (Keeps I) where
  refl _ := id
  trans _ _ _ first second h := second (first h)

/-- A view of the state is the same before and after. -/
def Same (view : σ → β) (state next : σ) : Prop := view next = view state

instance (view : σ → β) : IsPreorder σ (Same view) where
  refl _ := rfl
  trans _ _ _ first second := Eq.trans second first

/-! ## What every run that ends does to the state -/

/-- Every run of the program that ends takes the state along `R`. -/
def Ends (R : σ → σ → Prop) (program : Program ε σ α) : Prop :=
  ∀ state value next, program state = .ok value next → R state next

section Ends

variable {R : σ → σ → Prop}

theorem Moves.ends {program : Program ε σ α} (h : Moves R program) : Ends R program :=
  fun _ _ _ hrun => h.ok hrun

theorem Ends.mono {S : σ → σ → Prop} {program : Program ε σ α} (h : Ends R program)
    (himp : ∀ state next, R state next → S state next) : Ends S program :=
  fun state value next hrun => himp state next (h state value next hrun)

theorem Ends.stop (reason : ε) : Ends R (stop reason : Program ε σ α) :=
  fun _ _ _ hrun => by cases hrun

theorem Ends.ite {condition : Prop} [Decidable condition] {first second : Program ε σ α}
    (hfirst : Ends R first) (hsecond : Ends R second) :
    Ends R (if condition then first else second) := by
  split
  · exact hfirst
  · exact hsecond

/-- A program that reads the state first may use the value read. -/
theorem Ends.read_bind {next : σ → Program ε σ β} (h : ∀ state, Ends R (next state)) :
    Ends R ((read : Program ε σ σ) >>= next) :=
  fun state value last hrun => h state state value last hrun

theorem Ends.when [IsPreorder σ R] {condition : Prop} [Decidable condition]
    {program : Program ε σ Unit} (h : Ends R program) : Ends R (Program.when condition program) :=
  Ends.ite h (Moves.pure _).ends

theorem Ends.bind [IsTrans σ R] {program : Program ε σ α} {next : α → Program ε σ β}
    (hprogram : Ends R program) (hnext : ∀ value, Ends R (next value)) :
    Ends R (program >>= next) := by
  intro state value last hrun
  obtain ⟨first, middle, hfirst, hrest⟩ := bind_eq_ok hrun
  exact trans_of R (hprogram state first middle hfirst) (hnext first middle value last hrest)

end Ends

/-! ## Why a program stops -/

/-- Every run of the program that stops has a reason with the property. -/
def Stops (Q : ε → Prop) (program : Program ε σ α) : Prop :=
  ∀ state reason last, program state = .error reason last → Q reason

section Stops

variable {Q : ε → Prop}

theorem Stops.pure (value : α) : Stops Q (pure value : Program ε σ α) :=
  fun _ _ _ hrun => by cases hrun

theorem Stops.read : Stops Q (read : Program ε σ σ) := fun _ _ _ hrun => by cases hrun

theorem Stops.update (change : σ → σ) : Stops Q (update change : Program ε σ Unit) :=
  fun _ _ _ hrun => by cases hrun

theorem Stops.stop {reason : ε} (h : Q reason) : Stops Q (stop reason : Program ε σ α) := by
  intro state other last hrun
  cases hrun
  exact h

/-- Under a test each branch may use its outcome. -/
theorem Stops.ite {condition : Prop} [Decidable condition] {first second : Program ε σ α}
    (hfirst : condition → Stops Q first) (hsecond : ¬ condition → Stops Q second) :
    Stops Q (if condition then first else second) := by
  split
  · rename_i hcondition
    exact hfirst hcondition
  · rename_i hcondition
    exact hsecond hcondition

theorem Stops.require {condition : Prop} [Decidable condition] {reason : ε} (h : Q reason) :
    Stops Q (require condition reason : Program ε σ Unit) :=
  .ite (fun _ => .pure _) fun _ => .stop h

theorem Stops.when {condition : Prop} [Decidable condition] {program : Program ε σ Unit}
    (h : Stops Q program) : Stops Q (Program.when condition program) :=
  .ite (fun _ => h) fun _ => .pure _

theorem Stops.bind {program : Program ε σ α} {next : α → Program ε σ β}
    (hprogram : Stops Q program) (hnext : ∀ value, Stops Q (next value)) :
    Stops Q (program >>= next) := by
  intro state reason last hrun
  rw [bind_apply] at hrun
  cases hp : program state with
  | ok value middle =>
      rw [hp] at hrun
      exact hnext value middle reason last hrun
  | error other middle =>
      rw [hp] at hrun
      cases hrun
      exact hprogram state reason _ hp

theorem Stops.onPart {part : σ → τ} {replace : τ → σ → σ} {program : Program ε τ α}
    (h : Stops Q program) : Stops Q (Program.onPart part replace program) := by
  intro state reason last hrun
  unfold Program.onPart at hrun
  cases hp : program (part state) with
  | ok value next =>
      rw [hp] at hrun
      cases hrun
  | error other next =>
      rw [hp] at hrun
      cases hrun
      exact h _ _ _ hp

end Stops

/-! ## What one run establishes -/

/-- From `state` the program ends with a value and state as `Q` says or stops in a state as `E`
says. -/
def Outcome (program : Program ε σ α) (state : σ) (Q : α → σ → Prop) (E : σ → Prop) : Prop :=
  match program state with
  | .ok value next => Q value next
  | .error _ next => E next

section Outcome

variable {state : σ} {Q : α → σ → Prop} {E : σ → Prop}

theorem Outcome.ok {program : Program ε σ α} (h : Outcome program state Q E) {value : α} {next : σ}
    (hrun : program state = .ok value next) : Q value next := by
  unfold Outcome at h
  rwa [hrun] at h

theorem Outcome.error {program : Program ε σ α} (h : Outcome program state Q E) {reason : ε}
    {next : σ} (hrun : program state = .error reason next) : E next := by
  unfold Outcome at h
  rwa [hrun] at h

theorem Outcome.of_ok {program : Program ε σ α} {value : α} {next : σ}
    (hrun : program state = .ok value next) (h : Q value next) : Outcome program state Q E := by
  unfold Outcome
  rw [hrun]
  exact h

theorem Outcome.of_error {program : Program ε σ α} {reason : ε} {next : σ}
    (hrun : program state = .error reason next) (h : E next) : Outcome program state Q E := by
  unfold Outcome
  rw [hrun]
  exact h

/-- A program that cannot stop ends. -/
theorem Outcome.exists_ok {program : Program ε σ α} (h : Outcome program state Q fun _ => False) :
    ∃ value next, program state = .ok value next ∧ Q value next := by
  unfold Outcome at h
  cases hrun : program state with
  | ok value next =>
      rw [hrun] at h
      exact ⟨value, next, rfl, h⟩
  | error reason next =>
      rw [hrun] at h
      exact h.elim

/-- A program that runs as another one does from another state. -/
theorem Outcome.of_eq {program other : Program ε σ α} {start : σ}
    (hrun : program state = other start) (h : Outcome other start Q E) :
    Outcome program state Q E := by
  unfold Outcome at h ⊢
  rw [hrun]
  exact h

theorem Outcome.of_moves {R : σ → σ → Prop} {program : Program ε σ α} (h : Moves R program)
    (hok : ∀ value next, R state next → Q value next) (herror : ∀ next, R state next → E next) :
    Outcome program state Q E := by
  have hstate := h state
  unfold Outcome
  cases hrun : program state with
  | ok value next =>
      rw [hrun] at hstate
      exact hok value next hstate
  | error reason next =>
      rw [hrun] at hstate
      exact herror next hstate

theorem Outcome.mono {program : Program ε σ α} {P : α → σ → Prop} {F : σ → Prop}
    (h : Outcome program state P F) (hok : ∀ value next, P value next → Q value next)
    (herror : ∀ next, F next → E next) : Outcome program state Q E := by
  unfold Outcome at h ⊢
  cases hrun : program state with
  | ok value next =>
      rw [hrun] at h
      exact hok value next h
  | error reason next =>
      rw [hrun] at h
      exact herror next h

/-- What every run does to the state may be added. -/
theorem Outcome.and_moves {R : σ → σ → Prop} {program : Program ε σ α} {F : σ → Prop}
    (h : Outcome program state Q F) (hmoves : Moves R program)
    (herror : ∀ next, F next → R state next → E next) :
    Outcome program state (fun value next => Q value next ∧ R state next) E := by
  have hstate := hmoves state
  unfold Outcome at h ⊢
  cases hrun : program state with
  | ok value next =>
      rw [hrun] at h hstate
      exact ⟨h, hstate⟩
  | error reason next =>
      rw [hrun] at h hstate
      exact herror next h hstate

theorem Outcome.bind {program : Program ε σ α} {next : α → Program ε σ β} {P : α → σ → Prop}
    {R : β → σ → Prop} (h : Outcome program state P E)
    (hnext : ∀ value middle, P value middle → Outcome (next value) middle R E) :
    Outcome (program >>= next) state R E := by
  unfold Outcome at h ⊢
  rw [bind_apply]
  cases hrun : program state with
  | ok value middle =>
      rw [hrun] at h
      exact hnext value middle h
  | error reason middle =>
      rw [hrun] at h
      exact h

theorem Outcome.pure {value : α} (h : Q value state) :
    Outcome (pure value : Program ε σ α) state Q E := h

theorem Outcome.stop {reason : ε} (h : E state) :
    Outcome (stop reason : Program ε σ α) state Q E := h

/-- A program that reads the state first may use the value read. -/
theorem Outcome.read_bind {next : σ → Program ε σ α} (h : Outcome (next state) state Q E) :
    Outcome ((read : Program ε σ σ) >>= next) state Q E := h

/-- After a requirement the program may use it. -/
theorem Outcome.require_bind {condition : Prop} [Decidable condition] {reason : ε}
    {next : Unit → Program ε σ α} (hnext : condition → Outcome (next ()) state Q E)
    (herror : ¬ condition → E state) :
    Outcome ((require condition reason : Program ε σ Unit) >>= next) state Q E := by
  by_cases hcondition : condition
  · rw [require_true hcondition]
    exact hnext hcondition
  · rw [require_false hcondition]
    exact herror hcondition

theorem Outcome.ite {condition : Prop} [Decidable condition] {first second : Program ε σ α}
    (hfirst : condition → Outcome first state Q E)
    (hsecond : ¬ condition → Outcome second state Q E) :
    Outcome (if condition then first else second) state Q E := by
  split
  · rename_i hcondition
    exact hfirst hcondition
  · rename_i hcondition
    exact hsecond hcondition

theorem Outcome.when {condition : Prop} [Decidable condition] {program : Program ε σ Unit}
    {P : Unit → σ → Prop} (hrun : condition → Outcome program state P E)
    (hskip : ¬ condition → P () state) : Outcome (Program.when condition program) state P E :=
  Outcome.ite hrun hskip

theorem Outcome.onPart {part : σ → τ} {replace : τ → σ → σ} {program : Program ε τ α}
    {P : α → τ → Prop} {F : τ → Prop} (h : Outcome program (part state) P F)
    (hok : ∀ value next, P value next → Q value (replace next state))
    (herror : ∀ next, F next → E (replace next state)) :
    Outcome (Program.onPart part replace program) state Q E := by
  unfold Outcome Program.onPart at *
  cases hrun : program (part state) with
  | ok value next =>
      rw [hrun] at h
      exact hok value next h
  | error reason next =>
      rw [hrun] at h
      exact herror next h

/-- What each run establishes, stopped or not, is what every run does to the state. -/
theorem Moves.of_outcome {R : σ → σ → Prop} {program : Program ε σ α}
    (h : ∀ state, Outcome program state (fun _ next => R state next) (R state)) :
    Moves R program := by
  intro state
  have hstate := h state
  cases hrun : program state with
  | ok value next => exact hstate.ok hrun
  | error reason next => exact hstate.error hrun

end Outcome

/-! ## Kinds of programs -/

/-- A kind of programs to which every program belongs that is built from programs of the kind. What
is shown of a program for every such kind holds of what it moves along and of what it keeps unless
it stops. -/
structure Closed (C : ∀ {α : Type}, Program ε σ α → Prop) : Prop where
  pure : ∀ {α : Type} (value : α), C (pure value : Program ε σ α)
  read : C (read : Program ε σ σ)
  stop : ∀ {α : Type} (reason : ε), C (stop reason : Program ε σ α)
  bind : ∀ {α β : Type} {program : Program ε σ α} {next : α → Program ε σ β},
    C program → (∀ value, C (next value)) → C (program >>= next)

section Closed

variable {C : ∀ {α : Type}, Program ε σ α → Prop} (h : Closed C)
include h

theorem Closed.when {condition : Prop} [Decidable condition] {program : Program ε σ Unit}
    (hprogram : C program) : C (Program.when condition program) := by
  unfold Program.when
  split
  · exact hprogram
  · exact h.pure _

end Closed

theorem closed_moves (R : σ → σ → Prop) [IsPreorder σ R] :
    Closed (fun {_ : Type} (program : Program ε σ _) => Moves R program) where
  pure := Moves.pure
  read := Moves.read
  stop := Moves.stop
  bind := Moves.bind

/-- From a state with `P` the program ends in one with `Q`. Where it stops, `E` holds. -/
def Leads (P Q E : σ → Prop) (program : Program ε σ α) : Prop :=
  ∀ state, P state → Outcome program state (fun _ next => Q next) E

section Leads

variable {P Q R E : σ → Prop}

theorem Leads.bind {program : Program ε σ α} {next : α → Program ε σ β}
    (hprogram : Leads P Q E program) (hnext : ∀ value, Leads Q R E (next value)) :
    Leads P R E (program >>= next) := fun state hstate =>
  (hprogram state hstate).bind fun value middle hmiddle => hnext value middle hmiddle

/-- What every run keeps holds where the program stops, too. -/
theorem Moves.leads (himp : ∀ state, P state → E state) {program : Program ε σ α}
    (h : Moves (Keeps P) program) : Leads P P E program :=
  fun _ hstate => .of_moves h (fun _ _ hkeeps => hkeeps hstate)
    fun _ hkeeps => himp _ (hkeeps hstate)

/-- A program that leads from a property to itself, stopped or not, keeps it. -/
theorem Leads.moves {program : Program ε σ α} (h : Leads P P P program) :
    Moves (Keeps P) program := by
  intro state hstate
  have houtcome := h state hstate
  cases hrun : program state with
  | ok value next => exact houtcome.ok hrun
  | error reason next => exact houtcome.error hrun

theorem closed_leads (himp : ∀ state, P state → E state) :
    Closed (fun {_ : Type} (program : Program ε σ _) => Leads P P E program) where
  pure _ _ hstate := hstate
  read _ hstate := hstate
  stop _ _ hstate := himp _ hstate
  bind := Leads.bind

end Leads

/-! ## Parts of the state that a program does not look at -/

/-- Change the state in a result. -/
def mapState (change : σ → σ) : EStateM.Result ε σ α → EStateM.Result ε σ α
  | .ok value state => .ok value (change state)
  | .error reason state => .error reason (change state)

@[simp] theorem final_mapState (change : σ → σ) (result : EStateM.Result ε σ α) :
    final (mapState change result) = change (final result) := by
  cases result <;> rfl

/-- The change can be made before the program runs or after it, with the same result. -/
def Ignores (change : σ → σ) (program : Program ε σ α) : Prop :=
  ∀ state, program (change state) = mapState change (program state)

section Ignores

variable {change : σ → σ}

theorem Ignores.pure (value : α) : Ignores change (pure value : Program ε σ α) := fun _ => rfl

theorem Ignores.stop (reason : ε) : Ignores change (stop reason : Program ε σ α) := fun _ => rfl

theorem Ignores.update {other : σ → σ}
    (h : ∀ state, other (change state) = change (other state)) :
    Ignores change (update other : Program ε σ Unit) :=
  fun state => congrArg (EStateM.Result.ok ()) (h state)

theorem Ignores.read_bind {next : σ → Program ε σ β}
    (hread : ∀ state, next (change state) = next state)
    (hnext : ∀ state, Ignores change (next state)) :
    Ignores change ((read : Program ε σ σ) >>= next) := by
  intro state
  rw [Program.read_bind, Program.read_bind, hread]
  exact hnext state state

theorem Ignores.bind {program : Program ε σ α} {next : α → Program ε σ β}
    (hprogram : Ignores change program) (hnext : ∀ value, Ignores change (next value)) :
    Ignores change (program >>= next) := by
  intro state
  rw [bind_apply, bind_apply, hprogram state]
  cases program state with
  | ok value middle => exact hnext value middle
  | error reason middle => rfl

theorem Ignores.ite {condition : Prop} [Decidable condition] {first second : Program ε σ α}
    (hfirst : Ignores change first) (hsecond : Ignores change second) :
    Ignores change (if condition then first else second) := by
  split
  · exact hfirst
  · exact hsecond

theorem Ignores.when {condition : Prop} [Decidable condition] {program : Program ε σ Unit}
    (h : Ignores change program) : Ignores change (Program.when condition program) :=
  Ignores.ite h (Ignores.pure _)

theorem Ignores.require (condition : Prop) [Decidable condition] (reason : ε) :
    Ignores change (require condition reason : Program ε σ Unit) :=
  Ignores.ite (Ignores.pure _) (Ignores.stop _)

theorem Ignores.onPart {part : σ → τ} {replace : τ → σ → σ} {program : Program ε τ α}
    (hpart : ∀ state, part (change state) = part state)
    (hreplace : ∀ next state, replace next (change state) = change (replace next state)) :
    Ignores change (onPart part replace program) := by
  intro state
  unfold Program.onPart
  rw [hpart]
  cases program (part state) with
  | ok value next => exact congrArg (EStateM.Result.ok value) (hreplace next state)
  | error reason next => exact congrArg (EStateM.Result.error reason) (hreplace next state)

end Ignores

end Program

end UsbSec.Library
