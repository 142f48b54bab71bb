import Mathlib.Order.Basic
import Mathlib.Tactic.Common

/-!
# Outcomes of possibly failing code

A run of imperative code returns a value, returns an error, aborts at run time, or is still
running when the step budget of the model is spent.  The four endings are kept apart: an abort is
not an error value, and an exhausted budget says nothing about the code.
-/

/-- The ending of one run. -/
inductive Outcome (ε α : Type*) where
  /-- The run returned a value. -/
  | ok (value : α)
  /-- The run returned an error value. -/
  | error (reason : ε)
  /-- The run aborted. -/
  | panic
  /-- The step budget was spent before the run ended. -/
  | outOfFuel
  deriving DecidableEq, Repr

namespace Outcome

universe u v

variable {ε : Type v} {α β : Type u}

/-- Run a continuation on a returned value and pass every other ending on. -/
def bind (run : Outcome ε α) (next : α → Outcome ε β) : Outcome ε β :=
  match run with
  | .ok value => next value
  | .error reason => .error reason
  | .panic => .panic
  | .outOfFuel => .outOfFuel

instance : Monad (Outcome ε) where
  pure := .ok
  bind := Outcome.bind

@[simp]
theorem pure_eq (value : α) : (pure value : Outcome ε α) = .ok value := rfl

@[simp]
theorem ok_bind (value : α) (next : α → Outcome ε β) : (Outcome.ok value >>= next) = next value :=
  rfl

@[simp]
theorem error_bind (reason : ε) (next : α → Outcome ε β) :
    (Outcome.error reason >>= next) = .error reason := rfl

@[simp]
theorem panic_bind (next : α → Outcome ε β) : (Outcome.panic >>= next) = .panic := rfl

@[simp]
theorem outOfFuel_bind (next : α → Outcome ε β) : (Outcome.outOfFuel >>= next) = .outOfFuel := rfl

instance : LawfulMonad (Outcome ε) :=
  LawfulMonad.mk' (Outcome ε)
    (by intro _ run; cases run <;> rfl)
    (by intros; rfl)
    (by intro _ _ _ run _ _; cases run <;> rfl)

/-- A sequence returns exactly when both of its parts do. -/
theorem bind_eq_ok {run : Outcome ε α} {next : α → Outcome ε β} {result : β} :
    (run >>= next) = .ok result ↔ ∃ value, run = .ok value ∧ next value = .ok result := by
  cases run <;> simp

/-- A sequence aborts in its first part, or in its second after the first returned. -/
theorem bind_eq_panic {run : Outcome ε α} {next : α → Outcome ε β} :
    (run >>= next) = .panic ↔
      run = .panic ∨ ∃ value, run = .ok value ∧ next value = .panic := by
  cases run <;> simp

/-- A sequence fails in its first part, or in its second after the first returned. -/
theorem bind_eq_error {run : Outcome ε α} {next : α → Outcome ε β} {reason : ε} :
    (run >>= next) = .error reason ↔
      run = .error reason ∨ ∃ value, run = .ok value ∧ next value = .error reason := by
  cases run <;> simp

section MapError

variable {δ : Type*}

/-- Rewrite the error value of a failed run. -/
def mapError (rewrite : ε → δ) : Outcome ε α → Outcome δ α
  | .ok value => .ok value
  | .error reason => .error (rewrite reason)
  | .panic => .panic
  | .outOfFuel => .outOfFuel

@[simp]
theorem mapError_ok (rewrite : ε → δ) (value : α) :
    (Outcome.ok value).mapError rewrite = .ok value := rfl

@[simp]
theorem mapError_error (rewrite : ε → δ) (reason : ε) :
    (Outcome.error reason : Outcome ε α).mapError rewrite = .error (rewrite reason) := rfl

@[simp]
theorem mapError_panic (rewrite : ε → δ) :
    (Outcome.panic : Outcome ε α).mapError rewrite = .panic := rfl

@[simp]
theorem mapError_outOfFuel (rewrite : ε → δ) :
    (Outcome.outOfFuel : Outcome ε α).mapError rewrite = .outOfFuel := rfl

@[simp]
theorem mapError_eq_ok {rewrite : ε → δ} {run : Outcome ε α} {value : α} :
    run.mapError rewrite = .ok value ↔ run = .ok value := by
  cases run <;> simp

@[simp]
theorem mapError_eq_panic {rewrite : ε → δ} {run : Outcome ε α} :
    run.mapError rewrite = .panic ↔ run = .panic := by
  cases run <;> simp

theorem mapError_eq_error {rewrite : ε → δ} {run : Outcome ε α} {reason : δ} :
    run.mapError rewrite = .error reason ↔
      ∃ inner, run = .error inner ∧ rewrite inner = reason := by
  cases run <;> simp

end MapError

/-- The run returned a value. -/
def Succeeds (run : Outcome ε α) : Prop :=
  ∃ value, run = .ok value

@[simp]
theorem succeeds_ok (value : α) : (Outcome.ok value : Outcome ε α).Succeeds := ⟨value, rfl⟩

@[simp]
theorem not_succeeds_error (reason : ε) : ¬ (Outcome.error reason : Outcome ε α).Succeeds := by
  simp [Succeeds]

@[simp]
theorem not_succeeds_panic : ¬ (Outcome.panic : Outcome ε α).Succeeds := by
  simp [Succeeds]

/-- The run hands back a value or an error. -/
def Returns (run : Outcome ε α) : Prop := (∃ value, run = .ok value) ∨ ∃ reason, run = .error reason

theorem returns_ok (value : α) : (Outcome.ok value : Outcome ε α).Returns := .inl ⟨value, rfl⟩

theorem returns_error (reason : ε) : (Outcome.error reason : Outcome ε α).Returns :=
  .inr ⟨reason, rfl⟩

@[simp]
theorem not_returns_panic : ¬ (Outcome.panic : Outcome ε α).Returns := by
  simp [Returns]

@[simp]
theorem not_returns_outOfFuel : ¬ (Outcome.outOfFuel : Outcome ε α).Returns := by
  simp [Returns]

theorem Returns.ne_outOfFuel {run : Outcome ε α} (returns : run.Returns) : run ≠ .outOfFuel := by
  rintro rfl
  exact not_returns_outOfFuel returns

/-- Two steps return exactly when the first does, and the second on what the first hands on. -/
theorem returns_bind {run : Outcome ε α} {next : α → Outcome ε β} :
    (run >>= next).Returns ↔ run.Returns ∧ ∀ value, run = .ok value → (next value).Returns := by
  cases run with
  | ok value => simp [returns_ok]
  | error reason => simp [returns_error]
  | panic => simp
  | outOfFuel => simp

theorem returns_mapError {rewrite : ε → δ} {run : Outcome ε α} :
    (run.mapError rewrite).Returns ↔ run.Returns := by
  cases run with
  | ok value => simp [returns_ok]
  | error reason => simp [returns_error]
  | panic => simp
  | outOfFuel => simp

end Outcome
