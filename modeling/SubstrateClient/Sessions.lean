import SubstrateClient.Outcome

/-!
# Sessions

A session runs over a state that outlives its failures: whatever the outcome, the state it leaves is
there for the next session.  `Ensures` states what holds of the state when a value is returned and
what holds of it otherwise, and is proved rule by rule along the session.
-/

/-- A run over a state, which is kept however the run ends. -/
def Session (S ε α : Type) : Type := S → Outcome ε α × S

namespace Session

variable {S T ε δ α β : Type}

instance : Monad (Session S ε) where
  pure value := fun state => (.ok value, state)
  bind run next := fun state =>
    match run state with
    | (.ok value, after) => next value after
    | (.error reason, after) => (.error reason, after)
    | (.panic, after) => (.panic, after)
    | (.outOfFuel, after) => (.outOfFuel, after)

/-- A sequence returns exactly when both of its parts do. -/
theorem bind_eq_ok {run : Session S ε α} {next : α → Session S ε β} {state after : S} {result : β} :
    (run >>= next) state = (.ok result, after) ↔
      ∃ value middle, run state = (.ok value, middle) ∧ next value middle = (.ok result, after) := by
  change (match run state with
    | (.ok value, after) => next value after
    | (.error reason, after) => (.error reason, after)
    | (.panic, after) => (.panic, after)
    | (.outOfFuel, after) => (.outOfFuel, after)) = _ ↔ _
  generalize run state = ending
  obtain ⟨outcome, middle⟩ := ending
  cases outcome <;> simp

/-- Rewrite the error value of a failed session. -/
def mapError (rewrite : ε → δ) (run : Session S ε α) : Session S δ α := fun state =>
  ((run state).1.mapError rewrite, (run state).2)

theorem mapError_eq_ok {rewrite : ε → δ} {run : Session S ε α} {state after : S} {value : α} :
    run.mapError rewrite state = (.ok value, after) ↔ run state = (.ok value, after) := by
  rw [mapError, Prod.mk.injEq, Outcome.mapError_eq_ok, Prod.ext_iff]

/-- Set the state. -/
def modify (change : S → S) : Session S ε Unit := fun state => (.ok (), change state)

/-- Run on one component of a larger state. -/
def within (component : T → S) (replace : T → S → T) (run : Session S ε α) : Session T ε α :=
  fun state => ((run (component state)).1, replace state (run (component state)).2)

theorem within_eq_ok {component : T → S} {replace : T → S → T} {run : Session S ε α} {state after : T}
    {value : α} :
    run.within component replace state = (.ok value, after) ↔
      ∃ inner, run (component state) = (.ok value, inner) ∧ after = replace state inner := by
  rw [within, Prod.mk.injEq]
  constructor
  · rintro ⟨returned, rfl⟩
    exact ⟨_, Prod.ext returned rfl, rfl⟩
  · rintro ⟨inner, ran, rfl⟩
    rw [ran]
    exact ⟨rfl, rfl⟩

/-! ## Conditions before and after -/

/-- The ending of a session: with a value, or without. -/
def Ends (returned : α → S → Prop) (stopped : S → Prop) : Outcome ε α × S → Prop
  | (.ok value, after) => returned value after
  | (.error _, after) | (.panic, after) | (.outOfFuel, after) => stopped after

/-- From every state of the first condition the session ends as stated. -/
def Ensures (before : S → Prop) (run : Session S ε α) (returned : α → S → Prop) (stopped : S → Prop) :
    Prop :=
  ∀ state, before state → Ends returned stopped (run state)

theorem Ends.weaken {returned returned' : α → S → Prop} {stopped stopped' : S → Prop}
    {ending : Outcome ε α × S} (ends : Ends returned stopped ending)
    (on_return : ∀ value after, returned value after → returned' value after)
    (on_stop : ∀ after, stopped after → stopped' after) : Ends returned' stopped' ending := by
  obtain ⟨outcome, after⟩ := ending
  cases outcome with
  | ok value => exact on_return value after ends
  | error _ | panic | outOfFuel => exact on_stop after ends

section Rules

variable {before : S → Prop} {returned : α → S → Prop} {result : β → S → Prop} {stopped : S → Prop}

theorem ensures_pure (value : α) (holds : ∀ state, before state → returned value state) :
    Ensures before (pure value : Session S ε α) returned stopped :=
  fun state start => holds state start

theorem Ensures.bind {run : Session S ε α} {next : α → Session S ε β}
    (first : Ensures before run returned stopped)
    (second : ∀ value, Ensures (returned value) (next value) result stopped) :
    Ensures before (run >>= next) result stopped := by
  intro state start
  have ends := first state start
  change Ends result stopped (match run state with
    | (.ok value, after) => next value after
    | (.error reason, after) => (.error reason, after)
    | (.panic, after) => (.panic, after)
    | (.outOfFuel, after) => (.outOfFuel, after))
  generalize run state = ending at ends ⊢
  obtain ⟨outcome, after⟩ := ending
  cases outcome with
  | ok value => exact second value after ends
  | error _ | panic | outOfFuel => exact ends

theorem Ensures.weaken {run : Session S ε α} {returned' : α → S → Prop} {stopped' : S → Prop}
    (ensures : Ensures before run returned stopped)
    (on_return : ∀ value after, returned value after → returned' value after)
    (on_stop : ∀ after, stopped after → stopped' after) : Ensures before run returned' stopped' :=
  fun state start => (ensures state start).weaken on_return on_stop

theorem Ensures.mapError {run : Session S ε α} (ensures : Ensures before run returned stopped)
    (rewrite : ε → δ) : Ensures before (run.mapError rewrite) returned stopped := by
  intro state start
  have ends := ensures state start
  unfold Session.mapError
  generalize run state = ending at ends ⊢
  obtain ⟨outcome, after⟩ := ending
  cases outcome with
  | ok value => exact ends
  | error _ | panic | outOfFuel => exact ends

theorem ensures_modify {change : S → S} {after : Unit → S → Prop}
    (holds : ∀ state, before state → after () (change state)) :
    Ensures before (modify change : Session S ε Unit) after stopped :=
  fun state start => holds state start

/-- A session on a component changes nothing else. -/
theorem ends_within {component : T → S} {replace : T → S → T} {run : Session S ε α}
    {on_return : α → T → Prop} {on_stop : T → Prop} {state : T}
    (ends : Ends (fun value inner => on_return value (replace state inner))
      (fun inner => on_stop (replace state inner)) (run (component state))) :
    Ends on_return on_stop (run.within component replace state) := by
  unfold Session.within
  generalize run (component state) = ending at ends ⊢
  obtain ⟨outcome, inner⟩ := ending
  cases outcome with
  | ok value => exact ends
  | error _ | panic | outOfFuel => exact ends

theorem Ensures.of_eq_ok {run : Session S ε α} (ensures : Ensures before run returned stopped)
    {state after : S} {value : α} (start : before state) (ran : run state = (.ok value, after)) :
    returned value after := by
  have ends := ensures state start
  rwa [ran] at ends

theorem Ensures.of_ne_ok {run : Session S ε α} (ensures : Ensures before run returned stopped)
    {state : S} (start : before state) (failed : ∀ value, (run state).1 ≠ .ok value) :
    stopped (run state).2 := by
  have ends := ensures state start
  generalize run state = ending at ends failed ⊢
  obtain ⟨outcome, after⟩ := ending
  cases outcome with
  | ok value => exact absurd rfl (failed value)
  | error _ | panic | outOfFuel => exact ends

/-- What holds however the session ends holds after it. -/
theorem Ensures.after {run : Session S ε α} (ensures : Ensures before run (fun _ => stopped) stopped)
    {state : S} (start : before state) : stopped (run state).2 := by
  have ends := ensures state start
  generalize run state = ending at ends ⊢
  obtain ⟨outcome, after⟩ := ending
  cases outcome with
  | ok value => exact ends
  | error _ | panic | outOfFuel => exact ends

end Rules

end Session
