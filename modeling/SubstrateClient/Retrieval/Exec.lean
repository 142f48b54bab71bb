import SubstrateClient.Scale.Stream
import SubstrateClient.Sessions

/-!
# Execution with a fallback

`ExecWithFallback` runs a function until it returns a value, with a fallback between two attempts.
Sleeping between attempts is not modelled.
-/

namespace SubstrateClient.Retrieval

/-- `exec.Opts` without the timeout. -/
structure Opts where
  maxRetryCount : Nat
  retryOnFallbackError : Bool
  deriving DecidableEq, Repr

def defaultMaxRetryCount : Nat := 3

/-- `NewDefaultExecOpts`. -/
def newDefaultExecOpts : Opts := ⟨defaultMaxRetryCount, true⟩

/-- `WithMaxRetryCount`: zero stands for the default. -/
def withMaxRetryCount (maxRetryCount : Nat) (opts : Opts) : Opts :=
  { opts with maxRetryCount := if maxRetryCount = 0 then defaultMaxRetryCount else maxRetryCount }

/-- `WithRetryOnFallBackError`. -/
def withRetryOnFallBackError (retryOnFallbackError : Bool) (opts : Opts) : Opts :=
  { opts with retryOnFallbackError := retryOnFallbackError }

/-- The errors of `ExecWithFallback`. -/
inductive ExecError where
  /-- `ErrMissingExecFn`. -/
  | missingExecFn
  /-- `ErrMissingFallbackFn`. -/
  | missingFallbackFn
  /-- `exec.Error`, with the errors collected on the way. -/
  | collected (errs : List GoError)
  deriving DecidableEq, Repr

section Executor

variable {S α : Type}

/-- The loop of `ExecWithFallback`, with the number of retries left and the errors so far. -/
def execLoop (retryOnFallbackError : Bool) (execFn : Session S GoError α)
    (fallbackFn : Session S GoError Unit) : Nat → List GoError → Session S ExecError α
  | retriesLeft, errs => fun state =>
      match execFn state with
      | (.ok res, after) => (.ok res, after)
      | (.panic, after) => (.panic, after)
      | (.outOfFuel, after) => (.outOfFuel, after)
      | (.error err, after) =>
          let execErr := errs ++ [.annotated "exec function error: " err]
          match retriesLeft with
          | 0 => (.error (.collected execErr), after)
          | retriesLeft + 1 =>
              match fallbackFn after with
              | (.ok (), repaired) =>
                  execLoop retryOnFallbackError execFn fallbackFn retriesLeft execErr repaired
              | (.panic, repaired) => (.panic, repaired)
              | (.outOfFuel, repaired) => (.outOfFuel, repaired)
              | (.error fallbackErr, repaired) =>
                  if retryOnFallbackError then
                    execLoop retryOnFallbackError execFn fallbackFn retriesLeft execErr repaired
                  else
                    (.error (.collected
                      (execErr ++ [.annotated "fallback function error: " fallbackErr])), repaired)

/-- `ExecWithFallback`. -/
def execWithFallback (opts : Opts) (execFn : Option (Session S GoError α))
    (fallbackFn : Option (Session S GoError Unit)) : Session S ExecError α := fun state =>
  match execFn, fallbackFn with
  | none, _ => (.error .missingExecFn, state)
  | some _, none => (.error .missingFallbackFn, state)
  | some execFn, some fallbackFn =>
      execLoop opts.retryOnFallbackError execFn fallbackFn opts.maxRetryCount [] state

variable {execFn : Session S GoError α} {fallbackFn : Session S GoError Unit}

/-- An attempt that returns ends the loop. -/
theorem execLoop_of_ok {retryOnFallbackError : Bool} {state after : S} {res : α}
    (ran : execFn state = (.ok res, after)) (retriesLeft : Nat) (errs : List GoError) :
    execLoop retryOnFallbackError execFn fallbackFn retriesLeft errs state = (.ok res, after) := by
  simp only [execLoop, ran]

/-- A failed attempt ends the loop when no retries are left. -/
theorem execLoop_zero_of_error {retryOnFallbackError : Bool} {state after : S} {err : GoError}
    (failed : execFn state = (.error err, after)) (errs : List GoError) :
    execLoop retryOnFallbackError execFn fallbackFn 0 errs state =
      (.error (.collected (errs ++ [.annotated "exec function error: " err])), after) := by
  simp only [execLoop, failed]

/-- A failed attempt is repeated after the fallback. -/
theorem execLoop_succ_of_repair {retryOnFallbackError : Bool} {state after repaired : S}
    {err : GoError} (failed : execFn state = (.error err, after))
    (repair : fallbackFn after = (.ok (), repaired) ∨
      retryOnFallbackError = true ∧ ∃ fallbackErr, fallbackFn after = (.error fallbackErr, repaired))
    (retriesLeft : Nat) (errs : List GoError) :
    execLoop retryOnFallbackError execFn fallbackFn (retriesLeft + 1) errs state =
      execLoop retryOnFallbackError execFn fallbackFn retriesLeft
        (errs ++ [.annotated "exec function error: " err]) repaired := by
  rw [execLoop]
  rcases repair with repair | ⟨forgiven, fallbackErr, repair⟩
  · simp only [failed, repair]
  · simp only [failed, repair, forgiven, if_true]

/-- A failed fallback ends the loop where it is not forgiven. -/
theorem execLoop_succ_of_stop {state after repaired : S} {err fallbackErr : GoError}
    (failed : execFn state = (.error err, after))
    (repair : fallbackFn after = (.error fallbackErr, repaired)) (retriesLeft : Nat)
    (errs : List GoError) :
    execLoop false execFn fallbackFn (retriesLeft + 1) errs state =
      (.error (.collected (errs ++ [.annotated "exec function error: " err] ++
        [.annotated "fallback function error: " fallbackErr])), repaired) := by
  rw [execLoop]
  simp only [failed, repair, Bool.false_eq_true, if_false]

/-- A first attempt that returns is the result. -/
theorem execWithFallback_of_ok {opts : Opts} {state after : S} {res : α}
    (ran : execFn state = (.ok res, after)) :
    execWithFallback opts (some execFn) (some fallbackFn) state = (.ok res, after) :=
  execLoop_of_ok ran opts.maxRetryCount []

/-- What a failed attempt and the fallback keep holds before every attempt. -/
theorem ensures_execLoop {retryOnFallbackError : Bool} {invariant : S → Prop} {returned : α → S → Prop}
    (attempt : Session.Ensures invariant execFn returned invariant)
    (repair : Session.Ensures invariant fallbackFn (fun _ => invariant) invariant)
    (retriesLeft : Nat) (errs : List GoError) :
    Session.Ensures invariant (execLoop retryOnFallbackError execFn fallbackFn retriesLeft errs) returned
      invariant := by
  induction retriesLeft generalizing errs with
  | zero =>
      intro state start
      have ends := attempt state start
      unfold execLoop
      generalize execFn state = ending at ends ⊢
      obtain ⟨outcome, after⟩ := ending
      cases outcome <;> exact ends
  | succ retriesLeft ih =>
      intro state start
      have ends := attempt state start
      unfold execLoop
      generalize execFn state = ending at ends ⊢
      obtain ⟨outcome, after⟩ := ending
      cases outcome with
      | ok res => exact ends
      | panic | outOfFuel => exact ends
      | error err =>
          have repaired_ends := repair after ends
          dsimp only
          generalize fallbackFn after = ending at repaired_ends ⊢
          obtain ⟨repair_outcome, repaired⟩ := ending
          cases repair_outcome with
          | ok => exact ih _ repaired repaired_ends
          | panic | outOfFuel => exact repaired_ends
          | error fallbackErr =>
              dsimp only
              split_ifs
              · exact ih _ repaired repaired_ends
              · exact repaired_ends

/-- The rule for `ExecWithFallback`. -/
theorem ensures_execWithFallback (opts : Opts) {invariant : S → Prop} {returned : α → S → Prop}
    (attempt : Session.Ensures invariant execFn returned invariant)
    (repair : Session.Ensures invariant fallbackFn (fun _ => invariant) invariant) :
    Session.Ensures invariant (execWithFallback opts (some execFn) (some fallbackFn)) returned invariant :=
  ensures_execLoop attempt repair opts.maxRetryCount []

end Executor

end SubstrateClient.Retrieval
