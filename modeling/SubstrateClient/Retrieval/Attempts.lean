import SubstrateClient.Retrieval.Exec

/-!
# Attempts and fallbacks of one execution

`ExecWithFallback` over arbitrary sequences of outcomes: the `i`-th call of either function has the
`i`-th outcome of its sequence, and the calls are recorded in order.  A run ends in one of three
ways, from which the number of calls, the result and the collected errors are read off.
-/

namespace SubstrateClient.Retrieval

/-- The two functions. -/
inductive CallKind where
  | exec | fallback
  deriving DecidableEq, Repr

/-- The first calls of an alternation that begins with the exec function. -/
def alternation : Nat → List CallKind
  | 0 => []
  | count + 1 => alternation count ++ [if count % 2 = 0 then .exec else .fallback]

theorem alternation_even_succ (count : Nat) :
    alternation (2 * count + 1) = alternation (2 * count) ++ [.exec] := by
  rw [alternation, if_pos (by omega)]

theorem alternation_odd_succ (count : Nat) :
    alternation (2 * count + 2) = alternation (2 * count + 1) ++ [.fallback] := by
  rw [alternation, if_neg (by omega)]

@[simp]
theorem length_alternation (count : Nat) : (alternation count).length = count := by
  induction count with
  | zero => rfl
  | succ count ih => simp [alternation, ih]

/-- Both functions take half of the calls, the exec function the larger half. -/
theorem count_alternation (count : Nat) :
    (alternation count).count .exec = (count + 1) / 2 ∧
      (alternation count).count .fallback = count / 2 := by
  induction count with
  | zero => exact ⟨rfl, rfl⟩
  | succ count ih =>
      rw [alternation, List.count_append, List.count_append, ih.1, ih.2]
      by_cases even : count % 2 = 0
      · rw [if_pos even]
        simp only [List.count_singleton, beq_self_eq_true, if_true, beq_iff_eq, reduceCtorEq, if_false]
        omega
      · rw [if_neg even]
        simp only [List.count_singleton, beq_self_eq_true, if_true, beq_iff_eq, reduceCtorEq, if_false]
        omega

section Attempts

variable {α : Type}

/-- The outcome of a function that returns. -/
def ofReturn {β : Type} : Except GoError β → Outcome GoError β
  | .ok value => .ok value
  | .error err => .error err

/-- The exec function with the given outcomes, recording its calls. -/
def scriptedExec (outcomes : Nat → Except GoError α) : Session (List CallKind) GoError α :=
  fun calls => (ofReturn (outcomes (calls.count .exec)), calls ++ [.exec])

/-- The fallback function with the given outcomes, recording its calls. -/
def scriptedFallback (fallbacks : Nat → Except GoError Unit) : Session (List CallKind) GoError Unit :=
  fun calls => (ofReturn (fallbacks (calls.count .fallback)), calls ++ [.fallback])

/-- The entry of one attempt in the collected errors: none for an attempt that returned. -/
def execEntry (outcomes : Nat → Except GoError α) (attempt : Nat) : List GoError :=
  match outcomes attempt with
  | .ok _ => []
  | .error err => [.annotated "exec function error: " err]

/-- The entries of the first attempts, in order. -/
def execEntries (outcomes : Nat → Except GoError α) (count : Nat) : List GoError :=
  (List.range count).flatMap (execEntry outcomes)

theorem execEntries_succ {outcomes : Nat → Except GoError α} {count : Nat} {err : GoError}
    (failed : outcomes count = .error err) :
    execEntries outcomes (count + 1) =
      execEntries outcomes count ++ [.annotated "exec function error: " err] := by
  rw [execEntries, List.range_succ, List.flatMap_append, List.flatMap_singleton, execEntry, failed]
  rfl

variable (opts : Opts) (outcomes : Nat → Except GoError α) (fallbacks : Nat → Except GoError Unit)

/-- The attempts before the given one failed and nothing stopped the loop. -/
def ReachedAttempt (attempt : Nat) : Prop :=
  ∀ earlier < attempt, (∃ err, outcomes earlier = .error err) ∧
    (opts.retryOnFallbackError = true ∨ fallbacks earlier = .ok ())

/-- The ways in which a run ends, with the calls it has made. -/
inductive Ends : Outcome ExecError α → List CallKind → Prop where
  /-- An attempt returned. -/
  | returned (attempt : Nat) (res : α) (within : attempt ≤ opts.maxRetryCount)
      (reached : ReachedAttempt opts outcomes fallbacks attempt)
      (succeeded : outcomes attempt = .ok res) :
      Ends (.ok res) (alternation (2 * attempt + 1))
  /-- The last permitted attempt failed. -/
  | exhausted (err : GoError) (reached : ReachedAttempt opts outcomes fallbacks opts.maxRetryCount)
      (failed : outcomes opts.maxRetryCount = .error err) :
      Ends (.error (.collected (execEntries outcomes (opts.maxRetryCount + 1))))
        (alternation (2 * opts.maxRetryCount + 1))
  /-- A fallback failed where that is not forgiven. -/
  | stopped (attempt : Nat) (err fallbackErr : GoError) (within : attempt < opts.maxRetryCount)
      (reached : ReachedAttempt opts outcomes fallbacks attempt)
      (failed : outcomes attempt = .error err)
      (strict : opts.retryOnFallbackError = false)
      (fallback_failed : fallbacks attempt = .error fallbackErr) :
      Ends (.error (.collected (execEntries outcomes (attempt + 1) ++
          [.annotated "fallback function error: " fallbackErr])))
        (alternation (2 * attempt + 2))

variable {opts outcomes fallbacks}

theorem ReachedAttempt.succ {attempt : Nat} (reached : ReachedAttempt opts outcomes fallbacks attempt)
    {err : GoError} (failed : outcomes attempt = .error err)
    (forgiven : opts.retryOnFallbackError = true ∨ fallbacks attempt = .ok ()) :
    ReachedAttempt opts outcomes fallbacks (attempt + 1) := by
  intro earlier earlier_lt
  rcases Nat.lt_succ_iff_lt_or_eq.mp earlier_lt with before | rfl
  · exact reached earlier before
  · exact ⟨⟨err, failed⟩, forgiven⟩

/-- Attempts are made up to the first one that succeeds. -/
theorem ReachedAttempt.le_of_succeeds {attempt later : Nat} {res : α}
    (reached : ReachedAttempt opts outcomes fallbacks later) (succeeded : outcomes attempt = .ok res) :
    later ≤ attempt := by
  by_contra after
  obtain ⟨err, failed⟩ := (reached attempt (not_le.mp after)).1
  rw [succeeded] at failed
  cases failed

theorem scriptedExec_apply (outcomes : Nat → Except GoError α) (attempt : Nat) :
    scriptedExec outcomes (alternation (2 * attempt)) =
      (ofReturn (outcomes attempt), alternation (2 * attempt + 1)) := by
  rw [scriptedExec, (count_alternation _).1, alternation_even_succ]
  congr 3
  omega

theorem scriptedFallback_apply (fallbacks : Nat → Except GoError Unit) (attempt : Nat) :
    scriptedFallback fallbacks (alternation (2 * attempt + 1)) =
      (ofReturn (fallbacks attempt), alternation (2 * attempt + 2)) := by
  rw [scriptedFallback, (count_alternation _).2, alternation_odd_succ]
  congr 3
  omega

/-- From any attempt that is reached, the loop ends in one of the three ways. -/
theorem ends_execLoop (retriesLeft attempt : Nat) (left : attempt + retriesLeft = opts.maxRetryCount)
    (reached : ReachedAttempt opts outcomes fallbacks attempt) :
    ∃ result calls, execLoop opts.retryOnFallbackError (scriptedExec outcomes)
        (scriptedFallback fallbacks) retriesLeft (execEntries outcomes attempt)
        (alternation (2 * attempt)) = (result, calls) ∧ Ends opts outcomes fallbacks result calls := by
  have exec_call := scriptedExec_apply outcomes attempt
  have fallback_call := scriptedFallback_apply fallbacks attempt
  induction retriesLeft generalizing attempt with
  | zero =>
      obtain rfl : attempt = opts.maxRetryCount := left
      cases outcome : outcomes opts.maxRetryCount with
      | ok res =>
          rw [outcome] at exec_call
          exact ⟨_, _, execLoop_of_ok exec_call 0 _, .returned _ res le_rfl reached outcome⟩
      | error err =>
          rw [outcome] at exec_call
          have ends := Ends.exhausted err reached outcome
          rw [execEntries_succ outcome] at ends
          exact ⟨_, _, execLoop_zero_of_error exec_call _, ends⟩
  | succ retriesLeft ih =>
      have within : attempt < opts.maxRetryCount := by omega
      cases outcome : outcomes attempt with
      | ok res =>
          rw [outcome] at exec_call
          exact ⟨_, _, execLoop_of_ok exec_call _ _, .returned _ res within.le reached outcome⟩
      | error err =>
          rw [outcome] at exec_call
          have again : ∀ forgiven : opts.retryOnFallbackError = true ∨ fallbacks attempt = .ok (), _ :=
            fun forgiven => ih (attempt + 1) (by omega) (reached.succ outcome forgiven)
              (scriptedExec_apply _ _) (scriptedFallback_apply _ _)
          rw [execEntries_succ outcome] at again
          cases repair : fallbacks attempt with
          | ok =>
              rw [repair] at fallback_call
              rw [execLoop_succ_of_repair exec_call (.inl fallback_call)]
              exact again (.inr repair)
          | error fallbackErr =>
              rw [repair] at fallback_call
              cases strict : opts.retryOnFallbackError with
              | true =>
                  rw [strict] at again
                  rw [execLoop_succ_of_repair exec_call (.inr ⟨rfl, fallbackErr, fallback_call⟩)]
                  exact again (.inl rfl)
              | false =>
                  have ends := Ends.stopped attempt err fallbackErr within reached outcome strict repair
                  rw [execEntries_succ outcome] at ends
                  exact ⟨_, _, execLoop_succ_of_stop exec_call fallback_call _ _, ends⟩

/-! ## What is read off an ending -/

variable (opts outcomes fallbacks) in
/-- The attempts before the given one fail, it returns, and the fallbacks before it are forgiven or
return. -/
def SucceedsAt (attempt : Nat) (res : α) : Prop :=
  (∀ earlier < attempt, ∃ err, outcomes earlier = .error err) ∧ outcomes attempt = .ok res ∧
    (opts.retryOnFallbackError = true ∨ ∀ earlier < attempt, fallbacks earlier = .ok ())

variable (opts fallbacks) in
/-- The last call was a fallback whose failure is not forgiven. -/
def StoppedByFallback (calls : List CallKind) (fallbackErr : GoError) : Prop :=
  opts.retryOnFallbackError = false ∧ ∃ attempt, calls = alternation (2 * attempt + 2) ∧
    fallbacks attempt = .error fallbackErr

theorem succeedsAt_iff {attempt : Nat} {res : α} :
    SucceedsAt opts outcomes fallbacks attempt res ↔
      ReachedAttempt opts outcomes fallbacks attempt ∧ outcomes attempt = .ok res := by
  constructor
  · rintro ⟨failed, succeeded, forgiven⟩
    refine ⟨fun earlier earlier_lt => ⟨failed earlier earlier_lt, ?_⟩, succeeded⟩
    exact forgiven.imp_right fun returned => returned earlier earlier_lt
  · rintro ⟨reached, succeeded⟩
    refine ⟨fun earlier earlier_lt => (reached earlier earlier_lt).1, succeeded, ?_⟩
    by_cases forgiven : opts.retryOnFallbackError = true
    · exact .inl forgiven
    · exact .inr fun earlier earlier_lt => (reached earlier earlier_lt).2.resolve_left forgiven

/-- Lengths decide between alternations. -/
theorem alternation_injective {left right : Nat} (same : alternation left = alternation right) :
    left = right := by
  simpa using congrArg List.length same

variable {result : Outcome ExecError α} {calls : List CallKind}

theorem Ends.alternates (ends : Ends opts outcomes fallbacks result calls) :
    calls = alternation calls.length := by
  cases ends <;> rw [length_alternation]

theorem Ends.returns (ends : Ends opts outcomes fallbacks result calls) : result.Returns := by
  cases ends with
  | returned attempt res => exact Outcome.returns_ok res
  | exhausted err => exact Outcome.returns_error _
  | stopped attempt err fallbackErr => exact Outcome.returns_error _

theorem Ends.exec_count_le (ends : Ends opts outcomes fallbacks result calls) :
    calls.count .exec ≤ opts.maxRetryCount + 1 := by
  cases ends with
  | returned attempt res within =>
      rw [(count_alternation _).1]
      omega
  | exhausted err =>
      rw [(count_alternation _).1]
      omega
  | stopped attempt err fallbackErr within =>
      rw [(count_alternation _).1]
      omega

theorem Ends.fallback_count (ends : Ends opts outcomes fallbacks result calls) :
    calls.count .fallback + 1 = calls.count .exec ∨
      calls.count .fallback = calls.count .exec ∧
        ∃ fallbackErr, StoppedByFallback opts fallbacks calls fallbackErr := by
  cases ends with
  | returned attempt res within =>
      rw [(count_alternation _).1, (count_alternation _).2]
      exact .inl (by omega)
  | exhausted err =>
      rw [(count_alternation _).1, (count_alternation _).2]
      exact .inl (by omega)
  | stopped attempt err fallbackErr within reached failed strict fallback_failed =>
      rw [(count_alternation _).1, (count_alternation _).2]
      exact .inr ⟨by omega, fallbackErr, strict, attempt, rfl, fallback_failed⟩

/-- A value is returned exactly when some permitted attempt succeeds, and then it is that attempt's. -/
theorem Ends.ok_iff (ends : Ends opts outcomes fallbacks result calls) (res : α) :
    result = .ok res ↔
      ∃ attempt ≤ opts.maxRetryCount, SucceedsAt opts outcomes fallbacks attempt res := by
  simp only [succeedsAt_iff]
  constructor
  · rintro rfl
    cases ends with
    | returned attempt _ within reached succeeded => exact ⟨attempt, within, reached, succeeded⟩
  · rintro ⟨attempt, within, reached, succeeded⟩
    cases ends with
    | returned other otherRes other_within other_reached other_succeeded =>
        obtain rfl : attempt = other := Nat.le_antisymm (reached.le_of_succeeds other_succeeded)
          (other_reached.le_of_succeeds succeeded)
        rw [succeeded] at other_succeeded
        cases other_succeeded
        rfl
    | exhausted err last_reached failed =>
        obtain rfl : attempt = opts.maxRetryCount :=
          Nat.le_antisymm within (last_reached.le_of_succeeds succeeded)
        rw [succeeded] at failed
        cases failed
    | stopped other err fallbackErr other_within other_reached failed strict fallback_failed =>
        rcases (other_reached.le_of_succeeds succeeded).lt_or_eq with after | rfl
        · rcases (reached other after).2 with forgiven | returned
          · rw [strict] at forgiven
            cases forgiven
          · rw [fallback_failed] at returned
            cases returned
        · rw [succeeded] at failed
          cases failed

theorem stoppedByFallback_even {attempt : Nat} {fallbackErr : GoError} :
    ¬ StoppedByFallback opts fallbacks (alternation (2 * attempt + 1)) fallbackErr := by
  rintro ⟨-, other, same, -⟩
  have lengths := alternation_injective same
  omega

/-- The errors of a run that returns no value: the entries of its attempts, which all failed, and
the fallback's if that stopped it. -/
theorem Ends.error_entries (ends : Ends opts outcomes fallbacks result calls)
    (no_value : ∀ res, result ≠ .ok res) :
    (∀ attempt < calls.count .exec, ∃ err, outcomes attempt = .error err) ∧
      ∃ errs, result = .error (.collected (execEntries outcomes (calls.count .exec) ++ errs)) ∧
        ((∃ fallbackErr, StoppedByFallback opts fallbacks calls fallbackErr ∧
            errs = [.annotated "fallback function error: " fallbackErr]) ∨
          (∀ fallbackErr, ¬ StoppedByFallback opts fallbacks calls fallbackErr) ∧ errs = []) := by
  have all_failed : ∀ last err, ReachedAttempt opts outcomes fallbacks last →
      outcomes last = .error err → ∀ attempt < last + 1, ∃ err, outcomes attempt = .error err := by
    intro last err reached failed attempt attempt_lt
    rcases Nat.lt_succ_iff_lt_or_eq.mp attempt_lt with before | rfl
    · exact (reached attempt before).1
    · exact ⟨err, failed⟩
  cases ends with
  | returned attempt res => exact absurd rfl (no_value res)
  | exhausted err reached failed =>
      have count : (alternation (2 * opts.maxRetryCount + 1)).count .exec = opts.maxRetryCount + 1 := by
        rw [(count_alternation _).1]
        omega
      rw [count]
      refine ⟨all_failed _ err reached failed, [], by rw [List.append_nil], .inr ⟨?_, rfl⟩⟩
      exact fun fallbackErr => stoppedByFallback_even
  | stopped attempt err fallbackErr within reached failed strict fallback_failed =>
      have count : (alternation (2 * attempt + 2)).count .exec = attempt + 1 := by
        rw [(count_alternation _).1]
        omega
      rw [count]
      refine ⟨all_failed _ err reached failed, _, rfl, .inl ⟨fallbackErr, ?_, rfl⟩⟩
      exact ⟨strict, attempt, rfl, fallback_failed⟩

/-- `ExecWithFallback` over all outcomes of both functions: it ends; its calls alternate, beginning
with the exec function; it returns a value exactly when a permitted attempt succeeds before anything
stops it; and otherwise its error lists the failed attempts, and the fallback that stopped it. -/
theorem execWithFallback_spec (opts : Opts) (outcomes : Nat → Except GoError α)
    (fallbacks : Nat → Except GoError Unit) :
    ∃ result calls, execWithFallback opts (some (scriptedExec outcomes))
        (some (scriptedFallback fallbacks)) [] = (result, calls) ∧
      result.Returns ∧
      calls = alternation calls.length ∧
      calls.count .exec ≤ opts.maxRetryCount + 1 ∧
      (calls.count .fallback + 1 = calls.count .exec ∨
        calls.count .fallback = calls.count .exec ∧
          ∃ fallbackErr, StoppedByFallback opts fallbacks calls fallbackErr) ∧
      (∀ res, result = .ok res ↔
        ∃ attempt ≤ opts.maxRetryCount, SucceedsAt opts outcomes fallbacks attempt res) ∧
      ((∀ res, result ≠ .ok res) →
        (∀ attempt < calls.count .exec, ∃ err, outcomes attempt = .error err) ∧
          ∃ errs, result = .error (.collected (execEntries outcomes (calls.count .exec) ++ errs)) ∧
            ((∃ fallbackErr, StoppedByFallback opts fallbacks calls fallbackErr ∧
                errs = [.annotated "fallback function error: " fallbackErr]) ∨
              (∀ fallbackErr, ¬ StoppedByFallback opts fallbacks calls fallbackErr) ∧ errs = [])) := by
  have start : ReachedAttempt opts outcomes fallbacks 0 :=
    fun earlier before => absurd before (by omega)
  obtain ⟨result, calls, run, ends⟩ := ends_execLoop opts.maxRetryCount 0 (by omega) start
  exact ⟨result, calls, run, ends.returns, ends.alternates, ends.exec_count_le, ends.fallback_count,
    ends.ok_iff, ends.error_entries⟩

/-- One retry is permitted, and the failing fallback forestalls it. -/
theorem execWithFallback_spec_stopped :
    execWithFallback ⟨1, false⟩ (some (scriptedExec fun _ => (.error .eof : Except GoError Nat)))
        (some (scriptedFallback fun _ => .error .unexpectedEOF)) [] =
      (.error (.collected ([.annotated "exec function error: " .eof] ++
        [.annotated "fallback function error: " .unexpectedEOF])), [.exec, .fallback]) ∧
    ∃ fallbackErr, StoppedByFallback ⟨1, false⟩ (fun _ => .error .unexpectedEOF)
      [.exec, .fallback] fallbackErr := by
  have run : execWithFallback ⟨1, false⟩
      (some (scriptedExec fun _ => (.error .eof : Except GoError Nat)))
      (some (scriptedFallback fun _ => .error .unexpectedEOF)) [] =
      (.error (.collected ([.annotated "exec function error: " .eof] ++
        [.annotated "fallback function error: " .unexpectedEOF])), [.exec, .fallback]) := by rfl
  obtain ⟨result, calls, same, -, -, -, -, -, errors⟩ := execWithFallback_spec ⟨1, false⟩
    (fun _ => (.error .eof : Except GoError Nat)) (fun _ => .error .unexpectedEOF)
  rw [run] at same
  cases same
  refine ⟨run, ?_⟩
  obtain ⟨-, errs, collected, ⟨fallbackErr, stopped, -⟩ | ⟨-, rfl⟩⟩ := errors (fun res => nofun)
  · exact ⟨fallbackErr, stopped⟩
  · cases collected

end Attempts

end SubstrateClient.Retrieval
