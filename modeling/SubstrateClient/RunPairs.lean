import SubstrateClient.ByteParser

/-!
# Pairs of runs

Two runs of parsers on one input that differ in where they start from.  `Alike` says that both succeed or none
does, that they consume the same, and exactly when the values they return count as the same.
-/

namespace ByteParser

variable {ε α β : Type}

/-- Both runs fail, or both succeed with the same rest, and their values are the same exactly unless `stale`
holds. -/
structure Alike (same : α → α → Prop) (stale : Prop) (first second : Outcome ε (α × List UInt8)) : Prop where
  ok_right : ∀ value rest, first = .ok (value, rest) →
    ∃ other, second = .ok (other, rest) ∧ (same value other ↔ ¬ stale)
  ok_left : ∀ other rest, second = .ok (other, rest) → ∃ value, first = .ok (value, rest)

section Alike

variable {same : α → α → Prop} {stale : Prop} {first second : Outcome ε (α × List UInt8)}

/-- Two failing runs are alike. -/
theorem alike_of_not_succeeds (first_fails : ¬ first.Succeeds) (second_fails : ¬ second.Succeeds) :
    Alike same stale first second where
  ok_right := fun _ _ run => absurd ⟨_, run⟩ first_fails
  ok_left := fun _ _ run => absurd ⟨_, run⟩ second_fails

/-- A run is like itself. -/
theorem alike_self (reflexive : ∀ value, same value value) (fresh : ¬ stale) :
    Alike same stale first first where
  ok_right := fun value _ run => ⟨value, run, iff_of_true (reflexive value) fresh⟩
  ok_left := fun other _ run => ⟨other, run⟩

/-- The last step keeps the comparison if the relation on its values says as much. -/
theorem alike_pure {value other : α} {rest : List UInt8} (values : same value other ↔ ¬ stale) :
    Alike same stale ((pure value : ByteParser ε α) rest) ((pure other : ByteParser ε α) rest) where
  ok_right := by
    rintro _ _ ⟨⟩
    exact ⟨other, rfl, values⟩
  ok_left := by
    rintro _ _ ⟨⟩
    exact ⟨value, rfl⟩

/-- The runs are continued alike from where both have arrived. -/
theorem Alike.bind {same' : β → β → Prop} {stale' : Prop} (alike : Alike same stale first second)
    {next other : α × List UInt8 → Outcome ε (β × List UInt8)}
    (continued : ∀ value value' rest, first = .ok (value, rest) → (same value value' ↔ ¬ stale) →
      Alike same' stale' (next (value, rest)) (other (value', rest))) :
    Alike same' stale' (first >>= next) (second >>= other) where
  ok_right := by
    intro result after run
    obtain ⟨⟨value, rest⟩, first_run, next_run⟩ := Outcome.bind_eq_ok.mp run
    obtain ⟨value', second_run, values⟩ := alike.ok_right value rest first_run
    obtain ⟨result', other_run, results⟩ :=
      (continued value value' rest first_run values).ok_right result after next_run
    exact ⟨result', Outcome.bind_eq_ok.mpr ⟨_, second_run, other_run⟩, results⟩
  ok_left := by
    intro result' after run
    obtain ⟨⟨value', rest⟩, second_run, other_run⟩ := Outcome.bind_eq_ok.mp run
    obtain ⟨value, first_run⟩ := alike.ok_left value' rest second_run
    obtain ⟨_, again, values⟩ := alike.ok_right value rest first_run
    rw [second_run] at again
    cases again
    obtain ⟨result, next_run⟩ :=
      (continued value value' rest first_run values).ok_left result' after other_run
    exact ⟨result, Outcome.bind_eq_ok.mpr ⟨_, first_run, next_run⟩⟩

/-- Rewriting the errors does not matter. -/
theorem Alike.mapError {δ : Type} (alike : Alike same stale first second) (rewrite : ε → δ) :
    Alike same stale (first.mapError rewrite) (second.mapError rewrite) where
  ok_right := by simpa only [Outcome.mapError_eq_ok] using alike.ok_right
  ok_left := by simpa only [Outcome.mapError_eq_ok] using alike.ok_left

/-- Staleness may be stated otherwise. -/
theorem Alike.congr {stale' : Prop} (alike : Alike same stale first second) (stale_iff : stale ↔ stale') :
    Alike same stale' first second :=
  propext stale_iff ▸ alike

end Alike

/-! ## Loops -/

/-- A loop over two lists of starting points arrives at a stale pair of them. -/
def StaleRun (stale : α → α → List UInt8 → Prop) (step : α → ByteParser ε β) :
    List α → List α → List UInt8 → Prop
  | start :: starts, other :: others, input =>
      stale start other input ∨
        ∃ value rest, step start input = .ok (value, rest) ∧ StaleRun stale step starts others rest
  | _, _, _ => False

theorem staleRun_cons_of_run {stale : α → α → List UInt8 → Prop} {step : α → ByteParser ε β}
    {start other : α} {starts others : List α} {input rest : List UInt8} {value : β}
    (run : step start input = .ok (value, rest)) :
    StaleRun stale step (start :: starts) (other :: others) input ↔
      stale start other input ∨ StaleRun stale step starts others rest := by
  rw [StaleRun, run]
  simp

/-- A loop over starting points that are as many. -/
theorem alike_mapM {same : β → β → Prop} {stale : α → α → List UInt8 → Prop} {step : α → ByteParser ε β}
    (each : ∀ start other input, Alike same (stale start other input) (step start input) (step other input))
    {starts others : List α} (width : starts.length = others.length) (input : List UInt8) :
    Alike (List.Forall₂ same) (StaleRun stale step starts others input) (starts.mapM step input)
      (others.mapM step input) := by
  induction starts generalizing others input with
  | nil =>
      obtain rfl := List.length_eq_zero_iff.mp width.symm
      exact alike_pure (iff_of_true .nil id)
  | cons start starts ih =>
      obtain ⟨other, others, rfl⟩ := List.exists_cons_of_length_eq_add_one width.symm
      rw [List.mapM_cons, List.mapM_cons]
      refine (each start other input).bind fun value value' rest run values => ?_
      refine (ih (Nat.succ.inj width) rest).bind fun later later' after _ laters => ?_
      refine alike_pure ?_
      rw [List.forall₂_cons, values, laters, staleRun_cons_of_run run, not_or]

/-- The same over vectors. -/
theorem alike_mapVector {same : β → β → Prop} {stale : α → α → List UInt8 → Prop}
    {step : α → ByteParser ε β}
    (each : ∀ start other input, Alike same (stale start other input) (step start input) (step other input))
    {count : Nat} (starts others : List.Vector α count) (input : List UInt8) :
    Alike (fun values values' => List.Forall₂ same values.toList values'.toList)
      (StaleRun stale step starts.toList others.toList input) (mapVector step starts input)
      (mapVector step others input) := by
  induction count generalizing input with
  | zero =>
      obtain rfl : starts = List.Vector.nil := Subsingleton.elim _ _
      obtain rfl : others = List.Vector.nil := Subsingleton.elim _ _
      exact alike_pure (iff_of_true .nil id)
  | succ count ih =>
      obtain ⟨start, starts, rfl⟩ := starts.exists_eq_cons
      obtain ⟨other, others, rfl⟩ := others.exists_eq_cons
      rw [List.Vector.toList_cons, List.Vector.toList_cons]
      refine (each start other input).bind fun value value' rest run values => ?_
      refine (ih starts others rest).bind fun later later' after _ laters => ?_
      refine alike_pure ?_
      rw [List.Vector.toList_cons, List.Vector.toList_cons, List.forall₂_cons, values, laters,
        staleRun_cons_of_run run, not_or]

end ByteParser
