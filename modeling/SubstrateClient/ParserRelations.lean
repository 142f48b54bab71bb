import SubstrateClient.ByteParser

/-!
# Relations between parsers

Rules that carry a property of parser runs through sequencing, error rewriting and loops: `Avoids` for
errors that never come up, `Settles` for runs that more fuel does not change, and `Simulates` for runs
that another parser repeats up to a relation between the values, `Ensures` for what every returned value
satisfies, and `Within` for runs that another parser repeats if their value is good.
-/

namespace ByteParser

variable {ε δ α β α' β' : Type}

/-! ## Errors that never come up -/

/-- No run ends with an error of the given kind. -/
def Avoids (bad : ε → Prop) (parser : ByteParser ε α) : Prop :=
  ∀ input reason, parser input = .error reason → ¬ bad reason

section Avoids

variable {bad : ε → Prop}

theorem avoids_pure (value : α) : Avoids bad (pure value : ByteParser ε α) := by
  intro input reason run
  cases run

theorem avoids_fail {reason : ε} (harmless : ¬ bad reason) :
    Avoids bad (fail reason : ByteParser ε α) := by
  intro input other run
  cases run
  exact harmless

theorem avoids_abort : Avoids bad (abort : ByteParser ε α) := by
  intro input reason run
  cases run

theorem avoids_exhaust : Avoids bad (exhaust : ByteParser ε α) := by
  intro input reason run
  cases run

theorem Avoids.bind {parser : ByteParser ε α} {next : α → ByteParser ε β}
    (first : Avoids bad parser) (second : ∀ value, Avoids bad (next value)) :
    Avoids bad (parser >>= next) := by
  intro input reason run
  rcases Outcome.bind_eq_error.mp run with failed | ⟨result, _, failed⟩
  · exact first input reason failed
  · exact second result.1 result.2 reason failed

theorem Avoids.mapError {bad' : δ → Prop} {parser : ByteParser ε α} {rewrite : ε → δ}
    (avoids : Avoids bad parser) (reflects : ∀ reason, bad' (rewrite reason) → bad reason) :
    Avoids bad' (parser.mapError rewrite) := by
  intro input reason run is_bad
  obtain ⟨inner, failed, rfl⟩ := Outcome.mapError_eq_error.mp run
  exact avoids input inner failed (reflects inner is_bad)

theorem avoids_mapM {step : α → ByteParser ε β} {entries : List α}
    (each : ∀ entry ∈ entries, Avoids bad (step entry)) : Avoids bad (entries.mapM step) := by
  induction entries with
  | nil => exact avoids_pure []
  | cons entry entries ih =>
      rw [List.mapM_cons]
      refine (each entry List.mem_cons_self).bind fun value => ?_
      exact (ih fun other member => each other (List.mem_cons_of_mem _ member)).bind fun values =>
        avoids_pure _

theorem Avoids.times {parser : ByteParser ε α} (avoids : Avoids bad parser) (count : Nat) :
    Avoids bad (parser.times count) := by
  induction count with
  | zero => exact avoids_pure []
  | succ count ih => exact avoids.bind fun value => ih.bind fun values => avoids_pure _

end Avoids

/-! ## More fuel -/

/-- The second parser ends every run of the first in the same way, unless the first ran out. -/
def Settles (parser richer : ByteParser ε α) : Prop :=
  ∀ input, parser input ≠ .outOfFuel → richer input = parser input

theorem settles_refl (parser : ByteParser ε α) : Settles parser parser := fun _ _ => rfl

theorem Settles.ok {parser richer : ByteParser ε α} (settles : Settles parser richer)
    {input : List UInt8} {result : α × List UInt8} (run : parser input = .ok result) :
    richer input = .ok result := by
  rw [settles input (by simp [run]), run]

theorem Settles.error {parser richer : ByteParser ε α} (settles : Settles parser richer)
    {input : List UInt8} {reason : ε} (run : parser input = .error reason) :
    richer input = .error reason := by
  rw [settles input (by simp [run]), run]

theorem Settles.trans {parser richer richest : ByteParser ε α} (left : Settles parser richer)
    (right : Settles richer richest) : Settles parser richest := by
  intro input ran
  have same := left input ran
  rw [right input (by rwa [same]), same]

/-- A family of parsers that settles step by step settles. -/
theorem settles_of_le {family : Nat → ByteParser ε α}
    (step : ∀ fuel, Settles (family fuel) (family (fuel + 1))) {fuel richer : Nat}
    (le : fuel ≤ richer) : Settles (family fuel) (family richer) := by
  induction le with
  | refl => exact settles_refl _
  | step _ ih => exact ih.trans (step _)

theorem settles_exhaust (richer : ByteParser ε α) : Settles exhaust richer :=
  fun _ ran => absurd rfl ran

theorem Settles.bind {parser richer : ByteParser ε α} {next richerNext : α → ByteParser ε β}
    (first : Settles parser richer) (second : ∀ value, Settles (next value) (richerNext value)) :
    Settles (parser >>= next) (richer >>= richerNext) := by
  intro input ran
  rw [bind_apply] at ran
  have first_ran : parser input ≠ .outOfFuel := by
    intro out
    rw [out] at ran
    exact ran rfl
  rw [bind_apply, bind_apply, first input first_ran]
  cases ending : parser input with
  | ok result =>
      rw [ending] at ran
      exact second result.1 result.2 ran
  | error reason => rfl
  | panic => rfl
  | outOfFuel => exact absurd ending first_ran

theorem Settles.mapError {parser richer : ByteParser ε α} (settles : Settles parser richer)
    (rewrite : ε → δ) : Settles (parser.mapError rewrite) (richer.mapError rewrite) := by
  intro input ran
  have inner_ran : parser input ≠ .outOfFuel := by
    intro out
    rw [mapError_apply, out] at ran
    exact ran rfl
  rw [mapError_apply, mapError_apply, settles input inner_ran]

theorem settles_mapM {step richer : α → ByteParser ε β}
    (each : ∀ entry, Settles (step entry) (richer entry)) (entries : List α) :
    Settles (entries.mapM step) (entries.mapM richer) := by
  induction entries with
  | nil => exact settles_refl _
  | cons entry entries ih =>
      rw [List.mapM_cons, List.mapM_cons]
      exact (each entry).bind fun value => ih.bind fun values => settles_refl _

theorem Settles.times {parser richer : ByteParser ε α} (settles : Settles parser richer)
    (count : Nat) : Settles (parser.times count) (richer.times count) := by
  induction count with
  | zero => exact settles_refl _
  | succ count ih => exact settles.bind fun value => ih.bind fun values => settles_refl _

/-! ## Simulation -/

/-- Every successful run is repeated by the other parser with a related value and the same rest, or
the other parser gives up with an error of the escaping kind. -/
def Simulates (escapes : δ → Prop) (related : α → β → Prop) (parser : ByteParser ε α)
    (other : ByteParser δ β) : Prop :=
  ∀ input value rest, parser input = .ok (value, rest) →
    (∃ value', other input = .ok (value', rest) ∧ related value value') ∨
      ∃ reason, other input = .error reason ∧ escapes reason

section Simulates

variable {escapes : δ → Prop}

theorem simulates_pure {related : α → β → Prop} {value : α} {value' : β}
    (holds : related value value') :
    Simulates escapes related (pure value : ByteParser ε α) (pure value') := by
  intro input result rest run
  cases run
  exact .inl ⟨value', rfl, holds⟩

theorem simulates_fail {related : α → β → Prop} (reason : ε) (other : ByteParser δ β) :
    Simulates escapes related (fail reason) other := by
  intro input result rest run
  cases run

theorem simulates_abort {related : α → β → Prop} (other : ByteParser δ β) :
    Simulates escapes related (abort : ByteParser ε α) other := by
  intro input result rest run
  cases run

theorem Simulates.bind {parser : ByteParser ε α} {other : ByteParser δ β}
    {next : α → ByteParser ε α'} {otherNext : β → ByteParser δ β'}
    {related : α → β → Prop} {related' : α' → β' → Prop}
    (first : Simulates escapes related parser other)
    (second : ∀ value value', related value value' →
      Simulates escapes related' (next value) (otherNext value')) :
    Simulates escapes related' (parser >>= next) (other >>= otherNext) := by
  intro input result rest run
  obtain ⟨value, middle, parsed, continued⟩ := bind_eq_ok.mp run
  rcases first input value middle parsed with ⟨value', parsed', holds⟩ | ⟨reason, failed, escaping⟩
  · rcases second value value' holds middle result rest continued with
      ⟨result', continued', holds'⟩ | ⟨reason, failed, escaping⟩
    · exact .inl ⟨result', bind_eq_ok.mpr ⟨value', middle, parsed', continued'⟩, holds'⟩
    · refine .inr ⟨reason, ?_, escaping⟩
      rw [bind_apply, parsed']
      exact failed
  · refine .inr ⟨reason, ?_, escaping⟩
    rw [bind_apply, failed]
    rfl

theorem Simulates.mapError_left {ε' : Type} {related : α → β → Prop} {parser : ByteParser ε α}
    {other : ByteParser δ β} (simulates : Simulates escapes related parser other)
    (rewrite : ε → ε') : Simulates escapes related (parser.mapError rewrite) other :=
  fun input value rest run => simulates input value rest (Outcome.mapError_eq_ok.mp run)

theorem Simulates.mapError_right {δ' : Type} {related : α → β → Prop} {parser : ByteParser ε α}
    {other : ByteParser δ β} (simulates : Simulates (fun _ => False) related parser other)
    (rewrite : δ → δ') {escapes : δ' → Prop} :
    Simulates escapes related parser (other.mapError rewrite) := by
  intro input value rest run
  rcases simulates input value rest run with ⟨value', ran, holds⟩ | ⟨_, _, impossible⟩
  · exact .inl ⟨value', Outcome.mapError_eq_ok.mpr ran, holds⟩
  · exact impossible.elim

theorem simulates_mapM {step : α → ByteParser ε α'} {other : β → ByteParser δ β'}
    {paired : α → β → Prop} {related : α' → β' → Prop} {entries : List α} {others : List β}
    (each : ∀ entry entry', paired entry entry' →
      Simulates escapes related (step entry) (other entry'))
    (pairs : List.Forall₂ paired entries others) :
    Simulates escapes (List.Forall₂ related) (entries.mapM step) (others.mapM other) := by
  induction pairs with
  | nil => exact simulates_pure .nil
  | cons pair _ ih =>
      rw [List.mapM_cons, List.mapM_cons]
      exact (each _ _ pair).bind fun value value' holds =>
        ih.bind fun values values' later => simulates_pure (.cons holds later)

theorem Simulates.times {related : α → β → Prop} {parser : ByteParser ε α} {other : ByteParser δ β}
    (simulates : Simulates escapes related parser other) (count : Nat) :
    Simulates escapes (List.Forall₂ related) (parser.times count) (other.times count) := by
  induction count with
  | zero => exact simulates_pure .nil
  | succ count ih =>
      exact simulates.bind fun value value' holds =>
        ih.bind fun values values' later => simulates_pure (.cons holds later)

theorem Simulates.settle {related : α → β → Prop} {parser : ByteParser ε α}
    {other richer : ByteParser δ β} (simulates : Simulates escapes related parser other)
    (settles : Settles other richer) : Simulates escapes related parser richer := by
  intro input value rest run
  rcases simulates input value rest run with ⟨value', ran, holds⟩ | ⟨reason, failed, escaping⟩
  · exact .inl ⟨value', settles.ok ran, holds⟩
  · exact .inr ⟨reason, settles.error failed, escaping⟩

/-- Rewriting errors changes no returned value. -/
theorem simulates_mapError {ε' : Type} (parser : ByteParser ε α) (rewrite : ε → ε')
    (other : ε → δ) :
    Simulates escapes Eq (parser.mapError rewrite) (parser.mapError other) := by
  intro input value rest run
  refine .inl ⟨value, ?_, rfl⟩
  exact Outcome.mapError_eq_ok.mpr (Outcome.mapError_eq_ok.mp run)

theorem simulates_refl {escapes : ε → Prop} (parser : ByteParser ε α) :
    Simulates escapes Eq parser parser :=
  fun _ value _ run => .inl ⟨value, run, rfl⟩

theorem Simulates.bind_eq {parser : ByteParser ε α} {other : ByteParser δ α}
    {next : α → ByteParser ε α'} {otherNext : α → ByteParser δ β'} {related : α' → β' → Prop}
    (first : Simulates escapes Eq parser other)
    (second : ∀ value, Simulates escapes related (next value) (otherNext value)) :
    Simulates escapes related (parser >>= next) (other >>= otherNext) :=
  first.bind fun value _ same => same ▸ second value

theorem simulates_mapM_eq {step : α → ByteParser ε β} {other : α → ByteParser δ β}
    (each : ∀ entry, Simulates escapes Eq (step entry) (other entry)) (entries : List α) :
    Simulates escapes Eq (entries.mapM step) (entries.mapM other) := by
  rw [← List.forall₂_eq_eq_eq]
  refine simulates_mapM (fun entry entry' same => ?_) ((List.forall₂_eq_eq_eq (α := α)).symm ▸ rfl)
  rw [← show entry = entry' from same]
  exact each entry

theorem Simulates.times_eq {parser : ByteParser ε α} {other : ByteParser δ α}
    (simulates : Simulates escapes Eq parser other) (count : Nat) :
    Simulates escapes Eq (parser.times count) (other.times count) := by
  rw [← List.forall₂_eq_eq_eq]
  exact simulates.times count

end Simulates

/-! ## Returned values -/

/-- Every returned value is good. -/
def Ensures (good : α → Prop) (parser : ByteParser ε α) : Prop :=
  ∀ input value rest, parser input = .ok (value, rest) → good value

theorem ensures_pure {good : α → Prop} {value : α} (holds : good value) :
    Ensures good (pure value : ByteParser ε α) := by
  intro input result rest run
  cases run
  exact holds

theorem ensures_fail {good : α → Prop} (reason : ε) : Ensures good (fail reason) := by
  intro input result rest run
  cases run

theorem ensures_abort {good : α → Prop} : Ensures good (abort : ByteParser ε α) := by
  intro input result rest run
  cases run

theorem Ensures.bind {parser : ByteParser ε α} {next : α → ByteParser ε β} {good : α → Prop}
    {better : β → Prop} (first : Ensures good parser)
    (second : ∀ value, good value → Ensures better (next value)) :
    Ensures better (parser >>= next) := by
  intro input result rest run
  obtain ⟨value, middle, parsed, continued⟩ := bind_eq_ok.mp run
  exact second value (first input value middle parsed) middle result rest continued

theorem ensures_bind {parser : ByteParser ε α} {next : α → ByteParser ε β} {good : β → Prop}
    (second : ∀ value, Ensures good (next value)) : Ensures good (parser >>= next) := by
  intro input result rest run
  obtain ⟨value, middle, _, continued⟩ := bind_eq_ok.mp run
  exact second value middle result rest continued

theorem ensures_mapM {step : α → ByteParser ε β} {good : β → Prop}
    (each : ∀ entry, Ensures good (step entry)) (entries : List α) :
    Ensures (fun values => ∀ value ∈ values, good value) (entries.mapM step) := by
  induction entries with
  | nil => exact ensures_pure fun value member => by cases member
  | cons entry entries ih =>
      rw [List.mapM_cons]
      refine (each entry).bind fun value holds => ih.bind fun values later => ?_
      exact ensures_pure (List.forall_mem_cons.mpr ⟨holds, later⟩)

theorem ensures_length_mapM (step : α → ByteParser ε β) (entries : List α) :
    Ensures (fun values => values.length = entries.length) (entries.mapM step) := by
  induction entries with
  | nil => exact ensures_pure rfl
  | cons entry entries ih =>
      rw [List.mapM_cons]
      refine ensures_bind fun value => ih.bind fun values same => ensures_pure ?_
      rw [List.length_cons, List.length_cons, same]

theorem Ensures.and {parser : ByteParser ε α} {good better : α → Prop} (first : Ensures good parser)
    (second : Ensures better parser) : Ensures (fun value => good value ∧ better value) parser :=
  fun input value rest run => ⟨first input value rest run, second input value rest run⟩

theorem Ensures.mapError {δ : Type} {parser : ByteParser ε α} {good : α → Prop} (first : Ensures good parser)
    (rewrite : ε → δ) : Ensures good (parser.mapError rewrite) :=
  fun input value rest run => first input value rest (Outcome.mapError_eq_ok.mp run)

theorem Ensures.times {parser : ByteParser ε α} {good : α → Prop} (ensures : Ensures good parser)
    (count : Nat) :
    Ensures (fun values => values.length = count ∧ ∀ value ∈ values, good value)
      (parser.times count) := by
  induction count with
  | zero => exact ensures_pure ⟨rfl, fun value member => by cases member⟩
  | succ count ih =>
      refine ensures.bind fun value holds => ih.bind fun values later => ensures_pure ⟨?_, ?_⟩
      · rw [List.length_cons, later.1]
      · exact List.forall_mem_cons.mpr ⟨holds, later.2⟩

theorem ensures_length_times (parser : ByteParser ε α) (count : Nat) :
    Ensures (fun values => values.length = count) (parser.times count) := by
  have any : Ensures (fun _ => True) parser := fun _ _ _ _ => trivial
  exact fun input values rest run => (any.times count input values rest run).1

/-! ## Runs with a good value -/

/-- Every run that returns a good value is repeated by the other parser. -/
def Within (good : α → Prop) (parser : ByteParser ε α) (other : ByteParser δ α) : Prop :=
  ∀ input value rest, parser input = .ok (value, rest) → good value → other input = .ok (value, rest)

theorem within_refl {good : α → Prop} (parser : ByteParser ε α) : Within good parser parser :=
  fun _ _ _ run _ => run

/-- The values may be wrapped up if good results come from good values only. -/
theorem Within.bind_pure {parser : ByteParser ε α} {other : ByteParser δ α} {good : α → Prop}
    {better : β → Prop} (within : Within good parser other) {build : α → β}
    (reflects : ∀ value, better (build value) → good value) :
    Within better (parser >>= fun value => pure (build value))
      (other >>= fun value => pure (build value)) := by
  intro input result rest run holds
  obtain ⟨value, middle, parsed, returned⟩ := bind_eq_ok.mp run
  cases returned
  exact bind_eq_ok.mpr ⟨value, rest, within input value rest parsed (reflects value holds), rfl⟩

/-- A common first part does not matter. -/
theorem within_bind {parser : ByteParser ε α} {next otherNext : α → ByteParser ε β} {good : β → Prop}
    (second : ∀ value, Within good (next value) (otherNext value)) :
    Within good (parser >>= next) (parser >>= otherNext) := by
  intro input result rest run holds
  obtain ⟨value, middle, parsed, continued⟩ := bind_eq_ok.mp run
  exact bind_eq_ok.mpr ⟨value, middle, parsed, second value middle result rest continued holds⟩

theorem within_mapM {step : α → ByteParser ε β} {other : α → ByteParser δ β} {good : β → Prop}
    (each : ∀ entry, Within good (step entry) (other entry)) (entries : List α) :
    Within (fun values => ∀ value ∈ values, good value) (entries.mapM step) (entries.mapM other) := by
  induction entries with
  | nil => exact fun _ _ _ run _ => by cases run; rfl
  | cons entry entries ih =>
      intro input values rest run holds
      rw [List.mapM_cons] at run ⊢
      obtain ⟨value, middle, first, continued⟩ := bind_eq_ok.mp run
      obtain ⟨others, after, later, returned⟩ := bind_eq_ok.mp continued
      cases returned
      obtain ⟨first_good, later_good⟩ := List.forall_mem_cons.mp holds
      exact bind_eq_ok.mpr ⟨value, middle, each entry _ _ _ first first_good,
        bind_eq_ok.mpr ⟨others, rest, ih _ _ _ later later_good, rfl⟩⟩

theorem Within.times {parser : ByteParser ε α} {other : ByteParser δ α} {good : α → Prop}
    (within : Within good parser other) (count : Nat) :
    Within (fun values => ∀ value ∈ values, good value) (parser.times count) (other.times count) := by
  induction count with
  | zero => exact fun _ _ _ run _ => by cases run; rfl
  | succ count ih =>
      intro input values rest run holds
      obtain ⟨value, middle, first, continued⟩ := bind_eq_ok.mp run
      obtain ⟨others, after, later, returned⟩ := bind_eq_ok.mp continued
      cases returned
      obtain ⟨first_good, later_good⟩ := List.forall_mem_cons.mp holds
      exact bind_eq_ok.mpr ⟨value, middle, within _ _ _ first first_good,
        bind_eq_ok.mpr ⟨others, rest, ih _ _ _ later later_good, rfl⟩⟩

end ByteParser
