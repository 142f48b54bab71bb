import SubstrateClient.ByteParser

/-!
# Parsers with a budget of input bytes

A recursive parser that takes a byte in every round comes to an end because its input does.  `Finishes`
is the form in which the rounds are put together: on inputs up to some size the parser comes to an
end and leaves an input of that size again.
-/

namespace ByteParser

variable {ε δ α β : Type} {size : Nat}

/-- On at most `size` bytes the run comes to an end and leaves at most as many. -/
def Finishes (size : Nat) (parser : ByteParser ε α) : Prop :=
  ∀ input : List UInt8, input.length ≤ size → parser input ≠ .outOfFuel ∧
    ∀ value rest, parser input = .ok (value, rest) → rest.length ≤ size

/-- The run comes to an end on every input, and takes at least one byte when it succeeds. -/
def Takes (parser : ByteParser ε α) : Prop :=
  ∀ input, parser input ≠ .outOfFuel ∧
    ∀ value rest, parser input = .ok (value, rest) → rest.length < input.length

theorem finishes_pure (value : α) : Finishes size (pure value : ByteParser ε α) := by
  intro input fits
  refine ⟨by simp, fun result rest run => ?_⟩
  cases run
  exact fits

theorem finishes_fail (reason : ε) : Finishes size (fail reason : ByteParser ε α) :=
  fun _ _ => ⟨by simp, fun _ _ run => by cases run⟩

theorem finishes_abort : Finishes size (abort : ByteParser ε α) :=
  fun _ _ => ⟨by simp, fun _ _ run => by cases run⟩

theorem Delimited.finishes {parser : ByteParser ε α} (delimited : Delimited parser)
    (ended : ∀ input, parser input ≠ .outOfFuel) : Finishes size parser := by
  intro input fits
  refine ⟨ended input, fun value rest run => ?_⟩
  obtain ⟨consumed, rfl, _⟩ := delimited input value rest run
  rw [List.length_append] at fits
  exact (Nat.le_add_left _ _).trans fits

/-- A parser that fails on the empty input takes a byte when it succeeds. -/
theorem Delimited.takes {parser : ByteParser ε α} (delimited : Delimited parser)
    (ended : ∀ input, parser input ≠ .outOfFuel) (refuses : ¬ (parser []).Succeeds) :
    Takes parser := by
  intro input
  refine ⟨ended input, fun value rest run => ?_⟩
  obtain ⟨consumed, rfl, reads⟩ := delimited input value rest run
  have taken : consumed ≠ [] := by
    rintro rfl
    exact refuses ⟨_, reads.apply_self⟩
  rw [List.length_append]
  exact Nat.lt_add_of_pos_left (List.length_pos_of_ne_nil taken)

theorem Finishes.mapError {parser : ByteParser ε α} (finishes : Finishes size parser)
    (rewrite : ε → δ) : Finishes size (parser.mapError rewrite) := by
  intro input fits
  obtain ⟨ended, left⟩ := finishes input fits
  refine ⟨fun exhausted => ?_, fun value rest run => left value rest (Outcome.mapError_eq_ok.mp run)⟩
  rw [mapError_apply] at exhausted
  cases ending : parser input <;> simp_all

theorem Takes.mapError {parser : ByteParser ε α} (takes : Takes parser) (rewrite : ε → δ) :
    Takes (parser.mapError rewrite) := by
  intro input
  obtain ⟨ended, left⟩ := takes input
  refine ⟨fun exhausted => ?_, fun value rest run => left value rest (Outcome.mapError_eq_ok.mp run)⟩
  rw [mapError_apply] at exhausted
  cases ending : parser input <;> simp_all

/-- Two steps in sequence, from what the second does with what the first hands on. -/
theorem bind_finishes {parser : ByteParser ε α} {next : α → ByteParser ε β} {input : List UInt8}
    (ended : parser input ≠ .outOfFuel)
    (later : ∀ value middle, parser input = .ok (value, middle) → next value middle ≠ .outOfFuel ∧
      ∀ result rest, next value middle = .ok (result, rest) → rest.length ≤ size) :
    (parser >>= next) input ≠ .outOfFuel ∧
      ∀ result rest, (parser >>= next) input = .ok (result, rest) → rest.length ≤ size := by
  constructor
  · rw [bind_apply]
    cases ending : parser input with
    | ok result => exact (later result.1 result.2 ending).1
    | error reason => simp
    | panic => simp
    | outOfFuel => exact absurd ending ended
  · intro result rest run
    obtain ⟨value, middle, parsed, continued⟩ := bind_eq_ok.mp run
    exact (later value middle parsed).2 result rest continued

theorem Finishes.bind {parser : ByteParser ε α} {next : α → ByteParser ε β}
    (first : Finishes size parser) (second : ∀ value, Finishes size (next value)) :
    Finishes size (parser >>= next) := by
  intro input fits
  obtain ⟨ended, left⟩ := first input fits
  exact bind_finishes ended fun value middle parsed =>
    second value middle (left value middle parsed)

/-- A step that takes a byte leaves the next one a smaller budget. -/
theorem Takes.bind {parser : ByteParser ε α} {next : α → ByteParser ε β} (first : Takes parser)
    (second : ∀ smaller, size = smaller + 1 → ∀ value, Finishes smaller (next value)) :
    Finishes size (parser >>= next) := by
  intro input fits
  obtain ⟨ended, left⟩ := first input
  refine bind_finishes ended fun value middle parsed => ?_
  have taken := left value middle parsed
  obtain ⟨smaller, rfl⟩ : ∃ smaller, size = smaller + 1 :=
    Nat.exists_eq_add_of_le' (by omega : 1 ≤ size)
  obtain ⟨ended_next, left_next⟩ := second smaller rfl value middle (by omega)
  exact ⟨ended_next, fun result rest run => (left_next result rest run).trans (Nat.le_succ _)⟩

theorem Finishes.times {parser : ByteParser ε α} (finishes : Finishes size parser) (count : Nat) :
    Finishes size (parser.times count) := by
  induction count with
  | zero => exact finishes_pure []
  | succ count ih =>
      exact finishes.bind fun first => ih.bind fun later => finishes_pure (first :: later)

theorem finishes_mapM {step : α → ByteParser ε β} {entries : List α}
    (each : ∀ entry ∈ entries, Finishes size (step entry)) : Finishes size (entries.mapM step) := by
  induction entries with
  | nil => exact finishes_pure []
  | cons entry entries ih =>
      rw [List.mapM_cons]
      refine (each entry List.mem_cons_self).bind fun first => ?_
      exact (ih fun other member => each other (List.mem_cons_of_mem _ member)).bind fun later =>
        finishes_pure (first :: later)

end ByteParser
