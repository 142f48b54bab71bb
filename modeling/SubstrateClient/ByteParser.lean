import Mathlib.Data.List.Forall2
import Mathlib.Data.Vector.Basic
import SubstrateClient.Outcome

/-!
# Parsers over byte strings

A parser consumes a front part of a byte string and hands back the rest.  `Reads` states that a
byte string is exactly what a parser consumes, whatever follows it; it composes along `bind`, so a
round trip of a compound format is assembled from the round trips of its parts.
-/

/-- A parser returning a value and the unread part of its input. -/
def ByteParser (ε α : Type) : Type :=
  List UInt8 → Outcome ε (α × List UInt8)

namespace ByteParser

variable {ε δ α β : Type}

instance : Monad (ByteParser ε) where
  pure value := fun input => .ok (value, input)
  bind parser next := fun input => parser input >>= fun result => next result.1 result.2

@[simp]
theorem pure_apply (value : α) (input : List UInt8) :
    (pure value : ByteParser ε α) input = .ok (value, input) := rfl

@[simp]
theorem bind_apply (parser : ByteParser ε α) (next : α → ByteParser ε β) (input : List UInt8) :
    (parser >>= next) input = parser input >>= fun result => next result.1 result.2 := rfl

instance : LawfulMonad (ByteParser ε) :=
  LawfulMonad.mk' (ByteParser ε)
    (by intro _ parser; funext input; change (parser input >>= pure) = _; simp)
    (by intros; rfl)
    (by intro _ _ _ parser _ _; funext input; exact bind_assoc (parser input) _ _)

@[simp]
theorem map_apply (transform : α → β) (parser : ByteParser ε α) (input : List UInt8) :
    (transform <$> parser) input =
      parser input >>= fun result => .ok (transform result.1, result.2) := by
  rw [map_eq_pure_bind]
  rfl

/-- Stop with an error value. -/
def fail (reason : ε) : ByteParser ε α := fun _ => .error reason

/-- Abort. -/
def abort : ByteParser ε α := fun _ => .panic

/-- Give up for want of fuel. -/
def exhaust : ByteParser ε α := fun _ => .outOfFuel

@[simp]
theorem fail_apply (reason : ε) (input : List UInt8) :
    (fail reason : ByteParser ε α) input = .error reason := rfl

@[simp]
theorem abort_apply (input : List UInt8) : (abort : ByteParser ε α) input = .panic := rfl

/-- Run a computation that reads nothing. -/
def ofOutcome (run : Outcome ε α) : ByteParser ε α :=
  fun input => run >>= fun value => .ok (value, input)

@[simp]
theorem ofOutcome_apply (run : Outcome ε α) (input : List UInt8) :
    ofOutcome run input = run >>= fun value => .ok (value, input) := rfl

/-- Rewrite the error value of a failed parse. -/
def mapError (rewrite : ε → δ) (parser : ByteParser ε α) : ByteParser δ α :=
  fun input => (parser input).mapError rewrite

@[simp]
theorem mapError_apply (rewrite : ε → δ) (parser : ByteParser ε α) (input : List UInt8) :
    parser.mapError rewrite input = (parser input).mapError rewrite := rfl

/-- Two parses in sequence succeed exactly when each succeeds on what the previous one left. -/
theorem bind_eq_ok {parser : ByteParser ε α} {next : α → ByteParser ε β} {input rest : List UInt8}
    {result : β} :
    (parser >>= next) input = .ok (result, rest) ↔
      ∃ value middle, parser input = .ok (value, middle) ∧ next value middle = .ok (result, rest) := by
  rw [bind_apply, Outcome.bind_eq_ok]
  simp [Prod.exists]

/-- Apply a parser to every entry of a fixed-length vector, in order. -/
def mapVector (step : α → ByteParser ε β) :
    {count : Nat} → List.Vector α count → ByteParser ε (List.Vector β count)
  | 0, _ => pure List.Vector.nil
  | _ + 1, entries => do
      let first ← step entries.head
      let later ← mapVector step entries.tail
      pure (List.Vector.cons first later)

/-- The entries of a vector, as a list. -/
theorem mapM_toList (step : α → ByteParser ε β) {count : Nat} (entries : List.Vector α count) :
    entries.toList.mapM step = mapVector step entries >>= fun values => pure values.toList := by
  induction count with
  | zero =>
      obtain rfl : entries = List.Vector.nil := Subsingleton.elim _ _
      rfl
  | succ count ih =>
      obtain ⟨first, later, rfl⟩ := entries.exists_eq_cons
      rw [List.Vector.toList_cons, List.mapM_cons, ih]
      simp only [mapVector, List.Vector.head_cons, List.Vector.tail_cons, bind_assoc, pure_bind,
        List.Vector.toList_cons]
      rfl

/-- Run a parser a given number of times. -/
def times (parser : ByteParser ε α) : Nat → ByteParser ε (List α)
  | 0 => pure []
  | count + 1 => do
      let first ← parser
      let later ← times parser count
      pure (first :: later)

/-- `bytes` is what the parser consumes to return `value`, whatever comes after. -/
def Reads (parser : ByteParser ε α) (bytes : List UInt8) (value : α) : Prop :=
  ∀ rest, parser (bytes ++ rest) = .ok (value, rest)

theorem reads_pure (value : α) : Reads (pure value : ByteParser ε α) [] value :=
  fun _ => rfl

theorem Reads.bind {parser : ByteParser ε α} {next : α → ByteParser ε β}
    {left right : List UInt8} {value : α} {result : β}
    (first : Reads parser left value) (second : Reads (next value) right result) :
    Reads (parser >>= next) (left ++ right) result := by
  intro rest
  rw [List.append_assoc, bind_apply, first]
  exact second rest

/-- A pure post-processing step reads nothing more. -/
theorem Reads.bind_pure {parser : ByteParser ε α} {bytes : List UInt8} {value : α}
    (first : Reads parser bytes value) (transform : α → β) :
    Reads (parser >>= fun value => pure (transform value)) bytes (transform value) := by
  intro rest
  rw [bind_apply, first]
  rfl

theorem Reads.mapError {parser : ByteParser ε α} {bytes : List UInt8} {value : α}
    (first : Reads parser bytes value) (rewrite : ε → δ) :
    Reads (parser.mapError rewrite) bytes value := by
  intro rest
  rw [mapError_apply, first]
  rfl

/-- Reading nothing more than the given bytes, the parser leaves the empty input. -/
theorem Reads.apply_self {parser : ByteParser ε α} {bytes : List UInt8} {value : α}
    (reads : Reads parser bytes value) : parser bytes = .ok (value, []) := by
  simpa using reads []

/-- A run of one parser over chunks consumes their concatenation. -/
theorem reads_mapM_replicate {step : α → ByteParser ε β} {start : α}
    {chunks : List (List UInt8)} {values : List β}
    (each : List.Forall₂ (Reads (step start)) chunks values) :
    Reads ((List.replicate values.length start).mapM step) chunks.flatten values := by
  induction each with
  | nil => exact reads_pure []
  | cons first _ ih =>
      simp only [List.length_cons, List.replicate_succ, List.mapM_cons, List.flatten_cons]
      exact first.bind (ih.bind_pure _)

/-- A run of one parser over a vector of equal starting points. -/
theorem reads_mapVector_replicate {step : α → ByteParser ε β} {start : α} {count : Nat}
    {chunks : List (List UInt8)} {values : List.Vector β count}
    (each : List.Forall₂ (Reads (step start)) chunks values.toList) :
    Reads (mapVector step (List.Vector.replicate count start)) chunks.flatten values := by
  induction count generalizing chunks with
  | zero =>
      obtain rfl : values = List.Vector.nil := Subsingleton.elim _ _
      obtain rfl : chunks = [] := List.forall₂_nil_right_iff.mp each
      exact reads_pure _
  | succ count ih =>
      obtain ⟨value, later, rfl⟩ := values.exists_eq_cons
      rw [List.Vector.toList_cons] at each
      obtain ⟨chunk, others, first, remaining, rfl⟩ := List.forall₂_cons_right_iff.mp each
      rw [List.flatten_cons]
      exact first.bind ((ih remaining).bind_pure _)

/-- A successful parse has split off a front part of its input, and reads that part before any
other continuation as well. -/
def Delimited (parser : ByteParser ε α) : Prop :=
  ∀ input value rest, parser input = .ok (value, rest) →
    ∃ consumed, input = consumed ++ rest ∧ Reads parser consumed value

theorem delimited_pure (value : α) : Delimited (pure value : ByteParser ε α) := by
  intro input result rest success
  cases success
  exact ⟨[], rfl, reads_pure value⟩

theorem delimited_fail (reason : ε) : Delimited (fail reason : ByteParser ε α) := by
  intro input result rest success
  cases success

theorem Delimited.bind {parser : ByteParser ε α} {next : α → ByteParser ε β}
    (first : Delimited parser) (second : ∀ value, Delimited (next value)) :
    Delimited (parser >>= next) := by
  intro input result rest success
  obtain ⟨value, middle, parsed, continued⟩ := bind_eq_ok.mp success
  obtain ⟨left, rfl, left_reads⟩ := first _ _ _ parsed
  obtain ⟨right, rfl, right_reads⟩ := second value _ _ _ continued
  exact ⟨left ++ right, (List.append_assoc left right rest).symm, left_reads.bind right_reads⟩

theorem delimited_abort : Delimited (abort : ByteParser ε α) := by
  intro input result rest success
  cases success

theorem delimited_exhaust : Delimited (exhaust : ByteParser ε α) := by
  intro input result rest success
  cases success

theorem Delimited.mapError {parser : ByteParser ε α} (delimited : Delimited parser)
    (rewrite : ε → δ) : Delimited (parser.mapError rewrite) := by
  intro input value rest success
  obtain ⟨consumed, split, reads⟩ := delimited input value rest (Outcome.mapError_eq_ok.mp success)
  exact ⟨consumed, split, reads.mapError rewrite⟩

/-- In a pass over a list that succeeds, every entry succeeds somewhere. -/
theorem succeeds_of_mapM {step : α → ByteParser ε β} {entries : List α} {input rest : List UInt8}
    {values : List β} (run : entries.mapM step input = .ok (values, rest)) {entry : α}
    (member : entry ∈ entries) : ∃ before result, step entry before = .ok result := by
  induction entries generalizing input rest values with
  | nil => cases member
  | cons first entries ih =>
      rw [List.mapM_cons] at run
      obtain ⟨value, middle, first_run, run⟩ := bind_eq_ok.mp run
      obtain ⟨others, last, others_run, -⟩ := bind_eq_ok.mp run
      rcases List.mem_cons.mp member with rfl | member
      · exact ⟨input, _, first_run⟩
      · exact ih others_run member

theorem delimited_mapM {step : α → ByteParser ε β} {entries : List α}
    (each : ∀ entry ∈ entries, Delimited (step entry)) : Delimited (entries.mapM step) := by
  induction entries with
  | nil => exact delimited_pure []
  | cons entry entries ih =>
      rw [List.mapM_cons]
      refine (each entry List.mem_cons_self).bind fun value => ?_
      exact (ih fun other member => each other (List.mem_cons_of_mem _ member)).bind fun values =>
        delimited_pure _

theorem Delimited.times {parser : ByteParser ε α} (delimited : Delimited parser) (count : Nat) :
    Delimited (parser.times count) := by
  induction count with
  | zero => exact delimited_pure []
  | succ count ih => exact delimited.bind fun value => ih.bind fun values => delimited_pure _

theorem delimited_mapVector {step : α → ByteParser ε β} (each : ∀ entry, Delimited (step entry))
    {count : Nat} (entries : List.Vector α count) : Delimited (mapVector step entries) := by
  induction count with
  | zero => exact delimited_pure _
  | succ count ih =>
      exact (each entries.head).bind fun first => (ih entries.tail).bind fun later => delimited_pure _

/-- A delimited parser never accepts a proper front part of what it reads. -/
theorem Delimited.rejects_cut {parser : ByteParser ε α} {bytes cut missing : List UInt8} {value : α}
    (delimited : Delimited parser) (reads : Reads parser bytes value)
    (split : bytes = cut ++ missing) (proper : missing ≠ []) : ¬ (parser cut).Succeeds := by
  rintro ⟨⟨other, rest⟩, success⟩
  obtain ⟨consumed, rfl, consumed_reads⟩ := delimited cut other rest success
  have whole := reads.apply_self
  rw [split, List.append_assoc, consumed_reads] at whole
  have leftover : rest ++ missing = [] := congrArg Prod.snd (Outcome.ok.inj whole)
  exact proper (List.append_eq_nil_iff.mp leftover).2

/-! ## Rewritten errors -/

theorem bind_mapError (rewrite : ε → δ) (parser : ByteParser ε α) (next : α → ByteParser ε β) :
    (parser >>= next).mapError rewrite =
      parser.mapError rewrite >>= fun value => (next value).mapError rewrite := by
  funext input
  simp only [mapError_apply, bind_apply]
  cases parser input <;> rfl

theorem mapM_mapError (rewrite : ε → δ) (step : α → ByteParser ε β) (entries : List α) :
    (entries.mapM step).mapError rewrite = entries.mapM fun entry => (step entry).mapError rewrite := by
  induction entries with
  | nil => rfl
  | cons entry entries ih =>
      simp only [List.mapM_cons, bind_mapError, ih]
      rfl

theorem times_mapError (rewrite : ε → δ) (parser : ByteParser ε α) (count : Nat) :
    (parser.times count).mapError rewrite = (parser.mapError rewrite).times count := by
  induction count with
  | zero => rfl
  | succ count ih =>
      simp only [times, bind_mapError, ih]
      rfl

/-! ## Parsers that return -/

theorem mapError_returns_iff {parser : ByteParser ε α} {rewrite : ε → δ} {input : List UInt8} :
    (parser.mapError rewrite input).Returns ↔ (parser input).Returns :=
  Outcome.returns_mapError

/-- A sequence returns exactly when its first part does, and its second part on what the first leaves. -/
theorem sequence_returns_iff {parser : ByteParser ε α} {next : α → ByteParser ε β} {input : List UInt8} :
    ((parser >>= next) input).Returns ↔ (parser input).Returns ∧
      ∀ value rest, parser input = .ok (value, rest) → (next value rest).Returns := by
  rw [bind_apply, Outcome.returns_bind]
  exact and_congr_right fun _ => Prod.forall

/-- A pure step at the end always returns. -/
theorem bind_pure_returns_iff {parser : ByteParser ε α} {build : α → β} {input : List UInt8} :
    ((parser >>= fun value => pure (build value)) input).Returns ↔ (parser input).Returns := by
  rw [sequence_returns_iff]
  exact and_iff_left fun value rest _ => Outcome.returns_ok _

/-- The parser returns a value or an error on every input. -/
def Total (parser : ByteParser ε α) : Prop := ∀ input, (parser input).Returns

theorem total_pure (value : α) : Total (pure value : ByteParser ε α) :=
  fun _ => Outcome.returns_ok _

theorem total_fail (reason : ε) : Total (fail reason : ByteParser ε α) :=
  fun _ => Outcome.returns_error reason

theorem Total.bind {parser : ByteParser ε α} {next : α → ByteParser ε β} (first : Total parser)
    (second : ∀ value, Total (next value)) : Total (parser >>= next) := by
  intro input
  rw [bind_apply, Outcome.returns_bind]
  exact ⟨first input, fun result _ => second result.1 result.2⟩

theorem Total.mapError {parser : ByteParser ε α} (total : Total parser) (rewrite : ε → δ) :
    Total (parser.mapError rewrite) :=
  fun input => Outcome.returns_mapError.mpr (total input)

theorem total_mapVector {step : α → ByteParser ε β} (each : ∀ entry, Total (step entry))
    {count : Nat} (entries : List.Vector α count) : Total (mapVector step entries) := by
  induction count with
  | zero => exact total_pure List.Vector.nil
  | succ count ih =>
      exact (each entries.head).bind fun first => (ih entries.tail).bind fun later =>
        total_pure (List.Vector.cons first later)

theorem Total.times {parser : ByteParser ε α} (total : Total parser) (count : Nat) :
    Total (parser.times count) := by
  induction count with
  | zero => exact total_pure []
  | succ count ih => exact total.bind fun first => ih.bind fun later => total_pure (first :: later)

end ByteParser

namespace Outcome

variable {ε α β : Type}

/-- Collecting the results of a list of runs succeeds when every run does. -/
theorem mapM_eq_ok_of_forall {step : α → Outcome ε β} {entries : List α} {related : α → β → Prop}
    (each : ∀ entry ∈ entries, ∃ value, step entry = .ok value ∧ related entry value) :
    ∃ values, entries.mapM step = .ok values ∧ List.Forall₂ related entries values := by
  induction entries with
  | nil => exact ⟨[], rfl, .nil⟩
  | cons entry entries ih =>
      obtain ⟨value, run, holds⟩ := each entry List.mem_cons_self
      obtain ⟨values, runs, later⟩ := ih fun other member => each other (List.mem_cons_of_mem _ member)
      exact ⟨value :: values, by simp [List.mapM_cons, run, runs], .cons holds later⟩

theorem returns_mapM {step : α → Outcome ε β} {entries : List α}
    (each : ∀ entry ∈ entries, (step entry).Returns) : (entries.mapM step).Returns := by
  induction entries with
  | nil => exact returns_ok []
  | cons entry entries ih =>
      rw [List.mapM_cons, returns_bind]
      refine ⟨each entry List.mem_cons_self, fun value _ => returns_bind.mpr ⟨?_, fun values _ => ?_⟩⟩
      · exact ih fun other member => each other (List.mem_cons_of_mem _ member)
      · exact returns_ok _

/-- A list of runs succeeds exactly when its runs succeed one by one. -/
theorem mapM_eq_ok {step : α → Outcome ε β} {entries : List α} {values : List β} :
    entries.mapM step = .ok values ↔
      List.Forall₂ (fun entry value => step entry = .ok value) entries values := by
  induction entries generalizing values with
  | nil => cases values <;> simp
  | cons entry entries ih =>
      cases values with
      | nil =>
          simp only [List.mapM_cons, bind_eq_ok, pure_eq, Outcome.ok.injEq]
          simp
      | cons value values =>
          simp only [List.mapM_cons, bind_eq_ok, pure_eq, Outcome.ok.injEq, List.cons.injEq,
            List.forall₂_cons, ← ih]
          constructor
          · rintro ⟨_, run, _, runs, rfl, rfl⟩
            exact ⟨run, runs⟩
          · rintro ⟨run, runs⟩
            exact ⟨value, run, values, runs, rfl, rfl⟩

end Outcome
