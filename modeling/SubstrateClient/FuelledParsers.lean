import Mathlib.Data.Set.Finite.Basic
import SubstrateClient.ParserRelations

/-!
# Parsers with fuel

A recursive parser is a family of parsers, one for each amount of fuel, in which more fuel changes no
finished run.  `Yields` and `Returns` speak about such a family without the fuel: what it can hand
back, and whether it hands anything back at all.
-/

namespace ByteParser

variable {ε δ α β : Type}

/-- More fuel changes no finished run. -/
def Settling (family : Nat → ByteParser ε α) : Prop :=
  ∀ fuel, Settles (family fuel) (family (fuel + 1))

/-- With enough fuel the value is returned. -/
def Yields (family : Nat → ByteParser ε α) (input : List UInt8) (value : α) (rest : List UInt8) : Prop :=
  ∃ fuel, family fuel input = .ok (value, rest)

/-- With enough fuel a value or an error is returned. -/
def Returns (family : Nat → ByteParser ε α) (input : List UInt8) : Prop :=
  ∃ fuel, (family fuel input).Returns

theorem settling_const (parser : ByteParser ε α) : Settling fun _ => parser :=
  fun _ => settles_refl parser

theorem Settling.mapError {family : Nat → ByteParser ε α} (settling : Settling family)
    (rewrite : ε → δ) : Settling fun fuel => (family fuel).mapError rewrite :=
  fun fuel => (settling fuel).mapError rewrite

theorem Settling.bind {first : Nat → ByteParser ε α} {second : Nat → α → ByteParser ε β}
    (settling : Settling first) (settling_next : ∀ value, Settling fun fuel => second fuel value) :
    Settling fun fuel => first fuel >>= second fuel :=
  fun fuel => (settling fuel).bind fun value => settling_next value fuel

theorem Settling.times {family : Nat → ByteParser ε α} (settling : Settling family) (count : Nat) :
    Settling fun fuel => (family fuel).times count :=
  fun fuel => (settling fuel).times count

theorem settling_mapM {step : Nat → α → ByteParser ε β}
    (each : ∀ entry, Settling fun fuel => step fuel entry) (entries : List α) :
    Settling fun fuel => entries.mapM (step fuel) :=
  fun fuel => settles_mapM (fun entry => each entry fuel) entries

section Family

variable {family : Nat → ByteParser ε α}

/-- A run that has returned is the run that yields. -/
theorem Settling.eq_of_yields (settling : Settling family) {fuel : Nat} {input rest : List UInt8}
    {value : α} (returned : (family fuel input).Returns) (yields : Yields family input value rest) :
    family fuel input = .ok (value, rest) := by
  obtain ⟨enough, run⟩ := yields
  have settled := settles_of_le settling (le_max_right fuel enough)
  have whole := settled.ok run
  have settled' := settles_of_le settling (le_max_left fuel enough)
  rcases returned with ⟨other, ended⟩ | ⟨reason, ended⟩
  · rw [ended, ← settled'.ok ended, whole]
  · have failed := settled'.error ended
    rw [whole] at failed
    cases failed

/-- More fuel keeps what was returned. -/
theorem Settling.returns_of_le (settling : Settling family) {fuel richer : Nat} {input : List UInt8}
    (le : fuel ≤ richer) (returned : (family fuel input).Returns) : (family richer input).Returns := by
  have settled := settles_of_le settling le
  rcases returned with ⟨value, ended⟩ | ⟨reason, ended⟩
  · exact .inl ⟨value, settled.ok ended⟩
  · exact .inr ⟨reason, settled.error ended⟩

/-- A settling family yields at most one result. -/
theorem Settling.yields_unique (settling : Settling family) {input rest rest' : List UInt8}
    {value value' : α} (yields : Yields family input value rest)
    (yields' : Yields family input value' rest') : value = value' ∧ rest = rest' := by
  obtain ⟨fuel, run⟩ := yields
  have same := settling.eq_of_yields (.inl ⟨_, run⟩) yields'
  rw [run] at same
  exact Prod.mk.inj (Outcome.ok.inj same)

/-- One amount of fuel serves finitely many inputs. -/
theorem exists_common_fuel {ι : Type} {families : ι → Nat → ByteParser ε α} {inputs : ι → List UInt8}
    (settling : ∀ index, Settling (families index)) {indices : Set ι} (finite : indices.Finite)
    (each : ∀ index ∈ indices, Returns (families index) (inputs index)) :
    ∃ fuel, ∀ index ∈ indices, (families index fuel (inputs index)).Returns := by
  induction indices, finite using Set.Finite.induction_on with
  | empty => exact ⟨0, fun _ member => member.elim⟩
  | @insert index others _ _ ih =>
      obtain ⟨fuel, common⟩ := ih fun other member => each other (Set.mem_insert_of_mem _ member)
      obtain ⟨enough, returned⟩ := each index (Set.mem_insert _ _)
      refine ⟨max enough fuel, fun other member => ?_⟩
      rcases Set.mem_insert_iff.mp member with rfl | member
      · exact (settling other).returns_of_le (le_max_left _ _) returned
      · exact (settling other).returns_of_le (le_max_right _ _) (common other member)

end Family

/-! ## Sequencing -/

section Sequencing

variable {first : Nat → ByteParser ε α} {second : Nat → α → ByteParser ε β}

theorem yields_bind (settling : Settling first)
    (settling_next : ∀ value, Settling fun fuel => second fuel value) {input rest : List UInt8}
    {result : β} :
    Yields (fun fuel => first fuel >>= second fuel) input result rest ↔
      ∃ value middle, Yields first input value middle ∧
        Yields (fun fuel => second fuel value) middle result rest := by
  constructor
  · rintro ⟨fuel, run⟩
    obtain ⟨value, middle, parsed, continued⟩ := bind_eq_ok.mp run
    exact ⟨value, middle, ⟨fuel, parsed⟩, fuel, continued⟩
  · rintro ⟨value, middle, ⟨fuel, parsed⟩, enough, continued⟩
    refine ⟨max fuel enough, bind_eq_ok.mpr ⟨value, middle, ?_, ?_⟩⟩
    · exact (settles_of_le settling (le_max_left _ _)).ok parsed
    · exact (settles_of_le (settling_next value) (le_max_right _ _)).ok continued

/-- With the given fuel both steps return exactly when the first does, and the second on what the
first can hand on. -/
theorem bind_returns_iff (settling : Settling first) {next : α → ByteParser ε β} {fuel : Nat}
    {input : List UInt8} :
    ((first fuel >>= next) input).Returns ↔
      (first fuel input).Returns ∧ ∀ value middle, Yields first input value middle →
        (next value middle).Returns := by
  rw [bind_apply, Outcome.returns_bind]
  refine and_congr_right fun returned => ⟨fun each value middle yields => ?_, fun each result ran => ?_⟩
  · exact each (value, middle) (settling.eq_of_yields returned yields)
  · exact each result.1 result.2 ⟨fuel, ran⟩

/-- Both steps return with enough fuel exactly when the first does, and the second on what the first
can hand on. -/
theorem returns_bind (settling : Settling first)
    (settling_next : ∀ value, Settling fun fuel => second fuel value) {input : List UInt8} :
    Returns (fun fuel => first fuel >>= second fuel) input ↔
      Returns first input ∧ ∀ value middle, Yields first input value middle →
        Returns (fun fuel => second fuel value) middle := by
  constructor
  · rintro ⟨fuel, returned⟩
    obtain ⟨first_returned, each⟩ := (bind_returns_iff settling).mp returned
    exact ⟨⟨fuel, first_returned⟩, fun value middle yields => ⟨fuel, each value middle yields⟩⟩
  · rintro ⟨⟨fuel, returned⟩, each⟩
    rcases returned with ⟨⟨value, middle⟩, ended⟩ | ⟨reason, ended⟩
    · obtain ⟨enough, continued⟩ := each value middle ⟨fuel, ended⟩
      refine ⟨max fuel enough, ?_⟩
      change (first (max fuel enough) input >>= _).Returns
      rw [(settles_of_le settling (le_max_left _ _)).ok ended]
      exact (settling_next value).returns_of_le (le_max_right _ _) continued
    · refine ⟨fuel, ?_⟩
      change (first fuel input >>= _).Returns
      rw [ended]
      exact Outcome.returns_error reason

theorem yields_const {parser : ByteParser ε α} {input rest : List UInt8} {value : α} :
    Yields (fun _ => parser) input value rest ↔ parser input = .ok (value, rest) :=
  ⟨fun ⟨_, run⟩ => run, fun run => ⟨0, run⟩⟩

theorem yields_mapError {family : Nat → ByteParser ε α} {rewrite : ε → δ} {input rest : List UInt8}
    {value : α} :
    Yields (fun fuel => (family fuel).mapError rewrite) input value rest ↔
      Yields family input value rest :=
  exists_congr fun _ => Outcome.mapError_eq_ok

end Sequencing

/-! ## Loops -/

section Loops

variable {step : Nat → α → ByteParser ε β}

theorem yields_mapM_nil {input rest : List UInt8} {values : List β} :
    Yields (fun fuel => ([] : List α).mapM (step fuel)) input values rest ↔
      values = [] ∧ rest = input := by
  constructor
  · rintro ⟨fuel, run⟩
    cases run
    exact ⟨rfl, rfl⟩
  · rintro ⟨rfl, rfl⟩
    exact ⟨0, rfl⟩

/-- A pass over a list yields what its first entry and then the others yield. -/
theorem yields_mapM_cons (each : ∀ entry, Settling fun fuel => step fuel entry) {entry : α}
    {entries : List α} {input rest : List UInt8} {values : List β} :
    Yields (fun fuel => (entry :: entries).mapM (step fuel)) input values rest ↔
      ∃ value later middle, Yields (fun fuel => step fuel entry) input value middle ∧
        Yields (fun fuel => entries.mapM (step fuel)) middle later rest ∧ values = value :: later := by
  simp only [List.mapM_cons]
  rw [yields_bind (each entry) fun value =>
    (settling_mapM each entries).bind fun later => settling_const (pure (value :: later))]
  constructor
  · rintro ⟨value, middle, first, fuel, run⟩
    obtain ⟨later, after, ran, returned⟩ := bind_eq_ok.mp run
    cases returned
    exact ⟨value, later, middle, first, ⟨fuel, ran⟩, rfl⟩
  · rintro ⟨value, later, middle, first, ⟨fuel, run⟩, rfl⟩
    exact ⟨value, middle, first, fuel, bind_eq_ok.mpr ⟨later, rest, run, rfl⟩⟩

/-- A pass over a list returns exactly when every entry that is reached does. -/
theorem mapM_returns_iff (each : ∀ entry, Settling fun fuel => step fuel entry) {fuel : Nat}
    {entries : List α} {input : List UInt8} :
    ((entries.mapM (step fuel)) input).Returns ↔
      ∀ position entry, entries[position]? = some entry → ∀ values middle,
        Yields (fun fuel => (entries.take position).mapM (step fuel)) input values middle →
          (step fuel entry middle).Returns := by
  induction entries generalizing input with
  | nil =>
      refine iff_of_true (Outcome.returns_ok _) fun position entry found => ?_
      simp at found
  | cons entry entries ih =>
      rw [List.mapM_cons, bind_returns_iff (each entry)]
      simp only [bind_pure_returns_iff, ih]
      constructor
      · rintro ⟨first, later⟩ position other found values middle yields
        cases position with
        | zero =>
            cases found
            obtain ⟨_, rfl⟩ := yields_mapM_nil.mp yields
            exact first
        | succ position =>
            obtain ⟨value, others, after, first_yields, others_yield, _⟩ :=
              (yields_mapM_cons each).mp yields
            exact later value after first_yields position other found others middle others_yield
      · intro reached
        refine ⟨reached 0 entry rfl [] input (yields_mapM_nil.mpr ⟨rfl, rfl⟩), ?_⟩
        intro value after first_yields position other found others middle others_yield
        exact reached (position + 1) other found (value :: others) middle
          ((yields_mapM_cons each).mpr ⟨value, others, after, first_yields, others_yield, rfl⟩)

theorem times_eq_mapM (parser : ByteParser ε α) (count : Nat) :
    parser.times count = (List.replicate count ()).mapM fun _ => parser := by
  induction count with
  | zero => rfl
  | succ count ih => rw [times, ih, List.replicate_succ, List.mapM_cons]

/-- A loop returns exactly when every round that is reached does. -/
theorem times_returns_iff {family : Nat → ByteParser ε α} (settling : Settling family)
    {fuel count : Nat} {input : List UInt8} :
    ((family fuel).times count input).Returns ↔
      ∀ round < count, ∀ values middle,
        Yields (fun fuel => (family fuel).times round) input values middle →
          (family fuel middle).Returns := by
  have pass := @mapM_returns_iff ε Unit α (fun fuel _ => family fuel) (fun _ => settling) fuel
    (List.replicate count ()) input
  simp only [← times_eq_mapM, List.getElem?_replicate, List.take_replicate] at pass
  rw [pass]
  constructor
  · intro reached round within values middle yields
    refine reached round () (if_pos within) values middle ?_
    rwa [min_eq_left within.le]
  · intro reached round entry found values middle yields
    have within : round < count := by
      by_contra beyond
      rw [if_neg beyond] at found
      cases found
    rw [min_eq_left within.le] at yields
    exact reached round within values middle yields

end Loops

end ByteParser
