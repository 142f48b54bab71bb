import SubstrateClient.ByteParser

/-!
# Parsers on cut inputs

What a parser does on the proper front parts of a byte string it reads.  `CutsAt` names those which
it accepts.  `CutProfile` adds whether the empty input is accepted, which is what carries the question
through a sequence of parsers: a cut in one part goes unnoticed when the later parts need no input.
-/

namespace ByteParser

variable {ε α β : Type}

/-- A proper front part of `bytes` that is accepted is used up. -/
def ExhaustsCuts (parser : ByteParser ε α) (bytes : List UInt8) : Prop :=
  ∀ cut missing, bytes = cut ++ missing → missing ≠ [] →
    ∀ value rest, parser cut = .ok (value, rest) → rest = []

/-- The parser reads `bytes`, and of its proper front parts it accepts those in `accepted`, which it uses
up. -/
structure CutsAt (parser : ByteParser ε α) (bytes : List UInt8) (accepted : List UInt8 → Prop) :
    Prop where
  reads : ∃ value, Reads parser bytes value
  exhausts : ExhaustsCuts parser bytes
  succeeds_iff : ∀ cut missing, bytes = cut ++ missing → missing ≠ [] →
    ((parser cut).Succeeds ↔ accepted cut)

/-- No proper front part is accepted. -/
abbrev NoCut (_ : List UInt8) : Prop := False

/-- The cut lies behind the left part, at an accepted place of the right one. -/
def Behind (left : List UInt8) (accepted : List UInt8 → Prop) (cut : List UInt8) : Prop :=
  ∃ more, cut = left ++ more ∧ accepted more

theorem behind_append {left more : List UInt8} {accepted : List UInt8 → Prop} :
    Behind left accepted (left ++ more) ↔ accepted more := by
  refine ⟨?_, fun holds => ⟨more, rfl, holds⟩⟩
  rintro ⟨other, same, holds⟩
  rwa [List.append_cancel_left same]

theorem not_behind {left cut lost : List UInt8} {accepted : List UInt8 → Prop}
    (split : left = cut ++ lost) (proper : lost ≠ []) : ¬ Behind left accepted cut := by
  rintro ⟨more, rfl, -⟩
  have lengths := congrArg List.length split
  have positive := List.length_pos_of_ne_nil proper
  simp only [List.length_append] at lengths
  omega

/-- Behind one byte. -/
theorem behind_singleton_iff {first : UInt8} {bytes cut missing : List UInt8}
    {accepted : List UInt8 → Prop} (split : first :: bytes = cut ++ missing) :
    Behind [first] accepted cut ↔ cut ≠ [] ∧ accepted cut.tail := by
  cases cut with
  | nil => simp [Behind]
  | cons head cut =>
      obtain ⟨rfl, -⟩ := List.cons.inj split
      exact behind_append.trans (by simp)

theorem CutsAt.congr {parser : ByteParser ε α} {bytes : List UInt8}
    {accepted accepted' : List UInt8 → Prop} (cuts : CutsAt parser bytes accepted)
    (same : ∀ cut missing, bytes = cut ++ missing → missing ≠ [] → (accepted cut ↔ accepted' cut)) :
    CutsAt parser bytes accepted' :=
  ⟨cuts.reads, cuts.exhausts, fun cut missing split proper =>
    (cuts.succeeds_iff cut missing split proper).trans (same cut missing split proper)⟩

theorem Delimited.cutsAt {parser : ByteParser ε α} {bytes : List UInt8} {value : α}
    (delimited : Delimited parser) (reads : Reads parser bytes value) : CutsAt parser bytes NoCut where
  reads := ⟨value, reads⟩
  exhausts := by
    intro cut missing split proper result rest success
    exact absurd ⟨_, success⟩ (delimited.rejects_cut reads split proper)
  succeeds_iff := fun _ _ split proper => iff_of_false (delimited.rejects_cut reads split proper) id

/-- Only the successful parses matter. -/
theorem CutsAt.of_ok_iff {parser other : ByteParser ε α} {bytes : List UInt8}
    {accepted : List UInt8 → Prop} (cuts : CutsAt parser bytes accepted)
    (same : ∀ input result, other input = .ok result ↔ parser input = .ok result) :
    CutsAt other bytes accepted := by
  have succeeds : ∀ input, (other input).Succeeds ↔ (parser input).Succeeds :=
    fun input => exists_congr (same input)
  obtain ⟨value, reads⟩ := cuts.reads
  refine ⟨⟨value, fun rest => (same _ _).mpr (reads rest)⟩, ?_, ?_⟩
  · intro cut missing split proper result rest success
    exact cuts.exhausts cut missing split proper result rest ((same _ _).mp success)
  · intro cut missing split proper
    rw [succeeds]
    exact cuts.succeeds_iff cut missing split proper

/-- A proper front part of a concatenation ends inside the left part, or covers it. -/
theorem append_cut_cases {left right cut missing : List UInt8}
    (split : left ++ right = cut ++ missing) :
    (∃ lost, left = cut ++ lost ∧ lost ≠ []) ∨
      ∃ more, cut = left ++ more ∧ right = more ++ missing := by
  rcases List.append_eq_append_iff.mp split with ⟨more, cut_eq, right_eq⟩ | ⟨lost, left_eq, lost_eq⟩
  · exact .inr ⟨more, cut_eq, right_eq⟩
  · by_cases boundary : lost = []
    · subst boundary
      exact .inr ⟨[], by simpa using left_eq.symm, by simpa using lost_eq.symm⟩
    · exact .inl ⟨lost, left_eq, boundary⟩

/-! ## Sequences -/

/-- How a parser treats `bytes` and its front parts: of the proper ones it accepts those in `accepted`, and it
accepts the empty input exactly when `blank` holds. -/
structure CutProfile (parser : ByteParser ε α) (bytes : List UInt8) (accepted : List UInt8 → Prop)
    (blank : Prop) : Prop extends CutsAt parser bytes accepted where
  nil_iff : (parser []).Succeeds ↔ blank
  nil_rest : ∀ value rest, parser [] = .ok (value, rest) → rest = []

theorem CutProfile.congr {parser : ByteParser ε α} {bytes : List UInt8}
    {accepted accepted' : List UInt8 → Prop} {blank blank' : Prop}
    (profile : CutProfile parser bytes accepted blank)
    (same : ∀ cut missing, bytes = cut ++ missing → missing ≠ [] → (accepted cut ↔ accepted' cut))
    (blank_iff : blank ↔ blank') : CutProfile parser bytes accepted' blank' :=
  ⟨profile.toCutsAt.congr same, profile.nil_iff.trans blank_iff, profile.nil_rest⟩

theorem cutProfile_pure (value : α) : CutProfile (pure value : ByteParser ε α) [] NoCut True where
  toCutsAt := (delimited_pure value).cutsAt (reads_pure value)
  nil_iff := iff_of_true ⟨_, rfl⟩ trivial
  nil_rest := by
    intro result rest success
    cases success
    rfl

/-- The cut ends inside the left part, at a place where this accepts it, and what follows needs no input; or it
lies behind the left part. -/
def CutInPair (left : List UInt8) (accepted : List UInt8 → Prop) (blank : Prop)
    (accepted_next : List UInt8 → Prop) (cut : List UInt8) : Prop :=
  blank ∧ cut.length < left.length ∧ accepted cut ∨ Behind left accepted_next cut

theorem cutInPair_inside {left cut lost : List UInt8} {accepted accepted_next : List UInt8 → Prop} {blank : Prop}
    (split : left = cut ++ lost) (proper : lost ≠ []) :
    CutInPair left accepted blank accepted_next cut ↔ blank ∧ accepted cut := by
  have shorter : cut.length < left.length := by
    rw [split, List.length_append]
    exact Nat.lt_add_of_pos_right (List.length_pos_of_ne_nil proper)
  simp [CutInPair, not_behind split proper, shorter]

theorem cutInPair_append {left more : List UInt8} {accepted accepted_next : List UInt8 → Prop} {blank : Prop} :
    CutInPair left accepted blank accepted_next (left ++ more) ↔ accepted_next more := by
  simp [CutInPair, behind_append]

/-- In a sequence a cut is accepted inside the second part, or inside the first if the second
accepts the empty input.  The second part matters only after values the first returns on front
parts of its bytes. -/
theorem CutProfile.bind_returned {parser : ByteParser ε α} {next : α → ByteParser ε β}
    {left right : List UInt8} {accepted accepted_next : List UInt8 → Prop} {blank blank_next : Prop}
    (first : CutProfile parser left accepted blank)
    (second : ∀ cut missing value rest, left = cut ++ missing → parser cut = .ok (value, rest) →
      CutProfile (next value) right accepted_next blank_next) :
    CutProfile (parser >>= next) (left ++ right) (CutInPair left accepted blank_next accepted_next)
      (blank ∧ blank_next) := by
  obtain ⟨value, left_reads⟩ := first.reads
  have behind : ∀ more, (parser >>= next) (left ++ more) = next value more := by
    intro more
    rw [bind_apply, left_reads]
    rfl
  have after := second left [] value [] (List.append_nil left).symm left_reads.apply_self
  -- On a front part of its bytes the first part uses up what there is, and the second starts without input.
  have starved : ∀ cut missing, left = cut ++ missing →
      (∀ early middle, parser cut = .ok (early, middle) → middle = []) →
      (((parser >>= next) cut).Succeeds ↔ (parser cut).Succeeds ∧ blank_next) ∧
        ∀ result rest, (parser >>= next) cut = .ok (result, rest) → rest = [] := by
    intro cut missing split used_up
    refine ⟨⟨?_, ?_⟩, ?_⟩
    · rintro ⟨⟨result, rest⟩, success⟩
      obtain ⟨early, middle, parsed, continued⟩ := bind_eq_ok.mp success
      obtain rfl := used_up early middle parsed
      exact ⟨⟨_, parsed⟩, (second cut missing early [] split parsed).nil_iff.mp ⟨_, continued⟩⟩
    · rintro ⟨⟨⟨early, middle⟩, parsed⟩, next_blank⟩
      obtain rfl := used_up early middle parsed
      obtain ⟨result, continued⟩ := (second cut missing early [] split parsed).nil_iff.mpr next_blank
      refine ⟨result, ?_⟩
      rw [bind_apply, parsed]
      exact continued
    · intro result rest success
      obtain ⟨early, middle, parsed, continued⟩ := bind_eq_ok.mp success
      obtain rfl := used_up early middle parsed
      exact (second cut missing early [] split parsed).nil_rest result rest continued
  refine ⟨⟨?_, ?_, ?_⟩, ?_, ?_⟩
  · obtain ⟨result, right_reads⟩ := after.reads
    exact ⟨result, left_reads.bind right_reads⟩
  · intro cut missing split proper result rest success
    rcases append_cut_cases split with ⟨lost, left_eq, lost_ne⟩ | ⟨more, rfl, right_eq⟩
    · exact (starved cut lost left_eq (first.exhausts cut lost left_eq lost_ne)).2 result rest success
    · rw [behind] at success
      exact after.exhausts more missing right_eq proper result rest success
  · intro cut missing split proper
    rcases append_cut_cases split with ⟨lost, left_eq, lost_ne⟩ | ⟨more, rfl, right_eq⟩
    · rw [(starved cut lost left_eq (first.exhausts cut lost left_eq lost_ne)).1,
        first.succeeds_iff cut lost left_eq lost_ne, cutInPair_inside left_eq lost_ne, and_comm]
    · rw [behind, cutInPair_append]
      exact after.succeeds_iff more missing right_eq proper
  · rw [(starved [] left rfl first.nil_rest).1, first.nil_iff]
  · exact (starved [] left rfl first.nil_rest).2

/-- A sequence whose second part has one profile after every value. -/
theorem CutProfile.bind {parser : ByteParser ε α} {next : α → ByteParser ε β}
    {left right : List UInt8} {accepted accepted_next : List UInt8 → Prop} {blank blank_next : Prop}
    (first : CutProfile parser left accepted blank)
    (second : ∀ value, CutProfile (next value) right accepted_next blank_next) :
    CutProfile (parser >>= next) (left ++ right) (CutInPair left accepted blank_next accepted_next)
      (blank ∧ blank_next) :=
  first.bind_returned fun _ _ value _ _ _ => second value

/-- A pure step at the end changes nothing. -/
theorem CutProfile.bind_pure {parser : ByteParser ε α} {bytes : List UInt8} {accepted : List UInt8 → Prop}
    {blank : Prop} (first : CutProfile parser bytes accepted blank) (transform : α → β) :
    CutProfile (parser >>= fun value => pure (transform value)) bytes accepted blank := by
  have sequence := first.bind fun value =>
    (cutProfile_pure (transform value) : CutProfile (pure _ : ByteParser ε β) [] NoCut True)
  rw [List.append_nil] at sequence
  refine sequence.congr (fun cut missing split proper => ?_) (by simp)
  rw [cutInPair_inside split proper, true_and]

/-- Only the successful parses matter. -/
theorem CutProfile.of_ok_iff {parser other : ByteParser ε α} {bytes : List UInt8}
    {accepted : List UInt8 → Prop} {blank : Prop} (profile : CutProfile parser bytes accepted blank)
    (same : ∀ input result, other input = .ok result ↔ parser input = .ok result) :
    CutProfile other bytes accepted blank where
  toCutsAt := profile.toCutsAt.of_ok_iff same
  nil_iff := (exists_congr (same [])).trans profile.nil_iff
  nil_rest := fun result rest success => profile.nil_rest result rest ((same _ _).mp success)

/-- A delimited parser that reads a non-empty string rejects every cut of it. -/
theorem Delimited.cutProfile {parser : ByteParser ε α} {bytes : List UInt8} {value : α}
    (delimited : Delimited parser) (reads : Reads parser bytes value) (nonempty : bytes ≠ []) :
    CutProfile parser bytes NoCut False where
  toCutsAt := delimited.cutsAt reads
  nil_iff := iff_of_false (delimited.rejects_cut reads (List.nil_append bytes).symm nonempty) id
  nil_rest := by
    intro result rest success
    exact absurd ⟨_, success⟩ (delimited.rejects_cut reads (List.nil_append bytes).symm nonempty)

/-- A delimited first part is never left early. -/
theorem Delimited.cutProfile_bind {parser : ByteParser ε α} {next : α → ByteParser ε β}
    {left right : List UInt8} {value : α} {accepted : List UInt8 → Prop} {blank : Prop}
    (delimited : Delimited parser) (reads : Reads parser left value) (nonempty : left ≠ [])
    (second : CutProfile (next value) right accepted blank) :
    CutProfile (parser >>= next) (left ++ right) (Behind left accepted) False := by
  have returned : ∀ cut missing early rest, left = cut ++ missing →
      parser cut = .ok (early, rest) → CutProfile (next early) right accepted blank := by
    intro cut missing early rest left_eq parsed
    have whole : missing = [] := by
      by_contra proper
      exact delimited.rejects_cut reads left_eq proper ⟨_, parsed⟩
    rw [whole, List.append_nil] at left_eq
    rw [← left_eq, reads.apply_self] at parsed
    cases parsed
    exact second
  refine ((delimited.cutProfile reads nonempty).bind_returned returned).congr (fun cut _ _ _ => ?_) (by simp)
  simp [CutInPair]

/-! ## Runs over lists -/

/-- A cut of the bytes of a list ends inside one item, at an accepted place, and the items behind it need no
input. -/
def CutInRun (encodeItem : β → Outcome ε (List UInt8)) (accepted : β → List UInt8 → Prop) (blank : Prop) :
    List β → List UInt8 → Prop
  | [], _ => False
  | item :: later, cut => ∃ bytes, encodeItem item = .ok bytes ∧
      CutInPair bytes (accepted item) (later = [] ∨ blank) (CutInRun encodeItem accepted blank later) cut

theorem cutInRun_cons {encodeItem : β → Outcome ε (List UInt8)} {accepted : β → List UInt8 → Prop}
    {blank : Prop} {item : β} {later : List β} {bytes cut : List UInt8} (encoded : encodeItem item = .ok bytes) :
    CutInRun encodeItem accepted blank (item :: later) cut ↔
      CutInPair bytes (accepted item) (later = [] ∨ blank) (CutInRun encodeItem accepted blank later) cut := by
  constructor
  · rintro ⟨written, success, inside⟩
    rw [encoded] at success
    cases success
    exact inside
  · exact fun inside => ⟨bytes, encoded, inside⟩

/-- Where no item can be cut, no list can. -/
theorem not_cutInRun {encodeItem : β → Outcome ε (List UInt8)} {blank : Prop} {items : List β}
    {cut : List UInt8} : ¬ CutInRun encodeItem (fun _ => NoCut) blank items cut := by
  induction items generalizing cut with
  | nil => exact id
  | cons item later ih =>
      rintro ⟨bytes, _, ⟨_, _, none⟩ | ⟨more, _, inside⟩⟩
      · exact none
      · exact ih inside

/-- A run of one parser over the bytes of as many items as a vector has entries. -/
theorem cutProfile_mapVector {step : α → ByteParser ε β} {encodeItem : β → Outcome ε (List UInt8)}
    {accepted : β → List UInt8 → Prop} {blank : Prop} {count : Nat} (starts : List.Vector α count)
    {items : List β} {chunks : List (List UInt8)} (width : items.length = count)
    (each : List.Forall₂ (fun item bytes => encodeItem item = .ok bytes ∧
      ∀ start, CutProfile (step start) bytes (accepted item) blank) items chunks) :
    CutProfile (mapVector step starts) chunks.flatten (CutInRun encodeItem accepted blank items)
      (count = 0 ∨ blank) := by
  induction each generalizing count with
  | nil =>
      subst width
      exact (cutProfile_pure List.Vector.nil).congr (fun _ _ _ _ => Iff.rfl) (by simp)
  | cons first _ ih =>
      subst width
      rw [List.flatten_cons]
      have sequence := (first.2 starts.head).bind fun value =>
        (ih starts.tail rfl).bind_pure fun later => List.Vector.cons value later
      refine sequence.congr (fun _ _ _ _ => ?_) ?_
      · simp only [cutInRun_cons first.1, List.length_cons, Nat.add_one_sub_one, List.length_eq_zero_iff]
      · simp only [List.length_cons, Nat.add_one_sub_one, Nat.add_one_ne_zero, false_or]
        tauto

/-- The same over a list. -/
theorem cutProfile_mapM {step : α → ByteParser ε β} {encodeItem : β → Outcome ε (List UInt8)}
    {accepted : β → List UInt8 → Prop} {blank : Prop} {starts : List α} {items : List β}
    {chunks : List (List UInt8)} (width : starts.length = items.length)
    (each : List.Forall₂ (fun item bytes => encodeItem item = .ok bytes ∧
      ∀ start, CutProfile (step start) bytes (accepted item) blank) items chunks) :
    CutProfile (starts.mapM step) chunks.flatten (CutInRun encodeItem accepted blank items)
      (items = [] ∨ blank) := by
  obtain ⟨entries, rfl⟩ : ∃ entries : List.Vector α items.length, entries.toList = starts := ⟨⟨starts, width⟩, rfl⟩
  have vector := (cutProfile_mapVector entries rfl each).bind_pure List.Vector.toList
  rw [← mapM_toList] at vector
  exact vector.congr (fun _ _ _ _ => Iff.rfl) (by rw [List.length_eq_zero_iff])

end ByteParser
