import SubstrateClient.Registry.Parser
import SubstrateClient.Scale.PanicFreedom

/-!
# Inputs that bring a parse down

A decoder that is called on some input either stops there, with a value, an error or a fault, or
calls further decoders on later parts of the input.  Parsing returns exactly when these calls reach
no fault and do not descend for ever.
-/

namespace SubstrateClient.Registry

open ByteParser Scale SubstrateClient.Types

/-! ## Steps that always return -/

theorem total_bitVec (bitOrder : BitOrder) : Total (BitVec.decode bitOrder) := by
  refine Total.bind (total_decodeUintCompact.bind fun number => ?_) fun numBytes => ?_
  · dsimp only
    split_ifs
    · exact total_fail _
    · exact total_pure _
  · exact (total_readOneByte.times numBytes).bind fun _ => total_pure _

theorem total_phase : Total Phase.decode := by
  refine total_readOneByte.bind fun byte => ?_
  split_ifs
  · exact (total_num .u32 _).bind fun _ => total_pure _
  · exact total_pure _
  · exact total_pure _
  · exact total_pure _

theorem total_eventID : Total EventID.decode :=
  (total_num .u8 _).bind fun _ => (total_num .u8 _).bind fun _ => total_pure _

/-! ## Loops over fields -/

/-- A decoder and the input it is called on. -/
abbrev CallSite : Type := FieldDecoder × List UInt8

/-- What is left of the input before the field at the position. -/
def BeforeField (decodeValue : Nat → FieldDecoder → Decoder Value) (fields : List (Field FieldDecoder))
    (position : Nat) (input middle : List UInt8) : Prop :=
  ∃ values, Yields (fun fuel => FieldDecoder.decodeFields (decodeValue fuel) (fields.take position))
    input values middle

/-- Decoding one field, given how its value is decoded. -/
theorem settling_fieldValue {decodeValue : Nat → FieldDecoder → Decoder Value}
    (settling : ∀ decoder, Settling fun fuel => decodeValue fuel decoder) (field : Field FieldDecoder) :
    Settling fun fuel => (decodeValue fuel field.decoder >>= fun value =>
      pure (DecodedField.mk field.name value field.lookupIndex) : Decoder (DecodedField Value)) :=
  (settling field.decoder).bind fun _ => settling_const _

/-- A loop over fields returns exactly when every field it reaches does. -/
theorem decodeFields_returns_iff {decodeValue : Nat → FieldDecoder → Decoder Value}
    (settling : ∀ decoder, Settling fun fuel => decodeValue fuel decoder) {fuel : Nat}
    {fields : List (Field FieldDecoder)} {input : List UInt8} :
    (FieldDecoder.decodeFields (decodeValue fuel) fields input).Returns ↔
      ∀ position field, fields[position]? = some field → ∀ middle,
        BeforeField decodeValue fields position input middle →
          (decodeValue fuel field.decoder middle).Returns := by
  refine (mapM_returns_iff (settling_fieldValue settling)).trans ?_
  simp only [bind_pure_returns_iff]
  constructor
  · rintro reached position field found middle ⟨values, yields⟩
    exact reached position field found values middle yields
  · intro reached position field found values middle yields
    exact reached position field found middle ⟨values, yields⟩

theorem decodeFields_mapError (rewrite : GoError → GoError) (decodeValue : FieldDecoder → Decoder Value)
    (fields : List (Field FieldDecoder)) :
    FieldDecoder.decodeFields (fun inner => (decodeValue inner).mapError rewrite) fields =
      (FieldDecoder.decodeFields decodeValue fields).mapError rewrite := by
  unfold FieldDecoder.decodeFields
  rw [mapM_mapError]
  simp only [bind_mapError]
  rfl

/-- A variant returns exactly when the decoder it selects does. -/
theorem decodeVariant_returns_iff {decodeValue : FieldDecoder → Decoder Value}
    {fieldDecoderMap : List (UInt8 × FieldDecoder)} {input : List UInt8} :
    (FieldDecoder.decodeVariant decodeValue fieldDecoderMap input).Returns ↔
      ∀ byte rest inner, input = byte :: rest → fieldDecoderMap.lookup byte = some inner →
        inner.isNoop = false → (decodeValue inner rest).Returns := by
  cases input with
  | nil => exact iff_of_true (Outcome.returns_error _) fun _ _ _ empty => nomatch empty
  | cons byte rest =>
      have byte_read : readOneByte.mapError (GoError.wrap errVariantByteDecoding) (byte :: rest) =
          .ok (byte, rest) := rfl
      rw [FieldDecoder.decodeVariant, bind_apply, byte_read, Outcome.ok_bind]
      constructor
      · rintro returned _ _ inner ⟨⟩ selected not_noop
        simp only [selected, not_noop] at returned
        exact returned
      · intro each
        cases selected : fieldDecoderMap.lookup byte with
        | none => exact Outcome.returns_error _
        | some inner =>
            cases noop : inner.isNoop with
            | true =>
                simp only [noop, if_true]
                exact Outcome.returns_ok _
            | false =>
                simp only [noop]
                exact each byte rest inner rfl selected noop

/-- What is reached in finitely many rounds, at one place in each round, is finite. -/
theorem finite_of_rounds {count : Nat} {reached : Nat → Set CallSite} {entered : Set CallSite}
    (each : ∀ round, (reached round).Subsingleton)
    (covered : ∀ site ∈ entered, ∃ round < count, site ∈ reached round) : entered.Finite := by
  have union : (⋃ round ∈ Set.Iio count, reached round).Finite :=
    (Set.finite_Iio count).biUnion fun round _ => (each round).finite
  refine union.subset fun site member => ?_
  obtain ⟨round, within, member⟩ := covered site member
  exact Set.mem_biUnion within member

theorem finite_beforeField {decodeValue : Nat → FieldDecoder → Decoder Value}
    (settling : ∀ decoder, Settling fun fuel => decodeValue fuel decoder)
    (fields : List (Field FieldDecoder)) (input : List UInt8) :
    {site : CallSite | ∃ position field, fields[position]? = some field ∧ site.1 = field.decoder ∧
      BeforeField decodeValue fields position input site.2}.Finite := by
  refine @finite_of_rounds fields.length (fun position => {site | ∃ field,
    fields[position]? = some field ∧ site.1 = field.decoder ∧
      BeforeField decodeValue fields position input site.2}) _ ?_ ?_
  · rintro position ⟨_, middle⟩ ⟨field, found, rfl, values, yields⟩
      ⟨_, middle'⟩ ⟨field', found', rfl, values', yields'⟩
    obtain rfl := Option.some.inj (found.symm.trans found')
    have settles := settling_mapM (settling_fieldValue settling) (fields.take position)
    exact congrArg _ (settles.yields_unique yields yields').2
  · rintro site ⟨position, field, found, same, before⟩
    exact ⟨position, (List.getElem?_eq_some_iff.mp found).1, field, found, same, before⟩

/-! ## Memory -/

section Memory

variable [Runtime .none]

/-- A new slice is made for a length: it can be read, and memory is granted unless the codec refuses the length
with an error. -/
def LengthServed (element : GoType .none) (input : List UInt8) : Prop :=
  ∃ codedLen rest, decodeUintCompact input = .ok (codedLen, rest) ∧
    (codedLen % 2 ^ 64 ≤ maxUint32 →
      codedLen % 2 ^ 64 = 0 ∨ Runtime.grants element (codedLen % 2 ^ 64) = true)

/-- A new slice of items that always return. -/
theorem newSlice_returns_iff {α : Type} {element : GoType .none} {zero : α} {decodeItem : α → Decoder α}
    (each : ∀ start, Total (decodeItem start)) {input : List UInt8} :
    (Scale.decodeSlice (Runtime.grants element) zero decodeItem ⟨[], []⟩ input).Returns ↔
      LengthServed element input := by
  have always : ∀ item input, (decodeItem item input).Returns ↔ True :=
    fun item input => iff_of_true (each item input) trivial
  rw [decodeSlice_returns_iff always]
  refine exists₂_congr fun codedLen rest => and_congr_right fun _ => imp_congr_right fun _ => ?_
  rw [and_iff_left (runSafe_of_forall (fun _ _ => trivial) _ _)]
  exact or_congr_left Nat.le_zero

theorem decodeTopics_returns_iff {input : List UInt8} :
    (decodeTopics input).Returns ↔ LengthServed (byteArray 32) input :=
  bind_pure_returns_iff.trans
    (newSlice_returns_iff fun start => total_mapVector (total_num .u8) start)

theorem decodeKind_returns_iff {kind : ValueKind} {input : List UInt8} :
    (kind.decode input).Returns ↔ (kind = .string → LengthServed (.num .u8) input) := by
  cases kind with
  | string =>
      have slice : ((ValueKind.string).decode input).Returns ↔ LengthServed (.num .u8) input :=
        bind_pure_returns_iff.trans (bind_pure_returns_iff.trans (newSlice_returns_iff total_decodeByte))
      rw [slice]
      simp
  | bool =>
      refine iff_of_true ?_ (by simp)
      exact (((total_binaryRead 1).bind fun _ => total_pure _).bind fun _ => total_pure _) input
  | byte => exact iff_of_true (((total_num .u8 _).bind fun _ => total_pure _) input) (by simp)
  | num kind => exact iff_of_true (((total_num kind _).bind fun _ => total_pure _) input) (by simp)
  | big kind =>
      refine iff_of_true ?_ (by simp)
      exact (((total_read kind.size).bind fun _ => total_pure _).bind fun _ => total_pure _) input
  | uCompact =>
      refine iff_of_true ?_ (by simp)
      exact ((total_decodeUintCompact.bind fun _ => total_pure _).bind fun _ => total_pure _) input
  | any => exact iff_of_true (total_fail _ input) (by simp)

end Memory

/-! ## Calls of decoders -/

section Sites

variable [Runtime .none]

/-- The call brings the program down by itself: a method of the nil interface, a string whose length cannot be
read or finds no memory, a capacity that `make` does not grant, or a client's decoder that does not return. -/
def Fault : CallSite → Prop
  | (.nil, _) => True
  | (.value kind, input) => kind = .string ∧ ¬ LengthServed (.num .u8) input
  | (.array length item, _) => item.isNil = false ∧ FieldDecoder.grantsCapacity length = false
  | (.slice item, input) =>
      item.isNil = false ∧ ∃ sliceLen rest, decodeUintCompact input = .ok (sliceLen, rest) ∧
        FieldDecoder.grantsCapacity (sliceLen % 2 ^ 64) = false
  | (.custom run, input) => ¬ (run input).Returns
  | _ => False

/-- What is left of the input before one of the rounds of a loop over the items. -/
def BeforeRound (cells : Cells) (item : FieldDecoder) (count : Nat) (input middle : List UInt8) : Prop :=
  ∃ round < count, ∃ values, Yields (fun fuel => (item.decode cells fuel).times round) input values middle

/-- The first call makes the second one. -/
def Enters (cells : Cells) : CallSite → CallSite → Prop
  | (.variant fieldDecoderMap, input), (inner, rest) =>
      ∃ byte, input = byte :: rest ∧ fieldDecoderMap.lookup byte = some inner ∧ inner.isNoop = false
  | (.array length item, input), (inner, middle) =>
      item.isNil = false ∧ inner = item ∧ BeforeRound cells item length input middle
  | (.slice item, input), (inner, middle) =>
      item.isNil = false ∧ inner = item ∧ ∃ sliceLen rest, decodeUintCompact input = .ok (sliceLen, rest) ∧
        BeforeRound cells item (sliceLen % 2 ^ 64) rest middle
  | (.composite _ fields, input), (inner, middle) =>
      ∃ position field, fields[position]? = some field ∧ inner = field.decoder ∧
        BeforeField (fun fuel => FieldDecoder.decode cells fuel) fields position input middle
  | (.recursive cell, input), (inner, rest) =>
      cells[cell]? = some inner ∧ inner.isNil = false ∧ rest = input
  | _, _ => False

end Sites

section Calls

variable [Runtime .none] {cells : Cells}

/-- A loop over items returns exactly when its capacity is allowed and every round it reaches does. -/
theorem decodeItems_returns_iff (item : FieldDecoder) (outer : GoError) {fuel count : Nat}
    {input : List UInt8} :
    (FieldDecoder.decodeItems ((item.decode cells fuel).mapError (.wrap outer)) count input).Returns ↔
      FieldDecoder.grantsCapacity count = true ∧
        ∀ middle, BeforeRound cells item count input middle →
          (item.decode cells fuel middle).Returns := by
  unfold FieldDecoder.decodeItems
  split_ifs with refused
  · exact iff_of_false Outcome.not_returns_panic fun holds => Bool.eq_false_iff.mp refused holds.1
  · rw [and_iff_right (Bool.not_eq_false _ ▸ refused), bind_pure_returns_iff, ← times_mapError, mapError_returns_iff,
      times_returns_iff (FieldDecoder.settling_decode cells item)]
    constructor
    · rintro reached middle ⟨round, within, values, yields⟩
      exact reached round within values middle yields
    · intro reached round within values middle yields
      exact reached middle ⟨round, within, values, yields⟩

/-- A slice returns exactly when its length cannot be read, or is allowed and its rounds return. -/
theorem decodeLength_returns_iff (item : FieldDecoder) {fuel : Nat} {input : List UInt8} :
    (FieldDecoder.decodeSlice (item.decode cells fuel) input).Returns ↔
      ∀ sliceLen rest, decodeUintCompact input = .ok (sliceLen, rest) →
        FieldDecoder.grantsCapacity (sliceLen % 2 ^ 64) = true ∧
          ∀ middle, BeforeRound cells item (sliceLen % 2 ^ 64) rest middle →
            (item.decode cells fuel middle).Returns := by
  unfold FieldDecoder.decodeSlice
  rw [bind_apply, Outcome.returns_bind]
  rw [and_iff_right (mapError_returns_iff.mpr (total_decodeUintCompact input))]
  simp only [mapError_apply, Outcome.mapError_eq_ok, Prod.forall, decodeItems_returns_iff]

/-- A recursive decoder without an inner decoder returns its error. -/
theorem decode_unset {cell fuel : Nat}
    (absent : ∀ inner, cells[cell]? = some inner → inner.isNil = true) :
    FieldDecoder.decode cells (fuel + 1) (.recursive cell) = fail errRecursiveFieldDecoderNotFound := by
  rw [FieldDecoder.decode]
  split
  · rfl
  · rfl
  · rename_i inner not_nil set
    cases inner with
    | nil => exact absurd rfl not_nil
    | _ => cases absent _ set

/-- A call returns exactly when it is no fault and the calls it makes return with one fuel less. -/
theorem decode_returns_iff {fuel : Nat} {site : CallSite} :
    (site.1.decode cells (fuel + 1) site.2).Returns ↔
      ¬ Fault site ∧ ∀ entered, Enters cells site entered →
        (entered.1.decode cells fuel entered.2).Returns := by
  obtain ⟨decoder, input⟩ := site
  cases decoder with
  | nil => exact iff_of_false Outcome.not_returns_panic fun holds => holds.1 trivial
  | noop => exact iff_of_true (Outcome.returns_ok _) ⟨id, fun _ => False.elim⟩
  | variant fieldDecoderMap =>
      refine decodeVariant_returns_iff.trans ⟨fun each => ⟨id, ?_⟩, fun holds => ?_⟩
      · rintro ⟨inner, rest⟩ ⟨byte, split, selected, not_noop⟩
        exact each byte rest inner split selected not_noop
      · intro byte rest inner split selected not_noop
        exact holds.2 (inner, rest) ⟨byte, split, selected, not_noop⟩
  | array length item =>
      rw [FieldDecoder.decode_array]
      cases absent : item.isNil with
      | true =>
          refine iff_of_true (Outcome.returns_error _) ⟨?_, ?_⟩
          · exact fun fault => absurd (absent.symm.trans fault.1) (by decide)
          · exact fun _ enters => absurd (absent.symm.trans enters.1) (by decide)
      | false =>
          refine (decodeItems_returns_iff item _).trans (and_congr ⟨?_, ?_⟩ ⟨?_, ?_⟩)
          · exact fun granted fault => Bool.eq_false_iff.mp fault.2 granted
          · exact fun no_fault => Bool.not_eq_false _ ▸ fun refused => no_fault ⟨absent, refused⟩
          · rintro reached ⟨_, middle⟩ ⟨_, rfl, before⟩
            exact reached middle before
          · exact fun each middle before => each (item, middle) ⟨absent, rfl, before⟩
  | slice item =>
      rw [FieldDecoder.decode_slice]
      cases absent : item.isNil with
      | true =>
          refine iff_of_true (Outcome.returns_error _) ⟨?_, ?_⟩
          · exact fun fault => absurd (absent.symm.trans fault.1) (by decide)
          · exact fun _ enters => absurd (absent.symm.trans enters.1) (by decide)
      | false =>
          refine (decodeLength_returns_iff item).trans ⟨fun reached => ⟨?_, ?_⟩, fun holds => ?_⟩
          · rintro ⟨_, sliceLen, rest, length_read, refused⟩
            exact Bool.eq_false_iff.mp refused (reached sliceLen rest length_read).1
          · rintro ⟨_, middle⟩ ⟨_, rfl, sliceLen, rest, length_read, before⟩
            exact (reached sliceLen rest length_read).2 middle before
          · intro sliceLen rest length_read
            refine ⟨Bool.not_eq_false _ ▸ fun refused => ?_, fun middle before => ?_⟩
            · exact holds.1 ⟨absent, sliceLen, rest, length_read, refused⟩
            · exact holds.2 (item, middle) ⟨absent, rfl, sliceLen, rest, length_read, before⟩
  | composite name fields =>
      refine bind_pure_returns_iff.trans ?_
      rw [decodeFields_mapError, mapError_returns_iff,
        decodeFields_returns_iff (FieldDecoder.settling_decode cells)]
      refine ⟨fun reached => ⟨id, ?_⟩, fun holds => ?_⟩
      · rintro ⟨_, middle⟩ ⟨position, field, found, rfl, before⟩
        exact reached position field found middle before
      · intro position field found middle before
        exact holds.2 (field.decoder, middle) ⟨position, field, found, rfl, before⟩
  | value kind =>
      refine bind_pure_returns_iff.trans (mapError_returns_iff.trans (decodeKind_returns_iff.trans ?_))
      refine ⟨fun readable => ⟨fun fault => fault.2 (readable fault.1), fun _ => False.elim⟩, ?_⟩
      exact fun holds is_string => not_not.mp fun unreadable => holds.1 ⟨is_string, unreadable⟩
  | recursive cell =>
      by_cases absent : ∀ inner, cells[cell]? = some inner → inner.isNil = true
      · rw [decode_unset absent]
        refine iff_of_true (Outcome.returns_error _) ⟨id, ?_⟩
        rintro ⟨inner, _⟩ ⟨set, present, _⟩
        exact absurd ((absent inner set).symm.trans present) (by decide)
      · push Not at absent
        obtain ⟨inner, set, present⟩ := absent
        have present := Bool.eq_false_iff.mpr present
        rw [FieldDecoder.decode_recursive _ set present]
        refine ⟨fun returned => ⟨id, ?_⟩, fun holds => holds.2 (inner, input) ⟨set, present, rfl⟩⟩
        rintro ⟨other, _⟩ ⟨other_set, _, rfl⟩
        obtain rfl := Option.some.inj (set.symm.trans other_set)
        exact returned
  | bitSequence name bitOrder =>
      refine iff_of_true ?_ ⟨id, fun _ => False.elim⟩
      exact (((total_bitVec bitOrder).mapError _).bind fun _ => total_pure _) input
  | custom run =>
      refine mapError_returns_iff.trans ⟨fun returned => ⟨not_not.mpr returned, fun _ => False.elim⟩, ?_⟩
      exact fun holds => not_not.mp holds.1

/-! ## Calls that return -/

theorem finite_beforeRound (item : FieldDecoder) (count : Nat) (input : List UInt8) :
    {site : CallSite | site.1 = item ∧ BeforeRound cells item count input site.2}.Finite := by
  refine @finite_of_rounds count (fun round => {site | site.1 = item ∧ ∃ values,
    Yields (fun fuel => (item.decode cells fuel).times round) input values site.2}) _ ?_ ?_
  · rintro round ⟨_, middle⟩ ⟨rfl, values, yields⟩ ⟨_, middle'⟩ ⟨rfl, values', yields'⟩
    have unique := ((FieldDecoder.settling_decode cells _).times round).yields_unique yields yields'
    exact congrArg _ unique.2
  · rintro site ⟨same, round, within, values, yields⟩
    exact ⟨round, within, same, values, yields⟩

/-- A call makes finitely many calls. -/
theorem finite_enters (site : CallSite) : {entered | Enters cells site entered}.Finite := by
  obtain ⟨decoder, input⟩ := site
  cases decoder with
  | variant fieldDecoderMap =>
      refine Set.Subsingleton.finite ?_
      rintro ⟨inner, rest⟩ ⟨byte, rfl, selected, _⟩ ⟨inner', rest'⟩ ⟨byte', split, selected', _⟩
      obtain ⟨rfl, rfl⟩ := List.cons.inj split
      exact congrArg (·, rest) (Option.some.inj (selected.symm.trans selected'))
  | array length item =>
      exact (finite_beforeRound item length input).subset fun site enters => enters.2
  | slice item =>
      cases length_read : decodeUintCompact input with
      | ok result =>
          have rounds := @finite_beforeRound _ cells item (result.1 % 2 ^ 64) result.2
          refine rounds.subset ?_
          rintro site ⟨_, same, sliceLen, rest, other_read, before⟩
          obtain rfl := Outcome.ok.inj (length_read.symm.trans other_read)
          exact ⟨same, before⟩
      | _ =>
          refine Set.finite_empty.subset ?_
          rintro site ⟨_, _, sliceLen, rest, other_read, _⟩
          rw [length_read] at other_read
          cases other_read
  | composite name fields => exact finite_beforeField (FieldDecoder.settling_decode cells) fields input
  | recursive cell =>
      refine Set.Subsingleton.finite ?_
      rintro ⟨inner, _⟩ ⟨set, _, rfl⟩ ⟨inner', _⟩ ⟨set', _, rfl⟩
      exact congrArg (·, _) (Option.some.inj (set.symm.trans set'))
  | _ => exact Set.finite_empty

/-- No call that is made, directly or not, is a fault, and no chain of calls goes on for ever. -/
structure Harmless (cells : Cells) (site : CallSite) : Prop where
  ends : Acc (fun entered site => Enters cells site entered) site
  no_fault : ∀ reached, Relation.ReflTransGen (Enters cells) site reached → ¬ Fault reached

/-- A decoder returns exactly on the inputs that are harmless. -/
theorem returns_iff_harmless {site : CallSite} :
    Returns (fun fuel => site.1.decode cells fuel) site.2 ↔ Harmless cells site := by
  constructor
  · rintro ⟨fuel, returned⟩
    induction fuel generalizing site with
    | zero => exact absurd returned Outcome.not_returns_outOfFuel
    | succ fuel ih =>
        obtain ⟨no_fault, each⟩ := decode_returns_iff.mp returned
        refine ⟨⟨_, fun entered enters => (ih (each entered enters)).ends⟩, fun reached path => ?_⟩
        rcases path.cases_head with rfl | ⟨entered, enters, later⟩
        · exact no_fault
        · exact (ih (each entered enters)).no_fault reached later
  · rintro ⟨ends, no_fault⟩
    induction ends with
    | intro site _ ih =>
        have each : ∀ entered ∈ {entered | Enters cells site entered},
            Returns (fun fuel => entered.1.decode cells fuel) entered.2 :=
          fun entered enters => ih entered enters fun reached later =>
            no_fault reached (.head enters later)
        obtain ⟨fuel, common⟩ := exists_common_fuel
          (fun entered : CallSite => FieldDecoder.settling_decode cells entered.1) (finite_enters site) each
        exact ⟨fuel + 1, decode_returns_iff.mpr ⟨no_fault site .refl, common⟩⟩

end Calls

/-! ## Events and extrinsics -/

section Parsers

variable [Runtime .none] {cells : Cells}

/-- Every field of the type that is reached is harmless where it is reached.  The nil decoder of a
field is refused with an error before it is called. -/
def FieldsHarmless (cells : Cells) (typeDecoder : TypeDecoder) (input : List UInt8) : Prop :=
  ∀ position field, typeDecoder.fields[position]? = some field → field.decoder.isNil = false →
    ∀ middle, BeforeField (fun fuel => Field.decode cells fuel) typeDecoder.fields position input middle →
      Harmless cells (field.decoder, middle)

theorem settling_field (decoder : FieldDecoder) : Settling fun fuel => Field.decode cells fuel decoder := by
  unfold Field.decode
  split_ifs
  · exact settling_const _
  · exact FieldDecoder.settling_decode cells decoder

theorem field_returns_iff {decoder : FieldDecoder} {input : List UInt8} :
    Returns (fun fuel => Field.decode cells fuel decoder) input ↔
      (decoder.isNil = false → Harmless cells (decoder, input)) := by
  unfold Field.decode
  cases decoder.isNil with
  | true => exact iff_of_true ⟨0, Outcome.returns_error _⟩ nofun
  | false =>
      have harmless := @returns_iff_harmless _ cells (decoder, input)
      exact harmless.trans ⟨fun harmless _ => harmless, fun holds => holds rfl⟩

/-- The fields of a type are decoded to a value or an error exactly when they are harmless. -/
theorem typeDecoder_returns_iff {typeDecoder : TypeDecoder} {input : List UInt8} :
    Returns (fun fuel => typeDecoder.decode cells fuel) input ↔ FieldsHarmless cells typeDecoder input := by
  unfold TypeDecoder.decode
  simp only [decodeFields_mapError]
  constructor
  · rintro ⟨fuel, returned⟩ position field found present middle before
    have reached := (decodeFields_returns_iff settling_field).mp (mapError_returns_iff.mp returned)
    exact field_returns_iff.mp ⟨fuel, reached position field found middle before⟩ present
  · intro harmless
    have finite := finite_beforeField (@settling_field _ cells) typeDecoder.fields input
    have each : ∀ site ∈ {site : CallSite | ∃ position field,
        typeDecoder.fields[position]? = some field ∧ site.1 = field.decoder ∧
          BeforeField (fun fuel => Field.decode cells fuel) typeDecoder.fields position input site.2},
        Returns (fun fuel => Field.decode cells fuel site.1) site.2 := by
      rintro ⟨_, middle⟩ ⟨position, field, found, rfl, before⟩
      exact field_returns_iff.mpr fun present => harmless position field found present middle before
    obtain ⟨fuel, common⟩ := exists_common_fuel (fun site => settling_field site.1) finite each
    refine ⟨fuel, mapError_returns_iff.mpr ((decodeFields_returns_iff settling_field).mpr ?_)⟩
    intro position field found middle before
    exact common (field.decoder, middle) ⟨position, field, found, rfl, before⟩

variable {eventRegistry : TypeRegistry EventID} {callRegistry : TypeRegistry CallIndex}

/-- At the start of an event: its fields are harmless, and behind them the number of topics can be read and
finds memory. -/
def EventHarmless (cells : Cells) (eventRegistry : TypeRegistry EventID) (input : List UInt8) : Prop :=
  ∀ phase afterPhase eventID afterID eventDecoder, Phase.decode input = .ok (phase, afterPhase) →
    EventID.decode afterPhase = .ok (eventID, afterID) →
    eventRegistry.lookup eventID = some eventDecoder →
      FieldsHarmless cells eventDecoder afterID ∧
        ∀ fields afterFields, Yields (fun fuel => eventDecoder.decode cells fuel) afterID fields afterFields →
          LengthServed (byteArray 32) afterFields

/-- Every event of the storage data that is reached is harmless. -/
def StorageHarmless (cells : Cells) (eventRegistry : TypeRegistry EventID) (storageData : List UInt8) :
    Prop :=
  ∀ eventsCount rest, decodeUintCompact storageData = .ok (eventsCount, rest) →
    ∀ round < eventsCount % 2 ^ 64, ∀ events middle,
      Yields (fun fuel => parseEventLoop cells eventRegistry fuel 0 round) rest events middle →
        EventHarmless cells eventRegistry middle

/-- The arguments of every extrinsic are harmless if the extrinsics before it can be parsed. -/
def ExtrinsicsHarmless {σ : Type} (cells : Cells) (callRegistry : TypeRegistry CallIndex)
    (extrinsics : List (BlockExtrinsic σ)) : Prop :=
  ∀ position extrinsic callDecoder, extrinsics[position]? = some extrinsic →
    (∃ fuel parsed, parseExtrinsics cells callRegistry fuel (extrinsics.take position) = .ok parsed) →
    callRegistry.lookup extrinsic.call.callIndex = some callDecoder →
      FieldsHarmless cells callDecoder extrinsic.call.args

theorem parseEventBody_returns_iff {index : Nat} {phase : Phase} {eventID : EventID}
    {input : List UInt8} :
    Returns (fun fuel => parseEventBody cells eventRegistry index fuel phase eventID) input ↔
      ∀ eventDecoder, eventRegistry.lookup eventID = some eventDecoder →
        FieldsHarmless cells eventDecoder input ∧
          ∀ fields afterFields, Yields (fun fuel => eventDecoder.decode cells fuel) input fields afterFields →
            LengthServed (byteArray 32) afterFields := by
  unfold parseEventBody
  cases eventRegistry.lookup eventID with
  | none => exact iff_of_true ⟨0, Outcome.returns_error _⟩ nofun
  | some eventDecoder =>
      have fields_settle := (eventDecoder.settling_decode cells).mapError
        (eventError errEventFieldsDecoding index)
      refine (returns_bind fields_settle fun fields => settling_const
        (decodeTopics.mapError (eventError errEventTopicsDecoding index) >>= fun topics =>
          pure (Event.mk eventDecoder.name fields eventID phase topics))).trans ?_
      have fields_return : Returns (fun fuel => (eventDecoder.decode cells fuel).mapError
          (eventError errEventFieldsDecoding index)) input ↔ FieldsHarmless cells eventDecoder input :=
        (exists_congr fun fuel => mapError_returns_iff).trans typeDecoder_returns_iff
      simp only [fields_return, yields_mapError, Option.some.injEq, forall_eq']
      refine and_congr_right fun _ => forall₃_congr fun fields afterFields yields => ?_
      rw [← decodeTopics_returns_iff]
      exact (exists_const Nat).trans (bind_pure_returns_iff.trans mapError_returns_iff)

theorem parseEvent_returns_iff {index : Nat} {input : List UInt8} :
    Returns (fun fuel => parseEvent cells eventRegistry index fuel) input ↔
      EventHarmless cells eventRegistry input := by
  have id_returns : ∀ phase afterPhase, Returns (fun fuel =>
      (EventID.decode.mapError (eventError errEventIDDecoding index) >>=
        parseEventBody cells eventRegistry index fuel phase)) afterPhase ↔
      ∀ eventID afterID, EventID.decode afterPhase = .ok (eventID, afterID) →
        Returns (fun fuel => parseEventBody cells eventRegistry index fuel phase eventID) afterID := by
    intro phase afterPhase
    refine (returns_bind (settling_const _) (settling_parseEventBody index phase)).trans ?_
    rw [and_iff_right ⟨0, (total_eventID.mapError _) afterPhase⟩]
    simp only [yields_const, mapError_apply, Outcome.mapError_eq_ok]
  refine (returns_bind (settling_const _) fun phase =>
    (settling_const _).bind (settling_parseEventBody index phase)).trans ?_
  rw [and_iff_right ⟨0, (total_phase.mapError _) input⟩]
  simp only [id_returns, yields_const, mapError_apply, Outcome.mapError_eq_ok,
    parseEventBody_returns_iff]
  constructor
  · intro each phase afterPhase eventID afterID eventDecoder phase_read id_read found
    exact each phase afterPhase phase_read eventID afterID id_read eventDecoder found
  · intro each phase afterPhase phase_read eventID afterID id_read eventDecoder found
    exact each phase afterPhase eventID afterID eventDecoder phase_read id_read found

theorem yields_parseEventLoop_succ {index count : Nat} {input rest : List UInt8} {events : List Event} :
    Yields (fun fuel => parseEventLoop cells eventRegistry fuel index (count + 1)) input events rest ↔
      ∃ event later middle, Yields (fun fuel => parseEvent cells eventRegistry index fuel) input event middle ∧
        Yields (fun fuel => parseEventLoop cells eventRegistry fuel (index + 1) count) middle later rest ∧
        events = event :: later := by
  refine (yields_bind (settling_parseEvent index) fun event =>
    (settling_parseEventLoop (index + 1) count).bind fun later =>
      settling_const (pure (event :: later))).trans ?_
  constructor
  · rintro ⟨event, middle, first, fuel, run⟩
    obtain ⟨later, after, ran, returned⟩ := bind_eq_ok.mp run
    cases returned
    exact ⟨event, later, middle, first, ⟨fuel, ran⟩, rfl⟩
  · rintro ⟨event, later, middle, first, ⟨fuel, run⟩, rfl⟩
    exact ⟨event, middle, first, fuel, bind_eq_ok.mpr ⟨later, rest, run, rfl⟩⟩

/-- The loop over the events returns exactly when every event it reaches does. -/
theorem parseEventLoop_returns_iff {index count : Nat} {input : List UInt8} :
    Returns (fun fuel => parseEventLoop cells eventRegistry fuel index count) input ↔
      ∀ round < count, ∀ events middle,
        Yields (fun fuel => parseEventLoop cells eventRegistry fuel index round) input events middle →
          EventHarmless cells eventRegistry middle := by
  induction count generalizing index input with
  | zero => exact iff_of_true ⟨0, Outcome.returns_ok _⟩ nofun
  | succ count ih =>
      refine (returns_bind (settling_parseEvent index) fun event =>
        (settling_parseEventLoop (index + 1) count).bind fun later =>
          settling_const (pure (event :: later))).trans ?_
      have later_returns : ∀ event middle, Returns (fun fuel =>
          (parseEventLoop cells eventRegistry fuel (index + 1) count >>= fun later =>
            pure (event :: later) : Decoder (List Event))) middle ↔ _ :=
        fun event middle => (exists_congr fun fuel => bind_pure_returns_iff).trans (@ih (index + 1) middle)
      simp only [parseEvent_returns_iff, later_returns]
      constructor
      · rintro ⟨first, later⟩ round within events middle yields
        cases round with
        | zero =>
            obtain ⟨fuel, run⟩ := yields
            cases run
            exact first
        | succ round =>
            obtain ⟨event, others, after, first_yields, others_yield, _⟩ :=
              yields_parseEventLoop_succ.mp yields
            exact later event after first_yields round (Nat.lt_of_succ_lt_succ within) others middle
              others_yield
      · intro reached
        refine ⟨reached 0 count.succ_pos [] input ⟨0, rfl⟩, ?_⟩
        intro event after first_yields round within others middle others_yield
        exact reached (round + 1) (Nat.succ_lt_succ within) (event :: others) middle
          (yields_parseEventLoop_succ.mpr ⟨event, others, after, first_yields, others_yield, rfl⟩)

theorem parseEvents_returns_iff {storageData : List UInt8} :
    (∃ fuel, (parseEvents cells eventRegistry fuel storageData).Returns) ↔
      StorageHarmless cells eventRegistry storageData := by
  have whole : (∃ fuel, (parseEvents cells eventRegistry fuel storageData).Returns) ↔
      Returns (fun fuel => readEvents cells eventRegistry fuel) storageData :=
    exists_congr fun fuel =>
      Outcome.returns_bind.trans (and_iff_left fun result _ => Outcome.returns_ok _)
  rw [whole]
  refine (returns_bind (settling_const _) fun eventsCount =>
    settling_parseEventLoop 0 (eventsCount % 2 ^ 64)).trans ?_
  rw [and_iff_right ⟨0, (total_decodeUintCompact.mapError _) storageData⟩]
  simp only [yields_const, mapError_apply, Outcome.mapError_eq_ok, parseEventLoop_returns_iff]
  rfl

section Block

variable {σ : Type} {extrinsic : BlockExtrinsic σ} {extrinsics : List (BlockExtrinsic σ)}

theorem parseExtrinsic_returns_iff {index : Nat} :
    (∃ fuel, (parseExtrinsic cells callRegistry fuel index extrinsic).Returns) ↔
      ∀ callDecoder, callRegistry.lookup extrinsic.call.callIndex = some callDecoder →
        FieldsHarmless cells callDecoder extrinsic.call.args := by
  unfold parseExtrinsic
  cases callRegistry.lookup extrinsic.call.callIndex with
  | none => exact iff_of_true ⟨0, Outcome.returns_error _⟩ nofun
  | some callDecoder =>
      simp only [Option.some.injEq, forall_eq', ← typeDecoder_returns_iff]
      refine exists_congr fun fuel => Outcome.returns_bind.trans ?_
      exact (and_iff_left fun result _ => Outcome.returns_ok _).trans Outcome.returns_mapError

theorem parseExtrinsic_settled {fuel richer index : Nat} (le : fuel ≤ richer)
    (returned : (parseExtrinsic cells callRegistry fuel index extrinsic).Returns) :
    parseExtrinsic cells callRegistry richer index extrinsic =
      parseExtrinsic cells callRegistry fuel index extrinsic := by
  unfold parseExtrinsic at returned ⊢
  cases found : callRegistry.lookup extrinsic.call.callIndex with
  | none => rfl
  | some callDecoder =>
      simp only [found] at returned ⊢
      have settled := settles_of_le (callDecoder.settling_decode cells) le
      rcases Outcome.returns_mapError.mp (Outcome.returns_bind.mp returned).1 with
        ⟨result, ended⟩ | ⟨reason, ended⟩
      · rw [ended, settled.ok ended]
      · rw [ended, settled.error ended]

theorem parseExtrinsicLoop_settled {fuel richer index : Nat} (le : fuel ≤ richer)
    (returned : (parseExtrinsicLoop cells callRegistry fuel index extrinsics).Returns) :
    parseExtrinsicLoop cells callRegistry richer index extrinsics =
      parseExtrinsicLoop cells callRegistry fuel index extrinsics := by
  induction extrinsics generalizing index with
  | nil => rfl
  | cons extrinsic extrinsics ih =>
      obtain ⟨first_returned, later_returned⟩ := Outcome.returns_bind.mp returned
      unfold parseExtrinsicLoop
      rw [parseExtrinsic_settled le first_returned]
      cases first : parseExtrinsic cells callRegistry fuel index extrinsic with
      | ok parsed =>
          have tail := (Outcome.returns_bind.mp (later_returned parsed first)).1
          rw [Outcome.ok_bind, Outcome.ok_bind, ih tail]
      | _ => rfl

/-- The loop over the extrinsics returns exactly when every extrinsic it reaches does. -/
theorem parseExtrinsicLoop_returns_iff {index : Nat} :
    (∃ fuel, (parseExtrinsicLoop cells callRegistry fuel index extrinsics).Returns) ↔
      ∀ position extrinsic, extrinsics[position]? = some extrinsic →
        (∃ fuel parsed, parseExtrinsicLoop cells callRegistry fuel index (extrinsics.take position) =
          .ok parsed) →
        ∃ fuel, (parseExtrinsic cells callRegistry fuel (index + position) extrinsic).Returns := by
  induction extrinsics generalizing index with
  | nil => exact iff_of_true ⟨0, Outcome.returns_ok _⟩ fun position extrinsic found => by simp at found
  | cons extrinsic extrinsics ih =>
      constructor
      · rintro ⟨fuel, returned⟩ position other found ⟨enough, parsed, run⟩
        obtain ⟨first_returned, later_returned⟩ := Outcome.returns_bind.mp returned
        cases position with
        | zero =>
            cases found
            exact ⟨fuel, first_returned⟩
        | succ position =>
            obtain ⟨first, first_run, run⟩ := Outcome.bind_eq_ok.mp run
            obtain ⟨later, later_run, _⟩ := Outcome.bind_eq_ok.mp run
            have same := parseExtrinsic_settled (le_max_left fuel enough) first_returned
            rw [parseExtrinsic_settled (le_max_right fuel enough) (.inl ⟨first, first_run⟩),
              first_run] at same
            have tail := (Outcome.returns_bind.mp (later_returned first same.symm)).1
            have reached := ih.mp ⟨fuel, tail⟩ position other found ⟨enough, later, later_run⟩
            rwa [Nat.add_right_comm] at reached
      · intro each
        obtain ⟨fuel, first_returned⟩ := each 0 extrinsic rfl ⟨0, [], rfl⟩
        rw [Nat.add_zero] at first_returned
        rcases first_returned with ⟨first, first_run⟩ | ⟨reason, failed⟩
        · have tail : ∃ fuel, (parseExtrinsicLoop cells callRegistry fuel (index + 1) extrinsics).Returns := by
            refine ih.mpr fun position other found ⟨enough, later, later_run⟩ => ?_
            rw [Nat.add_right_comm]
            refine each (position + 1) other found ⟨max fuel enough, first :: later, ?_⟩
            refine Outcome.bind_eq_ok.mpr ⟨first, ?_, Outcome.bind_eq_ok.mpr ⟨later, ?_, rfl⟩⟩
            · rw [parseExtrinsic_settled (le_max_left _ _) (.inl ⟨first, first_run⟩), first_run]
            · rw [parseExtrinsicLoop_settled (le_max_right _ _) (.inl ⟨later, later_run⟩), later_run]
          obtain ⟨enough, later_returned⟩ := tail
          refine ⟨max fuel enough, Outcome.returns_bind.mpr ⟨?_, fun value _ => ?_⟩⟩
          · rw [parseExtrinsic_settled (le_max_left _ _) (.inl ⟨first, first_run⟩)]
            exact .inl ⟨first, first_run⟩
          · refine Outcome.returns_bind.mpr ⟨?_, fun later _ => Outcome.returns_ok _⟩
            rwa [parseExtrinsicLoop_settled (le_max_right _ _) later_returned]
        · refine ⟨fuel, Outcome.returns_bind.mpr ⟨.inr ⟨reason, failed⟩, fun value run => ?_⟩⟩
          rw [failed] at run
          cases run

end Block

end Parsers

/-- Parsing returns events or an error exactly on harmless data, and extrinsics or an error exactly
on harmless arguments, whatever memory the runtime grants. -/
theorem parse_returns_iff_harmless [Runtime .none] {σ : Type} (cells : Cells) (eventRegistry : TypeRegistry EventID)
    (callRegistry : TypeRegistry CallIndex) :
    (∀ storageData, (∃ fuel, (parseEvents cells eventRegistry fuel storageData).Returns) ↔
      StorageHarmless cells eventRegistry storageData) ∧
      ∀ extrinsics : List (BlockExtrinsic σ),
        (∃ fuel, (parseExtrinsics cells callRegistry fuel extrinsics).Returns) ↔
          ExtrinsicsHarmless cells callRegistry extrinsics := by
  refine ⟨fun storageData => parseEvents_returns_iff, fun extrinsics => ?_⟩
  refine parseExtrinsicLoop_returns_iff.trans ?_
  simp only [parseExtrinsic_returns_iff]
  constructor
  · intro each position extrinsic callDecoder found earlier
    exact each position extrinsic found earlier callDecoder
  · intro each position extrinsic found earlier callDecoder
    exact each position extrinsic callDecoder found earlier

/-- A chain whose only event is `System.Done`, without fields. -/
def doneMetadata : MetadataV14 where
  pallets := [⟨"System", false, (0 : Int), true, (1 : Int), false, (0 : Int), 0⟩]
  efficientLookup := toMap
    [⟨(1 : Int), ["Event"], { isVariant := true, variant := [⟨"Done", [], 1⟩] }⟩]

/-- The registry of that chain. -/
def doneRegistry : TypeRegistry EventID := [((0, 1), ⟨"System.Done", []⟩)]

/-- One event is announced, and the data end right before its topics. -/
theorem parseEvents_panics_before_topics :
    ∃ final, createEventRegistry doneMetadata .newestFirst 1 (newFactory [] []) =
        .ok (doneRegistry, final) ∧
      ∀ fuel, parseEvents final.cells doneRegistry fuel [0x04, 2, 0, 1] = .panic := by
  exact ⟨_, rfl, fun fuel => rfl⟩

end SubstrateClient.Registry
