import SubstrateClient.CutInput
import SubstrateClient.Scale.RoundTrip

/-!
# Decoding truncated data

The option decoders drop the error of their flag byte, so at the end of the input they return the
absent value.  Whether a proper front part of an encoded value decodes is settled by where it ends: it
must stop at the flag of an option, and everything behind that option must be decoded from no input.
-/

namespace SubstrateClient.Scale

open ByteParser

variable {types : MethodTypes} {α : Type}

/-- The types without methods of their own, options included. -/
def selfDelimiting (types : MethodTypes) : Grammar types := ⟨true, fun _ => False⟩

mutual

/-- The type is decoded from an empty input. -/
def GoType.AcceptsNothing : GoType types → Prop
  | .option _ | .optionBool _ => True
  | .array count item => count = 0 ∨ item.AcceptsNothing
  | .struct fields => fields.AcceptsNothing
  | .bool | .num _ | .word | .string | .slice _ | .ptr _ | .method _ | .unsupported => False

/-- Every field is decoded from an empty input. -/
def GoFields.AcceptsNothing : GoFields types → Prop
  | .nil => True
  | .cons _ field later => field.AcceptsNothing ∧ later.AcceptsNothing

end

mutual

/-- The cut of the encoded value stops at the flag of an option, and everything behind that option is decoded
from an empty input. -/
def GoType.EndsAtOption : (type : GoType types) → type.Val → List UInt8 → Prop
  | .option payload, value, cut =>
      cut = [] ∨ value.1 = true ∧ Behind [1] (payload.EndsAtOption value.2) cut
  | .optionBool _, _, cut => cut = []
  | .array _ item, value, cut =>
      CutInRun item.encode item.EndsAtOption item.AcceptsNothing (List.Vector.toList value) cut
  | .slice item, value, cut =>
      Behind (compactBytes (GoSlice.elems value).length)
        (CutInRun item.encode item.EndsAtOption item.AcceptsNothing (GoSlice.elems value)) cut
  | .struct fields, value, cut => fields.EndsAtOption value cut
  | .bool, _, _ | .num _, _, _ | .word, _, _ | .string, _, _ | .ptr _, _, _ | .method _, _, _
  | .unsupported, _, _ => False

/-- The cut lies in the first field and no later one needs input, or it lies in the later ones. -/
def GoFields.EndsAtOption : (fields : GoFields types) → fields.Val → List UInt8 → Prop
  | .nil, _, _ => False
  | .cons _ field later, value, cut => ∃ bytes, field.encode value.1 = .ok bytes ∧
      CutInPair bytes (field.EndsAtOption value.1) later.AcceptsNothing (later.EndsAtOption value.2) cut

end

/-! ## Layers -/

theorem delimited_binaryRead {size : Nat} (size_pos : 0 < size) : Delimited (binaryRead size) := by
  intro input value rest success
  unfold binaryRead at success
  split_ifs at success with empty short
  cases success
  have width : (input.take size).length = size := by simp; omega
  exact ⟨input.take size, (List.take_append_drop size input).symm,
    reads_binaryRead size_pos width⟩

theorem delimited_decodeByte (start : UInt8) : Delimited (decodeByte start) :=
  (delimited_binaryRead one_pos).bind fun _ => delimited_pure _

/-- The zeros a slice is resized to are as many as the length prefix says. -/
theorem length_resize (zero : α) (count : Nat) (slice : GoSlice α) :
    (slice.resize zero count).elems.length = count := by
  unfold GoSlice.resize
  split_ifs with same short
  · exact same.symm
  · simp
  · rw [GoSlice.capacity] at short
    simp only [List.length_take, List.length_append]
    omega

/-- The items of a slice whose length has been read. -/
theorem cutProfile_decodeItems (zero : α) {decodeItem : α → Decoder α} {encodeItem : α → Written}
    {accepted : α → List UInt8 → Prop} {blank : Prop} (target : GoSlice α) {values : List α}
    {chunks : List (List UInt8)} (short : values.length ≤ maxUint32)
    (each : List.Forall₂ (fun value bytes => encodeItem value = .ok bytes ∧
      ∀ start, CutProfile (decodeItem start) bytes (accepted value) blank) values chunks) :
    CutProfile (decodeItems ampleMemory zero decodeItem target values.length) chunks.flatten
      (CutInRun encodeItem accepted blank values) (values = [] ∨ blank) := by
  rw [decodeItems_ample zero decodeItem target short]
  exact (cutProfile_mapM (length_resize _ _ _) each).bind_pure _

/-- The slice branch, given the profile of its items. -/
theorem cutProfile_decodeSlice {zero : α} {decodeItem : α → Decoder α} {encodeItem : α → Written}
    {accepted : α → List UInt8 → Prop} {blank : Prop} (target : GoSlice α) {values : List α}
    {chunks : List (List UInt8)} (short : values.length ≤ maxUint32)
    (each : List.Forall₂ (fun value bytes => encodeItem value = .ok bytes ∧
      ∀ start, CutProfile (decodeItem start) bytes (accepted value) blank) values chunks) :
    CutProfile (decodeSlice ampleMemory zero decodeItem target) (compactBytes values.length ++ chunks.flatten)
      (Behind (compactBytes values.length) (CutInRun encodeItem accepted blank values)) False := by
  have length_lt : values.length < 2 ^ 536 := lt_compact_bound (by unfold maxUint32 at short; omega)
  refine ((delimited_decodeUintCompact.cutProfile_bind (reads_compactBytes length_lt)
    (compactBytes_ne_nil _) (cutProfile_decodeItems zero target short each)).of_ok_iff
      fun input result => ?_)
  rw [decodeSlice, bind_apply]
  cases decodeUintCompact input <;> simp

/-- A slice that was encoded is short, and its bytes are the length and the items. -/
theorem encodeSlice_eq_ok {encodeItem : α → Written} {items : List α} {bytes : List UInt8}
    (encoded : encodeSlice encodeItem items = .ok bytes) :
    items.length ≤ maxUint32 ∧ ∃ chunks,
      List.Forall₂ (fun item chunk => encodeItem item = .ok chunk) items chunks ∧
        bytes = compactBytes items.length ++ chunks.flatten := by
  unfold encodeSlice at encoded
  split_ifs at encoded with long
  have short : items.length ≤ maxUint32 := not_lt.mp long
  have length_lt : items.length < 2 ^ 536 := lt_compact_bound (by unfold maxUint32 at short; omega)
  obtain ⟨length, length_eq, encoded⟩ := Outcome.bind_eq_ok.mp encoded
  obtain ⟨chunks, items_eq, encoded⟩ := Outcome.bind_eq_ok.mp encoded
  rw [encodeUintCompact_eq length_lt] at length_eq
  cases length_eq
  cases encoded
  exact ⟨short, chunks, Outcome.mapM_eq_ok.mp items_eq, rfl⟩

/-- A flag byte that is not read is zero, so the empty input is an absent option. -/
theorem decodeOption_nil (decodeValue : α → Decoder α) (start : α) :
    decodeOption decodeValue start [] = .ok ((false, start), []) := rfl

theorem decodeOptionBool_nil (package : OptionBoolPackage) :
    decodeOptionBool package [] = .ok ((false, false), []) := rfl

/-- A single byte has only the empty front part, so a decoder that needs no input accepts just that. -/
theorem cutProfile_singleton {parser : Decoder α} {byte : UInt8} {value start : α} {accepted : List UInt8 → Prop}
    (reads : Reads parser [byte] value) (nil_eq : parser [] = .ok (start, [])) (accepted_nil : accepted []) :
    CutProfile parser [byte] accepted True := by
  have only_nil : ∀ cut missing : List UInt8, [byte] = cut ++ missing → missing ≠ [] → cut = [] := by
    intro cut missing split proper
    cases cut with
    | nil => rfl
    | cons first cut =>
        rw [List.cons_append, List.cons.injEq] at split
        exact absurd (List.append_eq_nil_iff.mp split.2.symm).2 proper
  have nil_rest : ∀ result rest, parser [] = .ok (result, rest) → rest = [] := by
    intro result rest success
    rw [nil_eq] at success
    cases success
    rfl
  refine ⟨⟨⟨value, reads⟩, ?_, ?_⟩, iff_of_true ⟨_, nil_eq⟩ trivial, nil_rest⟩
  · intro cut missing split proper
    rw [only_nil cut missing split proper]
    exact nil_rest
  · intro cut missing split proper
    rw [only_nil cut missing split proper]
    exact iff_of_true ⟨_, nil_eq⟩ accepted_nil

/-- A present option accepts the empty cut, and behind its flag what its payload does. -/
theorem cutProfile_some {decodeValue : α → Decoder α} {start : α} {bytes : List UInt8}
    {accepted : List UInt8 → Prop} {blank : Prop} (payload : CutProfile (decodeValue start) bytes accepted blank) :
    CutProfile (decodeOption decodeValue start) (1 :: bytes) (fun cut => cut = [] ∨ Behind [1] accepted cut)
      True := by
  obtain ⟨value, reads⟩ := payload.reads
  have nil_rest : ∀ result rest, decodeOption decodeValue start [] = .ok (result, rest) → rest = [] := by
    intro result rest success
    rw [decodeOption_nil] at success
    cases success
    rfl
  refine ⟨⟨⟨_, reads_decodeOption_some reads⟩, ?_, ?_⟩, iff_of_true ⟨_, decodeOption_nil _ _⟩ trivial, nil_rest⟩
  · intro cut missing split proper result rest success
    cases cut with
    | nil => exact nil_rest result rest success
    | cons first cut =>
        obtain ⟨rfl, inner_split⟩ := List.cons.inj split
        rw [decodeOption_one] at success
        obtain ⟨⟨inner, after⟩, parsed, returned⟩ := Outcome.bind_eq_ok.mp success
        cases returned
        exact payload.exhausts cut missing inner_split proper inner after parsed
  · intro cut missing split proper
    cases cut with
    | nil => exact iff_of_true ⟨_, decodeOption_nil _ _⟩ (.inl rfl)
    | cons first cut =>
        obtain ⟨rfl, inner_split⟩ := List.cons.inj split
        rw [← List.singleton_append, behind_append, ← payload.succeeds_iff cut missing inner_split proper,
          List.singleton_append, decodeOption_one]
        simp [Outcome.Succeeds, Outcome.bind_eq_ok]

/-- An optional flag is one byte. -/
theorem encodeOptionBool_reads (package : OptionBoolPackage) {hasValue value : Bool} {bytes : List UInt8}
    (encoded : encodeOptionBool hasValue value = .ok bytes) :
    ∃ byte, bytes = [byte] ∧ Reads (decodeOptionBool package) [byte] (hasValue, hasValue && value) := by
  obtain ⟨other, again, reads⟩ := reads_decodeOptionBool package hasValue value
  rw [encoded] at again
  cases again
  cases hasValue <;> cases value <;> cases encoded <;> exact ⟨_, rfl, reads⟩

/-- Every cut of an encoded string is rejected. -/
theorem cutProfile_string {text bytes : List UInt8} {target : List UInt8}
    (encoded : (GoType.string : GoType types).encode text = .ok bytes) :
    CutProfile ((GoType.string : GoType types).decode target) bytes NoCut False := by
  obtain ⟨short, chunks, items, rfl⟩ := encodeSlice_eq_ok encoded
  have each : List.Forall₂ (fun (byte : UInt8) bytes => (.ok [byte] : Written) = .ok bytes ∧
      ∀ start, CutProfile (decodeByte start) bytes NoCut False) text chunks := by
    refine items.imp fun byte chunk chunk_eq => ⟨chunk_eq, fun start => ?_⟩
    cases chunk_eq
    exact (delimited_decodeByte start).cutProfile (reads_decodeByte start byte) (by simp)
  refine ((cutProfile_decodeSlice ⟨[], []⟩ short each).bind_pure GoSlice.elems).congr
    (fun cut _ _ _ => ?_) Iff.rfl
  refine iff_of_false ?_ id
  rintro ⟨more, -, inside⟩
  exact not_cutInRun inside

mutual

/-- The cuts of an encoded value, for a target with any contents. -/
theorem GoType.cutProfile : (type : GoType types) → type.Within (selfDelimiting types) →
    (value : type.Val) → (bytes : List UInt8) → type.encode value = .ok bytes →
    ∀ target, CutProfile (type.decode target) bytes (type.EndsAtOption value) type.AcceptsNothing
  | .bool, _, value, _, encoded, target => by
      cases encoded
      exact ((delimited_binaryRead one_pos).bind fun _ => delimited_pure _).cutProfile
        (reads_bool target value) (by simp)
  | .num kind, _, value, _, encoded, target => by
      cases encoded
      refine ((delimited_binaryRead kind.size_pos).bind fun _ => delimited_pure _).cutProfile
        (reads_num kind target value) (List.ne_nil_of_length_pos ?_)
      rw [LittleEndian.length_ofNat]
      exact kind.size_pos
  | .string, _, _, _, encoded, _ => cutProfile_string encoded
  | .array count item, within, value, bytes, encoded, target => by
      obtain ⟨chunks, items_eq, returned⟩ := Outcome.bind_eq_ok.mp encoded
      cases returned
      have each := (Outcome.mapM_eq_ok.mp items_eq).imp fun element chunk chunk_eq =>
        And.intro chunk_eq (item.cutProfile within element chunk chunk_eq)
      exact cutProfile_mapVector target (List.Vector.toList_length value) each
  | .slice item, within, value, bytes, encoded, target => by
      obtain ⟨short, chunks, items, rfl⟩ := encodeSlice_eq_ok encoded
      have each := items.imp fun element chunk chunk_eq =>
        And.intro chunk_eq (item.cutProfile within element chunk chunk_eq)
      exact cutProfile_decodeSlice target short each
  | .struct fields, within, value, bytes, encoded, target =>
      fields.cutProfile within value bytes encoded target
  | .option payload, within, (false, value), bytes, encoded, target => by
      cases encoded
      exact cutProfile_singleton (reads_decodeOption_none payload.decode payload.zero)
        (decodeOption_nil payload.decode payload.zero) (.inl rfl)
  | .option payload, within, (true, value), bytes, encoded, target => by
      obtain ⟨inner, payload_eq, returned⟩ := Outcome.bind_eq_ok.mp encoded
      cases returned
      refine (cutProfile_some (payload.cutProfile within.2 value inner payload_eq payload.zero)).congr
        (fun cut _ _ _ => ?_) Iff.rfl
      simp [GoType.EndsAtOption]
  | .optionBool package, _, value, bytes, encoded, _ => by
      obtain ⟨byte, rfl, reads⟩ := encodeOptionBool_reads package encoded
      exact cutProfile_singleton reads (decodeOptionBool_nil package) rfl
  | .method name, within, _, _, _, _ => within.elim

theorem GoFields.cutProfile : (fields : GoFields types) → fields.Within (selfDelimiting types) →
    (value : fields.Val) → (bytes : List UInt8) → fields.encode value = .ok bytes →
    ∀ target, CutProfile (fields.decode target) bytes (fields.EndsAtOption value) fields.AcceptsNothing
  | .nil, _, _, _, encoded, _ => by
      cases encoded
      exact cutProfile_pure ()
  | .cons tag field later, within, value, bytes, encoded, target => by
      obtain ⟨rfl, field_within, later_within⟩ := within
      obtain ⟨first, others, first_eq, others_eq, rfl⟩ := GoFields.encode_plain_eq_ok.mp encoded
      have first_profile := field.cutProfile field_within value.1 first first_eq target.1
      have later_profile := later.cutProfile later_within value.2 others others_eq target.2
      refine ((first_profile.of_ok_iff (by simp)).bind fun decoded =>
        later_profile.bind_pure fun values => (decoded, values)).congr (fun cut _ _ _ => ?_) Iff.rfl
      constructor
      · exact fun inside => ⟨first, first_eq, inside⟩
      · rintro ⟨written, success, inside⟩
        rw [first_eq] at success
        cases success
        exact inside

end

/-- A proper front part of an encoded value is rejected, whatever the target holds, exactly when it does not
stop at an option behind which nothing needs input. -/
theorem decode_cut_fails_iff {type : GoType types} (within : type.Within (selfDelimiting types))
    {value : type.Val} {cut missing : List UInt8} (encoded : type.encode value = .ok (cut ++ missing))
    (proper : missing ≠ []) (target : type.Val) :
    ¬ (type.decode target cut).Succeeds ↔ ¬ type.EndsAtOption value cut :=
  not_congr ((type.cutProfile within value _ encoded target).succeeds_iff cut missing rfl proper)

/-- A struct of a number and an optional number. -/
def numberThenOption : GoType .none :=
  .struct (.cons .plain (.num .u32) (.cons .plain (.option (.num .u8)) .nil))

/-- The cut behind the flag of a present option is noticed by its payload. -/
theorem decode_cut_fails_numberThenOption :
    numberThenOption.encode ((7 : UInt32), (true, (5 : UInt8)), ()) = .ok ([7, 0, 0, 0, 1] ++ [5]) ∧
      ∀ target, ¬ (numberThenOption.decode target [7, 0, 0, 0, 1]).Succeeds := by
  have within : numberThenOption.Within (selfDelimiting .none) := by
    simp [numberThenOption, GoType.Within, GoFields.Within, selfDelimiting]
  have encoded : numberThenOption.encode ((7 : UInt32), (true, (5 : UInt8)), ()) =
      .ok ([7, 0, 0, 0, 1] ++ [5]) := rfl
  refine ⟨encoded, fun target => (decode_cut_fails_iff within encoded (by simp) target).mpr ?_⟩
  rintro ⟨number, number_eq, ⟨-, -, in_number⟩ | ⟨more, split, option, option_eq, inside⟩⟩
  · exact in_number
  · cases number_eq
    obtain rfl : [1] = more := List.append_cancel_left (show [7, 0, 0, 0] ++ [1] = [7, 0, 0, 0] ++ more from split)
    rcases inside with ⟨-, -, empty | ⟨-, payload, -, in_payload⟩⟩ | behind
    · cases empty
    · exact in_payload
    · exact behind.elim fun _ inside => inside.2

/-- The empty front part of an encoded option decodes to an absent option. -/
theorem decode_cut_option_succeeds :
    ¬ ∀ (types : MethodTypes) (type : GoType types) (value : type.Val) (cut missing : List UInt8),
      type.Within (selfDelimiting types) → type.encode value = .ok (cut ++ missing) → missing ≠ [] →
        ∀ target, ¬ (type.decode target cut).Succeeds := by
  intro rejects
  have encoded : (GoType.option (.num .u8) : GoType .none).encode (true, (5 : UInt8)) =
      .ok ([] ++ [1, 5]) := by
    rfl
  exact rejects .none (.option (.num .u8)) (true, (5 : UInt8)) [] [1, 5] ⟨rfl, trivial⟩ encoded (by simp)
    (false, (0 : UInt8)) ⟨_, rfl⟩

end SubstrateClient.Scale
