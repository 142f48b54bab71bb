import SubstrateClient.Registry.Equivalence
import SubstrateClient.Registry.Recursive
import SubstrateClient.Registry.WireForm

/-!
# Writing decoded fields back

The reflective encoder sees the decoded values without the metadata.  It puts a length before every
composite and array, and drops the index of a variant with fields, so only plain wire forms come back as
they were.  The argument for the converse is one of lengths: no part of a canonical form gets shorter, so
bytes that agree as a whole agree part by part.
-/

namespace SubstrateClient.Registry

open ByteParser ListLookup Scale SubstrateClient.Types

/-! ## Scalars -/

/-- A scalar is written with as many bytes as were read, and with the same bytes if it is plain. -/
theorem ScalarForm.written {form : Form} {kind : ValueKind} {scalar : Scalar} {bytes : List UInt8}
    (spelled : ScalarForm form kind scalar bytes) :
    ∃ written, scalar.encode = .ok written ∧ written.length = bytes.length ∧
      (form = .plain → written = bytes) ∧ (written = bytes → ScalarForm .plain kind scalar bytes) := by
  cases spelled with
  | @bool byte flag =>
      refine ⟨[if decide (byte ≠ 0) then 1 else 0], rfl, rfl, fun plain => ?_, fun same => ?_⟩
      · rcases flag plain with rfl | rfl <;> rfl
      · refine .bool fun _ => ?_
        by_cases zero : byte = 0
        · exact .inl zero
        · rw [List.cons.injEq, if_pos (decide_eq_true zero)] at same
          exact .inr same.1.symm
  | byte value =>
      refine ⟨[value], ?_, rfl, fun _ => rfl, fun _ => .byte value⟩
      change (.ok (LittleEndian.ofNat 1 value.toNat) : Written) = _
      simp [LittleEndian.ofNat]
  | string short => exact ⟨_, encode_string_eq short, rfl, fun _ => rfl, fun _ => .string short⟩
  | @num kind bytes width =>
      refine ⟨bytes, ?_, rfl, fun _ => rfl, fun _ => .num width⟩
      have bound := LittleEndian.toNat_lt bytes
      rw [width] at bound
      change (.ok (LittleEndian.ofNat kind.size (kind.toBits _)) : Written) = _
      rw [kind.toBits_ofBits bound, ← width, LittleEndian.ofNat_toNat]
  | @big kind bytes width =>
      refine ⟨bytes, ?_, rfl, fun _ => rfl, fun _ => .big width⟩
      have bound := LittleEndian.toNat_lt bytes
      rw [width] at bound
      change kind.encode _ = _
      rw [kind.encode_ofBits bound, ← width, LittleEndian.ofNat_toNat]
  | uCompact bound => exact ⟨_, encodeUintCompact_eq bound, rfl, fun _ => rfl, fun _ => .uCompact bound⟩

/-! ## Values -/

/-- What a field with this value writes. -/
def Value.encodeField (value : Value) : Written :=
  if value.isNil then .ok [] else value.encode

theorem Value.encodeField_eq {value : Value} (present : value.isNil = false) :
    value.encodeField = value.encode := by
  rw [Value.encodeField, present]
  rfl

/-- Only present values are encoded. -/
theorem Value.isNil_of_encode {value : Value} {written : List UInt8}
    (encoded : value.encode = .ok written) : value.isNil = false := by
  cases value with
  | nil => cases encoded
  | _ => rfl

theorem encodeItems_cons_eq_ok {value : Value} {values : List Value} {written : List UInt8} :
    encodeItems (value :: values) = .ok written ↔
      ∃ first others, value.encode = .ok first ∧ encodeItems values = .ok others ∧
        written = first ++ others := by
  rw [encodeItems]
  simp only [Outcome.bind_eq_ok, Outcome.pure_eq, Outcome.ok.injEq]
  grind

theorem encodeFields_cons_eq_ok {name : String} {value : Value} {lookupIndex : Int64}
    {values : DecodedFields} {written : List UInt8} :
    encodeFields (⟨name, value, lookupIndex⟩ :: values) = .ok written ↔
      ∃ first others, value.encodeField = .ok first ∧ encodeFields values = .ok others ∧
        written = first ++ others := by
  rw [encodeFields_cons]
  change (value.encodeField >>= _) = _ ↔ _
  simp only [Outcome.bind_eq_ok, Outcome.pure_eq, Outcome.ok.injEq]
  grind

theorem encodeCounted_eq_ok {count : Nat} {payload : Written} {written : List UInt8} :
    encodeCounted count payload = .ok written ↔
      ∃ bytes, count ≤ maxUint32 ∧ payload = .ok bytes ∧ written = compactBytes count ++ bytes := by
  unfold encodeCounted
  split_ifs with long
  · simp [not_le.mpr long]
  · have count_lt : count < 2 ^ 536 := lt_compact_bound (by unfold maxUint32 at long; omega)
    rw [encodeUintCompact_eq count_lt]
    simp only [Outcome.ok_bind, Outcome.bind_eq_ok, Outcome.pure_eq, Outcome.ok.injEq]
    grind

/-! ## Plain forms are written back -/

section Plain

variable {cells : Cells}

theorem FieldsForm.length_eq {below : FieldDecoder → Value → List UInt8 → Prop}
    {fields : List (Field FieldDecoder)} {values : DecodedFields} {bytes : List UInt8}
    (each : FieldsForm below fields values bytes) : values.length = fields.length := by
  induction each with
  | nil => rfl
  | cons _ _ ih => rw [List.length_cons, List.length_cons, ih]

theorem ItemsForm.written {below : Value → List UInt8 → Prop} {values : List Value}
    {bytes : List UInt8}
    (each_written : ∀ value bytes, below value bytes → value.encodeField = .ok bytes)
    (present : ∀ value ∈ values, value.isNil = false) (each : ItemsForm below values bytes) :
    encodeItems values = .ok bytes := by
  induction each with
  | nil => rfl
  | cons first _ ih =>
      obtain ⟨first_present, later_present⟩ := List.forall_mem_cons.mp present
      refine encodeItems_cons_eq_ok.mpr ⟨_, _, ?_, ih later_present, rfl⟩
      rw [← Value.encodeField_eq first_present]
      exact each_written _ _ first

theorem FieldsForm.written {below : FieldDecoder → Value → List UInt8 → Prop}
    {fields : List (Field FieldDecoder)} {values : DecodedFields} {bytes : List UInt8}
    (each_written : ∀ decoder value bytes, below decoder value bytes →
      value.encodeField = .ok bytes)
    (each : FieldsForm below fields values bytes) : encodeFields values = .ok bytes := by
  induction each with
  | nil => rfl
  | cons first _ ih =>
      exact encodeFields_cons_eq_ok.mpr ⟨_, _, each_written _ _ _ first, ih, rfl⟩

/-- A plain form is what the encoder writes for its value. -/
theorem WireForm.written {depth : Nat} {decoder : FieldDecoder} {value : Value} {bytes : List UInt8}
    (spelled : WireForm .plain cells depth decoder value bytes) : value.encodeField = .ok bytes := by
  induction depth generalizing decoder value bytes with
  | zero => cases spelled
  | succ depth ih =>
      cases (show Layer .plain cells (WireForm .plain cells depth) decoder value bytes from spelled) with
      | noop => rfl
      | @bare _ variantByte selected =>
          have spelled : ScalarForm .plain .byte (.byte variantByte) [variantByte] := .byte variantByte
          obtain ⟨written, encoded, _, same, _⟩ := spelled.written
          rw [same rfl] at encoded
          exact encoded
      | variant loose => cases loose
      | @counted _ variantByte _ fields values bytes selected each count =>
          have byte_lt := variantByte.toNat_lt
          refine encodeCounted_eq_ok.mpr ⟨bytes, ?_, each.written fun _ _ _ => ih, ?_⟩
          · rw [each.length_eq]
            unfold maxUint32
            omega
          · rw [each.length_eq, compactBytes_eq_singleton.mpr count]
            rfl
      | array loose => cases loose
      | slice present short writable each =>
          obtain ⟨countable, nonnil⟩ := writable rfl
          exact encodeCounted_eq_ok.mpr ⟨_, countable, each.written (fun _ _ => ih) nonnil, rfl⟩
      | composite loose => cases loose
      | value scalar_spelled =>
          obtain ⟨written, encoded, _, same, _⟩ := scalar_spelled.written
          rw [same rfl] at encoded
          exact encoded
      | recursive set present body => exact ih body
      | custom reads written =>
          rw [Value.encodeField_eq (Value.isNil_of_encode written)]
          exact written

end Plain

/-! ## Other forms are not -/

/-- The output is no shorter than the bytes, and equal to them only if they are plain. -/
structure Grows (plainly : Prop) (output bytes : List UInt8) : Prop where
  longer : bytes.length ≤ output.length
  same : output = bytes → plainly

theorem grows_refl (bytes : List UInt8) : Grows True bytes bytes :=
  ⟨le_rfl, fun _ => trivial⟩

/-- Two parts that do not shrink can only agree one by one. -/
theorem Grows.append {plainly later_plainly : Prop} {output later_output bytes later_bytes : List UInt8}
    (first : Grows plainly output bytes) (later : Grows later_plainly later_output later_bytes) :
    Grows (plainly ∧ later_plainly) (output ++ later_output) (bytes ++ later_bytes) := by
  constructor
  · rw [List.length_append, List.length_append]
    exact Nat.add_le_add first.longer later.longer
  · intro same
    have lengths := congrArg List.length same
    rw [List.length_append, List.length_append] at lengths
    have split : output.length = bytes.length := by
      have := first.longer
      have := later.longer
      omega
    obtain ⟨first_same, later_same⟩ := List.append_inj same split
    exact ⟨first.same first_same, later.same later_same⟩

theorem Grows.imp {plainly weaker : Prop} {output bytes : List UInt8} (grows : Grows plainly output bytes)
    (weaken : plainly → weaker) : Grows weaker output bytes :=
  ⟨grows.longer, weaken ∘ grows.same⟩

/-- A length put before the bytes makes them longer. -/
theorem Grows.counted {plainly impossible : Prop} {count : Nat} {output bytes : List UInt8}
    (grows : Grows plainly output bytes) : Grows impossible (compactBytes count ++ output) bytes := by
  have count_pos := List.length_pos_of_ne_nil (compactBytes_ne_nil count)
  have longer := grows.longer
  have strictly : bytes.length < (compactBytes count ++ output).length := by
    rw [List.length_append]
    omega
  exact ⟨strictly.le, fun same => absurd (congrArg List.length same) strictly.ne'⟩

/-- A byte is replaced by a length. -/
theorem Grows.replaced {plainly : Prop} {count : Nat} {byte : UInt8} {output bytes : List UInt8}
    (grows : Grows plainly output bytes) :
    Grows (byte.toNat = 4 * count ∧ plainly) (compactBytes count ++ output) (byte :: bytes) := by
  have front : Grows (byte.toNat = 4 * count) (compactBytes count) [byte] :=
    ⟨List.length_pos_of_ne_nil (compactBytes_ne_nil count), compactBytes_eq_singleton.mp⟩
  exact front.append grows

section Grown

variable {cells : Cells}

theorem ScalarForm.grows {form : Form} {kind : ValueKind} {scalar : Scalar} {bytes output : List UInt8}
    (spelled : ScalarForm form kind scalar bytes)
    (encoded : (Value.scalar scalar).encodeField = .ok output) :
    Grows (ScalarForm .plain kind scalar bytes) output bytes := by
  obtain ⟨written, scalar_encoded, width, _, plain⟩ := spelled.written
  change scalar.encode = .ok output at encoded
  rw [scalar_encoded] at encoded
  cases encoded
  exact ⟨width.ge, plain⟩

theorem ItemsForm.grows {below strict : Value → List UInt8 → Prop} {values : List Value}
    {bytes output : List UInt8}
    (each_grows : ∀ value bytes output, below value bytes → value.encodeField = .ok output →
      Grows (strict value bytes) output bytes)
    (each : ItemsForm below values bytes) (encoded : encodeItems values = .ok output) :
    Grows (ItemsForm strict values bytes ∧ ∀ value ∈ values, value.isNil = false) output bytes := by
  induction each generalizing output with
  | nil =>
      cases encoded
      exact ⟨le_rfl, fun _ => ⟨.nil, fun _ member => by cases member⟩⟩
  | cons first _ ih =>
      obtain ⟨first_output, later_output, first_encoded, later_encoded, rfl⟩ :=
        encodeItems_cons_eq_ok.mp encoded
      have present := Value.isNil_of_encode first_encoded
      rw [← Value.encodeField_eq present] at first_encoded
      refine ((each_grows _ _ _ first first_encoded).append (ih later_encoded)).imp ?_
      rintro ⟨first_strict, later_strict, later_present⟩
      exact ⟨.cons first_strict later_strict, List.forall_mem_cons.mpr ⟨present, later_present⟩⟩

theorem FieldsForm.grows {below strict : FieldDecoder → Value → List UInt8 → Prop}
    {fields : List (Field FieldDecoder)} {values : DecodedFields} {bytes output : List UInt8}
    (each_grows : ∀ field ∈ fields, ∀ value bytes output, below field.decoder value bytes →
      value.encodeField = .ok output → Grows (strict field.decoder value bytes) output bytes)
    (each : FieldsForm below fields values bytes) (encoded : encodeFields values = .ok output) :
    Grows (FieldsForm strict fields values bytes) output bytes := by
  induction each generalizing output with
  | nil =>
      cases encoded
      exact ⟨le_rfl, fun _ => .nil⟩
  | cons first _ ih =>
      obtain ⟨first_output, later_output, first_encoded, later_encoded, rfl⟩ :=
        encodeFields_cons_eq_ok.mp encoded
      obtain ⟨first_grows, later_grows⟩ := List.forall_mem_cons.mp each_grows
      refine ((first_grows _ _ _ first first_encoded).append (ih later_grows later_encoded)).imp ?_
      rintro ⟨first_strict, later_strict⟩
      exact .cons first_strict later_strict

/-- Behind a variant byte there is nothing or a list of fields, at any depth. -/
def Tidy (cells : Cells) (decoder : FieldDecoder) : Prop :=
  ∀ fieldDecoderMap variantByte variantDecoder, CallsDeep cells decoder (.variant fieldDecoderMap) →
    fieldDecoderMap.lookup variantByte = some variantDecoder →
      variantDecoder.isNoop = true ∨ ∃ name fields, variantDecoder = .composite name fields

theorem calls_of_lookup {fieldDecoderMap : List (UInt8 × FieldDecoder)} {variantByte : UInt8}
    {variantDecoder : FieldDecoder}
    (selected : fieldDecoderMap.lookup variantByte = some variantDecoder) :
    Calls cells (.variant fieldDecoderMap) variantDecoder :=
  .variant (mem_of_lookup selected)

theorem Tidy.calls {decoder inner : FieldDecoder} (tidy : Tidy cells decoder)
    (calls : Calls cells decoder inner) : Tidy cells inner :=
  fun fieldDecoderMap variantByte variantDecoder path =>
    tidy fieldDecoderMap variantByte variantDecoder (.head calls path)

/-- A canonical form never shrinks, and is written back only if it is plain. -/
theorem WireForm.grows {depth : Nat} {decoder : FieldDecoder} {value : Value}
    {bytes output : List UInt8} (tidy : Tidy cells decoder)
    (spelled : WireForm .canonical cells depth decoder value bytes)
    (encoded : value.encodeField = .ok output) :
    Grows (WireForm .plain cells depth decoder value bytes) output bytes := by
  induction depth generalizing decoder value bytes output with
  | zero => cases spelled
  | succ depth ih =>
      cases (show Layer .canonical cells (WireForm .canonical cells depth) decoder value bytes
        from spelled) with
      | noop =>
          cases encoded
          exact ⟨le_rfl, fun _ => Layer.noop⟩
      | @bare _ variantByte selected =>
          have spelled : ScalarForm .canonical .byte (.byte variantByte) [variantByte] := .byte variantByte
          exact (spelled.grows encoded).imp fun _ => Layer.bare selected
      | variant loose selected filled body =>
          rcases tidy _ _ _ .refl selected with bare | ⟨name, fields, rfl⟩
          · rw [bare] at filled
            cases filled
          · have fields_tidy := tidy.calls (calls_of_lookup selected)
            cases depth with
            | zero => cases body
            | succ depth =>
                cases (show Layer .canonical cells (WireForm .canonical cells depth) _ _ _ from body) with
                | composite _ each =>
                    obtain ⟨payload, _, payload_encoded, rfl⟩ := encodeCounted_eq_ok.mp encoded
                    have each_deeper := each.imp fun _ _ _ => WireForm.deeper
                    refine (each_deeper.grows (fun field member _ _ _ =>
                      ih (fields_tidy.calls (.composite member))) payload_encoded).replaced.imp ?_
                    rintro ⟨count, plain⟩
                    rw [each.length_eq] at count
                    exact Layer.counted selected plain count
      | counted selected each count =>
          have fields_tidy := tidy.calls (calls_of_lookup selected)
          obtain ⟨payload, _, payload_encoded, rfl⟩ := encodeCounted_eq_ok.mp encoded
          refine (each.grows (fun field member _ _ _ => ih (fields_tidy.calls (.composite member)))
            payload_encoded).replaced.imp ?_
          rintro ⟨_, plain⟩
          exact Layer.counted selected plain count
      | array loose present short each =>
          obtain ⟨payload, _, payload_encoded, rfl⟩ := encodeCounted_eq_ok.mp encoded
          exact (each.grows (fun _ _ _ => ih (tidy.calls .array)) payload_encoded).counted
      | slice present short writable each =>
          obtain ⟨payload, countable, payload_encoded, rfl⟩ := encodeCounted_eq_ok.mp encoded
          refine ((grows_refl _).append
            (each.grows (fun _ _ _ => ih (tidy.calls .slice)) payload_encoded)).imp ?_
          rintro ⟨_, plain, nonnil⟩
          exact Layer.slice present short (fun _ => ⟨countable, nonnil⟩) plain
      | composite loose each =>
          obtain ⟨payload, _, payload_encoded, rfl⟩ := encodeCounted_eq_ok.mp encoded
          exact (each.grows (fun field member _ _ _ => ih (tidy.calls (.composite member)))
            payload_encoded).counted
      | value scalar_spelled => exact (scalar_spelled.grows encoded).imp Layer.value
      | recursive set present body =>
          exact (ih (tidy.calls (.recursive set)) body encoded).imp fun plain =>
            Layer.recursive set present plain
      | custom reads written =>
          rw [Value.encodeField_eq (Value.isNil_of_encode written), written] at encoded
          cases encoded
          exact ⟨le_rfl, fun _ => Layer.custom reads written⟩

end Grown

/-! ## Type decoders of a registry -/

section Decoders

variable {cells : Cells}

/-- Decoding has one result. -/
theorem TypeDecoder.Decodes.unique {typeDecoder : TypeDecoder} {input rest rest' : List UInt8}
    {fields fields' : DecodedFields} (decodes : typeDecoder.Decodes cells input fields rest)
    (decodes' : typeDecoder.Decodes cells input fields' rest') : fields = fields' :=
  ((typeDecoder.settling_decode cells).yields_unique decodes decodes').1

theorem FieldsForm.single {below : FieldDecoder → Value → List UInt8 → Prop}
    {field : Field FieldDecoder} {value : Value} {bytes : List UInt8}
    (only : below field.decoder value bytes) :
    FieldsForm below [field] [⟨field.name, value, field.lookupIndex⟩] bytes := by
  have fields := FieldsForm.cons only .nil
  rwa [List.append_nil] at fields

theorem FieldsForm.decodes {form : Form} {depth : Nat} {typeDecoder : TypeDecoder}
    {values : DecodedFields} {bytes : List UInt8}
    (each : FieldsForm (WireForm form cells depth) typeDecoder.fields values bytes)
    (rest : List UInt8) : typeDecoder.Decodes cells (bytes ++ rest) values rest := by
  refine ⟨2 * depth, each.reads (fun decoder value bytes spelled => ?_) rest⟩
  rw [Field.decode_eq spelled.isNil]
  exact spelled.reads.mapError _

end Decoders

section Returned

variable {κ : Type} {kind : RegistryKind κ} {metadata : MetadataV14} {mapOrder : MapOrder}
  {fuel : Nat} {before final : Factory} {registry : TypeRegistry κ}

/-- The factory makes tidy decoders, and decoders of clients are no variants. -/
theorem createRegistry_tidy {entry : κ × TypeDecoder} {field : Field FieldDecoder}
    (clients : ∀ fieldOverride ∈ before.fieldOverrides,
      ∃ run, fieldOverride.fieldDecoder = .custom run)
    (created : createRegistry kind metadata mapOrder fuel before = .ok (registry, final))
    (entry_member : entry ∈ registry) (field_member : field ∈ entry.2.fields) :
    Tidy final.cells field.decoder := by
  obtain ⟨walked, traversal, resolution⟩ := createRegistry_eq_ok created
  have traversed := traverse_traversed kind metadata traversal
  intro fieldDecoderMap variantByte variantDecoder path selected
  have closed : ∀ decoder inner, (∃ run, decoder = .custom run) → Calls final.cells decoder inner →
      ∃ run, inner = .custom run := by
    rintro _ inner ⟨run, rfl⟩ calls
    cases calls
  have foreign : ∀ index decoder, overrideStorage before.fieldOverrides index = some decoder →
      ∃ run, decoder = .custom run :=
    fun index decoder stored => clients ⟨index, decoder⟩ (mem_of_overrideStorage stored)
  have made := traversed.made foreign closed resolution ⟨entry, entry_member, field, field_member, path⟩
  cases made with
  | ofType made =>
      cases made with
      | compact _ _ inner => cases inner
      | variant shape each =>
          have member := List.mem_reverse.mp (mem_of_lookup selected)
          obtain ⟨variant, _, matched⟩ := exists_related_of_mem each member
          cases matched with
          | empty bare => exact .inl rfl
          | fields filled each => exact .inr ⟨_, _, rfl⟩
  | ofCompact made => cases made
  | foreign client =>
      obtain ⟨run, same⟩ := client
      cases same

/-- In a registry whose overrides are decoders of clients, fields decoded from a canonical byte string
are written back to the same bytes exactly when the byte string is plain. -/
theorem reencoding_iff_plain (kind : RegistryKind κ) (metadata : MetadataV14) (mapOrder : MapOrder)
    (fuel : Nat) (before final : Factory) (registry : TypeRegistry κ) (entry : κ × TypeDecoder)
    (consumed rest : List UInt8) (fields : DecodedFields)
    (clients : ∀ fieldOverride ∈ before.fieldOverrides,
      ∃ run, fieldOverride.fieldDecoder = .custom run)
    (created : createRegistry kind metadata mapOrder fuel before = .ok (registry, final))
    (member : entry ∈ registry) (canonical : entry.2.Accepts .canonical final.cells consumed)
    (decodes : entry.2.Decodes final.cells (consumed ++ rest) fields rest) :
    encodeFields fields = .ok consumed ↔ entry.2.Accepts .plain final.cells consumed := by
  constructor
  · intro encoded
    obtain ⟨depth, values, each⟩ := canonical
    obtain rfl := decodes.unique (each.decodes rest)
    have grows := each.grows (fun field field_member _ _ _ =>
      WireForm.grows (createRegistry_tidy clients created member field_member)) encoded
    exact ⟨depth, fields, grows.same rfl⟩
  · rintro ⟨depth, values, each⟩
    obtain rfl := decodes.unique (each.decodes rest)
    exact each.written fun _ _ _ => WireForm.written

end Returned

/-- A byte stands for itself. -/
theorem wireForm_u8 (form : Form) (cells : Cells) (value : UInt8) :
    WireForm form cells 1 (.value (.num .u8)) (.scalar (.num .u8 value)) [value] := by
  have spelled : ScalarForm form (.num .u8) (.num .u8 (UInt8.ofNat (LittleEndian.toNat [value])))
      [value] := .num rfl
  have same : UInt8.ofNat (LittleEndian.toNat [value]) = value := by
    simp [LittleEndian.toNat]
  rw [same] at spelled
  exact Layer.value spelled

/-- Two bytes behind their number. -/
theorem wireForm_bytes (form : Form) (cells : Cells) :
    WireForm form cells 2 (.slice (.value (.num .u8)))
      (.slice [.scalar (.num .u8 (1 : UInt8)), .scalar (.num .u8 (2 : UInt8))]) [8, 1, 2] := by
  have items : ItemsForm (WireForm form cells 1 (.value (.num .u8)))
      [.scalar (.num .u8 (1 : UInt8)), .scalar (.num .u8 (2 : UInt8))] [1, 2] :=
    .cons (wireForm_u8 form cells 1) (.cons (wireForm_u8 form cells 2) .nil)
  exact Layer.slice rfl (by decide) (fun _ => ⟨by decide, by simp [Value.isNil]⟩) items

/-- The bytes of a remark are plain. -/
theorem remark_accepts (cells : Cells) (name : String) :
    TypeDecoder.Accepts .plain cells ⟨name, [⟨"remark", .slice (.value (.num .u8)), 2⟩]⟩ [8, 1, 2] :=
  ⟨2, _, .single (wireForm_bytes .plain cells)⟩

/-- The bytes of a remark are plain and come back. -/
theorem reencoding_remark :
    ∃ registry final entry,
      createCallRegistry remarkMetadata .newestFirst 3 (newFactory [] []) = .ok (registry, final) ∧
        entry ∈ registry ∧
        encodeFields [⟨"remark", .slice [.scalar (.num .u8 (1 : UInt8)),
          .scalar (.num .u8 (2 : UInt8))], 2⟩] = .ok [8, 1, 2] := by
  refine ⟨_, _, _, rfl, List.mem_singleton_self _, ?_⟩
  exact (reencoding_iff_plain callKind remarkMetadata .newestFirst 3 (newFactory [] []) _ _ _
    [8, 1, 2] [] _ (fun _ member => by cases member) rfl (List.mem_singleton_self _)
    (remark_accepts _ _).canonical ⟨3, rfl⟩).mpr (remark_accepts _ _)

/-- The decoder of a tree, whose subtrees are read through the first cell. -/
def treeDecoder : FieldDecoder :=
  .variant [(1, .composite (variantItemFieldName 1) [⟨"Tree.left", .recursive 0, 1⟩, ⟨"Tree.right", .recursive 0, 1⟩]),
    (0, .noop)]

/-- A tree with two leaves is canonical. -/
theorem tree_accepts {cells : Cells} {name : String} (set : cells[0]? = some treeDecoder) :
    TypeDecoder.Accepts .canonical cells ⟨name, [⟨"Tree.tree", treeDecoder, 1⟩]⟩ [1, 0, 0] := by
  have subtree : WireForm .canonical cells 2 (.recursive 0) (.scalar (.byte 0)) [0] :=
    Layer.recursive set rfl (Layer.bare rfl)
  have subtrees : FieldsForm (WireForm .canonical cells 2)
      [⟨"Tree.left", .recursive 0, 1⟩, ⟨"Tree.right", .recursive 0, 1⟩]
      [⟨"Tree.left", .scalar (.byte 0), 1⟩, ⟨"Tree.right", .scalar (.byte 0), 1⟩] ([0] ++ [0]) :=
    .cons subtree (.single subtree)
  exact ⟨4, _, .single (Layer.variant rfl rfl rfl (Layer.composite rfl subtrees))⟩

/-- A tree with two leaves is written with the number of its fields in place of its variant's index. -/
theorem reencoding_changes_tree :
    ∃ registry final typeDecoder fields,
      createCallRegistry treeMetadata .newestFirst 4 (newFactory [] []) = .ok (registry, final) ∧
        registry.lookup ⟨7, 0⟩ = some typeDecoder ∧
        typeDecoder.Accepts .canonical final.cells [1, 0, 0] ∧
        typeDecoder.Decodes final.cells [1, 0, 0] fields [] ∧
        encodeFields fields = .ok [8, 0, 0] ∧ encodeFields fields ≠ .ok [1, 0, 0] := by
  refine ⟨_, _, ⟨"Forest.grow", [⟨"Tree.tree", treeDecoder, 1⟩]⟩, _, rfl, rfl, tree_accepts rfl,
    ⟨4, rfl⟩, rfl, ?_⟩
  exact fun same => absurd (Outcome.ok.inj same) (by decide)

end SubstrateClient.Registry
