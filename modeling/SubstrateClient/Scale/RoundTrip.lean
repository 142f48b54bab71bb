import SubstrateClient.Scale.Codec

/-!
# Round trip of the reflective codec

Every value of a type in the grammar is encoded, and decoding its bytes into a zero target reads
back the value and stops right after it.  The induction follows the type; each layer contributes a
`Reads` fact for exactly the bytes it wrote.
-/

namespace SubstrateClient.Scale

open ByteParser

variable {types : MethodTypes} {α : Type}

/-- A part of the codec's types: whether options belong to it, and which types with methods. -/
structure Grammar (types : MethodTypes) where
  /-- Option wrappers belong to the grammar. -/
  options : Bool
  /-- These types with methods belong to the grammar. -/
  methods : types.Name → Prop

mutual

/-- The type is built inside the grammar. -/
def GoType.Within (grammar : Grammar types) : GoType types → Prop
  | .bool | .num _ | .string => True
  | .array _ item | .slice item => item.Within grammar
  | .struct fields => fields.Within grammar
  | .option payload => grammar.options = true ∧ payload.Within grammar
  | .optionBool _ => grammar.options = true
  | .method name => grammar.methods name
  | .word | .ptr _ | .unsupported => False

/-- No field is skipped or hidden, and each has a type of the grammar. -/
def GoFields.Within (grammar : Grammar types) : GoFields types → Prop
  | .nil => True
  | .cons tag field later => tag = .plain ∧ field.Within grammar ∧ later.Within grammar

end

mutual

/-- The slices and strings of the value have at most `2 ^ 32 - 1` elements. -/
def GoType.Fits (fits : (name : types.Name) → types.Carrier name → Prop) :
    (type : GoType types) → type.Val → Prop
  | .string, value => List.length (α := UInt8) value ≤ maxUint32
  | .array _ item, value => ∀ element ∈ List.Vector.toList value, item.Fits fits element
  | .slice item, value =>
      (GoSlice.elems value).length ≤ maxUint32 ∧
        ∀ element ∈ GoSlice.elems value, item.Fits fits element
  | .struct fields, value => fields.Fits fits value
  | .option payload, value => value.1 = true → payload.Fits fits value.2
  | .method name, value => fits name value
  | .bool, _ | .num _, _ | .word, _ | .ptr _, _ | .optionBool _, _ | .unsupported, _ => True

/-- The slices and strings of every field have at most `2 ^ 32 - 1` elements. -/
def GoFields.Fits (fits : (name : types.Name) → types.Carrier name → Prop) :
    (fields : GoFields types) → fields.Val → Prop
  | .nil, _ => True
  | .cons _ field later, value => field.Fits fits value.1 ∧ later.Fits fits value.2

end

mutual

/-- Forget what lies beyond the length of a slice or behind an absent option. -/
def GoType.trim : (type : GoType types) → type.Val → type.Val
  | .array _ item, value => List.Vector.map item.trim value
  | .slice item, value => (⟨(GoSlice.elems value).map item.trim, []⟩ : GoSlice item.Val)
  | .struct fields, value => fields.trim value
  | .option payload, value => if value.1 then (true, payload.trim value.2) else (false, payload.zero)
  | .optionBool _, value => (value.1, value.1 && value.2)
  | .bool, value | .num _, value | .word, value | .string, value | .ptr _, value
  | .method _, value | .unsupported, value => value

/-- Trim every field. -/
def GoFields.trim : (fields : GoFields types) → fields.Val → fields.Val
  | .nil, value => value
  | .cons _ field later, value => (field.trim value.1, later.trim value.2)

end

/-- A type with methods round-trips: every value that fits is encoded, and decoding its bytes into
a zero target returns it and stops right after. -/
def MethodTypes.Lawful (fits : (name : types.Name) → types.Carrier name → Prop)
    (name : types.Name) : Prop :=
  types.kind name = .struct ∧
    ∀ value, fits name value → ∃ bytes, types.encode name value = .ok bytes ∧
      Reads (types.decode name (types.holder name (types.zero name))) bytes value

/-! ## Primitive layers -/

theorem reads_binaryRead {size : Nat} (size_pos : 0 < size) {bytes : List UInt8}
    (width : bytes.length = size) : Reads (binaryRead size) bytes bytes := by
  intro rest
  have nonempty : bytes ≠ [] := List.ne_nil_of_length_pos (by omega)
  subst width
  simp [binaryRead, nonempty]

theorem reads_decodeByte (start byte : UInt8) : Reads (decodeByte start) [byte] byte := by
  have value : UInt8.ofNat (LittleEndian.toNat [byte]) = byte := by
    simp [LittleEndian.toNat]
  have reads := (reads_binaryRead one_pos (show [byte].length = 1 from rfl)).bind_pure
    fun bytes => UInt8.ofNat (LittleEndian.toNat bytes)
  rw [value] at reads
  exact reads

/-- Resizing an empty slice allocates zeros. -/
theorem resize_empty (zero : α) (count : Nat) :
    GoSlice.resize zero count ⟨[], []⟩ = ⟨List.replicate count zero, []⟩ := by
  unfold GoSlice.resize
  rcases Nat.eq_zero_or_pos count with rfl | count_pos
  · rfl
  · rw [if_neg (by simp; omega), if_pos (by simpa [GoSlice.capacity] using count_pos)]

/-- The lengths the protocol allows pass the decoder's checks unchanged. -/
theorem length_in_bounds {count : Nat} (short : count ≤ maxUint32) :
    count % 2 ^ 64 = count ∧ ¬ maxUint32 < count % 2 ^ 64 ∧ ¬ maxInt < count % 2 ^ 64 := by
  unfold maxUint32 at *
  unfold maxInt
  omega

/-- With ample memory the items are decoded for every length the protocol allows. -/
theorem decodeItems_ample (zero : α) (decodeItem : α → Decoder α) (target : GoSlice α) {count : Nat}
    (short : count ≤ maxUint32) :
    decodeItems ampleMemory zero decodeItem target count = (do
      let elems ← (target.resize zero count).elems.mapM decodeItem
      pure ⟨elems, (target.resize zero count).spare⟩) := by
  obtain ⟨small, in_protocol, in_platform⟩ := length_in_bounds short
  rw [decodeItems, if_neg in_protocol, if_neg in_platform, small,
    if_neg (by simp [ampleMemory_of_le short])]

/-- Once its length is known, a slice is read item by item. -/
theorem reads_decodeItems {zero : α} {decodeItem : α → Decoder α} {chunks : List (List UInt8)}
    {values : List α} (short : values.length ≤ maxUint32)
    (each : List.Forall₂ (Reads (decodeItem zero)) chunks values) :
    Reads (decodeItems ampleMemory zero decodeItem ⟨[], []⟩ values.length) chunks.flatten ⟨values, []⟩ := by
  rw [decodeItems_ample zero decodeItem _ short, resize_empty]
  exact (reads_mapM_replicate each).bind_pure _

/-- A slice whose items are written as chunks. -/
theorem encodeSlice_eq {encodeItem : α → Written} {items : List α} {chunks : List (List UInt8)}
    (short : items.length ≤ maxUint32) (encoded : items.mapM encodeItem = .ok chunks) :
    encodeSlice encodeItem items = .ok (compactBytes items.length ++ chunks.flatten) := by
  have length_lt : items.length < 2 ^ 536 := lt_compact_bound (by unfold maxUint32 at short; omega)
  rw [encodeSlice, if_neg (by omega), encodeUintCompact_eq length_lt, encoded]
  rfl

/-- A slice is read from its length and the chunks of its items. -/
theorem reads_decodeSlice {zero : α} {decodeItem : α → Decoder α} {chunks : List (List UInt8)}
    {values : List α} (short : values.length ≤ maxUint32)
    (each : List.Forall₂ (Reads (decodeItem zero)) chunks values) :
    Reads (decodeSlice ampleMemory zero decodeItem ⟨[], []⟩) (compactBytes values.length ++ chunks.flatten)
      ⟨values, []⟩ := by
  have length_lt : values.length < 2 ^ 536 := lt_compact_bound (by unfold maxUint32 at short; omega)
  intro rest
  rw [decodeSlice, List.append_assoc, reads_compactBytes length_lt]
  exact reads_decodeItems short each rest

/-- The slice branches of the encoder and the decoder agree when their item steps do. -/
theorem slice_roundTrip {zero : α} {encodeItem : α → Written} {decodeItem : α → Decoder α}
    {trimItem : α → α} {items : List α} (short : items.length ≤ maxUint32)
    (each : ∀ item ∈ items, ∃ bytes, encodeItem item = .ok bytes ∧
      Reads (decodeItem zero) bytes (trimItem item)) :
    ∃ bytes, encodeSlice encodeItem items = .ok bytes ∧
      Reads (decodeSlice ampleMemory zero decodeItem ⟨[], []⟩) bytes ⟨items.map trimItem, []⟩ := by
  obtain ⟨chunks, encoded, related⟩ := Outcome.mapM_eq_ok_of_forall each
  have related_back : List.Forall₂ (Reads (decodeItem zero)) chunks (items.map trimItem) :=
    List.forall₂_map_right_iff.mpr (related.flip)
  have reads := reads_decodeSlice (by simpa using short) related_back
  rw [List.length_map] at reads
  exact ⟨_, encodeSlice_eq short encoded, reads⟩

/-- The slice branches on items that are read back unchanged. -/
theorem slice_roundTrip_self {zero : α} {encodeItem : α → Written} {decodeItem : α → Decoder α}
    {items : List α} (short : items.length ≤ maxUint32)
    (each : ∀ item, ∃ bytes, encodeItem item = .ok bytes ∧ Reads (decodeItem zero) bytes item) :
    ∃ bytes, encodeSlice encodeItem items = .ok bytes ∧
      Reads (decodeSlice ampleMemory zero decodeItem ⟨[], []⟩) bytes ⟨items, []⟩ := by
  have as_identity : ∀ item ∈ items, ∃ bytes, encodeItem item = .ok bytes ∧
      Reads (decodeItem zero) bytes (id item) := fun item _ => each item
  obtain ⟨bytes, encoded, reads⟩ := slice_roundTrip short as_identity
  rw [List.map_id] at reads
  exact ⟨bytes, encoded, reads⟩

/-- After the flag byte one, an option is its value. -/
theorem decodeOption_one (decodeValue : α → Decoder α) (start : α) (input : List UInt8) :
    decodeOption decodeValue start (1 :: input) =
      decodeValue start input >>= fun result => .ok ((true, result.1), result.2) := by
  simp [decodeOption, readOneByteOrZero]

/-- Decoding an option whose flag byte is set. -/
theorem reads_decodeOption_some {decodeValue : α → Decoder α} {start value : α}
    {bytes : List UInt8} (payload : Reads (decodeValue start) bytes value) :
    Reads (decodeOption decodeValue start) (1 :: bytes) (true, value) := by
  intro rest
  rw [List.cons_append, decodeOption_one, payload]
  rfl

theorem reads_decodeOption_none (decodeValue : α → Decoder α) (start : α) :
    Reads (decodeOption decodeValue start) [0] (false, start) := by
  intro rest
  simp [decodeOption, readOneByteOrZero]

theorem reads_decodeOptionBool (package : OptionBoolPackage) (hasValue value : Bool) :
    ∃ bytes, encodeOptionBool hasValue value = .ok bytes ∧
      Reads (decodeOptionBool package) bytes (hasValue, hasValue && value) := by
  cases hasValue <;> cases value <;>
    exact ⟨_, rfl, fun rest => by simp [decodeOptionBool, readOneByteOrZero]⟩

theorem reads_bool (start value : Bool) :
    Reads ((GoType.bool : GoType types).decode start) [if value then 1 else 0] value := by
  have reads := (reads_binaryRead one_pos
    (show [if value then (1 : UInt8) else 0].length = 1 from rfl)).bind_pure
      fun bytes => decide (LittleEndian.toNat bytes ≠ 0)
  cases value <;> exact reads

theorem reads_num (kind : NumKind) (start value : kind.Val) :
    Reads ((GoType.num kind : GoType types).decode start)
      (LittleEndian.ofNat kind.size (kind.toBits value)) value := by
  have reads := (reads_binaryRead kind.size_pos
    (LittleEndian.length_ofNat kind.size (kind.toBits value))).bind_pure
      fun bytes => kind.ofBits (LittleEndian.toNat bytes)
  rw [LittleEndian.toNat_ofNat (kind.toBits_lt value), kind.ofBits_toBits] at reads
  exact reads

/-- The array branches of the encoder and the decoder agree when their item steps do. -/
theorem array_roundTrip {zero : α} {encodeItem : α → Written} {decodeItem : α → Decoder α}
    {trimItem : α → α} {count : Nat} {items : List.Vector α count}
    (each : ∀ item ∈ items.toList, ∃ bytes, encodeItem item = .ok bytes ∧
      Reads (decodeItem zero) bytes (trimItem item)) :
    ∃ chunks, items.toList.mapM encodeItem = .ok chunks ∧
      Reads (mapVector decodeItem (List.Vector.replicate count zero)) chunks.flatten
        (items.map trimItem) := by
  obtain ⟨chunks, encoded, related⟩ := Outcome.mapM_eq_ok_of_forall each
  refine ⟨chunks, encoded, reads_mapVector_replicate ?_⟩
  rw [List.Vector.toList_map]
  exact List.forall₂_map_right_iff.mpr (related.flip)

/-- The array branches on items that are read back unchanged. -/
theorem array_roundTrip_self {zero : α} {encodeItem : α → Written} {decodeItem : α → Decoder α}
    {count : Nat} (items : List.Vector α count)
    (each : ∀ item, ∃ bytes, encodeItem item = .ok bytes ∧ Reads (decodeItem zero) bytes item) :
    ∃ chunks, items.toList.mapM encodeItem = .ok chunks ∧
      Reads (mapVector decodeItem (List.Vector.replicate count zero)) chunks.flatten items := by
  have as_identity : ∀ item ∈ items.toList, ∃ bytes, encodeItem item = .ok bytes ∧
      Reads (decodeItem zero) bytes (id item) := fun item _ => each item
  obtain ⟨chunks, encoded, reads⟩ := array_roundTrip as_identity
  rw [List.Vector.map_id] at reads
  exact ⟨chunks, encoded, reads⟩

/-- The string branches of the encoder and the decoder agree. -/
theorem string_roundTrip {text : List UInt8} (short : text.length ≤ maxUint32) :
    ∃ bytes, (GoType.string : GoType types).encode text = .ok bytes ∧
      Reads ((GoType.string : GoType types).decode ([] : List UInt8)) bytes text := by
  obtain ⟨bytes, encoded, reads⟩ :=
    slice_roundTrip_self short fun byte => ⟨[byte], rfl, reads_decodeByte 0 byte⟩
  exact ⟨bytes, encoded, reads.bind_pure GoSlice.elems⟩

/-- A type with methods that is not an array is decoded by its own method. -/
theorem decode_method [Runtime types] {name : types.Name} (not_array : types.kind name ≠ .array)
    (target : types.Carrier name) :
    (GoType.method name : GoType types).decode target =
      types.decode name (types.holder name target) :=
  if_neg not_array

variable {grammar : Grammar types} {fits : (name : types.Name) → types.Carrier name → Prop}

mutual

/-- Encoding a value of the grammar succeeds, and its bytes decode into it. -/
theorem GoType.encode_reads (lawful : ∀ name, grammar.methods name → types.Lawful fits name) :
    (type : GoType types) → type.Within grammar → (value : type.Val) → type.Fits fits value →
      ∃ bytes, type.encode value = .ok bytes ∧
        Reads (type.decode type.zero) bytes (type.trim value)
  | .bool, _, value, _ => ⟨_, rfl, reads_bool _ value⟩
  | .num kind, _, value, _ => ⟨_, rfl, reads_num kind _ value⟩
  | .string, _, _, short => string_roundTrip short
  | .array count item, within, value, short => by
      obtain ⟨chunks, encoded, reads⟩ := array_roundTrip fun element member =>
        GoType.encode_reads lawful item within element (short element member)
      exact ⟨chunks.flatten, by simp [GoType.encode, encoded], reads⟩
  | .slice item, within, value, short =>
      slice_roundTrip short.1 fun element member =>
        GoType.encode_reads lawful item within element (short.2 element member)
  | .struct fields, within, value, short => GoFields.encode_reads lawful fields within value short
  | .option payload, within, (false, value), _ =>
      ⟨[0], rfl, reads_decodeOption_none payload.decode payload.zero⟩
  | .option payload, within, (true, value), short => by
      obtain ⟨bytes, encoded, reads⟩ :=
        GoType.encode_reads lawful payload within.2 value (short rfl)
      refine ⟨1 :: bytes, ?_, reads_decodeOption_some reads⟩
      simp [GoType.encode, encodeOption, encoded]
  | .optionBool package, _, value, _ => reads_decodeOptionBool package value.1 value.2
  | .method name, within, value, short => by
      obtain ⟨kind_eq, law⟩ := lawful name within
      obtain ⟨bytes, encoded, reads⟩ := law value short
      refine ⟨bytes, encoded, ?_⟩
      exact (decode_method (by rw [kind_eq]; decide) (types.zero name)).symm ▸ reads

theorem GoFields.encode_reads (lawful : ∀ name, grammar.methods name → types.Lawful fits name) :
    (fields : GoFields types) → fields.Within grammar → (value : fields.Val) →
      fields.Fits fits value →
      ∃ bytes, fields.encode value = .ok bytes ∧
        Reads (fields.decode fields.zero) bytes (fields.trim value)
  | .nil, _, _, _ => ⟨[], rfl, reads_pure _⟩
  | .cons tag field later, within, value, short => by
      obtain ⟨rfl, field_within, later_within⟩ := within
      obtain ⟨bytes, encoded, reads⟩ :=
        GoType.encode_reads lawful field field_within value.1 short.1
      obtain ⟨others, later_encoded, later_reads⟩ :=
        GoFields.encode_reads lawful later later_within value.2 short.2
      refine ⟨bytes ++ others, ?_, ?_⟩
      · simp [GoFields.encode, FieldTag.plain, encoded, later_encoded]
      · exact (reads.mapError _).bind (later_reads.bind_pure _)

end

/-- The round trip on the grammar without options: trimming then only forgets spare capacity. -/
theorem decode_encode_append {methods : types.Name → Prop}
    (lawful : ∀ name, methods name → types.Lawful fits name) {type : GoType types}
    (within : type.Within ⟨false, methods⟩) {value : type.Val} (short : type.Fits fits value) :
    ∃ bytes, type.encode value = .ok bytes ∧
      ∀ rest, type.decode type.zero (bytes ++ rest) = .ok (type.trim value, rest) :=
  GoType.encode_reads lawful type within value short

/-- `types.UCompact` as the only type with methods. -/
def uCompactTypes : MethodTypes where
  Name := Unit
  Carrier := fun _ => UCompact
  kind := fun _ => .struct
  zero := fun _ => (0 : Int)
  holder := fun _ _ => (0 : Int)
  encode := fun _ => UCompact.encode
  decode := fun _ _ => UCompact.decode

/-- A struct of a list of numbers, a text, an array of flags and a compact integer. -/
def sampleType : GoType uCompactTypes :=
  .struct (.cons .plain (.slice (.num .i16)) (.cons .plain .string
    (.cons .plain (.array 2 .bool) (.cons .plain (.method ()) .nil))))

/-- A value of `sampleType`. -/
def sampleValue : sampleType.Val :=
  ((⟨[(-1 : Int16), (258 : Int16)], [(7 : Int16)]⟩ : GoSlice Int16), ([104, 105] : List UInt8),
    (⟨[true, false], rfl⟩ : List.Vector Bool 2), (1000000 : Int), ())

theorem decode_encode_append_sample :
    ∃ bytes, sampleType.encode sampleValue = .ok bytes ∧
      ∀ rest, sampleType.decode sampleType.zero (bytes ++ rest) =
        .ok (sampleType.trim sampleValue, rest) := by
  have within : sampleType.Within ⟨false, fun _ => True⟩ := by
    simp [sampleType, GoType.Within, GoFields.Within]
  have short : sampleType.Fits (fun _ => UCompact.InRange) sampleValue := by
    have text_short : ([104, 105] : List UInt8).length ≤ maxUint32 := by decide
    exact ⟨⟨by decide, fun _ _ => trivial⟩, text_short, fun _ _ => trivial,
      ⟨1000000, rfl, lt_compact_bound (by norm_num)⟩, trivial⟩
  exact decode_encode_append (fun _ _ => ⟨rfl, fun _ => UCompact.encode_reads⟩) within short

end SubstrateClient.Scale
