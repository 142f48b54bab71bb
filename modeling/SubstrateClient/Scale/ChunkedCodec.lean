import SubstrateClient.ChunkedReading
import SubstrateClient.Scale.Codec

/-!
# Decoding from a reader that delivers chunks

`Decoder.Decode` as a program that asks its `io.Reader` for bytes.  Fixed-width numbers go through
`binary.Read`, which asks again for what one call has left out; `Decoder.Read` makes one call and gives up.  Run
on a byte string in memory the program is the codec, so chunks matter exactly where `Decoder.Read` is asked for
several bytes at once.
-/

namespace SubstrateClient.Scale

open ByteParser Reading

variable {types : MethodTypes} {α : Type}

/-- A decoding step of `scale.Decoder` over any reader. -/
abbrev ChunkedDecoder (α : Type) : Type := Reading GoError α

/-- A step that fails. -/
def failed (reason : GoError) : ChunkedDecoder α := .done (.error reason)

/-- A step that aborts. -/
def aborted : ChunkedDecoder α := .done .panic

@[simp]
theorem inMemory_failed (reason : GoError) : (failed reason : ChunkedDecoder α).inMemory = fail reason := rfl

theorem strict_failed (reason : GoError) : (failed reason : ChunkedDecoder α).Strict := trivial

theorem strict_aborted : (aborted : ChunkedDecoder α).Strict := trivial

/-! ## Reading -/

/-- `Decoder.Read` into a buffer of `count` bytes. -/
def readBuffer (count : Nat) : ChunkedDecoder (List UInt8) :=
  .read (count - 1) fun chunk =>
    if chunk = [] then
      failed .eof
    else if chunk.length < count then
      failed (.text ("Cannot read the required number of bytes " ++ toString count ++ ", only " ++
        toString chunk.length ++ " available"))
    else
      pure chunk

/-- `Decoder.ReadOneByte`. -/
def readByte : ChunkedDecoder UInt8 :=
  .read 0 fun chunk =>
    match chunk with
    | [] => failed .eof
    | byte :: _ => pure byte

/-- `b, _ := ReadOneByte()`. -/
def readByteOrZero : ChunkedDecoder UInt8 :=
  .read 0 fun chunk => pure (chunk.headD 0)

/-- `binary.Read` of a value of the given size. -/
def readValue (size : Nat) : ChunkedDecoder (List UInt8) :=
  .readFull size fun chunk =>
    if chunk = [] then
      failed (.text "expected more bytes, but could not decode any more")
    else if chunk.length < size then
      failed .unexpectedEOF
    else
      pure chunk

/-- From memory a chunk is short exactly if the input is. -/
theorem inMemory_chunk {count : Nat} (positive : 0 < count) (nothing : GoError) (short : Nat → GoError)
    (input : List UInt8) :
    (if input.take count = [] then failed nothing
      else if (input.take count).length < count then failed (short (input.take count).length)
      else pure (input.take count) : ChunkedDecoder (List UInt8)).inMemory (input.drop count) =
      if input = [] then .error nothing
      else if input.length < count then .error (short input.length)
      else .ok (input.take count, input.drop count) := by
  by_cases finished : input = []
  · simp [finished]
  · have some_taken : input.take count ≠ [] := by
      simp [finished, positive.ne']
    rw [if_neg some_taken, if_neg finished, List.length_take]
    by_cases less : input.length < count
    · rw [if_pos less, if_pos (by omega), Nat.min_eq_right less.le]
      rfl
    · rw [if_neg less, if_neg (by omega)]
      rfl

theorem inMemory_readBuffer {count : Nat} (positive : 0 < count) :
    (readBuffer count).inMemory = Scale.read count := by
  funext input
  have asked : count - 1 + 1 = count := by omega
  rw [readBuffer, inMemory, asked]
  exact inMemory_chunk positive _ (fun available => .text ("Cannot read the required number of bytes " ++
    toString count ++ ", only " ++ toString available ++ " available")) input

@[simp]
theorem inMemory_readByte : readByte.inMemory = readOneByte := by
  funext input
  cases input <;> rfl

@[simp]
theorem inMemory_readByteOrZero : readByteOrZero.inMemory = readOneByteOrZero := by
  funext input
  cases input <;> rfl

theorem inMemory_readValue {size : Nat} (positive : 0 < size) : (readValue size).inMemory = binaryRead size := by
  funext input
  rw [readValue, inMemory]
  exact inMemory_chunk positive _ (fun _ => .unexpectedEOF) input

/-- A short delivery is an error. -/
theorem strict_readBuffer {count : Nat} (positive : 0 < count) : (readBuffer count).Strict := by
  intro chunk
  dsimp only
  constructor
  · split_ifs <;> trivial
  · intro nonempty short
    rw [if_neg nonempty, if_pos (by omega)]
    exact Outcome.not_succeeds_error _

theorem strict_readByte : readByte.Strict := by
  intro chunk
  cases chunk with
  | nil => exact ⟨trivial, fun nonempty => absurd rfl nonempty⟩
  | cons byte chunk => exact ⟨trivial, fun _ short => absurd short (by simp)⟩

theorem strict_readByteOrZero : readByteOrZero.Strict := by
  intro chunk
  refine ⟨trivial, fun nonempty short => ?_⟩
  exact absurd (List.length_eq_zero_iff.mp (Nat.le_zero.mp short)) nonempty

theorem strict_readValue (size : Nat) : (readValue size).Strict := by
  intro chunk
  dsimp only
  split_ifs <;> trivial

/-- Several bytes are asked for at once. -/
theorem narrow_readBuffer {count : Nat} (several : 1 < count) (input : List UInt8) :
    (readBuffer count).Narrow input ↔ input = [] := by
  have asked : count - 1 ≠ 0 := by omega
  rw [readBuffer, Narrow, or_iff_right asked]
  refine and_iff_left_of_imp fun _ => ?_
  split_ifs <;> trivial

theorem narrow_readByte (input : List UInt8) : readByte.Narrow input := by
  cases input <;> exact ⟨.inl rfl, trivial⟩

theorem narrow_readByteOrZero (input : List UInt8) : readByteOrZero.Narrow input := ⟨.inl rfl, trivial⟩

theorem narrow_readValue (size : Nat) (input : List UInt8) : (readValue size).Narrow input := by
  rw [readValue, Narrow]
  split_ifs <;> trivial

/-- After a step that returned, what follows is all that counts. -/
theorem narrow_bind_ok {β : Type} {first : ChunkedDecoder α} {next : α → ChunkedDecoder β}
    {input rest : List UInt8} {value : α} (narrow : first.Narrow input)
    (run : first.inMemory input = .ok (value, rest)) :
    (first >>= next).Narrow input ↔ (next value).Narrow rest := by
  rw [narrow_bind, and_iff_right narrow, run]
  constructor
  · exact fun later => later value rest rfl
  · rintro later _ _ ⟨⟩
    exact later

/-- After a step that failed, nothing is read. -/
theorem narrow_bind_error {β : Type} {first : ChunkedDecoder α} {next : α → ChunkedDecoder β}
    {input : List UInt8} (narrow : first.Narrow input) (fails : ¬ (first.inMemory input).Succeeds) :
    (first >>= next).Narrow input :=
  narrow_bind.mpr ⟨narrow, fun _ _ run => absurd ⟨_, run⟩ fails⟩

/-- Nothing is read after the last step. -/
theorem narrow_bind_pure {β : Type} {first : ChunkedDecoder α} {result : α → β} {input : List UInt8} :
    (first >>= fun value => pure (result value)).Narrow input ↔ first.Narrow input :=
  narrow_bind.trans (and_iff_left fun _ _ _ => trivial)

/-! ## Compact integers, options and slices -/

/-- `DecodeUintCompact`. -/
def readUintCompact : ChunkedDecoder Nat := do
  let first ← readByte
  if first &&& 3 = 0 then
    pure (first >>> 2).toNat
  else if first &&& 3 = 1 then
    let second ← readByte
    pure ((UInt64.ofNat second.toNat <<< 6) + UInt64.ofNat (first >>> 2).toNat).toNat
  else if first &&& 3 = 2 then
    let buffer ← readBuffer 3
    pure ((UInt32.ofNat (LittleEndian.toNat (first :: buffer))) >>> 2).toNat
  else
    let extra := first >>> 2
    if 63 < extra then
      failed (.text "Not supported: l>63 encountered when decoding a compact-encoded uint")
    else
      let buffer ← readBuffer (extra + 4).toNat
      pure (LittleEndian.toNat buffer)

/-- `DecodeOption`. -/
def readOption (readItem : α → ChunkedDecoder α) (value : α) : ChunkedDecoder (Bool × α) := do
  let flag ← readByteOrZero
  if flag = 0 then
    pure (false, value)
  else if flag = 1 then
    let decoded ← readItem value
    pure (true, decoded)
  else
    failed (.text ("Unknown byte prefix for encoded OptionBool: " ++ toString flag.toNat))

/-- The `Decode` methods of the two `OptionBool` types. -/
def readOptionBool (package : OptionBoolPackage) : ChunkedDecoder (Bool × Bool) := do
  let flag ← readByteOrZero
  if flag = 0 then
    pure (false, false)
  else if flag = 1 then
    pure (true, true)
  else if flag = 2 then
    pure (true, false)
  else
    failed (.text (package.unknownPrefix flag))

/-- The items of a slice whose length prefix has been read. -/
def readItems (zero : α) (readItem : α → ChunkedDecoder α) (target : GoSlice α) (codedLen : Nat) :
    ChunkedDecoder (GoSlice α) :=
  if maxUint32 < codedLen % 2 ^ 64 then
    failed (.text ("Encoded array length is higher than allowed by the protocol " ++
      "(32-bit unsigned integer)"))
  else if maxInt < codedLen % 2 ^ 64 then
    failed (.text "Encoded array length is higher than allowed by the platform")
  else do
    let resized := target.resize zero (codedLen % 2 ^ 64)
    let elems ← resized.elems.mapM readItem
    pure ⟨elems, resized.spare⟩

/-- The slice branch of `DecodeIntoReflectValue`.  A length that could not be read is a nil pointer. -/
def readSlice (zero : α) (readItem : α → ChunkedDecoder α) (target : GoSlice α) :
    ChunkedDecoder (GoSlice α) := do
  let codedLen ← readUintCompact.orAbort
  readItems zero readItem target codedLen

/-- One byte of a string. -/
def readStringByte (_ : UInt8) : ChunkedDecoder UInt8 := do
  let bytes ← readValue 1
  pure (UInt8.ofNat (LittleEndian.toNat bytes))

/-- Mode three asks for four bytes and more. -/
private theorem mode3_several {extra : UInt8} (small : ¬ 63 < extra) : 1 < (extra + 4).toNat := by
  have bound : extra.toNat ≤ 63 := by
    rwa [UInt8.lt_iff_toNat_lt, not_lt] at small
  rw [UInt8.toNat_add]
  change 1 < (extra.toNat + 4) % 256
  omega

@[simp]
theorem inMemory_readUintCompact : readUintCompact.inMemory = decodeUintCompact := by
  rw [readUintCompact, inMemory_bind, inMemory_readByte, decodeUintCompact]
  congr 1
  funext first
  dsimp only
  split_ifs with mode0 mode1 mode2 large
  · rfl
  · rw [inMemory_bind, inMemory_readByte]
    rfl
  · rw [inMemory_bind, inMemory_readBuffer (by norm_num)]
    rfl
  · rfl
  · rw [inMemory_bind, inMemory_readBuffer (Nat.zero_lt_of_lt (mode3_several large))]
    rfl

theorem strict_readUintCompact : readUintCompact.Strict := by
  refine strict_readByte.bind fun first => ?_
  dsimp only
  split_ifs with mode0 mode1 mode2 large
  · exact strict_pure _
  · exact strict_readByte.bind fun second => strict_pure _
  · exact (strict_readBuffer (by norm_num)).bind fun buffer => strict_pure _
  · exact strict_failed _
  · exact (strict_readBuffer (Nat.zero_lt_of_lt (mode3_several large))).bind fun buffer => strict_pure _

/-- The guard of mode three never applies. -/
private theorem not_large (byte : UInt8) : ¬ (63 : UInt8) < byte >>> 2 := by
  have byte_lt := byte.toNat_lt
  rw [UInt8.lt_iff_toNat_lt, UInt8.toNat_shiftRight]
  change ¬ 63 < byte.toNat >>> 2
  rw [Nat.shiftRight_eq_div_pow]
  omega

/-- The input begins with a compact integer of the four-byte or the big-integer mode, and more than its first
byte is there. -/
def WideCompact : List UInt8 → Prop
  | [] => False
  | first :: rest => first &&& 3 ≠ 0 ∧ first &&& 3 ≠ 1 ∧ rest ≠ []

theorem narrow_readUintCompact (input : List UInt8) : readUintCompact.Narrow input ↔ ¬ WideCompact input := by
  cases input with
  | nil => exact iff_of_true (narrow_bind_error (narrow_readByte []) (by simp)) id
  | cons first rest =>
      rw [readUintCompact, narrow_bind_ok (narrow_readByte _) (congrFun inMemory_readByte _), WideCompact]
      dsimp only
      split_ifs with mode0 mode1 mode2 large
      · exact iff_of_true trivial fun wide => wide.1 mode0
      · exact iff_of_true (narrow_bind_pure.mpr (narrow_readByte rest)) fun wide => wide.2.1 mode1
      · rw [narrow_bind_pure, narrow_readBuffer (by norm_num)]
        simp [mode0, mode1]
      · exact absurd large (not_large first)
      · rw [narrow_bind_pure, narrow_readBuffer (mode3_several large)]
        simp [mode0, mode1]

theorem inMemory_readOption {readItem : α → ChunkedDecoder α} {decodeItem : α → Decoder α}
    (each : ∀ start, (readItem start).inMemory = decodeItem start) (value : α) :
    (readOption readItem value).inMemory = decodeOption decodeItem value := by
  rw [readOption, inMemory_bind, inMemory_readByteOrZero, decodeOption]
  congr 1
  funext flag
  split_ifs
  · rfl
  · rw [inMemory_bind, each]
    rfl
  · rfl

theorem strict_readOption {readItem : α → ChunkedDecoder α} (each : ∀ start, (readItem start).Strict)
    (value : α) : (readOption readItem value).Strict := by
  refine strict_readByteOrZero.bind fun flag => ?_
  split_ifs
  · exact strict_pure _
  · exact (each value).bind fun decoded => strict_pure _
  · exact strict_failed _

theorem narrow_readOption {readItem : α → ChunkedDecoder α} {wide : α → List UInt8 → Prop}
    (each : ∀ start input, (readItem start).Narrow input ↔ ¬ wide start input) (value : α)
    (input : List UInt8) :
    (readOption readItem value).Narrow input ↔ ¬ ∃ rest, input = 1 :: rest ∧ wide value rest := by
  rw [readOption]
  cases input with
  | nil =>
      rw [narrow_bind_ok (narrow_readByteOrZero _) (congrFun inMemory_readByteOrZero _), if_pos rfl]
      exact iff_of_true trivial (by simp)
  | cons flag rest =>
      rw [narrow_bind_ok (narrow_readByteOrZero _) (congrFun inMemory_readByteOrZero _)]
      split_ifs with absent present
      · exact iff_of_true trivial (by simp [absent])
      · rw [narrow_bind_pure, each]
        simp [present]
      · exact iff_of_true trivial (by simp [present])

@[simp]
theorem inMemory_readOptionBool (package : OptionBoolPackage) :
    (readOptionBool package).inMemory = decodeOptionBool package := by
  rw [readOptionBool, inMemory_bind, inMemory_readByteOrZero, decodeOptionBool]
  congr 1
  funext flag
  split_ifs <;> rfl

theorem strict_readOptionBool (package : OptionBoolPackage) : (readOptionBool package).Strict := by
  refine strict_readByteOrZero.bind fun flag => ?_
  split_ifs
  · exact strict_pure _
  · exact strict_pure _
  · exact strict_pure _
  · exact strict_failed _

theorem narrow_readOptionBool (package : OptionBoolPackage) (input : List UInt8) :
    (readOptionBool package).Narrow input := by
  refine narrow_bind.mpr ⟨narrow_readByteOrZero input, fun flag rest _ => ?_⟩
  split_ifs <;> trivial

theorem inMemory_readItems {readItem : α → ChunkedDecoder α} {decodeItem : α → Decoder α}
    (each : ∀ start, (readItem start).inMemory = decodeItem start) (zero : α) (target : GoSlice α)
    (codedLen : Nat) :
    (readItems zero readItem target codedLen).inMemory =
      decodeItems ampleMemory zero decodeItem target codedLen := by
  rw [readItems, decodeItems]
  split_ifs with large beyond refused
  · rfl
  · rfl
  · rw [ampleMemory_of_le (not_lt.mp large)] at refused
    cases refused.2
  · simp only [inMemory_bind, inMemory_mapM each, inMemory_pure]

theorem strict_readItems {readItem : α → ChunkedDecoder α} (each : ∀ start, (readItem start).Strict)
    (zero : α) (target : GoSlice α) (codedLen : Nat) : (readItems zero readItem target codedLen).Strict := by
  rw [readItems]
  split_ifs
  · exact strict_failed _
  · exact strict_failed _
  · exact (strict_mapM each _).bind fun elems => strict_pure _

theorem narrow_readItems {readItem : α → ChunkedDecoder α} {decodeItem : α → Decoder α}
    {wide : α → List UInt8 → Prop} (same : ∀ start, (readItem start).inMemory = decodeItem start)
    (each : ∀ start input, (readItem start).Narrow input ↔ ¬ wide start input) (zero : α)
    (target : GoSlice α) (codedLen : Nat) (input : List UInt8) :
    (readItems zero readItem target codedLen).Narrow input ↔
      ¬ (codedLen % 2 ^ 64 ≤ maxUint32 ∧
        Arrives wide decodeItem (target.resize zero (codedLen % 2 ^ 64)).elems input) := by
  rw [readItems]
  split_ifs with large beyond
  · exact iff_of_true trivial fun wide => absurd large (not_lt.mpr wide.1)
  · have too_long : maxUint32 < codedLen % 2 ^ 64 := (show maxUint32 < maxInt by decide).trans beyond
    exact absurd too_long large
  · rw [narrow_bind_pure, narrow_mapM same each, and_iff_right (not_lt.mp large)]

theorem inMemory_readSlice {readItem : α → ChunkedDecoder α} {decodeItem : α → Decoder α}
    (each : ∀ start, (readItem start).inMemory = decodeItem start) (zero : α) (target : GoSlice α) :
    (readSlice zero readItem target).inMemory = decodeSlice ampleMemory zero decodeItem target := by
  funext input
  rw [readSlice, inMemory_bind, ByteParser.bind_apply, inMemory_orAbort, inMemory_readUintCompact, decodeSlice]
  cases decodeUintCompact input with
  | ok result => rw [Outcome.ok_bind, inMemory_readItems each]
  | error _ | panic | outOfFuel => rfl

/-- Decoding a slice comes to a wide read in its length, or in one of its items. -/
def WideSlice (wide : α → List UInt8 → Prop) (decodeItem : α → Decoder α) (zero : α) (target : GoSlice α)
    (input : List UInt8) : Prop :=
  WideCompact input ∨
    ∃ codedLen rest, decodeUintCompact input = .ok (codedLen, rest) ∧ codedLen % 2 ^ 64 ≤ maxUint32 ∧
      Arrives wide decodeItem (target.resize zero (codedLen % 2 ^ 64)).elems rest

theorem narrow_readSlice {readItem : α → ChunkedDecoder α} {decodeItem : α → Decoder α}
    {wide : α → List UInt8 → Prop} (same : ∀ start, (readItem start).inMemory = decodeItem start)
    (each : ∀ start input, (readItem start).Narrow input ↔ ¬ wide start input) (zero : α)
    (target : GoSlice α) (input : List UInt8) :
    (readSlice zero readItem target).Narrow input ↔ ¬ WideSlice wide decodeItem zero target input := by
  rw [readSlice, narrow_bind, orAbort, narrow_mapEnding, narrow_readUintCompact, WideSlice, not_or]
  refine and_congr_right fun _ => ?_
  simp only [← orAbort.eq_1, inMemory_orAbort_eq_ok, inMemory_readUintCompact, narrow_readItems same each]
  push Not
  rfl

theorem strict_readSlice {readItem : α → ChunkedDecoder α} (each : ∀ start, (readItem start).Strict)
    (zero : α) (target : GoSlice α) : (readSlice zero readItem target).Strict :=
  strict_readUintCompact.orAbort.bind fun codedLen => strict_readItems each zero target codedLen

theorem inMemory_readStringByte (start : UInt8) : (readStringByte start).inMemory = decodeByte start := by
  rw [readStringByte, inMemory_bind, inMemory_readValue Nat.one_pos]
  rfl

theorem strict_readStringByte (start : UInt8) : (readStringByte start).Strict :=
  (strict_readValue 1).bind fun _ => strict_pure _

/-! ## All types -/

/-- The `Decode` methods as programs.  What a method returns from memory is its `decode`, and it returns an error
when `Decoder.Read` does. -/
structure MethodReadings (types : MethodTypes) where
  reading : (name : types.Name) → types.Carrier name → ChunkedDecoder (types.Carrier name)
  inMemory_reading : ∀ name holder, (reading name holder).inMemory = types.decode name holder
  strict_reading : ∀ name holder, (reading name holder).Strict
  /-- Where the method asks for several bytes at once. -/
  wide : (name : types.Name) → types.Carrier name → List UInt8 → Prop
  narrow_reading : ∀ name holder input, (reading name holder).Narrow input ↔ ¬ wide name holder input

section Reading

variable (methods : MethodReadings types)

/-- The `Decodeable` branch of `DecodeIntoReflectValue`; the holder of an array cannot be made. -/
def MethodReadings.decodeable (name : types.Name) (target : types.Carrier name) :
    ChunkedDecoder (types.Carrier name) :=
  if types.kind name = .array then
    aborted
  else
    methods.reading name (types.holder name target)

theorem MethodReadings.inMemory_decodeable (name : types.Name) (target : types.Carrier name) :
    (methods.decodeable name target).inMemory =
      if types.kind name = .array then abort else types.decode name (types.holder name target) := by
  rw [decodeable]
  split_ifs
  · rfl
  · exact methods.inMemory_reading name _

theorem MethodReadings.strict_decodeable (name : types.Name) (target : types.Carrier name) :
    (methods.decodeable name target).Strict := by
  rw [decodeable]
  split_ifs
  · exact strict_aborted
  · exact methods.strict_reading name _

mutual

/-- `Decoder.DecodeIntoReflectValue` over any reader. -/
def GoType.reading : (type : GoType types) → type.Val → ChunkedDecoder type.Val
  | .bool, _ => do
      let bytes ← readValue 1
      pure (decide (LittleEndian.toNat bytes ≠ 0) : Bool)
  | .num kind, _ => do
      let bytes ← readValue kind.size
      pure (kind.ofBits (LittleEndian.toNat bytes))
  | .word, _ => failed (.text "binary.Read: invalid type")
  | .string, _ => do
      let bytes ← readSlice 0 readStringByte ⟨[], []⟩
      pure (bytes.elems : List UInt8)
  | .array _ item, target => mapVector item.reading target
  | .slice item, target => readSlice item.zero item.reading target
  | .struct fields, target => fields.reading target
  | .ptr element, target =>
      match (target : Option element.Val) with
      | none => aborted
      | some inner => do
          let decoded ← element.reading inner
          pure (some decoded : Option element.Val)
  | .option payload, _ => readOption payload.reading payload.zero
  | .optionBool package, _ => readOptionBool package
  | .method name, target => methods.decodeable name target
  | .unsupported, _ => failed (.text "Type cannot be decoded")

/-- The struct branch of `DecodeIntoReflectValue` over any reader. -/
def GoFields.reading : (fields : GoFields types) → fields.Val → ChunkedDecoder fields.Val
  | .nil, _ => pure ()
  | .cons tag field later, target =>
      if tag.skip then do
        let others ← later.reading target.2
        pure (target.1, others)
      else if !tag.exported then
        failed (.fieldByField (.text "Unsettable value"))
      else do
        let decoded ← (field.reading target.1).mapError .fieldByField
        let others ← later.reading target.2
        pure (decoded, others)

end

mutual

/-- From memory the program is the codec. -/
theorem GoType.inMemory_reading : (type : GoType types) → (target : type.Val) →
    (type.reading methods target).inMemory = type.decode target
  | .bool, _ => by
      rw [GoType.reading, GoType.decode, inMemory_bind, inMemory_readValue Nat.one_pos]
      rfl
  | .num kind, _ => by
      rw [GoType.reading, GoType.decode, inMemory_bind, inMemory_readValue kind.size_pos]
      rfl
  | .word, _ => rfl
  | .string, _ => by
      rw [GoType.reading, GoType.decode, inMemory_bind, inMemory_readSlice inMemory_readStringByte]
      rfl
  | .array _ item, target => inMemory_mapVector (GoType.inMemory_reading item) target
  | .slice item, target => inMemory_readSlice (GoType.inMemory_reading item) item.zero target
  | .struct fields, target => GoFields.inMemory_reading fields target
  | .ptr element, target => by
      cases target with
      | none => rfl
      | some inner =>
          rw [GoType.reading, GoType.decode, inMemory_bind, GoType.inMemory_reading element inner]
          rfl
  | .option payload, _ => inMemory_readOption (GoType.inMemory_reading payload) payload.zero
  | .optionBool package, _ => inMemory_readOptionBool package
  | .method name, target => methods.inMemory_decodeable name target
  | .unsupported, _ => rfl

theorem GoFields.inMemory_reading : (fields : GoFields types) → (target : fields.Val) →
    (fields.reading methods target).inMemory = fields.decode target
  | .nil, _ => rfl
  | .cons tag field later, target => by
      rw [GoFields.reading, GoFields.decode]
      split_ifs
      · rw [inMemory_bind, GoFields.inMemory_reading later target.2]
        rfl
      · rfl
      · rw [inMemory_bind, inMemory_mapError, GoType.inMemory_reading field target.1]
        simp only [inMemory_bind, GoFields.inMemory_reading later target.2]
        rfl

end

mutual

theorem GoType.strict_reading : (type : GoType types) → (target : type.Val) →
    (type.reading methods target).Strict
  | .bool, _ => (strict_readValue 1).bind fun _ => strict_pure _
  | .num kind, _ => (strict_readValue kind.size).bind fun _ => strict_pure _
  | .word, _ => strict_failed _
  | .string, _ => (strict_readSlice strict_readStringByte 0 _).bind fun _ => strict_pure _
  | .array _ item, target => strict_mapVector (GoType.strict_reading item) target
  | .slice item, target => strict_readSlice (GoType.strict_reading item) item.zero target
  | .struct fields, target => GoFields.strict_reading fields target
  | .ptr element, target => by
      cases target with
      | none => exact strict_aborted
      | some inner => exact (GoType.strict_reading element inner).bind fun _ => strict_pure _
  | .option payload, _ => strict_readOption (GoType.strict_reading payload) payload.zero
  | .optionBool package, _ => strict_readOptionBool package
  | .method name, target => methods.strict_decodeable name target
  | .unsupported, _ => strict_failed _

theorem GoFields.strict_reading : (fields : GoFields types) → (target : fields.Val) →
    (fields.reading methods target).Strict
  | .nil, _ => strict_pure ()
  | .cons tag field later, target => by
      rw [GoFields.reading]
      split_ifs
      · exact (GoFields.strict_reading later target.2).bind fun _ => strict_pure _
      · exact strict_failed _
      · refine ((GoType.strict_reading field target.1).mapError _).bind fun decoded => ?_
        exact (GoFields.strict_reading later target.2).bind fun _ => strict_pure _

end

mutual

/-- Decoding the input comes to a compact integer of more than two bytes, or to a method that asks for several
bytes at once. -/
def GoType.Wide : (type : GoType types) → type.Val → List UInt8 → Prop
  | .string, _, input => WideCompact input
  | .array _ item, target, input => Arrives item.Wide item.decode (List.Vector.toList target) input
  | .slice item, target, input => WideSlice item.Wide item.decode item.zero target input
  | .struct fields, target, input => fields.Wide target input
  | .ptr element, target, input =>
      match (target : Option element.Val) with
      | none => False
      | some inner => element.Wide inner input
  | .option payload, _, input => ∃ rest, input = 1 :: rest ∧ payload.Wide payload.zero rest
  | .method name, target, input =>
      types.kind name ≠ .array ∧ methods.wide name (types.holder name target) input
  | .bool, _, _ | .num _, _, _ | .word, _, _ | .optionBool _, _, _ | .unsupported, _, _ => False

/-- Decoding the fields comes to several bytes at once. -/
def GoFields.Wide : (fields : GoFields types) → fields.Val → List UInt8 → Prop
  | .nil, _, _ => False
  | .cons tag field later, target, input =>
      if tag.skip then
        later.Wide target.2 input
      else
        tag.exported = true ∧
          (field.Wide target.1 input ∨
            ∃ value rest, field.decode target.1 input = .ok (value, rest) ∧ later.Wide target.2 rest)

end

theorem narrow_string (target : GoSlice UInt8) (input : List UInt8) :
    (readSlice 0 readStringByte target >>= fun bytes => pure bytes.elems).Narrow input ↔
      ¬ WideCompact input := by
  have each : ∀ start input, (readStringByte start).Narrow input ↔ ¬ False := fun start input =>
    iff_of_true (narrow_bind_pure.mpr (narrow_readValue 1 input)) id
  rw [narrow_bind_pure, narrow_readSlice inMemory_readStringByte each, WideSlice]
  simp only [not_arrives_at_nothing, and_false, exists_false, or_false]

theorem MethodReadings.narrow_decodeable (name : types.Name) (target : types.Carrier name)
    (input : List UInt8) :
    (methods.decodeable name target).Narrow input ↔
      ¬ (types.kind name ≠ .array ∧ methods.wide name (types.holder name target) input) := by
  rw [decodeable]
  split_ifs with is_array
  · exact iff_of_true trivial fun wide => wide.1 is_array
  · rw [methods.narrow_reading, and_iff_right is_array]

mutual

/-- Several bytes are asked for at once exactly where `Wide` says so. -/
theorem GoType.narrow_reading : (type : GoType types) → (target : type.Val) → (input : List UInt8) →
    ((type.reading methods target).Narrow input ↔ ¬ type.Wide methods target input)
  | .bool, _, input => iff_of_true (narrow_bind_pure.mpr (narrow_readValue 1 input)) id
  | .num kind, _, input => iff_of_true (narrow_bind_pure.mpr (narrow_readValue kind.size input)) id
  | .word, _, _ => iff_of_true trivial id
  | .string, _, input => narrow_string ⟨[], []⟩ input
  | .array _ item, target, input =>
      narrow_mapVector (item.inMemory_reading methods) (GoType.narrow_reading item) target input
  | .slice item, target, input =>
      narrow_readSlice (item.inMemory_reading methods) (GoType.narrow_reading item) item.zero target input
  | .struct fields, target, input => GoFields.narrow_reading fields target input
  | .ptr element, target, input => by
      cases target with
      | none => exact iff_of_true trivial id
      | some inner => exact narrow_bind_pure.trans (GoType.narrow_reading element inner input)
  | .option payload, _, input => narrow_readOption (GoType.narrow_reading payload) payload.zero input
  | .optionBool package, _, input => iff_of_true (narrow_readOptionBool package input) id
  | .method name, target, input => methods.narrow_decodeable name target input
  | .unsupported, _, _ => iff_of_true trivial id

theorem GoFields.narrow_reading : (fields : GoFields types) → (target : fields.Val) →
    (input : List UInt8) →
    ((fields.reading methods target).Narrow input ↔ ¬ fields.Wide methods target input)
  | .nil, _, _ => iff_of_true trivial id
  | .cons tag field later, target, input => by
      rw [GoFields.reading, GoFields.Wide]
      split_ifs with skipped hidden
      · exact narrow_bind_pure.trans (GoFields.narrow_reading later target.2 input)
      · refine iff_of_true trivial fun wide => ?_
        rw [wide.1] at hidden
        cases hidden
      · rw [and_iff_right (by simpa using hidden)]
        refine narrow_two (fun value rest => ?_) ?_ (GoFields.narrow_reading later target.2)
        · rw [inMemory_mapError, GoType.inMemory_reading]
          exact Outcome.mapError_eq_ok
        · exact (narrow_mapEnding _ _ _).trans (GoType.narrow_reading field target.1 input)

end

/-- The decoder returns the same from all readers that deliver the bytes, exactly if the bytes are not accepted
or decoding them never asks for several bytes at once. -/
theorem GoType.robust_reading_iff (type : GoType types) (target : type.Val) (bytes : List UInt8) :
    (type.reading methods target).Robust bytes ↔
      ((type.decode target bytes).Succeeds → ¬ type.Wide methods target bytes) := by
  rw [(type.strict_reading methods target).robust_iff, type.inMemory_reading, type.narrow_reading]

end Reading

end SubstrateClient.Scale
