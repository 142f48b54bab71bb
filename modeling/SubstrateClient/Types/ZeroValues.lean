import SubstrateClient.Restoring
import SubstrateClient.Types.ExtrinsicParts

/-!
# Decoding into zero values

The parts that metadata and messages are made of.  `default` is Go's zero value of a type, and every
`Decode` here starts from it.
-/

namespace SubstrateClient.Types

open ByteParser Scale

variable {α : Type}

/-- A Go string, as its bytes. -/
abbrev Text : Type := List UInt8

instance : Inhabited UCompact := ⟨(0 : Int)⟩

/-- `Encode` of a string. -/
def encodeText (text : Text) : Written := (GoType.string : GoType .none).encode text

/-- `Decode` of a string. -/
def decodeText : Decoder Text := (GoType.string : GoType .none).decode ([] : List UInt8)

/-- `Decode` of a boolean. -/
def decodeBool : Decoder Bool := (GoType.bool : GoType .none).decode false

/-- `Encode` of an unsigned 8-bit number. -/
def encodeU8 (number : UInt8) : Written := (GoType.num .u8 : GoType .none).encode number

/-- `Decode` of an unsigned 8-bit number. -/
def decodeU8 : Decoder UInt8 := (GoType.num .u8 : GoType .none).decode (0 : UInt8)

/-- `Encode` of an unsigned 64-bit number. -/
def encodeU64 (number : UInt64) : Written := (GoType.num .u64 : GoType .none).encode number

/-- `Decode` of an unsigned 64-bit number. -/
def decodeU64 : Decoder UInt64 := (GoType.num .u64 : GoType .none).decode (0 : UInt64)

/-- `Decode` of a nil slice. -/
def decodeList [Inhabited α] (decodeItem : Decoder α) : Decoder (List α) := do
  let slice ← decodeSlice ampleMemory default (fun _ => decodeItem) ⟨[], []⟩
  pure slice.elems

/-- `Encode` of an array. -/
def encodeVector {count : Nat} (encodeItem : α → Written) (items : List.Vector α count) : Written := do
  let chunks ← items.toList.mapM encodeItem
  pure chunks.flatten

/-- `Decode` of an array of zero values. -/
def decodeVector {count : Nat} [Inhabited α] (decodeItem : Decoder α) : Decoder (List.Vector α count) :=
  mapVector (fun _ : α => decodeItem) (List.Vector.replicate count default)

/-- `DecodeOption` into a zero value. -/
def decodeOptional [Inhabited α] (decodeValue : Decoder α) : Decoder (Bool × α) :=
  decodeOption (fun _ => decodeValue) default

/-- The struct branch of `Encode`: the error of a field is reported as one of the struct. -/
def encodeStruct (fields : List Written) : Written :=
  writeAll (fields.map fun field => field.mapError .fieldByField)

/-- The struct branch of `DecodeIntoReflectValue`, one field. -/
def decodeField (field : Decoder α) : Decoder α := field.mapError .fieldByField

/-! ## What is restored -/

theorem restores_struct_nil (value : α) : Restores (encodeStruct []) (pure value) value :=
  restores_nil value

/-- The first field of a struct is restored, and then the others. -/
theorem restores_field {β : Type} {field : Written} {fields : List Written} {parser : Decoder α}
    {next : α → Decoder β} {value : α} {result : β} (first : Restores field parser value)
    (later : Restores (encodeStruct fields) (next value) result) :
    Restores (encodeStruct (field :: fields)) (decodeField parser >>= next) result :=
  Restores.cons (first.mapError GoError.fieldByField) later

/-- A struct with one field. -/
theorem restores_only_field {field : Written} {parser : Decoder α} {value : α}
    (only : Restores field parser value) : Restores (encodeStruct [field]) (decodeField parser) value := by
  have restored := restores_field only (restores_struct_nil value)
  rwa [bind_pure] at restored

theorem restores_text {text : Text} (short : text.length ≤ maxUint32) :
    Restores (encodeText text) decodeText text :=
  string_roundTrip short

theorem restores_bool (value : Bool) : Restores (encodeBool value) decodeBool value :=
  ⟨_, rfl, reads_bool false value⟩

theorem restores_u8 (number : UInt8) : Restores (encodeU8 number) decodeU8 number :=
  ⟨_, rfl, reads_num .u8 (0 : UInt8) number⟩

theorem restores_u32 (number : UInt32) : Restores (encodeU32 number) (decodeU32 0) number :=
  ⟨_, rfl, reads_num .u32 (0 : UInt32) number⟩

theorem restores_u64 (number : UInt64) : Restores (encodeU64 number) decodeU64 number :=
  ⟨_, rfl, reads_num .u64 (0 : UInt64) number⟩

theorem restores_bytes {bytes : List UInt8} (short : bytes.length ≤ maxUint32) :
    Restores (encodeBytes bytes) (decodeBytes []) bytes :=
  ⟨_, encodeBytes_eq short, reads_bytes short⟩

theorem restores_array {count : Nat} (bytes : List.Vector UInt8 count) :
    Restores (encodeArray bytes) (decodeArray (zeroBytes count)) bytes :=
  ⟨_, encodeArray_eq bytes, reads_array bytes⟩

theorem restores_uCompact {value : UCompact} (in_range : value.InRange) :
    Restores value.encode UCompact.decode value :=
  UCompact.encode_reads in_range

theorem restores_list [Inhabited α] {encodeItem : α → Written} {decodeItem : Decoder α} {items : List α}
    (short : items.length ≤ maxUint32)
    (each : ∀ item ∈ items, Restores (encodeItem item) decodeItem item) :
    Restores (encodeSlice encodeItem items) (decodeList decodeItem) items := by
  obtain ⟨bytes, written, reads⟩ := @slice_roundTrip α default encodeItem (fun _ => decodeItem) id items
    short each
  rw [List.map_id] at reads
  exact ⟨bytes, written, reads.bind_pure GoSlice.elems⟩

theorem restores_vector {count : Nat} [Inhabited α] {encodeItem : α → Written} {decodeItem : Decoder α}
    {items : List.Vector α count} (each : ∀ item ∈ items.toList, Restores (encodeItem item) decodeItem item) :
    Restores (encodeVector encodeItem items) (decodeVector decodeItem) items := by
  obtain ⟨chunks, written, reads⟩ := @array_roundTrip α default encodeItem (fun _ => decodeItem) id count
    items each
  rw [List.Vector.map_id] at reads
  refine ⟨chunks.flatten, ?_, reads⟩
  rw [encodeVector, written]
  rfl

/-- An option is restored if its value is restored where present and zero where absent. -/
theorem restores_option [Inhabited α] {hasValue : Bool} {value : α} {writer : Written}
    {decodeValue : Decoder α} (present : hasValue = true → Restores writer decodeValue value)
    (absent : hasValue = false → value = default) :
    Restores (encodeOption hasValue writer) (decodeOptional decodeValue) (hasValue, value) := by
  cases hasValue with
  | false =>
      obtain rfl := absent rfl
      exact ⟨[0], rfl, reads_decodeOption_none (fun _ => decodeValue) default⟩
  | true =>
      obtain ⟨bytes, written, reads⟩ := present rfl
      refine ⟨1 :: bytes, ?_, reads_decodeOption_some reads⟩
      rw [encodeOption, if_pos rfl, written]
      rfl

/-! ## Limits on lengths -/

section Lengths

variable (allowed : Nat → Prop)

/-- The length is allowed, and all items are good. -/
def AllFit (good : α → Prop) (items : List α) : Prop := allowed items.length ∧ ∀ item ∈ items, good item

/-- All texts have allowed lengths, and so has the list. -/
def TextsFit (texts : List Text) : Prop := AllFit allowed (fun text => allowed text.length) texts

/-- A present value is good, an absent one is zero. -/
def OptionFits [Inhabited α] (good : α → Prop) (hasValue : Bool) (value : α) : Prop :=
  (hasValue = true → good value) ∧ (hasValue = false → value = default)

variable {allowed} (short : ∀ length, allowed length → length ≤ maxUint32)

include short in
theorem AllFit.restores [Inhabited α] {good : α → Prop} {items : List α}
    (fit : AllFit allowed good items) {encodeItem : α → Written} {decodeItem : Decoder α}
    (each : ∀ item, good item → Restores (encodeItem item) decodeItem item) :
    Restores (encodeSlice encodeItem items) (decodeList decodeItem) items :=
  restores_list (short _ fit.1) fun item member => each item (fit.2 item member)

include short in
theorem TextsFit.restores {texts : List Text} (fit : TextsFit allowed texts) :
    Restores (encodeSlice encodeText texts) (decodeList decodeText) texts :=
  AllFit.restores short fit fun _ fits => restores_text (short _ fits)

end Lengths

theorem optionFits_absent [Inhabited α] {good : α → Prop} : OptionFits good false (default : α) :=
  ⟨nofun, fun _ => rfl⟩

theorem OptionFits.restores [Inhabited α] {good : α → Prop} {hasValue : Bool} {value : α}
    (fits : OptionFits good hasValue value) {writer : Written} {decodeValue : Decoder α}
    (present : good value → Restores writer decodeValue value) :
    Restores (encodeOption hasValue writer) (decodeOptional decodeValue) (hasValue, value) :=
  restores_option (fun has => present (fits.1 has)) fits.2

end SubstrateClient.Types
