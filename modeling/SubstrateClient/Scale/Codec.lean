import SubstrateClient.Scale.Compact
import SubstrateClient.Scale.GoType

/-!
# The reflective codec

`Encoder.Encode` and `Decoder.DecodeIntoReflectValue` over the types of `GoType`.  A decoding step
takes the current value of its target, because slices are resized in place and skipped fields keep
what they hold.
-/

namespace SubstrateClient.Scale

variable {types : MethodTypes} {α : Type}

/-- Largest length of a collection on the wire. -/
def maxUint32 : Nat := 2 ^ 32 - 1

/-- Largest value of a Go `int`. -/
def maxInt : Nat := 2 ^ 63 - 1

/-- The running program, as far as `make` notices it: how many elements of a type a new slice may have. -/
class Runtime (types : MethodTypes) where
  grants : GoType types → Nat → Bool

/-- The most interfaces of 16 bytes that 48 bits of address space hold, beyond which `make` always panics. -/
def maxSliceCap : Nat := 2 ^ 44

/-- Every slice is granted that the address space has room for. -/
def ampleMemory : Nat → Bool := fun count => decide (count ≤ maxSliceCap)

/-- The lengths the protocol allows are within ample memory. -/
theorem ampleMemory_of_le {count : Nat} (short : count ≤ maxUint32) : ampleMemory count = true :=
  decide_eq_true (short.trans (by decide))

/-- Unless something else is said, memory does not run out. -/
instance (priority := low) : Runtime types := ⟨fun _ => ampleMemory⟩

/-- `binary.Write` of a boolean. -/
def encodeBool (value : Bool) : Written :=
  .ok [if value then 1 else 0]

/-- The slice branch of `Encode`: the compact length, then every item. -/
def encodeSlice (encodeItem : α → Written) (items : List α) : Written :=
  if maxUint32 < items.length then
    .error (.text "Attempted to serialize a collection with too many elements.")
  else do
    let length ← encodeUintCompact items.length
    let chunks ← items.mapM encodeItem
    pure (length ++ chunks.flatten)

/-- `EncodeOption`. -/
def encodeOption (hasValue : Bool) (value : Written) : Written :=
  if hasValue then do
    let bytes ← value
    pure (1 :: bytes)
  else
    .ok [0]

/-- The `Encode` methods of the two `OptionBool` types. -/
def encodeOptionBool (hasValue value : Bool) : Written :=
  if !hasValue then .ok [0] else if value then .ok [1] else .ok [2]

/-- Pointers to these types implement `Encodeable` through the value's method. -/
def GoType.implementsEncodeable : GoType types → Bool
  | .option _ | .optionBool _ | .method _ => true
  | _ => false

mutual

/-- `Encoder.Encode`. -/
def GoType.encode : (type : GoType types) → type.Val → Written
  | .bool, value => encodeBool value
  | .num kind, value => .ok (LittleEndian.ofNat kind.size (kind.toBits value))
  | .word, _ => .error (.text "binary.Write: some values are not fixed-sized")
  | .string, value => encodeSlice (fun byte => .ok [byte]) (value : List UInt8)
  | .array _ item, value => do
      let chunks ← (List.Vector.toList value).mapM item.encode
      pure chunks.flatten
  | .slice item, value => encodeSlice item.encode (GoSlice.elems value)
  | .struct fields, value => fields.encode value
  | .ptr target, value =>
      match (value : Option target.Val) with
      | none =>
          -- The method set of a pointer includes the value's methods, so `Encode` is called
          -- through the nil pointer before the pointer branch can look at it.
          if target.implementsEncodeable then .panic
          else .error
            (.text "Encoding null pointers not supported; consider using Option type")
      | some inner => target.encode inner
  | .option payload, value => encodeOption value.1 (payload.encode value.2)
  | .optionBool _, value => encodeOptionBool value.1 value.2
  | .method name, value => types.encode name value
  | .unsupported, _ => .error (.text "Type cannot be encoded")

/-- The struct branch of `Encode`. -/
def GoFields.encode : (fields : GoFields types) → fields.Val → Written
  | .nil, _ => .ok []
  | .cons tag field later, value =>
      if tag.skip then
        later.encode value.2
      else if !tag.exported then
        .panic
      else do
        let bytes ← (field.encode value.1).mapError .fieldByField
        let others ← later.encode value.2
        pure (bytes ++ others)

end

/-- `binary.Read` of a value of the given size. -/
def binaryRead (size : Nat) : Decoder (List UInt8) := fun input =>
  if input = [] then
    .error (.text "expected more bytes, but could not decode any more")
  else if input.length < size then
    .error .unexpectedEOF
  else
    .ok (input.take size, input.drop size)

/-- `b, _ := ReadOneByte()`: at the end of the input the byte is zero. -/
def readOneByteOrZero : Decoder UInt8 := fun input =>
  match readOneByte input with
  | .ok result => .ok result
  | _ => .ok (0, input)

/-- `DecodeOption`, given how the value is decoded into its current contents. -/
def decodeOption (decodeValue : α → Decoder α) (value : α) : Decoder (Bool × α) := do
  let flag ← readOneByteOrZero
  if flag = 0 then
    pure (false, value)
  else if flag = 1 then
    let decoded ← decodeValue value
    pure (true, decoded)
  else
    ByteParser.fail (.text ("Unknown byte prefix for encoded OptionBool: " ++ toString flag.toNat))

/-- The text for a byte that neither `OptionBool.Decode` knows. -/
def OptionBoolPackage.unknownPrefix (package : OptionBoolPackage) (flag : UInt8) : String :=
  match package with
  | .scale => "Unknown byte prefix for encoded OptionBool: " ++ toString flag.toNat
  | .types => "unknown byte prefix for encoded OptionBool: " ++ toString flag.toNat

/-- The `Decode` methods of the two `OptionBool` types. -/
def decodeOptionBool (package : OptionBoolPackage) : Decoder (Bool × Bool) := do
  let flag ← readOneByteOrZero
  if flag = 0 then
    pure (false, false)
  else if flag = 1 then
    pure (true, true)
  else if flag = 2 then
    pure (true, false)
  else
    ByteParser.fail (.text (package.unknownPrefix flag))

/-- Decode the items of a slice whose length prefix has been read.  Memory is asked for only when the capacity
of the target does not suffice. -/
def decodeItems (grants : Nat → Bool) (zero : α) (decodeItem : α → Decoder α) (target : GoSlice α)
    (codedLen : Nat) : Decoder (GoSlice α) :=
  if maxUint32 < codedLen % 2 ^ 64 then
    ByteParser.fail (.text ("Encoded array length is higher than allowed by the protocol " ++
      "(32-bit unsigned integer)"))
  else if maxInt < codedLen % 2 ^ 64 then
    ByteParser.fail (.text "Encoded array length is higher than allowed by the platform")
  else if target.capacity < codedLen % 2 ^ 64 ∧ grants (codedLen % 2 ^ 64) = false then
    ByteParser.abort
  else do
    let resized := target.resize zero (codedLen % 2 ^ 64)
    let elems ← resized.elems.mapM decodeItem
    pure ⟨elems, resized.spare⟩

/-- The slice branch of `DecodeIntoReflectValue`.  The error of the length prefix is dropped, and
the nil length it comes with is dereferenced. -/
def decodeSlice (grants : Nat → Bool) (zero : α) (decodeItem : α → Decoder α) (target : GoSlice α) :
    Decoder (GoSlice α) := fun input =>
  match decodeUintCompact input with
  | .ok (codedLen, rest) => decodeItems grants zero decodeItem target codedLen rest
  | _ => .panic

/-- Decode one byte of a string. -/
def decodeByte (_ : UInt8) : Decoder UInt8 := do
  let bytes ← binaryRead 1
  pure (UInt8.ofNat (LittleEndian.toNat bytes))

section Decoding

variable [Runtime types]

mutual

/-- `Decoder.DecodeIntoReflectValue`, from the current value of the target to the new one. -/
def GoType.decode : (type : GoType types) → type.Val → Decoder type.Val
  | .bool, _ => do
      let bytes ← binaryRead 1
      pure (decide (LittleEndian.toNat bytes ≠ 0) : Bool)
  | .num kind, _ => do
      let bytes ← binaryRead kind.size
      pure (kind.ofBits (LittleEndian.toNat bytes))
  | .word, _ => ByteParser.fail (.text "binary.Read: invalid type")
  | .string, _ => do
      let bytes ← decodeSlice (Runtime.grants (.num .u8 : GoType types)) 0 decodeByte ⟨[], []⟩
      pure (bytes.elems : List UInt8)
  | .array _ item, target => ByteParser.mapVector item.decode target
  | .slice item, target => decodeSlice (Runtime.grants item) item.zero item.decode target
  | .struct fields, target => fields.decode target
  | .ptr element, target =>
      match (target : Option element.Val) with
      | none => ByteParser.abort
      | some inner => do
          let decoded ← element.decode inner
          pure (some decoded : Option element.Val)
  | .option payload, _ => decodeOption payload.decode payload.zero
  | .optionBool package, _ => decodeOptionBool package
  | .method name, target =>
      if types.kind name = .array then
        ByteParser.abort
      else
        types.decode name (types.holder name target)
  | .unsupported, _ => ByteParser.fail (.text "Type cannot be decoded")

/-- The struct branch of `DecodeIntoReflectValue`. -/
def GoFields.decode : (fields : GoFields types) → fields.Val → Decoder fields.Val
  | .nil, _ => pure ()
  | .cons tag field later, target =>
      if tag.skip then do
        let others ← later.decode target.2
        pure (target.1, others)
      else if !tag.exported then
        ByteParser.fail (.fieldByField (.text "Unsettable value"))
      else do
        let decoded ← (field.decode target.1).mapError .fieldByField
        let others ← later.decode target.2
        pure (decoded, others)

end

end Decoding

/-- A struct is encoded exactly when its first field is and the others are. -/
theorem GoFields.encode_plain_eq_ok {field : GoType types} {later : GoFields types}
    {value : field.Val × later.Val} {written : List UInt8} :
    (GoFields.cons .plain field later).encode value = .ok written ↔
      ∃ first others, field.encode value.1 = .ok first ∧ later.encode value.2 = .ok others ∧
        written = first ++ others := by
  constructor
  · intro encoded
    obtain ⟨first, first_eq, encoded⟩ := Outcome.bind_eq_ok.mp encoded
    obtain ⟨others, others_eq, returned⟩ := Outcome.bind_eq_ok.mp encoded
    cases returned
    exact ⟨first, others, Outcome.mapError_eq_ok.mp first_eq, others_eq, rfl⟩
  · rintro ⟨first, others, first_eq, others_eq, rfl⟩
    exact Outcome.bind_eq_ok.mpr ⟨first, Outcome.mapError_eq_ok.mpr first_eq,
      Outcome.bind_eq_ok.mpr ⟨others, others_eq, rfl⟩⟩

/-- A struct is decoded exactly when its first field is, and the others from what it leaves. -/
theorem GoFields.decode_plain_eq_ok [Runtime types] {field : GoType types} {later : GoFields types}
    {target result : field.Val × later.Val} {input rest : List UInt8} :
    (GoFields.cons .plain field later).decode target input = .ok (result, rest) ↔
      ∃ middle, field.decode target.1 input = .ok (result.1, middle) ∧
        later.decode target.2 middle = .ok (result.2, rest) := by
  constructor
  · intro success
    obtain ⟨decoded, middle, parsed, continued⟩ := ByteParser.bind_eq_ok.mp success
    obtain ⟨others, after, parsed_later, returned⟩ := ByteParser.bind_eq_ok.mp continued
    cases returned
    exact ⟨middle, Outcome.mapError_eq_ok.mp parsed, parsed_later⟩
  · rintro ⟨middle, parsed, parsed_later⟩
    exact ByteParser.bind_eq_ok.mpr ⟨result.1, middle, Outcome.mapError_eq_ok.mpr parsed,
      ByteParser.bind_eq_ok.mpr ⟨result.2, rest, parsed_later, rfl⟩⟩

end SubstrateClient.Scale
