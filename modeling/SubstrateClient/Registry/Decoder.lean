import SubstrateClient.FuelledParsers
import SubstrateClient.Registry.Value

/-!
# Field decoders

The decoders that the factory builds.  Recursive decoders are shared objects whose inner decoder is
set after they were handed out, so they are references into a list of cells; the other decoders never
change after they were built and are plain trees.
-/

namespace SubstrateClient.Registry

open ByteParser Scale SubstrateClient.Types

/-! ## Errors of decoding -/

def errVariantByteDecoding : GoError := .declared "variant byte decoding"
def errVariantFieldDecoderNotFound : GoError := .declared "variant field decoder not found"
def errArrayItemDecoderNotFound : GoError := .declared "array item decoder not found"
def errArrayItemDecoding : GoError := .declared "array item decoding"
def errSliceItemDecoderNotFound : GoError := .declared "slice item decoder not found"
def errSliceLengthDecoding : GoError := .declared "slice length decoding"
def errSliceItemDecoding : GoError := .declared "slice item decoding"
def errCompositeFieldDecoding : GoError := .declared "composite field decoding"
def errValueDecoding : GoError := .declared "value decoding"
def errRecursiveFieldDecoderNotFound : GoError := .declared "recursive field decoder not found"
def errBitVecDecoding : GoError := .declared "bit vec decoding"
def errNilFieldDecoder : GoError := .declared "nil field decoder"
def errTypeFieldDecoding : GoError := .declared "type field decoding"

/-! ## The decoders -/

/-- `Field`, over the type of its decoder. -/
structure Field (δ : Type) where
  name : String
  decoder : δ
  lookupIndex : Int64

/-- The implementations of the interface `FieldDecoder`. -/
inductive FieldDecoder where
  /-- The nil interface. -/
  | nil
  /-- `NoopDecoder`. -/
  | noop
  /-- `VariantDecoder`; of two entries with one key the first is in the map. -/
  | variant (fieldDecoderMap : List (UInt8 × FieldDecoder))
  /-- `ArrayDecoder`. -/
  | array (length : Nat) (itemDecoder : FieldDecoder)
  /-- `SliceDecoder`. -/
  | slice (itemDecoder : FieldDecoder)
  /-- `CompositeDecoder`. -/
  | composite (fieldName : String) (fields : List (Field FieldDecoder))
  /-- `ValueDecoder`. -/
  | value (kind : ValueKind)
  /-- `RecursiveDecoder`, as a reference to the cell of its inner decoder. -/
  | recursive (cell : Nat)
  /-- `BitSequenceDecoder`. -/
  | bitSequence (fieldName : String) (bitOrder : BitOrder)
  /-- An implementation outside the registry, or a `ValueDecoder` of a type the factory never uses. -/
  | custom (decode : ByteParser String Value)

/-- The inner decoders of the recursive decoders; nil until it is set. -/
abbrev Cells : Type := List FieldDecoder

namespace FieldDecoder

/-- The decoder is the nil interface. -/
def isNil : FieldDecoder → Bool
  | nil => true
  | _ => false

/-- The type assertion to `*NoopDecoder`. -/
def isNoop : FieldDecoder → Bool
  | noop => true
  | _ => false

/-- The type assertion to `*RecursiveDecoder`. -/
def isRecursive : FieldDecoder → Bool
  | recursive _ => true
  | _ => false

section Decoding

variable [Runtime .none]

/-- The runtime has memory for `make([]any, 0, count)`. -/
def grantsCapacity (count : Nat) : Bool := Runtime.grants (.unsupported : GoType .none) count

/-- A `[]any` of the given capacity, filled by as many calls of the item decoder. -/
def decodeItems (item : Decoder Value) (count : Nat) : Decoder Value :=
  if grantsCapacity count = false then
    abort
  else do
    let items ← times item count
    pure (.slice items)

/-- The loop of `CompositeDecoder.Decode`, given how a field's value is decoded. -/
def decodeFields (decodeValue : FieldDecoder → Decoder Value) (fields : List (Field FieldDecoder)) :
    Decoder DecodedFields :=
  fields.mapM fun field => do
    let value ← decodeValue field.decoder
    pure ⟨field.name, value, field.lookupIndex⟩

/-- `VariantDecoder.Decode`, given how the decoder of the selected variant runs. -/
def decodeVariant (decodeValue : FieldDecoder → Decoder Value)
    (fieldDecoderMap : List (UInt8 × FieldDecoder)) : Decoder Value := do
  let variantByte ← readOneByte.mapError (.wrap errVariantByteDecoding)
  match fieldDecoderMap.lookup variantByte with
  | none =>
      fail (.withMsg errVariantFieldDecoderNotFound
        ("variant '" ++ toString variantByte.toNat ++ "'"))
  | some variantDecoder =>
      if variantDecoder.isNoop then
        pure (.scalar (.byte variantByte))
      else
        decodeValue variantDecoder

/-- `SliceDecoder.Decode` of a non-nil item decoder: the length is cut to 64 bits. -/
def decodeSlice (item : Decoder Value) : Decoder Value := do
  let sliceLen ← decodeUintCompact.mapError (.wrap errSliceLengthDecoding)
  decodeItems (item.mapError (.wrap errSliceItemDecoding)) (sliceLen % 2 ^ 64)

/-- `ValueDecoder.Decode`. -/
def decodeValueKind (kind : ValueKind) : Decoder Value := do
  let value ← kind.decode.mapError (.wrap errValueDecoding)
  pure (.scalar value)

/-- `BitSequenceDecoder.Decode`. -/
def decodeBitSequence (fieldName : String) (bitOrder : BitOrder) : Decoder Value := do
  let byteSlice ← (BitVec.decode bitOrder).mapError (.wrap errBitVecDecoding)
  pure (.bits fieldName (BitVec.string byteSlice))

/-- `FieldDecoder.Decode`.  Recursive decoders may form a cycle, so the depth is bounded by fuel. -/
def decode (cells : Cells) : Nat → FieldDecoder → Decoder Value
  | 0, _ => exhaust
  | fuel + 1, decoder =>
      match decoder with
      | nil => abort
      | noop => pure .nil
      | variant fieldDecoderMap => decodeVariant (decode cells fuel) fieldDecoderMap
      | array length itemDecoder =>
          if itemDecoder.isNil then
            fail errArrayItemDecoderNotFound
          else
            decodeItems ((decode cells fuel itemDecoder).mapError (.wrap errArrayItemDecoding)) length
      | slice itemDecoder =>
          if itemDecoder.isNil then
            fail errSliceItemDecoderNotFound
          else
            decodeSlice (decode cells fuel itemDecoder)
      | composite _ fields => do
          let decodedFields ← decodeFields
            (fun inner => (decode cells fuel inner).mapError (.wrap errCompositeFieldDecoding)) fields
          pure (.fields decodedFields)
      | value kind => decodeValueKind kind
      | recursive cell =>
          match cells[cell]? with
          | none | some nil => fail errRecursiveFieldDecoderNotFound
          | some inner => decode cells fuel inner
      | bitSequence fieldName bitOrder => decodeBitSequence fieldName bitOrder
      | custom run => run.mapError .text

variable (cells : Cells) (fuel : Nat)

theorem decode_array (length : Nat) (item : FieldDecoder) :
    decode cells (fuel + 1) (array length item) =
      if item.isNil then fail errArrayItemDecoderNotFound
      else decodeItems ((decode cells fuel item).mapError (.wrap errArrayItemDecoding)) length := rfl

theorem decode_slice (item : FieldDecoder) :
    decode cells (fuel + 1) (slice item) =
      if item.isNil then fail errSliceItemDecoderNotFound
      else decodeSlice (decode cells fuel item) := rfl

/-- A completed recursive decoder behaves like its inner decoder. -/
theorem decode_recursive {cells : Cells} {cell : Nat} {inner : FieldDecoder}
    (set : cells[cell]? = some inner) (present : inner.isNil = false) :
    decode cells (fuel + 1) (recursive cell) = decode cells fuel inner := by
  simp only [decode, set]
  cases inner with
  | nil => cases present
  | _ => rfl

theorem settles_decodeItems {item richer : Decoder Value} (settles : Settles item richer)
    (count : Nat) : Settles (decodeItems item count) (decodeItems richer count) := by
  unfold decodeItems
  split_ifs
  · exact settles_refl _
  · exact (settles.times count).bind fun _ => settles_refl _

/-- More fuel changes no finished run. -/
theorem settles_decode (decoder : FieldDecoder) :
    Settles (decode cells fuel decoder) (decode cells (fuel + 1) decoder) := by
  induction fuel generalizing decoder with
  | zero => exact settles_exhaust _
  | succ fuel ih =>
      cases decoder with
      | variant fieldDecoderMap =>
          refine (settles_refl _).bind fun variantByte => ?_
          split
          · exact settles_refl _
          · split_ifs
            · exact settles_refl _
            · exact ih _
      | array length item =>
          rw [decode_array, decode_array]
          split_ifs
          · exact settles_refl _
          · exact settles_decodeItems ((ih item).mapError _) length
      | slice item =>
          rw [decode_slice, decode_slice]
          split_ifs
          · exact settles_refl _
          · exact (settles_refl _).bind fun _ => settles_decodeItems ((ih item).mapError _) _
      | composite name fields =>
          refine Settles.bind (settles_mapM (fun field => ?_) fields) fun _ => settles_refl _
          exact ((ih field.decoder).mapError _).bind fun _ => settles_refl _
      | recursive cell =>
          rw [decode, decode]
          split
          · exact settles_refl _
          · exact settles_refl _
          · exact ih _
      | _ => exact settles_refl _

theorem settling_decode (decoder : FieldDecoder) : Settling fun fuel => decode cells fuel decoder :=
  fun fuel => settles_decode cells fuel decoder

end Decoding

/-- With ample memory, capacities are limited by the address space only. -/
theorem grantsCapacity_eq_true {count : Nat} : grantsCapacity count = true ↔ count ≤ maxSliceCap :=
  decide_eq_true_iff

theorem grantsCapacity_eq_false {count : Nat} : grantsCapacity count = false ↔ maxSliceCap < count := by
  rw [← Bool.not_eq_true, grantsCapacity_eq_true, not_le]

end FieldDecoder

variable [Runtime .none]

/-- `Field.Decode`. -/
def Field.decode (cells : Cells) (fuel : Nat) (decoder : FieldDecoder) : Decoder Value :=
  if decoder.isNil then
    fail errNilFieldDecoder
  else
    decoder.decode cells fuel

/-- `TypeDecoder`. -/
structure TypeDecoder where
  name : String
  fields : List (Field FieldDecoder)

/-- `TypeDecoder.Decode`. -/
def TypeDecoder.decode (cells : Cells) (fuel : Nat) (typeDecoder : TypeDecoder) :
    Decoder DecodedFields :=
  FieldDecoder.decodeFields
    (fun inner => (Field.decode cells fuel inner).mapError (.wrap errTypeFieldDecoding))
    typeDecoder.fields

theorem TypeDecoder.settling_decode (cells : Cells) (typeDecoder : TypeDecoder) :
    Settling fun fuel => typeDecoder.decode cells fuel := by
  refine settling_mapM (fun field => ?_) typeDecoder.fields
  refine Settling.bind (Settling.mapError ?_ _) fun _ => settling_const _
  unfold Field.decode
  split_ifs
  · exact settling_const _
  · exact FieldDecoder.settling_decode cells field.decoder

end SubstrateClient.Registry
