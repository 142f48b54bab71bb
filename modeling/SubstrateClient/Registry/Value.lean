import SubstrateClient.Scale.Codec
import SubstrateClient.Types.BigInt
import SubstrateClient.Types.BitVec

/-!
# Decoded values

The values that field decoders return and what the reflective encoder writes for them.
-/

namespace SubstrateClient.Registry

open ByteParser Scale SubstrateClient.Types

/-- Integers with more than 64 bits. -/
inductive BigKind where
  | u128 | u256 | i128 | i256
  deriving DecidableEq, Repr

namespace BigKind

/-- Size in bytes. -/
def size : BigKind → Nat
  | u128 | i128 => 16
  | u256 | i256 => 32

/-- The kind has negative numbers. -/
def signed : BigKind → Bool
  | u128 | u256 => false
  | i128 | i256 => true

/-- `UintBytesToBigInt` and `IntBytesToBigInt`: the number with a given bit pattern. -/
def ofBits (kind : BigKind) (bits : Nat) : Int :=
  if kind.signed ∧ 2 ^ (8 * kind.size - 1) ≤ bits then (bits : Int) - 2 ^ (8 * kind.size) else bits

/-- `Decode` of the big integers. -/
def decode (kind : BigKind) : Decoder Int := do
  let bytes ← read kind.size
  pure (kind.ofBits (LittleEndian.toNat bytes))

/-- `BigIntToUintBytes` and `BigIntToIntBytes`, little-endian.  A number one above the unsigned
range passes the check and does not fit into the buffer. -/
def encode (kind : BigKind) (value : Int) : Written :=
  let bits := 8 * kind.size
  if kind.signed then
    if (2 : Int) ^ (bits - 1) - 1 < value then
      .error (.text ("cannot encode big.Int to []byte: given big.Int exceeds highest positive number " ++
        toString ((2 : Int) ^ (bits - 1) - 1) ++ " for an int with " ++ toString bits ++ " bits"))
    else if value < -(2 : Int) ^ (bits - 1) then
      .error (.text ("cannot encode big.Int to []byte: given big.Int exceeds highest negative number -" ++
        toString ((2 : Int) ^ (bits - 1)) ++ " for an int with " ++ toString bits ++ " bits"))
    else
      .ok (LittleEndian.ofNat kind.size (value % 2 ^ bits).toNat)
  else if value < 0 then
    .error (.text "cannot encode a negative big.Int into an unsigned integer")
  else if (2 : Int) ^ bits < value then
    .error (.text ("cannot encode big.Int to []byte: given big.Int exceeds highest number " ++
      toString ((2 : Int) ^ bits) ++ " for an uint with " ++ toString bits ++ " bits"))
  else if value = (2 : Int) ^ bits then
    .panic
  else
    .ok (LittleEndian.ofNat kind.size value.toNat)

/-- A bit pattern of the right size is written back. -/
theorem encode_ofBits (kind : BigKind) {bits : Nat} (bits_lt : bits < 256 ^ kind.size) :
    kind.encode (kind.ofBits bits) = .ok (LittleEndian.ofNat kind.size bits) := by
  cases kind with
  | u128 | u256 =>
      simp only [size] at bits_lt
      simp only [encode, ofBits, signed, size, Bool.false_eq_true, false_and, if_false]
      rw [if_neg (by omega), if_neg (by omega), if_neg (by omega), Int.toNat_natCast]
  | i128 | i256 =>
      simp only [size] at bits_lt
      simp only [encode, ofBits, signed, size, true_and, if_true]
      split_ifs
      all_goals first | omega | (congr 2; omega)

theorem size_pos (kind : BigKind) : 1 ≤ kind.size := by
  cases kind <;> decide

/-- A byte string that stands for a number, in the order the stream has it. -/
theorem reverse_eq_ofNat {bytes : List UInt8} {width number : Nat} (length : bytes.length = width)
    (value : BigEndian.toNat bytes = number) : bytes.reverse = LittleEndian.ofNat width number := by
  rw [← length, ← value, ← List.length_reverse]
  exact (LittleEndian.ofNat_toNat bytes.reverse).symm

/-- The conversion in numbers is the one the source makes byte by byte. -/
theorem encode_eq_bigInt (kind : BigKind) (value : Int) :
    kind.encode value =
      (if kind.signed then encodeBigInt kind.size (some value)
        else encodeBigUint kind.size (some value)) := by
  have half := two_mul_two_pow_bits kind.size_pos
  have bits := two_pow_bits kind.size
  have positive : (0 : Int) < 2 ^ (kind.size * 8) := by positivity
  rw [encode, mul_comm 8 kind.size]
  by_cases signed : kind.signed
  · simp only [signed, if_true, encodeBigInt]
    by_cases large : (2 : Int) ^ (kind.size * 8 - 1) - 1 < value
    · rw [if_pos large, bigIntToIntBytes, if_pos (by omega), if_pos (by omega)]
      rfl
    by_cases small : value < -(2 : Int) ^ (kind.size * 8 - 1)
    · rw [if_neg large, if_pos small, bigIntToIntBytes, if_neg (by omega), if_pos (by omega)]
      rfl
    obtain ⟨bytes, written, width, number⟩ :=
      bigIntToIntBytes_of_fits kind.size_pos (not_lt.mp small) (by omega)
    have residue := BigEndian.signed_emod bytes
    rw [number, width, ← bits] at residue
    rw [if_neg large, if_neg small, written]
    exact congrArg Outcome.ok (reverse_eq_ofNat width (by omega)).symm
  · simp only [signed, Bool.false_eq_true, if_false, encodeBigUint, Option.getD_some]
    by_cases negative : value < 0
    · rw [if_pos negative, bigIntToUintBytes, if_pos negative]
      rfl
    by_cases large : (2 : Int) ^ (kind.size * 8) < value
    · rw [if_neg negative, if_pos large, bigIntToUintBytes, if_neg negative, if_pos (by omega)]
      rfl
    by_cases bound : value = (2 : Int) ^ (kind.size * 8)
    · rw [if_neg negative, if_neg large, if_pos bound, bound, bigIntToUintBytes_bound]
      rfl
    obtain ⟨bytes, written, width, number⟩ :=
      bigIntToUintBytes_of_fits (not_lt.mp negative) (lt_of_le_of_ne (not_lt.mp large) bound)
    rw [if_neg negative, if_neg large, if_neg bound, written]
    exact congrArg Outcome.ok (reverse_eq_ofNat width (by omega)).symm

/-- The number of a bit pattern is the two's complement number of its bytes. -/
theorem ofBits_toNat (kind : BigKind) {bytes : List UInt8} (width : bytes.length = kind.size) :
    kind.ofBits (LittleEndian.toNat bytes) =
      (if kind.signed then BigEndian.signed bytes.reverse else BigEndian.toNat bytes.reverse) := by
  have half := two_mul_two_pow_bits kind.size_pos
  have bits := two_pow_bits kind.size
  have cast : ((256 ^ kind.size : Nat) : Int) = 256 ^ kind.size := by push_cast; rfl
  have halved : ((2 ^ (kind.size * 8 - 1) : Nat) : Int) = 2 ^ (kind.size * 8 - 1) := by
    push_cast
    rfl
  have number : BigEndian.toNat bytes.reverse = LittleEndian.toNat bytes := by
    rw [BigEndian.toNat, List.reverse_reverse]
  rw [ofBits, mul_comm 8 kind.size, BigEndian.signed, number, List.length_reverse, width]
  by_cases signed : kind.signed
  · by_cases upper : 2 ^ (kind.size * 8 - 1) ≤ LittleEndian.toNat bytes
    · rw [if_pos ⟨signed, upper⟩, if_pos signed, if_neg (by omega), bits]
    · rw [if_neg (fun both => upper both.2), if_pos signed, if_pos (by omega)]
  · rw [if_neg (fun both => signed both.1), if_neg signed]

/-- Decoding in numbers is the one the source makes byte by byte. -/
theorem decode_eq_bigInt (kind : BigKind) :
    (some <$> kind.decode) =
      (if kind.signed then decodeBigInt kind.size else decodeBigUint kind.size) := by
  rw [decodeBigInt_eq kind.size_pos, decodeBigUint_eq kind.size_pos]
  funext input
  rw [map_apply, decode, bind_apply]
  by_cases short : input.length < kind.size
  · obtain ⟨reason, failed⟩ := read_of_lt short
    split_ifs
    · simp [failed]
    · simp [failed]
  · have width : (input.take kind.size).length = kind.size := by
      rw [List.length_take]
      omega
    have number := kind.ofBits_toNat width
    split_ifs at number ⊢
    · simp [read_of_le kind.size_pos (not_lt.mp short), number]
    · simp [read_of_le kind.size_pos (not_lt.mp short), number]

end BigKind

/-- The values of the type arguments of `ValueDecoder`. -/
inductive Scalar where
  | bool (value : Bool)
  | byte (value : UInt8)
  | string (bytes : List UInt8)
  | num (kind : NumKind) (value : kind.Val)
  | big (kind : BigKind) (value : Int)
  | uCompact (value : UCompact)

/-- `Encoder.Encode` of a scalar. -/
def Scalar.encode : Scalar → Written
  | .bool value => (GoType.bool : GoType .none).encode value
  | .byte value => (GoType.num .u8 : GoType .none).encode value
  | .string bytes => (GoType.string : GoType .none).encode bytes
  | .num kind value => (GoType.num kind : GoType .none).encode value
  | .big kind value => kind.encode value
  | .uCompact value => value.encode

/-- The type arguments of `ValueDecoder`. -/
inductive ValueKind where
  | bool
  | byte
  | string
  | num (kind : NumKind)
  | big (kind : BigKind)
  | uCompact
  /-- The empty interface, which the decoder refuses. -/
  | any
  deriving DecidableEq, Repr

/-- `Decoder.Decode` into a zero value of the type argument. -/
def ValueKind.decode [Runtime .none] : ValueKind → Decoder Scalar
  | .bool => do
      let value ← (GoType.bool : GoType .none).decode false
      pure (.bool value)
  | .byte => do
      let value ← (GoType.num .u8 : GoType .none).decode (0 : UInt8)
      pure (.byte value)
  | .string => do
      let bytes ← (GoType.string : GoType .none).decode ([] : List UInt8)
      pure (.string bytes)
  | .num kind => do
      let value ← (GoType.num kind : GoType .none).decode (kind.ofBits 0)
      pure (.num kind value)
  | .big kind => do
      let value ← kind.decode
      pure (.big kind value)
  | .uCompact => do
      let value ← UCompact.decode
      pure (.uCompact value)
  | .any => ByteParser.fail (.text "Type interface cannot be decoded")

/-- `DecodedField`. -/
structure DecodedField (ν : Type) where
  name : String
  value : ν
  lookupIndex : Int64

/-- What a field decoder returns. -/
inductive Value where
  /-- The nil interface. -/
  | nil
  | scalar (value : Scalar)
  /-- A `[]any`. -/
  | slice (items : List Value)
  /-- A value of type `DecodedFields`. -/
  | fields (fields : List (DecodedField Value))
  /-- A `map[string]string` with one entry. -/
  | bits (key digits : String)
  /-- A value of a type outside the registry, known by what `Encode` writes for it. -/
  | foreign (written : Written)

/-- `DecodedFields`. -/
abbrev DecodedFields : Type := List (DecodedField Value)

/-- The value is the nil interface. -/
def Value.isNil : Value → Bool
  | .nil => true
  | _ => false

/-- The slice branch of `Encode`, given what the items write. -/
def encodeCounted (count : Nat) (payload : Written) : Written :=
  if maxUint32 < count then
    .error (.text "Attempted to serialize a collection with too many elements.")
  else do
    let length ← encodeUintCompact count
    let bytes ← payload
    pure (length ++ bytes)

mutual

/-- `Encoder.Encode` of a decoded value.  Reflection on the nil interface panics. -/
def Value.encode : Value → Written
  | .nil => .panic
  | .scalar value => value.encode
  | .slice items => encodeCounted items.length (encodeItems items)
  | .fields fields => encodeCounted fields.length (encodeFields fields)
  | .bits _ _ => .error (.text "Type map cannot be encoded")
  | .foreign written => written

/-- The items of a `[]any`, one after another. -/
def encodeItems : List Value → Written
  | [] => .ok []
  | item :: items => do
      let bytes ← item.encode
      let later ← encodeItems items
      pure (bytes ++ later)

/-- Fields one after another; a nil value writes nothing. -/
def encodeFields : List (DecodedField Value) → Written
  | [] => .ok []
  | ⟨_, value, _⟩ :: fields => do
      let bytes ← (if value.isNil then .ok [] else value.encode : Written)
      let later ← encodeFields fields
      pure (bytes ++ later)

end

/-- `DecodedField.Encode`. -/
def DecodedField.encode (field : DecodedField Value) : Written :=
  if field.value.isNil then .ok [] else field.value.encode

/-- Fields are written one by one. -/
theorem encodeFields_cons (field : DecodedField Value) (fields : DecodedFields) :
    encodeFields (field :: fields) = (do
      let bytes ← field.encode
      let later ← encodeFields fields
      pure (bytes ++ later)) := rfl

end SubstrateClient.Registry
