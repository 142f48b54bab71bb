import SubstrateClient.Scale.RoundTrip

/-!
# Parts of an extrinsic

Addresses, signatures, eras and calls are tagged unions or byte strings with their own `Encode` and
`Decode` methods.  A `Decode` method starts from the receiver and leaves the fields it does not set
as they are.
-/

namespace SubstrateClient.Types

open ByteParser Scale

/-! ## Byte arrays and byte slices -/

/-- `[count]byte`. -/
def byteArray (count : Nat) : GoType .none := .array count (.num .u8)

/-- `[]byte`. -/
def byteSlice : GoType .none := .slice (.num .u8)

/-- The zero value of `[count]byte`. -/
def zeroBytes (count : Nat) : List.Vector UInt8 count := List.Vector.replicate count 0

/-- `Encode` of a byte array. -/
def encodeArray {count : Nat} (bytes : List.Vector UInt8 count) : Written :=
  (byteArray count).encode bytes

/-- `Decode` into a byte array. -/
def decodeArray {count : Nat} (target : List.Vector UInt8 count) :
    Decoder (List.Vector UInt8 count) :=
  (byteArray count).decode target

/-- `Encode` of a byte slice. -/
def encodeBytes (bytes : List UInt8) : Written :=
  byteSlice.encode (⟨bytes, []⟩ : GoSlice UInt8)

/-- `Decode` into a byte slice. -/
def decodeBytes (target : List UInt8) : Decoder (List UInt8) := do
  let slice ← byteSlice.decode (⟨target, []⟩ : GoSlice UInt8)
  pure (GoSlice.elems slice)

/-- `Encode` of an unsigned 32-bit number. -/
def encodeU32 (number : UInt32) : Written := (GoType.num .u32 : GoType .none).encode number

/-- `Decode` into an unsigned 32-bit number. -/
def decodeU32 (target : UInt32) : Decoder UInt32 := (GoType.num .u32 : GoType .none).decode target

private theorem ofNat_byte (byte : UInt8) :
    LittleEndian.ofNat (NumKind.size .u8) (NumKind.toBits .u8 byte) = [byte] := by
  have bytes := LittleEndian.ofNat_toNat [byte]
  simp only [LittleEndian.toNat, mul_zero, add_zero, List.length_singleton] at bytes
  exact bytes

/-- A byte is written as it is. -/
theorem encode_u8 {types : MethodTypes} (byte : UInt8) :
    (GoType.num .u8 : GoType types).encode byte = .ok [byte] :=
  congrArg Outcome.ok (ofNat_byte byte)

theorem reads_u8 {types : MethodTypes} (target byte : UInt8) :
    Reads ((GoType.num .u8 : GoType types).decode target) [byte] byte := by
  exact ofNat_byte byte ▸ reads_num .u8 target byte

private theorem byte_roundTrip (byte : UInt8) :
    ∃ written, (.ok [byte] : Written) = .ok written ∧
      Reads ((GoType.num .u8 : GoType .none).decode (0 : UInt8)) written byte :=
  ⟨[byte], rfl, reads_u8 0 byte⟩

/-- Bytes are written one by one as they are. -/
private theorem mapM_byte (bytes : List UInt8) :
    (bytes.mapM fun byte => (.ok [byte] : Written)) = .ok (bytes.map fun byte => [byte]) :=
  List.mapM_pure

private theorem flatten_map_byte (bytes : List UInt8) :
    (bytes.map fun byte => [byte]).flatten = bytes := by
  induction bytes with
  | nil => rfl
  | cons byte bytes ih => rw [List.map_cons, List.flatten_cons, ih, List.singleton_append]

/-- A byte array is written as it is. -/
theorem encodeArray_eq {count : Nat} (bytes : List.Vector UInt8 count) :
    encodeArray bytes = .ok bytes.toList := by
  have items : bytes.toList.mapM (GoType.num .u8 : GoType .none).encode =
      .ok (bytes.toList.map fun byte => [byte]) :=
    (congrArg bytes.toList.mapM (funext encode_u8)).trans (mapM_byte bytes.toList)
  exact Outcome.bind_eq_ok.mpr ⟨_, items, congrArg Outcome.ok (flatten_map_byte bytes.toList)⟩

theorem reads_array {count : Nat} (bytes : List.Vector UInt8 count) :
    Reads (decodeArray (zeroBytes count)) bytes.toList bytes := by
  obtain ⟨chunks, encoded, reads⟩ := array_roundTrip_self bytes byte_roundTrip
  rw [mapM_byte] at encoded
  cases encoded
  exact flatten_map_byte bytes.toList ▸ reads

private theorem encodeSlice_byte {bytes : List UInt8} (short : bytes.length ≤ maxUint32) :
    encodeSlice (fun byte => .ok [byte]) bytes = .ok (compactBytes bytes.length ++ bytes) := by
  have length_lt : bytes.length < 2 ^ 536 := lt_compact_bound (by unfold maxUint32 at short; omega)
  rw [encodeSlice, if_neg (not_lt.mpr short), encodeUintCompact_eq length_lt, mapM_byte]
  simp [flatten_map_byte]

/-- A byte slice is written behind its length. -/
theorem encodeBytes_eq {bytes : List UInt8} (short : bytes.length ≤ maxUint32) :
    encodeBytes bytes = .ok (compactBytes bytes.length ++ bytes) :=
  (congrArg (fun encodeItem : UInt8 → Written => encodeSlice encodeItem bytes)
    (funext encode_u8)).trans (encodeSlice_byte short)

theorem reads_bytes {bytes : List UInt8} (short : bytes.length ≤ maxUint32) :
    Reads (decodeBytes []) (compactBytes bytes.length ++ bytes) bytes := by
  obtain ⟨written, encoded, reads⟩ := slice_roundTrip_self short byte_roundTrip
  rw [encodeSlice_byte short] at encoded
  cases encoded
  exact reads.bind_pure GoSlice.elems

theorem encodeU32_eq (number : UInt32) :
    encodeU32 number = .ok (LittleEndian.ofNat 4 number.toNat) := rfl

theorem reads_u32 (target number : UInt32) :
    Reads (decodeU32 target) (LittleEndian.ofNat 4 number.toNat) number :=
  reads_num .u32 target number

/-! ## `MultiAddress` -/

/-- `types.MultiAddress`. -/
structure MultiAddress where
  isID : Bool
  asID : List.Vector UInt8 32
  isIndex : Bool
  asIndex : UInt32
  isRaw : Bool
  asRaw : List UInt8
  isAddress32 : Bool
  asAddress32 : List.Vector UInt8 32
  isAddress20 : Bool
  asAddress20 : List.Vector UInt8 20
  deriving DecidableEq

namespace MultiAddress

/-- The zero value. -/
def zero : MultiAddress :=
  ⟨false, zeroBytes 32, false, 0, false, [], false, zeroBytes 32, false, zeroBytes 20⟩

/-- `MultiAddress.Encode`. -/
def encode (address : MultiAddress) : Written :=
  if address.isID then do
    let bytes ← encodeArray address.asID
    pure (0 :: bytes)
  else if address.isIndex then do
    let bytes ← encodeU32 address.asIndex
    pure (1 :: bytes)
  else if address.isRaw then do
    let bytes ← encodeBytes address.asRaw
    pure (2 :: bytes)
  else if address.isAddress32 then do
    let bytes ← encodeArray address.asAddress32
    pure (3 :: bytes)
  else if address.isAddress20 then do
    let bytes ← encodeArray address.asAddress20
    pure (4 :: bytes)
  else
    .ok []

/-- `MultiAddress.Decode`.  An unknown tag leaves the receiver as it is. -/
def decode (target : MultiAddress) : Decoder MultiAddress := do
  let tag ← readOneByte
  if tag = 0 then
    let bytes ← decodeArray target.asID
    pure { target with isID := true, asID := bytes }
  else if tag = 1 then
    let index ← decodeU32 target.asIndex
    pure { target with isIndex := true, asIndex := index }
  else if tag = 2 then
    let bytes ← decodeBytes target.asRaw
    pure { target with isRaw := true, asRaw := bytes }
  else if tag = 3 then
    let bytes ← decodeArray target.asAddress32
    pure { target with isAddress32 := true, asAddress32 := bytes }
  else if tag = 4 then
    let bytes ← decodeArray target.asAddress20
    pure { target with isAddress20 := true, asAddress20 := bytes }
  else
    pure target

/-- Exactly one flag is set and the payloads of the others are zero. -/
structure WellFormed (address : MultiAddress) : Prop where
  one_flag : [address.isID, address.isIndex, address.isRaw, address.isAddress32,
    address.isAddress20].count true = 1
  id_zero : address.isID = false → address.asID = zeroBytes 32
  index_zero : address.isIndex = false → address.asIndex = 0
  raw_zero : address.isRaw = false → address.asRaw = []
  address32_zero : address.isAddress32 = false → address.asAddress32 = zeroBytes 32
  address20_zero : address.isAddress20 = false → address.asAddress20 = zeroBytes 20

/-- A well-formed address is one of the five forms. -/
theorem WellFormed.forms {address : MultiAddress} (well : address.WellFormed) :
    address = { zero with isID := true, asID := address.asID } ∨
      address = { zero with isIndex := true, asIndex := address.asIndex } ∨
      address = { zero with isRaw := true, asRaw := address.asRaw } ∨
      address = { zero with isAddress32 := true, asAddress32 := address.asAddress32 } ∨
      address = { zero with isAddress20 := true, asAddress20 := address.asAddress20 } := by
  obtain ⟨isID, asID, isIndex, asIndex, isRaw, asRaw, isAddress32, asAddress32, isAddress20,
    asAddress20⟩ := address
  obtain ⟨one_flag, id_zero, index_zero, raw_zero, address32_zero, address20_zero⟩ := well
  cases isID <;> cases isIndex <;> cases isRaw <;> cases isAddress32 <;> cases isAddress20 <;>
    simp_all [zero]

/-- Every well-formed address is read back. -/
theorem encode_reads {address : MultiAddress} (well : address.WellFormed)
    (short : address.asRaw.length ≤ maxUint32) :
    ∃ written, address.encode = .ok written ∧ Reads (decode zero) written address := by
  rcases well.forms with form | form | form | form | form <;> rw [form]
  · have reads := reads_array address.asID
    exact ⟨_, by simp [encode, encodeArray_eq]; rfl, fun rest => by simp [decode, zero, reads rest]⟩
  · have reads := reads_u32 0 address.asIndex
    exact ⟨_, by simp [encode, zero, encodeU32_eq]; rfl, fun rest => by simp [decode, zero, reads rest]⟩
  · have reads := fun rest => reads_bytes short rest
    simp only [List.append_assoc] at reads
    exact ⟨_, by simp [encode, zero, encodeBytes_eq short]; rfl, fun rest => by simp [decode, zero, reads rest]⟩
  · have reads := reads_array address.asAddress32
    exact ⟨_, by simp [encode, zero, encodeArray_eq]; rfl, fun rest => by simp [decode, zero, reads rest]⟩
  · have reads := reads_array address.asAddress20
    exact ⟨_, by simp [encode, zero, encodeArray_eq]; rfl, fun rest => by simp [decode, zero, reads rest]⟩

/-- Only a raw address is long. -/
theorem length_encode_le {address : MultiAddress} (short : address.asRaw.length ≤ maxUint32)
    {written : List UInt8} (encoded : address.encode = .ok written) :
    written.length ≤ address.asRaw.length + 69 := by
  have raw_lt : address.asRaw.length < 2 ^ 536 :=
    lt_compact_bound (by unfold maxUint32 at short; omega)
  have header_le := length_compactBytes_le raw_lt
  simp only [encode, encodeArray_eq, encodeU32_eq, encodeBytes_eq short, Outcome.ok_bind,
    Outcome.pure_eq] at encoded
  split_ifs at encoded <;> cases encoded <;>
    simp only [List.length_cons, List.length_append, List.length_nil, List.Vector.toList_length,
      LittleEndian.length_ofNat] <;>
    omega

end MultiAddress

/-! ## `MultiSignature` -/

/-- `types.MultiSignature`. -/
structure MultiSignature where
  isEd25519 : Bool
  asEd25519 : List.Vector UInt8 64
  isSr25519 : Bool
  asSr25519 : List.Vector UInt8 64
  isEcdsa : Bool
  asEcdsa : List.Vector UInt8 65
  deriving DecidableEq

namespace MultiSignature

/-- The zero value. -/
def zero : MultiSignature := ⟨false, zeroBytes 64, false, zeroBytes 64, false, zeroBytes 65⟩

/-- `MultiSignature.Encode`. -/
def encode (signature : MultiSignature) : Written :=
  if signature.isEd25519 then do
    let bytes ← encodeArray signature.asEd25519
    pure (0 :: bytes)
  else if signature.isSr25519 then do
    let bytes ← encodeArray signature.asSr25519
    pure (1 :: bytes)
  else if signature.isEcdsa then do
    let bytes ← encodeArray signature.asEcdsa
    pure (2 :: bytes)
  else
    .ok []

/-- `MultiSignature.Decode`.  An unknown tag leaves the receiver as it is. -/
def decode (target : MultiSignature) : Decoder MultiSignature := do
  let tag ← readOneByte
  if tag = 0 then
    let bytes ← decodeArray target.asEd25519
    pure { target with isEd25519 := true, asEd25519 := bytes }
  else if tag = 1 then
    let bytes ← decodeArray target.asSr25519
    pure { target with isSr25519 := true, asSr25519 := bytes }
  else if tag = 2 then
    let bytes ← decodeArray target.asEcdsa
    pure { target with isEcdsa := true, asEcdsa := bytes }
  else
    pure target

/-- Exactly one flag is set and the payloads of the others are zero. -/
structure WellFormed (signature : MultiSignature) : Prop where
  one_flag : [signature.isEd25519, signature.isSr25519, signature.isEcdsa].count true = 1
  ed25519_zero : signature.isEd25519 = false → signature.asEd25519 = zeroBytes 64
  sr25519_zero : signature.isSr25519 = false → signature.asSr25519 = zeroBytes 64
  ecdsa_zero : signature.isEcdsa = false → signature.asEcdsa = zeroBytes 65

/-- A well-formed signature is one of the three forms. -/
theorem WellFormed.forms {signature : MultiSignature} (well : signature.WellFormed) :
    signature = { zero with isEd25519 := true, asEd25519 := signature.asEd25519 } ∨
      signature = { zero with isSr25519 := true, asSr25519 := signature.asSr25519 } ∨
      signature = { zero with isEcdsa := true, asEcdsa := signature.asEcdsa } := by
  obtain ⟨isEd25519, asEd25519, isSr25519, asSr25519, isEcdsa, asEcdsa⟩ := signature
  obtain ⟨one_flag, ed25519_zero, sr25519_zero, ecdsa_zero⟩ := well
  cases isEd25519 <;> cases isSr25519 <;> cases isEcdsa <;> simp_all [zero]

/-- Every well-formed signature is read back. -/
theorem encode_reads {signature : MultiSignature} (well : signature.WellFormed) :
    ∃ written, signature.encode = .ok written ∧ Reads (decode zero) written signature := by
  rcases well.forms with form | form | form <;> rw [form]
  · have reads := reads_array signature.asEd25519
    exact ⟨_, by simp [encode, encodeArray_eq]; rfl, fun rest => by simp [decode, zero, reads rest]⟩
  · have reads := reads_array signature.asSr25519
    exact ⟨_, by simp [encode, zero, encodeArray_eq]; rfl, fun rest => by simp [decode, zero, reads rest]⟩
  · have reads := reads_array signature.asEcdsa
    exact ⟨_, by simp [encode, zero, encodeArray_eq]; rfl, fun rest => by simp [decode, zero, reads rest]⟩

theorem length_encode_le {signature : MultiSignature} {written : List UInt8}
    (encoded : signature.encode = .ok written) : written.length ≤ 66 := by
  simp only [encode, encodeArray_eq, Outcome.ok_bind, Outcome.pure_eq] at encoded
  split_ifs at encoded <;> cases encoded <;> simp

end MultiSignature

/-! ## `ExtrinsicEra` -/

/-- `types.MortalEra`. -/
structure MortalEra where
  first : UInt8
  second : UInt8
  deriving DecidableEq

/-- `types.ExtrinsicEra`. -/
structure ExtrinsicEra where
  isImmortalEra : Bool
  isMortalEra : Bool
  asMortalEra : MortalEra
  deriving DecidableEq

namespace ExtrinsicEra

/-- The zero value. -/
def zero : ExtrinsicEra := ⟨false, false, ⟨0, 0⟩⟩

/-- The immortal era. -/
def immortal : ExtrinsicEra := ⟨true, false, ⟨0, 0⟩⟩

/-- The mortal era of two bytes. -/
def mortal (first second : UInt8) : ExtrinsicEra := ⟨false, true, ⟨first, second⟩⟩

/-- `ExtrinsicEra.Encode`. -/
def encode (era : ExtrinsicEra) : Written :=
  if era.isImmortalEra then .ok [0] else .ok [era.asMortalEra.first, era.asMortalEra.second]

/-- `ExtrinsicEra.Decode`. -/
def decode (target : ExtrinsicEra) : Decoder ExtrinsicEra := do
  let first ← readOneByte
  if first = 0 then
    pure { target with isImmortalEra := true }
  else
    let second ← readOneByte
    pure { target with isMortalEra := true, asMortalEra := ⟨first, second⟩ }

/-- Immortal, or mortal with a non-zero first byte. -/
def WellFormed (era : ExtrinsicEra) : Prop :=
  era = immortal ∨ ∃ first second, first ≠ 0 ∧ era = mortal first second

/-- Every well-formed era is read back. -/
theorem encode_reads {era : ExtrinsicEra} (well : era.WellFormed) :
    ∃ written, era.encode = .ok written ∧ Reads (decode zero) written era := by
  rcases well with rfl | ⟨first, second, nonzero, rfl⟩
  · exact ⟨[0], rfl, fun rest => rfl⟩
  · refine ⟨[first, second], rfl, fun rest => ?_⟩
    simp [decode, nonzero, mortal, zero]

theorem length_encode_le {era : ExtrinsicEra} {written : List UInt8}
    (encoded : era.encode = .ok written) : written.length ≤ 2 := by
  unfold encode at encoded
  split_ifs at encoded <;> cases encoded <;> simp

end ExtrinsicEra

/-! ## `Call` -/

/-- `types.CallIndex`. -/
structure CallIndex where
  sectionIndex : UInt8
  methodIndex : UInt8
  deriving DecidableEq

namespace CallIndex

/-- The zero value. -/
def zero : CallIndex := ⟨0, 0⟩

/-- `CallIndex.Encode`. -/
def encode (index : CallIndex) : Written := do
  let sectionByte ← (GoType.num .u8 : GoType .none).encode index.sectionIndex
  let methodByte ← (GoType.num .u8 : GoType .none).encode index.methodIndex
  pure (sectionByte ++ methodByte)

/-- `CallIndex.Decode`. -/
def decode (target : CallIndex) : Decoder CallIndex := do
  let sectionIndex ← (GoType.num .u8 : GoType .none).decode target.sectionIndex
  let methodIndex ← (GoType.num .u8 : GoType .none).decode target.methodIndex
  pure ⟨sectionIndex, methodIndex⟩

theorem encode_reads (target index : CallIndex) :
    ∃ written, index.encode = .ok written ∧ Reads (decode target) written index := by
  refine ⟨_, rfl, ?_⟩
  exact (reads_num .u8 target.sectionIndex index.sectionIndex).bind
    ((reads_num .u8 target.methodIndex index.methodIndex).bind_pure
      (CallIndex.mk index.sectionIndex))

end CallIndex

/-- `types.Args`. -/
abbrev Args : Type := List UInt8

namespace Args

/-- `Args.Encode`. -/
def encode (args : Args) : Written := .ok args

/-- The loop of `Args.Decode`: at round `i` the argument is cut to `i` bytes before appending. -/
def decodeLoop (args : Args) (i : Nat) : List UInt8 → Args
  | [] => args
  | byte :: rest => decodeLoop (args.take i ++ [byte]) (i + 1) rest

/-- `Args.Decode` reads to the end of the input. -/
def decode (target : Args) : Decoder Args := fun input => .ok (decodeLoop target 0 input, [])

/-- The loop appends the input to the bytes collected before. -/
theorem decodeLoop_eq (input : List UInt8) (collected : List UInt8) :
    decodeLoop collected collected.length input = collected ++ input := by
  induction input generalizing collected with
  | nil => simp [decodeLoop]
  | cons byte rest ih =>
      have step := ih (collected ++ [byte])
      rw [List.length_append, List.length_singleton] at step
      rw [decodeLoop, List.take_length, step, List.append_assoc, List.singleton_append]

/-- From an empty receiver the whole input is taken. -/
theorem decode_nil (input : List UInt8) : decode [] input = .ok (input, []) := by
  have whole := decodeLoop_eq input []
  rw [List.length_nil, List.nil_append] at whole
  rw [decode, whole]

end Args

end SubstrateClient.Types
