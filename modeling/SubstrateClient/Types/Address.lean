import SubstrateClient.Types.ExtrinsicParts

/-!
# Addresses with account indices

`types.Address` holds an account or an account index.  A global option for chains without the indices pallet
drops the byte in front of an account; indices are written in the same way under both settings.
-/

namespace SubstrateClient.Types

open ByteParser Scale

/-- `types.SerDeOptions`. -/
structure SerDeOptions where
  noPalletIndices : Bool
  deriving DecidableEq

/-- `NewAccountID`. -/
def newAccountID (bytes : List UInt8) : Outcome GoError (List.Vector UInt8 32) :=
  if width : bytes.length = 32 then
    .ok ⟨bytes, width⟩
  else
    .error (.text "invalid account ID bytes")

/-- `types.Address`. -/
structure Address where
  isAccountID : Bool
  asAccountID : List.Vector UInt8 32
  isAccountIndex : Bool
  asAccountIndex : UInt32
  deriving DecidableEq

namespace Address

/-- The zero value. -/
def zero : Address := ⟨false, zeroBytes 32, false, 0⟩

/-- `Address.Decode`. -/
def decode (options : SerDeOptions) (target : Address) : Decoder Address := do
  let b ← readOneByte
  if options.noPalletIndices then
    let sm ← decodeArray (zeroBytes 31)
    let accountID ← ofOutcome (newAccountID (b :: sm.toList))
    pure { target with asAccountID := accountID, isAccountID := true }
  else if b = 0xff then
    let accountID ← decodeArray target.asAccountID
    pure { target with asAccountID := accountID, isAccountID := true }
  else if b = 0xfe then
    ByteParser.fail (.text "decoding of Address with 0xfe prefix not supported")
  else if b = 0xfd then
    let index ← decodeU32 target.asAccountIndex
    pure { target with asAccountIndex := index, isAccountIndex := true }
  else if b = 0xfc then
    let aIndex ← (GoType.num .u16 : GoType .none).decode (0 : UInt16)
    pure { target with isAccountIndex := true, asAccountIndex := UInt16.toUInt32 aIndex }
  else
    pure { target with isAccountIndex := true, asAccountIndex := b.toUInt32 }

/-- `Address.Encode`. -/
def encode (options : SerDeOptions) (address : Address) : Written :=
  if address.isAccountID then
    if !options.noPalletIndices then
      .ok (255 :: address.asAccountID.toList)
    else
      .ok address.asAccountID.toList
  else if 0xffff < address.asAccountIndex then do
    let bytes ← encodeU32 address.asAccountIndex
    pure (253 :: bytes)
  else if 0xf0 ≤ address.asAccountIndex then do
    let bytes ← (GoType.num .u16 : GoType .none).encode address.asAccountIndex.toUInt16
    pure (252 :: bytes)
  else
    (GoType.num .u8 : GoType .none).encode address.asAccountIndex.toUInt8

/-- Exactly one flag is set and the payload of the other is zero. -/
structure WellFormed (address : Address) : Prop where
  one_flag : [address.isAccountID, address.isAccountIndex].count true = 1
  accountID_zero : address.isAccountID = false → address.asAccountID = zeroBytes 32
  accountIndex_zero : address.isAccountIndex = false → address.asAccountIndex = 0

/-- A well-formed address is an account or an index. -/
theorem WellFormed.forms {address : Address} (well : address.WellFormed) :
    address = { zero with isAccountID := true, asAccountID := address.asAccountID } ∨
      address = { zero with isAccountIndex := true, asAccountIndex := address.asAccountIndex } := by
  obtain ⟨isAccountID, asAccountID, isAccountIndex, asAccountIndex⟩ := address
  obtain ⟨one_flag, accountID_zero, accountIndex_zero⟩ := well
  cases isAccountID <;> cases isAccountIndex <;> simp_all [zero]

/-! ## Accounts -/

/-- An account behind its marking byte. -/
theorem reads_marked_account (account : List.Vector UInt8 32) :
    Reads (decode ⟨false⟩ zero) (255 :: account.toList)
      { zero with isAccountID := true, asAccountID := account } := by
  intro rest
  have reads := reads_array account
  simp [decode, zero, reads rest]

/-- Without the marking byte the first byte of the account is put back in front. -/
theorem reads_bare_account (account : List.Vector UInt8 32) :
    Reads (decode ⟨true⟩ zero) account.toList
      { zero with isAccountID := true, asAccountID := account } := by
  intro rest
  obtain ⟨first, later, rfl⟩ := account.exists_eq_cons
  have reads := reads_array later
  have whole : newAccountID (first :: later.toList) = .ok (List.Vector.cons first later) :=
    dif_pos (by simp)
  rw [List.Vector.toList_cons]
  simp [decode, zero, reads rest, whole]

/-! ## Indices -/

/-- An index beyond sixteen bits. -/
theorem reads_wide_index (index : UInt32) :
    Reads (decode ⟨false⟩ zero) (253 :: LittleEndian.ofNat 4 index.toNat)
      { zero with isAccountIndex := true, asAccountIndex := index } := by
  intro rest
  have reads := reads_u32 zero.asAccountIndex index
  simp [decode, zero] at reads ⊢
  simp [reads rest]

/-- An index of sixteen bits. -/
theorem reads_middle_index (index : UInt16) :
    Reads (decode ⟨false⟩ zero) (252 :: LittleEndian.ofNat 2 index.toNat)
      { zero with isAccountIndex := true, asAccountIndex := index.toUInt32 } := by
  intro rest
  have reads : Reads ((GoType.num .u16 : GoType .none).decode (0 : UInt16))
      (LittleEndian.ofNat 2 index.toNat) index := reads_num .u16 _ _
  simp [decode, zero, reads rest]

/-- An index below the marking bytes is its own byte. -/
theorem reads_short_index {index : UInt32} (short : index < 0xf0) :
    Reads (decode ⟨false⟩ zero) [index.toUInt8]
      { zero with isAccountIndex := true, asAccountIndex := index } := by
  intro rest
  rw [UInt32.lt_iff_toNat_lt] at short
  have small : index.toUInt8.toNat = index.toNat := by
    rw [UInt32.toNat_toUInt8]
    exact Nat.mod_eq_of_lt (short.trans (by decide))
  have kept : index.toUInt8.toUInt32 = index := by
    rw [← UInt32.toNat_inj, UInt8.toNat_toUInt32, small]
  have unmarked : ∀ mark : UInt8, 0xf0 ≤ mark.toNat → ¬ index.toUInt8 = mark := by
    rintro mark large rfl
    rw [small] at large
    exact absurd short (not_lt.mpr large)
  simp [decode, zero, kept, unmarked 0xff (by decide), unmarked 0xfe (by decide),
    unmarked 0xfd (by decide), unmarked 0xfc (by decide)]

/-- An index is written in one of three widths, under both settings. -/
theorem encode_index (options : SerDeOptions) (index : UInt32) :
    encode options { zero with isAccountIndex := true, asAccountIndex := index } =
      .ok (if 0xffff < index then 253 :: LittleEndian.ofNat 4 index.toNat
        else if 0xf0 ≤ index then 252 :: LittleEndian.ofNat 2 index.toUInt16.toNat
        else [index.toUInt8]) := by
  simp only [encode, zero, Bool.false_eq_true, if_false]
  split_ifs with wide middle
  · rfl
  · rfl
  · exact encode_u8 index.toUInt8

theorem reads_index (index : UInt32) :
    Reads (decode ⟨false⟩ zero)
      (if 0xffff < index then 253 :: LittleEndian.ofNat 4 index.toNat
        else if 0xf0 ≤ index then 252 :: LittleEndian.ofNat 2 index.toUInt16.toNat
        else [index.toUInt8])
      { zero with isAccountIndex := true, asAccountIndex := index } := by
  split_ifs with wide middle
  · exact reads_wide_index index
  · have kept : index.toUInt16.toUInt32 = index := by
      rw [UInt32.not_lt, UInt32.le_iff_toNat_le] at wide
      rw [← UInt32.toNat_inj, UInt16.toNat_toUInt32, UInt32.toNat_toUInt16]
      exact Nat.mod_eq_of_lt (Nat.lt_succ_of_le wide)
    have reads := reads_middle_index index.toUInt16
    rwa [kept] at reads
  · exact reads_short_index (UInt32.not_le.mp middle)

/-- Without the indices pallet only accounts are decoded. -/
theorem isAccountIndex_of_decode {input after : List UInt8} {address : Address}
    (decoded : decode ⟨true⟩ zero input = .ok (address, after)) : address.isAccountIndex = false := by
  obtain ⟨b, middle, -, decoded⟩ := bind_eq_ok.mp decoded
  obtain ⟨sm, later, -, decoded⟩ := bind_eq_ok.mp decoded
  obtain ⟨accountID, last, -, returned⟩ := bind_eq_ok.mp decoded
  cases returned
  rfl

/-- Every address is encoded, and decoding it returns it, unless it is an index and the option says that there
are none: an index that is encoded then is never returned. -/
theorem decode_encode_address (options : SerDeOptions) {address : Address} (well : address.WellFormed) :
    (¬ (options.noPalletIndices = true ∧ address.isAccountIndex = true) →
      ∃ bytes, address.encode options = .ok bytes ∧
        ∀ rest, decode options zero (bytes ++ rest) = .ok (address, rest)) ∧
    (options.noPalletIndices = true ∧ address.isAccountIndex = true →
      ∃ bytes, address.encode options = .ok bytes ∧
        ∀ rest after, decode options zero (bytes ++ rest) ≠ .ok (address, after)) := by
  obtain ⟨noPalletIndices⟩ := options
  rcases well.forms with account | index
  · have not_index : address.isAccountIndex = false := by rw [account]; rfl
    refine ⟨fun _ => ?_, fun refused => absurd refused.2 (by simp [not_index])⟩
    rw [account]
    cases noPalletIndices with
    | false => exact ⟨_, rfl, reads_marked_account address.asAccountID⟩
    | true => exact ⟨_, rfl, reads_bare_account address.asAccountID⟩
  · have is_index : address.isAccountIndex = true := by rw [index]
    cases noPalletIndices with
    | false =>
        refine ⟨fun _ => ?_, fun refused => absurd refused.1 (by simp)⟩
        rw [index]
        exact ⟨_, encode_index _ _, reads_index address.asAccountIndex⟩
    | true =>
        refine ⟨fun allowed => absurd ⟨rfl, is_index⟩ allowed, fun _ => ?_⟩
        have encoded := encode_index ⟨true⟩ address.asAccountIndex
        rw [← index] at encoded
        refine ⟨_, encoded, fun rest after decoded => ?_⟩
        rw [isAccountIndex_of_decode decoded] at is_index
        cases is_index

/-- The index 23. -/
def sampleIndex : Address := { zero with isAccountIndex := true, asAccountIndex := 23 }

theorem sampleIndex_wellFormed : sampleIndex.WellFormed :=
  ⟨by decide, fun _ => rfl, fun is_account => by cases is_account⟩

theorem decode_encode_sampleIndex :
    (∃ bytes, sampleIndex.encode ⟨false⟩ = .ok bytes ∧
      ∀ rest, decode ⟨false⟩ zero (bytes ++ rest) = .ok (sampleIndex, rest)) ∧
    ∃ bytes, sampleIndex.encode ⟨true⟩ = .ok bytes ∧
      ∀ rest after, decode ⟨true⟩ zero (bytes ++ rest) ≠ .ok (sampleIndex, after) :=
  ⟨(decode_encode_address ⟨false⟩ sampleIndex_wellFormed).1 (by decide),
    (decode_encode_address ⟨true⟩ sampleIndex_wellFormed).2 (by decide)⟩

/-- Under the option an index is encoded, and its bytes are not decoded. -/
theorem index_not_decoded_without_pallet :
    sampleIndex.encode ⟨true⟩ = .ok [23] ∧
      decode ⟨true⟩ zero [23] = .error (.text "expected more bytes, but could not decode any more") ∧
      ¬ ∀ (options : SerDeOptions) (address : Address), address.WellFormed →
        (∃ reason, address.encode options = .error reason) ∨
          ∃ bytes, address.encode options = .ok bytes ∧
            ∀ rest, decode options zero (bytes ++ rest) = .ok (address, rest) := by
  have encoded : sampleIndex.encode ⟨true⟩ = .ok [23] := rfl
  have refused : decode ⟨true⟩ zero [23] =
      .error (.text "expected more bytes, but could not decode any more") := rfl
  refine ⟨encoded, refused, fun all => ?_⟩
  rcases all ⟨true⟩ sampleIndex sampleIndex_wellFormed with ⟨reason, failed⟩ | ⟨bytes, written, reads⟩
  · rw [encoded] at failed
    cases failed
  · rw [encoded] at written
    cases written
    have read := reads []
    rw [List.append_nil, refused] at read
    cases read

end Address

end SubstrateClient.Types
