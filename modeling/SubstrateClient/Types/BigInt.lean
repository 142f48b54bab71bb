import SubstrateClient.BigEndian
import SubstrateClient.Restoring
import SubstrateClient.Scale.Codec

/-!
# Big integers of a fixed byte length

`big.Int` is the integers; the conversions work on the bytes of the absolute value, and the slice
expression in front of `copy` panics when these are more than the buffer has.
-/

namespace SubstrateClient.Types

open ByteParser Scale

/-- `big.Int.Bytes`: the absolute value, most significant byte first. -/
def bigBytes (value : Int) : List UInt8 :=
  BigEndian.shortest value.natAbs

/-- `big.Int.SetBytes` on a new number. -/
def setBytes (bytes : List UInt8) : Int :=
  BigEndian.toNat bytes

/-- `copy(res[len(res)-len(bs):], bs)`. -/
def copyToEnd (res bytes : List UInt8) : Written :=
  if res.length < bytes.length then
    .panic
  else
    .ok (res.take (res.length - bytes.length) ++ bytes)

/-- `BigIntToUintBytes`. -/
def bigIntToUintBytes (value : Int) (bytelen : Nat) : Written :=
  if value < 0 then
    .error (.text "cannot encode a negative big.Int into an unsigned integer")
  else
    let max : Int := 2 ^ (bytelen * 8)
    if max.natAbs < value.natAbs then
      .error (.text ("cannot encode big.Int to []byte: given big.Int exceeds highest number " ++
        toString max ++ " for an uint with " ++ toString (bytelen * 8) ++ " bits"))
    else
      copyToEnd (List.replicate bytelen 0) (bigBytes value)

/-- `UintBytesToBigInt`. -/
def uintBytesToBigInt (bytes : List UInt8) : Outcome GoError Int :=
  if bytes.length = 0 then
    .error (.text "cannot decode an empty byte slice")
  else
    .ok (setBytes bytes)

/-- `BigIntToIntBytes`. -/
def bigIntToIntBytes (value : Int) (bytelen : Nat) : Written :=
  let maxNeg : Int := 2 ^ (bytelen * 8 - 1)
  let maxPos := maxNeg - 1
  if 0 ≤ value then
    if maxPos.natAbs < value.natAbs then
      .error (.text ("cannot encode big.Int to []byte: given big.Int exceeds highest positive number " ++
        toString maxPos ++ " for an int with " ++ toString (bytelen * 8) ++ " bits"))
    else
      copyToEnd (List.replicate bytelen 0) (bigBytes value)
  else if maxNeg.natAbs < value.natAbs then
    .error (.text ("cannot encode big.Int to []byte: given big.Int exceeds highest negative number -" ++
      toString maxNeg ++ " for an int with " ++ toString (bytelen * 8) ++ " bits"))
  else do
    let res ← copyToEnd (List.replicate bytelen 0) (bigBytes (value + 1))
    pure (res.map fun byte => ~~~byte)

/-- `IntBytesToBigInt`. -/
def intBytesToBigInt (bytes : List UInt8) : Outcome GoError Int :=
  match bytes with
  | [] => .error (.text "cannot decode an empty byte slice")
  | first :: _ =>
      if first &&& 0x80 = 0x00 then
        .ok (setBytes bytes)
      else
        let complemented := bytes.map fun byte => ~~~byte
        .ok (-(setBytes complemented + 1))

/-- `I128.Encode` and `I256.Encode`: a nil pointer is dereferenced. -/
def encodeBigInt (bytelen : Nat) (value : Option Int) : Written :=
  match value with
  | none => .panic
  | some value => do
      let bytes ← bigIntToIntBytes value bytelen
      pure bytes.reverse

/-- `I128.Decode` and `I256.Decode`; the branch for zero allocates another zero. -/
def decodeBigInt (bytelen : Nat) : Decoder (Option Int) := do
  let bytes ← read bytelen
  let value ← ofOutcome (intBytesToBigInt bytes.reverse)
  if value = 0 then pure (some 0) else pure (some value)

/-- `U128.Encode` and `U256.Encode`: a nil pointer stands for zero. -/
def encodeBigUint (bytelen : Nat) (value : Option Int) : Written := do
  let bytes ← bigIntToUintBytes (value.getD 0) bytelen
  pure bytes.reverse

/-- `U128.Decode` and `U256.Decode`; the branch for zero allocates another zero. -/
def decodeBigUint (bytelen : Nat) : Decoder (Option Int) := do
  let bytes ← read bytelen
  let value ← ofOutcome (uintBytesToBigInt bytes.reverse)
  if value = 0 then pure (some 0) else pure (some value)

namespace I128

/-- `I128.Encode`. -/
def encode : Option Int → Written := encodeBigInt 16

/-- `I128.Decode`. -/
def decode : Decoder (Option Int) := decodeBigInt 16

end I128

namespace I256

/-- `I256.Encode`. -/
def encode : Option Int → Written := encodeBigInt 32

/-- `I256.Decode`. -/
def decode : Decoder (Option Int) := decodeBigInt 32

end I256

namespace U128

/-- `U128.Encode`. -/
def encode : Option Int → Written := encodeBigUint 16

/-- `U128.Decode`. -/
def decode : Decoder (Option Int) := decodeBigUint 16

end U128

namespace U256

/-- `U256.Encode`. -/
def encode : Option Int → Written := encodeBigUint 32

/-- `U256.Decode`. -/
def decode : Decoder (Option Int) := decodeBigUint 32

end U256

theorem two_pow_bits (bytelen : Nat) : (2 : Int) ^ (bytelen * 8) = 256 ^ bytelen := by
  rw [mul_comm, pow_mul]
  norm_num

theorem two_mul_two_pow_bits {bytelen : Nat} (width_pos : 1 ≤ bytelen) :
    2 * (2 : Int) ^ (bytelen * 8 - 1) = 256 ^ bytelen := by
  rw [← two_pow_bits, ← pow_succ']
  congr 1
  omega

/-- A magnitude that fits is padded with zeros in front. -/
theorem copyToEnd_bigBytes {value : Int} {bytelen : Nat} (fits : value.natAbs < 256 ^ bytelen) :
    ∃ bytes, copyToEnd (List.replicate bytelen 0) (bigBytes value) = .ok bytes ∧
      bytes.length = bytelen ∧ BigEndian.toNat bytes = value.natAbs := by
  have short : (bigBytes value).length ≤ bytelen := BigEndian.length_shortest_le_iff.mpr fits
  refine ⟨List.replicate (bytelen - (bigBytes value).length) 0 ++ bigBytes value, ?_, ?_, ?_⟩
  · rw [copyToEnd, List.length_replicate, if_neg (not_lt.mpr short), List.take_replicate,
      min_eq_left (Nat.sub_le _ _)]
  · rw [List.length_append, List.length_replicate]
    omega
  · rw [BigEndian.toNat_zeros_append]
    exact BigEndian.toNat_shortest _

/-- A magnitude that does not fit has a byte too many. -/
theorem copyToEnd_bigBytes_of_le {value : Int} {bytelen : Nat}
    (large : 256 ^ bytelen ≤ value.natAbs) :
    copyToEnd (List.replicate bytelen 0) (bigBytes value) = .panic := by
  have long : ¬ (bigBytes value).length ≤ bytelen := by
    rw [bigBytes, BigEndian.length_shortest_le_iff]
    omega
  rw [copyToEnd, List.length_replicate, if_pos (not_le.mp long)]

theorem intBytesToBigInt_eq {bytes : List UInt8} (nonempty : bytes ≠ []) :
    intBytesToBigInt bytes = .ok (BigEndian.signed bytes) := by
  cases bytes with
  | nil => exact absurd rfl nonempty
  | cons first bytes =>
      have complemented := BigEndian.toNat_complement (first :: bytes)
      have cast : ((256 ^ (first :: bytes).length : Nat) : Int) = 256 ^ (first :: bytes).length := by
        push_cast
        rfl
      rw [intBytesToBigInt, BigEndian.signed, ← cast]
      by_cases clear : first &&& 0x80 = 0
      · rw [if_pos clear, if_pos ((BigEndian.top_bit_clear_iff first bytes).mp clear)]
        rfl
      · rw [if_neg clear, if_neg (mt (BigEndian.top_bit_clear_iff first bytes).mpr clear)]
        simp only [setBytes, Outcome.ok.injEq]
        change -((BigEndian.toNat (BigEndian.complement (first :: bytes)) : Int) + 1) = _
        omega

/-- A number in range is written as the byte string whose two's complement it is. -/
theorem bigIntToIntBytes_of_fits {value : Int} {bytelen : Nat} (width_pos : 1 ≤ bytelen)
    (lower : -(2 : Int) ^ (bytelen * 8 - 1) ≤ value) (upper : value < 2 ^ (bytelen * 8 - 1)) :
    ∃ bytes, bigIntToIntBytes value bytelen = .ok bytes ∧ bytes.length = bytelen ∧
      BigEndian.signed bytes = value := by
  have half := two_mul_two_pow_bits width_pos
  have cast : ((256 ^ bytelen : Nat) : Int) = 256 ^ bytelen := by push_cast; rfl
  by_cases nonneg : 0 ≤ value
  · have fits : value.natAbs < 256 ^ bytelen := by omega
    obtain ⟨bytes, copied, width, number⟩ := copyToEnd_bigBytes fits
    refine ⟨bytes, ?_, width, ?_⟩
    · rw [bigIntToIntBytes, if_pos nonneg, if_neg (by omega), copied]
    · rw [BigEndian.signed, number, width, if_pos (by omega)]
      omega
  · have fits : (value + 1).natAbs < 256 ^ bytelen := by omega
    obtain ⟨bytes, copied, width, number⟩ := copyToEnd_bigBytes fits
    have complemented := BigEndian.toNat_complement bytes
    refine ⟨BigEndian.complement bytes, ?_, ?_, ?_⟩
    · rw [bigIntToIntBytes, if_neg nonneg, if_neg (by omega), copied]
      rfl
    · rw [BigEndian.length_complement, width]
    · rw [width, number] at complemented
      rw [BigEndian.signed, BigEndian.length_complement, width, if_neg (by omega)]
      omega

theorem bigIntToIntBytes_of_le {value : Int} {bytelen : Nat}
    (large : (2 : Int) ^ (bytelen * 8 - 1) ≤ value) :
    ∃ reason, bigIntToIntBytes value bytelen = .error reason := by
  have positive : (0 : Int) < 2 ^ (bytelen * 8 - 1) := by positivity
  rw [bigIntToIntBytes, if_pos (by omega), if_pos (by omega)]
  exact ⟨_, rfl⟩

theorem bigIntToIntBytes_of_lt {value : Int} {bytelen : Nat}
    (small : value < -(2 : Int) ^ (bytelen * 8 - 1)) :
    ∃ reason, bigIntToIntBytes value bytelen = .error reason := by
  have positive : (0 : Int) < 2 ^ (bytelen * 8 - 1) := by positivity
  rw [bigIntToIntBytes, if_neg (by omega), if_pos (by omega)]
  exact ⟨_, rfl⟩

/-- A byte string is written back from its two's complement number. -/
theorem bigIntToIntBytes_signed {bytes : List UInt8} (nonempty : bytes ≠ []) :
    bigIntToIntBytes (BigEndian.signed bytes) bytes.length = .ok bytes := by
  have width_pos : 1 ≤ bytes.length := List.length_pos_of_ne_nil nonempty
  have half := two_mul_two_pow_bits width_pos
  obtain ⟨lower, upper⟩ := BigEndian.signed_bounds bytes
  obtain ⟨written, success, width, value⟩ :=
    bigIntToIntBytes_of_fits width_pos (by omega : _ ≤ BigEndian.signed bytes) (by omega)
  rw [success, BigEndian.eq_of_signed_eq width value]

/-- Reading bytes and converting them.  The branch for zero changes nothing, and the conversion sees at least
one byte. -/
theorem read_convert_eq {bytelen : Nat} (width_pos : 1 ≤ bytelen)
    {convert : List UInt8 → Outcome GoError Int} {number : List UInt8 → Int}
    (converts : ∀ bytes, bytes ≠ [] → convert bytes = .ok (number bytes)) :
    (read bytelen >>= fun bytes => ofOutcome (convert bytes.reverse) >>= fun value =>
        if value = 0 then pure (some 0) else pure (some value)) =
      read bytelen >>= fun bytes => pure (some (number bytes.reverse)) := by
  funext input
  rw [bind_apply, bind_apply]
  by_cases short : input.length < bytelen
  · obtain ⟨reason, failed⟩ := read_of_lt short
    rw [failed, Outcome.error_bind, Outcome.error_bind]
  · have nonempty : (input.take bytelen).reverse ≠ [] :=
      List.ne_nil_of_length_pos (by rw [List.length_reverse, List.length_take]; omega)
    rw [read_of_le width_pos (not_lt.mp short)]
    simp only [Outcome.ok_bind, bind_apply, ofOutcome_apply, converts _ nonempty]
    by_cases zero : number (input.take bytelen).reverse = 0
    · rw [if_pos zero, zero]
    · rw [if_neg zero]

/-- Decoding gives the two's complement number of the bytes read. -/
theorem decodeBigInt_eq {bytelen : Nat} (width_pos : 1 ≤ bytelen) :
    decodeBigInt bytelen =
      read bytelen >>= fun bytes => pure (some (BigEndian.signed bytes.reverse)) :=
  read_convert_eq width_pos fun _ => intBytesToBigInt_eq

theorem restores_encodeBigInt {value : Int} {bytelen : Nat} (width_pos : 1 ≤ bytelen)
    (lower : -(2 : Int) ^ (bytelen * 8 - 1) ≤ value) (upper : value < 2 ^ (bytelen * 8 - 1)) :
    Restores (encodeBigInt bytelen (some value)) (decodeBigInt bytelen) (some value) := by
  obtain ⟨bytes, success, width, number⟩ := bigIntToIntBytes_of_fits width_pos lower upper
  have nonempty : bytes ≠ [] := List.ne_nil_of_length_pos (by omega)
  have reads := reads_read (List.reverse_ne_nil_iff.mpr nonempty)
  rw [List.length_reverse, width] at reads
  refine ⟨bytes.reverse, by simp [encodeBigInt, success], fun rest => ?_⟩
  rw [decodeBigInt_eq width_pos, bind_apply, reads rest, Outcome.ok_bind, List.reverse_reverse,
    number]
  rfl

/-- The conversion to `bytelen` bytes and its inverse, for every number and every byte string. -/
theorem bigIntToIntBytes_twosComplement {bytelen : Nat} (width_pos : 1 ≤ bytelen) :
    (∀ value : Int,
      ((∃ reason, bigIntToIntBytes value bytelen = .error reason) ↔
        value < -(2 : Int) ^ (8 * bytelen - 1) ∨ 2 ^ (8 * bytelen - 1) ≤ value) ∧
      bigIntToIntBytes value bytelen ≠ .panic ∧
      (-(2 : Int) ^ (8 * bytelen - 1) ≤ value ∧ value < 2 ^ (8 * bytelen - 1) →
        ∃ bytes, bigIntToIntBytes value bytelen = .ok bytes ∧ bytes.length = bytelen ∧
          (BigEndian.toNat bytes : Int) = value % 2 ^ (8 * bytelen) ∧
          intBytesToBigInt bytes = .ok value)) ∧
    (∀ bytes : List UInt8, bytes.length = bytelen →
      ∃ value, intBytesToBigInt bytes = .ok value ∧ bigIntToIntBytes value bytelen = .ok bytes) ∧
    (∀ value : Int, -(2 : Int) ^ 127 ≤ value → value < 2 ^ 127 →
      Restores (I128.encode (some value)) I128.decode (some value)) ∧
    (∀ value : Int, -(2 : Int) ^ 255 ≤ value → value < 2 ^ 255 →
      Restores (I256.encode (some value)) I256.decode (some value)) := by
  rw [mul_comm 8 bytelen]
  refine ⟨fun value => ?_, fun bytes width => ?_, ?_, ?_⟩
  · by_cases small : value < -(2 : Int) ^ (bytelen * 8 - 1)
    · obtain ⟨reason, failed⟩ := bigIntToIntBytes_of_lt small
      refine ⟨⟨fun _ => .inl small, fun _ => ⟨reason, failed⟩⟩, by simp [failed], ?_⟩
      rintro ⟨lower, -⟩
      omega
    by_cases large : (2 : Int) ^ (bytelen * 8 - 1) ≤ value
    · obtain ⟨reason, failed⟩ := bigIntToIntBytes_of_le large
      refine ⟨⟨fun _ => .inr large, fun _ => ⟨reason, failed⟩⟩, by simp [failed], ?_⟩
      rintro ⟨-, upper⟩
      omega
    obtain ⟨bytes, success, width, number⟩ :=
      bigIntToIntBytes_of_fits width_pos (not_lt.mp small) (not_le.mp large)
    have nonempty : bytes ≠ [] := List.ne_nil_of_length_pos (by omega)
    refine ⟨⟨by simp [success], by rintro (out | out) <;> omega⟩, by simp [success], fun _ => ?_⟩
    refine ⟨bytes, success, width, ?_, ?_⟩
    · rw [two_pow_bits, ← number, ← width]
      exact (BigEndian.signed_emod bytes).symm
    · rw [intBytesToBigInt_eq nonempty, number]
  · have nonempty : bytes ≠ [] := List.ne_nil_of_length_pos (by omega)
    refine ⟨BigEndian.signed bytes, intBytesToBigInt_eq nonempty, ?_⟩
    rw [← width]
    exact bigIntToIntBytes_signed nonempty
  · intro value lower upper
    exact restores_encodeBigInt (by omega) lower upper
  · intro value lower upper
    exact restores_encodeBigInt (by omega) lower upper

theorem bigIntToIntBytes_twosComplement_two :
    intBytesToBigInt [0x80, 0x00] = .ok (-32768) ∧
      bigIntToIntBytes (-32768) 2 = .ok [0x80, 0x00] := by
  obtain ⟨value, decoded, encoded⟩ :=
    (bigIntToIntBytes_twosComplement (by decide : 1 ≤ 2)).2.1 [0x80, 0x00] rfl
  have same : intBytesToBigInt [0x80, 0x00] = .ok (-32768) := by decide
  rw [same] at decoded
  cases decoded
  exact ⟨same, encoded⟩

theorem uintBytesToBigInt_eq {bytes : List UInt8} (nonempty : bytes ≠ []) :
    uintBytesToBigInt bytes = .ok (BigEndian.toNat bytes : Int) := by
  rw [uintBytesToBigInt, if_neg (by simpa using nonempty)]
  rfl

theorem bigIntToUintBytes_of_fits {value : Int} {bytelen : Nat} (nonneg : 0 ≤ value)
    (upper : value < 2 ^ (bytelen * 8)) :
    ∃ bytes, bigIntToUintBytes value bytelen = .ok bytes ∧ bytes.length = bytelen ∧
      (BigEndian.toNat bytes : Int) = value := by
  have bits := two_pow_bits bytelen
  have cast : ((256 ^ bytelen : Nat) : Int) = 256 ^ bytelen := by push_cast; rfl
  have fits : value.natAbs < 256 ^ bytelen := by omega
  obtain ⟨bytes, copied, width, number⟩ := copyToEnd_bigBytes fits
  refine ⟨bytes, ?_, width, by omega⟩
  rw [bigIntToUintBytes, if_neg (by omega), if_neg (by omega), copied]

theorem bigIntToUintBytes_of_outside {value : Int} {bytelen : Nat}
    (outside : value < 0 ∨ 2 ^ (bytelen * 8) < value) :
    ∃ reason, bigIntToUintBytes value bytelen = .error reason := by
  have positive : (0 : Int) < 2 ^ (bytelen * 8) := by positivity
  rcases outside with negative | large
  · rw [bigIntToUintBytes, if_pos negative]
    exact ⟨_, rfl⟩
  · rw [bigIntToUintBytes, if_neg (by omega), if_pos (by omega)]
    exact ⟨_, rfl⟩

/-- The bound itself passes the check and has one byte too many. -/
theorem bigIntToUintBytes_bound (bytelen : Nat) :
    bigIntToUintBytes (2 ^ (bytelen * 8)) bytelen = .panic := by
  have positive : (0 : Int) < 2 ^ (bytelen * 8) := by positivity
  have bits := two_pow_bits bytelen
  have cast : ((256 ^ bytelen : Nat) : Int) = 256 ^ bytelen := by push_cast; rfl
  rw [bigIntToUintBytes, if_neg (by omega), if_neg (lt_irrefl _)]
  exact copyToEnd_bigBytes_of_le (by omega)

/-- Decoding gives the number of the bytes read. -/
theorem decodeBigUint_eq {bytelen : Nat} (width_pos : 1 ≤ bytelen) :
    decodeBigUint bytelen =
      read bytelen >>= fun bytes => pure (some (BigEndian.toNat bytes.reverse : Int)) :=
  read_convert_eq width_pos fun _ => uintBytesToBigInt_eq

theorem restores_encodeBigUint {value : Int} {bytelen : Nat} (width_pos : 1 ≤ bytelen)
    (nonneg : 0 ≤ value) (upper : value < 2 ^ (bytelen * 8)) :
    Restores (encodeBigUint bytelen (some value)) (decodeBigUint bytelen) (some value) := by
  obtain ⟨bytes, success, width, number⟩ := bigIntToUintBytes_of_fits nonneg upper
  have nonempty : bytes ≠ [] := List.ne_nil_of_length_pos (by omega)
  have reads := reads_read (List.reverse_ne_nil_iff.mpr nonempty)
  rw [List.length_reverse, width] at reads
  refine ⟨bytes.reverse, by simp [encodeBigUint, success], fun rest => ?_⟩
  rw [decodeBigUint_eq width_pos, bind_apply, reads rest, Outcome.ok_bind, List.reverse_reverse,
    number]
  rfl

/-- Encoding fails with an error or is undone by decoding, except at the bound. -/
theorem encodeBigUint_fails_or_restores {bytelen : Nat} (width_pos : 1 ≤ bytelen) (value : Int) :
    ((∃ reason, encodeBigUint bytelen (some value) = .error reason) ∨
        Restores (encodeBigUint bytelen (some value)) (decodeBigUint bytelen) (some value)) ↔
      value ≠ 2 ^ (bytelen * 8) := by
  constructor
  · rintro meets rfl
    have panics : encodeBigUint bytelen (some (2 ^ (bytelen * 8))) = .panic := by
      rw [encodeBigUint, Option.getD_some, bigIntToUintBytes_bound]
      rfl
    rw [panics] at meets
    rcases meets with ⟨_, failed⟩ | ⟨_, written, _⟩
    · cases failed
    · cases written
  · intro inside
    by_cases outside : value < 0 ∨ 2 ^ (bytelen * 8) < value
    · obtain ⟨reason, failed⟩ := bigIntToUintBytes_of_outside outside
      exact .inl ⟨reason, by simp [encodeBigUint, failed]⟩
    · exact .inr (restores_encodeBigUint width_pos (by omega) (by omega))

/-- The conversion to `bytelen` bytes is exact for every number but one. -/
theorem bigIntToUintBytes_exact_iff {bytelen : Nat} (width_pos : 1 ≤ bytelen) (value : Int) :
    ((bigIntToUintBytes value bytelen ≠ .panic ∧
        ((∃ reason, bigIntToUintBytes value bytelen = .error reason) ↔
          value < 0 ∨ 2 ^ (8 * bytelen) ≤ value) ∧
        (0 ≤ value ∧ value < 2 ^ (8 * bytelen) →
          ∃ bytes, bigIntToUintBytes value bytelen = .ok bytes ∧ bytes.length = bytelen ∧
            uintBytesToBigInt bytes = .ok value)) ↔
      value ≠ 2 ^ (8 * bytelen)) ∧
    (((∃ reason, U128.encode (some value) = .error reason) ∨
        Restores (U128.encode (some value)) U128.decode (some value)) ↔ value ≠ 2 ^ 128) ∧
    (((∃ reason, U256.encode (some value) = .error reason) ∨
        Restores (U256.encode (some value)) U256.decode (some value)) ↔ value ≠ 2 ^ 256) := by
  rw [mul_comm 8 bytelen]
  refine ⟨⟨?_, fun inside => ?_⟩, encodeBigUint_fails_or_restores (by omega) value,
    encodeBigUint_fails_or_restores (by omega) value⟩
  · rintro ⟨no_panic, -⟩ rfl
    exact no_panic (bigIntToUintBytes_bound bytelen)
  · by_cases outside : value < 0 ∨ 2 ^ (bytelen * 8) < value
    · obtain ⟨reason, failed⟩ := bigIntToUintBytes_of_outside outside
      refine ⟨by simp [failed], ⟨fun _ => by omega, fun _ => ⟨reason, failed⟩⟩, ?_⟩
      rintro ⟨nonneg, upper⟩
      omega
    · have upper : value < 2 ^ (bytelen * 8) := by omega
      obtain ⟨bytes, success, width, number⟩ := bigIntToUintBytes_of_fits (by omega) upper
      have nonempty : bytes ≠ [] := List.ne_nil_of_length_pos (by omega)
      refine ⟨by simp [success], ⟨by simp [success], fun out => by omega⟩, fun _ => ?_⟩
      exact ⟨bytes, success, width, by rw [uintBytesToBigInt_eq nonempty, number]⟩

theorem bigIntToUintBytes_exact_one :
    bigIntToUintBytes 255 1 = .ok [0xff] ∧ uintBytesToBigInt [0xff] = .ok 255 := by
  have exact_here := (bigIntToUintBytes_exact_iff (by decide : 1 ≤ 1) 255).1.mpr (by decide)
  obtain ⟨bytes, written, -, decoded⟩ := exact_here.2.2 (by decide)
  have same : bigIntToUintBytes 255 1 = .ok [0xff] := by decide
  rw [same] at written
  cases written
  exact ⟨same, decoded⟩

/-- 256 does not fit into one byte, and no error says so. -/
theorem bigIntToUintBytes_panics :
    ¬ (bigIntToUintBytes 256 1 ≠ .panic ∧
      ((∃ reason, bigIntToUintBytes 256 1 = .error reason) ↔ (256 : Int) < 0 ∨ 2 ^ (8 * 1) ≤ (256 : Int)) ∧
      ((0 : Int) ≤ 256 ∧ (256 : Int) < 2 ^ (8 * 1) →
        ∃ bytes, bigIntToUintBytes 256 1 = .ok bytes ∧ bytes.length = 1 ∧
          uintBytesToBigInt bytes = .ok 256)) := by
  rintro ⟨no_panic, -⟩
  exact no_panic (bigIntToUintBytes_bound 1)

end SubstrateClient.Types
