import SubstrateClient.Scale.Stream

/-!
# Round trip of compact integers

Each of the four modes is read back by the decoder from exactly the bytes the encoder wrote.
-/

namespace SubstrateClient.Scale

open ByteParser

theorem delimited_decodeUintCompact : Delimited decodeUintCompact := by
  unfold decodeUintCompact
  refine delimited_readOneByte.bind fun first => ?_
  split_ifs
  · exact delimited_pure _
  · exact delimited_readOneByte.bind fun second => delimited_pure _
  · exact (delimited_read (by norm_num)).bind fun buffer => delimited_pure _
  · dsimp only
    split_ifs with large
    · exact delimited_fail _
    · refine (delimited_read ?_).bind fun buffer => delimited_pure _
      have small : (first >>> 2).toNat ≤ 63 := by
        rwa [UInt8.lt_iff_toNat_lt, not_lt] at large
      rw [UInt8.toNat_add]
      change 0 < ((first >>> 2).toNat + 4) % 256
      omega

private theorem mode0_byte {number : Nat} (number_lt : number < 2 ^ 6) :
    (UInt8.ofNat number <<< 2).toNat = 4 * number := by
  rw [UInt8.toNat_shiftLeft, UInt8.toNat_ofNat', Nat.shiftLeft_eq]
  change number % 256 * 4 % 256 = _
  omega

private theorem mode1_word {number : Nat} (number_lt : number < 2 ^ 14) :
    ((UInt64.ofNat number <<< 2).toUInt16 + 1).toNat = 4 * number + 1 := by
  rw [UInt16.toNat_add, UInt64.toNat_toUInt16, UInt64.toNat_shiftLeft, UInt64.toNat_ofNat',
    Nat.shiftLeft_eq]
  change (number % 2 ^ 64 * 4 % 2 ^ 64 % 2 ^ 16 + 1) % 2 ^ 16 = _
  omega

private theorem mode2_word {number : Nat} (number_lt : number < 2 ^ 30) :
    ((UInt64.ofNat number <<< 2).toUInt32 + 2).toNat = 4 * number + 2 := by
  rw [UInt32.toNat_add, UInt64.toNat_toUInt32, UInt64.toNat_shiftLeft, UInt64.toNat_ofNat',
    Nat.shiftLeft_eq]
  change (number % 2 ^ 64 * 4 % 2 ^ 64 % 2 ^ 32 + 2) % 2 ^ 32 = _
  omega

/-- The bytes of a compact integer, by the range of its value. -/
def compactBytes (number : Nat) : List UInt8 :=
  if number < 2 ^ 6 then LittleEndian.ofNat 1 (4 * number)
  else if number < 2 ^ 14 then LittleEndian.ofNat 2 (4 * number + 1)
  else if number < 2 ^ 30 then LittleEndian.ofNat 4 (4 * number + 2)
  else
    UInt8.ofNat (4 * ((LittleEndian.shortest number).length - 4) + 3) ::
      LittleEndian.shortest number

/-- Machine integers are far below the largest compact integer. -/
theorem lt_compact_bound {number : Nat} (small : number < 2 ^ 64) : number < 2 ^ 536 :=
  small.trans_le (Nat.pow_le_pow_right (by norm_num) (by norm_num))

theorem compactBytes_ne_nil (number : Nat) : compactBytes number ≠ [] := by
  unfold compactBytes
  split_ifs <;> simp [LittleEndian.ofNat]

/-- One byte is enough for a number exactly when that byte is four times the number. -/
theorem compactBytes_eq_singleton {number : Nat} {byte : UInt8} :
    compactBytes number = [byte] ↔ byte.toNat = 4 * number := by
  have byte_lt := byte.toNat_lt
  constructor
  · intro same
    have width := congrArg List.length same
    unfold compactBytes at same width
    split_ifs at same width with mode0 mode1 mode2
    · simp only [LittleEndian.ofNat, List.cons.injEq, and_true] at same
      rw [← same, UInt8.toNat_ofNat']
      omega
    · simp at width
    · simp at width
    · have no_bytes : (LittleEndian.shortest number).length ≤ 0 := by simpa using width
      have zero := LittleEndian.length_shortest_le_iff.mp no_bytes
      omega
  · intro fits
    have mode0 : number < 2 ^ 6 := by omega
    rw [compactBytes, if_pos mode0, ← fits]
    simp [LittleEndian.ofNat]

/-- A number of mode three has between 4 and 67 bytes. -/
private theorem length_shortest_bounds {number : Nat} (number_ge : 2 ^ 30 ≤ number)
    (number_lt : number < 2 ^ 536) :
    4 ≤ (LittleEndian.shortest number).length ∧ (LittleEndian.shortest number).length ≤ 67 := by
  constructor
  · by_contra short
    have three : (LittleEndian.shortest number).length ≤ 3 := by omega
    have number_small := LittleEndian.length_shortest_le_iff.mp three
    omega
  · apply LittleEndian.length_shortest_le_iff.mpr
    rwa [show 256 = 2 ^ 8 from rfl, ← pow_mul]

/-- A compact integer takes at most 68 bytes. -/
theorem length_compactBytes_le {number : Nat} (number_lt : number < 2 ^ 536) :
    (compactBytes number).length ≤ 68 := by
  unfold compactBytes
  split_ifs with mode0 mode1 mode2
  · simp
  · simp
  · simp
  · have upper := (length_shortest_bounds (not_lt.mp mode2) number_lt).2
    rw [List.length_cons]
    omega

/-- Encoding succeeds exactly on the numbers that the grammar covers. -/
theorem encodeUintCompact_eq {number : Nat} (number_lt : number < 2 ^ 536) :
    encodeUintCompact number = .ok (compactBytes number) := by
  have nonneg : ¬ (number : Int) < 0 := by omega
  simp only [encodeUintCompact, nonneg, if_false, Int.toNat_natCast, compactBytes]
  by_cases small : number < 2 ^ 30
  · simp only [small, if_true]
    split_ifs with mode0 mode1
    · have byte_eq : UInt8.ofNat number <<< 2 = UInt8.ofNat (4 * number) := by
        rw [← UInt8.toNat_inj, mode0_byte mode0, UInt8.toNat_ofNat']
        omega
      simp [LittleEndian.ofNat, byte_eq]
    · rw [mode1_word mode1]
    · rw [mode2_word small]
  · have not_mode0 : ¬ number < 2 ^ 6 := by omega
    have not_mode1 : ¬ number < 2 ^ 14 := by omega
    obtain ⟨lower, upper⟩ := length_shortest_bounds (by omega) number_lt
    simp only [small, not_mode0, not_mode1, if_false]
    rw [if_neg (by omega)]
    generalize (LittleEndian.shortest number).length = count at lower upper
    have top : (UInt8.ofNat (count - 4)).toNat = count - 4 := by
      rw [UInt8.toNat_ofNat']
      omega
    have in_range : ¬ (63 : UInt8) < UInt8.ofNat (count - 4) := by
      rw [UInt8.lt_iff_toNat_lt, top]
      change ¬ 63 < count - 4
      omega
    have length_byte :
        UInt8.ofNat (count - 4) <<< 2 + 3 = UInt8.ofNat (4 * (count - 4) + 3) := by
      rw [← UInt8.toNat_inj, UInt8.toNat_add, UInt8.toNat_shiftLeft, top, UInt8.toNat_ofNat',
        Nat.shiftLeft_eq]
      change ((count - 4) * 4 % 256 + 3) % 256 = _
      omega
    rw [if_neg in_range, length_byte]

/-- Outside the grammar encoding fails. -/
theorem encodeUintCompact_out_of_range {value : Int} (outside : value < 0 ∨ 2 ^ 536 ≤ value) :
    ∃ reason, encodeUintCompact value = .error reason := by
  rcases outside with negative | large
  · exact ⟨_, by rw [encodeUintCompact, if_pos negative]⟩
  · have nonneg : ¬ value < 0 := by
      have : (0 : Int) ≤ 2 ^ 536 := by positivity
      omega
    have number_ge : 2 ^ 536 ≤ value.toNat := by
      zify
      rw [Int.toNat_of_nonneg (by omega)]
      exact large
    have not_small : ¬ value.toNat < 2 ^ 30 := by
      have : 2 ^ 30 ≤ 2 ^ 536 := Nat.pow_le_pow_right (by norm_num) (by norm_num)
      omega
    have long : 68 ≤ (LittleEndian.shortest value.toNat).length := by
      by_contra short
      have number_lt := LittleEndian.length_shortest_le_iff.mp
        (show (LittleEndian.shortest value.toNat).length ≤ 67 by omega)
      rw [show 256 = 2 ^ 8 from rfl, ← pow_mul] at number_lt
      omega
    simp only [encodeUintCompact, nonneg, if_false, not_small]
    generalize (LittleEndian.shortest value.toNat).length = count at long
    by_cases too_long : 255 < count
    · exact ⟨_, by rw [if_pos too_long]⟩
    · have top : (63 : UInt8) < UInt8.ofNat (count - 4) := by
        rw [UInt8.lt_iff_toNat_lt, UInt8.toNat_ofNat']
        change 63 < (count - 4) % 256
        omega
      exact ⟨_, by rw [if_neg too_long, if_pos top]⟩

private theorem toNat_ofNat_of_lt {number : Nat} (number_lt : number < 256) :
    (UInt8.ofNat number).toNat = number := by
  rw [UInt8.toNat_ofNat']
  exact Nat.mod_eq_of_lt number_lt

/-- The decoder reads back the bytes of every number of the grammar. -/
theorem reads_compactBytes {number : Nat} (number_lt : number < 2 ^ 536) :
    Reads decodeUintCompact (compactBytes number) number := by
  intro rest
  unfold compactBytes
  split_ifs with mode0 mode1 mode2
  · have byte : (UInt8.ofNat (4 * number)).toNat = 4 * number := toNat_ofNat_of_lt (by omega)
    rw [LittleEndian.ofNat, LittleEndian.ofNat, List.cons_append, List.nil_append,
      decodeUintCompact_mode0 (by omega), byte]
    congr 2
    omega
  · have high : (4 * number + 1) / 256 < 256 := by omega
    have first : (UInt8.ofNat (4 * number + 1)).toNat = (4 * number + 1) % 256 := by
      rw [UInt8.toNat_ofNat']
    have second : (UInt8.ofNat ((4 * number + 1) / 256)).toNat = (4 * number + 1) / 256 :=
      toNat_ofNat_of_lt high
    simp only [LittleEndian.ofNat, List.cons_append, List.nil_append]
    rw [decodeUintCompact_mode1 (by omega), first, second]
    congr 2
    omega
  · have word := LittleEndian.toNat_ofNat (show 4 * number + 2 < 256 ^ 4 by omega)
    have first : (UInt8.ofNat (4 * number + 2)).toNat = (4 * number + 2) % 256 := by
      rw [UInt8.toNat_ofNat']
    rw [LittleEndian.ofNat] at word ⊢
    rw [decodeUintCompact_mode2 (by omega) (LittleEndian.length_ofNat 3 _), word]
    congr 2
    omega
  · obtain ⟨lower, upper⟩ := length_shortest_bounds (by omega) number_lt
    have first :
        (UInt8.ofNat (4 * ((LittleEndian.shortest number).length - 4) + 3)).toNat =
          4 * ((LittleEndian.shortest number).length - 4) + 3 :=
      toNat_ofNat_of_lt (by omega)
    rw [decodeUintCompact_mode3 (by omega) (by omega), LittleEndian.toNat_shortest]

/-- What is encoded lies in the grammar. -/
theorem encodeUintCompact_eq_ok {number : Nat} {written : List UInt8}
    (encoded : encodeUintCompact number = .ok written) :
    number < 2 ^ 536 ∧ written = compactBytes number := by
  have number_lt : number < 2 ^ 536 := by
    by_contra large
    obtain ⟨reason, failed⟩ := encodeUintCompact_out_of_range
      (.inr (by exact_mod_cast not_lt.mp large : (2 ^ 536 : Int) ≤ number))
    rw [failed] at encoded
    cases encoded
  rw [encodeUintCompact_eq number_lt] at encoded
  cases encoded
  exact ⟨number_lt, rfl⟩

/-- What is encoded is read back from the front of the input. -/
theorem reads_of_encodeUintCompact {number : Nat} {written : List UInt8}
    (encoded : encodeUintCompact number = .ok written) :
    Reads decodeUintCompact written number := by
  obtain ⟨number_lt, rfl⟩ := encodeUintCompact_eq_ok encoded
  exact reads_compactBytes number_lt

/-- Encoding fails exactly outside the grammar, and inside it the decoder gets the number back and
leaves what follows. -/
theorem encodeUintCompact_total_round_trip (value : Int) :
    ((∃ reason, encodeUintCompact value = .error reason) ↔ value < 0 ∨ 2 ^ 536 ≤ value) ∧
      (0 ≤ value → value < 2 ^ 536 →
        ∃ bytes, encodeUintCompact value = .ok bytes ∧
          ∀ rest, decodeUintCompact (bytes ++ rest) = .ok (value.toNat, rest)) := by
  have inside : 0 ≤ value → value < 2 ^ 536 →
      encodeUintCompact value = .ok (compactBytes value.toNat) ∧ value.toNat < 2 ^ 536 := by
    intro nonneg value_lt
    lift value to Nat using nonneg
    have number_lt : value < 2 ^ 536 := by exact_mod_cast value_lt
    exact ⟨encodeUintCompact_eq number_lt, number_lt⟩
  constructor
  · constructor
    · rintro ⟨reason, failed⟩
      by_contra range
      rw [not_or, not_lt, not_le] at range
      rw [(inside range.1 range.2).1] at failed
      cases failed
    · exact encodeUintCompact_out_of_range
  · intro nonneg value_lt
    obtain ⟨encoded, number_lt⟩ := inside nonneg value_lt
    exact ⟨compactBytes value.toNat, encoded, reads_compactBytes number_lt⟩

/-- A number of mode one, with the two bytes it is written as. -/
theorem encodeUintCompact_round_trip_hundred :
    ∃ bytes, encodeUintCompact 100 = .ok bytes ∧
      ∀ rest, decodeUintCompact (bytes ++ rest) = .ok (100, rest) :=
  (encodeUintCompact_total_round_trip 100).2 (by norm_num)
    (show (100 : Int) < 2 ^ 536 by exact_mod_cast lt_compact_bound (show 100 < 2 ^ 64 by norm_num))

/-! ## `types.UCompact` -/

/-- A big integer that is sent in compact form. -/
def UCompact : Type := Int
  deriving DecidableEq

namespace UCompact

/-- `UCompact.Encode`. -/
def encode (value : UCompact) : Written := encodeUintCompact value

/-- `UCompact.Decode`. -/
def decode : Decoder UCompact := do
  let number ← decodeUintCompact
  pure (number : Int)

/-- The integer lies in the range of the compact encoding. -/
def InRange (value : UCompact) : Prop := ∃ number : Nat, value = (number : Int) ∧ number < 2 ^ 536

theorem encode_reads {value : UCompact} (in_range : value.InRange) :
    ∃ bytes, value.encode = .ok bytes ∧ Reads decode bytes value := by
  obtain ⟨number, rfl, number_lt⟩ := in_range
  exact ⟨compactBytes number, encodeUintCompact_eq number_lt,
    (reads_compactBytes number_lt).bind_pure fun number => ((number : Int) : UCompact)⟩

theorem length_encode_le {value : UCompact} {written : List UInt8} (in_range : value.InRange)
    (encoded : value.encode = .ok written) : written.length ≤ 68 := by
  obtain ⟨number, rfl, number_lt⟩ := in_range
  have number_eq : UCompact.encode ((number : Int) : UCompact) = .ok (compactBytes number) :=
    encodeUintCompact_eq number_lt
  rw [number_eq] at encoded
  cases encoded
  exact length_compactBytes_le number_lt

end UCompact

end SubstrateClient.Scale
