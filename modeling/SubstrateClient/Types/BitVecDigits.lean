import SubstrateClient.PresenceBits
import SubstrateClient.Scale.Compact
import SubstrateClient.Types.BitVec

/-!
# The digits of a bit vector

A bit vector keeps its bytes so that their most significant bits come first, and prints them in that
order.  The printed digits are the bits of the sequence in the order that was declared for it.
-/

namespace SubstrateClient.Types

open ByteParser PresenceBits Scale

/-- Bit `k` of a sequence of bytes, each byte counted from the end that the order names. -/
def BitOrder.bitAt (order : BitOrder) (bytes : List UInt8) (k : Nat) : Bool :=
  match order with
  | .lsb0 => ((bytes.getD (k / 8) 0).toNat).testBit (k % 8)
  | .msb0 => ((bytes.getD (k / 8) 0).toNat).testBit (7 - k % 8)

/-- The bits of one byte in the order of the sequence. -/
def BitOrder.byteBits (order : BitOrder) (byte : UInt8) : List Bool :=
  match order with
  | .lsb0 => (List.range 8).map byte.toNat.testBit
  | .msb0 => bitsOf 8 byte.toNat

/-- A printed bit. -/
def binaryDigit (bit : Bool) : Char := if bit then '1' else '0'

/-- A byte as it is kept. -/
def BitOrder.kept (order : BitOrder) (byte : UInt8) : UInt8 :=
  if order = .lsb0 then reverse8 byte else byte

/-! ## One byte -/

theorem bitsOf_reverse8 (byte : UInt8) :
    bitsOf 8 (reverse8 byte).toNat = (List.range 8).map byte.toNat.testBit := by
  have folded : reverse8 byte = UInt8.ofNat (value ((List.range 8).map byte.toNat.testBit)) := by
    rw [reverse8, value, List.foldl_map]
  have small := value_lt ((List.range 8).map byte.toNat.testBit)
  have restored := bitsOf_value ((List.range 8).map byte.toNat.testBit)
  rw [List.length_map, List.length_range] at small restored
  rw [folded, UInt8.toNat_ofNat', Nat.mod_eq_of_lt small, restored]

/-- The kept byte has the bits of the sequence, most significant first. -/
theorem BitOrder.bitsOf_kept (order : BitOrder) (byte : UInt8) :
    bitsOf 8 (order.kept byte).toNat = order.byteBits byte := by
  cases order with
  | lsb0 => exact bitsOf_reverse8 byte
  | msb0 => rfl

@[simp]
theorem BitOrder.length_byteBits (order : BitOrder) (byte : UInt8) :
    (order.byteBits byte).length = 8 := by
  cases order <;> simp [byteBits]

theorem binaryDigits_eq (byte : UInt8) :
    binaryDigits byte = String.ofList ((bitsOf 8 byte.toNat).map binaryDigit) := by
  rw [binaryDigits, bitsOf, List.map_map]
  rfl

/-! ## All bytes -/

theorem join_map_ofList {α : Type} (texts : α → List Char) (items : List α) :
    String.join (items.map fun item => String.ofList (texts item)) =
      String.ofList (items.flatMap texts) := by
  apply String.ext
  rw [String.toList_join, String.toList_ofList, List.flatMap_map]
  simp

/-- The digits of a kept sequence are its bits. -/
theorem string_kept (order : BitOrder) (bytes : List UInt8) :
    BitVec.string (bytes.map order.kept) =
      String.ofList ('0' :: 'b' :: (bytes.flatMap order.byteBits).map binaryDigit) := by
  have digits : (bytes.map order.kept).map binaryDigits =
      bytes.map fun byte => String.ofList ((order.byteBits byte).map binaryDigit) := by
    rw [List.map_map]
    refine List.map_congr_left fun byte _ => ?_
    rw [Function.comp_apply, binaryDigits_eq, order.bitsOf_kept]
  rw [BitVec.string, digits, join_map_ofList, List.map_flatMap]
  apply String.ext
  simp

/-- Every byte has eight places in a row. -/
theorem getElem?_flatMap_byteBits (order : BitOrder) {bytes : List UInt8} {k : Nat}
    (inside : k < 8 * bytes.length) :
    (bytes.flatMap order.byteBits)[k]? = some (order.bitAt bytes k) := by
  induction bytes generalizing k with
  | nil => simp at inside
  | cons byte bytes ih =>
      rw [List.length_cons] at inside
      rw [List.flatMap_cons]
      by_cases first : k < 8
      · rw [List.getElem?_append_left (by simpa using first)]
        cases order with
        | lsb0 => simp [BitOrder.byteBits, BitOrder.bitAt, first, Nat.div_eq_of_lt, Nat.mod_eq_of_lt]
        | msb0 =>
            simp [BitOrder.byteBits, BitOrder.bitAt, bitsOf, first, Nat.div_eq_of_lt, Nat.mod_eq_of_lt]
      · have later : k / 8 = (k - 8) / 8 + 1 := by omega
        have place : k % 8 = (k - 8) % 8 := by omega
        rw [List.getElem?_append_right (by simpa using first), order.length_byteBits,
          ih (by omega)]
        cases order <;> simp [BitOrder.bitAt, later, place]

/-! ## Decoding -/

/-- Up to fifty-three bits the floating-point number is exact. -/
theorem reads_getMinimumNumberOfBytes {n : Nat} (positive : 1 ≤ n) (exact_float : n < 2 ^ 53) :
    Reads getMinimumNumberOfBytes (compactBytes n) ((n + 7) / 8) := by
  intro rest
  have small : n % 2 ^ 64 = n := Nat.mod_eq_of_lt (exact_float.trans (by norm_num))
  have nonzero : ¬ n = 0 := by omega
  rw [getMinimumNumberOfBytes, bind_apply, reads_compactBytes (lt_compact_bound (by omega)) rest]
  simp only [Outcome.ok_bind, small, nonzero, if_false, toFloat64, exact_float, if_true, pure_apply]

theorem reads_times_readOneByte (bytes : List UInt8) :
    Reads (times readOneByte bytes.length) bytes bytes := by
  induction bytes with
  | nil => exact reads_pure []
  | cons byte bytes ih =>
      exact (reads_readOneByte byte).bind (ih.bind_pure fun later => byte :: later)

theorem reads_bitVec (order : BitOrder) {n : Nat} (positive : 1 ≤ n) (exact_float : n < 2 ^ 53)
    {bytes : List UInt8} (width : bytes.length = (n + 7) / 8) :
    Reads (BitVec.decode order) (compactBytes n ++ bytes) (bytes.map order.kept) := by
  have kept : (if order = .lsb0 then bytes.map reverse8 else bytes) = bytes.map order.kept := by
    cases order with
    | lsb0 => rfl
    | msb0 => exact (List.map_id bytes).symm
  have body := (reads_times_readOneByte bytes).bind_pure fun bytes =>
    if order = .lsb0 then bytes.map reverse8 else bytes
  rw [kept, width] at body
  exact (reads_getMinimumNumberOfBytes positive exact_float).bind body

/-- A bit vector of `n` bits is decoded from as many bytes as hold them, and printed bit by bit in the
declared order. -/
theorem bitVec_decode_string (order : BitOrder) {n : Nat} (positive : 1 ≤ n) (below : n < 2 ^ 53)
    {bytes : List UInt8} (width : bytes.length = (n + 7) / 8) (rest : List UInt8) :
    ∃ header byteSlice digits, encodeUintCompact n = .ok header ∧
      BitVec.decode order (header ++ bytes ++ rest) = .ok (byteSlice, rest) ∧
      BitVec.string byteSlice = String.ofList ('0' :: 'b' :: digits) ∧
      digits.length = 8 * ((n + 7) / 8) ∧
      ∀ k < 8 * ((n + 7) / 8), digits[k]? = some (if order.bitAt bytes k then '1' else '0') := by
  refine ⟨compactBytes n, bytes.map order.kept, (bytes.flatMap order.byteBits).map binaryDigit,
    encodeUintCompact_eq (lt_compact_bound (by omega)), reads_bitVec order positive below width rest,
    string_kept order bytes, ?_, fun k inside => ?_⟩
  · rw [List.length_map, List.length_flatMap]
    simp [width, Nat.mul_comm]
  · rw [List.getElem?_map, getElem?_flatMap_byteBits order (by omega)]
    rfl

/-- Nine bits in the order of least significance. -/
theorem bitVec_decode_string_nine :
    ∃ header byteSlice digits, encodeUintCompact (9 : Nat) = .ok header ∧
      BitVec.decode .lsb0 (header ++ [0x0f, 0x01] ++ [7]) = .ok (byteSlice, [7]) ∧
      BitVec.string byteSlice = String.ofList ('0' :: 'b' :: digits) ∧
      digits.length = 8 * ((9 + 7) / 8) ∧
      ∀ k < 8 * ((9 + 7) / 8),
        digits[k]? = some (if BitOrder.lsb0.bitAt [0x0f, 0x01] k then '1' else '0') :=
  bitVec_decode_string .lsb0 (n := 9) (by norm_num) (by norm_num) (by rfl) [7]

example : BitVec.decode .lsb0 [36, 0x0f, 0x01, 7] = .ok ([0xf0, 0x80], [7]) ∧
    BitVec.string [0xf0, 0x80] = "0b1111000010000000" := by
  decide

end SubstrateClient.Types
