import Mathlib.Data.Nat.Bitwise
import SubstrateClient.LittleEndian

/-!
# Big-endian byte strings

Unsigned and two's complement numbers of byte strings, most significant byte first.
-/

namespace BigEndian

/-- The number a byte string stands for, most significant byte first. -/
def toNat (bytes : List UInt8) : Nat :=
  LittleEndian.toNat bytes.reverse

/-- The shortest byte string of a number, empty for zero. -/
def shortest (number : Nat) : List UInt8 :=
  (LittleEndian.shortest number).reverse

/-- The bitwise complement of a byte string. -/
def complement (bytes : List UInt8) : List UInt8 :=
  bytes.map fun byte => ~~~byte

/-- The two's complement number of a byte string. -/
def signed (bytes : List UInt8) : Int :=
  if 2 * toNat bytes < 256 ^ bytes.length then toNat bytes else toNat bytes - 256 ^ bytes.length

theorem toNat_lt (bytes : List UInt8) : toNat bytes < 256 ^ bytes.length := by
  simpa [toNat] using LittleEndian.toNat_lt bytes.reverse

theorem toNat_append (high low : List UInt8) :
    toNat (high ++ low) = toNat low + 256 ^ low.length * toNat high := by
  rw [toNat, List.reverse_append, LittleEndian.toNat_append, List.length_reverse]
  rfl

theorem toNat_cons (first : UInt8) (bytes : List UInt8) :
    toNat (first :: bytes) = toNat bytes + 256 ^ bytes.length * first.toNat := by
  rw [← List.singleton_append, toNat_append]
  rfl

@[simp]
theorem toNat_shortest (number : Nat) : toNat (shortest number) = number := by
  simp [toNat, shortest]

theorem length_shortest_le_iff {number width : Nat} :
    (shortest number).length ≤ width ↔ number < 256 ^ width := by
  rw [shortest, List.length_reverse, LittleEndian.length_shortest_le_iff]

@[simp]
theorem length_complement (bytes : List UInt8) : (complement bytes).length = bytes.length := by
  simp [complement]

theorem toNat_replicate_zero (count : Nat) : toNat (List.replicate count 0) = 0 := by
  rw [toNat, List.reverse_replicate]
  induction count with
  | zero => rfl
  | succ count ih => simp [List.replicate_succ, LittleEndian.toNat, ih]

/-- Leading zeros do not change the number. -/
theorem toNat_zeros_append (count : Nat) (bytes : List UInt8) :
    toNat (List.replicate count 0 ++ bytes) = toNat bytes := by
  rw [toNat_append, toNat_replicate_zero, mul_zero, add_zero]

/-- A byte string and its complement add up to all ones. -/
theorem toNat_complement (bytes : List UInt8) :
    toNat (complement bytes) + toNat bytes + 1 = 256 ^ bytes.length := by
  induction bytes with
  | nil => rfl
  | cons byte bytes ih =>
      have byte_lt := byte.toNat_lt
      have flipped : (~~~byte).toNat = 255 - byte.toNat := by
        rw [UInt8.toNat_not]
        rfl
      rw [complement, List.map_cons, ← complement, toNat_cons, toNat_cons, length_complement,
        flipped, List.length_cons, pow_succ]
      have both : 256 ^ bytes.length * (255 - byte.toNat) + 256 ^ bytes.length * byte.toNat =
          256 ^ bytes.length * 255 := by
        rw [← mul_add]
        congr 1
        omega
      omega

/-- Byte strings of one length that stand for the same number are the same. -/
theorem eq_of_toNat_eq {left right : List UInt8} (width : left.length = right.length)
    (same : toNat left = toNat right) : left = right :=
  List.reverse_injective (LittleEndian.eq_of_toNat_eq (by simpa using width) same)

/-- The top bit tells the lower half of the range from the upper one. -/
theorem top_bit_clear_iff (first : UInt8) (bytes : List UInt8) :
    first &&& 0x80 = 0 ↔ 2 * toNat (first :: bytes) < 256 ^ (first :: bytes).length := by
  have low_lt := toNat_lt bytes
  have half : first &&& 0x80 = 0 ↔ first.toNat < 128 := by
    have byte_lt := first.toNat_lt
    rw [← UInt8.toNat_inj, UInt8.toNat_and]
    change first.toNat &&& 2 ^ 7 = 0 ↔ _
    rw [Nat.and_two_pow, Nat.testBit_eq_decide_div_mod_eq]
    by_cases large : first.toNat / 2 ^ 7 % 2 = 1
    · simp only [large, decide_true, Bool.toNat_true]
      omega
    · simp only [large, decide_false, Bool.toNat_false]
      omega
  rw [half, toNat_cons, List.length_cons, pow_succ]
  constructor
  · intro small
    have := Nat.mul_le_mul_left (256 ^ bytes.length) (by omega : first.toNat ≤ 127)
    omega
  · intro small
    by_contra large
    have := Nat.mul_le_mul_left (256 ^ bytes.length) (by omega : 128 ≤ first.toNat)
    omega

theorem signed_bounds (bytes : List UInt8) :
    -(256 : Int) ^ bytes.length ≤ 2 * signed bytes ∧ 2 * signed bytes < 256 ^ bytes.length := by
  have below := toNat_lt bytes
  have cast : ((256 ^ bytes.length : Nat) : Int) = 256 ^ bytes.length := by push_cast; rfl
  rw [signed, ← cast]
  split_ifs <;> omega

/-- The two's complement number is the unsigned one up to a multiple of the modulus. -/
theorem signed_emod (bytes : List UInt8) : signed bytes % 256 ^ bytes.length = toNat bytes := by
  have below := toNat_lt bytes
  have cast : ((256 ^ bytes.length : Nat) : Int) = 256 ^ bytes.length := by push_cast; rfl
  have reduced : (toNat bytes : Int) % (256 ^ bytes.length : Nat) = toNat bytes := by
    exact_mod_cast Nat.mod_eq_of_lt below
  rw [signed, ← cast]
  split_ifs
  · exact reduced
  · rw [Int.sub_emod_right]
    exact reduced

/-- Byte strings of one length with the same two's complement number are the same. -/
theorem eq_of_signed_eq {left right : List UInt8} (width : left.length = right.length)
    (same : signed left = signed right) : left = right := by
  apply eq_of_toNat_eq width
  have residues := signed_emod left
  rw [same, width, signed_emod right] at residues
  exact_mod_cast residues.symm

end BigEndian
