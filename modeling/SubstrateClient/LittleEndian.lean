import Mathlib.Data.Nat.Digits.Lemmas
import Mathlib.Tactic.Ring

/-!
# Little-endian byte strings

Fixed-width and shortest little-endian representations of natural numbers.
-/

namespace LittleEndian

/-- The number a byte string stands for, least significant byte first. -/
def toNat : List UInt8 → Nat
  | [] => 0
  | byte :: bytes => byte.toNat + 256 * toNat bytes

/-- The `width` low bytes of a number, least significant first. -/
def ofNat : (width number : Nat) → List UInt8
  | 0, _ => []
  | width + 1, number => UInt8.ofNat number :: ofNat width (number / 256)

/-- The shortest byte string of a number, empty for zero. -/
def shortest (number : Nat) : List UInt8 :=
  (Nat.digits 256 number).map UInt8.ofNat

@[simp]
theorem length_ofNat (width number : Nat) : (ofNat width number).length = width := by
  induction width generalizing number with
  | zero => rfl
  | succ width ih => simp [ofNat, ih]

theorem toNat_lt (bytes : List UInt8) : toNat bytes < 256 ^ bytes.length := by
  induction bytes with
  | nil => simp [toNat]
  | cons byte bytes ih =>
      have byte_lt := byte.toNat_lt
      simp only [toNat, List.length_cons, pow_succ]
      omega

theorem toNat_ofNat {width number : Nat} (number_lt : number < 256 ^ width) :
    toNat (ofNat width number) = number := by
  induction width generalizing number with
  | zero => simp only [pow_zero] at number_lt; simp [ofNat, toNat]; omega
  | succ width ih =>
      have quotient_lt : number / 256 < 256 ^ width := by
        rw [pow_succ] at number_lt
        omega
      simp only [ofNat, toNat, ih quotient_lt, UInt8.toNat_ofNat']
      omega

theorem ofNat_toNat (bytes : List UInt8) : ofNat bytes.length (toNat bytes) = bytes := by
  induction bytes with
  | nil => rfl
  | cons byte bytes ih =>
      have byte_lt := byte.toNat_lt
      have quotient : (byte.toNat + 256 * toNat bytes) / 256 = toNat bytes := by omega
      have low : UInt8.ofNat (byte.toNat + 256 * toNat bytes) = byte := by
        apply UInt8.toNat_inj.mp
        rw [UInt8.toNat_ofNat']
        omega
      simp only [List.length_cons, ofNat, toNat, quotient, ih, low]

theorem toNat_eq_ofDigits (bytes : List UInt8) :
    toNat bytes = Nat.ofDigits 256 (bytes.map UInt8.toNat) := by
  induction bytes with
  | nil => rfl
  | cons byte bytes ih => simp [toNat, ih, Nat.ofDigits_cons]

@[simp]
theorem toNat_shortest (number : Nat) : toNat (shortest number) = number := by
  have digits_small : ∀ digit ∈ Nat.digits 256 number, (UInt8.ofNat digit).toNat = digit := by
    intro digit member
    have digit_lt : digit < 256 := Nat.digits_lt_base (by norm_num) member
    rw [UInt8.toNat_ofNat']
    exact Nat.mod_eq_of_lt digit_lt
  rw [toNat_eq_ofDigits, shortest, List.map_map]
  rw [show (Nat.digits 256 number).map (UInt8.toNat ∘ UInt8.ofNat) = Nat.digits 256 number from
    (List.map_congr_left digits_small).trans (List.map_id _)]
  exact Nat.ofDigits_digits 256 number

/-- The shortest representation has at most `width` bytes exactly below `256 ^ width`. -/
theorem length_shortest_le_iff {number width : Nat} :
    (shortest number).length ≤ width ↔ number < 256 ^ width := by
  rw [shortest, List.length_map]
  exact Nat.digits_length_le_iff (by norm_num) number

theorem toNat_append (low high : List UInt8) :
    toNat (low ++ high) = toNat low + 256 ^ low.length * toNat high := by
  induction low with
  | nil => simp [toNat]
  | cons byte low ih =>
      simp only [List.cons_append, toNat, ih, List.length_cons, pow_succ]
      ring

/-- Byte strings of one length that stand for the same number are the same. -/
theorem eq_of_toNat_eq {left right : List UInt8} (width : left.length = right.length)
    (same : toNat left = toNat right) : left = right := by
  rw [← ofNat_toNat left, ← ofNat_toNat right, width, same]

/-- A byte string is the shortest one of its number exactly when its top byte is not zero. -/
theorem shortest_toNat_snoc_eq_iff (low : List UInt8) {top : UInt8} :
    shortest (toNat (low ++ [top])) = low ++ [top] ↔ top ≠ 0 := by
  have low_lt := toNat_lt low
  have value : toNat (low ++ [top]) = toNat low + 256 ^ low.length * top.toNat := by
    rw [toNat_append]
    simp [toNat]
  constructor
  · rintro same rfl
    have short : (shortest (toNat (low ++ [0]))).length ≤ low.length := by
      rw [length_shortest_le_iff, value]
      simpa using low_lt
    rw [same, List.length_append, List.length_singleton] at short
    omega
  · intro top_ne
    have top_pos : 1 ≤ top.toNat := by
      by_contra zero
      exact top_ne (UInt8.toNat_inj.mp (by simpa using zero))
    have at_most : (shortest (toNat (low ++ [top]))).length ≤ low.length + 1 := by
      rw [length_shortest_le_iff]
      simpa using toNat_lt (low ++ [top])
    have at_least : ¬ (shortest (toNat (low ++ [top]))).length ≤ low.length := by
      rw [length_shortest_le_iff, value, not_lt]
      have := Nat.mul_le_mul_left (256 ^ low.length) top_pos
      omega
    apply eq_of_toNat_eq
    · rw [List.length_append, List.length_singleton]
      omega
    · rw [toNat_shortest]

end LittleEndian
