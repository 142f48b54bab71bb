import Mathlib.Data.List.Induction
import Mathlib.Data.List.ReduceOption
import Mathlib.Data.Nat.Bitwise

/-!
# Presence bits

A list with gaps can be kept as its present values and one bit for every place.  The bits are packed into
numbers of a fixed width, the first bit being the most significant one.
-/

namespace PresenceBits

/-! ## Bits of numbers -/

/-- The number whose bits are given, most significant first. -/
def value (bits : List Bool) : Nat := bits.foldl (fun acc bit => 2 * acc + bit.toNat) 0

@[simp]
theorem value_append_singleton (bits : List Bool) (bit : Bool) :
    value (bits ++ [bit]) = 2 * value bits + bit.toNat := by
  simp [value]

theorem value_lt (bits : List Bool) : value bits < 2 ^ bits.length := by
  induction bits using List.reverseRecOn with
  | nil => simp [value]
  | append_singleton bits bit ih =>
      have small := Bool.toNat_lt bit
      rw [value_append_singleton, List.length_append, List.length_singleton, pow_succ]
      omega

/-- The lowest bits of a number, most significant first. -/
def bitsOf (width number : Nat) : List Bool :=
  (List.range width).map fun place => number.testBit (width - 1 - place)

@[simp]
theorem length_bitsOf (width number : Nat) : (bitsOf width number).length = width := by
  simp [bitsOf]

theorem bitsOf_succ (width number : Nat) (bit : Bool) :
    bitsOf (width + 1) (2 * number + bit.toNat) = bitsOf width number ++ [bit] := by
  have last : (2 * number + bit.toNat).testBit 0 = bit := by
    cases bit <;> simp [Nat.testBit_zero]
  have earlier : ∀ place < width,
      (2 * number + bit.toNat).testBit (width - place) = number.testBit (width - 1 - place) := by
    intro place inside
    have half : (2 * number + bit.toNat) / 2 = number := by
      have small := Bool.toNat_lt bit
      omega
    rw [show width - place = width - 1 - place + 1 by omega, Nat.testBit_succ, half]
  simp only [bitsOf, List.range_succ, List.map_append, List.map_singleton, Nat.add_sub_cancel,
    Nat.sub_self, last]
  congr 1
  exact List.map_congr_left fun place inside => earlier place (List.mem_range.mp inside)

/-- The bits of a number are the bits it was made of. -/
theorem bitsOf_value (bits : List Bool) : bitsOf bits.length (value bits) = bits := by
  induction bits using List.reverseRecOn with
  | nil => rfl
  | append_singleton bits bit ih =>
      rw [value_append_singleton, List.length_append, List.length_singleton, bitsOf_succ, ih]

/-! ## Lists with gaps -/

variable {α : Type}

/-- Put the values in the places whose bits are set; there may be more values, but not fewer. -/
def scatter : List Bool → List α → Option (List (Option α))
  | [], _ => some []
  | false :: bits, values => (scatter bits values).map (none :: ·)
  | true :: _, [] => none
  | true :: bits, value :: values => (scatter bits values).map (some value :: ·)

/-- The bits and the values of a list with gaps give the list. -/
theorem scatter_presence (entries : List (Option α)) :
    scatter (entries.map Option.isSome) entries.reduceOption = some entries := by
  induction entries with
  | nil => rfl
  | cons entry entries ih =>
      cases entry with
      | none => simp [scatter, ih]
      | some value => simp [scatter, ih]

/-- There are places for all values or too few values. -/
theorem scatter_eq_none_iff {bits : List Bool} {values : List α} :
    scatter bits values = none ↔ values.length < bits.count true := by
  induction bits generalizing values with
  | nil => simp [scatter]
  | cons bit bits ih =>
      cases bit with
      | false => simp [scatter, ih]
      | true =>
          cases values with
          | nil => simp [scatter]
          | cons value values => simp [scatter, ih]

end PresenceBits
