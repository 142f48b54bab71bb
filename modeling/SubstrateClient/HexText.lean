import Mathlib.Data.List.Infix
import Mathlib.Tactic.Common

/-!
# Byte strings in hexadecimal digits

Each byte is written as two digits, the high half first.  A reader takes digits of either case, so
what is written with one set of digits is read back whichever set it was.
-/

namespace HexText

/-- The value of a digit of either case. -/
def digitValue (digit : Char) : Option Nat :=
  if '0' ≤ digit ∧ digit ≤ '9' then
    some (digit.toNat - '0'.toNat)
  else if 'a' ≤ digit ∧ digit ≤ 'f' then
    some (digit.toNat - 'a'.toNat + 10)
  else if 'A' ≤ digit ∧ digit ≤ 'F' then
    some (digit.toNat - 'A'.toNat + 10)
  else
    none

/-- The case of the digits above nine. -/
inductive LetterCase where
  | lower | upper
  deriving DecidableEq, Repr

/-- The digit of a value below sixteen. -/
def LetterCase.digit (letters : LetterCase) (value : Nat) : Char :=
  if value < 10 then
    Char.ofNat ('0'.toNat + value)
  else
    match letters with
    | .lower => Char.ofNat ('a'.toNat + (value - 10))
    | .upper => Char.ofNat ('A'.toNat + (value - 10))

/-- The digits of a byte string. -/
def digits (letters : LetterCase) (bytes : List UInt8) : List Char :=
  bytes.flatMap fun byte => [letters.digit (byte.toNat / 16), letters.digit (byte.toNat % 16)]

/-- The bytes of a text of digits, unless it has another character or an odd length. -/
def ofDigits : List Char → Option (List UInt8)
  | [] => some []
  | [_] => none
  | high :: low :: later => do
      let highValue ← digitValue high
      let lowValue ← digitValue low
      let bytes ← ofDigits later
      pure (UInt8.ofNat (16 * highValue + lowValue) :: bytes)

/-- No half of a byte is above nine. -/
def LetterFree (bytes : List UInt8) : Prop :=
  ∀ byte ∈ bytes, byte.toNat / 16 < 10 ∧ byte.toNat % 16 < 10

instance (bytes : List UInt8) : Decidable (LetterFree bytes) :=
  List.decidableBAll (fun byte : UInt8 => byte.toNat / 16 < 10 ∧ byte.toNat % 16 < 10) bytes

@[simp]
theorem digits_nil (letters : LetterCase) : digits letters [] = [] := rfl

@[simp]
theorem digits_cons (letters : LetterCase) (byte : UInt8) (bytes : List UInt8) :
    digits letters (byte :: bytes) =
      letters.digit (byte.toNat / 16) :: letters.digit (byte.toNat % 16) ::
        digits letters bytes := rfl

theorem digits_append (letters : LetterCase) (front back : List UInt8) :
    digits letters (front ++ back) = digits letters front ++ digits letters back :=
  List.flatMap_append

theorem length_digits (letters : LetterCase) (bytes : List UInt8) :
    (digits letters bytes).length = 2 * bytes.length := by
  induction bytes with
  | nil => rfl
  | cons byte bytes ih =>
      simp only [digits_cons, List.length_cons, ih]
      omega

/-- Every digit has its value, in either case. -/
theorem digitValue_digit (letters : LetterCase) {value : Nat} (value_lt : value < 16) :
    digitValue (letters.digit value) = some value := by
  have table : ∀ small : Fin 16, digitValue (letters.digit small) = some small.val := by
    cases letters <;> decide
  exact table ⟨value, value_lt⟩

/-- The two cases differ exactly in the digits above nine. -/
theorem digit_lower_eq_upper_iff {value : Nat} (value_lt : value < 16) :
    LetterCase.lower.digit value = LetterCase.upper.digit value ↔ value < 10 := by
  have table : ∀ small : Fin 16, LetterCase.lower.digit small = LetterCase.upper.digit small ↔
      small.val < 10 := by decide
  exact table ⟨value, value_lt⟩

/-- The digits of a byte string are read back. -/
theorem ofDigits_digits (letters : LetterCase) (bytes : List UInt8) :
    ofDigits (digits letters bytes) = some bytes := by
  induction bytes with
  | nil => rfl
  | cons byte bytes ih =>
      have byte_lt := byte.toNat_lt
      have halves : 16 * (byte.toNat / 16) + byte.toNat % 16 = byte.toNat := by omega
      have high := digitValue_digit letters (show byte.toNat / 16 < 16 by omega)
      have low := digitValue_digit letters (show byte.toNat % 16 < 16 by omega)
      simp only [digits_cons, ofDigits, high, low, ih, Option.bind_eq_bind, Option.bind_some,
        halves, UInt8.ofNat_toNat]
      rfl

/-- Both cases write a byte string alike exactly when it needs no letters. -/
theorem digits_lower_eq_upper_iff (bytes : List UInt8) :
    digits .lower bytes = digits .upper bytes ↔ LetterFree bytes := by
  induction bytes with
  | nil => simp [LetterFree]
  | cons byte bytes ih =>
      have byte_lt := byte.toNat_lt
      simp only [digits_cons, List.cons.injEq, ih,
        digit_lower_eq_upper_iff (show byte.toNat / 16 < 16 by omega),
        digit_lower_eq_upper_iff (show byte.toNat % 16 < 16 by omega)]
      simp only [LetterFree, List.forall_mem_cons, and_assoc]

/-- The lower-case digits of a front part begin the digits of the whole exactly when the whole is
written in lower case or the front part needs no letters. -/
theorem digits_lower_prefix_iff (letters : LetterCase) (front back : List UInt8) :
    digits .lower front <+: digits letters (front ++ back) ↔
      (letters = .upper → LetterFree front) := by
  have same_length : (digits .lower front).length = (digits letters front).length := by
    rw [length_digits, length_digits]
  have front_iff : digits .lower front <+: digits letters (front ++ back) ↔
      digits .lower front = digits letters front := by
    rw [digits_append]
    constructor
    · rintro ⟨later, split⟩
      exact (List.append_inj split same_length).1
    · intro same
      rw [same]
      exact ⟨digits letters back, rfl⟩
  rw [front_iff]
  cases letters with
  | lower => simp
  | upper => simpa using digits_lower_eq_upper_iff front

end HexText
