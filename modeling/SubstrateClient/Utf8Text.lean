import Mathlib.Data.List.Basic

/-!
# Strings as bytes

Strings and their UTF-8 bytes.  A character of the ASCII range is one byte that occurs in no other
character, so that splitting at it can be done on the bytes.  A text found in joined texts is found in one of
them, if it cannot reach across what joins them.
-/

namespace Utf8Text

/-- The bytes of a string. -/
def bytes (text : String) : List UInt8 := text.toUTF8.data.toList

theorem bytes_inj {first second : String} : bytes first = bytes second ↔ first = second := by
  constructor
  · intro same
    refine String.toByteArray_inj.mp (ByteArray.ext (Array.toList_inj.mp same))
  · rintro rfl
    rfl

theorem bytes_append (first second : String) : bytes (first ++ second) = bytes first ++ bytes second := by
  rw [bytes, bytes, bytes]
  simp [String.toByteArray_append]

/-- The string is found back from its bytes. -/
theorem fromUTF8?_bytes (text : String) : String.fromUTF8? ⟨(bytes text).toArray⟩ = some text := by
  have same : (⟨(bytes text).toArray⟩ : ByteArray) = text.toByteArray := rfl
  rw [same, String.fromUTF8?, dif_pos text.isValidUTF8]
  rfl

theorem bytes_ofList (chars : List Char) :
    bytes (String.ofList chars) = chars.flatMap String.utf8EncodeChar := by
  rw [bytes, String.toUTF8_eq_toByteArray, String.toByteArray_ofList, List.utf8Encode]
  simp

/-- The first character has an ASCII byte, or only bytes beyond that range. -/
theorem utf8EncodeChar_cases (char : Char) :
    (char.val.toNat < 128 ∧ String.utf8EncodeChar char = [UInt8.ofNat char.val.toNat]) ∨
      ∀ byte ∈ String.utf8EncodeChar char, 128 ≤ byte.toNat := by
  unfold String.utf8EncodeChar
  dsimp only
  split
  · exact .inl ⟨by omega, rfl⟩
  · right
    split
    · simp only [List.mem_cons, List.not_mem_nil, or_false]
      rintro byte (rfl | rfl) <;> rw [UInt8.toNat_ofNat'] <;> omega
    · split
      · simp only [List.mem_cons, List.not_mem_nil, or_false]
        rintro byte (rfl | rfl | rfl) <;> rw [UInt8.toNat_ofNat'] <;> omega
      · simp only [List.mem_cons, List.not_mem_nil, or_false]
        rintro byte (rfl | rfl | rfl | rfl) <;> rw [UInt8.toNat_ofNat'] <;> omega

theorem utf8EncodeChar_ascii {char : Char} (ascii : char.val.toNat < 128) :
    String.utf8EncodeChar char = [UInt8.ofNat char.val.toNat] := by
  rw [String.utf8EncodeChar, if_pos (by omega)]

/-- A byte of the ASCII range belongs to its own character only. -/
theorem not_mem_utf8EncodeChar {char sep : Char} (ascii : sep.val.toNat < 128) (other : char ≠ sep) :
    UInt8.ofNat sep.val.toNat ∉ String.utf8EncodeChar char := by
  have own : (UInt8.ofNat sep.val.toNat).toNat = sep.val.toNat := by
    rw [UInt8.toNat_ofNat', Nat.mod_eq_of_lt (by omega)]
  intro member
  rcases utf8EncodeChar_cases char with ⟨small, single⟩ | large
  · rw [single, List.mem_singleton] at member
    have same := congrArg UInt8.toNat member
    rw [own, UInt8.toNat_ofNat', Nat.mod_eq_of_lt (by omega)] at same
    exact other (Char.ext (UInt32.toNat_inj.mp same.symm))
  · have beyond := large _ member
    omega

/-- Without the separator, bytes in front belong to the first part. -/
theorem splitOn_append_of_not_mem {sep : UInt8} {front : List UInt8} (without : sep ∉ front)
    (later : List UInt8) :
    (front ++ later).splitOn sep = (later.splitOn sep).modifyHead (front ++ ·) := by
  induction front with
  | nil => cases parts : later.splitOn sep <;> simp [parts]
  | cons byte front ih =>
      rw [List.mem_cons, not_or] at without
      rw [List.cons_append, List.splitOn_cons_eq_if_modifyHead, if_neg (by simpa using Ne.symm without.1),
        ih without.2, List.modifyHead_modifyHead]
      rfl

/-- The parts of the bytes are the bytes of the parts. -/
theorem splitOn_bytes {sep : Char} (ascii : sep.val.toNat < 128) (chars : List Char) :
    (bytes (String.ofList chars)).splitOn (UInt8.ofNat sep.val.toNat) =
      (chars.splitOn sep).map fun part => bytes (String.ofList part) := by
  simp only [bytes_ofList]
  induction chars with
  | nil => rfl
  | cons char chars ih =>
      rw [List.flatMap_cons, List.splitOn_cons_eq_if_modifyHead]
      by_cases same : char = sep
      · subst same
        rw [utf8EncodeChar_ascii ascii, List.singleton_append, List.splitOn_cons_eq_if_modifyHead,
          if_pos (beq_self_eq_true _), if_pos (beq_self_eq_true _), ih]
        rfl
      · rw [splitOn_append_of_not_mem (not_mem_utf8EncodeChar ascii same), ih, if_neg (by simpa using same)]
        cases chars.splitOn sep with
        | nil => rfl
        | cons part parts => simp

/-! ## Characters one after the other -/

/-- The characters of a byte string from the front on.  A byte at which no character begins stands alone. -/
def runes : (fuel : Nat) → List UInt8 → List (Option Char)
  | 0, _ => []
  | _ + 1, [] => []
  | fuel + 1, byte :: later =>
      match (byte :: later).toByteArray.utf8DecodeChar? 0 with
      | some char => some char :: runes fuel ((byte :: later).drop char.utf8Size)
      | none => none :: runes fuel later

/-- The bytes of a string are those of its characters. -/
theorem runes_bytes (chars : List Char) {fuel : Nat} (enough : (bytes (String.ofList chars)).length ≤ fuel) :
    runes fuel (bytes (String.ofList chars)) = chars.map some := by
  rw [bytes_ofList] at enough ⊢
  induction chars generalizing fuel with
  | nil => cases fuel <;> rfl
  | cons char chars ih =>
      have char_pos := char.utf8Size_pos
      have first := String.length_utf8EncodeChar char
      rw [List.flatMap_cons] at enough ⊢
      rw [List.length_append] at enough
      obtain ⟨fuel, rfl⟩ : ∃ more, fuel = more + 1 := ⟨fuel - 1, by omega⟩
      have read : (String.utf8EncodeChar char ++ chars.flatMap String.utf8EncodeChar).toByteArray.utf8DecodeChar? 0 =
          some char := by
        rw [List.toByteArray_append]
        exact ByteArray.utf8DecodeChar?_utf8EncodeChar_append
      have later : (String.utf8EncodeChar char ++ chars.flatMap String.utf8EncodeChar).drop char.utf8Size =
          chars.flatMap String.utf8EncodeChar := by
        rw [← first, List.drop_left]
      obtain ⟨byte, others, starts⟩ : ∃ byte others, String.utf8EncodeChar char ++
          chars.flatMap String.utf8EncodeChar = byte :: others :=
        List.exists_cons_of_ne_nil (List.ne_nil_of_length_pos (by rw [List.length_append]; omega))
      rw [starts] at read later ⊢
      rw [runes, read]
      simp only [later, ih (show _ ≤ fuel by omega), List.map_cons]

/-! ## Texts joined by a separator -/

/-- A text that has no `mark` in it and does not start with a `blank` does not reach across the separator made
of these two. -/
theorem infix_separated_iff {α : Type} {mark blank : α} {text : List α} (nonempty : text ≠ [])
    (unmarked : mark ∉ text) (no_blank : text.head? ≠ some blank) (left right : List α) :
    text <:+: left ++ mark :: blank :: right ↔ text <:+: left ∨ text <:+: right := by
  have starts : ∀ {first : α} {later : List α}, text.head? ≠ some first →
      (text <:+: first :: later ↔ text <:+: later) := by
    intro first later other
    rw [List.infix_cons_iff, or_iff_right]
    intro is_front
    obtain ⟨head, tail, rfl⟩ := List.exists_cons_of_ne_nil nonempty
    exact other (congrArg some (List.cons_prefix_cons.mp is_front).1)
  have no_mark : text.head? ≠ some mark := fun first => unmarked (List.mem_of_head? first)
  rw [List.infix_append_iff, starts no_mark, starts no_blank]
  constructor
  · rintro (inside | inside | ⟨front, back, rfl, is_end, is_front⟩)
    · exact .inl inside
    · exact .inr inside
    · cases back with
      | nil => exact .inl (by simpa using is_end.isInfix)
      | cons first back =>
          obtain ⟨rfl, -⟩ := List.cons_prefix_cons.mp is_front
          exact absurd (List.mem_append_right front List.mem_cons_self) unmarked
  · rintro (inside | inside)
    · exact .inl inside
    · exact .inr (.inl inside)

end Utf8Text
