import SubstrateClient.HexText
import SubstrateClient.JsonText

/-!
# JSON strings and values

Strings are quoted as `encoding/json` does for text that may stand in a page: besides what must be escaped, the
signs of markup and the two line separators are.  Every way of escaping is read back.  Values are parsed from
tokens, so that blanks between these play no part.
-/

namespace JsonText

open HexText

/-! ## Strings -/

/-- A part of a quoted string: a character, or a code unit given by its digits. -/
inductive Piece where
  | char (char : Char)
  | unit (code : Nat)
  deriving DecidableEq, Repr

/-- The character behind a backslash. -/
def simpleEscape : Char → Option Char
  | '"' => some '"'
  | '\\' => some '\\'
  | '/' => some '/'
  | 'b' => some '\x08'
  | 'f' => some '\x0c'
  | 'n' => some '\n'
  | 'r' => some '\r'
  | 't' => some '\t'
  | _ => none

/-- The code unit of four digits. -/
def codeUnit (first second third fourth : Char) : Option Nat := do
  let first ← digitValue first
  let second ← digitValue second
  let third ← digitValue third
  let fourth ← digitValue fourth
  some (((first * 16 + second) * 16 + third) * 16 + fourth)

/-- The parts of a quoted string. -/
def pieces : List Char → Option (List Piece)
  | [] => some []
  | char :: later =>
      if char ≠ '\\' then
        (pieces later).map (.char char :: ·)
      else
        match later with
        | 'u' :: first :: second :: third :: fourth :: later => do
            let code ← codeUnit first second third fourth
            (pieces later).map (.unit code :: ·)
        | escaped :: later => do
            let char ← simpleEscape escaped
            (pieces later).map (.char char :: ·)
        | [] => none

/-- `unicode.ReplacementChar`. -/
def replacement : Char := '\ufffd'

/-- `utf16.IsSurrogate`. -/
def isSurrogate (code : Nat) : Bool := 0xd800 ≤ code && code < 0xe000

/-- `utf16.DecodeRune`, for two units that make a pair. -/
def pair? (first second : Nat) : Option Char :=
  if 0xd800 ≤ first && first < 0xdc00 && 0xdc00 ≤ second && second < 0xe000 then
    some (Char.ofNat ((first - 0xd800) * 0x400 + (second - 0xdc00) + 0x10000))
  else
    none

/-- The characters of the parts. -/
def assemble : List Piece → List Char
  | [] => []
  | .char char :: later => char :: assemble later
  | .unit code :: later =>
      if isSurrogate code then
        match later with
        | .unit second :: others =>
            match pair? code second with
            | some char => char :: assemble others
            | none => replacement :: assemble (.unit second :: others)
        | later => replacement :: assemble later
      else
        Char.ofNat code :: assemble later

/-- The characters of a quoted string. -/
def unquote (body : List Char) : Option (List Char) := (pieces body).map assemble

/-- The signs of markup. -/
def isMarkup (char : Char) : Bool := char = '<' || char = '>' || char = '&'

/-- How `json.Marshal` writes a character of a string, or a byte that belongs to none. -/
def escapeRune : Option Char → List Char
  | none => ['\\', 'u', 'f', 'f', 'f', 'd']
  | some char =>
      if char = '\\' ∨ char = '"' then
        ['\\', char]
      else if char = '\n' then
        ['\\', 'n']
      else if char = '\r' then
        ['\\', 'r']
      else if char = '\t' then
        ['\\', 't']
      else if char.toNat < 0x20 ∨ isMarkup char = true then
        ['\\', 'u', '0', '0', LetterCase.lower.digit (char.toNat / 16), LetterCase.lower.digit (char.toNat % 16)]
      else if char = '\u2028' ∨ char = '\u2029' then
        ['\\', 'u', '2', '0', '2', LetterCase.lower.digit (char.toNat % 16)]
      else
        [char]

/-- A string between quotation marks. -/
def quoteBody (runes : List (Option Char)) : List Char := runes.flatMap escapeRune

theorem pieces_ordinary {char : Char} (ordinary : char ≠ '\\') (later : List Char) :
    pieces (char :: later) = (pieces later).map (.char char :: ·) := by
  rw [pieces.eq_def]
  simp only [if_pos ordinary]

theorem pieces_simple {escaped char : Char} (simple : simpleEscape escaped = some char) (later : List Char) :
    pieces ('\\' :: escaped :: later) = (pieces later).map (.char char :: ·) := by
  have no_unit : escaped ≠ 'u' := by
    rintro rfl
    cases simple
  rw [pieces.eq_def]
  simp only [ne_eq, not_true_eq_false, if_false]
  split
  · rename_i same
    exact absurd (List.cons.inj same).1 no_unit
  · rename_i same
    obtain ⟨rfl, rfl⟩ := List.cons.inj same
    rw [simple]
    rfl
  · rename_i same
    cases same

theorem pieces_unit {first second third fourth : Char} {code : Nat}
    (unit : codeUnit first second third fourth = some code) (later : List Char) :
    pieces ('\\' :: 'u' :: first :: second :: third :: fourth :: later) =
      (pieces later).map (.unit code :: ·) := by
  rw [pieces.eq_def]
  simp only [ne_eq, not_true_eq_false, if_false, unit]
  rfl

theorem assemble_unit {code : Nat} (no_surrogate : isSurrogate code = false) (later : List Piece) :
    assemble (.unit code :: later) = Char.ofNat code :: assemble later := by
  rw [assemble.eq_def]
  simp [no_surrogate]

/-- The parts begin with one that stands for the character. -/
def ReadsAs (text : List Char) (char : Char) : Prop :=
  ∃ piece, (∀ later, pieces (text ++ later) = (pieces later).map (piece :: ·)) ∧
    ∀ others, assemble (piece :: others) = char :: assemble others

theorem readsAs_ordinary {char : Char} (ordinary : char ≠ '\\') : ReadsAs [char] char :=
  ⟨.char char, fun later => pieces_ordinary ordinary later, fun _ => rfl⟩

theorem readsAs_simple {escaped char : Char} (simple : simpleEscape escaped = some char) :
    ReadsAs ['\\', escaped] char :=
  ⟨.char char, fun later => pieces_simple simple later, fun _ => rfl⟩

theorem readsAs_unit {first second third fourth char : Char}
    (unit : codeUnit first second third fourth = some char.toNat)
    (no_surrogate : isSurrogate char.toNat = false) :
    ReadsAs ['\\', 'u', first, second, third, fourth] char := by
  refine ⟨.unit char.toNat, fun later => pieces_unit unit later, fun others => ?_⟩
  rw [assemble_unit no_surrogate, Char.ofNat_toNat]

/-- A small character from the digits of its number. -/
theorem codeUnit_small {code : Nat} (small : code < 256) :
    codeUnit '0' '0' (LetterCase.lower.digit (code / 16)) (LetterCase.lower.digit (code % 16)) = some code := by
  have zero : digitValue '0' = some 0 := rfl
  have halves : code / 16 * 16 + code % 16 = code := by omega
  simp only [codeUnit, zero, digitValue_digit .lower (show code / 16 < 16 by omega),
    digitValue_digit .lower (show code % 16 < 16 by omega), Option.bind_eq_bind, Option.bind_some, Nat.zero_mul,
    Nat.zero_add, halves]

/-- What is escaped by two digits is an ASCII character. -/
theorem toNat_lt_of_escaped {char : Char} (escaped : char.toNat < 0x20 ∨ isMarkup char = true) :
    char.toNat < 128 := by
  rcases escaped with control | markup
  · omega
  · simp only [isMarkup, Bool.or_eq_true, decide_eq_true_eq] at markup
    rcases markup with (rfl | rfl) | rfl <;> decide

/-- However a character is written, it is read back. -/
theorem readsAs_escapeRune (char : Char) : ReadsAs (escapeRune (some char)) char := by
  rw [escapeRune]
  split_ifs with must newline carriage tab small separator
  · rcases must with rfl | rfl <;> exact readsAs_simple rfl
  · exact newline ▸ readsAs_simple rfl
  · exact carriage ▸ readsAs_simple rfl
  · exact tab ▸ readsAs_simple rfl
  · have ascii := toNat_lt_of_escaped small
    refine readsAs_unit (codeUnit_small (by omega)) ?_
    simp only [isSurrogate, Bool.and_eq_false_iff, decide_eq_false_iff_not]
    omega
  · rcases separator with rfl | rfl <;> exact readsAs_unit rfl rfl
  · exact readsAs_ordinary fun escape => must (.inl escape)

theorem unquote_append {text later : List Char} {char : Char} {chars : List Char} (reads : ReadsAs text char)
    (others : unquote later = some chars) : unquote (text ++ later) = some (char :: chars) := by
  obtain ⟨piece, front, stands⟩ := reads
  obtain ⟨read, read_eq, rfl⟩ := Option.map_eq_some_iff.mp others
  rw [unquote, front, read_eq, Option.map_some, Option.map_some, stands]

/-- A quoted string is read back. -/
theorem unquote_quoteBody (chars : List Char) : unquote (quoteBody (chars.map some)) = some chars := by
  induction chars with
  | nil => rfl
  | cons char chars ih => exact unquote_append (readsAs_escapeRune char) ih

/-- The character may stand in a string as it is. -/
def Ordinary (char : Char) : Prop := char ≠ '\\' ∧ char ≠ '"' ∧ ' ' ≤ char

instance (char : Char) : Decidable (Ordinary char) :=
  inferInstanceAs (Decidable (char ≠ '\\' ∧ char ≠ '"' ∧ ' ' ≤ char))

theorem closedBody_ordinary {char : Char} (ordinary : Ordinary char) (later : List Char) :
    closedBody (char :: later) = closedBody later := by
  obtain ⟨no_escape, no_quote, no_control⟩ := ordinary
  rw [closedBody.eq_def]
  simp [no_escape, no_quote, no_control]

theorem closedBody_escape (escaped : Char) (later : List Char) :
    closedBody ('\\' :: escaped :: later) = closedBody later := by
  rw [closedBody.eq_def]
  rfl

theorem closedBody_unit {first second third fourth : Char} (first_may : Ordinary first)
    (second_may : Ordinary second) (third_may : Ordinary third) (fourth_may : Ordinary fourth)
    (later : List Char) :
    closedBody ('\\' :: 'u' :: first :: second :: third :: fourth :: later) = closedBody later := by
  rw [closedBody_escape, closedBody_ordinary first_may, closedBody_ordinary second_may,
    closedBody_ordinary third_may, closedBody_ordinary fourth_may]

theorem ordinary_digit {value : Nat} (value_lt : value < 16) : Ordinary (LetterCase.lower.digit value) := by
  have table : ∀ small : Fin 16, Ordinary (LetterCase.lower.digit small) := by decide
  exact table ⟨value, value_lt⟩

theorem closedBody_escapeRune (rune : Option Char) (later : List Char) :
    closedBody (escapeRune rune ++ later) = closedBody later := by
  have zero : Ordinary '0' := by decide
  cases rune with
  | none => exact closedBody_unit (by decide) (by decide) (by decide) (by decide) later
  | some char =>
      have low_digit : Ordinary (LetterCase.lower.digit (char.toNat % 16)) := ordinary_digit (by omega)
      rw [escapeRune]
      split_ifs with must newline carriage tab small separator
      · exact closedBody_escape char later
      · exact closedBody_escape 'n' later
      · exact closedBody_escape 'r' later
      · exact closedBody_escape 't' later
      · have ascii := toNat_lt_of_escaped small
        have high_digit : Ordinary (LetterCase.lower.digit (char.toNat / 16)) := ordinary_digit (by omega)
        exact closedBody_unit zero zero high_digit low_digit later
      · exact closedBody_unit (by decide) zero (by decide) low_digit later
      · have no_control : ' ' ≤ char := Char.le_def.mpr (UInt32.le_iff_toNat_le.mpr (by
          rw [not_or, not_lt] at small
          exact small.1))
        exact closedBody_ordinary
          ⟨fun escape => must (.inl escape), fun quote => must (.inr quote), no_control⟩ later

theorem closedBody_quoteBody (runes : List (Option Char)) : closedBody (quoteBody runes) = true := by
  induction runes with
  | nil => rfl
  | cons rune runes ih => exact (closedBody_escapeRune rune (quoteBody runes)).trans ih

/-- The token of a quoted string. -/
def quotedToken (runes : List (Option Char)) : Token := .quoted (quoteBody runes) (closedBody_quoteBody runes)

/-! ## Values -/

/-- A JSON value, with its numbers as they stand in the text. -/
inductive Json where
  | null
  | bool (value : Bool)
  | number (digits : List Char)
  | string (text : List Char)
  | array (items : List Json)
  | object (members : List (List Char × Json))

/-- The deepest nesting that `encoding/json` accepts. -/
def maxNestingDepth : Nat := 10000

mutual

/-- The value that the tokens begin with. -/
def parseValue : (fuel depth : Nat) → List Token → Option (Json × List Token)
  | 0, _, _ => none
  | _ + 1, _, .word .null :: later => some (.null, later)
  | _ + 1, _, .word .true :: later => some (.bool true, later)
  | _ + 1, _, .word .false :: later => some (.bool false, later)
  | _ + 1, _, .number digits _ :: later => some (.number digits, later)
  | _ + 1, _, .quoted body _ :: later => do
      let text ← unquote body
      some (.string text, later)
  | fuel + 1, depth + 1, .mark .openBracket :: later =>
      match later with
      | .mark .closeBracket :: later => some (.array [], later)
      | later => do
          let (items, later) ← parseItems fuel depth later
          some (.array items, later)
  | fuel + 1, depth + 1, .mark .openBrace :: later =>
      match later with
      | .mark .closeBrace :: later => some (.object [], later)
      | later => do
          let (members, later) ← parseMembers fuel depth later
          some (.object members, later)
  | _ + 1, _, _ => none

/-- The items of an array that has some. -/
def parseItems : (fuel depth : Nat) → List Token → Option (List Json × List Token)
  | 0, _, _ => none
  | fuel + 1, depth, tokens => do
      let (item, later) ← parseValue fuel depth tokens
      match later with
      | .mark .comma :: later => do
          let (items, later) ← parseItems fuel depth later
          some (item :: items, later)
      | .mark .closeBracket :: later => some ([item], later)
      | _ => none

/-- The members of an object that has some. -/
def parseMembers : (fuel depth : Nat) → List Token → Option (List (List Char × Json) × List Token)
  | 0, _, _ => none
  | fuel + 1, depth, .quoted body _ :: .mark .colon :: tokens => do
      let key ← unquote body
      let (value, later) ← parseValue fuel depth tokens
      match later with
      | .mark .comma :: later => do
          let (members, later) ← parseMembers fuel depth later
          some ((key, value) :: members, later)
      | .mark .closeBrace :: later => some ([(key, value)], later)
      | _ => none
  | _ + 1, _, _ => none

end

/-- The value of a sequence of tokens. -/
def parseTokens (tokens : List Token) : Option Json :=
  match parseValue (2 * tokens.length + 2) maxNestingDepth tokens with
  | some (value, []) => some value
  | _ => none

/-- The value of a text. -/
def parse (text : List Char) : Option Json := tokenize (text.length + 1) text >>= parseTokens

/-- Blanks between tokens play no part. -/
theorem Spaced.parse_eq {tokens : List Token} {text : List Char} (spaced : Spaced tokens text) :
    parse text = parseTokens tokens := by
  rw [parse, spaced.tokenize_eq (Nat.lt_succ_self _)]
  rfl

theorem parseValue_string (text : List Char) (fuel depth : Nat) (later : List Token) :
    parseValue (fuel + 1) depth (quotedToken (text.map some) :: later) = some (.string text, later) := by
  rw [quotedToken, parseValue, unquote_quoteBody]
  rfl

theorem parseItems_comma {fuel depth : Nat} {tokens later rest : List Token} {item : Json} {items : List Json}
    (first : parseValue fuel depth tokens = some (item, .mark .comma :: later))
    (others : parseItems fuel depth later = some (items, rest)) :
    parseItems (fuel + 1) depth tokens = some (item :: items, rest) := by
  simp only [parseItems, first, others, Option.bind_eq_bind, Option.bind_some]

theorem parseItems_last {fuel depth : Nat} {tokens later : List Token} {item : Json}
    (only : parseValue fuel depth tokens = some (item, .mark .closeBracket :: later)) :
    parseItems (fuel + 1) depth tokens = some ([item], later) := by
  simp only [parseItems, only, Option.bind_eq_bind, Option.bind_some]

/-- The tokens of an array of strings. -/
def stringItems (texts : List (List Char)) : List Token :=
  (texts.map fun text => quotedToken (text.map some)).intersperse (.mark .comma)

theorem isPlain_stringItems (texts : List (List Char)) : ∀ token ∈ stringItems texts, token.isPlain = true := by
  induction texts with
  | nil => exact fun _ member => absurd member List.not_mem_nil
  | cons text texts ih =>
      cases texts with
      | nil => simp [stringItems, quotedToken, Token.isPlain]
      | cons next texts =>
          intro token member
          rcases List.mem_cons.mp member with rfl | member
          · rfl
          · rcases List.mem_cons.mp member with rfl | member
            · rfl
            · exact ih token member

theorem parseItems_strings {texts : List (List Char)} (nonempty : texts ≠ []) {fuel : Nat}
    (enough : texts.length < fuel) (depth : Nat) (later : List Token) :
    parseItems fuel depth (stringItems texts ++ .mark .closeBracket :: later) =
      some (texts.map .string, later) := by
  induction texts generalizing fuel with
  | nil => exact absurd rfl nonempty
  | cons text texts ih =>
      obtain ⟨fuel, rfl⟩ : ∃ more, fuel = more + 2 := ⟨fuel - 2, by rw [List.length_cons] at enough; omega⟩
      cases texts with
      | nil => exact parseItems_last (parseValue_string text fuel depth _)
      | cons next texts =>
          have others := ih (List.cons_ne_nil next texts) (show _ < fuel + 1 by simpa using enough)
          exact parseItems_comma (parseValue_string text fuel depth _) others

/-- An array of strings. -/
theorem parseValue_strings (texts : List (List Char)) {fuel : Nat} (enough : texts.length < fuel) (depth : Nat)
    (later : List Token) :
    parseValue (fuel + 1) (depth + 1) (.mark .openBracket :: (stringItems texts ++
      .mark .closeBracket :: later)) = some (.array (texts.map .string), later) := by
  cases texts with
  | nil => rfl
  | cons text texts =>
      have read := parseItems_strings (List.cons_ne_nil text texts) enough depth later
      rw [parseValue, read]
      · rfl
      · cases texts <;> rintro _ ⟨⟩

/-- An object with one member. -/
theorem parseTokens_member {key : List Char} {closed : closedBody key = true} {name : List Char}
    {tokens : List Token} {value : Json} (key_read : unquote key = some name)
    (value_read : ∀ later, parseValue (2 * tokens.length + 8) (maxNestingDepth - 1) (tokens ++ later) =
      some (value, later)) :
    parseTokens (.mark .openBrace :: .quoted key closed :: .mark .colon :: (tokens ++ [.mark .closeBrace])) =
      some (.object [(name, value)]) := by
  have width : 2 * (Token.mark .openBrace :: Token.quoted key closed :: .mark .colon ::
      (tokens ++ [.mark .closeBrace])).length + 2 = 2 * tokens.length + 8 + 1 + 1 := by
    simp only [List.length_cons, List.length_append, List.length_nil]
    omega
  have members : parseMembers (2 * tokens.length + 8 + 1) (maxNestingDepth - 1)
      (.quoted key closed :: .mark .colon :: (tokens ++ [.mark .closeBrace])) = some ([(name, value)], []) := by
    simp only [parseMembers, key_read, value_read, Option.bind_eq_bind, Option.bind_some]
  rw [parseTokens, width, show maxNestingDepth = maxNestingDepth - 1 + 1 from rfl, parseValue, members]
  · rfl
  · rintro _ ⟨⟩

end JsonText
