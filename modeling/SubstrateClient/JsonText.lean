import Mathlib.Data.List.Basic
import Mathlib.Tactic.Common

/-!
# JSON texts

A JSON text is a sequence of tokens with blanks between them.  It is scanned into its tokens, which are parsed
into a value.  A string is quoted by escaping the characters that may not stand in it, and a reader undoes the
escapes.
-/

namespace JsonText

/-! ## Tokens -/

/-- The blanks that may stand between tokens. -/
def isBlank (char : Char) : Bool :=
  char = ' ' || char = '\t' || char = '\n' || char = '\r'

/-- Only blanks. -/
def Blank (text : List Char) : Prop := ∀ char ∈ text, isBlank char = true

/-- Punctuation. -/
inductive Mark where
  | openBrace | closeBrace | openBracket | closeBracket | comma | colon
  deriving DecidableEq, Repr

def Mark.char : Mark → Char
  | openBrace => '{'
  | closeBrace => '}'
  | openBracket => '['
  | closeBracket => ']'
  | comma => ','
  | colon => ':'

/-- The literals. -/
inductive Word where
  | null | true | false
  deriving DecidableEq, Repr

def Word.chars : Word → List Char
  | null => ['n', 'u', 'l', 'l']
  | true => ['t', 'r', 'u', 'e']
  | false => ['f', 'a', 'l', 's', 'e']

/-- What may stand between quotation marks: no control character, and a quotation mark only behind a backslash. -/
def closedBody : List Char → Bool
  | [] => true
  | char :: later =>
      if char = '\\' then
        match later with
        | [] => false
        | _ :: later => closedBody later
      else
        char ≠ '"' && ' ' ≤ char && closedBody later

/-- The characters of numbers. -/
def isNumberChar (char : Char) : Bool :=
  char.isDigit || char = '-' || char = '+' || char = '.' || char = 'e' || char = 'E'

/-- An exponent, or nothing. -/
def exponent : List Char → Bool
  | [] => true
  | char :: later =>
      let digits := match later with
        | '+' :: digits | '-' :: digits => digits
        | _ => later
      (char = 'e' || char = 'E') && !digits.isEmpty && digits.all Char.isDigit

/-- A fraction and an exponent, or less. -/
def fraction : List Char → Bool
  | '.' :: later => !(later.takeWhile Char.isDigit).isEmpty && exponent (later.dropWhile Char.isDigit)
  | text => exponent text

/-- The grammar of numbers. -/
def isNumber (text : List Char) : Bool :=
  let unsigned := match text with
    | '-' :: unsigned => unsigned
    | _ => text
  let whole := unsigned.takeWhile Char.isDigit
  text.all isNumberChar && !whole.isEmpty && (whole.length = 1 || whole.head? ≠ some '0') &&
    fraction (unsigned.dropWhile Char.isDigit)

/-- A token.  A string is kept as it stands between its quotation marks. -/
inductive Token where
  | mark (mark : Mark)
  | word (word : Word)
  | quoted (body : List Char) (closed : closedBody body = true)
  | number (digits : List Char) (valid : isNumber digits = true)
  deriving DecidableEq

/-- The text of a token. -/
def Token.text : Token → List Char
  | mark punctuation => [punctuation.char]
  | word literal => literal.chars
  | quoted body _ => '"' :: (body ++ ['"'])
  | number digits _ => digits

/-! ## Scanning -/

/-- Divide what follows a quotation mark at the next one that is not escaped. -/
def divideAtQuote : List Char → Option (List Char × List Char)
  | [] => none
  | char :: later =>
      if char = '"' then
        some ([], later)
      else if char = '\\' then
        match later with
        | [] => none
        | escaped :: later => (divideAtQuote later).map fun parts => (char :: escaped :: parts.1, parts.2)
      else
        (divideAtQuote later).map fun parts => (char :: parts.1, parts.2)

/-- The mark that a character is. -/
def mark? : Char → Option Mark
  | '{' => some .openBrace
  | '}' => some .closeBrace
  | '[' => some .openBracket
  | ']' => some .closeBracket
  | ',' => some .comma
  | ':' => some .colon
  | _ => none

/-- The first token of a text without blanks in front, and what follows it. -/
def nextToken (text : List Char) : Option (Token × List Char) :=
  match text with
  | [] => none
  | char :: later =>
      match mark? char with
      | some punctuation => some (.mark punctuation, later)
      | none =>
          if char = '"' then
            match divideAtQuote later with
            | none => none
            | some (body, later) =>
                if closed : closedBody body = true then some (.quoted body closed, later) else none
          else
            match [Word.null, .true, .false].find? fun literal => literal.chars.isPrefixOf text with
            | some literal => some (.word literal, text.drop literal.chars.length)
            | none =>
                let digits := text.takeWhile isNumberChar
                if valid : isNumber digits = true then
                  some (.number digits valid, text.dropWhile isNumberChar)
                else
                  none

/-- The tokens of a text. -/
def tokenize : (fuel : Nat) → List Char → Option (List Token)
  | 0, _ => none
  | _ + 1, [] => some []
  | fuel + 1, char :: later =>
      if isBlank char then
        tokenize fuel later
      else do
        let (token, later) ← nextToken (char :: later)
        let tokens ← tokenize fuel later
        some (token :: tokens)

/-- What follows does not carry on the token. -/
def Token.EndsBefore (later : List Char) : Token → Prop
  | number _ _ => ∀ char ∈ later.head?, isNumberChar char = false
  | _ => True

/-- The text is made of the tokens, with blanks between them. -/
inductive Spaced : List Token → List Char → Prop where
  | nil {blanks : List Char} (blank : Blank blanks) : Spaced [] blanks
  | cons {blanks : List Char} (blank : Blank blanks) {token : Token} {tokens : List Token} {later : List Char}
      (ends : token.EndsBefore later) (spaced : Spaced tokens later) :
      Spaced (token :: tokens) (blanks ++ (token.text ++ later))

/-- The texts differ in blanks between tokens only. -/
def SameTokens (first second : List Char) : Prop :=
  ∃ tokens, Spaced tokens first ∧ Spaced tokens second

theorem divideAtQuote_quote (later : List Char) : divideAtQuote ('"' :: later) = some ([], later) := by
  rw [divideAtQuote.eq_def]
  rfl

theorem divideAtQuote_escape (escaped : Char) (later : List Char) :
    divideAtQuote ('\\' :: escaped :: later) =
      (divideAtQuote later).map fun parts => ('\\' :: escaped :: parts.1, parts.2) := by
  rw [divideAtQuote.eq_def]
  rfl

theorem divideAtQuote_ordinary {char : Char} (no_quote : char ≠ '"') (no_escape : char ≠ '\\')
    (later : List Char) :
    divideAtQuote (char :: later) = (divideAtQuote later).map fun parts => (char :: parts.1, parts.2) := by
  rw [divideAtQuote.eq_def]
  simp only [if_neg no_quote, if_neg no_escape]

/-- A closed body ends at its own quotation mark. -/
theorem divideAtQuote_closed {body : List Char} (closed : closedBody body = true) (later : List Char) :
    divideAtQuote (body ++ '"' :: later) = some (body, later) := by
  fun_induction closedBody body with
  | case1 => exact divideAtQuote_quote later
  | case2 => cases closed
  | case3 escaped body ih =>
      rw [List.cons_append, List.cons_append, divideAtQuote_escape, ih closed]
      rfl
  | case4 char body no_escape ih =>
      simp only [Bool.and_eq_true, decide_eq_true_eq] at closed
      rw [List.cons_append, divideAtQuote_ordinary closed.1.1 no_escape, ih closed.2]
      rfl

theorem mark?_char (punctuation : Mark) : mark? punctuation.char = some punctuation := by
  cases punctuation <;> rfl

theorem nextToken_mark (punctuation : Mark) (later : List Char) :
    nextToken (punctuation.char :: later) = some (.mark punctuation, later) := by
  simp only [nextToken, mark?_char]

theorem nextToken_quoted {body : List Char} (closed : closedBody body = true) (later : List Char) :
    nextToken ('"' :: (body ++ '"' :: later)) = some (.quoted body closed, later) := by
  have no_mark : mark? '"' = none := rfl
  simp only [nextToken, no_mark, if_true, divideAtQuote_closed closed, closed, dite_true]

theorem nextToken_word (literal : Word) (later : List Char) :
    nextToken (literal.chars ++ later) = some (.word literal, later) := by
  cases literal <;> rfl

/-- A number starts with none of the characters that other tokens start with. -/
theorem starts_of_isNumberChar {char : Char} (numeral : isNumberChar char = true) :
    mark? char = none ∧ isBlank char = false ∧ char ≠ '"' ∧ char ≠ 'n' ∧ char ≠ 't' ∧ char ≠ 'f' := by
  have others : ∀ other, isNumberChar other = false → char ≠ other := by
    rintro _ other rfl
    rw [numeral] at other
    cases other
  have no_mark : mark? char = none := by
    unfold mark?
    split <;> first | rfl | exact absurd rfl (others _ (by decide))
  have no_blank : isBlank char = false := by
    simp [isBlank, others ' ' (by decide), others '\t' (by decide), others '\n' (by decide),
      others '\r' (by decide)]
  exact ⟨no_mark, no_blank, others '"' (by decide), others 'n' (by decide), others 't' (by decide),
    others 'f' (by decide)⟩

theorem isNumberChar_of_isNumber {digits : List Char} (valid : isNumber digits = true) :
    ∀ char ∈ digits, isNumberChar char = true := by
  simp only [isNumber, Bool.and_eq_true, List.all_eq_true] at valid
  exact valid.1.1.1

theorem nextToken_number {digits : List Char} (valid : isNumber digits = true) {later : List Char}
    (ends : ∀ char ∈ later.head?, isNumberChar char = false) :
    nextToken (digits ++ later) = some (.number digits valid, later) := by
  have numerals := isNumberChar_of_isNumber valid
  have stops : later.takeWhile isNumberChar = [] ∧ later.dropWhile isNumberChar = later := by
    cases later with
    | nil => exact ⟨rfl, rfl⟩
    | cons char later => simp [List.takeWhile, List.dropWhile, ends char rfl]
  have taken : (digits ++ later).takeWhile isNumberChar = digits := by
    rw [List.takeWhile_append_of_pos numerals, stops.1, List.append_nil]
  have dropped : (digits ++ later).dropWhile isNumberChar = later := by
    rw [List.dropWhile_append_of_pos numerals, stops.2]
  cases digits with
  | nil => cases valid
  | cons first digits =>
      obtain ⟨no_mark, -, no_quote, no_n, no_t, no_f⟩ :=
        starts_of_isNumberChar (numerals first List.mem_cons_self)
      rw [List.cons_append] at taken dropped ⊢
      have no_word : ([Word.null, .true, .false].find? fun literal =>
          literal.chars.isPrefixOf (first :: (digits ++ later))) = none := by
        simp [Word.chars, List.isPrefixOf, no_n.symm, no_t.symm, no_f.symm]
      simp only [nextToken, no_mark, no_quote, if_false, no_word, taken, dropped, valid, dite_true]

theorem nextToken_text {token : Token} {later : List Char} (ends : token.EndsBefore later) :
    nextToken (token.text ++ later) = some (token, later) := by
  cases token with
  | mark punctuation => exact nextToken_mark punctuation later
  | word literal => exact nextToken_word literal later
  | quoted body closed =>
      rw [Token.text, List.cons_append, List.append_assoc]
      exact nextToken_quoted closed later
  | number digits valid => exact nextToken_number valid ends

theorem tokenize_blanks {blanks : List Char} (blank : Blank blanks) (fuel : Nat) (later : List Char) :
    tokenize (blanks.length + fuel) (blanks ++ later) = tokenize fuel later := by
  induction blanks with
  | nil => simp
  | cons char blanks ih =>
      have first : isBlank char = true := blank char List.mem_cons_self
      rw [List.length_cons, Nat.add_right_comm, List.cons_append, tokenize, if_pos first]
      exact ih fun other member => blank other (List.mem_cons_of_mem _ member)

/-- A token does not start with a blank. -/
theorem Token.text_eq_cons (token : Token) :
    ∃ char later, token.text = char :: later ∧ isBlank char = false := by
  cases token with
  | mark punctuation => exact ⟨_, _, rfl, by cases punctuation <;> rfl⟩
  | word literal => cases literal <;> exact ⟨_, _, rfl, rfl⟩
  | quoted body closed => exact ⟨_, _, rfl, rfl⟩
  | number digits valid =>
      cases digits with
      | nil => cases valid
      | cons first digits =>
          have numeral := isNumberChar_of_isNumber valid first List.mem_cons_self
          exact ⟨first, digits, rfl, (starts_of_isNumberChar numeral).2.1⟩

/-- Blanks between tokens are passed over. -/
theorem Spaced.tokenize_eq {tokens : List Token} {text : List Char} (spaced : Spaced tokens text) {fuel : Nat}
    (enough : text.length < fuel) : tokenize fuel text = some tokens := by
  induction spaced generalizing fuel with
  | @nil blanks blank =>
      obtain ⟨more, rfl⟩ : ∃ more, fuel = blanks.length + (more + 1) := ⟨fuel - blanks.length - 1, by omega⟩
      have skipped := tokenize_blanks blank (more + 1) []
      rw [List.append_nil] at skipped
      rw [skipped, tokenize]
  | @cons blanks blank token tokens later ends _ ih =>
      obtain ⟨char, others, starts, no_blank⟩ := token.text_eq_cons
      simp only [List.length_append, starts, List.length_cons] at enough
      obtain ⟨more, rfl⟩ : ∃ more, fuel = blanks.length + (more + 1) := ⟨fuel - blanks.length - 1, by omega⟩
      have next := nextToken_text ends
      rw [starts, List.cons_append] at next
      rw [tokenize_blanks blank, starts, List.cons_append, tokenize, no_blank, next]
      simp [ih (show later.length < more by omega)]

/-- A text has one sequence of tokens. -/
theorem Spaced.unique {tokens others : List Token} {text : List Char} (first : Spaced tokens text)
    (second : Spaced others text) : tokens = others := by
  have same := (first.tokenize_eq (Nat.lt_succ_self _)).symm.trans (second.tokenize_eq (Nat.lt_succ_self _))
  exact Option.some.inj same

/-- Every token but a number ends by itself. -/
def Token.isPlain : Token → Bool
  | number _ _ => false
  | _ => true

theorem Token.endsBefore_of_isPlain {token : Token} (plain : token.isPlain = true) (later : List Char) :
    token.EndsBefore later := by
  cases token with
  | number digits valid => cases plain
  | mark _ | word _ | quoted _ _ => trivial

/-- A token directly in front. -/
theorem Spaced.cons_plain {token : Token} (plain : token.isPlain = true) {tokens : List Token} {text : List Char}
    (spaced : Spaced tokens text) : Spaced (token :: tokens) (token.text ++ text) :=
  .cons (fun _ member => absurd member List.not_mem_nil) (Token.endsBefore_of_isPlain plain text) spaced

/-- A blank in front. -/
theorem Spaced.cons_blank {char : Char} (blank : isBlank char = true) {tokens : List Token} {text : List Char}
    (spaced : Spaced tokens text) : Spaced tokens (char :: text) := by
  have more : ∀ {blanks : List Char}, Blank blanks → Blank (char :: blanks) := by
    intro blanks others other member
    rcases List.mem_cons.mp member with rfl | member
    · exact blank
    · exact others other member
  cases spaced with
  | nil blanks => exact .nil (more blanks)
  | cons blanks ends later => exact .cons (more blanks) ends later

/-- Tokens without blanks between them. -/
theorem spaced_flatMap {tokens : List Token} (plain : ∀ token ∈ tokens, token.isPlain = true) :
    Spaced tokens (tokens.flatMap Token.text) := by
  induction tokens with
  | nil => exact .nil fun _ member => absurd member List.not_mem_nil
  | cons token tokens ih =>
      exact (ih fun other member => plain other (List.mem_cons_of_mem _ member)).cons_plain
        (plain token List.mem_cons_self)

/-- A text that differs in blanks from the texts of some tokens is a spacing of these. -/
theorem SameTokens.spaced {tokens : List Token} (plain : ∀ token ∈ tokens, token.isPlain = true)
    {text : List Char} (same : SameTokens (tokens.flatMap Token.text) text) : Spaced tokens text := by
  obtain ⟨others, first, second⟩ := same
  rw [(spaced_flatMap plain).unique first]
  exact second

end JsonText
