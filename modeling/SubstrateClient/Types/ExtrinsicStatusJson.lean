import Mathlib.Data.List.DropRight
import SubstrateClient.JsonParser
import SubstrateClient.Types.HexString
import SubstrateClient.Types.UnknownTags
import SubstrateClient.Utf8Text

/-!
# The status of an extrinsic in JSON

A status is a word, or an object with one member.  `UnmarshalJSON` reads the member with `encoding/json`, which
passes over blanks, and finds out which one it is by comparing the first characters of the text.
-/

namespace SubstrateClient.Types

open TaggedUnion JsonText

/-! ## `encoding/json` -/

/-- What reading a value into a string sees of it. -/
def seenByString : Json → JsonValue
  | .string text => .string text
  | .null => .null
  | .bool _ => .other "bool"
  | .number _ => .other "number"
  | .array _ => .other "array"
  | .object _ => .other "object"

/-- `NewHashFromHexString`. -/
def newHashFromHexString (text : List Char) : Outcome GoError Hash := do
  let bz ← hexDecodeString text
  if width : bz.length = 32 then
    pure ⟨bz, width⟩
  else
    .error (.text ("required result to be 32 bytes, but got " ++ toString bz.length))

/-- `Hash.UnmarshalJSON`. -/
def unmarshalHash (value : Json) : Outcome GoError Hash := do
  let tmp ← unmarshalString (seenByString value)
  newHashFromHexString tmp

/-- `Hash.MarshalJSON`. -/
def marshalHash (hash : Hash) : List Char :=
  '"' :: (quoteBody ((sharpHex hash.toList).map some) ++ ['"'])

/-- `json.Marshal` of a text. -/
def marshalText (text : Text) : List Char :=
  '"' :: (quoteBody (Utf8Text.runes text.length text) ++ ['"'])

/-- `json.Marshal` of a list of texts, which is `null` for a nil slice. -/
def marshalTexts (emptyIsNil : Bool) (texts : List Text) : List Char :=
  if texts = [] ∧ emptyIsNil = true then
    ['n', 'u', 'l', 'l']
  else
    '[' :: ([','].intercalate (texts.map marshalText) ++ [']'])

/-- A type error of `json.Unmarshal`.  It does not name the field. -/
def typeError (value : Json) : GoError :=
  match seenByString value with
  | .other description => .text ("json: cannot unmarshal " ++ description)
  | .string _ => .text "json: cannot unmarshal string"
  | .null => .text "json: cannot unmarshal null"

/-- `json.Unmarshal` of an item into a text that holds something, with the error that is kept for the end. -/
def unmarshalText (old : Text) : Json → Text × Option GoError
  | .string text => (Utf8Text.bytes (String.ofList text), none)
  | .null => (old, none)
  | value => (old, some (typeError value))

/-- The items of an array, into the texts that were there before. -/
def unmarshalItems (old : List Text) : List Json → List Text × Option GoError
  | [] => ([], none)
  | item :: items =>
      let first := unmarshalText (old.headD []) item
      let others := unmarshalItems old.tail items
      (first.1 :: others.1, first.2 <|> others.2)

/-- `json.Unmarshal` into a list of texts. -/
def unmarshalTexts (old : List Text) : Json → List Text × Option GoError
  | .array items => unmarshalItems old items
  | .null => ([], none)
  | value => (old, some (typeError value))

/-- The letter that stands for all its cases when field names are compared. -/
def foldRune (char : Char) : Char :=
  if 'a' ≤ char ∧ char ≤ 'z' then char.toUpper
  else if char = '\u017f' then 'S'
  else if char = '\u212a' then 'K'
  else char

/-- `unicode.IsSpace`. -/
def isSpace (char : Char) : Bool :=
  char ∈ ['\t', '\n', '\x0b', '\x0c', '\r', ' ', '\u0085', '\u00a0', '\u1680', '\u2028', '\u2029', '\u202f',
    '\u205f', '\u3000'] || ('\u2000' ≤ char && char ≤ '\u200a')

/-- `strings.TrimSpace`. -/
def trimSpace (text : List Char) : List Char := (text.dropWhile isSpace).rdropWhile isSpace

/-! ## Payloads as tokens -/

theorem marshalText_bytes (chars : List Char) :
    marshalText (Utf8Text.bytes (String.ofList chars)) = (quotedToken (chars.map some)).text := by
  rw [marshalText, Utf8Text.runes_bytes chars (Nat.le_refl _)]
  rfl

/-- The bytes of texts. -/
def textBytes (texts : List (List Char)) : List Text :=
  texts.map fun chars => Utf8Text.bytes (String.ofList chars)

/-- The tokens of a list of texts. -/
def textTokens (emptyIsNil : Bool) (texts : List (List Char)) : List Token :=
  if texts = [] ∧ emptyIsNil = true then [.word .null]
  else .mark .openBracket :: (stringItems texts ++ [.mark .closeBracket])

/-- The value of a list of texts. -/
def textsJson (emptyIsNil : Bool) (texts : List (List Char)) : Json :=
  if texts = [] ∧ emptyIsNil = true then .null else .array (texts.map .string)

/-- Items with commas between them. -/
theorem flatMap_stringItems (texts : List (List Char)) :
    (stringItems texts).flatMap Token.text = [','].intercalate ((textBytes texts).map marshalText) := by
  induction texts with
  | nil => rfl
  | cons text texts ih =>
      cases texts with
      | nil =>
          change (quotedToken (text.map some)).text ++ [] = marshalText _ ++ []
          rw [marshalText_bytes]
      | cons next texts =>
          change (quotedToken (text.map some)).text ++ ([','] ++ (stringItems (next :: texts)).flatMap Token.text) =
            marshalText _ ++ ([','] ++ [','].intercalate ((textBytes (next :: texts)).map marshalText))
          rw [marshalText_bytes, ih]

theorem marshalTexts_textBytes (emptyIsNil : Bool) (texts : List (List Char)) :
    marshalTexts emptyIsNil (textBytes texts) = (textTokens emptyIsNil texts).flatMap Token.text := by
  have empty_iff : textBytes texts = [] ↔ texts = [] := List.map_eq_nil_iff
  simp only [marshalTexts, textTokens, empty_iff]
  split_ifs with nil
  · rfl
  · rw [List.flatMap_cons, List.flatMap_append, flatMap_stringItems]
    rfl

theorem length_stringItems (texts : List (List Char)) : texts.length ≤ (stringItems texts).length := by
  rw [stringItems, List.length_intersperse, List.length_map]
  omega

theorem isPlain_textTokens (emptyIsNil : Bool) (texts : List (List Char)) :
    ∀ token ∈ textTokens emptyIsNil texts, token.isPlain = true := by
  rw [textTokens]
  split_ifs
  · simp [Token.isPlain]
  · simpa [Token.isPlain, or_imp, forall_and] using isPlain_stringItems texts

theorem parseValue_textTokens (emptyIsNil : Bool) (texts : List (List Char)) (depth : Nat) (later : List Token) :
    parseValue (2 * (textTokens emptyIsNil texts).length + 8) (depth + 1) (textTokens emptyIsNil texts ++ later) =
      some (textsJson emptyIsNil texts, later) := by
  have enough := length_stringItems texts
  simp only [textTokens, textsJson]
  split_ifs with nil
  · rfl
  · rw [List.cons_append, List.append_assoc]
    refine parseValue_strings texts ?_ depth later
    simp only [List.length_cons, List.length_append]
    omega

theorem unmarshalItems_strings (texts : List (List Char)) :
    unmarshalItems [] (texts.map .string) = (textBytes texts, none) := by
  induction texts with
  | nil => rfl
  | cons text texts ih =>
      rw [List.map_cons, unmarshalItems, List.tail_nil, ih]
      rfl

theorem unmarshalTexts_textsJson (emptyIsNil : Bool) (texts : List (List Char)) :
    unmarshalTexts [] (textsJson emptyIsNil texts) = (textBytes texts, none) := by
  rw [textsJson]
  split_ifs with nil
  · rw [nil.1]
    rfl
  · exact unmarshalItems_strings texts

theorem unmarshalHash_sharpHex (hash : Hash) : unmarshalHash (.string (sharpHex hash.toList)) = .ok hash := by
  have width : hash.toList.length = 32 := hash.toList_length
  have some_bytes : hash.toList ≠ [] := List.ne_nil_of_length_pos (by omega)
  have shown : sharpHex hash.toList = hexText .lower hash.toList := if_neg some_bytes
  change newHashFromHexString (sharpHex hash.toList) = .ok hash
  rw [newHashFromHexString, shown, hexDecodeString_hexText, Outcome.ok_bind, dif_pos width]
  rfl

/-! ## Trimmed texts -/

theorem isSpace_of_isBlank {char : Char} (blank : isBlank char = true) : isSpace char = true := by
  simp only [isBlank, Bool.or_eq_true, decide_eq_true_eq] at blank
  rcases blank with ((rfl | rfl) | rfl) | rfl <;> rfl

theorem rdropWhile_append_cons {test : Char → Bool} {char : Char} (stops : test char = false)
    (front later : List Char) :
    (front ++ char :: later).rdropWhile test = front ++ char :: later.rdropWhile test := by
  induction later using List.reverseRecOn with
  | nil => exact List.rdropWhile_concat_neg test front char (by simp [stops])
  | append_singleton later last ih =>
      rw [← List.cons_append, ← List.append_assoc, List.rdropWhile_concat, List.rdropWhile_concat, ih]
      split_ifs
      · rfl
      · rw [List.append_assoc, List.cons_append]

/-- Blanks around a text go, those inside stay. -/
theorem trimSpace_framed {blanks : List Char} (blank : Blank blanks) {first last : Char}
    (first_stops : isSpace first = false) (last_stops : isSpace last = false) (inner later : List Char) :
    trimSpace (blanks ++ first :: (inner ++ last :: later)) =
      first :: (inner ++ last :: later.rdropWhile isSpace) := by
  have spaces : ∀ char ∈ blanks, isSpace char = true := fun char member => isSpace_of_isBlank (blank char member)
  have starts : (first :: (inner ++ last :: later)).dropWhile isSpace = first :: (inner ++ last :: later) :=
    List.dropWhile_cons_of_neg (by simp [first_stops])
  rw [trimSpace, List.dropWhile_append_of_pos spaces, starts]
  exact rdropWhile_append_cons last_stops (first :: inner) later

namespace ExtrinsicStatus

/-! ## `MarshalJSON` and `UnmarshalJSON` -/

/-- The words of the variants without a payload. -/
def words : List (Flag × List Char) :=
  [(.isFuture, ['f', 'u', 't', 'u', 'r', 'e']), (.isReady, ['r', 'e', 'a', 'd', 'y']),
    (.isDropped, ['d', 'r', 'o', 'p', 'p', 'e', 'd']), (.isInvalid, ['i', 'n', 'v', 'a', 'l', 'i', 'd'])]

/-- The field names of the other variants. -/
def names : List (Flag × List Char) :=
  [(.isBroadcast, ['b', 'r', 'o', 'a', 'd', 'c', 'a', 's', 't']),
    (.isInBlock, ['i', 'n', 'B', 'l', 'o', 'c', 'k']),
    (.isRetracted, ['r', 'e', 't', 'r', 'a', 'c', 't', 'e', 'd']),
    (.isFinalityTimeout, ['f', 'i', 'n', 'a', 'l', 'i', 't', 'y', 'T', 'i', 'm', 'e', 'o', 'u', 't']),
    (.isFinalized, ['f', 'i', 'n', 'a', 'l', 'i', 'z', 'e', 'd']),
    (.isUsurped, ['u', 's', 'u', 'r', 'p', 'e', 'd'])]

/-- A payload as `json.Marshal` writes it. -/
def marshalPayload (emptyIsNil : Bool) : (flag : Flag) → Payload flag → List Char
  | .isBroadcast, texts => marshalTexts emptyIsNil texts
  | .isInBlock, hash | .isRetracted, hash | .isFinalityTimeout, hash | .isFinalized, hash
  | .isUsurped, hash => marshalHash hash
  | .isFuture, _ | .isReady, _ | .isDropped, _ | .isInvalid, _ => []

/-- `ExtrinsicStatus.MarshalJSON`.  The error does not print the value; whether an empty list of texts is a nil
slice is not part of the model of a status. -/
def marshalJSON (emptyIsNil : Bool) (status : ExtrinsicStatus) : Outcome GoError (List Char) :=
  match words.find? fun entry => status.flag entry.1 with
  | some (_, word) => .ok ('"' :: (word ++ ['"']))
  | none =>
      match names.find? fun entry => status.flag entry.1 with
      | some (flag, name) =>
          .ok ('{' :: '"' :: (name ++ '"' :: ':' :: (marshalPayload emptyIsNil flag (status.payload flag) ++
            ['}'])))
      | none => .error (.text "cannot marshal ExtrinsicStatus")

/-- The helper of `UnmarshalJSON`, with the type error that is kept for the end. -/
abbrev Helper : Type := ((flag : Flag) → Payload flag) × Option GoError

/-- Read a hash into the field of a variant. -/
def unmarshalHashField (helper : Helper) (value : Json) (flag : Flag) (payload : Hash → Payload flag) :
    Outcome GoError Helper := do
  let hash ← unmarshalHash value
  pure (Function.update helper.1 flag (payload hash), helper.2)

/-- Read a value into the field of a variant. -/
def unmarshalField (helper : Helper) (value : Json) : Flag → Outcome GoError Helper
  | .isBroadcast =>
      let read := unmarshalTexts (helper.1 .isBroadcast) value
      .ok (Function.update helper.1 .isBroadcast read.1, helper.2 <|> read.2)
  | .isInBlock => unmarshalHashField helper value .isInBlock id
  | .isRetracted => unmarshalHashField helper value .isRetracted id
  | .isFinalityTimeout => unmarshalHashField helper value .isFinalityTimeout id
  | .isFinalized => unmarshalHashField helper value .isFinalized id
  | .isUsurped => unmarshalHashField helper value .isUsurped id
  | .isFuture | .isReady | .isDropped | .isInvalid => .ok helper

/-- The field that a name stands for: an exact one first, else one that differs in case only. -/
def field? (name : List Char) : Option (Flag × List Char) :=
  (names.find? fun entry => entry.2 = name) <|>
    names.find? fun entry => entry.2.map foldRune = name.map foldRune

/-- A member of an object; unknown names are passed over. -/
def unmarshalMember (helper : Helper) (entry : List Char × Json) : Outcome GoError Helper :=
  match field? entry.1 with
  | some (flag, _) => unmarshalField helper entry.2 flag
  | none => .ok helper

/-- `json.Unmarshal` into the helper. -/
def unmarshalHelper : Json → Outcome GoError ((flag : Flag) → Payload flag)
  | .object members => do
      let helper ← members.foldlM unmarshalMember (zero, none)
      match helper.2 with
      | none => pure helper.1
      | some reason => .error reason
  | .null => .ok zero
  | value => .error (typeError value)

/-- `ExtrinsicStatus.UnmarshalJSON`. -/
def unmarshalJSON (target : ExtrinsicStatus) (text : List Char) : Outcome GoError ExtrinsicStatus :=
  let trimmed := trimSpace text
  let input :=
    if 2 ≤ trimmed.length ∧ trimmed.head? = some '"' ∧ trimmed.getLast? = some '"' then trimmed.tail.dropLast
    else trimmed
  match words.find? fun entry => entry.2 = input with
  | some (flag, _) => .ok { target with flag := Function.update target.flag flag true }
  | none =>
      match parse text with
      | none => .error (.text "invalid JSON")
      | some value => do
          let tmp ← unmarshalHelper value
          match names.find? fun entry => ('{' :: '"' :: (entry.2 ++ ['"'])).isPrefixOf input with
          | some (flag, _) =>
              .ok ⟨Function.update target.flag flag true, Function.update target.payload flag (tmp flag)⟩
          | none => .error (.text ("unexpected JSON for ExtrinsicStatus, got " ++ String.ofList text))

/-! ## The member as `encoding/json` reads it -/

/-- A payload whose text consists of the tokens, which are read as the value, from which the payload is stored. -/
structure Rendered (emptyIsNil : Bool) (flag : Flag) (payload : Payload flag) (tokens : List Token)
    (value : Json) : Prop where
  text : marshalPayload emptyIsNil flag payload = tokens.flatMap Token.text
  plain : ∀ token ∈ tokens, token.isPlain = true
  parsed : ∀ later, parseValue (2 * tokens.length + 8) (maxNestingDepth - 1) (tokens ++ later) =
    some (value, later)
  stored : unmarshalField (zero, none) value flag = .ok (Function.update zero flag payload, none)

theorem rendered_texts (emptyIsNil : Bool) (texts : List (List Char)) :
    Rendered emptyIsNil .isBroadcast (textBytes texts) (textTokens emptyIsNil texts) (textsJson emptyIsNil texts) where
  text := marshalTexts_textBytes emptyIsNil texts
  plain := isPlain_textTokens emptyIsNil texts
  parsed := parseValue_textTokens emptyIsNil texts (maxNestingDepth - 2)
  stored := by
    have read := unmarshalTexts_textsJson emptyIsNil texts
    change Outcome.ok (Function.update zero .isBroadcast (unmarshalTexts [] (textsJson emptyIsNil texts)).1,
      none <|> (unmarshalTexts [] (textsJson emptyIsNil texts)).2) = _
    rw [read]
    rfl

/-- The variants with a hash. -/
theorem rendered_hash (emptyIsNil : Bool) (flag : Flag) (payload : Hash → Payload flag) (hash : Hash)
    (text : marshalPayload emptyIsNil flag (payload hash) = marshalHash hash)
    (field : ∀ value, unmarshalField (zero, none) value flag = unmarshalHashField (zero, none) value flag payload) :
    Rendered emptyIsNil flag (payload hash) [quotedToken ((sharpHex hash.toList).map some)]
      (.string (sharpHex hash.toList)) where
  text := by
    rw [text, List.flatMap_singleton]
    rfl
  plain := by
    simp [quotedToken, Token.isPlain]
  parsed := fun later => parseValue_string (sharpHex hash.toList) _ _ later
  stored := by
    rw [field, unmarshalHashField, unmarshalHash_sharpHex]
    rfl

/-- All texts are valid UTF-8. -/
def AllValid (texts : List Text) : Prop := ∀ text ∈ texts, ∃ string : String, text = Utf8Text.bytes string

/-- The texts of a payload are valid UTF-8. -/
def ValidPayload : (flag : Flag) → Payload flag → Prop
  | .isBroadcast, texts => AllValid texts
  | _, _ => True

theorem exists_textBytes {texts : List Text} (valid : AllValid texts) : ∃ chars, texts = textBytes chars := by
  induction texts with
  | nil => exact ⟨[], rfl⟩
  | cons text texts ih =>
      obtain ⟨string, rfl⟩ := valid text List.mem_cons_self
      obtain ⟨chars, rfl⟩ := ih fun other member => valid other (List.mem_cons_of_mem _ member)
      have same : String.ofList string.toList = string := String.ofList_toList
      refine ⟨string.toList :: chars, ?_⟩
      rw [textBytes, textBytes, List.map_cons, same]

/-- Every payload of a named variant is rendered. -/
theorem exists_rendered (emptyIsNil : Bool) {flag : Flag} {name : List Char} (named : (flag, name) ∈ names)
    (payload : Payload flag) (valid : ValidPayload flag payload) :
    ∃ tokens value, Rendered emptyIsNil flag payload tokens value := by
  cases flag with
  | isBroadcast =>
      obtain ⟨chars, same⟩ := exists_textBytes valid
      exact ⟨_, _, same ▸ rendered_texts emptyIsNil chars⟩
  | isInBlock => exact ⟨_, _, rendered_hash emptyIsNil .isInBlock id payload rfl fun _ => rfl⟩
  | isRetracted => exact ⟨_, _, rendered_hash emptyIsNil .isRetracted id payload rfl fun _ => rfl⟩
  | isFinalityTimeout => exact ⟨_, _, rendered_hash emptyIsNil .isFinalityTimeout id payload rfl fun _ => rfl⟩
  | isFinalized => exact ⟨_, _, rendered_hash emptyIsNil .isFinalized id payload rfl fun _ => rfl⟩
  | isUsurped => exact ⟨_, _, rendered_hash emptyIsNil .isUsurped id payload rfl fun _ => rfl⟩
  | isFuture | isReady | isDropped | isInvalid => simp [names] at named

/-! ## The two views of a text -/

/-- The text begins with an opening brace that a blank follows. -/
def opensWithBlank (text : List Char) : Bool :=
  match text.dropWhile isBlank with
  | '{' :: char :: _ => isBlank char
  | _ => false

/-- Setting a flag and its payload in a new target. -/
theorem set_blank {flag : Flag} (payload : Payload flag) :
    (⟨Function.update (blank zero).flag flag true, Function.update (blank zero).payload flag payload⟩ :
      ExtrinsicStatus) = choose zero flag payload := by
  refine TaggedUnion.ext (funext fun other => ?_) rfl
  by_cases same : other = flag
  · simp [same, choose]
  · simp [same, choose, blank]

theorem closedBody_name {flag : Flag} {name : List Char} (named : (flag, name) ∈ names) :
    closedBody name = true := by
  have table : ∀ entry ∈ names, closedBody entry.2 = true := by decide
  exact table _ named

/-- The tokens of an object with one member. -/
def objectTokens {flag : Flag} {name : List Char} (named : (flag, name) ∈ names) (tokens : List Token) :
    List Token :=
  .mark .openBrace :: .quoted name (closedBody_name named) :: .mark .colon :: (tokens ++ [.mark .closeBrace])

/-- Where the name stands in the text. -/
theorem Spaced.name_eq {name : List Char} {closed : closedBody name = true} {tokens : List Token}
    {text : List Char} (spaced : Spaced (.mark .openBrace :: .quoted name closed :: tokens) text) :
    ∃ blanks inner later, Blank blanks ∧ Blank inner ∧
      text = blanks ++ '{' :: (inner ++ '"' :: (name ++ '"' :: later)) := by
  cases spaced with
  | @cons blanks blank _ _ _ _ spaced =>
      cases spaced with
      | @cons inner inner_blank _ _ later _ _ =>
          refine ⟨blanks, inner, later, blank, inner_blank, ?_⟩
          simp [Token.text, Mark.char]

theorem unmarshalHelper_member {emptyIsNil : Bool} {flag : Flag} {name : List Char} {payload : Payload flag}
    {tokens : List Token} {value : Json} (named : (flag, name) ∈ names)
    (rendered : Rendered emptyIsNil flag payload tokens value) :
    unmarshalHelper (.object [(name, value)]) = .ok (Function.update zero flag payload) := by
  have table : ∀ entry ∈ names, field? entry.2 = some entry := by decide
  have member : unmarshalMember (zero, none) (name, value) = .ok (Function.update zero flag payload, none) := by
    rw [unmarshalMember, table _ named]
    exact rendered.stored
  rw [unmarshalHelper, List.foldlM_cons, member]
  rfl

/-- A name directly behind the brace is the first that fits. -/
theorem find?_name {flag : Flag} {name : List Char} (named : (flag, name) ∈ names) (later : List Char) :
    (names.find? fun entry => ('{' :: '"' :: (entry.2 ++ ['"'])).isPrefixOf ('{' :: '"' :: (name ++ '"' :: later))) =
      some (flag, name) := by
  simp only [names, List.mem_cons, Prod.mk.injEq, List.not_mem_nil, or_false] at named
  rcases named with ⟨rfl, rfl⟩ | ⟨rfl, rfl⟩ | ⟨rfl, rfl⟩ | ⟨rfl, rfl⟩ | ⟨rfl, rfl⟩ | ⟨rfl, rfl⟩ <;> rfl

/-- Behind a brace and a blank, no name fits. -/
theorem find?_name_of_blank {char : Char} (blank : isBlank char = true) (later : List Char) :
    (names.find? fun entry => ('{' :: '"' :: (entry.2 ++ ['"'])).isPrefixOf ('{' :: char :: later)) = none := by
  have no_quote : '"' ≠ char := by
    rintro rfl
    cases blank
  simp [names, no_quote]

theorem opensWithBlank_eq {blanks inner : List Char} (blank : Blank blanks) (inner_blank : Blank inner)
    (later : List Char) :
    opensWithBlank (blanks ++ '{' :: (inner ++ '"' :: later)) = !inner.isEmpty := by
  have starts : (blanks ++ '{' :: (inner ++ '"' :: later)).dropWhile isBlank = '{' :: (inner ++ '"' :: later) := by
    rw [List.dropWhile_append_of_pos blank]
    rfl
  rw [opensWithBlank, starts]
  cases inner with
  | nil => rfl
  | cons char inner => exact inner_blank char List.mem_cons_self

/-- The variant of a text in braces is found by its first characters. -/
theorem unmarshalJSON_brace (target : ExtrinsicStatus) {text rest : List Char} {value : Json}
    {tmp : (flag : Flag) → Payload flag} (trimmed : trimSpace text = '{' :: rest)
    (parsed : parse text = some value) (read : unmarshalHelper value = .ok tmp) :
    unmarshalJSON target text =
      match names.find? fun entry => ('{' :: '"' :: (entry.2 ++ ['"'])).isPrefixOf ('{' :: rest) with
      | some (flag, _) =>
          .ok ⟨Function.update target.flag flag true, Function.update target.payload flag (tmp flag)⟩
      | none => .error (.text ("unexpected JSON for ExtrinsicStatus, got " ++ String.ofList text)) := by
  have unquoted : ¬ (2 ≤ ('{' :: rest).length ∧ ('{' :: rest).head? = some '"' ∧
      ('{' :: rest).getLast? = some '"') := by
    rintro ⟨-, starts, -⟩
    cases starts
  have no_word : (words.find? fun entry => entry.2 = '{' :: rest) = none := by
    simp [words]
  simp only [unmarshalJSON, trimmed, if_neg unquoted, no_word, parsed, read, Outcome.ok_bind]

/-- An object is read as its variant unless a blank follows the brace. -/
theorem unmarshalJSON_object {emptyIsNil : Bool} {flag : Flag} {name : List Char} {payload : Payload flag}
    {tokens : List Token} {value : Json} {text : List Char} (named : (flag, name) ∈ names)
    (rendered : Rendered emptyIsNil flag payload tokens value) (spaced : Spaced (objectTokens named tokens) text) :
    unmarshalJSON (blank zero) text =
      if opensWithBlank text then
        .error (.text ("unexpected JSON for ExtrinsicStatus, got " ++ String.ofList text))
      else
        .ok (choose zero flag payload) := by
  have name_read : ∀ entry ∈ names, unquote entry.2 = some entry.2 := by decide
  have parsed : parse text = some (.object [(name, value)]) :=
    spaced.parse_eq.trans (parseTokens_member (name_read _ named) rendered.parsed)
  obtain ⟨blanks, inner, later, blank, inner_blank, text_eq⟩ := Spaced.name_eq spaced
  have trimmed : trimSpace text = '{' :: (inner ++ '"' :: (name ++ '"' :: later.rdropWhile isSpace)) := by
    have framed := trimSpace_framed blank (show isSpace '{' = false from rfl) (show isSpace '"' = false from rfl)
      (inner ++ '"' :: name) later
    simpa [text_eq] using framed
  rw [unmarshalJSON_brace _ trimmed parsed (unmarshalHelper_member named rendered), text_eq,
    opensWithBlank_eq blank inner_blank]
  cases inner with
  | nil =>
      rw [List.nil_append, find?_name named]
      have stored := set_blank (Function.update zero flag payload flag)
      rw [Function.update_self] at stored
      simp only [Function.update_self, stored]
      rfl
  | cons char inner =>
      rw [List.cons_append, find?_name_of_blank (inner_blank char List.mem_cons_self)]
      rfl

theorem closedBody_word {flag : Flag} {word : List Char} (simple : (flag, word) ∈ words) :
    closedBody word = true := by
  have table : ∀ entry ∈ words, closedBody entry.2 = true := by decide
  exact table _ simple

/-- A word is read as its variant, whatever is around it. -/
theorem unmarshalJSON_word {flag : Flag} {word : List Char} (simple : (flag, word) ∈ words) {text : List Char}
    (spaced : Spaced [.quoted word (closedBody_word simple)] text) :
    unmarshalJSON (blank zero) text = .ok (choose zero flag (zero flag)) := by
  have table : ∀ entry ∈ words, (words.find? fun other => other.2 = entry.2) = some entry := by decide
  cases spaced with
  | @cons blanks blank _ _ later _ spaced =>
      cases spaced with
      | nil later_blank =>
          have no_more : later.rdropWhile isSpace = [] :=
            List.rdropWhile_eq_nil_iff.mpr fun char member => isSpace_of_isBlank (later_blank char member)
          have trimmed : trimSpace (blanks ++ ((Token.quoted word (closedBody_word simple)).text ++ later)) =
              '"' :: (word ++ ['"']) := by
            have framed := trimSpace_framed blank (show isSpace '"' = false from rfl)
              (show isSpace '"' = false from rfl) word later
            simpa [Token.text, no_more] using framed
          have quoted : 2 ≤ ('"' :: (word ++ ['"'])).length ∧ ('"' :: (word ++ ['"'])).head? = some '"' ∧
              ('"' :: (word ++ ['"'])).getLast? = some '"' := by
            refine ⟨by simp, rfl, ?_⟩
            rw [← List.cons_append, List.getLast?_append]
            rfl
          have inside : ('"' :: (word ++ ['"'])).tail.dropLast = word := by
            rw [List.tail_cons, List.dropLast_concat]
          have raised := set_blank (zero flag)
          rw [show (TaggedUnion.blank zero : ExtrinsicStatus).payload = zero from rfl,
            Function.update_eq_self] at raised
          simp only [unmarshalJSON, trimmed, if_pos quoted, inside, table _ simple]
          exact congrArg Outcome.ok raised

/-! ## Both directions -/

theorem word_or_name (flag : Flag) :
    (∃ word, (flag, word) ∈ words) ∨ ∃ name, (flag, name) ∈ names := by
  cases flag <;> simp [words, names]

/-- The variants with a word have no payload. -/
theorem payload_eq_zero {flag : Flag} {word : List Char} (simple : (flag, word) ∈ words) (payload : Payload flag) :
    payload = zero flag := by
  cases flag with
  | isFuture | isReady | isDropped | isInvalid => rfl
  | isBroadcast | isInBlock | isRetracted | isFinalityTimeout | isFinalized | isUsurped => simp [words] at simple

theorem opensWithBlank_word {word : List Char} {closed : closedBody word = true} {text : List Char}
    (spaced : Spaced [.quoted word closed] text) : opensWithBlank text = false := by
  cases spaced with
  | @cons blanks blank _ _ later _ _ =>
      rw [opensWithBlank, List.dropWhile_append_of_pos blank]
      rfl

theorem validPayload_of_allValid {status : ExtrinsicStatus} (valid : AllValid (status.payload .isBroadcast))
    (flag : Flag) : ValidPayload flag (status.payload flag) := by
  cases flag with
  | isBroadcast => exact valid
  | _ => trivial

theorem isPlain_objectTokens {flag : Flag} {name : List Char} (named : (flag, name) ∈ names)
    {tokens : List Token} (plain : ∀ token ∈ tokens, token.isPlain = true) :
    ∀ token ∈ objectTokens named tokens, token.isPlain = true := by
  simpa [objectTokens, Token.isPlain, or_imp, forall_and] using plain

theorem marshalJSON_word (emptyIsNil : Bool) {flag : Flag} {word : List Char} (simple : (flag, word) ∈ words)
    (payload : Payload flag) :
    marshalJSON emptyIsNil (choose zero flag payload) =
      .ok ([Token.quoted word (closedBody_word simple)].flatMap Token.text) := by
  have table : ∀ entry ∈ words, (words.find? fun other => decide (other.1 = entry.1)) = some entry := by decide
  have found : (words.find? fun entry => (choose zero flag payload).flag entry.1) = some (flag, word) :=
    table _ simple
  simp only [marshalJSON, found, List.flatMap_singleton, Token.text]

theorem marshalJSON_name {emptyIsNil : Bool} {flag : Flag} {name : List Char} {payload : Payload flag}
    {tokens : List Token} {value : Json} (named : (flag, name) ∈ names)
    (rendered : Rendered emptyIsNil flag payload tokens value) :
    marshalJSON emptyIsNil (choose zero flag payload) = .ok ((objectTokens named tokens).flatMap Token.text) := by
  have table : ∀ entry ∈ names, (words.find? fun other => decide (other.1 = entry.1)) = none ∧
      (names.find? fun other => decide (other.1 = entry.1)) = some entry := by decide
  have no_word : (words.find? fun entry => (choose zero flag payload).flag entry.1) = none := (table _ named).1
  have found : (names.find? fun entry => (choose zero flag payload).flag entry.1) = some (flag, name) :=
    (table _ named).2
  simp only [marshalJSON, no_word, found, choose_payload, rendered.text, objectTokens]
  simp [Token.text, Mark.char]

/-- With blanks between the tokens, a status is read back exactly if none follows an opening brace. -/
theorem unmarshalJSON_respaced_iff {status : ExtrinsicStatus} {flag : Flag} (selects : status.Selects zero flag)
    (valid : AllValid (status.payload .isBroadcast)) (emptyIsNil : Bool) :
    ∃ marshalled, marshalJSON emptyIsNil status = .ok marshalled ∧
      ∀ text, SameTokens marshalled text →
        (unmarshalJSON (blank zero) text = .ok status ↔ opensWithBlank text = false) := by
  have chosen := selects.eq_choose
  rcases word_or_name flag with ⟨word, simple⟩ | ⟨name, named⟩
  · refine ⟨_, (congrArg (marshalJSON emptyIsNil) chosen).trans (marshalJSON_word emptyIsNil simple _), ?_⟩
    intro text same
    have spaced := same.spaced (by simp [Token.isPlain])
    refine iff_of_true ?_ (opensWithBlank_word spaced)
    rw [unmarshalJSON_word simple spaced, chosen, payload_eq_zero simple (status.payload flag)]
  · obtain ⟨tokens, value, rendered⟩ :=
      exists_rendered emptyIsNil named (status.payload flag) (validPayload_of_allValid valid flag)
    refine ⟨_, (congrArg (marshalJSON emptyIsNil) chosen).trans (marshalJSON_name named rendered), ?_⟩
    intro text same
    have spaced := same.spaced (isPlain_objectTokens named rendered.plain)
    rw [unmarshalJSON_object named rendered spaced, ← chosen]
    cases opensWithBlank text with
    | true => simp
    | false => simp

/-- Two peers, one of them with a quotation mark and a letter beyond ASCII in its name. -/
def samplePeers : List Text := [Utf8Text.bytes "peer", Utf8Text.bytes "\"ß"]

theorem unmarshalJSON_respaced_samplePeers :
    ∃ marshalled, marshalJSON false (choose zero .isBroadcast samplePeers) = .ok marshalled ∧
      ∀ text, SameTokens marshalled text →
        (unmarshalJSON (blank zero) text = .ok (choose zero .isBroadcast samplePeers) ↔
          opensWithBlank text = false) := by
  refine unmarshalJSON_respaced_iff (selects_choose .isBroadcast samplePeers) ?_ false
  change AllValid samplePeers
  intro text member
  rcases List.mem_cons.mp member with rfl | member
  · exact ⟨_, rfl⟩
  · exact ⟨_, List.mem_singleton.mp member⟩

/-- The text of a broadcast to no peers, with a blank behind the brace. -/
def spacedBroadcast : List Char :=
  ['{', ' ', '"', 'b', 'r', 'o', 'a', 'd', 'c', 'a', 's', 't', '"', ':', '[', ']', '}']

/-- Behind a blank the member is not recognised. -/
theorem spacedBroadcast_not_read :
    marshalJSON false (choose zero .isBroadcast (zero .isBroadcast)) =
        .ok ('{' :: spacedBroadcast.drop 2) ∧
      SameTokens ('{' :: spacedBroadcast.drop 2) spacedBroadcast ∧
      unmarshalJSON (blank zero) spacedBroadcast =
        .error (.text ("unexpected JSON for ExtrinsicStatus, got " ++ String.ofList spacedBroadcast)) ∧
      ¬ ∀ (status : ExtrinsicStatus) (flag : Flag) (emptyIsNil : Bool) (marshalled text : List Char),
        status.Selects zero flag → AllValid (status.payload .isBroadcast) →
          marshalJSON emptyIsNil status = .ok marshalled → SameTokens marshalled text →
            unmarshalJSON (blank zero) text = .ok status := by
  have written : marshalJSON false (choose zero .isBroadcast (zero .isBroadcast)) =
      .ok ('{' :: spacedBroadcast.drop 2) := rfl
  have refused : unmarshalJSON (blank zero) spacedBroadcast =
      .error (.text ("unexpected JSON for ExtrinsicStatus, got " ++ String.ofList spacedBroadcast)) := rfl
  have same : SameTokens ('{' :: spacedBroadcast.drop 2) spacedBroadcast := by
    have member : Spaced [.quoted ['b', 'r', 'o', 'a', 'd', 'c', 'a', 's', 't'] rfl, .mark .colon,
        .mark .openBracket, .mark .closeBracket, .mark .closeBrace] (spacedBroadcast.drop 2) :=
      spaced_flatMap (by decide)
    have brace : (Token.mark .openBrace).isPlain = true := rfl
    exact ⟨_, member.cons_plain brace, (member.cons_blank rfl).cons_plain brace⟩
  refine ⟨written, same, refused, fun all => ?_⟩
  have nobody : AllValid ((choose zero .isBroadcast (zero .isBroadcast)).payload .isBroadcast) :=
    fun _ member => absurd member List.not_mem_nil
  have read := all _ .isBroadcast false _ _ (selects_choose Flag.isBroadcast _) nobody written same
  rw [refused] at read
  cases read

end ExtrinsicStatus

end SubstrateClient.Types
