import SubstrateClient.JsonParser

/-!
# Printing JSON values

The texts that a printer makes of strings, arrays and objects, and the values that the parser finds in these texts,
however they are spaced.
-/

namespace JsonText

/-! ## Texts -/

/-- A string between quotation marks. -/
def printString (chars : List Char) : List Char := '"' :: (quoteBody (chars.map some) ++ ['"'])

/-- The texts of the items between brackets. -/
def printArray (items : List (List Char)) : List Char := '[' :: ([','].intercalate items ++ [']'])

/-- The name of a member and the text of its value. -/
def printMember (member : List Char × List Char) : List Char := printString member.1 ++ ':' :: member.2

/-- The members between braces. -/
def printObject (members : List (List Char × List Char)) : List Char :=
  '{' :: ([','].intercalate (members.map printMember) ++ ['}'])

/-! ## Tokens -/

/-- The parser takes the tokens for the value, whatever follows them. -/
def Parses (depth : Nat) (tokens : List Token) (value : Json) : Prop :=
  ∀ fuel later, 2 * tokens.length ≤ fuel → parseValue fuel depth (tokens ++ later) = some (value, later)

/-- The lists of tokens, with commas between them. -/
def separated (parts : List (List Token)) : List Token := [Token.mark .comma].intercalate parts

/-- A list of tokens that is not the last one. -/
theorem separated_cons_cons (first next : List Token) (others : List (List Token)) :
    separated (first :: next :: others) = first ++ .mark .comma :: separated (next :: others) := by
  rw [separated, List.intercalate_cons_cons, List.append_assoc]
  rfl

theorem mem_separated {parts : List (List Token)} {token : Token} (member : token ∈ separated parts) :
    token = .mark .comma ∨ ∃ part ∈ parts, token ∈ part := by
  induction parts with
  | nil => exact absurd member List.not_mem_nil
  | cons part parts ih =>
      cases parts with
      | nil =>
          rw [separated, List.intercalate_singleton] at member
          exact .inr ⟨part, List.mem_cons_self, member⟩
      | cons next parts =>
          rw [separated_cons_cons, List.mem_append, List.mem_cons] at member
          rcases member with member | rfl | member
          · exact .inr ⟨part, List.mem_cons_self, member⟩
          · exact .inl rfl
          · refine (ih member).imp_right ?_
            rintro ⟨other, among, inside⟩
            exact ⟨other, List.mem_cons_of_mem _ among, inside⟩

/-- The text of separated tokens is separated as well. -/
theorem flatMap_separated (parts : List (List Token)) :
    (separated parts).flatMap Token.text = [','].intercalate (parts.map fun part => part.flatMap Token.text) := by
  induction parts with
  | nil => rfl
  | cons part parts ih =>
      cases parts with
      | nil => simp [separated]
      | cons next parts =>
          rw [separated_cons_cons, List.flatMap_append, List.flatMap_cons, ih]
          simp only [List.map_cons, List.intercalate_cons_cons, List.append_assoc]
          rfl

variable {depth : Nat} {tokens : List Token} {value : Json}

/-- A value starts with a token that closes nothing. -/
theorem Parses.starts (parses : Parses depth tokens value) :
    ∃ token later, tokens = token :: later ∧ token ≠ .mark .closeBracket ∧ token ≠ .mark .closeBrace := by
  cases tokens with
  | nil => cases parses 1 [] (by simp)
  | cons token later =>
      have read := parses (2 * (token :: later).length) [] (Nat.le_refl _)
      refine ⟨token, later, rfl, ?_, ?_⟩
      · rintro rfl
        cases read
      · rintro rfl
        cases read

theorem parses_string (depth : Nat) (chars : List Char) :
    Parses depth [quotedToken (chars.map some)] (.string chars) := by
  intro fuel later enough
  obtain ⟨fuel, rfl⟩ : ∃ more, fuel = more + 1 := ⟨fuel - 1, by simp at enough; omega⟩
  exact parseValue_string chars fuel depth later

/-- The items of an array are parsed one after another. -/
theorem parseItems_separated {parts : List (List Token)} {values : List Json}
    (parses : List.Forall₂ (Parses depth) parts values) (nonempty : parts ≠ []) {fuel : Nat}
    (enough : 2 * (separated parts).length + 1 ≤ fuel) (later : List Token) :
    parseItems fuel depth (separated parts ++ .mark .closeBracket :: later) = some (values, later) := by
  induction parses generalizing fuel with
  | nil => exact absurd rfl nonempty
  | @cons part value parts values first others ih =>
      obtain ⟨fuel, rfl⟩ : ∃ more, fuel = more + 1 := ⟨fuel - 1, by omega⟩
      cases others with
      | nil =>
          rw [separated, List.intercalate_singleton] at enough ⊢
          exact parseItems_last (first fuel _ (by omega))
      | cons second others =>
          rw [separated_cons_cons, List.length_append, List.length_cons] at enough
          rw [separated_cons_cons, List.append_assoc]
          refine parseItems_comma (first fuel _ (by omega)) ?_
          exact ih (List.cons_ne_nil _ _) (by omega)

/-- The tokens of an array. -/
def arrayTokens (parts : List (List Token)) : List Token :=
  .mark .openBracket :: (separated parts ++ [.mark .closeBracket])

theorem separated_starts {part rest : List Token} {token : Token} (part_eq : part = token :: rest)
    (parts : List (List Token)) : ∃ more, separated (part :: parts) = token :: more := by
  cases parts with
  | nil => exact ⟨rest, by rw [separated, List.intercalate_singleton, part_eq]⟩
  | cons next parts => exact ⟨_, by rw [separated_cons_cons, part_eq, List.cons_append]⟩

theorem Parses.array {parts : List (List Token)} {values : List Json}
    (parses : List.Forall₂ (Parses depth) parts values) :
    Parses (depth + 1) (arrayTokens parts) (.array values) := by
  intro fuel later enough
  rw [arrayTokens, List.length_cons, List.length_append, List.length_singleton] at enough
  obtain ⟨fuel, rfl⟩ : ∃ more, fuel = more + 1 := ⟨fuel - 1, by omega⟩
  rw [arrayTokens, List.cons_append, List.append_assoc, List.singleton_append]
  cases parses with
  | nil => rfl
  | cons first others =>
      have items := parseItems_separated (.cons first others) (List.cons_ne_nil _ _)
        (show _ ≤ fuel by omega) later
      obtain ⟨token, rest, part_eq, no_bracket, _⟩ := first.starts
      obtain ⟨more, starts⟩ := separated_starts part_eq _
      rw [parseValue, items]
      · rfl
      · rw [starts]
        rintro _ ⟨⟩
        exact no_bracket rfl

/-- The tokens of a member. -/
def memberTokens (member : List Char × List Token) : List Token :=
  quotedToken (member.1.map some) :: .mark .colon :: member.2

/-- A member has its name and a value that the tokens are parsed as. -/
def MemberParses (depth : Nat) (member : List Char × List Token) (entry : List Char × Json) : Prop :=
  member.1 = entry.1 ∧ Parses depth member.2 entry.2

theorem parseMembers_comma {fuel : Nat} {name : List Char} {later rest : List Token}
    {entries : List (List Char × Json)}
    (first : parseValue fuel depth tokens = some (value, .mark .comma :: later))
    (others : parseMembers fuel depth later = some (entries, rest)) :
    parseMembers (fuel + 1) depth (quotedToken (name.map some) :: .mark .colon :: tokens) =
      some ((name, value) :: entries, rest) := by
  simp only [quotedToken, parseMembers, unquote_quoteBody, first, others, Option.bind_eq_bind, Option.bind_some]

theorem parseMembers_last {fuel : Nat} {name : List Char} {later : List Token}
    (only : parseValue fuel depth tokens = some (value, .mark .closeBrace :: later)) :
    parseMembers (fuel + 1) depth (quotedToken (name.map some) :: .mark .colon :: tokens) =
      some ([(name, value)], later) := by
  simp only [quotedToken, parseMembers, unquote_quoteBody, only, Option.bind_eq_bind, Option.bind_some]

/-- The members of an object are parsed one after another. -/
theorem parseMembers_separated {members : List (List Char × List Token)} {entries : List (List Char × Json)}
    (parses : List.Forall₂ (MemberParses depth) members entries) (nonempty : members ≠ []) {fuel : Nat}
    (enough : 2 * (separated (members.map memberTokens)).length + 1 ≤ fuel) (later : List Token) :
    parseMembers fuel depth (separated (members.map memberTokens) ++ .mark .closeBrace :: later) =
      some (entries, later) := by
  induction parses generalizing fuel with
  | nil => exact absurd rfl nonempty
  | @cons member entry members entries first others ih =>
      obtain ⟨fuel, rfl⟩ : ∃ more, fuel = more + 1 := ⟨fuel - 1, by omega⟩
      obtain ⟨name, part⟩ := member
      obtain ⟨_, value⟩ := entry
      obtain ⟨rfl, parses⟩ : name = _ ∧ Parses depth part value := first
      cases others with
      | nil =>
          rw [List.map_singleton, separated, List.intercalate_singleton] at enough ⊢
          have width : part.length + 2 = (memberTokens (name, part)).length := rfl
          exact parseMembers_last (parses fuel _ (by omega))
      | cons second others =>
          rw [List.map_cons, List.map_cons, separated_cons_cons, List.length_append, List.length_cons] at enough
          rw [List.map_cons, List.map_cons, separated_cons_cons, List.append_assoc]
          have width : part.length + 2 = (memberTokens (name, part)).length := rfl
          refine parseMembers_comma (parses fuel _ (by omega)) ?_
          exact ih (List.cons_ne_nil _ _) (by rw [List.map_cons]; omega)

/-- The tokens of an object. -/
def objectTokens (members : List (List Char × List Token)) : List Token :=
  .mark .openBrace :: (separated (members.map memberTokens) ++ [.mark .closeBrace])

theorem Parses.object {members : List (List Char × List Token)} {entries : List (List Char × Json)}
    (parses : List.Forall₂ (MemberParses depth) members entries) :
    Parses (depth + 1) (objectTokens members) (.object entries) := by
  intro fuel later enough
  rw [objectTokens, List.length_cons, List.length_append, List.length_singleton] at enough
  obtain ⟨fuel, rfl⟩ : ∃ more, fuel = more + 1 := ⟨fuel - 1, by omega⟩
  rw [objectTokens, List.cons_append, List.append_assoc, List.singleton_append]
  cases parses with
  | nil => rfl
  | @cons member entry members entries first others =>
      have read := parseMembers_separated (.cons first others) (List.cons_ne_nil _ _)
        (show _ ≤ fuel by omega) later
      obtain ⟨more, starts⟩ := separated_starts
        (show memberTokens member = quotedToken (member.1.map some) :: _ from rfl) (members.map memberTokens)
      rw [parseValue, read]
      · rfl
      · rw [List.map_cons, starts]
        rintro _ ⟨⟩

/-! ## Texts and values -/

/-- The text is one of the value. -/
def Renders (depth : Nat) (text : List Char) (value : Json) : Prop :=
  ∃ tokens : List Token, (∀ token ∈ tokens, token.isPlain = true) ∧ tokens.flatMap Token.text = text ∧
    Parses depth tokens value

theorem renders_string (depth : Nat) (chars : List Char) :
    Renders depth (printString chars) (.string chars) := by
  refine ⟨[quotedToken (chars.map some)], ?_, List.append_nil _, parses_string depth chars⟩
  intro token member
  obtain rfl := List.mem_singleton.mp member
  rfl

theorem renders_null (depth : Nat) : Renders depth Word.null.chars .null := by
  refine ⟨[.word .null], ?_, rfl, ?_⟩
  · intro token member
    obtain rfl := List.mem_singleton.mp member
    rfl
  · intro fuel later enough
    obtain ⟨fuel, rfl⟩ : ∃ more, fuel = more + 1 := ⟨fuel - 1, by simp at enough; omega⟩
    rfl

theorem isPlain_separated {parts : List (List Token)}
    (plain : ∀ part ∈ parts, ∀ token ∈ part, token.isPlain = true) :
    ∀ token ∈ separated parts, token.isPlain = true := by
  intro token member
  rcases mem_separated member with rfl | ⟨part, among, inside⟩
  · rfl
  · exact plain part among token inside

theorem isPlain_framed {opens closes : Mark} {inner : List Token} (plain : ∀ token ∈ inner, token.isPlain = true) :
    ∀ token ∈ Token.mark opens :: (inner ++ [.mark closes]), token.isPlain = true := by
  intro token member
  rw [List.mem_cons, List.mem_append, List.mem_singleton] at member
  rcases member with rfl | member | rfl
  · rfl
  · exact plain token member
  · rfl

/-- The tokens of several texts. -/
theorem exists_parts {texts : List (List Char)} {values : List Json}
    (renders : List.Forall₂ (Renders depth) texts values) :
    ∃ parts : List (List Token), (∀ part ∈ parts, ∀ token ∈ part, token.isPlain = true) ∧
      (parts.map fun part => part.flatMap Token.text) = texts ∧ List.Forall₂ (Parses depth) parts values := by
  induction renders with
  | nil => exact ⟨[], by simp, rfl, .nil⟩
  | cons first _ ih =>
      obtain ⟨tokens, plain, text, parses⟩ := first
      obtain ⟨parts, others, texts, later⟩ := ih
      refine ⟨tokens :: parts, ?_, ?_, .cons parses later⟩
      · exact List.forall_mem_cons.mpr ⟨plain, others⟩
      · rw [List.map_cons, text, texts]

theorem Renders.array {texts : List (List Char)} {values : List Json}
    (renders : List.Forall₂ (Renders depth) texts values) :
    Renders (depth + 1) (printArray texts) (.array values) := by
  obtain ⟨parts, plain, rfl, parses⟩ := exists_parts renders
  refine ⟨arrayTokens parts, isPlain_framed (isPlain_separated plain), ?_, .array parses⟩
  rw [arrayTokens, List.flatMap_cons, List.flatMap_append, flatMap_separated]
  rfl

/-- A member has its name and a text of its value. -/
def MemberRenders (depth : Nat) (member : List Char × List Char) (entry : List Char × Json) : Prop :=
  member.1 = entry.1 ∧ Renders depth member.2 entry.2

theorem exists_members {texts : List (List Char × List Char)} {entries : List (List Char × Json)}
    (renders : List.Forall₂ (MemberRenders depth) texts entries) :
    ∃ members : List (List Char × List Token), (∀ member ∈ members, ∀ token ∈ member.2, token.isPlain = true) ∧
      (members.map fun member => (member.1, member.2.flatMap Token.text)) = texts ∧
      List.Forall₂ (MemberParses depth) members entries := by
  induction renders with
  | nil => exact ⟨[], by simp, rfl, .nil⟩
  | @cons text entry _ _ first _ ih =>
      obtain ⟨name, tokens, plain, rendered, parses⟩ := first
      obtain ⟨members, others, texts, later⟩ := ih
      refine ⟨(text.1, tokens) :: members, ?_, ?_, .cons ⟨name, parses⟩ later⟩
      · exact List.forall_mem_cons.mpr ⟨plain, others⟩
      · rw [List.map_cons, texts, rendered]

theorem flatMap_memberTokens (member : List Char × List Token) :
    (memberTokens member).flatMap Token.text = printMember (member.1, member.2.flatMap Token.text) := rfl

theorem Renders.object {texts : List (List Char × List Char)} {entries : List (List Char × Json)}
    (renders : List.Forall₂ (MemberRenders depth) texts entries) :
    Renders (depth + 1) (printObject texts) (.object entries) := by
  obtain ⟨members, plain, rfl, parses⟩ := exists_members renders
  refine ⟨objectTokens members, isPlain_framed (isPlain_separated ?_), ?_, .object parses⟩
  · intro part inside
    obtain ⟨member, among, rfl⟩ := List.mem_map.mp inside
    exact List.forall_mem_cons.mpr ⟨rfl, List.forall_mem_cons.mpr ⟨rfl, plain member among⟩⟩
  · rw [objectTokens, List.flatMap_cons, List.flatMap_append, flatMap_separated, List.map_map]
    simp only [Function.comp_def, flatMap_memberTokens, printObject, List.map_map]
    rfl

/-- A printed text is a spacing of itself. -/
theorem Renders.sameTokens {text : List Char} (renders : Renders depth text value) : SameTokens text text := by
  obtain ⟨tokens, plain, rfl, _⟩ := renders
  exact ⟨tokens, spaced_flatMap plain, spaced_flatMap plain⟩

/-- A printed text is parsed as its value, however it is spaced. -/
theorem Renders.parse_eq {text other : List Char} (renders : Renders maxNestingDepth text value)
    (same : SameTokens text other) : parse other = some value := by
  obtain ⟨tokens, plain, rfl, parses⟩ := renders
  rw [(same.spaced plain).parse_eq, parseTokens]
  have read := parses (2 * tokens.length + 2) [] (by omega)
  rw [List.append_nil] at read
  rw [read]

end JsonText
