import SubstrateClient.JsonPrinter
import SubstrateClient.Registry.CompactNarrowing
import SubstrateClient.Types.ExtrinsicStatusJson

/-!
# Block headers in JSON

Subscriptions to new heads deliver headers as JSON objects.  The number of a block is a string of hexadecimal digits,
and the logs of its digest are the hexadecimal texts of encoded digest items.
-/

namespace SubstrateClient.Types

open ByteParser HexText JsonText Scale TaggedUnion

/-! ## `encoding/json` -/

/-- The field of a struct that a name stands for: an exact one first, else one that differs in case only. -/
def fieldNamed {ι : Type} (names : List (ι × List Char)) (name : List Char) : Option ι :=
  ((names.find? fun entry => entry.2 = name) <|>
    names.find? fun entry => entry.2.map foldRune = name.map foldRune).map Prod.fst

/-- `json.Unmarshal` of an item into a string that holds something. -/
def unmarshalStringItem (old : List Char) : Json → Outcome GoError (List Char)
  | .null => .ok old
  | item => unmarshalString (seenByString item)

/-- The items of an array, into the strings that were there before. -/
def unmarshalStringItems (old : List (List Char)) : List Json → Outcome GoError (List (List Char))
  | [] => .ok []
  | item :: items => do
      let text ← unmarshalStringItem (old.headD []) item
      let texts ← unmarshalStringItems old.tail items
      pure (text :: texts)

/-- `json.Unmarshal` into a slice of strings. -/
def unmarshalStrings (old : List (List Char)) : Json → Outcome GoError (List (List Char))
  | .array items => unmarshalStringItems old items
  | .null => .ok []
  | value => .error (typeError value)

theorem unmarshalStringItems_strings (texts : List (List Char)) :
    unmarshalStringItems [] (texts.map .string) = .ok texts := by
  induction texts with
  | nil => rfl
  | cons text texts ih =>
      rw [List.map_cons, unmarshalStringItems, List.tail_nil, ih]
      rfl

/-- An array of strings in JSON. -/
theorem renders_strings (depth : Nat) (texts : List (List Char)) :
    Renders (depth + 1) (printArray (texts.map printString)) (.array (texts.map .string)) := by
  refine .array (List.forall₂_map_left_iff.mpr (List.forall₂_map_right_iff.mpr ?_))
  exact List.forall₂_same.mpr fun text _ => renders_string depth text

theorem hexDecodeString_sharpHex (bytes : List UInt8) : hexDecodeString (sharpHex bytes) = .ok bytes := by
  by_cases empty : bytes = []
  · subst empty
    rfl
  · have shown : sharpHex bytes = hexText .lower bytes := if_neg empty
    rw [shown, hexDecodeString_hexText]

/-! ## `BlockNumber` -/

namespace BlockNumber

/-- `BlockNumber.MarshalJSON`, with `strconv.FormatUint` in base 16. -/
def marshalJSON (number : BlockNumber) : List Char := printString (Nat.toDigits 16 number.toNat)

/-- The loop of `strconv.ParseUint` in base 16 for 32 bits.  The errors do not print the text. -/
def parseDigits : (number : Nat) → List Char → Outcome GoError Nat
  | number, [] => .ok number
  | number, char :: later =>
      match digitValue char with
      | none => .error (.text "strconv.ParseUint: invalid syntax")
      | some digit =>
          if 2 ^ 32 ≤ 16 * number + digit then
            .error (.text "strconv.ParseUint: value out of range")
          else
            parseDigits (16 * number + digit) later

/-- `strconv.ParseUint` in base 16 for 32 bits. -/
def parseUint (text : List Char) : Outcome GoError Nat :=
  if text = [] then .error (.text "strconv.ParseUint: invalid syntax") else parseDigits 0 text

/-- `BlockNumber.UnmarshalJSON`. -/
def unmarshalJSON (value : Json) : Outcome GoError BlockNumber := do
  let tmp ← unmarshalString (seenByString value)
  let number ← parseUint (if ['0', 'x'] <+: tmp then tmp.drop 2 else tmp)
  pure (UInt32.ofNat number)

theorem digitValue_digitChar {digit : Nat} (small : digit < 16) : digitValue digit.digitChar = some digit := by
  have table : ∀ digit : Fin 16, digitValue digit.val.digitChar = some digit.val := by decide
  exact table ⟨digit, small⟩

theorem parseDigits_append {start number : Nat} {front : List Char} (read : parseDigits start front = .ok number)
    (back : List Char) : parseDigits start (front ++ back) = parseDigits number back := by
  induction front generalizing start with
  | nil =>
      cases read
      rfl
  | cons char front ih =>
      rw [parseDigits.eq_def] at read
      rw [List.cons_append, parseDigits.eq_def]
      cases digit : digitValue char with
      | none => simp [digit] at read
      | some value =>
          simp only [digit] at read ⊢
          split_ifs at read ⊢ with large
          exact ih read

/-- The digits of a number are read as the number. -/
theorem parseDigits_toDigits {number : Nat} (small : number < 2 ^ 32) :
    parseDigits 0 (Nat.toDigits 16 number) = .ok number := by
  have last : ∀ front {digit : Nat}, digit < 16 → 16 * front + digit < 2 ^ 32 →
      parseDigits front [digit.digitChar] = .ok (16 * front + digit) := by
    intro front digit digit_lt fits
    rw [parseDigits, digitValue_digitChar digit_lt]
    simp only [if_neg (Nat.not_le.mpr fits)]
    rfl
  induction number using Nat.strongRecOn with
  | ind number ih =>
      by_cases one : number < 16
      · rw [Nat.toDigits_of_lt_base one]
        simpa using last 0 one (by omega)
      · have split : 16 * (number / 16) + number % 16 = number := Nat.div_add_mod number 16
        have front := ih (number / 16) (by omega) (by omega)
        rw [Nat.toDigits_of_base_le (by omega) (by omega), parseDigits_append front,
          last _ (Nat.mod_lt number (by omega)) (by omega), split]

/-- The letter of the mark is no digit. -/
theorem no_mark_of_read {number : Nat} {text : List Char} (read : parseDigits 0 text = .ok number) :
    ¬ ['0', 'x'] <+: text := by
  rintro ⟨later, rfl⟩
  cases read

theorem unmarshalJSON_toDigits (number : BlockNumber) :
    unmarshalJSON (.string (Nat.toDigits 16 number.toNat)) = .ok number := by
  have read := parseDigits_toDigits number.toNat_lt
  have shown : Nat.toDigits 16 number.toNat ≠ [] := Nat.toDigits_ne_nil
  change (parseUint (if ['0', 'x'] <+: Nat.toDigits 16 number.toNat then _ else _) >>= _) = _
  rw [if_neg (no_mark_of_read read), parseUint, if_neg shown, read]
  exact congrArg Outcome.ok UInt32.ofNat_toNat

end BlockNumber

/-! ## `Digest` -/

namespace DigestItem

/-- What the decoder lets a payload be. -/
def Good : (flag : Flag) → Payload flag → Prop
  | .isChangesTrieRoot, _ => True
  | .isPreRuntime, message | .isConsensus, message | .isSeal, message =>
      (message : EngineMessage).bytes.length ≤ maxUint32
  | .isChangesTrieSignal, signal =>
      (signal : ChangesTrieSignal).isNewConfiguration = true ∧
        (signal : ChangesTrieSignal).asNewConfiguration.length ≤ maxUint32
  | .isOther, bytes => (bytes : List UInt8).length ≤ maxUint32

theorem restores_engineMessage {message : EngineMessage} (short : message.bytes.length ≤ maxUint32) :
    Restores message.encode EngineMessage.decode message := by
  refine restores_field (restores_u32 message.consensusEngineID) ?_
  exact restores_field (restores_bytes short) (restores_struct_nil message)

theorem restores_signal {signal : ChangesTrieSignal} (configured : signal.isNewConfiguration = true)
    (short : signal.asNewConfiguration.length ≤ maxUint32) :
    Restores signal.encode ChangesTrieSignal.decode signal := by
  obtain ⟨isNewConfiguration, asNewConfiguration⟩ := signal
  obtain rfl : isNewConfiguration = true := configured
  obtain ⟨bytes, written, reads⟩ := restores_bytes short
  refine ⟨0 :: bytes, ?_, (reads_readOneByte 0).bind (reads.bind_pure _)⟩
  rw [ChangesTrieSignal.encode, if_pos rfl, written]
  rfl

theorem restores_payload {flag : Flag} {payload : Payload flag} (good : Good flag payload) :
    Restores (encodePayload flag payload) (decodePayload flag) payload := by
  cases flag with
  | isChangesTrieRoot => exact restores_array payload
  | isPreRuntime | isConsensus | isSeal => exact restores_engineMessage good
  | isChangesTrieSignal => exact restores_signal good.1 good.2
  | isOther => exact restores_bytes good

/-- An item with one variant is read back from its encoding. -/
theorem restores_item {item : DigestItem} (well : item.WellFormed zero Good) :
    Restores item.encode DigestItem.decode item := by
  refine TaggedUnion.restores ?_ reads_readOneByte (fun _ _ => restores_payload) well
  intro flag
  cases flag <;> exact ⟨_, rfl, rfl⟩

theorem ensures_good (flag : Flag) : Ensures (Good flag) (decodePayload flag) := by
  have message : Ensures (fun message : EngineMessage => message.bytes.length ≤ maxUint32) EngineMessage.decode :=
    ensures_bind fun _ => ((ensures_length_bytes []).mapError _).bind fun _ short => ensures_pure short
  cases flag with
  | isChangesTrieRoot => exact fun _ _ _ _ => trivial
  | isPreRuntime | isConsensus | isSeal => exact message
  | isChangesTrieSignal =>
      refine ensures_bind fun tag => ?_
      split_ifs
      · exact (ensures_length_bytes []).bind fun bytes short => ensures_pure ⟨rfl, short⟩
      · exact ensures_fail _
  | isOther => exact ensures_length_bytes []

/-- What is decoded has one variant, or none if the first byte stands for nothing. -/
theorem ensures_wellFormed :
    Ensures (fun item : DigestItem => item.WellFormed zero Good ∨ item = blank zero) DigestItem.decode := by
  refine ensures_bind fun tag => ?_
  cases read.lookup tag with
  | none => exact ensures_pure (.inr rfl)
  | some flag =>
      refine (ensures_good flag).bind fun payload good => ensures_pure (.inl ?_)
      exact wellFormed_choose good

/-- The hexadecimal text of an item is decoded as the item exactly if the item has one variant. -/
theorem decodeFromHex_encodeToHex_iff (item : DigestItem) :
    (∃ log, encodeToHex item.encode = .ok log ∧ decodeFromHex DigestItem.decode log = .ok item) ↔
      item.WellFormed zero Good := by
  constructor
  · rintro ⟨log, shown, decoded⟩
    obtain ⟨bytes, written, shown⟩ := Outcome.bind_eq_ok.mp shown
    cases shown
    rw [decodeFromHex, hexDecodeString_sharpHex, Outcome.ok_bind] at decoded
    obtain ⟨rest, decoded⟩ := decodeWhole_eq_ok.mp decoded
    rcases ensures_wellFormed _ _ _ decoded with well | rfl
    · exact well
    · -- Nothing is written for the blank item, and nothing cannot be read.
      cases written
      cases decoded
  · intro well
    obtain ⟨bytes, written, reads⟩ := restores_item well
    refine ⟨sharpHex bytes, by rw [encodeToHex, written]; rfl, ?_⟩
    rw [decodeFromHex, hexDecodeString_sharpHex, Outcome.ok_bind]
    refine decodeWhole_eq_ok.mpr ⟨[], ?_⟩
    simpa using reads []

end DigestItem

/-- `types.Digest`, and `types.DigestOf` likewise. -/
abbrev Digest : Type := List DigestItem

namespace Digest

/-- `Digest.MarshalJSON`. -/
def marshalJSON (digest : Digest) : Outcome GoError (List Char) := do
  let logs ← digest.mapM fun item => encodeToHex item.encode
  pure (printObject [("logs".toList, printArray (logs.map printString))])

/-- A member of the object around the logs. -/
def unmarshalMember (logs : List (List Char)) (entry : List Char × Json) : Outcome GoError (List (List Char)) :=
  match fieldNamed [((), "logs".toList)] entry.1 with
  | some () => unmarshalStrings logs entry.2
  | none => .ok logs

/-- `json.Unmarshal` into the struct of the logs. -/
def unmarshalLogs : Json → Outcome GoError (List (List Char))
  | .object members => members.foldlM unmarshalMember []
  | .null => .ok []
  | value => .error (typeError value)

/-- `Digest.UnmarshalJSON`. -/
def unmarshalJSON (value : Json) : Outcome GoError Digest := do
  let logs ← unmarshalLogs value
  logs.mapM fun log => decodeFromHex DigestItem.decode log

/-- The value of the logs. -/
def logsJson (logs : List (List Char)) : Json := .object [("logs".toList, .array (logs.map .string))]

theorem renders_logs (depth : Nat) (logs : List (List Char)) :
    Renders (depth + 2) (printObject [("logs".toList, printArray (logs.map printString))]) (logsJson logs) :=
  .object (.cons ⟨rfl, renders_strings depth logs⟩ .nil)

theorem unmarshalJSON_logsJson (logs : List (List Char)) :
    unmarshalJSON (logsJson logs) = logs.mapM fun log => decodeFromHex DigestItem.decode log := by
  have read : unmarshalLogs (logsJson logs) = .ok logs := by
    have strings := unmarshalStringItems_strings logs
    change (unmarshalStringItems [] (logs.map .string) >>= _) = _
    rw [strings]
    rfl
  rw [unmarshalJSON, read]
  rfl

/-- The logs of a digest are read back exactly if each item has one variant. -/
theorem mapM_round_trip_iff (digest : Digest) :
    (∃ logs, (digest.mapM fun item => encodeToHex item.encode) = .ok logs ∧
      (logs.mapM fun log => decodeFromHex DigestItem.decode log) = .ok digest) ↔
      ∀ item ∈ digest, item.WellFormed DigestItem.zero DigestItem.Good := by
  simp only [Outcome.mapM_eq_ok]
  constructor
  · rintro ⟨logs, shown, decoded⟩
    induction shown with
    | nil => exact fun _ member => absurd member List.not_mem_nil
    | cons first _ ih =>
        obtain ⟨item_decoded, others⟩ := List.forall₂_cons.mp decoded
        refine List.forall_mem_cons.mpr ⟨?_, ih others⟩
        exact (DigestItem.decodeFromHex_encodeToHex_iff _).mp ⟨_, first, item_decoded⟩
  · intro well
    induction digest with
    | nil => exact ⟨[], .nil, .nil⟩
    | cons item digest ih =>
        obtain ⟨item_well, others⟩ := List.forall_mem_cons.mp well
        obtain ⟨log, shown, decoded⟩ := (DigestItem.decodeFromHex_encodeToHex_iff item).mpr item_well
        obtain ⟨logs, others_shown, others_decoded⟩ := ih others
        exact ⟨log :: logs, .cons shown others_shown, .cons decoded others_decoded⟩

end Digest

/-! ## `Header` -/

/-- `types.Header`. -/
structure Header where
  parentHash : Hash
  number : BlockNumber
  stateRoot : Hash
  extrinsicsRoot : Hash
  digest : Digest

namespace Header

/-- The zero value. -/
def zero : Header := ⟨zeroBytes 32, 0, zeroBytes 32, zeroBytes 32, []⟩

/-- The fields. -/
inductive Field where
  | parentHash | number | stateRoot | extrinsicsRoot | digest
  deriving DecidableEq

/-- The names in the tags of the fields. -/
def names : List (Field × List Char) :=
  [(.parentHash, "parentHash".toList), (.number, "number".toList), (.stateRoot, "stateRoot".toList),
    (.extrinsicsRoot, "extrinsicsRoot".toList), (.digest, "digest".toList)]

/-- `json.Marshal` of a header. -/
def marshalJSON (header : Header) : Outcome GoError (List Char) := do
  let digest ← header.digest.marshalJSON
  pure (printObject [("parentHash".toList, marshalHash header.parentHash),
    ("number".toList, header.number.marshalJSON), ("stateRoot".toList, marshalHash header.stateRoot),
    ("extrinsicsRoot".toList, marshalHash header.extrinsicsRoot), ("digest".toList, digest)])

/-- Read a value into a field. -/
def unmarshalField (header : Header) (value : Json) : Field → Outcome GoError Header
  | .parentHash => do
      let parentHash ← unmarshalHash value
      pure { header with parentHash }
  | .number => do
      let number ← BlockNumber.unmarshalJSON value
      pure { header with number }
  | .stateRoot => do
      let stateRoot ← unmarshalHash value
      pure { header with stateRoot }
  | .extrinsicsRoot => do
      let extrinsicsRoot ← unmarshalHash value
      pure { header with extrinsicsRoot }
  | .digest => do
      let digest ← Digest.unmarshalJSON value
      pure { header with digest }

/-- A member of an object; unknown names are passed over. -/
def unmarshalMember (header : Header) (entry : List Char × Json) : Outcome GoError Header :=
  match fieldNamed names entry.1 with
  | some field => header.unmarshalField entry.2 field
  | none => .ok header

/-- `json.Unmarshal` into a new header. -/
def unmarshalJSON (text : List Char) : Outcome GoError Header :=
  match parse text with
  | some (.object members) => members.foldlM unmarshalMember zero
  | some .null => .ok zero
  | some value => .error (typeError value)
  | none => .error (.text "invalid JSON")

/-- The value of a header with the logs. -/
def json (header : Header) (logs : List (List Char)) : Json :=
  .object [("parentHash".toList, .string (sharpHex header.parentHash.toList)),
    ("number".toList, .string (Nat.toDigits 16 header.number.toNat)),
    ("stateRoot".toList, .string (sharpHex header.stateRoot.toList)),
    ("extrinsicsRoot".toList, .string (sharpHex header.extrinsicsRoot.toList)),
    ("digest".toList, Digest.logsJson logs)]

theorem marshalJSON_eq {header : Header} {logs : List (List Char)}
    (shown : (header.digest.mapM fun item => encodeToHex item.encode) = .ok logs) :
    ∃ text, header.marshalJSON = .ok text ∧ Renders maxNestingDepth text (header.json logs) := by
  refine ⟨_, by rw [marshalJSON, Digest.marshalJSON, shown]; rfl, ?_⟩
  refine .object (.cons ⟨rfl, renders_string _ _⟩ (.cons ⟨rfl, renders_string _ _⟩ ?_))
  refine .cons ⟨rfl, renders_string _ _⟩ (.cons ⟨rfl, renders_string _ _⟩ (.cons ⟨rfl, ?_⟩ .nil))
  exact Digest.renders_logs _ logs

/-- The member with the name of a field is read into the field. -/
theorem foldlM_named {field : Field} {name : List Char} (named : fieldNamed names name = some field)
    (header : Header) (value : Json) (later : List (List Char × Json)) :
    ((name, value) :: later).foldlM unmarshalMember header =
      header.unmarshalField value field >>= fun header => later.foldlM unmarshalMember header := by
  rw [List.foldlM_cons, unmarshalMember, named]

/-- A header in JSON is read with the digest that its logs are decoded as. -/
theorem unmarshalJSON_json {header : Header} {logs : List (List Char)} {text : List Char}
    (parsed : parse text = some (header.json logs)) :
    unmarshalJSON text = (do
      let digest ← logs.mapM fun log => decodeFromHex DigestItem.decode log
      pure { header with digest }) := by
  have parent := unmarshalHash_sharpHex header.parentHash
  have state := unmarshalHash_sharpHex header.stateRoot
  have extrinsics := unmarshalHash_sharpHex header.extrinsicsRoot
  have number := BlockNumber.unmarshalJSON_toDigits header.number
  have digest := Digest.unmarshalJSON_logsJson logs
  have named : ∀ entry ∈ names, fieldNamed names entry.2 = some entry.1 := by decide
  rw [unmarshalJSON, parsed]
  change [_, _, _, _, _].foldlM unmarshalMember zero = _
  rw [foldlM_named (named (.parentHash, _) (by decide)), unmarshalField, parent, Outcome.ok_bind, Outcome.pure_eq,
    Outcome.ok_bind, foldlM_named (named (.number, _) (by decide)), unmarshalField, number, Outcome.ok_bind,
    Outcome.pure_eq, Outcome.ok_bind, foldlM_named (named (.stateRoot, _) (by decide)), unmarshalField, state,
    Outcome.ok_bind, Outcome.pure_eq, Outcome.ok_bind, foldlM_named (named (.extrinsicsRoot, _) (by decide)),
    unmarshalField, extrinsics, Outcome.ok_bind, Outcome.pure_eq, Outcome.ok_bind,
    foldlM_named (named (.digest, _) (by decide)), unmarshalField, digest]
  cases logs.mapM fun log => decodeFromHex DigestItem.decode log <;> rfl

/-- A header survives JSON, however the text is spaced, exactly if each item of its digest has one variant. -/
theorem header_json_round_trip_iff (header : Header) :
    (∃ text, header.marshalJSON = .ok text ∧
      ∀ other, SameTokens text other → unmarshalJSON other = .ok header) ↔
      ∀ item ∈ header.digest, item.WellFormed DigestItem.zero DigestItem.Good := by
  rw [← Digest.mapM_round_trip_iff]
  constructor
  · rintro ⟨text, marshalled, back⟩
    obtain ⟨digest, digest_marshalled, _⟩ := Outcome.bind_eq_ok.mp marshalled
    obtain ⟨logs, shown, _⟩ := Outcome.bind_eq_ok.mp digest_marshalled
    obtain ⟨_, again, renders⟩ := marshalJSON_eq shown
    cases marshalled.symm.trans again
    have read := back text renders.sameTokens
    rw [unmarshalJSON_json (renders.parse_eq renders.sameTokens)] at read
    obtain ⟨digest, decoded, same⟩ := Outcome.bind_eq_ok.mp read
    have digest_eq : digest = header.digest := congrArg Header.digest (Outcome.ok.inj same)
    exact ⟨logs, shown, digest_eq ▸ decoded⟩
  · rintro ⟨logs, shown, decoded⟩
    obtain ⟨text, marshalled, renders⟩ := marshalJSON_eq shown
    refine ⟨text, marshalled, fun other same => ?_⟩
    rw [unmarshalJSON_json (renders.parse_eq same), decoded]
    rfl

end Header

end SubstrateClient.Types
