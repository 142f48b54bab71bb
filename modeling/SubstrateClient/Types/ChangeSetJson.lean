import SubstrateClient.Types.HeaderJson

/-!
# Changes of the storage in JSON

A subscription to storage keys delivers the changes of a block as pairs of hexadecimal texts.  The library writes a
key without a value as a list with one text; a node writes `null` for the value.
-/

namespace SubstrateClient.Types

open HexText JsonText

/-! ## `KeyValueOption` -/

/-- `types.KeyValueOption`. -/
structure KeyValueOption where
  storageKey : List UInt8
  hasStorageData : Bool
  storageData : List UInt8

namespace KeyValueOption

/-- The zero value. -/
def zero : KeyValueOption := ⟨[], false, []⟩

/-- The texts that `MarshalJSON` writes. -/
def texts (change : KeyValueOption) : List (List Char) :=
  if change.hasStorageData then [sharpHex change.storageKey, sharpHex change.storageData]
  else [sharpHex change.storageKey]

/-- `KeyValueOption.MarshalJSON`. -/
def marshalJSON (change : KeyValueOption) : List Char := printArray (change.texts.map printString)

/-- `KeyValueOption.UnmarshalJSON`, into a value that holds something. -/
def unmarshalJSON (old : KeyValueOption) (value : Json) : Outcome GoError KeyValueOption := do
  let tmp ← unmarshalStrings [] value
  match tmp with
  | [] => .error (.text "expected at least one entry for KeyValueOption")
  | [keyText] => do
      let storageKey ← hexDecodeString keyText
      pure { old with storageKey }
  | [keyText, dataText] => do
      let storageData ← hexDecodeString dataText
      let storageKey ← hexDecodeString keyText
      pure ⟨storageKey, true, storageData⟩
  | _ => .error (.text ("expected 1 or 2 entries for KeyValueOption, got " ++ toString tmp.length))

/-- What comes back from the JSON of a change. -/
def reread (change : KeyValueOption) : KeyValueOption :=
  if change.hasStorageData then change else ⟨change.storageKey, false, []⟩

theorem unmarshalJSON_texts (change : KeyValueOption) :
    unmarshalJSON zero (.array (change.texts.map .string)) = .ok change.reread := by
  have read : unmarshalStrings [] (.array (change.texts.map .string)) = .ok change.texts :=
    unmarshalStringItems_strings change.texts
  rw [unmarshalJSON, read, Outcome.ok_bind, texts, reread]
  obtain ⟨storageKey, hasStorageData, storageData⟩ := change
  cases hasStorageData with
  | false => simp [hexDecodeString_sharpHex, zero]
  | true => simp [hexDecodeString_sharpHex]

theorem reread_eq_iff (change : KeyValueOption) :
    change.reread = change ↔ change.hasStorageData = true ∨ change.storageData = [] := by
  obtain ⟨storageKey, hasStorageData, storageData⟩ := change
  cases hasStorageData with
  | false => simp [reread, eq_comm]
  | true => simp [reread]

end KeyValueOption

/-! ## `StorageChangeSet` -/

/-- `types.StorageChangeSet`. -/
structure StorageChangeSet where
  block : Hash
  changes : List KeyValueOption

namespace StorageChangeSet

/-- The fields. -/
inductive Field where
  | block | changes
  deriving DecidableEq

/-- The names in the tags of the fields. -/
def names : List (Field × List Char) := [(.block, "block".toList), (.changes, "changes".toList)]

/-- `json.Marshal` of the changes, which is `null` for a nil slice. -/
def marshalChanges (emptyIsNil : Bool) (changes : List KeyValueOption) : List Char :=
  if changes = [] ∧ emptyIsNil = true then Word.null.chars else printArray (changes.map KeyValueOption.marshalJSON)

/-- `json.Marshal` of a change set.  Whether an empty list of changes is a nil slice is not part of the model of a
change set. -/
def marshalJSON (emptyIsNil : Bool) (set : StorageChangeSet) : List Char :=
  printObject [("block".toList, marshalHash set.block), ("changes".toList, marshalChanges emptyIsNil set.changes)]

/-- The items of an array, into the changes that were there before. -/
def unmarshalItems (old : List KeyValueOption) : List Json → Outcome GoError (List KeyValueOption)
  | [] => .ok []
  | item :: items => do
      let change ← KeyValueOption.unmarshalJSON (old.headD .zero) item
      let changes ← unmarshalItems old.tail items
      pure (change :: changes)

/-- `json.Unmarshal` into the changes, with the type error that is kept for the end. -/
def unmarshalChanges (old : List KeyValueOption) : Json → Outcome GoError (List KeyValueOption × Option GoError)
  | .array items => do
      let changes ← unmarshalItems old items
      pure (changes, none)
  | .null => .ok ([], none)
  | value => .ok (old, some (typeError value))

/-- Read a value into a field. -/
def unmarshalField (read : StorageChangeSet × Option GoError) (value : Json) :
    Field → Outcome GoError (StorageChangeSet × Option GoError)
  | .block => do
      let block ← unmarshalHash value
      pure ({ read.1 with block }, read.2)
  | .changes => do
      let changes ← unmarshalChanges read.1.changes value
      pure ({ read.1 with changes := changes.1 }, read.2 <|> changes.2)

/-- A member of an object; unknown names are passed over. -/
def unmarshalMember (read : StorageChangeSet × Option GoError) (entry : List Char × Json) :
    Outcome GoError (StorageChangeSet × Option GoError) :=
  match fieldNamed names entry.1 with
  | some field => unmarshalField read entry.2 field
  | none => .ok read

/-- The zero value. -/
def zero : StorageChangeSet := ⟨zeroBytes 32, []⟩

/-- `json.Unmarshal` of a value into a new change set. -/
def unmarshalValue : Json → Outcome GoError StorageChangeSet
  | .object members => do
      let read ← members.foldlM unmarshalMember (zero, none)
      match read.2 with
      | none => pure read.1
      | some reason => .error reason
  | .null => .ok zero
  | value => .error (typeError value)

/-- `json.Unmarshal` of a text into a new change set. -/
def unmarshalJSON (text : List Char) : Outcome GoError StorageChangeSet :=
  match parse text with
  | some value => unmarshalValue value
  | none => .error (.text "invalid JSON")

/-- An object with the block and the changes. -/
def json (block : Hash) (changes : Json) : Json :=
  .object [("block".toList, .string (sharpHex block.toList)), ("changes".toList, changes)]

/-- The object is read with what its changes are read as. -/
theorem unmarshalValue_json (block : Hash) {value : Json} {changes : List KeyValueOption}
    (read : unmarshalChanges [] value = .ok (changes, none)) :
    unmarshalValue (json block value) = .ok ⟨block, changes⟩ := by
  have hash := unmarshalHash_sharpHex block
  have block_named : fieldNamed names "block".toList = some .block := by decide
  have changes_named : fieldNamed names "changes".toList = some .changes := by decide
  have first : unmarshalMember (zero, none) ("block".toList, .string (sharpHex block.toList)) =
      .ok (⟨block, []⟩, none) := by
    simp only [unmarshalMember, block_named, unmarshalField, hash, Outcome.ok_bind]
    rfl
  have second : unmarshalMember (⟨block, []⟩, none) ("changes".toList, value) = .ok (⟨block, changes⟩, none) := by
    simp only [unmarshalMember, changes_named, unmarshalField, read, Outcome.ok_bind]
    rfl
  simp only [unmarshalValue, json, List.foldlM_cons, List.foldlM_nil, first, second, Outcome.ok_bind,
    Outcome.pure_eq]

/-- The value of the changes. -/
def changesJson (emptyIsNil : Bool) (changes : List KeyValueOption) : Json :=
  if changes = [] ∧ emptyIsNil = true then .null
  else .array (changes.map fun change => .array (change.texts.map .string))

theorem renders_changes (depth : Nat) (emptyIsNil : Bool) (changes : List KeyValueOption) :
    Renders (depth + 2) (marshalChanges emptyIsNil changes) (changesJson emptyIsNil changes) := by
  rw [marshalChanges, changesJson]
  split_ifs
  · exact renders_null _
  · refine .array (List.forall₂_map_left_iff.mpr (List.forall₂_map_right_iff.mpr ?_))
    exact List.forall₂_same.mpr fun change _ => renders_strings depth change.texts

theorem renders_marshalJSON (emptyIsNil : Bool) (set : StorageChangeSet) :
    Renders maxNestingDepth (set.marshalJSON emptyIsNil) (json set.block (changesJson emptyIsNil set.changes)) := by
  refine .object (.cons ⟨rfl, renders_string _ _⟩ (.cons ⟨rfl, ?_⟩ .nil))
  exact renders_changes _ emptyIsNil set.changes

/-- Items that are each read into a new change. -/
theorem unmarshalItems_map {α : Type} {value : α → Json} {result : α → KeyValueOption}
    (each : ∀ item, KeyValueOption.unmarshalJSON .zero (value item) = .ok (result item)) (items : List α) :
    unmarshalItems [] (items.map value) = .ok (items.map result) := by
  induction items with
  | nil => rfl
  | cons item items ih =>
      rw [List.map_cons, unmarshalItems, List.headD_nil, each, List.tail_nil, ih]
      rfl

theorem unmarshalChanges_changesJson (emptyIsNil : Bool) (changes : List KeyValueOption) :
    unmarshalChanges [] (changesJson emptyIsNil changes) = .ok (changes.map KeyValueOption.reread, none) := by
  rw [changesJson]
  split_ifs with empty
  · rw [empty.1]
    rfl
  · rw [unmarshalChanges, unmarshalItems_map KeyValueOption.unmarshalJSON_texts]
    rfl

/-! ## What a node sends -/

/-- A key with its new value, or without one if it was deleted. -/
abbrev NodeChange : Type := List UInt8 × Option (List UInt8)

/-- The text of a change as a node writes it. -/
def nodeText (change : NodeChange) : List Char :=
  printArray [printString (hexText .lower change.1),
    match change.2 with
    | some data => printString (hexText .lower data)
    | none => Word.null.chars]

/-- The text of a change set as a node writes it. -/
def nodeJSON (block : Hash) (changes : List NodeChange) : List Char :=
  printObject [("block".toList, printString (hexText .lower block.toList)),
    ("changes".toList, printArray (changes.map nodeText))]

/-- What the library takes the change for. -/
def received (change : NodeChange) : KeyValueOption := ⟨change.1, true, change.2.getD []⟩

/-- The value of a change as a node writes it. -/
def nodeValue (change : NodeChange) : Json :=
  .array [.string (hexText .lower change.1),
    match change.2 with
    | some data => .string (hexText .lower data)
    | none => .null]

theorem renders_nodeText (depth : Nat) (change : NodeChange) :
    Renders (depth + 1) (nodeText change) (nodeValue change) := by
  refine .array (.cons (renders_string _ _) (.cons ?_ .nil))
  cases change.2 with
  | some data => exact renders_string _ _
  | none => exact renders_null _

theorem unmarshalJSON_nodeValue (change : NodeChange) :
    KeyValueOption.unmarshalJSON .zero (nodeValue change) = .ok (received change) := by
  obtain ⟨storageKey, data⟩ := change
  cases data with
  | none =>
      have read : unmarshalStrings [] (nodeValue (storageKey, none)) = .ok [hexText .lower storageKey, []] := rfl
      have empty : hexDecodeString [] = .ok [] := rfl
      rw [KeyValueOption.unmarshalJSON, read]
      simp only [Outcome.ok_bind, empty, hexDecodeString_hexText]
      rfl
  | some data =>
      have read : unmarshalStrings [] (nodeValue (storageKey, some data)) =
          .ok [hexText .lower storageKey, hexText .lower data] := rfl
      rw [KeyValueOption.unmarshalJSON, read]
      simp only [Outcome.ok_bind, hexDecodeString_hexText]
      rfl

/-- The value of a change set as a node writes it. -/
def nodeJson (block : Hash) (changes : List NodeChange) : Json := json block (.array (changes.map nodeValue))

theorem renders_nodeJSON (block : Hash) (changes : List NodeChange) :
    Renders maxNestingDepth (nodeJSON block changes) (nodeJson block changes) := by
  have shown : sharpHex block.toList = hexText .lower block.toList :=
    if_neg (List.ne_nil_of_length_pos (by rw [block.toList_length]; omega))
  rw [nodeJson, json, shown]
  refine .object (.cons ⟨rfl, renders_string _ _⟩ (.cons ⟨rfl, ?_⟩ .nil))
  refine .array (List.forall₂_map_left_iff.mpr (List.forall₂_map_right_iff.mpr ?_))
  exact List.forall₂_same.mpr fun change _ => renders_nodeText _ change

/-- Each change that a node sends is taken for one with data, and a deletion for an empty value. -/
theorem unmarshalValue_nodeJson (block : Hash) (changes : List NodeChange) :
    unmarshalValue (nodeJson block changes) = .ok ⟨block, changes.map received⟩ := by
  apply unmarshalValue_json
  rw [unmarshalChanges, unmarshalItems_map unmarshalJSON_nodeValue]
  rfl

/-- A change set survives JSON, however the text is spaced, exactly if no change without data holds some; and what a
node sends is read with every change marked as having data, so that a deleted key cannot be told from one with an
empty value. -/
theorem change_set_json (emptyIsNil : Bool) (set : StorageChangeSet) :
    ((∀ text, SameTokens (set.marshalJSON emptyIsNil) text → unmarshalJSON text = .ok set) ↔
      ∀ change ∈ set.changes, change.hasStorageData = true ∨ change.storageData = []) ∧
    ∀ changes : List NodeChange, ∀ text, SameTokens (nodeJSON set.block changes) text →
      unmarshalJSON text = .ok ⟨set.block, changes.map fun change => ⟨change.1, true, change.2.getD []⟩⟩ := by
  refine ⟨?_, fun changes text same => ?_⟩
  swap
  · rw [unmarshalJSON, (renders_nodeJSON set.block changes).parse_eq same]
    exact unmarshalValue_nodeJson set.block changes
  have renders := renders_marshalJSON emptyIsNil set
  have read : ∀ text, SameTokens (set.marshalJSON emptyIsNil) text →
      unmarshalJSON text = .ok ⟨set.block, set.changes.map KeyValueOption.reread⟩ := by
    intro text same
    rw [unmarshalJSON, renders.parse_eq same]
    exact unmarshalValue_json set.block (unmarshalChanges_changesJson emptyIsNil set.changes)
  have kept : set.changes.map KeyValueOption.reread = set.changes ↔
      ∀ change ∈ set.changes, change.hasStorageData = true ∨ change.storageData = [] := by
    have each := List.map_inj_left (l := set.changes) (f := KeyValueOption.reread) (g := id)
    rw [List.map_id] at each
    exact each.trans (forall₂_congr fun change _ => change.reread_eq_iff)
  rw [← kept]
  constructor
  · intro back
    have same := (read _ renders.sameTokens).symm.trans (back _ renders.sameTokens)
    exact congrArg StorageChangeSet.changes (Outcome.ok.inj same)
  · intro unchanged text same
    rw [read text same, unchanged]

end StorageChangeSet

end SubstrateClient.Types
