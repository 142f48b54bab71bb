import Mathlib.Data.List.Perm.Basic
import Mathlib.Logic.Function.Basic
import SubstrateClient.Registry.Decoder
import SubstrateClient.Registry.Metadata
import SubstrateClient.Types.EventRecord

/-!
# The registry factory

`registry.factory` walks the type definitions of the metadata and builds one decoder for each field.
Decoders are memoised by lookup index; the first visit of an index plants a recursive decoder that is
completed once all pallets have been walked.  An error ends the creation of the registry, and the next
creation starts from fresh storages, so the storages of a failed run are not kept.
-/

namespace SubstrateClient.Registry

open Scale SubstrateClient.Types

/-! ## Errors of registry creation -/

def errRecursiveDecodersResolving : GoError := .declared "recursive decoders resolving"
def errErrorsTypeNotFound : GoError := .declared "errors type not found"
def errErrorsTypeNotVariant : GoError := .declared "errors type not a variant"
def errErrorFieldsRetrieval : GoError := .declared "error fields retrieval"
def errCallsTypeNotFound : GoError := .declared "calls type not found"
def errCallsTypeNotVariant : GoError := .declared "calls type not a variant"
def errCallFieldsRetrieval : GoError := .declared "call fields retrieval"
def errEventsTypeNotFound : GoError := .declared "events type not found"
def errEventsTypeNotVariant : GoError := .declared "events type not a variant"
def errEventFieldsRetrieval : GoError := .declared "event fields retrieval"
def errFieldDecoderForRecursiveFieldNotFound : GoError :=
  .declared "field decoder for recursive field not found"
def errRecursiveFieldResolving : GoError := .declared "recursive field resolving"
def errFieldTypeNotFound : GoError := .declared "field type not found"
def errFieldDecoderRetrieval : GoError := .declared "field decoder retrieval"
def errCompactFieldTypeNotFound : GoError := .declared "compact field type not found"
def errCompositeTypeFieldsRetrieval : GoError := .declared "composite type fields retrieval"
def errArrayFieldTypeNotFound : GoError := .declared "array field type not found"
def errVectorFieldTypeNotFound : GoError := .declared "vector field type not found"
def errFieldTypeDefinitionNotSupported : GoError := .declared "field type definition not supported"
def errVariantTypeFieldsRetrieval : GoError := .declared "variant type fields decoding"
def errCompactTupleItemTypeNotFound : GoError := .declared "compact tuple item type not found"
def errCompactTupleItemFieldDecoderRetrieval : GoError :=
  .declared "compact tuple item field decoder retrieval"
def errCompactCompositeFieldTypeNotFound : GoError :=
  .declared "compact composite field type not found"
def errCompactCompositeFieldDecoderRetrieval : GoError :=
  .declared "compact composite field decoder retrieval"
def errArrayItemFieldDecoderRetrieval : GoError := .declared "array item field decoder retrieval"
def errSliceItemFieldDecoderRetrieval : GoError := .declared "slice item field decoder retrieval"
def errTupleItemTypeNotFound : GoError := .declared "tuple item type not found"
def errTupleItemFieldDecoderRetrieval : GoError := .declared "tuple item field decoder retrieval"
def errBitStoreTypeNotFound : GoError := .declared "bit store type not found"
def errBitStoreTypeNotSupported : GoError := .declared "bit store type not supported"
def errBitOrderTypeNotFound : GoError := .declared "bit order type not found"
def errBitOrderCreation : GoError := .declared "bit order creation"
def errPrimitiveTypeNotSupported : GoError := .declared "primitive type not supported"

/-! ## State -/

/-- `FieldOverride`. -/
structure FieldOverride where
  fieldLookupIndex : Int64
  fieldDecoder : FieldDecoder

/-- `factory`, with the cells of all recursive decoders that exist. -/
structure Factory where
  fieldStorage : Int64 → Option FieldDecoder
  recursiveFieldStorage : List (Int64 × Nat)
  fieldOverrides : List FieldOverride
  cells : Cells

/-- A step of registry creation. -/
abbrev Build (α : Type) : Type := StateT Factory (Outcome GoError) α

namespace Build

variable {α β : Type}

/-- Stop with an error value. -/
def fail (reason : GoError) : Build α := fun _ => .error reason

/-- Give up for want of fuel. -/
def exhaust : Build α := fun _ => .outOfFuel

/-- Rewrite the error value of a failed step. -/
def mapError (rewrite : GoError → GoError) (build : Build α) : Build α :=
  fun factory => (build factory).mapError rewrite

/-- A step that does not touch the storages. -/
def ofOutcome (run : Outcome GoError α) : Build α :=
  fun factory => run >>= fun value => .ok (value, factory)

theorem bind_eq_ok {build : Build α} {next : α → Build β} {before after : Factory} {result : β} :
    (build >>= next) before = .ok (result, after) ↔
      ∃ value middle, build before = .ok (value, middle) ∧
        next value middle = .ok (result, after) := by
  refine Outcome.bind_eq_ok.trans ?_
  simp [Prod.exists]

theorem bind_of_ok {build : Build α} {next : α → Build β} {before middle : Factory} {value : α}
    (run : build before = .ok (value, middle)) : (build >>= next) before = next value middle := by
  change (build before >>= fun result => next result.1 result.2) = _
  rw [run]
  rfl

theorem pure_eq_ok {value result : α} {before after : Factory} :
    (pure value : Build α) before = .ok (result, after) ↔ value = result ∧ before = after := by
  change Outcome.ok (value, before) = _ ↔ _
  simp

theorem mapError_eq_ok {rewrite : GoError → GoError} {build : Build α} {before after : Factory}
    {result : α} :
    build.mapError rewrite before = .ok (result, after) ↔ build before = .ok (result, after) :=
  Outcome.mapError_eq_ok

theorem ofOutcome_eq_ok {run : Outcome GoError α} {before after : Factory} {result : α} :
    ofOutcome run before = .ok (result, after) ↔ run = .ok result ∧ before = after := by
  cases run <;> simp [ofOutcome]

/-- In a pass over a list that succeeds, every entry succeeds. -/
theorem mapM_eq_ok_of_mem {step : α → Build β} {entries : List α} {before after : Factory}
    {values : List β} (run : entries.mapM step before = .ok (values, after)) {entry : α}
    (member : entry ∈ entries) :
    ∃ earlier value later, step entry earlier = .ok (value, later) := by
  induction entries generalizing before values with
  | nil => cases member
  | cons first entries ih =>
      rw [List.mapM_cons] at run
      obtain ⟨value, middle, first_run, run⟩ := bind_eq_ok.mp run
      obtain ⟨others, last, others_run, returned⟩ := bind_eq_ok.mp run
      obtain ⟨_, rfl⟩ := pure_eq_ok.mp returned
      rcases List.mem_cons.mp member with rfl | member
      · exact ⟨before, value, middle, first_run⟩
      · exact ih others_run member

end Build

/-- `NewFactory`; the cells are those of recursive decoders made by the caller. -/
def newFactory (fieldOverrides : List FieldOverride) (cells : Cells) : Factory :=
  ⟨fun _ => none, [], fieldOverrides, cells⟩

/-- The field storage that holds the overrides only; of two for one index the last is kept. -/
def overrideStorage (fieldOverrides : List FieldOverride) : Int64 → Option FieldDecoder :=
  fieldOverrides.foldl (fun storage fieldOverride =>
    Function.update storage fieldOverride.fieldLookupIndex (some fieldOverride.fieldDecoder))
    fun _ => none

/-- `resetStorages`. -/
def resetStorages (factory : Factory) : Factory :=
  { factory with
    fieldStorage := overrideStorage factory.fieldOverrides
    recursiveFieldStorage := [] }

/-- Assignment to an entry of `recursiveFieldStorage`. -/
def putRecursive (index : Int64) (cell : Nat) (storage : List (Int64 × Nat)) : List (Int64 × Nat) :=
  (index, cell) :: storage.filter fun entry => entry.1 ≠ index

/-- The storage hit of `getStoredFieldDecoder`: a recursive decoder is noted for resolution. -/
def noteRecursive (index : Int64) (stored : FieldDecoder) (factory : Factory) : Factory :=
  match stored with
  | .recursive cell =>
      { factory with
        recursiveFieldStorage := putRecursive index cell factory.recursiveFieldStorage }
  | _ => factory

/-- The storage miss of `getStoredFieldDecoder`: a new recursive decoder takes the entry. -/
def plantRecursive (index : Int64) (factory : Factory) : Factory :=
  { factory with
    fieldStorage :=
      Function.update factory.fieldStorage index (some (.recursive factory.cells.length))
    cells := factory.cells ++ [.nil] }

/-- `getStoredFieldDecoder`. -/
def getStoredFieldDecoder (index : Int64) : Build (Option FieldDecoder) := fun factory =>
  match factory.fieldStorage index with
  | some stored => .ok (some stored, noteRecursive index stored factory)
  | none => .ok (none, plantRecursive index factory)

/-- Assignment to an entry of `fieldStorage`. -/
def storeFieldDecoder (index : Int64) (decoder : FieldDecoder) : Build Unit := fun factory =>
  .ok ((), { factory with
    fieldStorage := Function.update factory.fieldStorage index (some decoder) })

/-! ## Decoders of types -/

section Types

variable (metadata : MetadataV14)

/-- The loop body of `getTypeFields`, given `getFieldDecoder`. -/
def getTypeField (getDecoder : String → Si1TypeDef → Build FieldDecoder) (field : Si1Field) :
    Build (Field FieldDecoder) :=
  match metadata.efficientLookup field.lookupIndex with
  | none => Build.fail (.withMsg errFieldTypeNotFound field.name)
  | some fieldType => do
      let fieldName := getFullFieldName field fieldType
      match ← getStoredFieldDecoder field.lookupIndex with
      | some stored => pure ⟨fieldName, stored, field.lookupIndex⟩
      | none => do
          let decoder ← (getDecoder fieldName fieldType.typeDef).mapError
            (.wrap (.withMsg errFieldDecoderRetrieval fieldName))
          storeFieldDecoder field.lookupIndex decoder
          pure ⟨fieldName, decoder, field.lookupIndex⟩

/-- `getTypeFields`, given `getFieldDecoder`. -/
def getTypeFields (getDecoder : String → Si1TypeDef → Build FieldDecoder)
    (fields : List Si1Field) : Build (List (Field FieldDecoder)) :=
  fields.mapM (getTypeField metadata getDecoder)

/-- The loop body of `getVariantFieldDecoder`. -/
def getVariantEntry (getDecoder : String → Si1TypeDef → Build FieldDecoder)
    (entry : Si1Variant × Nat) : Build (UInt8 × FieldDecoder) :=
  if entry.1.fields = [] then
    pure (entry.1.index, .noop)
  else do
    let fields ← (getTypeFields metadata getDecoder entry.1.fields).mapError
      (.wrap (.withMsg errVariantTypeFieldsRetrieval
        ("variant '" ++ toString entry.1.index.toNat ++ "'")))
    pure (entry.1.index, .composite (variantItemFieldName entry.2) fields)

/-- `getVariantFieldDecoder`: later variants overwrite earlier ones of the same index. -/
def getVariantFieldDecoder (getDecoder : String → Si1TypeDef → Build FieldDecoder)
    (variants : List Si1Variant) : Build FieldDecoder := do
  let entries ← variants.zipIdx.mapM (getVariantEntry metadata getDecoder)
  pure (.variant entries.reverse)

/-- The loop body of `getTupleFieldDecoder`. -/
def getTupleItem (getDecoder : String → Si1TypeDef → Build FieldDecoder)
    (entry : Si1LookupTypeID × Nat) : Build (Field FieldDecoder) :=
  match metadata.efficientLookup entry.1.int64 with
  | none => Build.fail (.withMsg errTupleItemTypeNotFound
      ("tuple item '" ++ toString entry.2 ++ "'"))
  | some itemType => do
      let decoder ← (getDecoder (tupleItemFieldName entry.2) itemType.typeDef).mapError
        (.wrap errTupleItemFieldDecoderRetrieval)
      pure ⟨tupleItemFieldName entry.2, decoder, entry.1.int64⟩

/-- `getTupleFieldDecoder`. -/
def getTupleFieldDecoder (getDecoder : String → Si1TypeDef → Build FieldDecoder)
    (fieldName : String) (items : List Si1LookupTypeID) : Build FieldDecoder := do
  let fields ← items.zipIdx.mapM (getTupleItem metadata getDecoder)
  pure (.composite fieldName fields)

/-- `getBitOrderString`. -/
def getBitOrderString (path : List String) : String := path.getLastD ""

/-- `getBitSequenceDecoder`. -/
def getBitSequenceDecoder (fieldName : String) (bitStoreType bitOrderType : Si1LookupTypeID) :
    Outcome GoError FieldDecoder :=
  match metadata.efficientLookup bitStoreType.int64 with
  | none => .error (.withMsg errBitStoreTypeNotFound fieldName)
  | some storeType =>
      if storeType.typeDef.primitive ≠ 3 then
        .error (.withMsg errBitStoreTypeNotSupported fieldName)
      else
        match metadata.efficientLookup bitOrderType.int64 with
        | none => .error (.withMsg errBitOrderTypeNotFound fieldName)
        | some orderType => do
            let bitOrder ← (newBitOrderFromString (getBitOrderString orderType.path)).mapError
              (.wrap errBitOrderCreation)
            pure (.bitSequence fieldName bitOrder)

/-- The type argument of the value decoder that `getPrimitiveDecoder` picks. -/
def primitiveKind (primitive : UInt8) : Option ValueKind :=
  match primitive.toNat with
  | 0 => some .bool
  | 1 => some .byte
  | 2 => some .string
  | 3 => some (.num .u8)
  | 4 => some (.num .u16)
  | 5 => some (.num .u32)
  | 6 => some (.num .u64)
  | 7 => some (.big .u128)
  | 8 => some (.big .u256)
  | 9 => some (.num .i8)
  | 10 => some (.num .i16)
  | 11 => some (.num .i32)
  | 12 => some (.num .i64)
  | 13 => some (.big .i128)
  | 14 => some (.big .i256)
  | _ => none

/-- `getPrimitiveDecoder`. -/
def getPrimitiveDecoder (primitive : UInt8) : Outcome GoError FieldDecoder :=
  match primitiveKind primitive with
  | some kind => .ok (.value kind)
  | none => .error (.withMsg errPrimitiveTypeNotSupported
      ("primitive type " ++ toString primitive.toNat))

/-- The loop body for a compact tuple, given `getCompactFieldDecoder`. -/
def getCompactTupleItem (getDecoder : String → Si1TypeDef → Outcome GoError FieldDecoder)
    (entry : Si1LookupTypeID × Nat) : Outcome GoError (Field FieldDecoder) :=
  let message := "tuple item '" ++ toString entry.1.int64.toInt ++ "'"
  match metadata.efficientLookup entry.1.int64 with
  | none => .error (.withMsg errCompactTupleItemTypeNotFound message)
  | some itemType => do
      let decoder ← (getDecoder (tupleItemFieldName entry.2) itemType.typeDef).mapError
        (.wrap (.withMsg errCompactTupleItemFieldDecoderRetrieval message))
      pure ⟨tupleItemFieldName entry.2, decoder, entry.1.int64⟩

/-- The loop body for a compact composite, given `getCompactFieldDecoder`. -/
def getCompactCompositeField (getDecoder : String → Si1TypeDef → Outcome GoError FieldDecoder)
    (field : Si1Field) : Outcome GoError (Field FieldDecoder) :=
  match metadata.efficientLookup field.lookupIndex with
  | none => .error errCompactCompositeFieldTypeNotFound
  | some fieldType => do
      let decoder ← (getDecoder (getFullFieldName field fieldType) fieldType.typeDef).mapError
        (.wrap errCompactCompositeFieldDecoderRetrieval)
      pure ⟨getFullFieldName field fieldType, decoder, field.lookupIndex⟩

/-- `getCompactFieldDecoder`.  The recursion follows the type graph, so it is bounded by fuel. -/
def getCompactFieldDecoder : Nat → String → Si1TypeDef → Outcome GoError FieldDecoder
  | 0, _, _ => .outOfFuel
  | fuel + 1, fieldName, typeDef =>
      match typeDef.compactShape with
      | .primitive => .ok (.value .uCompact)
      | .tuple none => .ok (.value .any)
      | .tuple (some items) => do
          let fields ← items.zipIdx.mapM
            (getCompactTupleItem metadata (getCompactFieldDecoder fuel))
          pure (.composite fieldName fields)
      | .composite fields => do
          let fields ← fields.mapM (getCompactCompositeField metadata (getCompactFieldDecoder fuel))
          pure (.composite fieldName fields)
      | .unsupported => .error (.text "unsupported compact field type")

/-- `getFieldDecoder`.  The recursion follows the type graph, so it is bounded by fuel. -/
def getFieldDecoder : Nat → String → Si1TypeDef → Build FieldDecoder
  | 0, _, _ => Build.exhaust
  | fuel + 1, fieldName, typeDef =>
      match typeDef.shape with
      | .compact type =>
          match metadata.efficientLookup type.int64 with
          | none => Build.fail (.withMsg errCompactFieldTypeNotFound fieldName)
          | some compactFieldType =>
              Build.ofOutcome
                (getCompactFieldDecoder metadata fuel fieldName compactFieldType.typeDef)
      | .composite fields => do
          let fields ← (getTypeFields metadata (getFieldDecoder fuel) fields).mapError
            (.wrap (.withMsg errCompositeTypeFieldsRetrieval fieldName))
          pure (.composite fieldName fields)
      | .variant variants => getVariantFieldDecoder metadata (getFieldDecoder fuel) variants
      | .primitive primitive => Build.ofOutcome (getPrimitiveDecoder primitive)
      | .array len type =>
          match metadata.efficientLookup type.int64 with
          | none => Build.fail (.withMsg errArrayFieldTypeNotFound fieldName)
          | some arrayFieldType => do
              let item ← (getFieldDecoder fuel fieldName arrayFieldType.typeDef).mapError
                (.wrap errArrayItemFieldDecoderRetrieval)
              pure (.array len.toNat item)
      | .sequence type =>
          match metadata.efficientLookup type.int64 with
          | none => Build.fail (.withMsg errVectorFieldTypeNotFound fieldName)
          | some vectorFieldType => do
              let item ← (getFieldDecoder fuel fieldName vectorFieldType.typeDef).mapError
                (.wrap errSliceItemFieldDecoderRetrieval)
              pure (.slice item)
      | .tuple none => pure .noop
      | .tuple (some items) => getTupleFieldDecoder metadata (getFieldDecoder fuel) fieldName items
      | .bitSequence storeType orderType =>
          Build.ofOutcome (getBitSequenceDecoder metadata fieldName storeType orderType)
      | .unsupported => Build.fail (.withMsg errFieldTypeDefinitionNotSupported fieldName)

end Types

/-! ## What the builders of fields return -/

section Inversion

variable {metadata : MetadataV14}

/-- The decoder of a field comes from the storage, or it is built after a placeholder was planted. -/
theorem getTypeField_eq_ok {getDecoder : String → Si1TypeDef → Build FieldDecoder} {field : Si1Field}
    {before after : Factory} {built : Field FieldDecoder}
    (run : getTypeField metadata getDecoder field before = .ok (built, after)) :
    ∃ type, metadata.efficientLookup field.lookupIndex = some type ∧
      ((∃ stored, before.fieldStorage field.lookupIndex = some stored ∧
          built = ⟨getFullFieldName field type, stored, field.lookupIndex⟩ ∧
          after = noteRecursive field.lookupIndex stored before) ∨
        (before.fieldStorage field.lookupIndex = none ∧ ∃ decoder middle,
          getDecoder (getFullFieldName field type) type.typeDef
            (plantRecursive field.lookupIndex before) = .ok (decoder, middle) ∧
          built = ⟨getFullFieldName field type, decoder, field.lookupIndex⟩ ∧
          after = { middle with
            fieldStorage :=
              Function.update middle.fieldStorage field.lookupIndex (some decoder) })) := by
  cases found : metadata.efficientLookup field.lookupIndex with
  | none =>
      simp only [getTypeField, found] at run
      cases run
  | some type =>
      simp only [getTypeField, found] at run
      obtain ⟨stored, noted, lookup, run⟩ := Build.bind_eq_ok.mp run
      refine ⟨type, rfl, ?_⟩
      cases present : before.fieldStorage field.lookupIndex with
      | some decoder =>
          simp only [getStoredFieldDecoder, present] at lookup
          cases lookup
          obtain ⟨rfl, rfl⟩ := Build.pure_eq_ok.mp run
          exact .inl ⟨decoder, rfl, rfl, rfl⟩
      | none =>
          simp only [getStoredFieldDecoder, present] at lookup
          cases lookup
          obtain ⟨decoder, middle, build, run⟩ := Build.bind_eq_ok.mp run
          obtain ⟨_, _, store, run⟩ := Build.bind_eq_ok.mp run
          cases store
          obtain ⟨rfl, rfl⟩ := Build.pure_eq_ok.mp run
          exact .inr ⟨rfl, decoder, middle, Build.mapError_eq_ok.mp build, rfl, rfl⟩

theorem getCompactTupleItem_eq_ok {getDecoder : String → Si1TypeDef → Outcome GoError FieldDecoder}
    {entry : Si1LookupTypeID × Nat} {built : Field FieldDecoder}
    (run : getCompactTupleItem metadata getDecoder entry = .ok built) :
    ∃ type decoder, metadata.efficientLookup entry.1.int64 = some type ∧
      getDecoder (tupleItemFieldName entry.2) type.typeDef = .ok decoder ∧
      built = ⟨tupleItemFieldName entry.2, decoder, entry.1.int64⟩ := by
  unfold getCompactTupleItem at run
  split at run
  · cases run
  · rename_i type found
    obtain ⟨decoder, decoder_eq, returned⟩ := Outcome.bind_eq_ok.mp run
    cases returned
    exact ⟨type, decoder, found, Outcome.mapError_eq_ok.mp decoder_eq, rfl⟩

theorem getCompactCompositeField_eq_ok
    {getDecoder : String → Si1TypeDef → Outcome GoError FieldDecoder} {field : Si1Field}
    {built : Field FieldDecoder}
    (run : getCompactCompositeField metadata getDecoder field = .ok built) :
    ∃ type decoder, metadata.efficientLookup field.lookupIndex = some type ∧
      getDecoder (getFullFieldName field type) type.typeDef = .ok decoder ∧
      built = ⟨getFullFieldName field type, decoder, field.lookupIndex⟩ := by
  unfold getCompactCompositeField at run
  split at run
  · cases run
  · rename_i type found
    obtain ⟨decoder, decoder_eq, returned⟩ := Outcome.bind_eq_ok.mp run
    cases returned
    exact ⟨type, decoder, found, Outcome.mapError_eq_ok.mp decoder_eq, rfl⟩

end Inversion

/-! ## Resolution of recursive decoders -/

/-- The loop body of `resolveRecursiveDecoders`. -/
def resolveRecursiveDecoder (entry : Int64 × Nat) : Build Unit := fun factory =>
  let message := "recursive field lookup index " ++ toString entry.1.toInt
  if (factory.cells[entry.2]?.getD .nil).isNil then
    match factory.fieldStorage entry.1 with
    | none => .error (.withMsg errFieldDecoderForRecursiveFieldNotFound message)
    | some decoder =>
        if decoder.isRecursive then
          .error (.withMsg errRecursiveFieldResolving message)
        else
          .ok ((), { factory with cells := factory.cells.set entry.2 decoder })
  else
    .ok ((), factory)

/-- The order in which Go ranges over a map: any permutation of its entries. -/
structure MapOrder where
  order : List (Int64 × Nat) → List (Int64 × Nat)
  perm : ∀ entries, (order entries).Perm entries

/-- The order of insertion, newest first. -/
def MapOrder.newestFirst : MapOrder := ⟨id, fun entries => .refl entries⟩

/-- The loop of `resolveRecursiveDecoders` over the entries in the order of the iteration. -/
def resolveEntries : List (Int64 × Nat) → Build Unit
  | [] => pure ()
  | entry :: entries => do
      resolveRecursiveDecoder entry
      resolveEntries entries

/-- `resolveRecursiveDecoders`. -/
def resolveRecursiveDecoders (mapOrder : MapOrder) : Build Unit := fun factory =>
  resolveEntries (mapOrder.order factory.recursiveFieldStorage) factory

/-! ## Registries -/

/-- What tells the three registries apart. -/
structure RegistryKind (κ : Type) where
  /-- The type whose variants are the entries of a pallet, if it has any. -/
  variantType : PalletMetadataV14 → Option Si1LookupTypeID
  /-- The key of a variant, from the indices of pallet and variant. -/
  key : UInt8 → UInt8 → κ
  key_inj : ∀ {pallet pallet' variant variant'}, key pallet variant = key pallet' variant' →
    pallet = pallet' ∧ variant = variant'
  /-- The word for the entries in messages. -/
  noun : String
  typeNotFound : GoError
  typeNotVariant : GoError
  fieldsRetrieval : GoError

/-- A registry; of two entries with one key the first is in the map. -/
abbrev TypeRegistry (κ : Type) : Type := List (κ × TypeDecoder)

section Create

variable {κ : Type} (kind : RegistryKind κ) (metadata : MetadataV14)

/-- The loop body over the variants of a pallet's type. -/
def createEntry (fuel : Nat) (pallet : PalletMetadataV14) (variant : Si1Variant) :
    Build (κ × TypeDecoder) := do
  let name := pallet.name ++ "." ++ variant.name
  let fields ← (getTypeFields metadata (getFieldDecoder metadata fuel) variant.fields).mapError
    (.wrap (.withMsg kind.fieldsRetrieval name))
  pure (kind.key pallet.index variant.index, ⟨name, fields⟩)

/-- The loop body over the pallets. -/
def createPallet (fuel : Nat) (pallet : PalletMetadataV14) : Build (List (κ × TypeDecoder)) :=
  match kind.variantType pallet with
  | none => pure []
  | some id =>
      let message := kind.noun ++ " type '" ++ toString id.int64.toInt ++ "', module '" ++
        pallet.name ++ "'"
      match metadata.efficientLookup id.int64 with
      | none => Build.fail (.withMsg kind.typeNotFound message)
      | some type =>
          if type.typeDef.isVariant then
            type.typeDef.variant.mapM (createEntry kind metadata fuel pallet)
          else
            Build.fail (.withMsg kind.typeNotVariant message)

/-- The loops over pallets and variants, from fresh storages. -/
def traverse (fuel : Nat) : Build (TypeRegistry κ) := fun factory =>
  (do
    let entries ← metadata.pallets.mapM (createPallet kind metadata fuel)
    pure entries.flatten.reverse : Build (TypeRegistry κ)) (resetStorages factory)

/-- The three `Create…Registry` functions. -/
def createRegistry (mapOrder : MapOrder) (fuel : Nat) : Build (TypeRegistry κ) := do
  let registry ← traverse kind metadata fuel
  (resolveRecursiveDecoders mapOrder).mapError (.wrap errRecursiveDecodersResolving)
  pure registry

end Create

/-- `ErrorID`. -/
structure ErrorID where
  moduleIndex : UInt8
  errorIndex : UInt8 × UInt8 × UInt8 × UInt8
  deriving DecidableEq, Repr

/-- The entries of `CallRegistry`. -/
def callKind : RegistryKind CallIndex where
  variantType := fun pallet => if pallet.hasCalls then some pallet.calls else none
  key := fun palletIndex variantIndex => ⟨palletIndex, variantIndex⟩
  key_inj := by simp
  noun := "calls"
  typeNotFound := errCallsTypeNotFound
  typeNotVariant := errCallsTypeNotVariant
  fieldsRetrieval := errCallFieldsRetrieval

/-- The entries of `EventRegistry`. -/
def eventKind : RegistryKind EventID where
  variantType := fun pallet => if pallet.hasEvents then some pallet.events else none
  key := fun palletIndex variantIndex => (palletIndex, variantIndex)
  key_inj := by simp
  noun := "events"
  typeNotFound := errEventsTypeNotFound
  typeNotVariant := errEventsTypeNotVariant
  fieldsRetrieval := errEventFieldsRetrieval

/-- The entries of `ErrorRegistry`. -/
def errorKind : RegistryKind ErrorID where
  variantType := fun pallet => if pallet.hasErrors then some pallet.errors else none
  key := fun palletIndex variantIndex => ⟨palletIndex, variantIndex, 0, 0, 0⟩
  key_inj := by simp
  noun := "errors"
  typeNotFound := errErrorsTypeNotFound
  typeNotVariant := errErrorsTypeNotVariant
  fieldsRetrieval := errErrorFieldsRetrieval

/-- `CreateCallRegistry`. -/
def createCallRegistry (metadata : MetadataV14) : MapOrder → Nat → Build (TypeRegistry CallIndex) :=
  createRegistry callKind metadata

/-- `CreateEventRegistry`. -/
def createEventRegistry (metadata : MetadataV14) : MapOrder → Nat → Build (TypeRegistry EventID) :=
  createRegistry eventKind metadata

/-- `CreateErrorRegistry`. -/
def createErrorRegistry (metadata : MetadataV14) : MapOrder → Nat → Build (TypeRegistry ErrorID) :=
  createRegistry errorKind metadata

end SubstrateClient.Registry
