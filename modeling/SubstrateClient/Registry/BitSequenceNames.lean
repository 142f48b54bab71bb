import Mathlib.Tactic.FinCases
import SubstrateClient.Registry.NamedDecoders
import SubstrateClient.Registry.Recursive

/-!
# Keys of decoded bit sequences

A bit sequence is decoded into a map with one key, the name of the field that its decoder was built
for.  The decoder is shared by all fields of the type, so the key is the name of whichever of them was
walked first.
-/

namespace SubstrateClient.Registry

open ByteParser ListLookup Scale SubstrateClient.Types

/-! ## The registry over its field storage -/

section Registries

variable {κ : Type} {kind : RegistryKind κ} {metadata : MetadataV14}

/-- The fields of the entries over the field storage at the end of the traversal. -/
structure Catalogued (kind : RegistryKind κ) (metadata : MetadataV14)
    (stored : Int64 → Option FieldDecoder) (registry : TypeRegistry κ) : Prop where
  tabled : Tabled kind metadata stored
  /-- Every entry comes from a variant of a pallet. -/
  sound : ∀ entry ∈ registry, ∃ pallet ∈ metadata.pallets,
    ∃ variant ∈ palletVariants kind metadata pallet,
      List.Forall₂ (FieldNamed metadata stored) variant.fields entry.2.fields
  /-- Every variant of a pallet has an entry. -/
  complete : ∀ pallet ∈ metadata.pallets, ∀ variant ∈ palletVariants kind metadata pallet,
    ∃ entry ∈ registry, List.Forall₂ (FieldNamed metadata stored) variant.fields entry.2.fields

theorem tables_createPallet (fuel : Nat) {pallet : PalletMetadataV14}
    (pallet_member : pallet ∈ metadata.pallets) :
    Tables kind metadata (createPallet kind metadata fuel pallet) fun later entries =>
      List.Forall₂ (fun variant entry =>
        List.Forall₂ (FieldNamed metadata later) variant.fields entry.2.fields)
        (palletVariants kind metadata pallet) entries := by
  have entry_tables (variant : Si1Variant) (member : variant ∈ palletVariants kind metadata pallet) :
      Tables kind metadata (createEntry kind metadata fuel pallet variant) fun later entry =>
        List.Forall₂ (FieldNamed metadata later) variant.fields entry.2.fields :=
    ((tables_getTypeFields (tables_getFieldDecoder fuel) fun field field_member =>
      .entry pallet_member member field_member).mapError _).bind fun fields =>
        tables_pure fun later each => each
  cases selected : kind.variantType pallet with
  | none =>
      simp only [createPallet, palletVariants, selected]
      exact tables_pure fun later => .nil
  | some id =>
      cases found : metadata.efficientLookup id.int64 with
      | none =>
          simp only [createPallet, selected, found]
          exact tables_fail _
      | some type =>
          simp only [palletVariants, selected, found] at entry_tables ⊢
          simp only [createPallet, selected, found]
          split_ifs with flag
          · rw [if_pos flag] at entry_tables
            exact tables_mapM entry_tables
          · exact tables_fail _

theorem traverse_catalogued {fuel : Nat} {before walked : Factory} {registry : TypeRegistry κ}
    (plain : before.fieldOverrides = [])
    (run : traverse kind metadata fuel before = .ok (registry, walked)) :
    Catalogued kind metadata walked.fieldStorage registry := by
  obtain ⟨entries, middle, walk, returned⟩ := Build.bind_eq_ok.mp run
  obtain ⟨rfl, rfl⟩ := Build.pure_eq_ok.mp returned
  have start : Tabled kind metadata (resetStorages before).fieldStorage := by
    intro index decoder held
    rw [show (resetStorages before).fieldStorage = overrideStorage before.fieldOverrides from rfl,
      plain] at held
    cases held
  obtain ⟨tabled, _, each⟩ := tables_mapM (fun pallet member => tables_createPallet fuel member)
    _ entries middle walk start
  have each := each _ (grown_of_kept fun _ _ held => held)
  refine ⟨tabled, fun entry member => ?_, fun pallet pallet_member variant variant_member => ?_⟩
  · obtain ⟨some_entries, found, member⟩ := List.mem_flatten.mp (List.mem_reverse.mp member)
    obtain ⟨pallet, pallet_member, matched⟩ := exists_related_of_mem each found
    obtain ⟨variant, variant_member, matched⟩ := exists_related_of_mem matched member
    exact ⟨pallet, pallet_member, variant, variant_member, matched⟩
  · obtain ⟨some_entries, found, matched⟩ := exists_related_of_mem_left each pallet_member
    obtain ⟨entry, member, matched⟩ := exists_related_of_mem_left matched variant_member
    exact ⟨entry, List.mem_reverse.mpr (List.mem_flatten.mpr ⟨some_entries, found, member⟩), matched⟩

end Registries

/-! ## Where reachable decoders come from -/

section Origins

variable {κ : Type} (kind : RegistryKind κ) (metadata : MetadataV14)
  (stored : Int64 → Option FieldDecoder)

/-- The decoders that are reached from a registry without overrides. -/
inductive Origin : FieldDecoder → Prop
  | ofType {name : String} {typeDef : Si1TypeDef} {decoder : FieldDecoder}
      (walked : Walked kind metadata typeDef) (named : Named metadata stored name typeDef decoder) :
      Origin decoder
  | ofCompact {typeDef : Si1TypeDef} {decoder : FieldDecoder}
      (made : CompactMatches metadata typeDef decoder) : Origin decoder
  | ofVariant {name : String} {parts : List Si1Field} {fields : List (Field FieldDecoder)}
      (visited : ∀ part ∈ parts, VisitedField kind metadata part)
      (each : List.Forall₂ (FieldNamed metadata stored) parts fields) :
      Origin (.composite name fields)
  | noop : Origin .noop
  | cut {cell : Nat} : Origin (.recursive cell)

/-- The fields that are reached: made by `getTypeFields`, items of a tuple, or underneath a compact. -/
inductive FieldOrigin : Field FieldDecoder → Prop
  | ofField {part : Si1Field} {field : Field FieldDecoder} (visited : VisitedField kind metadata part)
      (named : FieldNamed metadata stored part field) : FieldOrigin field
  | ofItem {field : Field FieldDecoder} {type : Si1Type}
      (found : metadata.efficientLookup field.lookupIndex = some type)
      (walked : Walked kind metadata type.typeDef)
      (named : Named metadata stored field.name type.typeDef field.decoder) : FieldOrigin field
  | ofCompact {field : Field FieldDecoder} {type : Si1Type}
      (found : metadata.efficientLookup field.lookupIndex = some type)
      (made : CompactMatches metadata type.typeDef field.decoder) : FieldOrigin field

variable {kind metadata stored}

theorem CompactMatches.fieldOrigin {typeDef : Si1TypeDef} {name : String}
    {fields : List (Field FieldDecoder)}
    (made : CompactMatches metadata typeDef (.composite name fields)) {field : Field FieldDecoder}
    (member : field ∈ fields) : FieldOrigin kind metadata stored field := by
  have part_origin {parts : List Part}
      (each : List.Forall₂ (CompactPart metadata) parts fields) :
      FieldOrigin kind metadata stored field := by
    obtain ⟨part, _, matched⟩ := exists_related_of_mem each member
    obtain ⟨found, inner⟩ := matched
    exact .ofCompact found inner
  cases made with
  | tuple shape each => exact part_origin each
  | composite shape each => exact part_origin each

/-- The fields of a reached composite. -/
theorem Origin.field {name : String} {fields : List (Field FieldDecoder)}
    (origin : Origin kind metadata stored (.composite name fields)) {field : Field FieldDecoder}
    (member : field ∈ fields) : FieldOrigin kind metadata stored field := by
  cases origin with
  | ofType walked named =>
      cases named with
      | compact shape found inner => exact inner.fieldOrigin member
      | composite shape each =>
          obtain ⟨part, part_member, named⟩ := exists_related_of_mem each member
          exact .ofField (.composite walked shape part_member) named
      | tuple shape each =>
          obtain ⟨entry, entry_member, named⟩ := exists_related_of_mem each member
          obtain ⟨found, inner⟩ := named
          exact .ofItem found
            (walked.tuple shape (List.fst_mem_of_mem_zipIdx entry_member) found) inner
  | ofCompact made => exact made.fieldOrigin member
  | ofVariant visited each =>
      obtain ⟨part, part_member, named⟩ := exists_related_of_mem each member
      exact .ofField (visited part part_member) named

/-- A finished entry of the storage. -/
theorem Tabled.origin (tabled : Tabled kind metadata stored) {index : Int64} {decoder : FieldDecoder}
    (held : stored index = some decoder) (finished : decoder.isRecursive = false) :
    Origin kind metadata stored decoder := by
  rcases tabled index decoder held with recursive | ⟨field, type, visited, rfl, found, named⟩
  · rw [finished] at recursive
    cases recursive
  · exact .ofType (.field visited found) (named stored (grown_of_kept fun _ _ held => held))

theorem FieldOrigin.decoder (tabled : Tabled kind metadata stored) {field : Field FieldDecoder}
    (origin : FieldOrigin kind metadata stored field) : Origin kind metadata stored field.decoder := by
  cases origin with
  | ofField visited named =>
      cases named with
      | shared found held finished => exact tabled.origin held finished
      | cut found => exact .cut
  | ofItem found walked named => exact .ofType walked named
  | ofCompact found made => exact .ofCompact made

/-- A decoder that another one calls, other than through a recursive decoder. -/
theorem Origin.calls (tabled : Tabled kind metadata stored) {cells : Cells}
    {decoder inner : FieldDecoder} (origin : Origin kind metadata stored decoder)
    (calls : Calls cells decoder inner) (direct : decoder.isRecursive = false) :
    Origin kind metadata stored inner := by
  cases calls with
  | composite member => exact (origin.field member).decoder tabled
  | recursive set => cases direct
  | variant member =>
      cases origin with
      | ofCompact made => cases made
      | ofType walked named =>
          cases named with
          | compact shape found inner => cases inner
          | variant shape each =>
              obtain ⟨entry, entry_member, named⟩ :=
                exists_related_of_mem each (List.mem_reverse.mp member)
              cases named with
              | empty bare => exact .noop
              | fields each =>
                  exact .ofVariant (fun part part_member =>
                    .variant walked shape (List.fst_mem_of_mem_zipIdx entry_member) part_member) each
  | array =>
      cases origin with
      | ofCompact made => cases made
      | ofType walked named =>
          cases named with
          | compact shape found inner => cases inner
          | array shape found inner => exact .ofType (walked.array shape found) inner
  | slice =>
      cases origin with
      | ofCompact made => cases made
      | ofType walked named =>
          cases named with
          | compact shape found inner => cases inner
          | sequence shape found inner => exact .ofType (walked.sequence shape found) inner

end Origins

/-! ## Registries without overrides -/

section Plain

variable {κ : Type} {kind : RegistryKind κ} {metadata : MetadataV14}

/-- A registry without overrides: its entries over the field storage, and the decoder of its type in
every recursive decoder. -/
structure PlainRegistry (kind : RegistryKind κ) (metadata : MetadataV14) (cells : Cells)
    (stored : Int64 → Option FieldDecoder) (registry : TypeRegistry κ) : Prop where
  catalogued : Catalogued kind metadata stored registry
  reached : ∀ cell, Reachable cells registry (.recursive cell) → ∃ index inner,
    stored index = some inner ∧ cells[cell]? = some inner ∧ inner.isRecursive = false
  own : ∀ field cell, ReachableField cells registry field → field.decoder = .recursive cell →
    ∃ inner, stored field.lookupIndex = some inner ∧ cells[cell]? = some inner ∧
      inner.isNil = false ∧ inner.isRecursive = false

theorem ReachableField.reachable {cells : Cells} {registry : TypeRegistry κ}
    {field : Field FieldDecoder} (reachable : ReachableField cells registry field) :
    Reachable cells registry field.decoder := by
  rcases reachable with ⟨entry, entry_member, member⟩ | ⟨name, fields, reachable, member⟩
  · exact ⟨entry, entry_member, field, member, .refl⟩
  · obtain ⟨entry, entry_member, first, first_member, path⟩ := reachable
    exact ⟨entry, entry_member, first, first_member, path.tail (.composite member)⟩

theorem createRegistry_plain {mapOrder : MapOrder} {fuel : Nat} {before final : Factory}
    {registry : TypeRegistry κ} (plain : before.fieldOverrides = [])
    (run : createRegistry kind metadata mapOrder fuel before = .ok (registry, final)) :
    PlainRegistry kind metadata final.cells final.fieldStorage registry := by
  obtain ⟨walked, traversal, resolution⟩ := createRegistry_eq_ok run
  have traversed := traverse_traversed kind metadata traversal
  have no_overrides (fieldOverride : FieldOverride) (member : fieldOverride ∈ before.fieldOverrides) :
      RecursionFree fieldOverride.fieldDecoder := by
    rw [plain] at member
    cases member
  have storage := (traversed.resolving resolution).storage
  refine ⟨?_, fun cell reachable => ?_, fun field cell reachable same => ?_⟩
  · rw [storage]
    exact traverse_catalogued plain traversal
  · obtain ⟨index, inner, _, _, held, filled, _, finished⟩ :=
      traversed.completed no_overrides resolution reachable
    exact ⟨index, inner, held, filled, finished⟩
  · obtain ⟨index, inner, _, only, held, filled, present, finished⟩ :=
      traversed.completed no_overrides resolution (same ▸ reachable.reachable)
    obtain rfl := only _ (traversed.noted_lookupIndex no_overrides resolution reachable same)
    exact ⟨inner, held, filled, present, finished⟩

variable {cells : Cells} {stored : Int64 → Option FieldDecoder} {registry : TypeRegistry κ}
  (made : PlainRegistry kind metadata cells stored registry)

include made

theorem PlainRegistry.entry_field {entry : κ × TypeDecoder} (entry_member : entry ∈ registry)
    {field : Field FieldDecoder} (member : field ∈ entry.2.fields) :
    FieldOrigin kind metadata stored field := by
  obtain ⟨pallet, pallet_member, variant, variant_member, each⟩ :=
    made.catalogued.sound entry entry_member
  obtain ⟨part, part_member, named⟩ := exists_related_of_mem each member
  exact .ofField (.entry pallet_member variant_member part_member) named

/-- Every reachable decoder is a decoder over the field storage. -/
theorem PlainRegistry.origin {decoder : FieldDecoder} (reachable : Reachable cells registry decoder) :
    Origin kind metadata stored decoder := by
  have tabled := made.catalogued.tabled
  obtain ⟨entry, entry_member, field, member, path⟩ := reachable
  induction path with
  | refl => exact (made.entry_field entry_member member).decoder tabled
  | tail path calls ih =>
      rename_i caller inner
      cases caller with
      | recursive cell =>
          cases calls with
          | recursive set =>
              obtain ⟨index, held_decoder, held, filled, finished⟩ :=
                made.reached cell ⟨entry, entry_member, field, member, path⟩
              rw [filled] at set
              cases set
              exact tabled.origin held finished
      | _ => exact ih.calls tabled calls rfl

theorem PlainRegistry.fieldOrigin {field : Field FieldDecoder}
    (reachable : ReachableField cells registry field) : FieldOrigin kind metadata stored field := by
  rcases reachable with ⟨entry, entry_member, member⟩ | ⟨name, fields, reachable, member⟩
  · exact made.entry_field entry_member member
  · exact (made.origin reachable).field member

/-- The finished decoder that a field runs, directly or through a recursive decoder. -/
theorem PlainRegistry.runs {part : Si1Field} {field : Field FieldDecoder}
    (reachable : ReachableField cells registry field)
    (named : FieldNamed metadata stored part field) :
    ∃ decoder, stored part.lookupIndex = some decoder ∧ decoder.isRecursive = false ∧
      (field.decoder = decoder ∨ ∃ cell, field.decoder = .recursive cell ∧
        cells[cell]? = some decoder ∧ decoder.isNil = false) := by
  cases named with
  | shared found held finished => exact ⟨_, held, finished, .inl rfl⟩
  | cut found =>
      obtain ⟨inner, held, filled, present, finished⟩ := made.own _ _ reachable rfl
      exact ⟨inner, held, finished, .inr ⟨_, rfl, filled, present⟩⟩

omit made

/-- The registry has a field that was made of the given one. -/
def HasField (metadata : MetadataV14) (cells : Cells) (stored : Int64 → Option FieldDecoder)
    (registry : TypeRegistry κ) (part : Si1Field) : Prop :=
  ∃ field, ReachableField cells registry field ∧ FieldNamed metadata stored part field

/-- The registry has a decoder of the type definition. -/
def HasType (metadata : MetadataV14) (cells : Cells) (stored : Int64 → Option FieldDecoder)
    (registry : TypeRegistry κ) (typeDef : Si1TypeDef) : Prop :=
  ∃ name decoder, Reachable cells registry decoder ∧ Named metadata stored name typeDef decoder

theorem Reachable.calls {decoder inner : FieldDecoder} (reachable : Reachable cells registry decoder)
    (calls : Calls cells decoder inner) : Reachable cells registry inner := by
  obtain ⟨entry, entry_member, field, member, path⟩ := reachable
  exact ⟨entry, entry_member, field, member, path.tail calls⟩

section Steps

variable {typeDef : Si1TypeDef} (has : HasType metadata cells stored registry typeDef)

include has

theorem HasType.composite {fields : List Si1Field} {part : Si1Field}
    (shape : typeDef.shape = .composite fields) (member : part ∈ fields) :
    HasField metadata cells stored registry part := by
  obtain ⟨name, decoder, reachable, named⟩ := has
  obtain ⟨fields, rfl, each⟩ := named.of_composite shape
  obtain ⟨field, field_member, field_named⟩ := exists_related_of_mem_left each member
  exact ⟨field, .inr ⟨name, fields, reachable, field_member⟩, field_named⟩

theorem HasType.variant {variants : List Si1Variant} {variant : Si1Variant} {part : Si1Field}
    (shape : typeDef.shape = .variant variants) (variant_member : variant ∈ variants)
    (member : part ∈ variant.fields) : HasField metadata cells stored registry part := by
  obtain ⟨name, decoder, reachable, named⟩ := has
  obtain ⟨entries, rfl, each⟩ := named.of_variant shape
  obtain ⟨entry, entry_member, rfl⟩ : ∃ entry ∈ variants.zipIdx, entry.1 = variant := by
    rw [← List.zipIdx_map_fst 0 variants] at variant_member
    exact List.mem_map.mp variant_member
  obtain ⟨inner, inner_member, inner_named⟩ := exists_related_of_mem_left each entry_member
  cases inner_named with
  | empty bare =>
      rw [bare] at member
      cases member
  | fields all =>
      obtain ⟨field, field_member, field_named⟩ := exists_related_of_mem_left all member
      exact ⟨field, .inr ⟨_, _, reachable.calls (.variant (List.mem_reverse.mpr inner_member)),
        field_member⟩, field_named⟩

theorem HasType.array {len : UInt32} {id : Si1LookupTypeID} {type : Si1Type}
    (shape : typeDef.shape = .array len id)
    (found : metadata.efficientLookup id.int64 = some type) :
    HasType metadata cells stored registry type.typeDef := by
  obtain ⟨name, decoder, reachable, named⟩ := has
  obtain ⟨other, item, other_found, rfl, inner⟩ := named.of_array shape
  rw [found] at other_found
  cases other_found
  exact ⟨name, item, reachable.calls .array, inner⟩

theorem HasType.sequence {id : Si1LookupTypeID} {type : Si1Type}
    (shape : typeDef.shape = .sequence id)
    (found : metadata.efficientLookup id.int64 = some type) :
    HasType metadata cells stored registry type.typeDef := by
  obtain ⟨name, decoder, reachable, named⟩ := has
  obtain ⟨other, item, other_found, rfl, inner⟩ := named.of_sequence shape
  rw [found] at other_found
  cases other_found
  exact ⟨name, item, reachable.calls .slice, inner⟩

theorem HasType.tuple {items : List Si1LookupTypeID} {id : Si1LookupTypeID} {type : Si1Type}
    (shape : typeDef.shape = .tuple (some items)) (member : id ∈ items)
    (found : metadata.efficientLookup id.int64 = some type) :
    HasType metadata cells stored registry type.typeDef := by
  obtain ⟨name, decoder, reachable, named⟩ := has
  obtain ⟨fields, rfl, each⟩ := named.of_tuple shape
  obtain ⟨entry, entry_member, rfl⟩ : ∃ entry ∈ items.zipIdx, entry.1 = id := by
    rw [← List.zipIdx_map_fst 0 items] at member
    exact List.mem_map.mp member
  obtain ⟨field, field_member, field_named⟩ := exists_related_of_mem_left each entry_member
  obtain ⟨other_found, inner⟩ := field_named
  rw [found] at other_found
  cases other_found
  exact ⟨_, _, reachable.calls (.composite field_member), inner⟩

end Steps

include made

theorem PlainRegistry.entry {pallet : PalletMetadataV14} {variant : Si1Variant} {part : Si1Field}
    (pallet_member : pallet ∈ metadata.pallets)
    (is_entry : variant ∈ palletVariants kind metadata pallet) (member : part ∈ variant.fields) :
    HasField metadata cells stored registry part := by
  obtain ⟨entry, entry_member, each⟩ :=
    made.catalogued.complete pallet pallet_member variant is_entry
  obtain ⟨field, field_member, named⟩ := exists_related_of_mem_left each member
  exact ⟨field, .inl ⟨entry, entry_member, field_member⟩, named⟩

theorem PlainRegistry.type {part : Si1Field} {type : Si1Type}
    (has : HasField metadata cells stored registry part)
    (found : metadata.efficientLookup part.lookupIndex = some type) :
    HasType metadata cells stored registry type.typeDef := by
  obtain ⟨field, reachable, named⟩ := has
  obtain ⟨decoder, held, finished, runs⟩ := made.runs reachable named
  have decoder_reachable : Reachable cells registry decoder := by
    rcases runs with same | ⟨cell, same, filled, _⟩
    · exact same ▸ reachable.reachable
    · exact (same ▸ reachable.reachable : Reachable cells registry (.recursive cell)).calls
        (.recursive filled)
  rcases made.catalogued.tabled _ _ held with recursive | ⟨holder, other, _, _, other_found, built⟩
  · rw [finished] at recursive
    cases recursive
  · rw [found] at other_found
    cases other_found
    exact ⟨_, decoder, decoder_reachable, built stored (grown_of_kept fun _ _ held => held)⟩

mutual

/-- Every field that is walked is in the registry. -/
theorem PlainRegistry.hasField : {part : Si1Field} → VisitedField kind metadata part →
    HasField metadata cells stored registry part
  | _, .entry pallet_member is_entry member => made.entry pallet_member is_entry member
  | _, .composite walked shape member => (PlainRegistry.hasType walked).composite shape member
  | _, .variant walked shape variant_member member =>
      (PlainRegistry.hasType walked).variant shape variant_member member

/-- Every type that is walked has a decoder in the registry. -/
theorem PlainRegistry.hasType : {typeDef : Si1TypeDef} → Walked kind metadata typeDef →
    HasType metadata cells stored registry typeDef
  | _, .field visited found => made.type (PlainRegistry.hasField visited) found
  | _, .array walked shape found => (PlainRegistry.hasType walked).array shape found
  | _, .sequence walked shape found => (PlainRegistry.hasType walked).sequence shape found
  | _, .tuple walked shape member found => (PlainRegistry.hasType walked).tuple shape member found

end

end Plain

/-! ## Keys -/

section Keys

variable {cells : Cells}

/-- Whatever the decoder returns is a map with the given key, and it does return one. -/
structure KeyedBy (cells : Cells) (decoder : FieldDecoder) (key : String) : Prop where
  key_eq : ∀ fuel input value rest, decoder.decode cells fuel input = .ok (value, rest) →
    ∃ bits, value = .bits key bits
  decodes : ∃ fuel input bits rest, decoder.decode cells fuel input = .ok (.bits key bits, rest)

/-- A bit sequence of eight bits decodes in either order. -/
theorem keyedBy_bitSequence (name : String) (bitOrder : BitOrder) :
    KeyedBy cells (.bitSequence name bitOrder) name where
  key_eq := by
    intro fuel input value rest run
    cases fuel with
    | zero => cases run
    | succ fuel =>
        obtain ⟨byteSlice, middle, _, returned⟩ := bind_eq_ok.mp run
        cases returned
        exact ⟨_, rfl⟩
  decodes := by
    cases bitOrder with
    | lsb0 => exact ⟨1, [0x20, 0], _, [], rfl⟩
    | msb0 => exact ⟨1, [0x20, 0], _, [], rfl⟩

theorem KeyedBy.recursive {cell : Nat} {inner : FieldDecoder} {key : String}
    (keyed : KeyedBy cells inner key) (filled : cells[cell]? = some inner)
    (present : inner.isNil = false) : KeyedBy cells (.recursive cell) key where
  key_eq := by
    intro fuel input value rest run
    cases fuel with
    | zero => cases run
    | succ fuel =>
        rw [FieldDecoder.decode_recursive fuel filled present] at run
        exact keyed.key_eq fuel input value rest run
  decodes := by
    obtain ⟨fuel, input, bits, rest, run⟩ := keyed.decodes
    exact ⟨fuel + 1, input, bits, rest, by rw [FieldDecoder.decode_recursive fuel filled present, run]⟩

/-- A decoder has only one key. -/
theorem KeyedBy.unique {decoder : FieldDecoder} {key : String} (keyed : KeyedBy cells decoder key)
    {other : String} (always : ∀ fuel input value rest,
      decoder.decode cells fuel input = .ok (value, rest) → ∃ bits, value = .bits other bits) :
    key = other := by
  obtain ⟨fuel, input, bits, rest, run⟩ := keyed.decodes
  obtain ⟨_, same⟩ := always fuel input _ rest run
  cases same
  rfl

end Keys

section Statement

variable {κ : Type} (kind : RegistryKind κ) (metadata : MetadataV14)

/-- The lookup index is that of a bit sequence. -/
def IsBitSequence (index : Int64) : Prop :=
  ∃ type storeType orderType, metadata.efficientLookup index = some type ∧
    type.typeDef.shape = .bitSequence storeType orderType

/-- Every field of the registry whose type is a bit sequence decodes to a map with its own name as the
key. -/
def KeysAreOwnNames (cells : Cells) (registry : TypeRegistry κ) : Prop :=
  ∀ field, ReachableField cells registry field → IsBitSequence metadata field.lookupIndex →
    ∀ fuel input value rest, field.decoder.decode cells fuel input = .ok (value, rest) →
      ∃ bits, value = .bits field.name bits

/-- Every field of the registry with this lookup index decodes to a map with its own name as the key. -/
def KeysAreOwnNamesAt (cells : Cells) (registry : TypeRegistry κ) (index : Int64) : Prop :=
  ∀ field, ReachableField cells registry field → field.lookupIndex = index →
    ∀ fuel input value rest, field.decoder.decode cells fuel input = .ok (value, rest) →
      ∃ bits, value = .bits field.name bits

/-- Fields with one bit sequence type have one name. -/
def BitSequencesAgree : Prop :=
  ∀ left right type, VisitedField kind metadata left → VisitedField kind metadata right →
    left.lookupIndex = right.lookupIndex → IsBitSequence metadata left.lookupIndex →
      metadata.efficientLookup left.lookupIndex = some type →
        getFullFieldName left type = getFullFieldName right type

/-- Fields with this lookup index have one name. -/
def NamesAgreeAt (index : Int64) : Prop :=
  ∀ left right type, VisitedField kind metadata left → VisitedField kind metadata right →
    left.lookupIndex = index → right.lookupIndex = index → metadata.efficientLookup index = some type →
      getFullFieldName left type = getFullFieldName right type

variable {kind metadata}

theorem keysAreOwnNames_iff_forall {cells : Cells} {registry : TypeRegistry κ} :
    KeysAreOwnNames metadata cells registry ↔
      ∀ index, IsBitSequence metadata index → KeysAreOwnNamesAt cells registry index := by
  constructor
  · rintro own index bits field reachable rfl
    exact own field reachable bits
  · intro own field reachable bits
    exact own field.lookupIndex bits field reachable rfl

theorem bitSequencesAgree_iff_forall :
    BitSequencesAgree kind metadata ↔
      ∀ index, IsBitSequence metadata index → NamesAgreeAt kind metadata index := by
  constructor
  · rintro agree index bits left right type left_visited right_visited rfl same found
    exact agree left right type left_visited right_visited same.symm bits found
  · intro agree left right type left_visited right_visited same bits found
    exact agree left.lookupIndex bits left right type left_visited right_visited rfl same.symm found

end Statement

theorem FieldNamed.lookupIndex {metadata : MetadataV14} {stored : Int64 → Option FieldDecoder}
    {part : Si1Field} {field : Field FieldDecoder} (named : FieldNamed metadata stored part field) :
    field.lookupIndex = part.lookupIndex := by
  cases named <;> rfl

theorem FieldNamed.name {metadata : MetadataV14} {stored : Int64 → Option FieldDecoder}
    {part : Si1Field} {field : Field FieldDecoder} {type : Si1Type}
    (named : FieldNamed metadata stored part field)
    (found : metadata.efficientLookup part.lookupIndex = some type) :
    field.name = getFullFieldName part type := by
  cases named with
  | shared other_found held finished =>
      rw [found] at other_found
      cases other_found
      rfl
  | cut other_found =>
      rw [found] at other_found
      cases other_found
      rfl

/-- A bit sequence has no compact form. -/
theorem not_compactMatches_of_bitSequence {metadata : MetadataV14} {typeDef : Si1TypeDef}
    {storeType orderType : Si1LookupTypeID} {decoder : FieldDecoder}
    (shape : typeDef.shape = .bitSequence storeType orderType) :
    ¬ CompactMatches metadata typeDef decoder := by
  have unsupported : typeDef.compactShape = .unsupported := by
    unfold Si1TypeDef.shape at shape
    obtain ⟨_, shape⟩ := TypeShape.of_ite_eq (by simp) shape
    obtain ⟨composite, shape⟩ := TypeShape.of_ite_eq (by simp) shape
    obtain ⟨_, shape⟩ := TypeShape.of_ite_eq (by simp) shape
    obtain ⟨primitive, shape⟩ := TypeShape.of_ite_eq (by simp) shape
    obtain ⟨_, shape⟩ := TypeShape.of_ite_eq (by simp) shape
    obtain ⟨_, shape⟩ := TypeShape.of_ite_eq (by simp) shape
    obtain ⟨tuple, _⟩ := TypeShape.of_ite_eq (by simp) shape
    simp [Si1TypeDef.compactShape, composite, primitive, tuple]
  intro made
  cases made with
  | primitive other | emptyTuple other | tuple other | composite other =>
      rw [unsupported] at other
      cases other

section Main

variable {κ : Type} {kind : RegistryKind κ} {metadata : MetadataV14} {cells : Cells}
  {stored : Int64 → Option FieldDecoder} {registry : TypeRegistry κ}
  (made : PlainRegistry kind metadata cells stored registry)

include made

/-- The stored decoder of a bit sequence has the name of one of the fields of its type. -/
theorem PlainRegistry.holder {index : Int64} {type : Si1Type}
    {storeType orderType : Si1LookupTypeID} {decoder : FieldDecoder}
    (found : metadata.efficientLookup index = some type)
    (shape : type.typeDef.shape = .bitSequence storeType orderType)
    (held : stored index = some decoder) (finished : decoder.isRecursive = false) :
    ∃ part bitOrder, VisitedField kind metadata part ∧ part.lookupIndex = index ∧
      decoder = .bitSequence (getFullFieldName part type) bitOrder := by
  rcases made.catalogued.tabled _ _ held with
    recursive | ⟨part, other, visited, rfl, other_found, built⟩
  · rw [finished] at recursive
    cases recursive
  · rw [found] at other_found
    cases other_found
    obtain ⟨bitOrder, rfl⟩ := (built stored (grown_of_kept fun _ _ held => held)).of_bitSequence shape
    exact ⟨part, bitOrder, visited, rfl, rfl⟩

/-- A field of a bit sequence type is keyed by the name that the storage holds for the type. -/
theorem PlainRegistry.keyedBy {part : Si1Field} {field : Field FieldDecoder} {type : Si1Type}
    {storeType orderType : Si1LookupTypeID} (reachable : ReachableField cells registry field)
    (named : FieldNamed metadata stored part field)
    (found : metadata.efficientLookup part.lookupIndex = some type)
    (shape : type.typeDef.shape = .bitSequence storeType orderType) :
    ∃ holder bitOrder, VisitedField kind metadata holder ∧ holder.lookupIndex = part.lookupIndex ∧
      stored part.lookupIndex = some (.bitSequence (getFullFieldName holder type) bitOrder) ∧
      KeyedBy cells field.decoder (getFullFieldName holder type) := by
  obtain ⟨decoder, held, finished, runs⟩ := made.runs reachable named
  obtain ⟨holder, bitOrder, visited, same, rfl⟩ := made.holder found shape held finished
  refine ⟨holder, bitOrder, visited, same, held, ?_⟩
  rcases runs with same | ⟨cell, same, filled, present⟩
  · rw [same]
    exact keyedBy_bitSequence _ _
  · rw [same]
    exact (keyedBy_bitSequence _ _).recursive filled present

/-- Where keys are own names, the decoder that the storage holds has the name of every walked field. -/
theorem PlainRegistry.held_own_name {part : Si1Field} {type : Si1Type} {storeType orderType : Si1LookupTypeID}
    (own : KeysAreOwnNamesAt cells registry part.lookupIndex) (visited : VisitedField kind metadata part)
    (found : metadata.efficientLookup part.lookupIndex = some type)
    (shape : type.typeDef.shape = .bitSequence storeType orderType) :
    ∃ bitOrder, stored part.lookupIndex =
      some (.bitSequence (getFullFieldName part type) bitOrder) := by
  obtain ⟨field, reachable, named⟩ := made.hasField visited
  obtain ⟨holder, bitOrder, _, _, held, keyed⟩ := made.keyedBy reachable named found shape
  rw [keyed.unique (own field reachable named.lookupIndex), named.name found] at held
  exact ⟨bitOrder, held⟩

/-- The fields of one bit sequence type. -/
theorem PlainRegistry.keysAreOwnNamesAt_iff {index : Int64} (bits : IsBitSequence metadata index) :
    KeysAreOwnNamesAt cells registry index ↔ NamesAgreeAt kind metadata index := by
  obtain ⟨type, storeType, orderType, found, shape⟩ := bits
  constructor
  · rintro own left right other left_visited right_visited rfl same other_found
    rw [found] at other_found
    cases other_found
    -- The storage holds one decoder for the type, and it has the name of both fields.
    obtain ⟨_, left_held⟩ := made.held_own_name own left_visited found shape
    rw [← same] at own found left_held
    obtain ⟨_, right_held⟩ := made.held_own_name own right_visited found shape
    rw [left_held] at right_held
    exact (FieldDecoder.bitSequence.inj (Option.some.inj right_held)).1
  · rintro agree field reachable rfl fuel input value rest decoded
    cases made.fieldOrigin reachable with
    | ofField visited named =>
        rename_i part
        have key := named.lookupIndex
        rw [key] at found agree
        have name := named.name found
        obtain ⟨holder, bitOrder, holder_visited, same, _, keyed⟩ :=
          made.keyedBy reachable named found shape
        obtain ⟨text, result⟩ := keyed.key_eq fuel input value rest decoded
        rw [name, agree part holder type visited holder_visited rfl same found]
        exact ⟨text, result⟩
    | ofItem item_found walked named =>
        rw [found] at item_found
        cases item_found
        obtain ⟨bitOrder, same⟩ := named.of_bitSequence shape
        rw [same] at decoded
        exact (keyedBy_bitSequence _ _).key_eq _ _ _ _ decoded
    | ofCompact compact_found compact =>
        rw [found] at compact_found
        cases compact_found
        exact absurd compact (not_compactMatches_of_bitSequence shape)

end Main

/-- Without overrides, the fields of a bit sequence type decode under their own names exactly when any two walked
fields of the type share their name; and all of them do when this holds of every type. -/
theorem keysAreOwnNames_iff {κ : Type} (kind : RegistryKind κ) (metadata : MetadataV14)
    (mapOrder : MapOrder) (fuel : Nat) (before final : Factory) (registry : TypeRegistry κ)
    (plain : before.fieldOverrides = [])
    (run : createRegistry kind metadata mapOrder fuel before = .ok (registry, final)) :
    (∀ index, IsBitSequence metadata index →
        (KeysAreOwnNamesAt final.cells registry index ↔ NamesAgreeAt kind metadata index)) ∧
      (KeysAreOwnNames metadata final.cells registry ↔ BitSequencesAgree kind metadata) := by
  have made := createRegistry_plain plain run
  refine ⟨fun index bits => made.keysAreOwnNamesAt_iff bits, ?_⟩
  rw [keysAreOwnNames_iff_forall, bitSequencesAgree_iff_forall]
  exact forall₂_congr fun index bits => made.keysAreOwnNamesAt_iff bits

/-! ## Two events with one bit sequence type -/

/-- The type of the votes, a bit sequence. -/
def ballotBits : Si1TypeDef where
  isBitSequence := true
  bitStoreType := (2 : Int)
  bitOrderType := (3 : Int)

/-- The events `Opened(votes)` and `Closed(second)`, both with votes. -/
def ballotMetadata (second : String) : MetadataV14 where
  pallets := [⟨"Ballot", false, (0 : Int), true, (4 : Int), false, (0 : Int), 3⟩]
  efficientLookup := toMap
    [⟨(1 : Int), [], ballotBits⟩,
      ⟨(2 : Int), [], { isPrimitive := true, primitive := 3 }⟩,
      ⟨(3 : Int), ["bitvec", "order", "Lsb0"], { isComposite := true }⟩,
      ⟨(4 : Int), ["Event"], { isVariant := true, variant :=
        [⟨"Opened", [⟨true, "votes", (1 : Int), false, ""⟩], 0⟩,
          ⟨"Closed", [⟨true, second, (1 : Int), false, ""⟩], 1⟩] }⟩]

mutual

theorem visited_ballotMetadata : {part : Si1Field} →
    VisitedField eventKind (ballotMetadata "votes") part → part = ⟨true, "votes", (1 : Int), false, ""⟩
  | part, .entry pallet_member is_entry member => by
      obtain rfl := List.mem_singleton.mp pallet_member
      change _ ∈ [Si1Variant.mk _ _ _, Si1Variant.mk _ _ _] at is_entry
      fin_cases is_entry
      · exact List.mem_singleton.mp member
      · exact List.mem_singleton.mp member
  | part, .composite walked shape member => by
      rw [walked_ballotMetadata walked] at shape
      cases shape
  | part, .variant walked shape variant_member member => by
      rw [walked_ballotMetadata walked] at shape
      cases shape

theorem walked_ballotMetadata : {typeDef : Si1TypeDef} →
    Walked eventKind (ballotMetadata "votes") typeDef → typeDef = ballotBits
  | _, .field visited found => by
      rw [visited_ballotMetadata visited] at found
      cases found
      rfl
  | _, .array walked shape found => by
      rw [walked_ballotMetadata walked] at shape
      cases shape
  | _, .sequence walked shape found => by
      rw [walked_ballotMetadata walked] at shape
      cases shape
  | _, .tuple walked shape member found => by
      rw [walked_ballotMetadata walked] at shape
      cases shape

end

theorem keysAreOwnNames_ballot :
    ∃ registry final, createRegistry eventKind (ballotMetadata "votes") .newestFirst 2
      (newFactory [] []) = .ok (registry, final) ∧
        KeysAreOwnNames (ballotMetadata "votes") final.cells registry := by
  refine ⟨_, _, rfl, ?_⟩
  refine (keysAreOwnNames_iff eventKind (ballotMetadata "votes") .newestFirst 2 (newFactory [] [])
    _ _ rfl rfl).2.mpr ?_
  intro left right type left_visited right_visited _ _ _
  rw [visited_ballotMetadata left_visited, visited_ballotMetadata right_visited]

/-- The second event's votes come out under the name that the first event gives them. -/
theorem keys_not_own_names :
    ∃ registry final, createRegistry eventKind (ballotMetadata "tally") .newestFirst 2
      (newFactory [] []) = .ok (registry, final) ∧
        ¬ KeysAreOwnNames (ballotMetadata "tally") final.cells registry := by
  refine ⟨_, _, rfl, fun own => ?_⟩
  obtain ⟨_, same⟩ := own ⟨"tally", .bitSequence "votes" .lsb0, 1⟩
    (.inl ⟨_, List.mem_cons_self, List.mem_singleton_self _⟩) ⟨_, _, _, rfl, rfl⟩ 1 [0x20, 0] _ _ rfl
  exact absurd (Value.bits.inj same).1 (by decide)

end SubstrateClient.Registry
