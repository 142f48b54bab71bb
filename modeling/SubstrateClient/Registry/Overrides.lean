import SubstrateClient.Registry.Equivalence

/-!
# Field overrides

An override is consulted where a field is built, and not where an item of a sequence, array or tuple is.
`Visited` describes on the metadata which types decoding reaches as fields and which as items; `Occurs`
pairs them with the decoders that a registry uses there.
-/

namespace SubstrateClient.Registry

open ListLookup Scale SubstrateClient.Types

/-- How a type is referred to. -/
inductive Site where
  /-- By a field of a call, event, error, composite or variant. -/
  | field
  /-- As an item of a sequence, array or tuple. -/
  | item
  deriving DecidableEq, Repr

/-- The variants under their indices; of two with one index the last is found. -/
def byIndex (variants : List Si1Variant) : List (UInt8 × Si1Variant) :=
  (variants.map fun variant => (variant.index, variant)).reverse

/-- The variants of all pallets under their registry keys; of two with one key the last is found. -/
def byKey {κ : Type} (kind : RegistryKind κ) (metadata : MetadataV14) : List (κ × Si1Variant) :=
  (metadata.pallets.flatMap fun pallet => (palletVariants kind metadata pallet).map
    fun variant => (kind.key pallet.index variant.index, variant)).reverse

/-- A type definition refers to a type.  What stands under a compact is in compact form and is not a value
of the type it refers to. -/
inductive Refers (typeDef : Si1TypeDef) : Site → Int64 → Prop
  | composite {fields : List Si1Field} {part : Part} (shape : typeDef.shape = .composite fields)
      (member : part ∈ fieldParts fields) : Refers typeDef .field part.lookupIndex
  | variant {variants : List Si1Variant} {index : UInt8} {variant : Si1Variant} {part : Part}
      (shape : typeDef.shape = .variant variants)
      (selected : (byIndex variants).lookup index = some variant)
      (member : part ∈ fieldParts variant.fields) : Refers typeDef .field part.lookupIndex
  | array {len : UInt32} {id : Si1LookupTypeID} (shape : typeDef.shape = .array len id) :
      Refers typeDef .item id.int64
  | sequence {id : Si1LookupTypeID} (shape : typeDef.shape = .sequence id) :
      Refers typeDef .item id.int64
  | tuple {items : List Si1LookupTypeID} {part : Part} (shape : typeDef.shape = .tuple (some items))
      (member : part ∈ itemParts items) : Refers typeDef .item part.lookupIndex

/-- Decoding a registry's types reaches a type, not counting what lies inside an overridden field. -/
inductive Visited {κ : Type} [BEq κ] (kind : RegistryKind κ) (metadata : MetadataV14)
    (overrides : Int64 → Option FieldDecoder) : Site → Int64 → Prop
  | entry {key : κ} {variant : Si1Variant} {part : Part}
      (selected : (byKey kind metadata).lookup key = some variant)
      (member : part ∈ fieldParts variant.fields) : Visited kind metadata overrides .field part.lookupIndex
  | deeper {site next : Site} {index inner : Int64} {type : Si1Type}
      (visited : Visited kind metadata overrides site index)
      (default : site = .field → overrides index = none)
      (found : metadata.efficientLookup index = some type)
      (refers : Refers type.typeDef next inner) : Visited kind metadata overrides next inner

/-- The decoder that does the work of a decoder. -/
inductive Opens (cells : Cells) : FieldDecoder → FieldDecoder → Prop
  | plain {decoder : FieldDecoder} (plain : decoder.isRecursive = false) : Opens cells decoder decoder
  | through {cell : Nat} {body : FieldDecoder} (set : cells[cell]? = some body) :
      Opens cells (.recursive cell) body

/-- The decoder of a type definition leaves a type that the definition refers to to another decoder. -/
inductive Delegates (typeDef : Si1TypeDef) : FieldDecoder → Site → Int64 → FieldDecoder → Prop
  | composite {fields : List Si1Field} {name : String} {built : List (Field FieldDecoder)}
      {part : Part} {field : Field FieldDecoder} (shape : typeDef.shape = .composite fields)
      (pair : (part, field) ∈ (fieldParts fields).zip built) :
      Delegates typeDef (.composite name built) .field part.lookupIndex field.decoder
  | variant {variants : List Si1Variant} {fieldDecoderMap : List (UInt8 × FieldDecoder)}
      {index : UInt8} {variant : Si1Variant} {name : String} {built : List (Field FieldDecoder)}
      {part : Part} {field : Field FieldDecoder} (shape : typeDef.shape = .variant variants)
      (selected : (byIndex variants).lookup index = some variant)
      (stored : fieldDecoderMap.lookup index = some (.composite name built))
      (pair : (part, field) ∈ (fieldParts variant.fields).zip built) :
      Delegates typeDef (.variant fieldDecoderMap) .field part.lookupIndex field.decoder
  | array {len : UInt32} {id : Si1LookupTypeID} {length : Nat} {item : FieldDecoder}
      (shape : typeDef.shape = .array len id) :
      Delegates typeDef (.array length item) .item id.int64 item
  | sequence {id : Si1LookupTypeID} {item : FieldDecoder} (shape : typeDef.shape = .sequence id) :
      Delegates typeDef (.slice item) .item id.int64 item
  | tuple {items : List Si1LookupTypeID} {name : String} {built : List (Field FieldDecoder)}
      {part : Part} {field : Field FieldDecoder} (shape : typeDef.shape = .tuple (some items))
      (pair : (part, field) ∈ (itemParts items).zip built) :
      Delegates typeDef (.composite name built) .item part.lookupIndex field.decoder

/-- Decoding with a registry reaches a type and decodes it with the given decoder. -/
inductive Occurs {κ : Type} [BEq κ] (kind : RegistryKind κ) (metadata : MetadataV14)
    (overrides : Int64 → Option FieldDecoder) (cells : Cells) (registry : TypeRegistry κ) :
    Site → Int64 → FieldDecoder → Prop
  | entry {key : κ} {variant : Si1Variant} {typeDecoder : TypeDecoder} {part : Part}
      {field : Field FieldDecoder} (selected : (byKey kind metadata).lookup key = some variant)
      (stored : registry.lookup key = some typeDecoder)
      (pair : (part, field) ∈ (fieldParts variant.fields).zip typeDecoder.fields) :
      Occurs kind metadata overrides cells registry .field part.lookupIndex field.decoder
  | deeper {site next : Site} {index inner : Int64} {type : Si1Type}
      {decoder body innerDecoder : FieldDecoder}
      (occurs : Occurs kind metadata overrides cells registry site index decoder)
      (default : site = .field → overrides index = none)
      (found : metadata.efficientLookup index = some type) (opens : Opens cells decoder body)
      (delegates : Delegates type.typeDef body next inner innerDecoder) :
      Occurs kind metadata overrides cells registry next inner innerDecoder

/-- Every occurrence of the type, as a field or as an item, is decoded by the given decoder. -/
def DecodedBy {κ : Type} [BEq κ] (kind : RegistryKind κ) (metadata : MetadataV14)
    (overrides : Int64 → Option FieldDecoder) (cells : Cells) (registry : TypeRegistry κ)
    (index : Int64) (decoder : FieldDecoder) : Prop :=
  ∀ site inner, Occurs kind metadata overrides cells registry site index inner → inner = decoder

/-! ## Occurrences in a registry -/

section Occurrences

variable {metadata : MetadataV14} {overrides : Int64 → Option FieldDecoder}
  {planted : Int64 → Nat → Prop} {cells : Cells}

/-- What the decoder of an occurrence can be. -/
inductive Fits (metadata : MetadataV14) (overrides : Int64 → Option FieldDecoder)
    (planted : Int64 → Nat → Prop) : Site → Int64 → FieldDecoder → Prop
  | overridden {index : Int64} {decoder : FieldDecoder} (stored : overrides index = some decoder) :
      Fits metadata overrides planted .field index decoder
  | cut {index : Int64} {cell : Nat} (free : overrides index = none) (mark : planted index cell) :
      Fits metadata overrides planted .field index (.recursive cell)
  | built {site : Site} {index : Int64} {type : Si1Type} {decoder : FieldDecoder}
      (free : site = .field → overrides index = none)
      (found : metadata.efficientLookup index = some type)
      (made : Matches metadata overrides planted type.typeDef decoder) :
      Fits metadata overrides planted site index decoder

theorem FieldMatches.fits {part : Part} {field : Field FieldDecoder}
    (matched : FieldMatches metadata overrides planted part field) :
    Fits metadata overrides planted .field part.lookupIndex field.decoder := by
  cases matched with
  | overridden found stored => exact .overridden stored
  | cut found free mark => exact .cut free mark
  | built found free inner => exact .built (fun _ => free) found inner

theorem ItemMatches.fits {part : Part} {field : Field FieldDecoder}
    (matched : ItemMatches metadata overrides planted part field) :
    Fits metadata overrides planted .item part.lookupIndex field.decoder := by
  obtain ⟨found, inner⟩ := matched
  exact .built (by rintro ⟨⟩) found inner

/-- Where no override applies, the work is done by a decoder of the type. -/
theorem Fits.body {site : Site} {index : Int64} {type : Si1Type} {decoder body : FieldDecoder}
    (resolved : Resolved metadata overrides planted cells)
    (fits : Fits metadata overrides planted site index decoder)
    (default : site = .field → overrides index = none)
    (found : metadata.efficientLookup index = some type) (opens : Opens cells decoder body) :
    Matches metadata overrides planted type.typeDef body := by
  cases fits with
  | overridden stored =>
      rw [default rfl] at stored
      cases stored
  | cut free mark =>
      cases opens with
      | plain plain => cases plain
      | through set =>
          obtain ⟨inner, type', set', found', made⟩ := resolved _ _ mark free
          rw [set] at set'
          rw [found] at found'
          cases set'
          cases found'
          exact made
  | built free found' made =>
      rw [found] at found'
      cases found'
      cases opens with
      | plain plain => exact made
      | through set => exact absurd rfl (ne_true_of_eq_false made.isRecursive)

theorem Fits.exists_body {site : Site} {index : Int64} {decoder : FieldDecoder}
    (resolved : Resolved metadata overrides planted cells)
    (fits : Fits metadata overrides planted site index decoder)
    (default : site = .field → overrides index = none) : ∃ body, Opens cells decoder body := by
  cases fits with
  | overridden stored =>
      rw [default rfl] at stored
      cases stored
  | cut free mark =>
      obtain ⟨inner, _, set, _⟩ := resolved _ _ mark free
      exact ⟨inner, .through set⟩
  | built free found made => exact ⟨decoder, .plain made.isRecursive⟩

/-- The decoder stands in the decoder map for the variant. -/
def VariantFits (metadata : MetadataV14) (overrides : Int64 → Option FieldDecoder)
    (planted : Int64 → Nat → Prop) (variant : Si1Variant) (decoder : FieldDecoder) : Prop :=
  VariantMatches metadata overrides planted variant (variant.index, decoder)

/-- The decoder map of a variant type, related to the variants by index. -/
theorem variants_related {variants : List Si1Variant} {entries : List (UInt8 × FieldDecoder)}
    (each : List.Forall₂ (VariantMatches metadata overrides planted) variants entries) :
    List.Forall₂ (fun first second => first.1 = second.1 ∧
      VariantFits metadata overrides planted first.2 second.2) (byIndex variants) entries.reverse := by
  refine List.forall₂_reverse_iff.mpr (List.forall₂_map_left_iff.mpr (each.imp ?_))
  rintro variant ⟨key, decoder⟩ matched
  obtain rfl : key = variant.index := matched.index_eq
  exact ⟨rfl, matched⟩

/-- A decoder of a type leaves the types it refers to to decoders that fit them. -/
theorem Matches.delegates_fits {typeDef : Si1TypeDef} {body innerDecoder : FieldDecoder} {next : Site}
    {inner : Int64} (made : Matches metadata overrides planted typeDef body)
    (delegates : Delegates typeDef body next inner innerDecoder) :
    Fits metadata overrides planted next inner innerDecoder := by
  cases delegates with
  | composite shape pair =>
      cases made with
      | compact shape' => rw [shape] at shape'; cases shape'
      | composite shape' each =>
          rw [shape] at shape'
          cases shape'
          exact ((List.forall₂_iff_zip.mp each).2 pair).fits
      | tuple shape' => rw [shape] at shape'; cases shape'
  | variant shape selected stored pair =>
      cases made with
      | compact shape' => rw [shape] at shape'; cases shape'
      | variant shape' each =>
          rw [shape] at shape'
          cases shape'
          have matched : VariantMatches metadata overrides planted _ (_, _) :=
            related_of_lookup (variants_related each) selected stored
          cases matched with
          | fields filled fields_match => exact ((List.forall₂_iff_zip.mp fields_match).2 pair).fits
  | array shape =>
      cases made with
      | compact shape' => rw [shape] at shape'; cases shape'
      | array shape' found item_made =>
          rw [shape] at shape'
          cases shape'
          exact .built (by rintro ⟨⟩) found item_made
  | sequence shape =>
      cases made with
      | compact shape' => rw [shape] at shape'; cases shape'
      | sequence shape' found item_made =>
          rw [shape] at shape'
          cases shape'
          exact .built (by rintro ⟨⟩) found item_made
  | tuple shape pair =>
      cases made with
      | compact shape' => rw [shape] at shape'; cases shape'
      | composite shape' => rw [shape] at shape'; cases shape'
      | tuple shape' each =>
          rw [shape] at shape'
          cases shape'
          exact ((List.forall₂_iff_zip.mp each).2 pair).fits

/-- A decoder of a type has a decoder for every type it refers to. -/
theorem Matches.exists_delegates {typeDef : Si1TypeDef} {body : FieldDecoder} {next : Site}
    {inner : Int64} (made : Matches metadata overrides planted typeDef body)
    (refers : Refers typeDef next inner) :
    ∃ innerDecoder, Delegates typeDef body next inner innerDecoder := by
  cases refers with
  | composite shape member =>
      cases made with
      | composite shape' each =>
          rw [shape] at shape'
          cases shape'
          obtain ⟨field, pair⟩ := exists_pair_of_mem each member
          exact ⟨_, .composite shape pair⟩
      | _ shape' => rw [shape] at shape'; cases shape'
  | variant shape selected member =>
      cases made with
      | variant shape' each =>
          rw [shape] at shape'
          cases shape'
          obtain ⟨decoder, stored, matched⟩ := exists_lookup (variants_related each) selected
          unfold VariantFits at matched
          cases matched with
          | empty bare => rw [bare] at member; cases member
          | fields filled fields_match =>
              obtain ⟨field, pair⟩ := exists_pair_of_mem fields_match member
              exact ⟨_, .variant shape selected stored pair⟩
      | _ shape' => rw [shape] at shape'; cases shape'
  | array shape =>
      cases made with
      | array shape' => exact ⟨_, .array shape⟩
      | _ shape' => rw [shape] at shape'; cases shape'
  | sequence shape =>
      cases made with
      | sequence shape' => exact ⟨_, .sequence shape⟩
      | _ shape' => rw [shape] at shape'; cases shape'
  | tuple shape member =>
      cases made with
      | tuple shape' each =>
          rw [shape] at shape'
          cases shape'
          obtain ⟨field, pair⟩ := exists_pair_of_mem each member
          exact ⟨_, .tuple shape pair⟩
      | _ shape' => rw [shape] at shape'; cases shape'

end Occurrences

section Walked

variable {κ : Type} [BEq κ] {kind : RegistryKind κ} {metadata : MetadataV14} {before walked : Factory}
  {registry : TypeRegistry κ} {cells : Cells}

/-- The type decoder has the fields of the variant. -/
def EntryFits (metadata : MetadataV14) (overrides : Int64 → Option FieldDecoder)
    (planted : Int64 → Nat → Prop) (variant : Si1Variant) (typeDecoder : TypeDecoder) : Prop :=
  List.Forall₂ (FieldMatches metadata overrides planted) (fieldParts variant.fields)
    typeDecoder.fields

omit [BEq κ] in
theorem entries_related {overrides : Int64 → Option FieldDecoder} {planted : Int64 → Nat → Prop}
    {pallets : List PalletMetadataV14} {entries : List (List (κ × TypeDecoder))}
    (each : List.Forall₂ (fun pallet => List.Forall₂
      (EntryMatches kind metadata overrides planted pallet) (palletVariants kind metadata pallet))
      pallets entries) :
    List.Forall₂ (fun first second => first.1 = second.1 ∧
      EntryFits metadata overrides planted first.2 second.2)
      (pallets.flatMap fun pallet => (palletVariants kind metadata pallet).map
        fun variant => (kind.key pallet.index variant.index, variant)) entries.flatten := by
  induction each with
  | nil => exact .nil
  | cons first _ ih =>
      rw [List.flatMap_cons, List.flatten_cons]
      refine List.rel_append (List.forall₂_map_left_iff.mpr (first.imp ?_)) ih
      rintro variant entry ⟨same_key, _, fields_match⟩
      exact ⟨same_key.symm, fields_match⟩

omit [BEq κ] in
/-- A registry, related to the variants by key. -/
theorem Traversed.related (traversed : Traversed kind metadata before walked registry) :
    List.Forall₂ (fun first second => first.1 = second.1 ∧
      EntryFits metadata (overrideStorage before.fieldOverrides) walked.Noted first.2 second.2)
      (byKey kind metadata) registry := by
  obtain ⟨entries, rfl, each⟩ := traversed.entries
  exact List.forall₂_reverse_iff.mpr (entries_related each)

/-- What decoding reaches is reached on the metadata, by a decoder that fits it. -/
theorem Occurs.fits {site : Site} {index : Int64} {decoder : FieldDecoder}
    (traversed : Traversed kind metadata before walked registry)
    (resolved : Resolved metadata (overrideStorage before.fieldOverrides) walked.Noted cells)
    (occurs : Occurs kind metadata (overrideStorage before.fieldOverrides) cells registry site index
      decoder) :
    Fits metadata (overrideStorage before.fieldOverrides) walked.Noted site index decoder := by
  induction occurs with
  | entry selected stored pair =>
      have fields_match := related_of_lookup traversed.related selected stored
      exact ((List.forall₂_iff_zip.mp fields_match).2 pair).fits
  | deeper _ default found opens delegates ih =>
      exact (ih.body resolved default found opens).delegates_fits delegates

/-- What is reached on the metadata is reached by decoding. -/
theorem Visited.exists_occurs {site : Site} {index : Int64}
    (traversed : Traversed kind metadata before walked registry)
    (resolved : Resolved metadata (overrideStorage before.fieldOverrides) walked.Noted cells)
    (visited : Visited kind metadata (overrideStorage before.fieldOverrides) site index) :
    ∃ decoder, Occurs kind metadata (overrideStorage before.fieldOverrides) cells registry site index
      decoder := by
  induction visited with
  | entry selected member =>
      obtain ⟨typeDecoder, stored, fields_match⟩ := exists_lookup traversed.related selected
      obtain ⟨field, pair⟩ := exists_pair_of_mem fields_match member
      exact ⟨field.decoder, .entry selected stored pair⟩
  | deeper _ default found refers ih =>
      obtain ⟨decoder, occurs⟩ := ih
      have fits := occurs.fits traversed resolved
      obtain ⟨body, opens⟩ := fits.exists_body resolved default
      have made := fits.body resolved default found opens
      obtain ⟨innerDecoder, delegates⟩ := made.exists_delegates refers
      exact ⟨innerDecoder, .deeper occurs default found opens delegates⟩

end Walked

section Delegated

variable {metadata : MetadataV14} {typeDef : Si1TypeDef}

theorem Delegates.refers {body innerDecoder : FieldDecoder} {next : Site} {inner : Int64}
    (delegates : Delegates typeDef body next inner innerDecoder) : Refers typeDef next inner := by
  cases delegates with
  | composite shape pair => exact .composite shape (List.of_mem_zip pair).1
  | variant shape selected _ pair => exact .variant shape selected (List.of_mem_zip pair).1
  | array shape => exact .array shape
  | sequence shape => exact .sequence shape
  | tuple shape pair => exact .tuple shape (List.of_mem_zip pair).1

theorem Occurs.visited {κ : Type} [BEq κ] {kind : RegistryKind κ}
    {overrides : Int64 → Option FieldDecoder} {cells : Cells} {registry : TypeRegistry κ} {site : Site}
    {index : Int64} {decoder : FieldDecoder}
    (occurs : Occurs kind metadata overrides cells registry site index decoder) :
    Visited kind metadata overrides site index := by
  induction occurs with
  | entry selected _ pair => exact .entry selected (List.of_mem_zip pair).1
  | deeper _ default found _ delegates ih => exact .deeper ih default found delegates.refers

end Delegated

/-- The decoder is one that the factory builds for the type. -/
def BuiltFor (metadata : MetadataV14) (overrides : Int64 → Option FieldDecoder) (index : Int64)
    (decoder : FieldDecoder) : Prop :=
  ∃ planted type, metadata.efficientLookup index = some type ∧
    Matches metadata overrides planted type.typeDef decoder

/-- An override decodes every occurrence of its type when decoding reaches the type as no item of a
sequence, array or tuple; an override by another decoder than the default one does so only then. -/
theorem override_decodes_iff_no_item {κ : Type} [BEq κ] (kind : RegistryKind κ)
    (metadata : MetadataV14) (mapOrder : MapOrder) (fuel : Nat) (before final : Factory)
    (registry : TypeRegistry κ) (index : Int64) (decoder : FieldDecoder)
    (overridden : overrideStorage before.fieldOverrides index = some decoder)
    (created : createRegistry kind metadata mapOrder fuel before = .ok (registry, final)) :
    (¬ Visited kind metadata (overrideStorage before.fieldOverrides) .item index →
        DecodedBy kind metadata (overrideStorage before.fieldOverrides) final.cells registry index
          decoder) ∧
      (¬ BuiltFor metadata (overrideStorage before.fieldOverrides) index decoder →
        DecodedBy kind metadata (overrideStorage before.fieldOverrides) final.cells registry index
          decoder →
        ¬ Visited kind metadata (overrideStorage before.fieldOverrides) .item index) := by
  obtain ⟨walked, traversal, resolution⟩ := createRegistry_eq_ok created
  have traversed := traverse_traversed kind metadata traversal
  have resolved := traversed.resolved resolution
  constructor
  · intro no_item site inner occurs
    cases occurs.fits traversed resolved with
    | overridden stored =>
        rw [overridden] at stored
        cases stored
        rfl
    | cut free _ =>
        rw [overridden] at free
        cases free
    | built free _ _ =>
        cases site with
        | field =>
            rw [overridden] at free
            cases free rfl
        | item => exact absurd occurs.visited no_item
  · intro other decoded visited
    obtain ⟨inner, occurs⟩ := visited.exists_occurs traversed resolved
    obtain rfl := decoded .item inner occurs
    cases occurs.fits traversed resolved with
    | built _ found made => exact other ⟨_, _, found, made⟩

/-- Every type that decoding a remark with an override for its bytes reaches. -/
theorem remark_visited {decoder : FieldDecoder} {site : Site} {index : Int64}
    (visited : Visited callKind remarkMetadata (overrideStorage [⟨2, decoder⟩]) site index) :
    site = .field ∧ index = 2 := by
  induction visited with
  | @entry key variant part selected member =>
      obtain rfl : remarkVariant = variant := by
        have only : (byKey callKind remarkMetadata) = [(⟨0, 0⟩, remarkVariant)] := rfl
        rw [only, List.lookup_cons] at selected
        split at selected
        · exact Option.some.inj selected
        · cases selected
      obtain rfl := List.mem_singleton.mp member
      exact ⟨rfl, rfl⟩
  | deeper _ default _ _ ih =>
      obtain ⟨rfl, rfl⟩ := ih
      cases default rfl

/-- The bytes of a remark are a field only, so their override decodes every occurrence. -/
theorem override_decodes_remark :
    ∃ registry final,
      createCallRegistry remarkMetadata .newestFirst 3 (newFactory [⟨2, .value .string⟩] []) =
        .ok (registry, final) ∧
      DecodedBy callKind remarkMetadata (overrideStorage [⟨2, .value .string⟩]) final.cells registry 2
        (.value .string) := by
  refine ⟨_, _, rfl, (override_decodes_iff_no_item callKind remarkMetadata .newestFirst 3
    (newFactory [⟨2, .value .string⟩] []) _ _ 2 (.value .string) rfl rfl).1 fun visited => ?_⟩
  cases (remark_visited visited).1

/-- The items of a remark's `Vec<u8>`, which is not overridden itself. -/
theorem remark_item_occurs {overrides : Int64 → Option FieldDecoder} {cells : Cells}
    {registry : TypeRegistry CallIndex} {name : String} {item : FieldDecoder}
    (free : overrides 2 = none)
    (stored : registry.lookup ⟨0, 0⟩ = some ⟨name, [⟨"remark", .slice item, 2⟩]⟩) :
    Occurs callKind remarkMetadata overrides cells registry .item 1 item := by
  have field : Occurs callKind remarkMetadata overrides cells registry .field 2 (.slice item) :=
    .entry (show (byKey callKind remarkMetadata).lookup ⟨0, 0⟩ = some remarkVariant from rfl) stored
      (List.mem_singleton_self _)
  have delegates : Delegates { isSequence := true, sequence := (1 : Int) } (.slice item) .item
      (Si1LookupTypeID.int64 (1 : Int)) item := .sequence rfl
  exact .deeper field (fun _ => free) rfl (.plain rfl) delegates

/-- An override of `u8` leaves the items of a remark's `Vec<u8>` to the default decoder. -/
theorem override_misses_remark_items :
    ∃ registry final,
      createCallRegistry remarkMetadata .newestFirst 3 (newFactory [⟨1, .value (.num .u16)⟩] []) =
        .ok (registry, final) ∧
      ¬ DecodedBy callKind remarkMetadata (overrideStorage [⟨1, .value (.num .u16)⟩]) final.cells
        registry 1 (.value (.num .u16)) := by
  refine ⟨_, _, rfl, fun decoded => ?_⟩
  cases decoded .item (.value (.num .u8)) (remark_item_occurs rfl rfl)

end SubstrateClient.Registry
