import SubstrateClient.Registry.StorageInvariant

/-!
# The traversal of the type graph

Each builder of the factory keeps the storages in order and returns decoders with the structure of
their types.  After all pallets no type is half built, and the registry has one entry for each variant.
-/

namespace SubstrateClient.Registry

open Scale

/-! ## The builders -/

section Builders

variable {metadata : MetadataV14} {overrides : Int64 → Option FieldDecoder} {base : Nat}

/-- Every decoder that the compact builder returns has the compact structure of its type. -/
theorem getCompactFieldDecoder_matches {fuel : Nat} {fieldName : String} {typeDef : Si1TypeDef}
    {decoder : FieldDecoder}
    (built : getCompactFieldDecoder metadata fuel fieldName typeDef = .ok decoder) :
    CompactMatches metadata typeDef decoder := by
  induction fuel generalizing fieldName typeDef decoder with
  | zero => cases built
  | succ fuel ih =>
      unfold getCompactFieldDecoder at built
      split at built
      · rename_i shape
        cases built
        exact .primitive shape
      · rename_i shape
        cases built
        exact .emptyTuple shape
      · rename_i items shape
        obtain ⟨fields, runs, returned⟩ := Outcome.bind_eq_ok.mp built
        cases returned
        refine .tuple shape (List.forall₂_map_left_iff.mpr ?_)
        refine (Outcome.mapM_eq_ok.mp runs).imp fun entry field run => ?_
        obtain ⟨type, inner, found, inner_run, rfl⟩ := getCompactTupleItem_eq_ok run
        exact CompactPart.intro found (ih inner_run)
      · rename_i parts shape
        obtain ⟨fields, runs, returned⟩ := Outcome.bind_eq_ok.mp built
        cases returned
        refine .composite shape (List.forall₂_map_left_iff.mpr ?_)
        refine (Outcome.mapM_eq_ok.mp runs).imp fun part field run => ?_
        obtain ⟨type, inner, found, inner_run, rfl⟩ := getCompactCompositeField_eq_ok run
        exact CompactPart.intro found (ih inner_run)
      · cases built

section Given

variable {getDecoder : String → Si1TypeDef → Build FieldDecoder}
  (keeps : ∀ fieldName typeDef, Keeps metadata overrides base (getDecoder fieldName typeDef)
    fun planted decoder => Matches metadata overrides planted typeDef decoder)

include keeps

/-- A field on first sight: planted, built and stored. -/
theorem Invariant.build_field {before middle : Factory} {index : Int64} {type : Si1Type}
    {fieldName : String} {decoder : FieldDecoder}
    (invariant : Invariant metadata overrides base before)
    (found : metadata.efficientLookup index = some type)
    (missing : before.fieldStorage index = none)
    (built : getDecoder fieldName type.typeDef (Registry.plantRecursive index before) =
      .ok (decoder, middle)) :
    Invariant metadata overrides base { middle with
        fieldStorage := Function.update middle.fieldStorage index (some decoder) } ∧
      Extends metadata overrides before { middle with
        fieldStorage := Function.update middle.fieldStorage index (some decoder) } ∧
      ∀ planted : Int64 → Nat → Prop, (∀ index cell, middle.Noted index cell → planted index cell) →
        Matches metadata overrides planted type.typeDef decoder := by
  obtain ⟨middle_invariant, extended, made⟩ :=
    keeps fieldName type.typeDef _ decoder middle built (invariant.plantRecursive missing)
  have closed : Closed metadata overrides middle index decoder := ⟨type, found, made⟩
  refine ⟨middle_invariant.store (invariant.free missing) closed, ⟨?_, ?_, ?_⟩, made⟩
  · intro other stored present
    have apart : other ≠ index := by
      rintro rfl
      rw [missing] at present
      cases present
    change Function.update middle.fieldStorage index _ other = _
    rw [Function.update_of_ne apart]
    apply extended.kept
    change Function.update before.fieldStorage index _ other = _
    rw [Function.update_of_ne apart]
    exact present
  · intro other stored empty present
    change Function.update middle.fieldStorage index _ other = _ at present
    by_cases same : other = index
    · subst same
      rw [Function.update_self] at present
      cases present
      exact closed
    · rw [Function.update_of_ne same] at present
      refine extended.fresh other stored ?_ present
      change Function.update before.fieldStorage index _ other = _
      rw [Function.update_of_ne same]
      exact empty
  · exact extended.noted

theorem keeps_getTypeField (field : Si1Field) :
    Keeps metadata overrides base (getTypeField metadata getDecoder field) fun planted built =>
      FieldMatches metadata overrides planted ⟨getFullFieldName field, field.lookupIndex⟩ built := by
  intro before built after run invariant
  obtain ⟨type, found, ⟨decoder, present, rfl, rfl⟩ | ⟨present, decoder, middle, build, rfl, rfl⟩⟩ :=
    getTypeField_eq_ok run
  · obtain ⟨invariant', extended⟩ := invariant.noteRecursive present
    refine ⟨invariant', extended, fun planted covers => ?_⟩
    cases overridden : overrides field.lookupIndex with
    | some other =>
        have same := invariant.kept _ _ overridden
        rw [present] at same
        cases same
        exact FieldMatches.overridden found overridden
    | none =>
        rcases invariant.stored _ _ overridden present with pending | ⟨_, found', made⟩
        · cases decoder with
          | recursive cell =>
              exact FieldMatches.cut found overridden
                (covers _ _ (mem_putRecursive.mpr (.inl ⟨rfl, rfl⟩)))
          | _ => cases pending
        · rw [found] at found'
          cases found'
          exact FieldMatches.built found overridden (made planted fun index cell noted =>
            covers index cell (extended.noted _ _ noted))
  · obtain ⟨invariant', extended, made⟩ := invariant.build_field keeps found present build
    exact ⟨invariant', extended, fun planted covers =>
      FieldMatches.built found (invariant.free present) (made planted covers)⟩

theorem keeps_getTypeFields (fields : List Si1Field) :
    Keeps metadata overrides base (getTypeFields metadata getDecoder fields) fun planted built =>
      List.Forall₂ (FieldMatches metadata overrides planted) (fieldParts fields) built := by
  intro before built after run invariant
  obtain ⟨invariant, extended, made⟩ :=
    keeps_mapM (keeps_getTypeField keeps) fields before built after run invariant
  exact ⟨invariant, extended, fun planted covers =>
    List.forall₂_map_left_iff.mpr (made planted covers)⟩

theorem keeps_getVariantEntry (entry : Si1Variant × Nat) :
    Keeps metadata overrides base (getVariantEntry metadata getDecoder entry)
      fun planted built => VariantMatches metadata overrides planted entry.1 built := by
  unfold getVariantEntry
  split_ifs with bare
  · exact keeps_pure fun planted => .empty bare
  · exact ((keeps_getTypeFields keeps entry.1.fields).mapError _).bind fun fields =>
      keeps_pure fun planted each => .fields bare each

theorem keeps_getVariantFieldDecoder {typeDef : Si1TypeDef} {variants : List Si1Variant}
    (shape : typeDef.shape = .variant variants) :
    Keeps metadata overrides base (getVariantFieldDecoder metadata getDecoder variants)
      fun planted decoder => Matches metadata overrides planted typeDef decoder := by
  refine (keeps_mapM (keeps_getVariantEntry keeps) variants.zipIdx).bind fun entries => ?_
  refine keeps_pure fun planted each => .variant shape ?_
  rw [← List.forall₂_map_left_iff (f := Prod.fst), List.zipIdx_map_fst] at each
  exact each

theorem keeps_getTupleItem (entry : Si1LookupTypeID × Nat) :
    Keeps metadata overrides base (getTupleItem metadata getDecoder entry) fun planted built =>
      ItemMatches metadata overrides planted
        ⟨fun _ => tupleItemFieldName entry.2, entry.1.int64⟩ built := by
  unfold getTupleItem
  split
  · exact keeps_fail _
  · rename_i type found
    exact ((keeps _ _).mapError _).bind fun decoder =>
      keeps_pure fun planted made => ItemMatches.intro found made

theorem keeps_getTupleFieldDecoder {typeDef : Si1TypeDef} {items : List Si1LookupTypeID}
    (shape : typeDef.shape = .tuple (some items)) (fieldName : String) :
    Keeps metadata overrides base (getTupleFieldDecoder metadata getDecoder fieldName items)
      fun planted decoder => Matches metadata overrides planted typeDef decoder :=
  (keeps_mapM (keeps_getTupleItem keeps) items.zipIdx).bind fun _ =>
    keeps_pure fun _ each => .tuple shape (List.forall₂_map_left_iff.mpr each)

end Given

/-- Every decoder that the traversal builds has the structure of its type. -/
theorem keeps_getFieldDecoder (fuel : Nat) (fieldName : String) (typeDef : Si1TypeDef) :
    Keeps metadata overrides base (getFieldDecoder metadata fuel fieldName typeDef)
      fun planted decoder => Matches metadata overrides planted typeDef decoder := by
  induction fuel generalizing fieldName typeDef with
  | zero =>
      intro before built after run
      cases run
  | succ fuel ih =>
      unfold getFieldDecoder
      split
      · rename_i id shape
        split
        · exact keeps_fail _
        · rename_i type found
          exact keeps_ofOutcome fun decoder built planted =>
            .compact shape found (getCompactFieldDecoder_matches built)
      · rename_i parts shape
        exact ((keeps_getTypeFields ih parts).mapError _).bind fun fields =>
          keeps_pure fun planted each => .composite shape each
      · rename_i variants shape
        exact keeps_getVariantFieldDecoder ih shape
      · rename_i primitive shape
        refine keeps_ofOutcome fun decoder built planted => ?_
        unfold getPrimitiveDecoder at built
        split at built
        · rename_i kind known
          cases built
          exact .primitive shape known
        · cases built
      · rename_i len id shape
        split
        · exact keeps_fail _
        · rename_i type found
          exact ((ih _ _).mapError _).bind fun item =>
            keeps_pure fun planted made => .array shape found made
      · rename_i id shape
        split
        · exact keeps_fail _
        · rename_i type found
          exact ((ih _ _).mapError _).bind fun item =>
            keeps_pure fun planted made => .sequence shape found made
      · rename_i shape
        exact keeps_pure fun planted => .emptyTuple shape
      · rename_i items shape
        exact keeps_getTupleFieldDecoder ih shape fieldName
      · rename_i storeType orderType shape
        refine keeps_ofOutcome fun decoder built planted => ?_
        obtain ⟨bitOrder, supported, rfl⟩ := getBitSequenceDecoder_eq_ok built
        exact .bitSequence shape supported
      · exact keeps_fail _

end Builders

/-! ## Registries -/

section Registries

variable {κ : Type} (kind : RegistryKind κ) (metadata : MetadataV14)
  (overrides : Int64 → Option FieldDecoder) (planted : Int64 → Nat → Prop)

/-- The registry entry of a variant. -/
def EntryMatches (pallet : PalletMetadataV14) (variant : Si1Variant) (entry : κ × TypeDecoder) :
    Prop :=
  entry.1 = kind.key pallet.index variant.index ∧ entry.2.name = pallet.name ++ "." ++ variant.name ∧
    List.Forall₂ (FieldMatches metadata overrides planted) (fieldParts variant.fields) entry.2.fields

/-- The variant is one of the entries of the pallet. -/
def IsEntry (pallet : PalletMetadataV14) (variant : Si1Variant) : Prop :=
  ∃ id type, kind.variantType pallet = some id ∧ metadata.efficientLookup id.int64 = some type ∧
    type.typeDef.isVariant = true ∧ variant ∈ type.typeDef.variant

/-- The variants of a pallet's type, none if the pallet has no such type. -/
def palletVariants (pallet : PalletMetadataV14) : List Si1Variant :=
  match kind.variantType pallet with
  | none => []
  | some id =>
      match metadata.efficientLookup id.int64 with
      | none => []
      | some type => if type.typeDef.isVariant then type.typeDef.variant else []

theorem mem_palletVariants {pallet : PalletMetadataV14} {variant : Si1Variant} :
    variant ∈ palletVariants kind metadata pallet ↔ IsEntry kind metadata pallet variant := by
  unfold palletVariants IsEntry
  cases selected : kind.variantType pallet with
  | none => simp
  | some id =>
      cases found : metadata.efficientLookup id.int64 with
      | none => simp [found]
      | some type => cases flag : type.typeDef.isVariant <;> simp [found, flag]

variable {overrides} {base : Nat}

theorem keeps_createEntry (fuel : Nat) (pallet : PalletMetadataV14) (variant : Si1Variant) :
    Keeps metadata overrides base (createEntry kind metadata fuel pallet variant)
      fun planted entry => EntryMatches kind metadata overrides planted pallet variant entry :=
  ((keeps_getTypeFields (keeps_getFieldDecoder fuel) variant.fields).mapError _).bind fun _ =>
    keeps_pure fun _ each => ⟨rfl, rfl, each⟩

theorem keeps_createPallet (fuel : Nat) (pallet : PalletMetadataV14) :
    Keeps metadata overrides base (createPallet kind metadata fuel pallet) fun planted entries =>
      List.Forall₂ (EntryMatches kind metadata overrides planted pallet)
        (palletVariants kind metadata pallet) entries := by
  cases selected : kind.variantType pallet with
  | none =>
      simp only [createPallet, palletVariants, selected]
      exact keeps_pure fun planted => .nil
  | some id =>
      cases found : metadata.efficientLookup id.int64 with
      | none =>
          simp only [createPallet, selected, found]
          exact keeps_fail _
      | some type =>
          simp only [createPallet, palletVariants, selected, found]
          split_ifs
          · exact keeps_mapM (keeps_createEntry kind metadata fuel pallet) _
          · exact keeps_fail _

/-- Right after `resetStorages` no cell stands for anything. -/
theorem not_standsFor_resetStorages {factory : Factory} {index : Int64} {cell : Nat} :
    ¬ StandsFor (overrideStorage factory.fieldOverrides) (resetStorages factory) index cell := by
  rintro ⟨free, stored | noted⟩
  · rw [show overrideStorage factory.fieldOverrides index = _ from stored] at free
    cases free
  · cases noted

theorem invariant_resetStorages (factory : Factory) :
    Invariant metadata (overrideStorage factory.fieldOverrides) factory.cells.length
      (resetStorages factory) where
  kept := fun _ _ overridden => overridden
  stored := fun index decoder free stored => by
    rw [show overrideStorage factory.fieldOverrides index = some decoder from stored] at free
    cases free
  noted := fun _ _ noted => by cases noted
  cell := fun _ _ standing => absurd standing not_standsFor_resetStorages
  same_cell := fun _ _ _ standing => absurd standing not_standsFor_resetStorages
  same_index := fun _ _ _ standing => absurd standing not_standsFor_resetStorages
  size := le_rfl

/-- The state and the registry after all pallets have been walked. -/
structure Traversed (before after : Factory) (registry : TypeRegistry κ) : Prop where
  invariant : Invariant metadata (overrideStorage before.fieldOverrides) before.cells.length after
  /-- No type is half built any more. -/
  finished : ∀ index decoder, overrideStorage before.fieldOverrides index = none →
    after.fieldStorage index = some decoder →
      Closed metadata (overrideStorage before.fieldOverrides) after index decoder
  /-- Every pallet has its entries, the last pallet's last entry first. -/
  entries : ∃ entries, registry = entries.flatten.reverse ∧
    List.Forall₂ (fun pallet => List.Forall₂
      (EntryMatches kind metadata (overrideStorage before.fieldOverrides) after.Noted pallet)
      (palletVariants kind metadata pallet)) metadata.pallets entries

theorem traverse_traversed {fuel : Nat} {before after : Factory} {registry : TypeRegistry κ}
    (run : traverse kind metadata fuel before = .ok (registry, after)) :
    Traversed kind metadata before after registry := by
  obtain ⟨entries, middle, walked, returned⟩ := Build.bind_eq_ok.mp run
  obtain ⟨rfl, rfl⟩ := Build.pure_eq_ok.mp returned
  obtain ⟨invariant, extended, made⟩ :=
    keeps_mapM (keeps_createPallet kind metadata fuel) metadata.pallets _ entries middle walked
      (invariant_resetStorages metadata before)
  exact ⟨invariant, extended.fresh, entries, rfl, made _ fun _ _ noted => noted⟩

end Registries

end SubstrateClient.Registry
