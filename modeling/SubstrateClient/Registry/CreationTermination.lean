import Mathlib.Data.FinEnum
import Mathlib.Data.Set.Card
import Mathlib.Tactic.FinCases
import SubstrateClient.PathBounds
import SubstrateClient.Registry.Factory

/-!
# Termination of registry creation

The factory walks a graph of types that may have cycles.  A field whose type is being built is cut off
by the field storage; the elements of sequences, arrays, tuples and compact types are walked each time
they are met.  The depth of the walk is bounded by the number of types without an entry in the field
storage, and between two new entries by the length of the paths that the storage does not guard.
-/

namespace SubstrateClient.Registry

open PathBounds Scale SubstrateClient.Types

/-! ## The walk -/

/-- A call of `getFieldDecoder` or of `getCompactFieldDecoder`, on the type of a lookup index. -/
inductive Visit where
  | plain (index : Int64)
  | compact (index : Int64)

instance : Finite Visit :=
  Finite.of_surjective (Sum.elim Visit.plain Visit.compact) fun visit => by
    cases visit with
    | plain index => exact ⟨.inl index, rfl⟩
    | compact index => exact ⟨.inr index, rfl⟩

/-- The references that are followed without a look into the field storage: the elements of sequences,
arrays, tuples and compact types, and underneath a compact also the fields of composites. -/
inductive Unguarded (metadata : MetadataV14) : Visit → Visit → Prop
  | array {index : Int64} {type : Si1Type} {len : UInt32} {id : Si1LookupTypeID}
      (found : metadata.efficientLookup index = some type)
      (shape : type.typeDef.shape = .array len id) :
      Unguarded metadata (.plain index) (.plain id.int64)
  | sequence {index : Int64} {type : Si1Type} {id : Si1LookupTypeID}
      (found : metadata.efficientLookup index = some type)
      (shape : type.typeDef.shape = .sequence id) :
      Unguarded metadata (.plain index) (.plain id.int64)
  | tuple {index : Int64} {type : Si1Type} {items : List Si1LookupTypeID} {id : Si1LookupTypeID}
      (found : metadata.efficientLookup index = some type)
      (shape : type.typeDef.shape = .tuple (some items)) (member : id ∈ items) :
      Unguarded metadata (.plain index) (.plain id.int64)
  | compact {index : Int64} {type : Si1Type} {id : Si1LookupTypeID}
      (found : metadata.efficientLookup index = some type)
      (shape : type.typeDef.shape = .compact id) :
      Unguarded metadata (.plain index) (.compact id.int64)
  | compactTuple {index : Int64} {type : Si1Type} {items : List Si1LookupTypeID}
      {id : Si1LookupTypeID} (found : metadata.efficientLookup index = some type)
      (shape : type.typeDef.compactShape = .tuple (some items)) (member : id ∈ items) :
      Unguarded metadata (.compact index) (.compact id.int64)
  | compactComposite {index : Int64} {type : Si1Type} {fields : List Si1Field} {field : Si1Field}
      (found : metadata.efficientLookup index = some type)
      (shape : type.typeDef.compactShape = .composite fields) (member : field ∈ fields) :
      Unguarded metadata (.compact index) (.compact field.lookupIndex)

/-- No infinite path consists of unguarded references only. -/
def Grounded (metadata : MetadataV14) : Prop :=
  ¬ ∃ path : Nat → Visit, (∃ index, path 0 = .plain index) ∧
    ∀ step, Unguarded metadata (path step) (path (step + 1))

/-- Without infinite paths the unguarded paths have a common bound. -/
theorem Grounded.exists_bound {metadata : MetadataV14} (grounded : Grounded metadata) :
    ∃ width, ∀ index, PathsWithin (Unguarded metadata) width (.plain index) := by
  obtain ⟨width, within⟩ := exists_common_bound (Unguarded metadata)
  refine ⟨width, fun index => within _ (acc_of_no_infinite_path ?_)⟩
  rintro ⟨path, start, steps⟩
  exact grounded ⟨path, ⟨index, start⟩, steps⟩

/-- The compact builder returns with as much fuel as its paths are long. -/
theorem returns_getCompactFieldDecoder {metadata : MetadataV14} {fuel bound : Nat} {index : Int64}
    {type : Si1Type} (within : PathsWithin (Unguarded metadata) bound (.compact index))
    (found : metadata.efficientLookup index = some type) (enough : bound ≤ fuel)
    (fieldName : String) : (getCompactFieldDecoder metadata fuel fieldName type.typeDef).Returns := by
  induction fuel generalizing bound index type fieldName with
  | zero =>
      obtain rfl := Nat.le_zero.mp enough
      exact within.elim
  | succ fuel ih =>
      unfold getCompactFieldDecoder
      split
      · exact Outcome.returns_ok _
      · exact Outcome.returns_ok _
      · rename_i items shape
        refine Outcome.returns_bind.mpr ⟨Outcome.returns_mapM fun entry member => ?_, fun fields _ =>
          Outcome.returns_ok _⟩
        unfold getCompactTupleItem
        dsimp only
        split
        · exact Outcome.returns_error _
        · rename_i itemType item_found
          obtain ⟨smaller, rfl, item_within⟩ := within.next
            (.compactTuple found shape (List.fst_mem_of_mem_zipIdx member))
          refine Outcome.returns_bind.mpr ⟨Outcome.returns_mapError.mpr ?_, fun decoder _ =>
            Outcome.returns_ok _⟩
          exact ih item_within item_found (Nat.le_of_succ_le_succ enough) _
      · rename_i fields shape
        refine Outcome.returns_bind.mpr ⟨Outcome.returns_mapM fun field member => ?_, fun fields _ =>
          Outcome.returns_ok _⟩
        unfold getCompactCompositeField
        split
        · exact Outcome.returns_error _
        · rename_i fieldType field_found
          obtain ⟨smaller, rfl, field_within⟩ := within.next (.compactComposite found shape member)
          refine Outcome.returns_bind.mpr ⟨Outcome.returns_mapError.mpr ?_, fun decoder _ =>
            Outcome.returns_ok _⟩
          exact ih field_within field_found (Nat.le_of_succ_le_succ enough) _
      · exact Outcome.returns_error _

theorem returns_getBitSequenceDecoder (metadata : MetadataV14) (fieldName : String)
    (bitStoreType bitOrderType : Si1LookupTypeID) :
    (getBitSequenceDecoder metadata fieldName bitStoreType bitOrderType).Returns := by
  unfold getBitSequenceDecoder
  split
  · exact Outcome.returns_error _
  · split_ifs
    · exact Outcome.returns_error _
    · split
      · exact Outcome.returns_error _
      · refine Outcome.returns_bind.mpr ⟨Outcome.returns_mapError.mpr ?_, fun _ _ =>
          Outcome.returns_ok _⟩
        unfold newBitOrderFromString
        split_ifs
        · exact Outcome.returns_ok _
        · exact Outcome.returns_ok _
        · exact Outcome.returns_error _

/-! ## Rules for builders -/

section Rules

variable (metadata : MetadataV14)

/-- The types that have no entry in the field storage. -/
def Factory.missing (factory : Factory) : Set Int64 :=
  {index | (metadata.efficientLookup index).isSome = true ∧ factory.fieldStorage index = none}

variable {α β : Type}

/-- With at most `budget` types missing the step returns, and no more types are missing afterwards. -/
def Ends (budget : Nat) (build : Build α) : Prop :=
  ∀ before : Factory, (before.missing metadata).ncard ≤ budget →
    (build before).Returns ∧ ∀ value after, build before = .ok (value, after) →
      (after.missing metadata).ncard ≤ budget

variable {metadata} {budget : Nat}

theorem ends_pure (value : α) : Ends metadata budget (pure value) := by
  intro before few
  refine ⟨Outcome.returns_ok _, fun result after run => ?_⟩
  obtain ⟨_, rfl⟩ := Build.pure_eq_ok.mp run
  exact few

theorem ends_fail (reason : GoError) : Ends metadata budget (Build.fail reason : Build α) :=
  fun _ _ => ⟨Outcome.returns_error reason, fun _ _ run => by cases run⟩

theorem ends_ofOutcome {run : Outcome GoError α} (returns : run.Returns) :
    Ends metadata budget (Build.ofOutcome run) := by
  intro before few
  refine ⟨Outcome.returns_bind.mpr ⟨returns, fun value _ => Outcome.returns_ok _⟩, ?_⟩
  intro value after ran
  obtain ⟨_, rfl⟩ := Build.ofOutcome_eq_ok.mp ran
  exact few

theorem Ends.mapError {build : Build α} (ends : Ends metadata budget build)
    (rewrite : GoError → GoError) : Ends metadata budget (build.mapError rewrite) := by
  intro before few
  obtain ⟨returns, after_few⟩ := ends before few
  exact ⟨Outcome.returns_mapError.mpr returns, fun value after run =>
    after_few value after (Build.mapError_eq_ok.mp run)⟩

theorem Ends.bind {build : Build α} {next : α → Build β} (first : Ends metadata budget build)
    (second : ∀ value, Ends metadata budget (next value)) :
    Ends metadata budget (build >>= next) := by
  intro before few
  obtain ⟨returns, middle_few⟩ := first before few
  constructor
  · refine Outcome.returns_bind.mpr ⟨returns, fun result run => ?_⟩
    exact (second result.1 result.2 (middle_few result.1 result.2 run)).1
  · intro value after run
    obtain ⟨result, middle, ran, continued⟩ := Build.bind_eq_ok.mp run
    exact (second result middle (middle_few result middle ran)).2 value after continued

/-- A loop ends when each of its rounds does. -/
theorem ends_mapM {step : α → Build β} {entries : List α}
    (each : ∀ entry ∈ entries, Ends metadata budget (step entry)) :
    Ends metadata budget (entries.mapM step) := by
  induction entries with
  | nil => exact ends_pure []
  | cons entry entries ih =>
      rw [List.mapM_cons]
      refine (each entry List.mem_cons_self).bind fun value => ?_
      exact (ih fun other member => each other (List.mem_cons_of_mem _ member)).bind fun values =>
        ends_pure _

/-! ## Changes of the field storage -/

variable {factory : Factory} {index : Int64}

theorem missing_noteRecursive (stored : FieldDecoder) :
    (noteRecursive index stored factory).missing metadata = factory.missing metadata := by
  cases stored <;> rfl

theorem missing_of_update {after : Factory} {entry : FieldDecoder}
    (storage : after.fieldStorage = Function.update factory.fieldStorage index (some entry)) :
    after.missing metadata = factory.missing metadata \ {index} := by
  ext other
  by_cases same : other = index
  · subst same
    simp [Factory.missing, storage]
  · simp [Factory.missing, storage, same]

/-- A planted recursive decoder takes a type off the missing ones. -/
theorem missing_plantRecursive {type : Si1Type}
    (found : metadata.efficientLookup index = some type)
    (empty : factory.fieldStorage index = none) :
    ((plantRecursive index factory).missing metadata).ncard + 1 =
      (factory.missing metadata).ncard := by
  have member : index ∈ factory.missing metadata := ⟨by rw [found]; rfl, empty⟩
  rw [missing_of_update rfl]
  exact Set.ncard_sdiff_singleton_add_one member

theorem ends_storeFieldDecoder (index : Int64) (decoder : FieldDecoder) :
    Ends metadata budget (storeFieldDecoder index decoder) := by
  intro before few
  refine ⟨Outcome.returns_ok _, fun value after run => ?_⟩
  cases run
  rw [missing_of_update rfl]
  exact (Set.ncard_sdiff_singleton_le _ _).trans few

end Rules

/-! ## The builders -/

section Builders

variable {metadata : MetadataV14} {budget : Nat}

/-- With one type less missing, the types are built to the end. -/
def EndsBelow (metadata : MetadataV14) (budget : Nat)
    (getDecoder : String → Si1TypeDef → Build FieldDecoder) : Prop :=
  ∀ smaller, budget = smaller + 1 → ∀ index type fieldName,
    metadata.efficientLookup index = some type →
      Ends metadata smaller (getDecoder fieldName type.typeDef)

/-- A field that is stored ends at once; otherwise its type is built with one type less missing. -/
theorem ends_getTypeField {getDecoder : String → Si1TypeDef → Build FieldDecoder}
    (each : EndsBelow metadata budget getDecoder) (field : Si1Field) :
    Ends metadata budget (getTypeField metadata getDecoder field) := by
  unfold getTypeField
  split
  · exact ends_fail _
  · rename_i type found
    intro before few
    dsimp only
    cases present : before.fieldStorage field.lookupIndex with
    | some stored =>
        have lookup : getStoredFieldDecoder field.lookupIndex before =
            .ok (some stored, noteRecursive field.lookupIndex stored before) := by
          simp only [getStoredFieldDecoder, present]
        rw [Build.bind_of_ok lookup]
        refine ⟨Outcome.returns_ok _, fun value after run => ?_⟩
        obtain ⟨_, rfl⟩ := Build.pure_eq_ok.mp run
        rw [missing_noteRecursive]
        exact few
    | none =>
        have lookup : getStoredFieldDecoder field.lookupIndex before =
            .ok (none, plantRecursive field.lookupIndex before) := by
          simp only [getStoredFieldDecoder, present]
        have taken := missing_plantRecursive found present
        obtain ⟨smaller, rfl⟩ : ∃ smaller, budget = smaller + 1 :=
          Nat.exists_eq_add_of_le' (by omega : 1 ≤ budget)
        rw [Build.bind_of_ok lookup]
        have build := ((each smaller rfl _ type (getFullFieldName field type) found).mapError
          (.wrap (.withMsg errFieldDecoderRetrieval (getFullFieldName field type)))).bind
          fun decoder => (ends_storeFieldDecoder field.lookupIndex decoder).bind fun _ =>
            ends_pure (⟨getFullFieldName field type, decoder, field.lookupIndex⟩ : Field FieldDecoder)
        obtain ⟨returns, after_few⟩ := build (plantRecursive field.lookupIndex before) (by omega)
        exact ⟨returns, fun value after run => (after_few value after run).trans (Nat.le_succ _)⟩

theorem ends_getTypeFields {getDecoder : String → Si1TypeDef → Build FieldDecoder}
    (each : EndsBelow metadata budget getDecoder) (fields : List Si1Field) :
    Ends metadata budget (getTypeFields metadata getDecoder fields) :=
  ends_mapM fun field _ => ends_getTypeField each field

theorem ends_getVariantFieldDecoder {getDecoder : String → Si1TypeDef → Build FieldDecoder}
    (each : EndsBelow metadata budget getDecoder) (variants : List Si1Variant) :
    Ends metadata budget (getVariantFieldDecoder metadata getDecoder variants) := by
  refine (ends_mapM fun entry _ => ?_).bind fun entries => ends_pure _
  unfold getVariantEntry
  split_ifs
  · exact ends_pure _
  · exact ((ends_getTypeFields each entry.1.fields).mapError _).bind fun fields => ends_pure _

/-- The walk from a type is as deep as its unguarded paths, and once as deep as any of them for each
type that is missing in the field storage. -/
theorem ends_getFieldDecoder {width : Nat}
    (widest : ∀ index, PathsWithin (Unguarded metadata) width (.plain index)) {fuel bound : Nat}
    {index : Int64} {type : Si1Type}
    (within : PathsWithin (Unguarded metadata) bound (.plain index))
    (found : metadata.efficientLookup index = some type) (enough : budget * width + bound ≤ fuel)
    (fieldName : String) :
    Ends metadata budget (getFieldDecoder metadata fuel fieldName type.typeDef) := by
  induction fuel generalizing budget bound index type fieldName with
  | zero =>
      obtain rfl : bound = 0 := by omega
      exact within.elim
  | succ fuel ih =>
      obtain ⟨rest, rfl⟩ := within.exists_eq_succ
      -- A new entry of the storage pays for a whole unguarded path.
      have guarded : EndsBelow metadata budget (getFieldDecoder metadata fuel) := by
        intro smaller one_less index type fieldName found
        refine ih (widest index) found ?_ fieldName
        have paid : budget * width = smaller * width + width := by rw [one_less, Nat.succ_mul]
        omega
      have unguarded (next : Int64) (type : Si1Type) (fieldName : String)
          (step : Unguarded metadata (.plain index) (.plain next))
          (found : metadata.efficientLookup next = some type) :
          Ends metadata budget (getFieldDecoder metadata fuel fieldName type.typeDef) :=
        ih (within _ step) found (by omega) fieldName
      unfold getFieldDecoder
      split
      · rename_i id shape
        split
        · exact ends_fail _
        · rename_i innerType inner_found
          exact ends_ofOutcome (returns_getCompactFieldDecoder (within _ (.compact found shape))
            inner_found (by omega) fieldName)
      · exact ((ends_getTypeFields guarded _).mapError _).bind fun fields => ends_pure _
      · exact ends_getVariantFieldDecoder guarded _
      · refine ends_ofOutcome ?_
        unfold getPrimitiveDecoder
        split
        · exact Outcome.returns_ok _
        · exact Outcome.returns_error _
      · rename_i len id shape
        split
        · exact ends_fail _
        · rename_i itemType item_found
          exact ((unguarded _ itemType fieldName (.array found shape) item_found).mapError _).bind
            fun item => ends_pure _
      · rename_i id shape
        split
        · exact ends_fail _
        · rename_i itemType item_found
          exact ((unguarded _ itemType fieldName (.sequence found shape) item_found).mapError _).bind
            fun item => ends_pure _
      · exact ends_pure _
      · rename_i items shape
        refine (ends_mapM fun entry member => ?_).bind fun fields => ends_pure _
        unfold getTupleItem
        split
        · exact ends_fail _
        · rename_i itemType item_found
          have step := Unguarded.tuple found shape (List.fst_mem_of_mem_zipIdx member)
          exact ((unguarded _ itemType _ step item_found).mapError _).bind fun decoder => ends_pure _
      · exact ends_ofOutcome (returns_getBitSequenceDecoder _ _ _ _)
      · exact ends_fail _

end Builders

/-! ## Registries -/

section Registries

variable {κ : Type} (kind : RegistryKind κ) {metadata : MetadataV14}

theorem ends_createPallet {width fuel budget : Nat}
    (widest : ∀ index, PathsWithin (Unguarded metadata) width (.plain index))
    (enough : budget * width ≤ fuel) (pallet : PalletMetadataV14) :
    Ends metadata budget (createPallet kind metadata fuel pallet) := by
  have guarded : EndsBelow metadata budget (getFieldDecoder metadata fuel) := by
    intro smaller one_less index type fieldName found
    refine ends_getFieldDecoder widest (widest index) found ?_ fieldName
    rwa [one_less, Nat.succ_mul] at enough
  unfold createPallet
  split
  · exact ends_pure _
  · dsimp only
    split
    · exact ends_fail _
    · split_ifs
      · refine ends_mapM fun variant _ => ?_
        exact ((ends_getTypeFields guarded variant.fields).mapError _).bind fun fields => ends_pure _
      · exact ends_fail _

theorem returns_resolveEntries (entries : List (Int64 × Nat)) (factory : Factory) :
    (resolveEntries entries factory).Returns := by
  induction entries generalizing factory with
  | nil => exact Outcome.returns_ok _
  | cons entry entries ih =>
      refine Outcome.returns_bind.mpr ⟨?_, fun result _ => ih result.2⟩
      unfold resolveRecursiveDecoder
      dsimp only
      split_ifs
      · split
        · exact Outcome.returns_error _
        · split_ifs
          · exact Outcome.returns_error _
          · exact Outcome.returns_ok _
      · exact Outcome.returns_ok _

variable (metadata)

/-- If every infinite path of references passes through the field storage, registry creation returns:
the walk is never deeper than the types are many, times the length of an unguarded path. -/
theorem createRegistry_terminates (grounded : Grounded metadata) :
    ∃ bound, ∀ fuel, bound ≤ fuel → ∀ mapOrder factory,
      (createRegistry kind metadata mapOrder fuel factory).Returns := by
  obtain ⟨width, widest⟩ := grounded.exists_bound
  refine ⟨{index | (metadata.efficientLookup index).isSome = true}.ncard * width, ?_⟩
  intro fuel enough mapOrder factory
  have few : ((resetStorages factory).missing metadata).ncard ≤
      {index | (metadata.efficientLookup index).isSome = true}.ncard :=
    Set.ncard_le_ncard fun index missing => missing.1
  have walk := (ends_mapM fun pallet (_ : pallet ∈ metadata.pallets) =>
    ends_createPallet kind widest enough pallet).bind fun entries =>
      ends_pure (entries.flatten.reverse : TypeRegistry κ)
  refine Outcome.returns_bind.mpr ⟨(walk _ few).1, fun result _ => ?_⟩
  refine Outcome.returns_bind.mpr ⟨Outcome.returns_mapError.mpr ?_, fun _ _ => Outcome.returns_ok _⟩
  exact returns_resolveEntries _ _

end Registries

/-- A call `plant(tree)` over trees with any number of branches. -/
def roseMetadata : MetadataV14 where
  pallets := [⟨"Garden", true, (3 : Int), false, (0 : Int), false, (0 : Int), 4⟩]
  efficientLookup := toMap
    [⟨(1 : Int), ["Rose"], { isComposite := true, composite :=
        [⟨true, "branches", (2 : Int), false, ""⟩] }⟩,
      ⟨(2 : Int), [], { isSequence := true, sequence := (1 : Int) }⟩,
      ⟨(3 : Int), ["Call"], { isVariant := true, variant :=
        [⟨"plant", [⟨true, "tree", (1 : Int), false, ""⟩], 0⟩] }⟩]

/-- The only unguarded reference is the one from a sequence of trees to a tree. -/
theorem unguarded_roseMetadata {index : Int64} {next : Visit}
    (step : Unguarded roseMetadata (.plain index) next) : index = 2 ∧ next = .plain 1 := by
  have key {type : Si1Type} (found : roseMetadata.efficientLookup index = some type)
      (unlike : ∀ fields, type.typeDef.shape ≠ .composite fields)
      (differs : ∀ variants, type.typeDef.shape ≠ .variant variants) :
      index = 2 ∧ type.typeDef.shape = .sequence (1 : Int) := by
    obtain ⟨portable, member, same, rfl⟩ := exists_portable_of_toMap found
    fin_cases member
    · exact absurd rfl (unlike _)
    · exact ⟨same.symm, rfl⟩
    · exact absurd rfl (differs _)
  cases step with
  | sequence found shape =>
      obtain ⟨same, plain⟩ := key found (by simp [shape]) (by simp [shape])
      rw [shape] at plain
      cases plain
      exact ⟨same, rfl⟩
  | array found shape | tuple found shape | compact found shape =>
      obtain ⟨_, plain⟩ := key found (by simp [shape]) (by simp [shape])
      rw [shape] at plain
      cases plain

theorem createRegistry_terminates_rose :
    Grounded roseMetadata ∧ ∃ bound, ∀ fuel, bound ≤ fuel → ∀ mapOrder factory,
      (createRegistry callKind roseMetadata mapOrder fuel factory).Returns := by
  have grounded : Grounded roseMetadata := by
    rintro ⟨path, ⟨index, start⟩, steps⟩
    obtain ⟨_, first⟩ := unguarded_roseMetadata (start ▸ steps 0)
    obtain ⟨second, _⟩ := unguarded_roseMetadata (first ▸ steps 1)
    cases second
  exact ⟨grounded, createRegistry_terminates callKind roseMetadata grounded⟩

end SubstrateClient.Registry
