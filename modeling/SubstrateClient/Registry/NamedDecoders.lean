import SubstrateClient.Registry.Traversal

/-!
# Names in decoders

A decoder of a composite or of a bit sequence carries the name of the field it was built for, and the
field storage hands it on to every later field of the same type.  `Named` says which names a decoder
carries when the fields in it have the decoders of the finished storage.
-/

namespace SubstrateClient.Registry

open Scale SubstrateClient.Types

/-! ## The fields that are walked -/

section Walk

variable {κ : Type} (kind : RegistryKind κ) (metadata : MetadataV14)

mutual

/-- `getTypeFields` is called on the field: it belongs to an entry of the registry, or to a composite
or a variant that is walked. -/
inductive VisitedField : Si1Field → Prop
  | entry {pallet : PalletMetadataV14} {variant : Si1Variant} {field : Si1Field}
      (pallet_member : pallet ∈ metadata.pallets)
      (is_entry : variant ∈ palletVariants kind metadata pallet) (member : field ∈ variant.fields) :
      VisitedField field
  | composite {typeDef : Si1TypeDef} {fields : List Si1Field} {field : Si1Field}
      (walked : Walked typeDef) (shape : typeDef.shape = .composite fields)
      (member : field ∈ fields) : VisitedField field
  | variant {typeDef : Si1TypeDef} {variants : List Si1Variant} {variant : Si1Variant}
      {field : Si1Field} (walked : Walked typeDef) (shape : typeDef.shape = .variant variants)
      (variant_member : variant ∈ variants) (member : field ∈ variant.fields) : VisitedField field

/-- `getFieldDecoder` is called on the type definition, or would be if its decoder were not stored. -/
inductive Walked : Si1TypeDef → Prop
  | field {field : Si1Field} {type : Si1Type} (visited : VisitedField field)
      (found : metadata.efficientLookup field.lookupIndex = some type) : Walked type.typeDef
  | array {typeDef : Si1TypeDef} {len : UInt32} {id : Si1LookupTypeID} {type : Si1Type}
      (walked : Walked typeDef) (shape : typeDef.shape = .array len id)
      (found : metadata.efficientLookup id.int64 = some type) : Walked type.typeDef
  | sequence {typeDef : Si1TypeDef} {id : Si1LookupTypeID} {type : Si1Type}
      (walked : Walked typeDef) (shape : typeDef.shape = .sequence id)
      (found : metadata.efficientLookup id.int64 = some type) : Walked type.typeDef
  | tuple {typeDef : Si1TypeDef} {items : List Si1LookupTypeID} {id : Si1LookupTypeID}
      {type : Si1Type} (walked : Walked typeDef) (shape : typeDef.shape = .tuple (some items))
      (member : id ∈ items) (found : metadata.efficientLookup id.int64 = some type) :
      Walked type.typeDef

end

end Walk

/-! ## Decoders over a field storage -/

section Names

variable (metadata : MetadataV14) (stored : Int64 → Option FieldDecoder)

/-- What `getTypeFields` makes of a field: its own name, with the decoder that is stored for its type
or with a recursive decoder that stood for it at the time. -/
inductive FieldNamed : Si1Field → Field FieldDecoder → Prop
  | shared {field : Si1Field} {type : Si1Type} {decoder : FieldDecoder}
      (found : metadata.efficientLookup field.lookupIndex = some type)
      (held : stored field.lookupIndex = some decoder) (finished : decoder.isRecursive = false) :
      FieldNamed field ⟨getFullFieldName field type, decoder, field.lookupIndex⟩
  | cut {field : Si1Field} {type : Si1Type} {cell : Nat}
      (found : metadata.efficientLookup field.lookupIndex = some type) :
      FieldNamed field ⟨getFullFieldName field type, .recursive cell, field.lookupIndex⟩

/-- What `getVariantFieldDecoder` makes of a variant and its position. -/
inductive VariantNamed : Si1Variant × Nat → UInt8 × FieldDecoder → Prop
  | empty {entry : Si1Variant × Nat} (bare : entry.1.fields = []) :
      VariantNamed entry (entry.1.index, .noop)
  | fields {entry : Si1Variant × Nat} {fields : List (Field FieldDecoder)}
      (each : List.Forall₂ (FieldNamed metadata stored) entry.1.fields fields) :
      VariantNamed entry (entry.1.index, .composite (variantItemFieldName entry.2) fields)

mutual

/-- What `getFieldDecoder` makes of a type definition under a name. -/
inductive Named : String → Si1TypeDef → FieldDecoder → Prop
  | compact {name : String} {typeDef : Si1TypeDef} {id : Si1LookupTypeID} {type : Si1Type}
      {decoder : FieldDecoder} (shape : typeDef.shape = .compact id)
      (found : metadata.efficientLookup id.int64 = some type)
      (inner : CompactMatches metadata type.typeDef decoder) : Named name typeDef decoder
  | composite {name : String} {typeDef : Si1TypeDef} {parts : List Si1Field}
      {fields : List (Field FieldDecoder)} (shape : typeDef.shape = .composite parts)
      (each : List.Forall₂ (FieldNamed metadata stored) parts fields) :
      Named name typeDef (.composite name fields)
  | variant {name : String} {typeDef : Si1TypeDef} {variants : List Si1Variant}
      {entries : List (UInt8 × FieldDecoder)} (shape : typeDef.shape = .variant variants)
      (each : List.Forall₂ (VariantNamed metadata stored) variants.zipIdx entries) :
      Named name typeDef (.variant entries.reverse)
  | primitive {name : String} {typeDef : Si1TypeDef} {primitive : UInt8} {kind : ValueKind}
      (shape : typeDef.shape = .primitive primitive) : Named name typeDef (.value kind)
  | array {name : String} {typeDef : Si1TypeDef} {len : UInt32} {id : Si1LookupTypeID}
      {type : Si1Type} {item : FieldDecoder} (shape : typeDef.shape = .array len id)
      (found : metadata.efficientLookup id.int64 = some type)
      (inner : Named name type.typeDef item) : Named name typeDef (.array len.toNat item)
  | sequence {name : String} {typeDef : Si1TypeDef} {id : Si1LookupTypeID} {type : Si1Type}
      {item : FieldDecoder} (shape : typeDef.shape = .sequence id)
      (found : metadata.efficientLookup id.int64 = some type)
      (inner : Named name type.typeDef item) : Named name typeDef (.slice item)
  | emptyTuple {name : String} {typeDef : Si1TypeDef} (shape : typeDef.shape = .tuple none) :
      Named name typeDef .noop
  | tuple {name : String} {typeDef : Si1TypeDef} {items : List Si1LookupTypeID}
      {fields : List (Field FieldDecoder)} (shape : typeDef.shape = .tuple (some items))
      (each : List.Forall₂ ItemNamed items.zipIdx fields) : Named name typeDef (.composite name fields)
  | bitSequence {name : String} {typeDef : Si1TypeDef} {storeType orderType : Si1LookupTypeID}
      {bitOrder : BitOrder} (shape : typeDef.shape = .bitSequence storeType orderType) :
      Named name typeDef (.bitSequence name bitOrder)

/-- What `getTupleFieldDecoder` makes of an item and its position. -/
inductive ItemNamed : Si1LookupTypeID × Nat → Field FieldDecoder → Prop
  | intro {entry : Si1LookupTypeID × Nat} {type : Si1Type} {decoder : FieldDecoder}
      (found : metadata.efficientLookup entry.1.int64 = some type)
      (inner : Named (tupleItemFieldName entry.2) type.typeDef decoder) :
      ItemNamed entry ⟨tupleItemFieldName entry.2, decoder, entry.1.int64⟩

end

variable {metadata stored}

theorem Named.isRecursive {name : String} {typeDef : Si1TypeDef} {decoder : FieldDecoder}
    (named : Named metadata stored name typeDef decoder) : decoder.isRecursive = false := by
  cases named with
  | compact shape found inner => exact inner.isRecursive
  | _ => rfl

section Shapes

variable {name : String} {typeDef : Si1TypeDef} {decoder : FieldDecoder}
  (named : Named metadata stored name typeDef decoder)

include named

theorem Named.of_composite {parts : List Si1Field} (shape : typeDef.shape = .composite parts) :
    ∃ fields, decoder = .composite name fields ∧
      List.Forall₂ (FieldNamed metadata stored) parts fields := by
  cases named with
  | composite other each =>
      rw [shape] at other
      cases other
      exact ⟨_, rfl, each⟩
  | _ => simp_all

theorem Named.of_variant {variants : List Si1Variant} (shape : typeDef.shape = .variant variants) :
    ∃ entries, decoder = .variant entries.reverse ∧
      List.Forall₂ (VariantNamed metadata stored) variants.zipIdx entries := by
  cases named with
  | variant other each =>
      rw [shape] at other
      cases other
      exact ⟨_, rfl, each⟩
  | _ => simp_all

theorem Named.of_array {len : UInt32} {id : Si1LookupTypeID} (shape : typeDef.shape = .array len id) :
    ∃ type item, metadata.efficientLookup id.int64 = some type ∧ decoder = .array len.toNat item ∧
      Named metadata stored name type.typeDef item := by
  cases named with
  | array other found inner =>
      rw [shape] at other
      cases other
      exact ⟨_, _, found, rfl, inner⟩
  | _ => simp_all

theorem Named.of_sequence {id : Si1LookupTypeID} (shape : typeDef.shape = .sequence id) :
    ∃ type item, metadata.efficientLookup id.int64 = some type ∧ decoder = .slice item ∧
      Named metadata stored name type.typeDef item := by
  cases named with
  | sequence other found inner =>
      rw [shape] at other
      cases other
      exact ⟨_, _, found, rfl, inner⟩
  | _ => simp_all

theorem Named.of_tuple {items : List Si1LookupTypeID} (shape : typeDef.shape = .tuple (some items)) :
    ∃ fields, decoder = .composite name fields ∧
      List.Forall₂ (ItemNamed metadata stored) items.zipIdx fields := by
  cases named with
  | tuple other each =>
      rw [shape] at other
      cases other
      exact ⟨_, rfl, each⟩
  | _ => simp_all

theorem Named.of_bitSequence {storeType orderType : Si1LookupTypeID}
    (shape : typeDef.shape = .bitSequence storeType orderType) :
    ∃ bitOrder, decoder = .bitSequence name bitOrder := by
  cases named with
  | bitSequence other => exact ⟨_, rfl⟩
  | _ => simp_all

end Shapes

end Names

/-! ## Rules for builders -/

section Rules

variable {κ : Type} (kind : RegistryKind κ) (metadata : MetadataV14)

/-- Finished entries of the storage stay as they are. -/
def Grown (stored later : Int64 → Option FieldDecoder) : Prop :=
  ∀ index decoder, stored index = some decoder → decoder.isRecursive = false →
    later index = some decoder

/-- Every finished entry was built for one of the fields of its type, and is what the builder makes of
the type under that field's name. -/
def Tabled (stored : Int64 → Option FieldDecoder) : Prop :=
  ∀ index decoder, stored index = some decoder → decoder.isRecursive = true ∨
    ∃ field type, VisitedField kind metadata field ∧ field.lookupIndex = index ∧
      metadata.efficientLookup index = some type ∧ ∀ later, Grown stored later →
        Named metadata later (getFullFieldName field type) type.typeDef decoder

variable {α β : Type}

/-- The builder keeps the storage in order, and its result satisfies `post` over every later storage. -/
def Tables (build : Build α) (post : (Int64 → Option FieldDecoder) → α → Prop) : Prop :=
  ∀ before value after, build before = .ok (value, after) → Tabled kind metadata before.fieldStorage →
    Tabled kind metadata after.fieldStorage ∧
      (∀ index decoder, before.fieldStorage index = some decoder →
        after.fieldStorage index = some decoder) ∧
      ∀ later, Grown after.fieldStorage later → post later value

variable {kind metadata}

theorem Grown.trans {first second third : Int64 → Option FieldDecoder} (left : Grown first second)
    (right : Grown second third) : Grown first third :=
  fun index decoder held finished => right index decoder (left index decoder held finished) finished

theorem grown_of_kept {stored later : Int64 → Option FieldDecoder}
    (kept : ∀ index decoder, stored index = some decoder → later index = some decoder) :
    Grown stored later :=
  fun index decoder held _ => kept index decoder held

/-- An entry that is empty or not finished may be filled. -/
theorem grown_update {stored : Int64 → Option FieldDecoder} {index : Int64}
    (free : ∀ decoder, stored index = some decoder → decoder.isRecursive = true)
    (entry : FieldDecoder) :
    Grown stored (Function.update stored index (some entry)) := by
  intro other decoder held finished
  have apart : other ≠ index := by
    rintro rfl
    rw [free decoder held] at finished
    cases finished
  rw [Function.update_of_ne apart]
  exact held

/-- Filling such an entry keeps the others in order. -/
theorem Tabled.update {stored : Int64 → Option FieldDecoder} {index : Int64} {entry : FieldDecoder}
    (tabled : Tabled kind metadata stored)
    (free : ∀ decoder, stored index = some decoder → decoder.isRecursive = true)
    (placed : entry.isRecursive = true ∨ ∃ field type, VisitedField kind metadata field ∧
      field.lookupIndex = index ∧ metadata.efficientLookup index = some type ∧
        ∀ later, Grown stored later →
          Named metadata later (getFullFieldName field type) type.typeDef entry) :
    Tabled kind metadata (Function.update stored index (some entry)) := by
  have grown := grown_update free entry
  intro other decoder held
  by_cases same : other = index
  · subst same
    rw [Function.update_self] at held
    cases held
    refine placed.imp_right fun ⟨field, type, visited, key, found, named⟩ => ?_
    exact ⟨field, type, visited, key, found, fun later rest => named later (grown.trans rest)⟩
  · rw [Function.update_of_ne same] at held
    refine (tabled other decoder held).imp_right fun ⟨field, type, visited, key, found, named⟩ => ?_
    exact ⟨field, type, visited, key, found, fun later rest => named later (grown.trans rest)⟩

theorem tables_pure {post : (Int64 → Option FieldDecoder) → α → Prop} {value : α}
    (holds : ∀ later, post later value) : Tables kind metadata (pure value) post := by
  intro before result after run tabled
  obtain ⟨rfl, rfl⟩ := Build.pure_eq_ok.mp run
  exact ⟨tabled, fun _ _ held => held, fun later _ => holds later⟩

theorem tables_fail {post : (Int64 → Option FieldDecoder) → α → Prop} (reason : GoError) :
    Tables kind metadata (Build.fail reason) post := by
  intro before result after run
  cases run

theorem tables_ofOutcome {post : (Int64 → Option FieldDecoder) → α → Prop}
    {run : Outcome GoError α} (holds : ∀ value, run = .ok value → ∀ later, post later value) :
    Tables kind metadata (Build.ofOutcome run) post := by
  intro before result after ran tabled
  obtain ⟨returned, rfl⟩ := Build.ofOutcome_eq_ok.mp ran
  exact ⟨tabled, fun _ _ held => held, fun later _ => holds result returned later⟩

theorem Tables.mapError {post : (Int64 → Option FieldDecoder) → α → Prop} {build : Build α}
    (tables : Tables kind metadata build post) (rewrite : GoError → GoError) :
    Tables kind metadata (build.mapError rewrite) post :=
  fun before value after run => tables before value after (Build.mapError_eq_ok.mp run)

theorem Tables.bind {build : Build α} {next : α → Build β}
    {middle : (Int64 → Option FieldDecoder) → α → Prop}
    {post : (Int64 → Option FieldDecoder) → β → Prop} (left : Tables kind metadata build middle)
    (right : ∀ value, Tables kind metadata (next value)
      fun later result => middle later value → post later result) :
    Tables kind metadata (build >>= next) post := by
  intro before result after run tabled
  obtain ⟨value, between, run_left, run_right⟩ := Build.bind_eq_ok.mp run
  obtain ⟨tabled, kept_left, holds_left⟩ := left before value between run_left tabled
  obtain ⟨tabled, kept_right, holds_right⟩ := right value between result after run_right tabled
  refine ⟨tabled, fun index decoder held =>
    kept_right index decoder (kept_left index decoder held), fun later grown => ?_⟩
  exact holds_right later grown (holds_left later ((grown_of_kept kept_right).trans grown))

/-- A loop keeps what each of its rounds keeps. -/
theorem tables_mapM {step : α → Build β} {related : (Int64 → Option FieldDecoder) → α → β → Prop}
    {entries : List α} (each : ∀ entry ∈ entries, Tables kind metadata (step entry)
      fun later value => related later entry value) :
    Tables kind metadata (entries.mapM step)
      fun later values => List.Forall₂ (related later) entries values := by
  induction entries with
  | nil => exact tables_pure fun later => .nil
  | cons entry entries ih =>
      rw [List.mapM_cons]
      have others := ih fun other member => each other (List.mem_cons_of_mem _ member)
      exact (each entry List.mem_cons_self).bind fun value => others.bind fun values =>
        tables_pure fun later rest first => .cons first rest

end Rules

/-! ## The builders -/

section Builders

variable {κ : Type} {kind : RegistryKind κ} {metadata : MetadataV14}

section Given

variable {getDecoder : String → Si1TypeDef → Build FieldDecoder}
  (tables : ∀ name typeDef, Walked kind metadata typeDef →
    Tables kind metadata (getDecoder name typeDef)
      fun later decoder => Named metadata later name typeDef decoder)

include tables

/-- A field on first sight: planted, built and stored. -/
theorem Tabled.build_field {before middle : Factory} {field : Si1Field} {type : Si1Type}
    {decoder : FieldDecoder} (tabled : Tabled kind metadata before.fieldStorage)
    (visited : VisitedField kind metadata field)
    (found : metadata.efficientLookup field.lookupIndex = some type)
    (missing : before.fieldStorage field.lookupIndex = none)
    (built : getDecoder (getFullFieldName field type) type.typeDef
      (plantRecursive field.lookupIndex before) = .ok (decoder, middle)) :
    Tabled kind metadata
        (Function.update middle.fieldStorage field.lookupIndex (some decoder)) ∧
      (∀ index stored, before.fieldStorage index = some stored →
        Function.update middle.fieldStorage field.lookupIndex (some decoder) index = some stored) ∧
      decoder.isRecursive = false := by
  have empty (stored : FieldDecoder) (held : before.fieldStorage field.lookupIndex = some stored) :
      stored.isRecursive = true := by
    rw [missing] at held
    cases held
  obtain ⟨middle_tabled, kept, named⟩ := tables _ _ (.field visited found) _ decoder middle built
    (tabled.update empty (.inl rfl))
  -- The planted decoder is still there, so the entry may be filled.
  have planted : middle.fieldStorage field.lookupIndex = some (.recursive before.cells.length) :=
    kept _ _ (Function.update_self _ _ _)
  have pending (stored : FieldDecoder) (held : middle.fieldStorage field.lookupIndex = some stored) :
      stored.isRecursive = true := by
    rw [planted] at held
    cases held
    rfl
  refine ⟨middle_tabled.update pending (.inr ⟨field, type, visited, rfl, found, named⟩), ?_,
    (named _ (grown_of_kept fun _ _ held => held)).isRecursive⟩
  intro index stored held
  have apart : index ≠ field.lookupIndex := by
    rintro rfl
    rw [missing] at held
    cases held
  rw [Function.update_of_ne apart]
  refine kept index stored ?_
  change Function.update before.fieldStorage field.lookupIndex _ index = _
  rw [Function.update_of_ne apart]
  exact held

theorem tables_getTypeField {field : Si1Field} (visited : VisitedField kind metadata field) :
    Tables kind metadata (getTypeField metadata getDecoder field)
      fun later built => FieldNamed metadata later field built := by
  intro before built after run tabled
  obtain ⟨type, found, ⟨decoder, present, rfl, rfl⟩ | ⟨present, decoder, middle, build, rfl, rfl⟩⟩ :=
    getTypeField_eq_ok run
  · have unchanged : (noteRecursive field.lookupIndex decoder before).fieldStorage =
        before.fieldStorage := by
      cases decoder <;> rfl
    rw [unchanged]
    refine ⟨tabled, fun _ _ held => held, fun later grown => ?_⟩
    cases decoder with
    | recursive cell => exact .cut found
    | _ => exact .shared found (grown _ _ present rfl) rfl
  · obtain ⟨after_tabled, kept, finished⟩ := tabled.build_field tables visited found present build
    refine ⟨after_tabled, kept, fun later grown => .shared found (grown _ _ ?_ finished) finished⟩
    exact Function.update_self _ _ _

theorem tables_getTypeFields {fields : List Si1Field}
    (visited : ∀ field ∈ fields, VisitedField kind metadata field) :
    Tables kind metadata (getTypeFields metadata getDecoder fields)
      fun later built => List.Forall₂ (FieldNamed metadata later) fields built :=
  tables_mapM fun field member => tables_getTypeField tables (visited field member)

theorem tables_getVariantFieldDecoder {name : String} {typeDef : Si1TypeDef}
    {variants : List Si1Variant} (walked : Walked kind metadata typeDef)
    (shape : typeDef.shape = .variant variants) :
    Tables kind metadata (getVariantFieldDecoder metadata getDecoder variants)
      fun later decoder => Named metadata later name typeDef decoder := by
  refine Tables.bind (tables_mapM fun entry member => ?_) fun entries =>
    tables_pure fun later each => .variant shape each
  unfold getVariantEntry
  split_ifs with bare
  · exact tables_pure fun later => .empty bare
  · have visited (field : Si1Field) (field_member : field ∈ entry.1.fields) :
        VisitedField kind metadata field :=
      .variant walked shape (List.fst_mem_of_mem_zipIdx member) field_member
    exact ((tables_getTypeFields tables visited).mapError _).bind fun fields =>
      tables_pure fun later each => .fields each

theorem tables_getTupleFieldDecoder {name : String} {typeDef : Si1TypeDef}
    {items : List Si1LookupTypeID} (walked : Walked kind metadata typeDef)
    (shape : typeDef.shape = .tuple (some items)) :
    Tables kind metadata (getTupleFieldDecoder metadata getDecoder name items)
      fun later decoder => Named metadata later name typeDef decoder := by
  refine Tables.bind (tables_mapM fun entry member => ?_) fun fields =>
    tables_pure fun later each => .tuple shape each
  unfold getTupleItem
  split
  · exact tables_fail _
  · rename_i type found
    have item_walked := walked.tuple shape (List.fst_mem_of_mem_zipIdx member) found
    exact ((tables _ _ item_walked).mapError _).bind fun decoder =>
      tables_pure fun later named => .intro found named

end Given

/-- The decoder of a walked type carries the name it was asked for. -/
theorem tables_getFieldDecoder (fuel : Nat) (name : String) (typeDef : Si1TypeDef)
    (walked : Walked kind metadata typeDef) :
    Tables kind metadata (getFieldDecoder metadata fuel name typeDef)
      fun later decoder => Named metadata later name typeDef decoder := by
  induction fuel generalizing name typeDef with
  | zero =>
      intro before built after run
      cases run
  | succ fuel ih =>
      unfold getFieldDecoder
      split
      · rename_i id shape
        split
        · exact tables_fail _
        · rename_i type found
          exact tables_ofOutcome fun decoder built later =>
            .compact shape found (getCompactFieldDecoder_matches built)
      · rename_i parts shape
        exact ((tables_getTypeFields ih fun field member =>
          .composite walked shape member).mapError _).bind fun fields =>
            tables_pure fun later each => .composite shape each
      · rename_i variants shape
        exact tables_getVariantFieldDecoder ih walked shape
      · rename_i primitive shape
        refine tables_ofOutcome fun decoder built later => ?_
        unfold getPrimitiveDecoder at built
        split at built
        · cases built
          exact .primitive shape
        · cases built
      · rename_i len id shape
        split
        · exact tables_fail _
        · rename_i type found
          exact ((ih _ _ (walked.array shape found)).mapError _).bind fun item =>
            tables_pure fun later named => .array shape found named
      · rename_i id shape
        split
        · exact tables_fail _
        · rename_i type found
          exact ((ih _ _ (walked.sequence shape found)).mapError _).bind fun item =>
            tables_pure fun later named => .sequence shape found named
      · rename_i shape
        exact tables_pure fun later => .emptyTuple shape
      · rename_i items shape
        exact tables_getTupleFieldDecoder ih walked shape
      · rename_i storeType orderType shape
        refine tables_ofOutcome fun decoder built later => ?_
        obtain ⟨bitOrder, _, rfl⟩ := getBitSequenceDecoder_eq_ok built
        exact .bitSequence shape
      · exact tables_fail _

end Builders

end SubstrateClient.Registry
