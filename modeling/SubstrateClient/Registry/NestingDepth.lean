import SubstrateClient.InputBudget
import SubstrateClient.Registry.Consumption
import SubstrateClient.Registry.CreationTermination
import SubstrateClient.Registry.Returning

/-!
# Nesting depth of decoding

A decoder that is reached again on the way down from itself has been entered through a variant or a
slice, and both take a byte first.  Between two such bytes the decoders follow references out of
composites, arrays, tuples and compact types, and the paths of these are bounded.  The depth of a run
is therefore at most linear in the number of input bytes.
-/

namespace SubstrateClient.Registry

open ByteParser ListLookup PathBounds Scale SubstrateClient.Types

/-! ## References between types -/

/-- The types of the values that a value of the type is made of. -/
def TypeShape.references : TypeShape → List Int64
  | .compact type => [type.int64]
  | .composite fields => fields.map Si1Field.lookupIndex
  | .variant variants => variants.flatMap fun variant => variant.fields.map Si1Field.lookupIndex
  | .array _ type => [type.int64]
  | .sequence type => [type.int64]
  | .tuple (some items) => items.map Si1LookupTypeID.int64
  | .tuple none => []
  | .primitive _ => []
  | .bitSequence _ _ => []
  | .unsupported => []

/-- The type is a variant or a sequence. -/
def TypeShape.isPrefixed : TypeShape → Bool
  | .variant _ => true
  | .sequence _ => true
  | _ => false

/-- One type refers to the other. -/
def RefersTo (metadata : MetadataV14) (index other : Int64) : Prop :=
  ∃ type, metadata.efficientLookup index = some type ∧ other ∈ type.typeDef.shape.references

/-- The lookup index is that of a variant or a sequence type. -/
def IsPrefixed (metadata : MetadataV14) (index : Int64) : Prop :=
  ∃ type, metadata.efficientLookup index = some type ∧ type.typeDef.shape.isPrefixed = true

/-- Every reference cycle passes through a variant or a sequence type. -/
def CyclesPrefixed (metadata : MetadataV14) : Prop :=
  ∀ (length : Nat) (path : Nat → Int64), 0 < length → path length = path 0 →
    (∀ step < length, RefersTo metadata (path step) (path (step + 1))) →
      ∃ step < length, IsPrefixed metadata (path step)

/-- A reference out of a type that is decoded without a byte of its own. -/
def Bare (metadata : MetadataV14) (index other : Int64) : Prop :=
  RefersTo metadata index other ∧ ¬ IsPrefixed metadata index

theorem CyclesPrefixed.exists_bound {metadata : MetadataV14} (cycles : CyclesPrefixed metadata) :
    ∃ width, ∀ index, PathsWithin (Bare metadata) width index := by
  obtain ⟨width, within⟩ := exists_common_bound (Bare metadata)
  refine ⟨width, fun index => within index (acc_of_no_cycle ?_ index)⟩
  intro length path positive closed steps
  obtain ⟨step, inside, taken⟩ := cycles length path positive closed fun step inside =>
    (steps step inside).1
  exact (steps step inside).2 taken

theorem bare_of_mem {metadata : MetadataV14} {index next : Int64} {type : Si1Type}
    {shape : TypeShape} (found : metadata.efficientLookup index = some type)
    (same : type.typeDef.shape = shape) (plain : shape.isPrefixed = false)
    (member : next ∈ shape.references) : Bare metadata index next := by
  subst same
  refine ⟨⟨type, found, member⟩, ?_⟩
  rintro ⟨other, other_found, taken⟩
  rw [found] at other_found
  cases other_found
  rw [plain] at taken
  cases taken

theorem map_lookupIndex_fieldParts (fields : List Si1Field) :
    (fieldParts fields).map Part.lookupIndex = fields.map Si1Field.lookupIndex := by
  rw [fieldParts, List.map_map]
  rfl

theorem map_lookupIndex_itemParts (items : List Si1LookupTypeID) :
    (itemParts items).map Part.lookupIndex = items.map Si1LookupTypeID.int64 := by
  rw [itemParts, List.map_map]
  conv_rhs => rw [← List.zipIdx_map_fst 0 items, List.map_map]
  rfl

/-- A type with a compact decoder has no infinite path underneath the compact. -/
theorem acc_of_compactMatches {metadata : MetadataV14} {index : Int64} {type : Si1Type}
    {decoder : FieldDecoder} (found : metadata.efficientLookup index = some type)
    (made : CompactMatches metadata type.typeDef decoder) :
    Acc (Function.swap (Unguarded metadata)) (.compact index) := by
  induction bound : sizeOf decoder using Nat.strong_induction_on
    generalizing index type decoder with
  | _ bound ih =>
      subst bound
      -- The parts of the type are the fields of a composite decoder, which are smaller.
      have part_acc {parts : List Part} {name : String} {fields : List (Field FieldDecoder)}
          (same : decoder = .composite name fields)
          (each : List.Forall₂ (CompactPart metadata) parts fields) {next : Int64}
          (member : next ∈ parts.map Part.lookupIndex) :
          Acc (Function.swap (Unguarded metadata)) (.compact next) := by
        obtain ⟨part, part_member, rfl⟩ := List.mem_map.mp member
        obtain ⟨field, field_member, matched⟩ := exists_related_of_mem_left each part_member
        obtain ⟨part_found, inner⟩ := matched
        refine ih _ ?_ part_found inner rfl
        have smaller := List.sizeOf_lt_of_mem field_member
        simp only [same, FieldDecoder.composite.sizeOf_spec, Field.mk.sizeOf_spec] at smaller ⊢
        omega
      refine ⟨_, fun next step => ?_⟩
      cases step with
      | compactTuple found' shape' member =>
          rw [found] at found'
          cases found'
          cases made with
          | tuple shape each =>
              rw [shape] at shape'
              cases shape'
              refine part_acc rfl each ?_
              rw [map_lookupIndex_itemParts]
              exact List.mem_map_of_mem member
          | primitive shape | emptyTuple shape | composite shape =>
              rw [shape] at shape'
              cases shape'
      | compactComposite found' shape' member =>
          rw [found] at found'
          cases found'
          cases made with
          | composite shape each =>
              rw [shape] at shape'
              cases shape'
              refine part_acc rfl each ?_
              rw [map_lookupIndex_fieldParts]
              exact List.mem_map_of_mem member
          | primitive shape | emptyTuple shape | tuple shape =>
              rw [shape] at shape'
              cases shape'

/-! ## Steps that come to an end -/

theorem takes_readOneByte : Takes readOneByte :=
  delimited_readOneByte.takes (fun input => (total_readOneByte input).ne_outOfFuel) (by simp)

theorem takes_decodeUintCompact : Takes decodeUintCompact :=
  delimited_decodeUintCompact.takes (fun input => (total_decodeUintCompact input).ne_outOfFuel)
    (by simp [decodeUintCompact])

theorem decodeKind_ne_outOfFuel (kind : ValueKind) (input : List UInt8) :
    kind.decode input ≠ .outOfFuel := by
  by_cases returns : (kind.decode input).Returns
  · exact returns.ne_outOfFuel
  · rw [decodeKind_returns_iff] at returns
    push Not at returns
    obtain ⟨rfl, unread⟩ := returns
    -- The length of the string cannot be read, and the nil length is dereferenced.
    have aborted : Scale.decodeSlice ampleMemory (0 : UInt8) decodeByte ⟨[], []⟩ input = .panic := by
      unfold Scale.decodeSlice
      split
      · rename_i codedLen rest read
        refine absurd ⟨codedLen, rest, read, fun short => .inr ?_⟩ unread
        exact ampleMemory_of_le short
      · rfl
    have stopped : ValueKind.string.decode input = .panic := by
      change ((Scale.decodeSlice ampleMemory (0 : UInt8) decodeByte ⟨[], []⟩ >>= _) >>= _ : Decoder Scalar) input = _
      rw [bind_apply, bind_apply, aborted]
      rfl
    rw [stopped]
    simp

theorem finishes_decodeKind {size : Nat} (kind : ValueKind) :
    Finishes size (FieldDecoder.decodeValueKind kind) :=
  (((delimited_decodeKind kind).finishes (decodeKind_ne_outOfFuel kind)).mapError _).bind fun _ =>
    finishes_pure _

theorem finishes_decodeBitSequence {size : Nat} (fieldName : String) (bitOrder : BitOrder) :
    Finishes size (FieldDecoder.decodeBitSequence fieldName bitOrder) :=
  (((delimited_bitVec bitOrder).finishes fun input =>
    (total_bitVec bitOrder input).ne_outOfFuel).mapError _).bind fun _ => finishes_pure _

theorem finishes_decodeItems {size : Nat} {item : Decoder Value} (finishes : Finishes size item)
    (count : Nat) : Finishes size (FieldDecoder.decodeItems item count) := by
  unfold FieldDecoder.decodeItems
  split_ifs
  · exact finishes_abort
  · exact (finishes.times count).bind fun _ => finishes_pure _

theorem finishes_decodeFields {size : Nat} {decodeValue : FieldDecoder → Decoder Value}
    {fields : List (Field FieldDecoder)}
    (each : ∀ field ∈ fields, Finishes size (decodeValue field.decoder)) :
    Finishes size (FieldDecoder.decodeFields decodeValue fields) :=
  finishes_mapM fun field member => (each field member).bind fun _ => finishes_pure _

/-! ## Decoders -/

section Decoders

variable {metadata : MetadataV14} {cells : Cells} {planted : Int64 → Nat → Prop} {size : Nat}

theorem finishes_composite {name : String} {fields : List (Field FieldDecoder)} {fuel : Nat}
    (each : ∀ field ∈ fields, Finishes size (field.decoder.decode cells fuel)) :
    Finishes size ((FieldDecoder.composite name fields).decode cells (fuel + 1)) :=
  (finishes_decodeFields fun field member => (each field member).mapError _).bind fun _ =>
    finishes_pure _

/-- What is built for the type comes to an end. -/
def TypeFinishes (metadata : MetadataV14) (cells : Cells) (planted : Int64 → Nat → Prop) (size : Nat)
    (index : Int64) (fuel : Nat) : Prop :=
  ∀ type decoder, metadata.efficientLookup index = some type →
    Matches metadata (fun _ => none) planted type.typeDef decoder →
      Finishes size (decoder.decode cells fuel)

/-- A compact decoder nests as deep as the paths underneath the compact. -/
theorem CompactMatches.finishes {bound fuel : Nat} {index : Int64} {type : Si1Type}
    {decoder : FieldDecoder} (within : PathsWithin (Unguarded metadata) bound (.compact index))
    (found : metadata.efficientLookup index = some type)
    (made : CompactMatches metadata type.typeDef decoder) (enough : bound ≤ fuel) :
    Finishes size (decoder.decode cells fuel) := by
  induction fuel generalizing bound index type decoder with
  | zero =>
      obtain rfl := Nat.le_zero.mp enough
      exact within.elim
  | succ fuel ih =>
      have composite {parts : List Part} {name : String} {fields : List (Field FieldDecoder)}
          (each : List.Forall₂ (CompactPart metadata) parts fields)
          (steps : ∀ part ∈ parts, Unguarded metadata (.compact index) (.compact part.lookupIndex)) :
          Finishes size ((FieldDecoder.composite name fields).decode cells (fuel + 1)) := by
        refine finishes_composite fun field member => ?_
        obtain ⟨part, part_member, matched⟩ := exists_related_of_mem each member
        obtain ⟨smaller, rfl, part_within⟩ := within.next (steps part part_member)
        obtain ⟨part_found, inner⟩ := matched
        exact ih part_within part_found inner (Nat.le_of_succ_le_succ enough)
      cases made with
      | primitive shape => exact finishes_decodeKind .uCompact
      | emptyTuple shape => exact finishes_decodeKind .any
      | tuple shape each =>
          refine composite each fun part member => ?_
          obtain ⟨entry, entry_member, rfl⟩ := List.mem_map.mp member
          exact .compactTuple found shape (List.fst_mem_of_mem_zipIdx entry_member)
      | composite shape each =>
          refine composite each fun part member => ?_
          obtain ⟨field, field_member, rfl⟩ := List.mem_map.mp member
          exact .compactComposite found shape field_member

/-- A field runs its own decoder, or through a recursive decoder the one of its type. -/
theorem FieldMatches.finishes {part : Part} {field : Field FieldDecoder} {lowest fuel : Nat}
    (resolved : Resolved metadata (fun _ => none) planted cells)
    (matched : FieldMatches metadata (fun _ => none) planted part field) (above : lowest < fuel)
    (each : ∀ level, lowest ≤ level → level ≤ fuel →
      TypeFinishes metadata cells planted size part.lookupIndex level) :
    Finishes size (field.decoder.decode cells fuel) := by
  cases matched with
  | overridden found stored => cases stored
  | built found free inner => exact each fuel above.le le_rfl _ _ found inner
  | cut found free mark =>
      obtain ⟨decoder, type, set, type_found, made⟩ := resolved _ _ mark free
      obtain ⟨level, rfl⟩ : ∃ level, fuel = level + 1 :=
        Nat.exists_eq_add_of_le' (by omega : 1 ≤ fuel)
      change Finishes size (FieldDecoder.decode cells (level + 1) (.recursive _))
      rw [FieldDecoder.decode_recursive level set made.isNil]
      exact each level (Nat.le_of_lt_succ above) (Nat.le_succ level) type decoder type_found made

/-- A variant runs the decoders of its fields. -/
theorem VariantMatches.finishes {variant : Si1Variant} {key : UInt8} {decoder : FieldDecoder}
    {lowest fuel : Nat} (resolved : Resolved metadata (fun _ => none) planted cells)
    (matched : VariantMatches metadata (fun _ => none) planted variant (key, decoder))
    (above : lowest + 1 < fuel)
    (each : ∀ index level, lowest ≤ level → level ≤ fuel →
      TypeFinishes metadata cells planted size index level) :
    Finishes size (decoder.decode cells fuel) := by
  obtain ⟨level, rfl⟩ : ∃ level, fuel = level + 1 :=
    Nat.exists_eq_add_of_le' (by omega : 1 ≤ fuel)
  cases matched with
  | empty bare => exact finishes_pure _
  | fields filled all =>
      refine finishes_composite fun field member => ?_
      obtain ⟨part, _, matched⟩ := exists_related_of_mem all member
      exact matched.finishes resolved (by omega) fun lower low high =>
        each _ lower low (high.trans (Nat.le_succ level))

/-- A decoder nests as deep as its references without a byte, and once as deep as any of them for each
byte of the input. -/
theorem Matches.finishes {width compactWidth : Nat}
    (resolved : Resolved metadata (fun _ => none) planted cells)
    (widest : ∀ index, PathsWithin (Bare metadata) width index)
    (compact_widest : ∀ visit, Acc (Function.swap (Unguarded metadata)) visit →
      PathsWithin (Unguarded metadata) compactWidth visit)
    {bound fuel : Nat} {index : Int64} {type : Si1Type} {decoder : FieldDecoder}
    (within : PathsWithin (Bare metadata) bound index)
    (found : metadata.efficientLookup index = some type)
    (made : Matches metadata (fun _ => none) planted type.typeDef decoder)
    (enough : size * (2 * width + 1) + 2 * bound + compactWidth ≤ fuel) :
    Finishes size (decoder.decode cells fuel) := by
  induction fuel using Nat.strong_induction_on generalizing size bound index type decoder with
  | _ fuel ih =>
      obtain ⟨rest, rfl⟩ := within.exists_eq_succ
      obtain ⟨fuel, rfl⟩ : ∃ smaller, fuel = smaller + 1 :=
        Nat.exists_eq_add_of_le' (by omega : 1 ≤ fuel)
      -- The types of the parts, reached without a byte or after one.
      have bare (next : Int64) (step : Bare metadata index next) (level : Nat)
          (low : fuel - 1 ≤ level) (high : level ≤ fuel) :
          TypeFinishes metadata cells planted size next level := by
        intro type decoder found made
        exact ih level (Nat.lt_succ_of_le high) (within next step) found made (by omega)
      have prefixed (smaller : Nat) (one_less : size = smaller + 1) (next : Int64) (level : Nat)
          (low : fuel - 2 ≤ level) (high : level ≤ fuel) :
          TypeFinishes metadata cells planted smaller next level := by
        intro type decoder found made
        refine ih level (Nat.lt_succ_of_le high) (widest next) found made ?_
        have paid : size * (2 * width + 1) = smaller * (2 * width + 1) + (2 * width + 1) := by
          rw [one_less, Nat.succ_mul]
        omega
      cases made with
      | compact shape inner_found inner =>
          exact inner.finishes (compact_widest _ (acc_of_compactMatches inner_found inner)) inner_found
            (by omega)
      | composite shape each =>
          refine finishes_composite fun field member => ?_
          obtain ⟨part, part_member, matched⟩ := exists_related_of_mem each member
          refine matched.finishes resolved (by omega) (bare _ (bare_of_mem found shape rfl ?_))
          rw [TypeShape.references, ← map_lookupIndex_fieldParts]
          exact List.mem_map_of_mem part_member
      | variant shape each =>
          refine (takes_readOneByte.mapError _).bind fun smaller one_less variantByte => ?_
          split
          · exact finishes_fail _
          · rename_i inner selected
            split_ifs
            · exact finishes_pure _
            · obtain ⟨variant, _, matched⟩ :=
                exists_related_of_mem each (List.mem_reverse.mp (mem_of_lookup selected))
              have paid : 0 < size * (2 * width + 1) := by rw [one_less]; positivity
              exact matched.finishes resolved (by omega) (prefixed smaller one_less)
      | primitive shape known => exact finishes_decodeKind _
      | array shape item_found inner =>
          rw [FieldDecoder.decode_array, if_neg (by rw [inner.isNil]; simp)]
          refine finishes_decodeItems (Finishes.mapError ?_ _) _
          exact bare _ (bare_of_mem found shape rfl (List.mem_singleton_self _)) fuel (Nat.sub_le _ _)
            le_rfl _ _ item_found inner
      | sequence shape item_found inner =>
          rw [FieldDecoder.decode_slice, if_neg (by rw [inner.isNil]; simp)]
          refine (takes_decodeUintCompact.mapError _).bind fun smaller one_less sliceLen => ?_
          refine finishes_decodeItems (Finishes.mapError ?_ _) _
          exact prefixed smaller one_less _ fuel (Nat.sub_le _ _) le_rfl _ _ item_found inner
      | emptyTuple shape => exact finishes_pure _
      | tuple shape each =>
          refine finishes_composite fun field member => ?_
          obtain ⟨part, part_member, matched⟩ := exists_related_of_mem each member
          have step : Bare metadata index part.lookupIndex := by
            refine bare_of_mem found shape rfl ?_
            rw [TypeShape.references, ← map_lookupIndex_itemParts]
            exact List.mem_map_of_mem part_member
          obtain ⟨item_found, inner⟩ := matched
          exact bare _ step fuel (Nat.sub_le _ _) le_rfl _ _ item_found inner
      | bitSequence shape supported => exact finishes_decodeBitSequence _ _

end Decoders

/-! ## Registries -/

section Registries

variable {κ : Type} (kind : RegistryKind κ) (metadata : MetadataV14)

/-- In a registry without overrides over types whose reference cycles all pass through a variant or a
sequence, the nesting depth of a run is at most a constant of the metadata times the number of input
bytes plus one; beyond that depth nothing is called. -/
theorem decode_depth_bounded (cycles : CyclesPrefixed metadata) :
    ∃ depth, ∀ mapOrder fuel before registry final, before.fieldOverrides = [] →
      createRegistry kind metadata mapOrder fuel before = .ok (registry, final) →
        ∀ entry ∈ registry, ∀ input : List UInt8,
          entry.2.decode final.cells (depth * (input.length + 1)) input ≠ .outOfFuel ∧
          ∀ deeper, depth * (input.length + 1) ≤ deeper →
            entry.2.decode final.cells deeper input =
              entry.2.decode final.cells (depth * (input.length + 1)) input := by
  obtain ⟨width, widest⟩ := cycles.exists_bound
  obtain ⟨compactWidth, compact_widest⟩ := exists_common_bound (Unguarded metadata)
  refine ⟨2 * width + 1 + compactWidth + 1, ?_⟩
  intro mapOrder fuel before registry final plain run entry member input
  obtain ⟨walked, traversal, resolution⟩ := createRegistry_eq_ok run
  have traversed := traverse_traversed kind metadata traversal
  have resolved := traversed.resolved resolution
  obtain ⟨pallet, _, variant, _, _, _, each⟩ := traversed.entry_matches member
  rw [plain] at resolved each
  have finishes : Finishes input.length (entry.2.decode final.cells
      ((2 * width + 1 + compactWidth + 1) * (input.length + 1))) := by
    refine finishes_decodeFields fun field field_member => Finishes.mapError ?_ _
    unfold Field.decode
    split_ifs
    · exact finishes_fail _
    · obtain ⟨part, _, matched⟩ := exists_related_of_mem each field_member
      have budget : input.length * (2 * width + 1) + 2 * width + compactWidth <
          (2 * width + 1 + compactWidth + 1) * (input.length + 1) := by
        nlinarith [Nat.zero_le (input.length * (compactWidth + 1))]
      exact matched.finishes resolved budget fun level low _ type decoder found made =>
        made.finishes resolved widest compact_widest (widest _) found low
  have ended := (finishes input le_rfl).1
  exact ⟨ended, fun deeper le =>
    settles_of_le (entry.2.settling_decode final.cells) le input ended⟩

end Registries

/-- A tree refers to a sequence of trees; the other references start at a variant or a sequence. -/
theorem refersTo_roseMetadata {index next : Int64} (refers : RefersTo roseMetadata index next) :
    index = 1 ∧ next = 2 ∨ IsPrefixed roseMetadata index := by
  obtain ⟨type, found, member⟩ := refers
  obtain ⟨portable, portable_member, rfl, rfl⟩ := exists_portable_of_toMap found
  fin_cases portable_member
  · exact .inl ⟨rfl, List.mem_singleton.mp member⟩
  · exact .inr ⟨_, found, rfl⟩
  · exact .inr ⟨_, found, rfl⟩

theorem cyclesPrefixed_roseMetadata : CyclesPrefixed roseMetadata := by
  intro length path positive closed steps
  rcases refersTo_roseMetadata (steps 0 positive) with ⟨first, second⟩ | taken
  · have longer : 1 < length := by
      by_contra short
      obtain rfl : length = 1 := by omega
      rw [closed, first] at second
      cases second
    rcases refersTo_roseMetadata (steps 1 longer) with ⟨again, _⟩ | taken
    · rw [second] at again
      cases again
    · exact ⟨1, longer, taken⟩
  · exact ⟨0, positive, taken⟩

theorem decode_depth_bounded_rose :
    ∃ registry final, createRegistry callKind roseMetadata .newestFirst 6 (newFactory [] []) =
      .ok (registry, final) ∧
        ∃ depth, ∀ entry ∈ registry, ∀ input : List UInt8,
          entry.2.decode final.cells (depth * (input.length + 1)) input ≠ .outOfFuel := by
  refine ⟨_, _, rfl, ?_⟩
  obtain ⟨depth, bounded⟩ := decode_depth_bounded callKind roseMetadata cyclesPrefixed_roseMetadata
  exact ⟨depth, fun entry member input =>
    (bounded .newestFirst 6 (newFactory [] []) _ _ rfl rfl entry member input).1⟩

end SubstrateClient.Registry
