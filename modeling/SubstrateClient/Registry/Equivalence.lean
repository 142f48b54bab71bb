import SubstrateClient.Registry.Direct
import SubstrateClient.Registry.Resolution

/-!
# Registries and direct decoding

The decoders of a registry compute what direct decoding computes with lengths cut to 64 bits, however the
decoders are shared and wherever recursive types were cut off.  Lengths beyond the capacity of a Go slice
are where this differs from direct decoding with lengths taken in full.
-/

namespace SubstrateClient.Registry

open ByteParser ListLookup Scale SubstrateClient.Types

/-! ## Values up to the keys of bit sequences -/

mutual

/-- The value with the keys of its bit sequences left empty. -/
def Value.eraseKeys : Value → Value
  | .slice items => .slice (eraseItems items)
  | .fields fields => .fields (eraseFields fields)
  | .bits _ digits => .bits "" digits
  | .nil => .nil
  | .scalar value => .scalar value
  | .foreign written => .foreign written

/-- Items with empty keys. -/
def eraseItems : List Value → List Value
  | [] => []
  | item :: items => item.eraseKeys :: eraseItems items

/-- Fields with empty keys. -/
def eraseFields : List (DecodedField Value) → List (DecodedField Value)
  | [] => []
  | ⟨name, value, lookupIndex⟩ :: fields => ⟨name, value.eraseKeys, lookupIndex⟩ :: eraseFields fields

end

/-- The second value is the first with empty keys. -/
def Erased (value erased : Value) : Prop := value.eraseKeys = erased

/-- The second field is the first with empty keys. -/
def ErasedField (field erased : DecodedField Value) : Prop :=
  field.name = erased.name ∧ Erased field.value erased.value ∧
    field.lookupIndex = erased.lookupIndex

theorem eraseItems_eq {items erased : List Value} (each : List.Forall₂ Erased items erased) :
    eraseItems items = erased := by
  induction each with
  | nil => rfl
  | cons first _ ih => rw [eraseItems, show _ = _ from first, ih]

theorem eraseFields_eq {fields erased : DecodedFields} (each : List.Forall₂ ErasedField fields erased) :
    eraseFields fields = erased := by
  induction each with
  | nil => rfl
  | cons first _ ih =>
      obtain ⟨same_name, same_value, same_index⟩ := first
      rw [eraseFields, ih, same_name, same_index, show _ = _ from same_value]

theorem erased_slice {items erased : List Value} (each : List.Forall₂ Erased items erased) :
    Erased (.slice items) (.slice erased) := by
  rw [Erased, Value.eraseKeys, eraseItems_eq each]

theorem erased_fields {fields erased : DecodedFields}
    (each : List.Forall₂ ErasedField fields erased) : Erased (.fields fields) (.fields erased) := by
  rw [Erased, Value.eraseKeys, eraseFields_eq each]

theorem erased_scalar (value : Scalar) : Erased (.scalar value) (.scalar value) := by
  rw [Erased, Value.eraseKeys]

theorem erased_bits (key digits : String) : Erased (.bits key digits) (.bits "" digits) := by
  rw [Erased, Value.eraseKeys]

section Variants

variable {metadata : MetadataV14} {overrides : Int64 → Option FieldDecoder}
  {planted : Int64 → Nat → Prop} {variants : List Si1Variant} {entries : List (UInt8 × FieldDecoder)}

theorem VariantMatches.index_eq {variant : Si1Variant} {entry : UInt8 × FieldDecoder}
    (matched : VariantMatches metadata overrides planted variant entry) :
    entry.1 = variant.index := by
  cases matched <;> rfl

theorem keys_eq_indices
    (each : List.Forall₂ (VariantMatches metadata overrides planted) variants entries) :
    entries.map Prod.fst = variants.map Si1Variant.index := by
  induction each with
  | nil => rfl
  | cons first _ ih => rw [List.map_cons, List.map_cons, ih, first.index_eq]

theorem lookup_reverse_iff_mem
    (each : List.Forall₂ (VariantMatches metadata overrides planted) variants entries)
    (distinct : (variants.map Si1Variant.index).Nodup) {index : UInt8} {decoder : FieldDecoder} :
    entries.reverse.lookup index = some decoder ↔ (index, decoder) ∈ entries := by
  rw [lookup_eq_some_iff_mem, List.mem_reverse]
  rw [List.map_reverse, List.nodup_reverse, keys_eq_indices each]
  exact distinct

/-- A decoder in the map belongs to the variant with its index. -/
theorem find_of_lookup
    (each : List.Forall₂ (VariantMatches metadata overrides planted) variants entries)
    (distinct : (variants.map Si1Variant.index).Nodup) {index : UInt8} {decoder : FieldDecoder}
    (stored : entries.reverse.lookup index = some decoder) :
    ∃ variant, (variants.find? fun variant => variant.index = index) = some variant ∧
      VariantMatches metadata overrides planted variant (index, decoder) := by
  have member := (lookup_reverse_iff_mem each distinct).mp stored
  obtain ⟨variant, variant_member, matched⟩ := exists_related_of_mem each member
  have found := (find?_key_eq_some distinct).mpr ⟨variant_member, matched.index_eq.symm⟩
  exact ⟨variant, found, matched⟩

/-- Every variant has its decoder in the map. -/
theorem lookup_of_find
    (each : List.Forall₂ (VariantMatches metadata overrides planted) variants entries)
    (distinct : (variants.map Si1Variant.index).Nodup) {index : UInt8} {variant : Si1Variant}
    (found : (variants.find? fun variant => variant.index = index) = some variant) :
    ∃ decoder, entries.reverse.lookup index = some decoder ∧
      VariantMatches metadata overrides planted variant (index, decoder) := by
  obtain ⟨variant_member, rfl⟩ := (find?_key_eq_some distinct).mp found
  obtain ⟨⟨key, decoder⟩, member, matched⟩ := exists_related_of_mem_left each variant_member
  obtain rfl : key = variant.index := matched.index_eq
  exact ⟨decoder, (lookup_reverse_iff_mem each distinct).mpr member, matched⟩

end Variants

theorem shape_eq_variant {typeDef : Si1TypeDef} {variants : List Si1Variant}
    (shape : typeDef.shape = .variant variants) :
    typeDef.isVariant = true ∧ typeDef.variant = variants := by
  unfold Si1TypeDef.shape at shape
  obtain ⟨_, shape⟩ := TypeShape.of_ite_eq (by simp) shape
  obtain ⟨_, shape⟩ := TypeShape.of_ite_eq (by simp) shape
  by_cases flag : typeDef.isVariant = true
  · rw [if_pos flag] at shape
    cases shape
    exact ⟨flag, rfl⟩
  · rw [if_neg flag] at shape
    obtain ⟨_, shape⟩ := TypeShape.of_ite_eq (by simp) shape
    obtain ⟨_, shape⟩ := TypeShape.of_ite_eq (by simp) shape
    obtain ⟨_, shape⟩ := TypeShape.of_ite_eq (by simp) shape
    obtain ⟨_, shape⟩ := TypeShape.of_ite_eq (by simp) shape
    obtain ⟨_, shape⟩ := TypeShape.of_ite_eq (by simp) shape
    cases shape

/-! ## From the registry to direct decoding -/

/-- No error escapes. -/
abbrev Never {ε : Type} (_ : ε) : Prop := False

section Follows

variable {metadata : MetadataV14}

/-- What the decoder of a field returns is what direct decoding returns for the component. -/
def Follows (metadata : MetadataV14) (decodeValue : FieldDecoder → Decoder Value)
    (decodeType : Si1TypeDef → ByteParser Stop Value) (part : Part) (field : Field FieldDecoder) :
    Prop :=
  ∃ type, metadata.efficientLookup part.lookupIndex = some type ∧ field.name = part.name type ∧
    field.lookupIndex = part.lookupIndex ∧
      Simulates Never Erased (decodeValue field.decoder) (decodeType type.typeDef)

variable {decodeValue : FieldDecoder → Decoder Value}
  {decodeType : Si1TypeDef → ByteParser Stop Value} {parts : List Part}
  {fields : List (Field FieldDecoder)}

theorem simulates_decodeFields
    (each : List.Forall₂ (Follows metadata decodeValue decodeType) parts fields)
    (rewrite : GoError → GoError) :
    Simulates Never (List.Forall₂ ErasedField)
      (FieldDecoder.decodeFields (fun inner => (decodeValue inner).mapError rewrite) fields)
      (directParts metadata decodeType parts) := by
  refine simulates_mapM ?_ each.flip
  rintro field part ⟨type, found, same_name, same_index, simulates⟩
  simp only [directPart, found]
  exact (simulates.mapError_left rewrite).bind fun value erased holds =>
    simulates_pure ⟨same_name, holds, same_index⟩

theorem simulates_decodeComposite
    (each : List.Forall₂ (Follows metadata decodeValue decodeType) parts fields)
    (rewrite : GoError → GoError) :
    Simulates Never Erased (do
      let decodedFields ← FieldDecoder.decodeFields
        (fun inner => (decodeValue inner).mapError rewrite) fields
      pure (.fields decodedFields)) (directComposite metadata decodeType parts) :=
  (simulates_decodeFields each rewrite).bind fun _ _ erased => simulates_pure (erased_fields erased)

theorem simulates_decodeItems {item : Decoder Value} {other : ByteParser Stop Value}
    (simulates : Simulates Never Erased item other) (rewrite : GoError → GoError) (count : Nat) :
    Simulates Never Erased (FieldDecoder.decodeItems (item.mapError rewrite) count) (do
      let items ← times other count
      pure (.slice items)) := by
  unfold FieldDecoder.decodeItems
  split_ifs
  · exact simulates_abort _
  · exact ((simulates.mapError_left rewrite).times count).bind fun _ _ erased =>
      simulates_pure (erased_slice erased)

theorem simulates_decodeSlice {item : Decoder Value} {other : ByteParser Stop Value}
    (simulates : Simulates Never Erased item other) :
    Simulates Never Erased (FieldDecoder.decodeSlice item) (directSequence .cut other) := by
  refine Simulates.bind_eq (simulates_mapError decodeUintCompact _ _) fun length => ?_
  unfold directItems LengthPolicy.cut
  split_ifs with fits
  · exact simulates_decodeItems simulates _ _
  · rw [FieldDecoder.decodeItems, if_pos (FieldDecoder.grantsCapacity_eq_false.mpr (not_le.mp fits))]
    exact simulates_abort _

theorem simulates_decodeValueKind (kind : ValueKind) :
    Simulates Never Erased (FieldDecoder.decodeValueKind kind) (directScalar kind) :=
  Simulates.bind_eq (simulates_mapError kind.decode _ _) fun value =>
    simulates_pure (erased_scalar value)

theorem CompactMatches.simulates {cells : Cells} {typeDef : Si1TypeDef} {decoder : FieldDecoder}
    (made : CompactMatches metadata typeDef decoder) (fuel : Nat) :
    Simulates Never Erased (decoder.decode cells fuel) (directCompact metadata fuel typeDef) := by
  induction fuel generalizing typeDef decoder with
  | zero =>
      intro input value rest run
      cases run
  | succ fuel ih =>
      have follows {part : Part} {field : Field FieldDecoder}
          (matched : CompactPart metadata part field) :
          Follows metadata (FieldDecoder.decode cells fuel) (directCompact metadata fuel) part field := by
        obtain ⟨found, inner⟩ := matched
        exact ⟨_, found, rfl, rfl, ih inner⟩
      cases made with
      | primitive shape =>
          simp only [directCompact, shape]
          exact simulates_decodeValueKind .uCompact
      | emptyTuple shape =>
          intro input value rest run
          cases run
      | tuple shape each =>
          simp only [directCompact, shape]
          exact simulates_decodeComposite (each.imp fun _ _ => follows) _
      | composite shape each =>
          simp only [directCompact, shape]
          exact simulates_decodeComposite (each.imp fun _ _ => follows) _

end Follows

section Registry

variable {metadata : MetadataV14} {planted : Int64 → Nat → Prop} {cells : Cells}
  (distinct : metadata.DistinctIndices)
  (resolved : Resolved metadata (fun _ => none) planted cells)

/-- Decoding a type with its decoder for so many steps follows direct decoding. -/
def TypesFollow (metadata : MetadataV14) (planted : Int64 → Nat → Prop) (cells : Cells)
    (fuel : Nat) : Prop :=
  ∀ index type decoder, metadata.efficientLookup index = some type →
    Matches metadata (fun _ => none) planted type.typeDef decoder →
      Simulates Never Erased (decoder.decode cells fuel) (direct metadata .cut fuel type.typeDef)

include resolved in
theorem FieldMatches.follows {fuel : Nat}
    (below : ∀ less ≤ fuel, TypesFollow metadata planted cells less) {part : Part}
    {field : Field FieldDecoder} (matched : FieldMatches metadata (fun _ => none) planted part field) :
    Follows metadata (FieldDecoder.decode cells fuel) (direct metadata .cut fuel) part field := by
  cases matched with
  | overridden found stored => cases stored
  | cut found free mark =>
      refine ⟨_, found, rfl, rfl, ?_⟩
      cases fuel with
      | zero =>
          intro input value rest run
          cases run
      | succ fuel =>
          obtain ⟨inner, type, set, found', made⟩ := resolved _ _ mark free
          rw [found] at found'
          cases found'
          rw [FieldDecoder.decode_recursive fuel set made.isNil]
          exact (below fuel (Nat.le_succ fuel) _ _ _ found made).settle (settles_direct fuel _)
  | built found free inner => exact ⟨_, found, rfl, rfl, below fuel le_rfl _ _ _ found inner⟩

include distinct resolved in
/-- The decoder of a type follows direct decoding with lengths cut to 64 bits. -/
theorem typesFollow (fuel : Nat) : TypesFollow metadata planted cells fuel := by
  induction fuel using Nat.strong_induction_on with
  | _ fuel ih =>
      intro index type decoder found made
      cases fuel with
      | zero =>
          intro input value rest run
          cases run
      | succ fuel =>
          have field_follows {part : Part} {field : Field FieldDecoder}
              (matched : FieldMatches metadata (fun _ => none) planted part field) :=
            matched.follows resolved fun less le => ih less (Nat.lt_succ_of_le le)
          cases made with
          | compact shape inner_found inner =>
              simp only [direct, shape, inner_found]
              exact inner.simulates (fuel + 1)
          | composite shape each =>
              simp only [direct, shape]
              exact simulates_decodeComposite (each.imp fun _ _ => field_follows) _
          | variant shape each =>
              obtain ⟨flag, same⟩ := shape_eq_variant shape
              have indices := distinct.variants index type found flag
              rw [same] at indices
              simp only [direct, shape]
              refine Simulates.bind_eq (simulates_mapError readOneByte _ _) fun variantByte => ?_
              split
              · exact simulates_fail _ _
              · rename_i inner stored
                obtain ⟨variant, selected, matched⟩ := find_of_lookup each indices stored
                simp only [selected]
                cases matched with
                | empty bare =>
                    rw [if_pos bare]
                    exact simulates_pure (erased_scalar _)
                | fields filled fields_match =>
                    rw [if_neg filled]
                    cases fuel with
                    | zero =>
                        intro input value rest run
                        cases run
                    | succ fuel =>
                        have inner_follows {part : Part} {field : Field FieldDecoder}
                            (matched : FieldMatches metadata (fun _ => none) planted part field) :=
                          matched.follows resolved fun less le =>
                            ih less (Nat.lt_succ_of_le (le.trans (Nat.le_succ fuel)))
                        exact (simulates_decodeComposite
                          (fields_match.imp fun _ _ => inner_follows) _).settle
                            (settles_directComposite (settles_direct fuel) _)
          | primitive shape known =>
              simp only [direct, shape, known]
              exact simulates_decodeValueKind _
          | array shape inner_found inner =>
              simp only [direct, shape, inner_found]
              rw [FieldDecoder.decode_array, if_neg (by rw [inner.isNil]; exact Bool.false_ne_true)]
              exact simulates_decodeItems (ih fuel (Nat.lt_succ_self fuel) _ _ _ inner_found inner) _ _
          | sequence shape inner_found inner =>
              simp only [direct, shape, inner_found]
              rw [FieldDecoder.decode_slice, if_neg (by rw [inner.isNil]; exact Bool.false_ne_true)]
              exact simulates_decodeSlice (ih fuel (Nat.lt_succ_self fuel) _ _ _ inner_found inner)
          | emptyTuple shape =>
              simp only [direct, shape]
              exact simulates_pure (by rw [Erased, Value.eraseKeys])
          | tuple shape each =>
              simp only [direct, shape]
              refine simulates_decodeComposite (each.imp fun part field matched => ?_) _
              obtain ⟨item_found, inner⟩ := matched
              exact ⟨_, item_found, rfl, rfl, ih fuel (Nat.lt_succ_self fuel) _ _ _ item_found inner⟩
          | bitSequence shape supported =>
              simp only [direct, shape, supported]
              exact Simulates.bind_eq (simulates_mapError (BitVec.decode _) _ _) fun bytes =>
                simulates_pure (erased_bits _ _)

end Registry

/-! ## From direct decoding to the registry -/

section Leads

variable {metadata : MetadataV14}

/-- The first value is the second with empty keys. -/
abbrev Restores (erased value : Value) : Prop := Erased value erased

/-- What direct decoding returns for a component is what the decoder of the field returns. -/
def Leads (metadata : MetadataV14) (decodeType : Si1TypeDef → ByteParser Stop Value)
    (decodeValue : FieldDecoder → Decoder Value) (part : Part) (field : Field FieldDecoder) : Prop :=
  ∃ type, metadata.efficientLookup part.lookupIndex = some type ∧ field.name = part.name type ∧
    field.lookupIndex = part.lookupIndex ∧
      Simulates Never Restores (decodeType type.typeDef) (decodeValue field.decoder)

variable {decodeValue : FieldDecoder → Decoder Value}
  {decodeType : Si1TypeDef → ByteParser Stop Value} {parts : List Part}
  {fields : List (Field FieldDecoder)}

theorem simulates_directParts_of_leads
    (each : List.Forall₂ (Leads metadata decodeType decodeValue) parts fields)
    (rewrite : GoError → GoError) :
    Simulates Never (List.Forall₂ fun erased field => ErasedField field erased)
      (directParts metadata decodeType parts)
      (FieldDecoder.decodeFields (fun inner => (decodeValue inner).mapError rewrite) fields) := by
  refine simulates_mapM ?_ each
  rintro part field ⟨type, found, same_name, same_index, simulates⟩
  simp only [directPart, found]
  exact (simulates.mapError_right rewrite).bind fun erased value holds =>
    simulates_pure ⟨same_name, holds, same_index⟩

theorem simulates_directComposite_of_leads
    (each : List.Forall₂ (Leads metadata decodeType decodeValue) parts fields)
    (rewrite : GoError → GoError) :
    Simulates Never Restores (directComposite metadata decodeType parts) (do
      let decodedFields ← FieldDecoder.decodeFields
        (fun inner => (decodeValue inner).mapError rewrite) fields
      pure (.fields decodedFields)) :=
  (simulates_directParts_of_leads each rewrite).bind fun _ _ restored =>
    simulates_pure (erased_fields restored.flip)

theorem simulates_items {item : ByteParser Stop Value} {other : Decoder Value}
    (simulates : Simulates Never Restores item other) (rewrite : GoError → GoError) {count : Nat}
    (fits : count ≤ maxSliceCap) :
    Simulates Never Restores (do
      let items ← times item count
      pure (.slice items)) (FieldDecoder.decodeItems (other.mapError rewrite) count) := by
  rw [FieldDecoder.decodeItems, if_neg (by simpa [FieldDecoder.grantsCapacity_eq_false] using fits)]
  exact ((simulates.mapError_right rewrite).times count).bind fun _ _ restored =>
    simulates_pure (erased_slice restored.flip)

theorem simulates_directSequence {item : ByteParser Stop Value} {other : Decoder Value}
    (simulates : Simulates Never Restores item other) :
    Simulates Never Restores (directSequence .cut item) (FieldDecoder.decodeSlice other) := by
  refine Simulates.bind_eq (simulates_mapError decodeUintCompact _ _) fun length => ?_
  unfold directItems LengthPolicy.cut
  split_ifs with fits
  · exact simulates_items simulates _ fits
  · exact simulates_fail _ _

theorem simulates_directScalar (kind : ValueKind) :
    Simulates Never Restores (directScalar kind) (FieldDecoder.decodeValueKind kind) :=
  Simulates.bind_eq (simulates_mapError kind.decode _ _) fun value =>
    simulates_pure (erased_scalar value)

theorem CompactMatches.leads {cells : Cells} {typeDef : Si1TypeDef} {decoder : FieldDecoder}
    (made : CompactMatches metadata typeDef decoder) (fuel : Nat) :
    Simulates Never Restores (directCompact metadata fuel typeDef) (decoder.decode cells fuel) := by
  induction fuel generalizing typeDef decoder with
  | zero =>
      intro input value rest run
      cases run
  | succ fuel ih =>
      have leads {part : Part} {field : Field FieldDecoder}
          (matched : CompactPart metadata part field) :
          Leads metadata (directCompact metadata fuel) (FieldDecoder.decode cells fuel) part field := by
        obtain ⟨found, inner⟩ := matched
        exact ⟨_, found, rfl, rfl, ih inner⟩
      cases made with
      | primitive shape =>
          simp only [directCompact, shape]
          exact simulates_directScalar .uCompact
      | emptyTuple shape =>
          simp only [directCompact, shape]
          exact simulates_fail _ _
      | tuple shape each =>
          simp only [directCompact, shape]
          exact simulates_directComposite_of_leads (each.imp fun _ _ => leads) _
      | composite shape each =>
          simp only [directCompact, shape]
          exact simulates_directComposite_of_leads (each.imp fun _ _ => leads) _

end Leads

section Registry

variable {metadata : MetadataV14} {planted : Int64 → Nat → Prop} {cells : Cells}
  (distinct : metadata.DistinctIndices)
  (resolved : Resolved metadata (fun _ => none) planted cells)

/-- Three steps of the registry for one of direct decoding: the registry also steps through recursive
decoders and through the composite of a variant. -/
def TypesLead (metadata : MetadataV14) (planted : Int64 → Nat → Prop) (cells : Cells)
    (fuel : Nat) : Prop :=
  ∀ index type decoder, metadata.efficientLookup index = some type →
    Matches metadata (fun _ => none) planted type.typeDef decoder →
      Simulates Never Restores (direct metadata .cut fuel type.typeDef)
        (decoder.decode cells (3 * fuel))

theorem settles_decode_of_le {fuel richer : Nat} (le : fuel ≤ richer) (decoder : FieldDecoder) :
    Settles (decoder.decode cells fuel) (decoder.decode cells richer) :=
  settles_of_le (FieldDecoder.settling_decode cells decoder) le

include resolved in
theorem FieldMatches.leads {fuel steps : Nat} (lead : TypesLead metadata planted cells fuel)
    (enough : 3 * fuel + 1 ≤ steps) {part : Part} {field : Field FieldDecoder}
    (matched : FieldMatches metadata (fun _ => none) planted part field) :
    Leads metadata (direct metadata .cut fuel) (FieldDecoder.decode cells steps) part field := by
  cases matched with
  | overridden found stored => cases stored
  | cut found free mark =>
      obtain ⟨inner, type, set, found', made⟩ := resolved _ _ mark free
      rw [found] at found'
      cases found'
      have inner_leads := lead _ _ _ found made
      rw [← FieldDecoder.decode_recursive (3 * fuel) set made.isNil] at inner_leads
      exact ⟨_, found, rfl, rfl, inner_leads.settle (settles_decode_of_le enough _)⟩
  | built found free inner =>
      refine ⟨_, found, rfl, rfl, (lead _ _ _ found inner).settle (settles_decode_of_le ?_ _)⟩
      exact (Nat.le_succ _).trans enough

include distinct resolved in
/-- Direct decoding with lengths cut to 64 bits leads to what the decoder of the type returns. -/
theorem typesLead (fuel : Nat) : TypesLead metadata planted cells fuel := by
  induction fuel with
  | zero =>
      intro index type decoder found made input value rest run
      cases run
  | succ fuel ih =>
      intro index type decoder found made
      have field_leads {steps : Nat} (enough : 3 * fuel + 1 ≤ steps) {part : Part}
          {field : Field FieldDecoder}
          (matched : FieldMatches metadata (fun _ => none) planted part field) :=
        matched.leads resolved ih enough
      have item_leads {index : Int64} {type : Si1Type} {decoder : FieldDecoder}
          (found : metadata.efficientLookup index = some type)
          (made : Matches metadata (fun _ => none) planted type.typeDef decoder) :
          Simulates Never Restores (direct metadata .cut fuel type.typeDef)
            (decoder.decode cells (3 * fuel + 2)) :=
        (ih _ _ _ found made).settle (settles_decode_of_le (Nat.le_add_right _ 2) _)
      rw [show 3 * (fuel + 1) = 3 * fuel + 2 + 1 from rfl]
      cases made with
      | compact shape inner_found inner =>
          simp only [direct, shape, inner_found]
          exact (inner.leads (fuel + 1)).settle (settles_decode_of_le (by omega) _)
      | composite shape each =>
          simp only [direct, shape]
          exact simulates_directComposite_of_leads
            (each.imp fun _ _ => field_leads (Nat.le_succ _)) _
      | variant shape each =>
          obtain ⟨flag, same⟩ := shape_eq_variant shape
          have indices := distinct.variants index type found flag
          rw [same] at indices
          simp only [direct, shape]
          refine Simulates.bind_eq (simulates_mapError readOneByte _ _) fun variantByte => ?_
          split
          · exact simulates_fail _ _
          · rename_i variant selected
            obtain ⟨inner, stored, matched⟩ := lookup_of_find each indices selected
            simp only [stored]
            cases matched with
            | empty bare =>
                rw [if_pos bare]
                exact simulates_pure (erased_scalar _)
            | fields filled fields_match =>
                rw [if_neg filled]
                exact simulates_directComposite_of_leads
                  (fields_match.imp fun _ _ => field_leads le_rfl) _
      | primitive shape known =>
          simp only [direct, shape, known]
          exact simulates_directScalar _
      | array shape inner_found inner =>
          rename_i len id item_type item
          have len_lt := len.toNat_lt
          simp only [direct, shape, inner_found]
          rw [FieldDecoder.decode_array, if_neg (by rw [inner.isNil]; exact Bool.false_ne_true)]
          exact simulates_items (item_leads inner_found inner) _
            (by rw [maxSliceCap]; omega)
      | sequence shape inner_found inner =>
          simp only [direct, shape, inner_found]
          rw [FieldDecoder.decode_slice, if_neg (by rw [inner.isNil]; exact Bool.false_ne_true)]
          exact simulates_directSequence (item_leads inner_found inner)
      | emptyTuple shape =>
          simp only [direct, shape]
          exact simulates_pure (by rw [Restores, Erased, Value.eraseKeys])
      | tuple shape each =>
          simp only [direct, shape]
          refine simulates_directComposite_of_leads (each.imp fun part field matched => ?_) _
          obtain ⟨item_found, inner⟩ := matched
          exact ⟨_, item_found, rfl, rfl, item_leads item_found inner⟩
      | bitSequence shape supported =>
          simp only [direct, shape, supported]
          exact Simulates.bind_eq (simulates_mapError (BitVec.decode _) _ _) fun bytes =>
            simulates_pure (erased_bits _ _)

end Registry

/-! ## Type decoders of a registry -/

/-- The type decoder returns these fields and leaves the rest. -/
def TypeDecoder.Decodes [Runtime .none] (cells : Cells) (typeDecoder : TypeDecoder) (input : List UInt8)
    (fields : DecodedFields) (rest : List UInt8) : Prop :=
  ∃ fuel, typeDecoder.decode cells fuel input = .ok (fields, rest)

section Returned

variable {κ : Type} {kind : RegistryKind κ} {metadata : MetadataV14} {planted : Int64 → Nat → Prop}
  {cells : Cells} {before walked final : Factory} {registry : TypeRegistry κ}
  {pallet : PalletMetadataV14} {variant : Si1Variant}

theorem FieldMatches.isNil {part : Part} {field : Field FieldDecoder}
    (matched : FieldMatches metadata (fun _ => none) planted part field) :
    field.decoder.isNil = false := by
  cases matched with
  | overridden found stored => cases stored
  | cut found free mark => rfl
  | built found free inner => exact inner.isNil

theorem Field.decode_eq {fuel : Nat} {decoder : FieldDecoder} (present : decoder.isNil = false) :
    Field.decode cells fuel decoder = decoder.decode cells fuel := by
  rw [Field.decode, if_neg (by rw [present]; exact Bool.false_ne_true)]

/-- A type decoder computes direct decoding with lengths cut to 64 bits. -/
theorem EntryMatches.decodes_iff_cut {key : κ} {typeDecoder : TypeDecoder} {input rest : List UInt8}
    {fields : DecodedFields} (distinct : metadata.DistinctIndices)
    (resolved : Resolved metadata (fun _ => none) planted cells)
    (matched : EntryMatches kind metadata (fun _ => none) planted pallet variant (key, typeDecoder)) :
    (∃ raw, typeDecoder.Decodes cells input raw rest ∧ eraseFields raw = fields) ↔
      DirectlyDecodes metadata .cut variant input fields rest := by
  obtain ⟨_, _, each⟩ := matched
  constructor
  · rintro ⟨raw, ⟨fuel, run⟩, rfl⟩
    have follows : List.Forall₂ (Follows metadata (Field.decode cells fuel)
        (direct metadata .cut fuel)) (fieldParts variant.fields) typeDecoder.fields := by
      refine each.imp fun part field field_matched => ?_
      obtain ⟨type, found, same_name, same_index, simulates⟩ :=
        field_matched.follows resolved fun less _ => typesFollow distinct resolved less
      refine ⟨type, found, same_name, same_index, ?_⟩
      rw [Field.decode_eq field_matched.isNil]
      exact simulates
    rcases simulates_decodeFields follows _ input raw rest run with ⟨erased, ran, same⟩ | ⟨_, _, bad⟩
    · rw [eraseFields_eq same]
      exact ⟨fuel, ran⟩
    · exact bad.elim
  · rintro ⟨fuel, run⟩
    have leads : List.Forall₂ (Leads metadata (direct metadata .cut fuel)
        (Field.decode cells (3 * fuel + 1))) (fieldParts variant.fields) typeDecoder.fields := by
      refine each.imp fun part field field_matched => ?_
      obtain ⟨type, found, same_name, same_index, simulates⟩ :=
        field_matched.leads resolved (typesLead distinct resolved fuel) le_rfl
      refine ⟨type, found, same_name, same_index, ?_⟩
      rw [Field.decode_eq field_matched.isNil]
      exact simulates
    rcases simulates_directParts_of_leads leads (.wrap errTypeFieldDecoding) input fields rest run with
      ⟨raw, ran, same⟩ | ⟨_, _, bad⟩
    · exact ⟨raw, ⟨3 * fuel + 1, ran⟩, eraseFields_eq same.flip⟩
    · exact bad.elim

theorem keys_eq_of_matches {entries : List (κ × TypeDecoder)} {variants : List Si1Variant}
    {overrides : Int64 → Option FieldDecoder}
    (each : List.Forall₂ (EntryMatches kind metadata overrides planted pallet) variants entries) :
    entries.map Prod.fst = variants.map fun variant => kind.key pallet.index variant.index := by
  induction each with
  | nil => rfl
  | cons first _ ih => rw [List.map_cons, List.map_cons, ih, first.1]

theorem keys_flatten_eq {entries : List (List (κ × TypeDecoder))} {pallets : List PalletMetadataV14}
    {overrides : Int64 → Option FieldDecoder}
    (each : List.Forall₂ (fun pallet => List.Forall₂
      (EntryMatches kind metadata overrides planted pallet) (palletVariants kind metadata pallet))
      pallets entries) :
    entries.flatten.map Prod.fst = pallets.flatMap fun pallet =>
      (palletVariants kind metadata pallet).map fun variant => kind.key pallet.index variant.index := by
  induction each with
  | nil => rfl
  | cons first _ ih =>
      rw [List.flatten_cons, List.map_append, ih, keys_eq_of_matches first, List.flatMap_cons]

theorem palletVariants_nodup (kind : RegistryKind κ) (distinct : metadata.DistinctIndices)
    (pallet : PalletMetadataV14) :
    ((palletVariants kind metadata pallet).map Si1Variant.index).Nodup := by
  unfold palletVariants
  split
  · exact List.nodup_nil
  · split
    · exact List.nodup_nil
    · rename_i type found
      split_ifs with flag
      · exact distinct.variants _ type found flag
      · exact List.nodup_nil

/-- Distinct indices give distinct keys. -/
theorem keys_nodup (distinct : metadata.DistinctIndices) :
    (metadata.pallets.flatMap fun pallet => (palletVariants kind metadata pallet).map
      fun variant => kind.key pallet.index variant.index).Nodup := by
  refine List.nodup_flatMap.mpr ⟨fun pallet _ => ?_, ?_⟩
  · have injective : Function.Injective (kind.key pallet.index) :=
      fun _ _ same => (kind.key_inj same).2
    have mapped := (palletVariants_nodup kind distinct pallet).map injective
    rwa [List.map_map] at mapped
  · refine (List.pairwise_map.mp distinct.pallets).imp fun {left right} apart => ?_
    intro key in_left in_right
    obtain ⟨_, _, rfl⟩ := List.mem_map.mp in_left
    obtain ⟨_, _, same⟩ := List.mem_map.mp in_right
    exact apart (kind.key_inj same).1.symm

/-- The registry maps the key of every variant to the type decoder made for it. -/
theorem Traversed.lookup_entry [BEq κ] [LawfulBEq κ]
    (traversed : Traversed kind metadata before walked registry) (distinct : metadata.DistinctIndices)
    (pallet_member : pallet ∈ metadata.pallets) (is_entry : IsEntry kind metadata pallet variant) :
    ∃ typeDecoder, registry.lookup (kind.key pallet.index variant.index) = some typeDecoder ∧
      EntryMatches kind metadata (overrideStorage before.fieldOverrides) walked.Noted pallet variant
        (kind.key pallet.index variant.index, typeDecoder) := by
  obtain ⟨entries, rfl, each⟩ := traversed.entries
  obtain ⟨some_entries, found, matched⟩ := exists_related_of_mem_left each pallet_member
  obtain ⟨⟨key, typeDecoder⟩, member, matched⟩ :=
    exists_related_of_mem_left matched ((mem_palletVariants kind metadata).mpr is_entry)
  obtain rfl : key = kind.key pallet.index variant.index := matched.1
  have distinct_keys : (entries.flatten.reverse.map Prod.fst).Nodup := by
    rw [List.map_reverse, List.nodup_reverse, keys_flatten_eq each]
    exact keys_nodup distinct
  refine ⟨typeDecoder, (lookup_eq_some_iff_mem distinct_keys).mpr ?_, matched⟩
  exact List.mem_reverse.mpr (List.mem_flatten.mpr ⟨some_entries, found, member⟩)

/-- The registry's decoder and direct decoding return the same fields and rest. -/
def Agrees (metadata : MetadataV14) (cells : Cells) (typeDecoder : TypeDecoder)
    (variant : Si1Variant) (input : List UInt8) : Prop :=
  ∀ fields rest,
    (∃ raw, typeDecoder.Decodes cells input raw rest ∧ eraseFields raw = fields) ↔
      DirectlyDecodes metadata .full variant input fields rest

/-- Without overrides, the decoder of a variant agrees with direct decoding on exactly the inputs in which
no sequence length beyond the capacity of a Go slice is met, and on those that are rejected with the
lengths taken in full and with the lengths cut to 64 bits. -/
theorem registry_agrees_iff [DecidableEq κ] (kind : RegistryKind κ) (metadata : MetadataV14)
    (mapOrder : MapOrder) (fuel : Nat) (before final : Factory) (registry : TypeRegistry κ)
    (pallet : PalletMetadataV14) (variant : Si1Variant) (no_overrides : before.fieldOverrides = [])
    (distinct : metadata.DistinctIndices)
    (created : createRegistry kind metadata mapOrder fuel before = .ok (registry, final))
    (pallet_member : pallet ∈ metadata.pallets) (is_entry : IsEntry kind metadata pallet variant) :
    ∃ typeDecoder, registry.lookup (kind.key pallet.index variant.index) = some typeDecoder ∧
      ∀ input, Agrees metadata final.cells typeDecoder variant input ↔
        ¬ MeetsOverlong metadata variant input ∨
          Rejects metadata .full variant input ∧ Rejects metadata .cut variant input := by
  obtain ⟨walked, traversal, resolution⟩ := createRegistry_eq_ok created
  have traversed := traverse_traversed kind metadata traversal
  obtain ⟨typeDecoder, stored, matched⟩ := traversed.lookup_entry distinct pallet_member is_entry
  have resolved := traversed.resolved resolution
  rw [no_overrides] at matched resolved
  refine ⟨typeDecoder, stored, fun input => ?_⟩
  unfold Agrees
  simp only [EntryMatches.decodes_iff_cut distinct resolved matched]
  constructor
  · intro agrees
    by_cases overlong : MeetsOverlong metadata variant input
    · refine .inr ⟨fun fields rest full => ?_, fun fields rest cut => ?_⟩
      · exact not_meetsOverlong full ((agrees fields rest).mpr full) overlong
      · exact not_meetsOverlong ((agrees fields rest).mp cut) cut overlong
    · exact .inl overlong
  · rintro (short | ⟨full, cut⟩) fields rest
    · exact (full_iff_cut short).symm
    · exact ⟨fun decodes => absurd decodes (cut fields rest),
        fun decodes => absurd decodes (full fields rest)⟩

end Returned

/-- A call `remark(Vec<u8>)`. -/
def remarkVariant : Si1Variant := ⟨"remark", [⟨true, "remark", (2 : Int), false, ""⟩], 0⟩

/-- Metadata with the call `remark`. -/
def remarkMetadata : MetadataV14 where
  pallets := [⟨"System", true, (3 : Int), false, (0 : Int), false, (0 : Int), 0⟩]
  efficientLookup := toMap
    [⟨(1 : Int), [], { isPrimitive := true, primitive := 3 }⟩,
      ⟨(2 : Int), [], { isSequence := true, sequence := (1 : Int) }⟩,
      ⟨(3 : Int), [], { isVariant := true, variant := [remarkVariant] }⟩]

theorem remarkMetadata_distinct : remarkMetadata.DistinctIndices :=
  distinctIndices_toMap (by decide) (by decide)

theorem remark_isEntry : IsEntry callKind remarkMetadata
    ⟨"System", true, (3 : Int), false, (0 : Int), false, (0 : Int), 0⟩ remarkVariant :=
  ⟨_, _, rfl, rfl, rfl, List.mem_singleton_self _⟩

theorem registry_agrees_iff_remark :
    ∃ registry final typeDecoder,
      createCallRegistry remarkMetadata .newestFirst 3 (newFactory [] []) = .ok (registry, final) ∧
        registry.lookup ⟨0, 0⟩ = some typeDecoder ∧
        ∀ input, Agrees remarkMetadata final.cells typeDecoder remarkVariant input ↔
          ¬ MeetsOverlong remarkMetadata remarkVariant input ∨
            Rejects remarkMetadata .full remarkVariant input ∧
              Rejects remarkMetadata .cut remarkVariant input := by
  obtain ⟨typeDecoder, stored, agrees⟩ := registry_agrees_iff callKind remarkMetadata .newestFirst 3
    (newFactory [] []) _ _ _ _ rfl remarkMetadata_distinct rfl (List.mem_singleton_self _)
    remark_isEntry
  exact ⟨_, _, typeDecoder, rfl, stored, agrees⟩

/-- A remark of length `2 ^ 64`: the registry returns no bytes, direct decoding does not. -/
theorem registry_disagrees_on_overlong :
    ∃ registry final typeDecoder,
      createCallRegistry remarkMetadata .newestFirst 3 (newFactory [] []) = .ok (registry, final) ∧
        registry.lookup ⟨0, 0⟩ = some typeDecoder ∧
        ¬ Agrees remarkMetadata final.cells typeDecoder remarkVariant
          [0x17, 0, 0, 0, 0, 0, 0, 0, 0, 1] := by
  refine ⟨_, _, _, rfl, rfl, fun agrees => ?_⟩
  have full := (agrees [⟨"remark", .slice [], 2⟩] []).mp
    ⟨[⟨"remark", .slice [], 2⟩], ⟨3, by rfl⟩, by rfl⟩
  exact not_meetsOverlong full ⟨3, by rfl⟩ ⟨3, by rfl⟩

end SubstrateClient.Registry
