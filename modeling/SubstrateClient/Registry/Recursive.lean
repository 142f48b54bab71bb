import SubstrateClient.Registry.Resolution

/-!
# Recursive decoders of a registry

A recursive decoder that can be reached in a returned registry holds the decoder stored for its lookup
index, so decoding never fails for want of it.
-/

namespace SubstrateClient.Registry

open ByteParser ListLookup Scale SubstrateClient.Types

/-! ## Reachable decoders -/

/-- One decoder calls the other. -/
inductive Calls (cells : Cells) : FieldDecoder → FieldDecoder → Prop
  | variant {fieldDecoderMap : List (UInt8 × FieldDecoder)} {index : UInt8} {inner : FieldDecoder}
      (member : (index, inner) ∈ fieldDecoderMap) : Calls cells (.variant fieldDecoderMap) inner
  | array {length : Nat} {item : FieldDecoder} : Calls cells (.array length item) item
  | slice {item : FieldDecoder} : Calls cells (.slice item) item
  | composite {name : String} {fields : List (Field FieldDecoder)} {field : Field FieldDecoder}
      (member : field ∈ fields) : Calls cells (.composite name fields) field.decoder
  | recursive {cell : Nat} {inner : FieldDecoder} (set : cells[cell]? = some inner) :
      Calls cells (.recursive cell) inner

/-- The decoder is called by another one, at any depth. -/
def CallsDeep (cells : Cells) : FieldDecoder → FieldDecoder → Prop :=
  Relation.ReflTransGen (Calls cells)

/-- The decoder contains no recursive decoder. -/
def RecursionFree (decoder : FieldDecoder) : Prop :=
  ∀ inner, CallsDeep [] decoder inner → inner.isRecursive = false

/-- The decoder is reached from the registry through fields, items and variants. -/
def Reachable {κ : Type} (cells : Cells) (registry : TypeRegistry κ) (decoder : FieldDecoder) : Prop :=
  ∃ entry ∈ registry, ∃ field ∈ entry.2.fields, CallsDeep cells field.decoder decoder

theorem RecursionFree.calls {cells : Cells} {decoder inner : FieldDecoder}
    (free : RecursionFree decoder) (calls : Calls cells decoder inner) : RecursionFree inner := by
  have calls_plain : Calls [] decoder inner := by
    cases calls with
    | variant member => exact .variant member
    | array => exact .array
    | slice => exact .slice
    | composite member => exact .composite member
    | recursive set => exact absurd rfl (ne_true_of_eq_false (free _ .refl))
  exact fun deeper path => free deeper (.head calls_plain path)

/-! ## Decoders made by the factory -/

section Made

variable (metadata : MetadataV14) (overrides : Int64 → Option FieldDecoder)
  (planted : Int64 → Nat → Prop) (foreign : FieldDecoder → Prop)

/-- The decoders that occur in a registry whose overrides are of the foreign kind. -/
inductive Made : FieldDecoder → Prop
  | ofType {typeDef : Si1TypeDef} {decoder : FieldDecoder}
      (made : Matches metadata overrides planted typeDef decoder) : Made decoder
  | ofCompact {typeDef : Si1TypeDef} {decoder : FieldDecoder}
      (made : CompactMatches metadata typeDef decoder) : Made decoder
  | ofVariant {parts : List Part} {name : String} {fields : List (Field FieldDecoder)}
      (each : List.Forall₂ (FieldMatches metadata overrides planted) parts fields) :
      Made (.composite name fields)
  | noop : Made .noop
  | foreign {decoder : FieldDecoder} (kind : foreign decoder) : Made decoder
  | cut {index : Int64} {cell : Nat} (mark : planted index cell) (free : overrides index = none) :
      Made (.recursive cell)

variable {metadata overrides planted foreign}
  (foreign_overrides : ∀ index decoder, overrides index = some decoder → foreign decoder)

include foreign_overrides in
theorem FieldMatches.made {part : Part} {field : Field FieldDecoder}
    (matched : FieldMatches metadata overrides planted part field) :
    Made metadata overrides planted foreign field.decoder := by
  cases matched with
  | overridden found stored => exact .foreign (foreign_overrides _ _ stored)
  | cut found free mark => exact .cut mark free
  | built found free inner => exact .ofType inner

theorem CompactMatches.calls {cells : Cells} {typeDef : Si1TypeDef} {decoder inner : FieldDecoder}
    (made : CompactMatches metadata typeDef decoder) (calls : Calls cells decoder inner) :
    ∃ typeDef, CompactMatches metadata typeDef inner := by
  cases made with
  | primitive => cases calls
  | emptyTuple => cases calls
  | tuple shape each =>
      cases calls with
      | composite member =>
          obtain ⟨part, _, matched⟩ := exists_related_of_mem each member
          obtain ⟨_, inner_made⟩ := matched
          exact ⟨_, inner_made⟩
  | composite shape each =>
      cases calls with
      | composite member =>
          obtain ⟨part, _, matched⟩ := exists_related_of_mem each member
          obtain ⟨_, inner_made⟩ := matched
          exact ⟨_, inner_made⟩

include foreign_overrides in
theorem Matches.calls {cells : Cells} {typeDef : Si1TypeDef} {decoder inner : FieldDecoder}
    (made : Matches metadata overrides planted typeDef decoder) (calls : Calls cells decoder inner) :
    Made metadata overrides planted foreign inner := by
  cases made with
  | compact shape found compact =>
      obtain ⟨_, inner_made⟩ := compact.calls calls
      exact .ofCompact inner_made
  | composite shape each =>
      cases calls with
      | composite member =>
          obtain ⟨part, _, matched⟩ := exists_related_of_mem each member
          exact matched.made foreign_overrides
  | variant shape each =>
      cases calls with
      | variant member =>
          obtain ⟨variant, _, matched⟩ := exists_related_of_mem each (List.mem_reverse.mp member)
          cases matched with
          | empty bare => exact .noop
          | fields filled each => exact .ofVariant each
  | primitive => cases calls
  | array shape found item_made =>
      cases calls
      exact .ofType item_made
  | sequence shape found item_made =>
      cases calls
      exact .ofType item_made
  | emptyTuple => cases calls
  | tuple shape each =>
      cases calls with
      | composite member =>
          obtain ⟨part, _, matched⟩ := exists_related_of_mem each member
          obtain ⟨_, item_made⟩ := matched
          exact .ofType item_made
  | bitSequence => cases calls

include foreign_overrides in
/-- Decoders of a resolved registry only call decoders of that registry. -/
theorem Made.calls {cells : Cells} {decoder inner : FieldDecoder}
    (resolved : Resolved metadata overrides planted cells)
    (closed : ∀ decoder inner, foreign decoder → Calls cells decoder inner → foreign inner)
    (made : Made metadata overrides planted foreign decoder) (calls : Calls cells decoder inner) :
    Made metadata overrides planted foreign inner := by
  cases made with
  | ofType made => exact made.calls foreign_overrides calls
  | ofCompact made =>
      obtain ⟨_, inner_made⟩ := made.calls calls
      exact .ofCompact inner_made
  | ofVariant each =>
      cases calls with
      | composite member =>
          obtain ⟨part, _, matched⟩ := exists_related_of_mem each member
          exact matched.made foreign_overrides
  | noop => cases calls
  | foreign kind => exact .foreign (closed _ _ kind calls)
  | cut mark free =>
      cases calls with
      | recursive set =>
          obtain ⟨stored, type, filled, _, made⟩ := resolved _ _ mark free
          rw [set] at filled
          cases filled
          exact .ofType made

include foreign_overrides in
theorem Made.callsDeep {cells : Cells} {decoder inner : FieldDecoder}
    (resolved : Resolved metadata overrides planted cells)
    (closed : ∀ decoder inner, foreign decoder → Calls cells decoder inner → foreign inner)
    (made : Made metadata overrides planted foreign decoder) (path : CallsDeep cells decoder inner) :
    Made metadata overrides planted foreign inner := by
  induction path with
  | refl => exact made
  | tail _ calls ih => exact ih.calls foreign_overrides resolved closed calls

/-- A recursive decoder of a registry was planted. -/
theorem Made.planted_of_recursive {cell : Nat}
    (made : Made metadata overrides planted RecursionFree (.recursive cell)) :
    ∃ index, planted index cell ∧ overrides index = none := by
  cases made with
  | ofType made => exact absurd rfl (ne_true_of_eq_false made.isRecursive)
  | ofCompact made => exact absurd rfl (ne_true_of_eq_false made.isRecursive)
  | foreign free => exact absurd rfl (ne_true_of_eq_false (free _ .refl))
  | cut mark free => exact ⟨_, mark, free⟩

variable (plain_overrides : ∀ index decoder, overrides index = some decoder → RecursionFree decoder)

include plain_overrides in
/-- A field cut off by a recursive decoder was planted under the lookup index of the field. -/
theorem FieldMatches.planted_lookupIndex {part : Part} {field : Field FieldDecoder} {cell : Nat}
    (matched : FieldMatches metadata overrides planted part field)
    (recursive : field.decoder = .recursive cell) : planted field.lookupIndex cell := by
  cases matched with
  | overridden found stored =>
      cases recursive
      exact absurd rfl (ne_true_of_eq_false (plain_overrides _ _ stored _ .refl))
  | cut found free mark =>
      cases recursive
      exact mark
  | built found free inner =>
      cases recursive
      exact absurd rfl (ne_true_of_eq_false inner.isRecursive)

theorem CompactPart.not_recursive {part : Part} {field : Field FieldDecoder}
    (matched : CompactPart metadata part field) : field.decoder.isRecursive = false := by
  obtain ⟨_, inner⟩ := matched
  exact inner.isRecursive

theorem ItemMatches.not_recursive {part : Part} {field : Field FieldDecoder}
    (matched : ItemMatches metadata overrides planted part field) :
    field.decoder.isRecursive = false := by
  obtain ⟨_, inner⟩ := matched
  exact inner.isRecursive

theorem CompactMatches.fields_not_recursive {typeDef : Si1TypeDef} {name : String}
    {fields : List (Field FieldDecoder)}
    (made : CompactMatches metadata typeDef (.composite name fields)) {field : Field FieldDecoder}
    (member : field ∈ fields) : field.decoder.isRecursive = false := by
  cases made with
  | tuple shape each =>
      obtain ⟨part, _, matched⟩ := exists_related_of_mem each member
      exact matched.not_recursive
  | composite shape each =>
      obtain ⟨part, _, matched⟩ := exists_related_of_mem each member
      exact matched.not_recursive

include plain_overrides in
theorem Made.planted_lookupIndex {name : String} {fields : List (Field FieldDecoder)}
    {field : Field FieldDecoder} {cell : Nat}
    (made : Made metadata overrides planted RecursionFree (.composite name fields)) (member : field ∈ fields)
    (recursive : field.decoder = .recursive cell) : planted field.lookupIndex cell := by
  have not_plain : ¬ field.decoder.isRecursive = false := by
    rw [recursive]
    exact Bool.noConfusion
  cases made with
  | ofType made =>
      cases made with
      | compact shape found compact =>
          exact absurd (compact.fields_not_recursive member) not_plain
      | composite shape each =>
          obtain ⟨part, _, matched⟩ := exists_related_of_mem each member
          exact matched.planted_lookupIndex plain_overrides recursive
      | tuple shape each =>
          obtain ⟨part, _, matched⟩ := exists_related_of_mem each member
          exact absurd matched.not_recursive not_plain
  | ofCompact made => exact absurd (made.fields_not_recursive member) not_plain
  | ofVariant each =>
      obtain ⟨part, _, matched⟩ := exists_related_of_mem each member
      exact matched.planted_lookupIndex plain_overrides recursive
  | foreign free =>
      exact absurd (free _ (.single (.composite member))) not_plain

end Made

/-! ## Errors of decoding -/

section Errors

variable {constant : String}

/-- Errors that carry the declared constant. -/
abbrev Carries (constant : String) (reason : GoError) : Prop := reason.mentions constant = true

theorem avoids_readOneByte : Avoids (Carries constant) readOneByte := by
  intro input reason run
  cases input with
  | nil =>
      cases run
      simp
  | cons byte input => cases run

theorem avoids_read (count : Nat) : Avoids (Carries constant) (Scale.read count) := by
  intro input reason run
  unfold Scale.read at run
  split_ifs at run <;> cases run <;> simp

theorem avoids_binaryRead (size : Nat) : Avoids (Carries constant) (binaryRead size) := by
  intro input reason run
  unfold binaryRead at run
  split_ifs at run <;> cases run <;> simp

theorem avoids_text (message : String) {α : Type} :
    Avoids (Carries constant) (fail (.text message) : Decoder α) :=
  avoids_fail (by simp)

theorem avoids_decodeUintCompact : Avoids (Carries constant) decodeUintCompact := by
  unfold decodeUintCompact
  refine avoids_readOneByte.bind fun first => ?_
  split_ifs
  · exact avoids_pure _
  · exact avoids_readOneByte.bind fun second => avoids_pure _
  · exact (avoids_read 3).bind fun buffer => avoids_pure _
  · dsimp only
    split_ifs
    · exact avoids_text _
    · exact (avoids_read _).bind fun buffer => avoids_pure _

theorem avoids_decodeString (target : List UInt8) :
    Avoids (Carries constant) ((GoType.string : GoType .none).decode target) := by
  refine Avoids.bind (fun input reason run => ?_) fun bytes => avoids_pure _
  unfold decodeSlice at run
  split at run
  · unfold decodeItems at run
    split_ifs at run
    · cases run
      simp
    · cases run
      simp
    · cases run
    · have item (byte : UInt8) : Avoids (Carries constant) (decodeByte byte) :=
        (avoids_binaryRead 1).bind fun _ => avoids_pure _
      exact (avoids_mapM fun byte _ => item byte).bind (fun _ => avoids_pure _) _ reason run
  · cases run

/-- The value decoders of the scale codec return no declared error. -/
theorem avoids_decodeKind (kind : ValueKind) : Avoids (Carries constant) kind.decode := by
  cases kind with
  | bool =>
      exact ((avoids_binaryRead 1).bind fun _ => avoids_pure _).bind fun _ => avoids_pure _
  | byte =>
      exact ((avoids_binaryRead 1).bind fun _ => avoids_pure _).bind fun _ => avoids_pure _
  | string => exact (avoids_decodeString []).bind fun _ => avoids_pure _
  | num kind =>
      exact ((avoids_binaryRead kind.size).bind fun _ => avoids_pure _).bind fun _ => avoids_pure _
  | big kind =>
      exact ((avoids_read kind.size).bind fun _ => avoids_pure _).bind fun _ => avoids_pure _
  | uCompact =>
      exact (avoids_decodeUintCompact.bind fun _ => avoids_pure _).bind fun _ => avoids_pure _
  | any => exact avoids_text _

theorem avoids_bitVec (bitOrder : BitOrder) :
    Avoids (Carries constant) (BitVec.decode bitOrder) := by
  have size : Avoids (Carries constant) getMinimumNumberOfBytes := by
    refine avoids_decodeUintCompact.bind fun number => ?_
    dsimp only
    split_ifs
    · exact avoids_text _
    · exact avoids_pure _
  exact size.bind fun numBytes => (avoids_readOneByte.times numBytes).bind fun _ => avoids_pure _

/-- Wrapping in another constant does not bring in this one. -/
theorem avoids_wrap {α : Type} {outer : GoError} {decoder : Decoder α}
    (avoids : Avoids (Carries constant) decoder) (other : outer.mentions constant = false) :
    Avoids (Carries constant) (decoder.mapError (.wrap outer)) :=
  avoids.mapError fun reason carries => by
    simpa [Carries, other] using carries

end Errors

theorem avoids_decodeItems {constant : String} {item : Decoder Value}
    (avoids : Avoids (Carries constant) item) (count : Nat) :
    Avoids (Carries constant) (FieldDecoder.decodeItems item count) := by
  unfold FieldDecoder.decodeItems
  split_ifs
  · exact avoids_abort
  · exact (avoids.times count).bind fun _ => avoids_pure _

/-- Every recursive decoder at any depth has its inner decoder. -/
def Complete (cells : Cells) (decoder : FieldDecoder) : Prop :=
  ∀ cell, CallsDeep cells decoder (.recursive cell) →
    ∃ inner, cells[cell]? = some inner ∧ inner.isNil = false

theorem Complete.calls {cells : Cells} {decoder inner : FieldDecoder}
    (complete : Complete cells decoder) (calls : Calls cells decoder inner) : Complete cells inner :=
  fun cell path => complete cell (.head calls path)

/-- A complete decoder never reports a missing inner decoder. -/
theorem Complete.avoids {cells : Cells} {decoder : FieldDecoder} (complete : Complete cells decoder)
    (fuel : Nat) :
    Avoids (Carries "recursive field decoder not found") (decoder.decode cells fuel) := by
  induction fuel generalizing decoder with
  | zero => exact avoids_exhaust
  | succ fuel ih =>
      cases decoder with
      | nil => exact avoids_abort
      | noop => exact avoids_pure _
      | variant fieldDecoderMap =>
          refine (avoids_wrap avoids_readOneByte (by decide)).bind fun variantByte => ?_
          split
          · exact avoids_fail (by simp [errVariantFieldDecoderNotFound])
          · rename_i inner selected
            split_ifs
            · exact avoids_pure _
            · exact ih (complete.calls (.variant (mem_of_lookup selected)))
      | array length item =>
          rw [FieldDecoder.decode_array]
          split_ifs
          · exact avoids_fail (by decide)
          · exact avoids_decodeItems (avoids_wrap (ih (complete.calls .array)) (by decide)) length
      | slice item =>
          rw [FieldDecoder.decode_slice]
          split_ifs
          · exact avoids_fail (by decide)
          · refine (avoids_wrap avoids_decodeUintCompact (by decide)).bind fun sliceLen => ?_
            exact avoids_decodeItems (avoids_wrap (ih (complete.calls .slice)) (by decide)) _
      | composite name fields =>
          refine Avoids.bind (avoids_mapM fun field member => ?_) fun _ => avoids_pure _
          exact (avoids_wrap (ih (complete.calls (.composite member))) (by decide)).bind fun _ =>
            avoids_pure _
      | value kind => exact (avoids_wrap (avoids_decodeKind kind) (by decide)).bind fun _ => avoids_pure _
      | recursive cell =>
          obtain ⟨inner, set, present⟩ := complete cell .refl
          rw [FieldDecoder.decode_recursive fuel set present]
          exact ih (complete.calls (.recursive set))
      | bitSequence name bitOrder =>
          exact (avoids_wrap (avoids_bitVec bitOrder) (by decide)).bind fun _ => avoids_pure _
      | custom run =>
          intro input reason failed
          obtain ⟨message, _, rfl⟩ := Outcome.mapError_eq_error.mp failed
          simp

/-! ## Returned registries -/

section Returned

variable {κ : Type} {kind : RegistryKind κ} {metadata : MetadataV14}
  {before walked final : Factory} {registry : TypeRegistry κ}

/-- A field of the registry: of one of its type decoders, or of a composite that they reach. -/
def ReachableField (cells : Cells) (registry : TypeRegistry κ) (field : Field FieldDecoder) : Prop :=
  (∃ entry ∈ registry, field ∈ entry.2.fields) ∨
    ∃ name fields, Reachable cells registry (.composite name fields) ∧ field ∈ fields

/-- An entry of the field storage that holds the overrides is one of them. -/
theorem mem_of_overrideStorage {fieldOverrides : List FieldOverride} {index : Int64}
    {decoder : FieldDecoder} (stored : overrideStorage fieldOverrides index = some decoder) :
    ⟨index, decoder⟩ ∈ fieldOverrides := by
  unfold overrideStorage at stored
  induction fieldOverrides using List.reverseRecOn with
  | nil => cases stored
  | append_singleton fieldOverrides last ih =>
      rw [List.foldl_append] at stored
      simp only [List.foldl_cons, List.foldl_nil] at stored
      by_cases same : index = last.fieldLookupIndex
      · rw [same, Function.update_self] at stored
        cases stored
        rw [same]
        exact List.mem_append_right _ (List.mem_singleton_self last)
      · rw [Function.update_of_ne same] at stored
        exact List.mem_append_left _ (ih stored)

/-- Every entry of the registry belongs to a variant of a pallet. -/
theorem Traversed.entry_matches (traversed : Traversed kind metadata before walked registry)
    {entry : κ × TypeDecoder} (member : entry ∈ registry) :
    ∃ pallet ∈ metadata.pallets, ∃ variant ∈ palletVariants kind metadata pallet,
      EntryMatches kind metadata (overrideStorage before.fieldOverrides) walked.Noted pallet variant
        entry := by
  obtain ⟨entries, rfl, each⟩ := traversed.entries
  obtain ⟨some_entries, found, member⟩ := List.mem_flatten.mp (List.mem_reverse.mp member)
  obtain ⟨pallet, pallet_member, matched⟩ := exists_related_of_mem each found
  obtain ⟨variant, variant_member, matched⟩ := exists_related_of_mem matched member
  exact ⟨pallet, pallet_member, variant, variant_member, matched⟩

/-- Every reachable decoder was made by the factory or belongs to an override. -/
theorem Traversed.made {mapOrder : MapOrder} {foreign : FieldDecoder → Prop} {decoder : FieldDecoder}
    (traversed : Traversed kind metadata before walked registry)
    (foreign_overrides : ∀ index decoder,
      overrideStorage before.fieldOverrides index = some decoder → foreign decoder)
    (closed : ∀ decoder inner, foreign decoder → Calls final.cells decoder inner → foreign inner)
    (resolution : resolveRecursiveDecoders mapOrder walked = .ok ((), final))
    (reachable : Reachable final.cells registry decoder) :
    Made metadata (overrideStorage before.fieldOverrides) walked.Noted foreign decoder := by
  obtain ⟨entry, entry_member, field, field_member, path⟩ := reachable
  obtain ⟨pallet, _, variant, _, _, _, each⟩ := traversed.entry_matches entry_member
  obtain ⟨part, _, matched⟩ := exists_related_of_mem each field_member
  exact (matched.made foreign_overrides).callsDeep foreign_overrides (traversed.resolved resolution)
    closed path

section Plain

variable (plain : ∀ fieldOverride ∈ before.fieldOverrides, RecursionFree fieldOverride.fieldDecoder)
  (traversed : Traversed kind metadata before walked registry)

include plain

theorem recursionFree_of_overrideStorage (index : Int64) (decoder : FieldDecoder)
    (stored : overrideStorage before.fieldOverrides index = some decoder) : RecursionFree decoder :=
  plain _ (mem_of_overrideStorage stored)

include traversed

/-- Only indices that are not overridden are noted. -/
theorem Traversed.noted_free {index : Int64} {cell : Nat} (noted : walked.Noted index cell) :
    overrideStorage before.fieldOverrides index = none := by
  rcases traversed.invariant.noted index cell noted with overridden | ⟨free, _⟩
  · have recursion_free := recursionFree_of_overrideStorage plain _ _ overridden
    exact absurd rfl (ne_true_of_eq_false (recursion_free _ .refl))
  · exact free

/-- The entry of a noted index is finished. -/
theorem Traversed.noted_closed {index : Int64} {cell : Nat} (noted : walked.Noted index cell) :
    ∃ decoder, walked.fieldStorage index = some decoder ∧
      Closed metadata (overrideStorage before.fieldOverrides) walked index decoder := by
  rcases traversed.invariant.noted index cell noted with overridden | ⟨free, present⟩
  · rw [traversed.noted_free plain noted] at overridden
    cases overridden
  · obtain ⟨decoder, present⟩ := Option.isSome_iff_exists.mp present
    exact ⟨decoder, present, traversed.finished index decoder free present⟩

/-- Resolution succeeds in every order of the map. -/
theorem Traversed.resolves (mapOrder : MapOrder) :
    ∃ final, resolveRecursiveDecoders mapOrder walked = .ok ((), final) := by
  refine resolveEntries_succeeds fun entry member => ?_
  have noted := (mapOrder.perm walked.recursiveFieldStorage).mem_iff.mp member
  obtain ⟨decoder, present, closed⟩ := traversed.noted_closed plain noted
  exact ⟨decoder, present, closed.isRecursive⟩

variable {mapOrder : MapOrder} (resolution : resolveRecursiveDecoders mapOrder walked = .ok ((), final))

include resolution

/-- A reachable recursive decoder holds the finished decoder of the one index it stands for. -/
theorem Traversed.completed {cell : Nat}
    (reachable : Reachable final.cells registry (.recursive cell)) :
    ∃ index inner, walked.Noted index cell ∧ (∀ other, walked.Noted other cell → other = index) ∧
      final.fieldStorage index = some inner ∧ final.cells[cell]? = some inner ∧
      inner.isNil = false ∧ inner.isRecursive = false := by
  have made := traversed.made (recursionFree_of_overrideStorage plain) (fun _ _ => RecursionFree.calls)
    resolution reachable
  obtain ⟨index, noted, free⟩ := made.planted_of_recursive
  obtain ⟨decoder, present, _⟩ := traversed.noted_closed plain noted
  obtain ⟨inner, type, filled, _, matched⟩ := traversed.resolved resolution index cell noted free
  obtain ⟨storage, cells⟩ := traversed.resolving resolution
  rcases cells index cell noted free with same | ⟨_, none_left⟩
  · rw [filled, present] at same
    cases same
    refine ⟨index, decoder, noted, fun other other_noted => ?_, ?_, filled, matched.isNil,
      matched.isRecursive⟩
    · exact traversed.invariant.same_index other index cell
        ⟨traversed.noted_free plain other_noted, .inr other_noted⟩ ⟨free, .inr noted⟩
    · rw [storage, present]
  · cases none_left

/-- A reachable field that holds a recursive decoder was noted under its own lookup index. -/
theorem Traversed.noted_lookupIndex {field : Field FieldDecoder} {cell : Nat}
    (reachable : ReachableField final.cells registry field)
    (recursive : field.decoder = .recursive cell) : walked.Noted field.lookupIndex cell := by
  have plain_overrides := recursionFree_of_overrideStorage plain
  rcases reachable with ⟨entry, entry_member, field_member⟩ | ⟨name, fields, reachable, field_member⟩
  · obtain ⟨pallet, _, variant, _, _, _, each⟩ := traversed.entry_matches entry_member
    obtain ⟨part, _, matched⟩ := exists_related_of_mem each field_member
    exact matched.planted_lookupIndex plain_overrides recursive
  · have made := traversed.made plain_overrides (fun _ _ => RecursionFree.calls) resolution reachable
    exact made.planted_lookupIndex plain_overrides field_member recursive

/-- No type decoder of the registry misses the inner decoder of a recursive one. -/
theorem Traversed.avoids {entry : κ × TypeDecoder} (entry_member : entry ∈ registry) (fuel : Nat) :
    Avoids (Carries "recursive field decoder not found") (entry.2.decode final.cells fuel) := by
  refine avoids_mapM fun field field_member => ?_
  refine Avoids.bind (avoids_wrap ?_ (by decide)) fun _ => avoids_pure _
  unfold Field.decode
  split_ifs
  · exact avoids_fail (by decide)
  · refine Complete.avoids (fun cell path => ?_) fuel
    obtain ⟨index, inner, _, _, _, filled, present, _⟩ :=
      traversed.completed plain resolution ⟨entry, entry_member, field, field_member, path⟩
    exact ⟨inner, filled, present⟩

end Plain

/-- For overrides without recursive decoders, resolution cannot fail once all pallets are walked; in the
returned registry every recursive decoder holds the finished decoder of the index it stands for, and
decoding never misses it. -/
theorem recursive_decoders_complete (kind : RegistryKind κ) (metadata : MetadataV14)
    (mapOrder : MapOrder) (fuel : Nat) (before walked : Factory) (registry : TypeRegistry κ)
    (plain : ∀ fieldOverride ∈ before.fieldOverrides, RecursionFree fieldOverride.fieldDecoder)
    (run : traverse kind metadata fuel before = .ok (registry, walked)) :
    ∃ final, resolveRecursiveDecoders mapOrder walked = .ok ((), final) ∧
      createRegistry kind metadata mapOrder fuel before = .ok (registry, final) ∧
      (∀ cell, Reachable final.cells registry (.recursive cell) →
        ∃ index inner, walked.Noted index cell ∧
          (∀ other, walked.Noted other cell → other = index) ∧
          final.fieldStorage index = some inner ∧ final.cells[cell]? = some inner ∧
          inner.isNil = false ∧ inner.isRecursive = false) ∧
      (∀ field cell, ReachableField final.cells registry field → field.decoder = .recursive cell →
        walked.Noted field.lookupIndex cell) ∧
      ∀ entry ∈ registry, ∀ steps input reason,
        entry.2.decode final.cells steps input = .error reason →
          reason.mentions "recursive field decoder not found" = false := by
  have traversed := traverse_traversed kind metadata run
  obtain ⟨final, resolution⟩ := traversed.resolves plain mapOrder
  refine ⟨final, resolution, ?_, ?_, ?_, ?_⟩
  · exact Build.bind_eq_ok.mpr ⟨registry, walked, run, Build.bind_eq_ok.mpr
      ⟨(), final, Build.mapError_eq_ok.mpr resolution, rfl⟩⟩
  · exact fun cell reachable => traversed.completed plain resolution reachable
  · exact fun field cell reachable recursive =>
      traversed.noted_lookupIndex plain resolution reachable recursive
  · intro entry member steps input reason failed
    have avoided := traversed.avoids plain resolution member steps input reason failed
    exact Bool.eq_false_iff.mpr avoided

end Returned

/-- A call `grow(tree)` over binary trees: `Tree` has the variants `Leaf` and `Node(Tree, Tree)`. -/
def treeMetadata : MetadataV14 where
  pallets := [⟨"Forest", true, (2 : Int), false, (0 : Int), false, (0 : Int), 7⟩]
  efficientLookup := toMap
    [⟨(1 : Int), ["Tree"], { isVariant := true, variant :=
        [⟨"Leaf", [], 0⟩, ⟨"Node", [⟨true, "left", (1 : Int), false, ""⟩,
          ⟨true, "right", (1 : Int), false, ""⟩], 1⟩] }⟩,
      ⟨(2 : Int), ["Call"], { isVariant := true, variant :=
        [⟨"grow", [⟨true, "tree", (1 : Int), false, ""⟩], 0⟩] }⟩]

theorem recursionFree_noop : RecursionFree .noop := by
  intro inner path
  cases path.cases_head with
  | inl same => rw [← same]; rfl
  | inr step =>
      obtain ⟨_, calls, _⟩ := step
      cases calls

theorem recursive_decoders_complete_tree :
    ∃ registry walked,
      traverse callKind treeMetadata 4 (newFactory [⟨5, .noop⟩] []) = .ok (registry, walked) ∧
        walked.recursiveFieldStorage = [(1, 0)] ∧
        ∃ final, createRegistry callKind treeMetadata .newestFirst 4 (newFactory [⟨5, .noop⟩] []) =
          .ok (registry, final) := by
  refine ⟨_, _, rfl, by decide, ?_⟩
  obtain ⟨final, _, created, _⟩ := recursive_decoders_complete callKind treeMetadata .newestFirst 4
    (newFactory [⟨5, .noop⟩] []) _ _
    (fun fieldOverride member => List.mem_singleton.mp member ▸ recursionFree_noop) rfl
  exact ⟨final, created⟩

end SubstrateClient.Registry
