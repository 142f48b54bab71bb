import Mathlib.Logic.Relation
import SubstrateClient.ListLookup
import SubstrateClient.Registry.Factory

/-!
# Decoders of a type definition

`Matches` says that a decoder has the structure of a type definition.  A field whose type was being
built when the field was visited holds a recursive decoder; `planted` says which cell stands for which
lookup index, and `Resolved` that every such cell holds a decoder of the type it stands for.
-/

namespace SubstrateClient.Registry

open Scale SubstrateClient.Types

/-- A component of a type: its name, given its own type, and the lookup index of that type. -/
structure Part where
  name : Si1Type → String
  lookupIndex : Int64

/-- The components of a composite or of a variant. -/
def fieldParts (fields : List Si1Field) : List Part :=
  fields.map fun field => ⟨getFullFieldName field, field.lookupIndex⟩

/-- The components of a tuple. -/
def itemParts (items : List Si1LookupTypeID) : List Part :=
  items.zipIdx.map fun entry => ⟨fun _ => tupleItemFieldName entry.2, entry.1.int64⟩

/-- The bit order of a bit sequence that the factory supports. -/
def bitOrderOf (metadata : MetadataV14) (bitStoreType bitOrderType : Si1LookupTypeID) :
    Option BitOrder :=
  match metadata.efficientLookup bitStoreType.int64, metadata.efficientLookup bitOrderType.int64 with
  | some storeType, some orderType =>
      if storeType.typeDef.primitive = 3 then
        match newBitOrderFromString (getBitOrderString orderType.path) with
        | .ok bitOrder => some bitOrder
        | _ => none
      else
        none
  | _, _ => none

theorem getBitSequenceDecoder_eq_ok {metadata : MetadataV14} {fieldName : String}
    {storeType orderType : Si1LookupTypeID} {decoder : FieldDecoder}
    (built : getBitSequenceDecoder metadata fieldName storeType orderType = .ok decoder) :
    ∃ bitOrder, bitOrderOf metadata storeType orderType = some bitOrder ∧
      decoder = .bitSequence fieldName bitOrder := by
  unfold getBitSequenceDecoder at built
  split at built
  · cases built
  · rename_i store store_found
    split at built
    · cases built
    · rename_i supported
      split at built
      · cases built
      · rename_i order order_found
        obtain ⟨bitOrder, parsed, returned⟩ := Outcome.bind_eq_ok.mp built
        cases returned
        rw [Outcome.mapError_eq_ok] at parsed
        refine ⟨bitOrder, ?_, rfl⟩
        rw [bitOrderOf, store_found, order_found]
        simp only [not_not.mp supported, if_true, parsed]

section Matching

variable (metadata : MetadataV14)

mutual

/-- The decoder reads the compact form of the type. -/
inductive CompactMatches : Si1TypeDef → FieldDecoder → Prop
  | primitive {typeDef : Si1TypeDef} (shape : typeDef.compactShape = .primitive) :
      CompactMatches typeDef (.value .uCompact)
  | emptyTuple {typeDef : Si1TypeDef} (shape : typeDef.compactShape = .tuple none) :
      CompactMatches typeDef (.value .any)
  | tuple {typeDef : Si1TypeDef} {items : List Si1LookupTypeID} {name : String}
      {fields : List (Field FieldDecoder)} (shape : typeDef.compactShape = .tuple (some items))
      (each : List.Forall₂ CompactPart (itemParts items) fields) :
      CompactMatches typeDef (.composite name fields)
  | composite {typeDef : Si1TypeDef} {parts : List Si1Field} {name : String}
      {fields : List (Field FieldDecoder)} (shape : typeDef.compactShape = .composite parts)
      (each : List.Forall₂ CompactPart (fieldParts parts) fields) :
      CompactMatches typeDef (.composite name fields)

/-- A component in compact form. -/
inductive CompactPart : Part → Field FieldDecoder → Prop
  | intro {part : Part} {type : Si1Type} {decoder : FieldDecoder}
      (found : metadata.efficientLookup part.lookupIndex = some type)
      (inner : CompactMatches type.typeDef decoder) :
      CompactPart part ⟨part.name type, decoder, part.lookupIndex⟩

end

variable (overrides : Int64 → Option FieldDecoder) (planted : Int64 → Nat → Prop)

mutual

/-- The decoder has the structure of the type definition. -/
inductive Matches : Si1TypeDef → FieldDecoder → Prop
  | compact {typeDef : Si1TypeDef} {id : Si1LookupTypeID} {type : Si1Type} {decoder : FieldDecoder}
      (shape : typeDef.shape = .compact id)
      (found : metadata.efficientLookup id.int64 = some type)
      (inner : CompactMatches metadata type.typeDef decoder) : Matches typeDef decoder
  | composite {typeDef : Si1TypeDef} {parts : List Si1Field} {name : String}
      {fields : List (Field FieldDecoder)} (shape : typeDef.shape = .composite parts)
      (each : List.Forall₂ FieldMatches (fieldParts parts) fields) :
      Matches typeDef (.composite name fields)
  | variant {typeDef : Si1TypeDef} {variants : List Si1Variant}
      {entries : List (UInt8 × FieldDecoder)} (shape : typeDef.shape = .variant variants)
      (each : List.Forall₂ VariantMatches variants entries) :
      Matches typeDef (.variant entries.reverse)
  | primitive {typeDef : Si1TypeDef} {primitive : UInt8} {kind : ValueKind}
      (shape : typeDef.shape = .primitive primitive) (known : primitiveKind primitive = some kind) :
      Matches typeDef (.value kind)
  | array {typeDef : Si1TypeDef} {len : UInt32} {id : Si1LookupTypeID} {type : Si1Type}
      {item : FieldDecoder} (shape : typeDef.shape = .array len id)
      (found : metadata.efficientLookup id.int64 = some type)
      (inner : Matches type.typeDef item) : Matches typeDef (.array len.toNat item)
  | sequence {typeDef : Si1TypeDef} {id : Si1LookupTypeID} {type : Si1Type}
      {item : FieldDecoder} (shape : typeDef.shape = .sequence id)
      (found : metadata.efficientLookup id.int64 = some type)
      (inner : Matches type.typeDef item) : Matches typeDef (.slice item)
  | emptyTuple {typeDef : Si1TypeDef} (shape : typeDef.shape = .tuple none) : Matches typeDef .noop
  | tuple {typeDef : Si1TypeDef} {items : List Si1LookupTypeID} {name : String}
      {fields : List (Field FieldDecoder)} (shape : typeDef.shape = .tuple (some items))
      (each : List.Forall₂ ItemMatches (itemParts items) fields) :
      Matches typeDef (.composite name fields)
  | bitSequence {typeDef : Si1TypeDef} {storeType orderType : Si1LookupTypeID} {name : String}
      {bitOrder : BitOrder} (shape : typeDef.shape = .bitSequence storeType orderType)
      (supported : bitOrderOf metadata storeType orderType = some bitOrder) :
      Matches typeDef (.bitSequence name bitOrder)

/-- A tuple item, which is never looked up in the field storage. -/
inductive ItemMatches : Part → Field FieldDecoder → Prop
  | intro {part : Part} {type : Si1Type} {decoder : FieldDecoder}
      (found : metadata.efficientLookup part.lookupIndex = some type)
      (inner : Matches type.typeDef decoder) :
      ItemMatches part ⟨part.name type, decoder, part.lookupIndex⟩

/-- A field: overridden, cut off by a recursive decoder, or built from its type. -/
inductive FieldMatches : Part → Field FieldDecoder → Prop
  | overridden {part : Part} {type : Si1Type} {decoder : FieldDecoder}
      (found : metadata.efficientLookup part.lookupIndex = some type)
      (stored : overrides part.lookupIndex = some decoder) :
      FieldMatches part ⟨part.name type, decoder, part.lookupIndex⟩
  | cut {part : Part} {type : Si1Type} {cell : Nat}
      (found : metadata.efficientLookup part.lookupIndex = some type)
      (free : overrides part.lookupIndex = none) (mark : planted part.lookupIndex cell) :
      FieldMatches part ⟨part.name type, .recursive cell, part.lookupIndex⟩
  | built {part : Part} {type : Si1Type} {decoder : FieldDecoder}
      (found : metadata.efficientLookup part.lookupIndex = some type)
      (free : overrides part.lookupIndex = none) (inner : Matches type.typeDef decoder) :
      FieldMatches part ⟨part.name type, decoder, part.lookupIndex⟩

/-- A variant's entry in the decoder map. -/
inductive VariantMatches : Si1Variant → UInt8 × FieldDecoder → Prop
  | empty {variant : Si1Variant} (bare : variant.fields = []) :
      VariantMatches variant (variant.index, .noop)
  | fields {variant : Si1Variant} {name : String} {fields : List (Field FieldDecoder)}
      (filled : variant.fields ≠ [])
      (each : List.Forall₂ FieldMatches (fieldParts variant.fields) fields) :
      VariantMatches variant (variant.index, .composite name fields)

end

/-- Every planted cell holds a decoder of the type it stands for. -/
def Resolved (cells : Cells) : Prop :=
  ∀ index cell, planted index cell → overrides index = none →
    ∃ decoder type, cells[cell]? = some decoder ∧
      metadata.efficientLookup index = some type ∧
      Matches metadata overrides planted type.typeDef decoder

end Matching

variable {metadata : MetadataV14} {overrides : Int64 → Option FieldDecoder}
  {planted : Int64 → Nat → Prop} {typeDef : Si1TypeDef} {decoder : FieldDecoder}

theorem CompactMatches.isRecursive (made : CompactMatches metadata typeDef decoder) :
    decoder.isRecursive = false := by
  cases made <;> rfl

theorem CompactMatches.isNil (made : CompactMatches metadata typeDef decoder) :
    decoder.isNil = false := by
  cases made <;> rfl

/-- The factory never builds a recursive decoder for a type itself. -/
theorem Matches.isRecursive (made : Matches metadata overrides planted typeDef decoder) :
    decoder.isRecursive = false := by
  cases made with
  | compact shape found inner => exact inner.isRecursive
  | _ => rfl

theorem Matches.isNil (made : Matches metadata overrides planted typeDef decoder) :
    decoder.isNil = false := by
  cases made with
  | compact shape found inner => exact inner.isNil
  | _ => rfl

end SubstrateClient.Registry
