import SubstrateClient.Scale.Compact

/-!
# Type information of V14 metadata

The part of the metadata that the registry factory reads.  Type definitions keep one flag and one
payload for every kind, as the source does; `shape` says which kind a `switch` over the flags picks.
Documentation texts and type parameters are never read and are left out.
-/

namespace SubstrateClient.Registry

open Scale

/-- `Si1LookupTypeID`. -/
abbrev Si1LookupTypeID : Type := UCompact

/-- `UCompact.Int64`: the low 64 bits as a signed number. -/
def Si1LookupTypeID.int64 (id : Si1LookupTypeID) : Int64 := Int64.ofInt id

/-- `Si1Field`. -/
structure Si1Field where
  hasName : Bool
  name : String
  type : Si1LookupTypeID
  hasTypeName : Bool
  typeName : String

/-- The key of the field's type in the lookup map. -/
def Si1Field.lookupIndex (field : Si1Field) : Int64 := Si1LookupTypeID.int64 field.type

/-- `Si1Variant`. -/
structure Si1Variant where
  name : String
  fields : List Si1Field
  index : UInt8

/-- `Si1TypeDef`. -/
structure Si1TypeDef where
  isComposite : Bool := false
  composite : List Si1Field := []
  isVariant : Bool := false
  variant : List Si1Variant := []
  isSequence : Bool := false
  sequence : Si1LookupTypeID := (0 : Int)
  isArray : Bool := false
  arrayLen : UInt32 := 0
  arrayType : Si1LookupTypeID := (0 : Int)
  isTuple : Bool := false
  /-- The tuple slice, `none` when it is nil. -/
  tuple : Option (List Si1LookupTypeID) := none
  isPrimitive : Bool := false
  primitive : UInt8 := 0
  isCompact : Bool := false
  compact : Si1LookupTypeID := (0 : Int)
  isBitSequence : Bool := false
  bitStoreType : Si1LookupTypeID := (0 : Int)
  bitOrderType : Si1LookupTypeID := (0 : Int)

/-- `Si1Type`. -/
structure Si1Type where
  path : List String
  typeDef : Si1TypeDef

/-- `PalletMetadataV14`. -/
structure PalletMetadataV14 where
  name : String
  hasCalls : Bool
  calls : Si1LookupTypeID
  hasEvents : Bool
  events : Si1LookupTypeID
  hasErrors : Bool
  errors : Si1LookupTypeID
  index : UInt8

/-- `MetadataV14`, with the map that its decoder builds from the portable types. -/
structure MetadataV14 where
  pallets : List PalletMetadataV14
  efficientLookup : Int64 → Option Si1Type

/-- `PortableTypeV14`. -/
structure PortableTypeV14 where
  id : Si1LookupTypeID
  type : Si1Type

/-- `PortableRegistryV14.toMap`: of two types with one key the last is kept. -/
def toMap (types : List PortableTypeV14) (key : Int64) : Option Si1Type :=
  (types.reverse.find? fun portable => Si1LookupTypeID.int64 portable.id = key).map
    PortableTypeV14.type

/-- The kinds of type definitions with the data of each. -/
inductive TypeShape where
  | compact (type : Si1LookupTypeID)
  | composite (fields : List Si1Field)
  | variant (variants : List Si1Variant)
  | primitive (kind : UInt8)
  | array (len : UInt32) (type : Si1LookupTypeID)
  | sequence (type : Si1LookupTypeID)
  | tuple (items : Option (List Si1LookupTypeID))
  | bitSequence (storeType orderType : Si1LookupTypeID)
  | unsupported

/-- The branch of the `switch` in `getFieldDecoder`. -/
def Si1TypeDef.shape (typeDef : Si1TypeDef) : TypeShape :=
  if typeDef.isCompact then .compact typeDef.compact
  else if typeDef.isComposite then .composite typeDef.composite
  else if typeDef.isVariant then .variant typeDef.variant
  else if typeDef.isPrimitive then .primitive typeDef.primitive
  else if typeDef.isArray then .array typeDef.arrayLen typeDef.arrayType
  else if typeDef.isSequence then .sequence typeDef.sequence
  else if typeDef.isTuple then .tuple typeDef.tuple
  else if typeDef.isBitSequence then .bitSequence typeDef.bitStoreType typeDef.bitOrderType
  else .unsupported

/-- A branch with another value was not taken. -/
theorem TypeShape.of_ite_eq {flag : Bool} {first later result : TypeShape} (other : first ≠ result)
    (same : (if flag then first else later) = result) : flag = false ∧ later = result := by
  cases flag with
  | false => exact ⟨rfl, same⟩
  | true => exact absurd same other

/-- The kinds of type definitions that have a compact form. -/
inductive CompactShape where
  | primitive
  | tuple (items : Option (List Si1LookupTypeID))
  | composite (fields : List Si1Field)
  | unsupported

/-- The branch of the `switch` in `getCompactFieldDecoder`. -/
def Si1TypeDef.compactShape (typeDef : Si1TypeDef) : CompactShape :=
  if typeDef.isPrimitive then .primitive
  else if typeDef.isTuple then .tuple typeDef.tuple
  else if typeDef.isComposite then .composite typeDef.composite
  else .unsupported

/-! ## Names of fields -/

/-- `getFieldPath`. -/
def getFieldPath (fieldType : Si1Type) : String := ".".intercalate fieldType.path

/-- `getFieldName`. -/
def getFieldName (field : Si1Field) : String :=
  if field.hasName then field.name
  else if field.hasTypeName then field.typeName
  else "lookup_index_" ++ toString field.lookupIndex.toInt

/-- `getFullFieldName`. -/
def getFullFieldName (field : Si1Field) (fieldType : Si1Type) : String :=
  if getFieldPath fieldType ≠ "" then
    getFieldPath fieldType ++ "." ++ getFieldName field
  else
    getFieldName field

/-- `tupleItemFieldNameFormat`. -/
def tupleItemFieldName (position : Nat) : String := "tuple_item_" ++ toString position

/-- `variantItemFieldNameFormat`. -/
def variantItemFieldName (position : Nat) : String := "variant_item_" ++ toString position

/-! ## Well-formed metadata -/

/-- Distinct pallet indices, and distinct variant indices inside each variant type. -/
structure MetadataV14.DistinctIndices (metadata : MetadataV14) : Prop where
  pallets : (metadata.pallets.map PalletMetadataV14.index).Nodup
  variants : ∀ id type, metadata.efficientLookup id = some type → type.typeDef.isVariant = true →
    (type.typeDef.variant.map Si1Variant.index).Nodup

/-- What the lookup map finds is one of the portable types, under its own key. -/
theorem exists_portable_of_toMap {types : List PortableTypeV14} {key : Int64} {type : Si1Type}
    (found : toMap types key = some type) :
    ∃ portable ∈ types, Si1LookupTypeID.int64 portable.id = key ∧ portable.type = type := by
  obtain ⟨portable, selected, same⟩ := Option.map_eq_some_iff.mp found
  have member := List.mem_reverse.mp (List.mem_of_find?_eq_some selected)
  have keyed := List.find?_some selected
  exact ⟨portable, member, of_decide_eq_true keyed, same⟩

/-- Distinctness is checked on the list of portable types. -/
theorem distinctIndices_toMap {pallets : List PalletMetadataV14} {types : List PortableTypeV14}
    (pallets_distinct : (pallets.map PalletMetadataV14.index).Nodup)
    (variants_distinct : ∀ portable ∈ types, portable.type.typeDef.isVariant = true →
      (portable.type.typeDef.variant.map Si1Variant.index).Nodup) :
    (⟨pallets, toMap types⟩ : MetadataV14).DistinctIndices where
  pallets := pallets_distinct
  variants := by
    intro id type found flag
    obtain ⟨portable, member, _, rfl⟩ := exists_portable_of_toMap found
    exact variants_distinct portable member flag

end SubstrateClient.Registry
