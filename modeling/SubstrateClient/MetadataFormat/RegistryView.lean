import SubstrateClient.MetadataFormat.Pallets
import SubstrateClient.Registry.Metadata

/-!
# What the registry factory sees

The factory reads pallets and portable types of decoded metadata.  `view` leaves the rest out, and the
lookup map of decoded metadata becomes the map of the viewed types.
-/

namespace SubstrateClient.MetadataFormat

open SubstrateClient.Types

/-- A name as a string; one that is not UTF-8 is left out. -/
def viewText (text : Text) : String := (String.fromUTF8? ⟨text.toArray⟩).getD ""

def Si1Field.view (field : Si1Field) : Registry.Si1Field where
  hasName := field.hasName
  name := viewText field.name
  type := field.type
  hasTypeName := field.hasTypeName
  typeName := viewText field.typeName

def Si1Variant.view (variant : Si1Variant) : Registry.Si1Variant where
  name := viewText variant.name
  fields := variant.fields.map Si1Field.view
  index := variant.index

/-- The slice of a tuple stays nil when a length of zero is decoded into it. -/
def viewTuple (types : List Si1LookupTypeID) : Option (List Registry.Si1LookupTypeID) :=
  if types.isEmpty then none else some types

def Si1TypeDef.view (typeDef : Si1TypeDef) : Registry.Si1TypeDef :=
  let composite : List Si1Field := typeDef.payload .isComposite
  let variant : List Si1Variant := typeDef.payload .isVariant
  let array : UInt32 × Si1LookupTypeID := typeDef.payload .isArray
  let bitSequence : Si1LookupTypeID × Si1LookupTypeID := typeDef.payload .isBitSequence
  { isComposite := typeDef.flag .isComposite
    composite := composite.map Si1Field.view
    isVariant := typeDef.flag .isVariant
    variant := variant.map Si1Variant.view
    isSequence := typeDef.flag .isSequence
    sequence := typeDef.payload .isSequence
    isArray := typeDef.flag .isArray
    arrayLen := array.1
    arrayType := array.2
    isTuple := typeDef.flag .isTuple
    tuple := viewTuple (typeDef.payload .isTuple)
    isPrimitive := typeDef.flag .isPrimitive
    primitive := typeDef.payload .isPrimitive
    isCompact := typeDef.flag .isCompact
    compact := typeDef.payload .isCompact
    isBitSequence := typeDef.flag .isBitSequence
    bitStoreType := bitSequence.1
    bitOrderType := bitSequence.2 }

def Si1Type.view (type : Si1Type) : Registry.Si1Type where
  path := type.path.map viewText
  typeDef := type.typeDef.view

def PortableTypeV14.view (portable : PortableTypeV14) : Registry.PortableTypeV14 where
  id := portable.id
  type := portable.type.view

def PalletMetadataV14.view (pallet : PalletMetadataV14) : Registry.PalletMetadataV14 where
  name := viewText pallet.name
  hasCalls := pallet.hasCalls
  calls := pallet.calls
  hasEvents := pallet.hasEvents
  events := pallet.events
  hasErrors := pallet.hasErrors
  errors := pallet.errors
  index := pallet.index

namespace MetadataV14

def view (metadata : MetadataV14) : Registry.MetadataV14 where
  pallets := metadata.pallets.map PalletMetadataV14.view
  efficientLookup := fun key => (metadata.efficientLookup key).map Si1Type.view

variable {metadata : MetadataV14}

/-- Viewing the types changes no key, so it may be done before or after the map is built. -/
theorem toMap_view (types : List PortableTypeV14) (key : Int64) :
    Registry.toMap (types.map PortableTypeV14.view) key = (toMap types key).map Si1Type.view := by
  rw [Registry.toMap, toMap, ← List.map_reverse, List.find?_map, Option.map_map, Option.map_map]
  rfl

/-- The view of decoded metadata has the map of the viewed types. -/
theorem view_eq (mapped : metadata.efficientLookup = toMap metadata.lookup) :
    metadata.view = ⟨metadata.pallets.map PalletMetadataV14.view,
      Registry.toMap (metadata.lookup.map PortableTypeV14.view)⟩ := by
  have lookups : (fun key => (metadata.efficientLookup key).map Si1Type.view) =
      Registry.toMap (metadata.lookup.map PortableTypeV14.view) := by
    funext key
    rw [mapped, toMap_view]
  exact congrArg (Registry.MetadataV14.mk _) lookups

/-- Decoding builds the map of the types that it has read. -/
theorem efficientLookup_of_decode {input rest : List UInt8}
    (decoded : decode input = .ok (metadata, rest)) :
    metadata.efficientLookup = toMap metadata.lookup := by
  obtain ⟨lookup, afterLookup, _, decoded⟩ := ByteParser.bind_eq_ok.mp decoded
  obtain ⟨pallets, afterPallets, _, decoded⟩ := ByteParser.bind_eq_ok.mp decoded
  obtain ⟨extrinsic, afterExtrinsic, _, decoded⟩ := ByteParser.bind_eq_ok.mp decoded
  obtain ⟨type, afterType, _, decoded⟩ := ByteParser.bind_eq_ok.mp decoded
  cases decoded
  rfl

/-- Distinct indices of pallets and variants in decoded metadata are distinct for the factory. -/
theorem distinctIndices_view {input rest : List UInt8} (decoded : decode input = .ok (metadata, rest))
    (pallets : (metadata.pallets.map PalletMetadataV14.index).Nodup)
    (variants : ∀ portable ∈ metadata.lookup, portable.type.typeDef.flag .isVariant = true →
      (List.map Si1Variant.index (portable.type.typeDef.payload .isVariant)).Nodup) :
    metadata.view.DistinctIndices := by
  rw [view_eq (efficientLookup_of_decode decoded)]
  refine Registry.distinctIndices_toMap ?_ ?_
  · rw [List.map_map]
    exact pallets
  · intro viewed viewed_member flag
    obtain ⟨portable, member, rfl⟩ := List.mem_map.mp viewed_member
    have indices := variants portable member flag
    exact (congrArg List.Nodup (List.map_map (α := Si1Variant))).mpr indices

end MetadataV14

end SubstrateClient.MetadataFormat
