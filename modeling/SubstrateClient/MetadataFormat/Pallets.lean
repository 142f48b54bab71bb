import SubstrateClient.MetadataFormat.Portable
import SubstrateClient.MetadataFormat.Storage

/-!
# Version 14

Pallets refer to portable types.  `MetadataV14.Decode` also builds a map from the identifiers of the
portable types to the types, and `Encode` leaves it out.
-/

namespace SubstrateClient.MetadataFormat

open ByteParser Scale SubstrateClient.Types TaggedUnion

variable (allowed : Nat → Prop)

/-! ## Storage -/

/-- `MapTypeV14`. -/
structure MapTypeV14 where
  hashers : List StorageHasherV10
  key : Si1LookupTypeID
  value : Si1LookupTypeID
  deriving Inhabited

namespace MapTypeV14

def encode (map : MapTypeV14) : Written :=
  encodeStruct [encodeSlice StorageHasherV10.encode map.hashers, map.key.encode, map.value.encode]

def decode : Decoder MapTypeV14 := do
  let hashers ← decodeField (decodeList StorageHasherV10.decode)
  let key ← decodeField UCompact.decode
  let value ← decodeField UCompact.decode
  pure ⟨hashers, key, value⟩

structure WellFormed (map : MapTypeV14) : Prop where
  hashers : AllFit allowed OneFlag map.hashers
  key : map.key.InRange
  value : map.value.InRange

end MapTypeV14

/-- The flags of `StorageEntryTypeV14`. -/
inductive StorageEntryTypeV14.Flag where
  | isPlainType | isMap
  deriving DecidableEq

/-- The payloads of `StorageEntryTypeV14`. -/
def StorageEntryTypeV14.Payload : StorageEntryTypeV14.Flag → Type
  | .isPlainType => Si1LookupTypeID
  | .isMap => MapTypeV14

/-- `StorageEntryTypeV14`. -/
abbrev StorageEntryTypeV14 : Type := TaggedUnion StorageEntryTypeV14.Flag StorageEntryTypeV14.Payload

namespace StorageEntryTypeV14

/-- The payloads of the zero value. -/
def zero : (flag : Flag) → Payload flag
  | .isPlainType => (default : UCompact)
  | .isMap => (default : MapTypeV14)

instance : Inhabited StorageEntryTypeV14 := ⟨blank zero⟩

def encodePayload : (flag : Flag) → Payload flag → Written
  | .isPlainType, type => UCompact.encode type
  | .isMap, map => MapTypeV14.encode map

def decodePayload : (flag : Flag) → Decoder (Payload flag)
  | .isPlainType => UCompact.decode
  | .isMap => MapTypeV14.decode

/-- `StorageEntryTypeV14.Encode`. -/
def encode : StorageEntryTypeV14 → Written :=
  TaggedUnion.encode [(.isPlainType, 0), (.isMap, 1)] encodePayload
    (.error (.text "expected to be either plain type or map, but none was set"))

/-- `StorageEntryTypeV14.Decode`. -/
def decode : Decoder StorageEntryTypeV14 :=
  TaggedUnion.decode zero readOneByte [(0, .isPlainType), (1, .isMap)] decodePayload fun tag =>
    fail (.text ("StorageFunctionTypeV14 does not support this type: " ++ toString tag.toNat))

/-- The payload of the selected kind is good. -/
def Good : (flag : Flag) → Payload flag → Prop
  | .isPlainType, type => UCompact.InRange type
  | .isMap, map => MapTypeV14.WellFormed allowed map

end StorageEntryTypeV14

/-- `StorageEntryMetadataV14`. -/
abbrev StorageEntryMetadataV14 : Type := StorageFunctionMetadata StorageEntryTypeV14

namespace StorageEntryMetadataV14

/-- `Encode` of an entry. -/
def encode : StorageEntryMetadataV14 → Written :=
  StorageFunctionMetadata.encode StorageEntryTypeV14.encode

/-- `Decode` of an entry. -/
def decode : Decoder StorageEntryMetadataV14 :=
  StorageFunctionMetadata.decode StorageEntryTypeV14.decode

def WellFormed : StorageEntryMetadataV14 → Prop :=
  StorageFunctionMetadata.WellFormed allowed
    (TaggedUnion.WellFormed StorageEntryTypeV14.zero (StorageEntryTypeV14.Good allowed))

end StorageEntryMetadataV14

/-- `StorageMetadataV14`. -/
abbrev StorageMetadataV14 : Type := StorageMetadata StorageEntryMetadataV14

/-! ## Constants and pallets -/

/-- `ConstantMetadataV14`. -/
structure ConstantMetadataV14 where
  name : Text
  type : Si1LookupTypeID
  value : List UInt8
  docs : List Text
  deriving Inhabited

namespace ConstantMetadataV14

def encode (constant : ConstantMetadataV14) : Written :=
  encodeStruct [encodeText constant.name, constant.type.encode, encodeBytes constant.value,
    encodeSlice encodeText constant.docs]

def decode : Decoder ConstantMetadataV14 := do
  let name ← decodeField decodeText
  let type ← decodeField UCompact.decode
  let value ← decodeField (decodeBytes [])
  let docs ← decodeField (decodeList decodeText)
  pure ⟨name, type, value, docs⟩

structure WellFormed (constant : ConstantMetadataV14) : Prop where
  name : allowed constant.name.length
  type : constant.type.InRange
  value : allowed constant.value.length
  docs : TextsFit allowed constant.docs

end ConstantMetadataV14

/-- `Encode` of `FunctionMetadataV14`, `EventMetadataV14` and `ErrorMetadataV14`: one identifier. -/
def encodeTypeReference (type : Si1LookupTypeID) : Written := encodeStruct [type.encode]

/-- `Decode` of `FunctionMetadataV14`, `EventMetadataV14` and `ErrorMetadataV14`. -/
def decodeTypeReference : Decoder Si1LookupTypeID := decodeField UCompact.decode

/-- `PalletMetadataV14`, with the identifiers of its calls, events and errors. -/
structure PalletMetadataV14 where
  name : Text
  hasStorage : Bool
  storage : StorageMetadataV14
  hasCalls : Bool
  calls : Si1LookupTypeID
  hasEvents : Bool
  events : Si1LookupTypeID
  constants : List ConstantMetadataV14
  hasErrors : Bool
  errors : Si1LookupTypeID
  index : UInt8
  deriving Inhabited

namespace PalletMetadataV14

/-- `PalletMetadataV14.Encode`. -/
def encode (pallet : PalletMetadataV14) : Written :=
  writeAll [encodeText pallet.name,
    encodeOption pallet.hasStorage (pallet.storage.encode StorageEntryMetadataV14.encode),
    encodeOption pallet.hasCalls (encodeTypeReference pallet.calls),
    encodeOption pallet.hasEvents (encodeTypeReference pallet.events),
    encodeSlice ConstantMetadataV14.encode pallet.constants,
    encodeOption pallet.hasErrors (encodeTypeReference pallet.errors), encodeU8 pallet.index]

/-- `PalletMetadataV14.Decode`. -/
def decode : Decoder PalletMetadataV14 := do
  let name ← decodeText
  let storage ← decodeOptional (StorageMetadata.decode StorageEntryMetadataV14.decode)
  let calls ← decodeOptional decodeTypeReference
  let events ← decodeOptional decodeTypeReference
  let constants ← decodeList ConstantMetadataV14.decode
  let errors ← decodeOptional decodeTypeReference
  let index ← decodeU8
  pure ⟨name, storage.1, storage.2, calls.1, calls.2, events.1, events.2, constants, errors.1, errors.2,
    index⟩

structure WellFormed (pallet : PalletMetadataV14) : Prop where
  name : allowed pallet.name.length
  storage : OptionFits (StorageMetadata.WellFormed allowed (StorageEntryMetadataV14.WellFormed allowed))
    pallet.hasStorage pallet.storage
  calls : OptionFits UCompact.InRange pallet.hasCalls pallet.calls
  events : OptionFits UCompact.InRange pallet.hasEvents pallet.events
  constants : AllFit allowed (ConstantMetadataV14.WellFormed allowed) pallet.constants
  errors : OptionFits UCompact.InRange pallet.hasErrors pallet.errors

end PalletMetadataV14

/-! ## Signed extensions -/

/-- `SignedExtensionMetadataV14`. -/
structure SignedExtensionMetadataV14 where
  identifier : Text
  type : Si1LookupTypeID
  additionalSigned : Si1LookupTypeID
  deriving Inhabited

namespace SignedExtensionMetadataV14

def encode (extension : SignedExtensionMetadataV14) : Written :=
  encodeStruct [encodeText extension.identifier, extension.type.encode,
    extension.additionalSigned.encode]

def decode : Decoder SignedExtensionMetadataV14 := do
  let identifier ← decodeField decodeText
  let type ← decodeField UCompact.decode
  let additionalSigned ← decodeField UCompact.decode
  pure ⟨identifier, type, additionalSigned⟩

structure WellFormed (extension : SignedExtensionMetadataV14) : Prop where
  identifier : allowed extension.identifier.length
  type : extension.type.InRange
  additionalSigned : extension.additionalSigned.InRange

end SignedExtensionMetadataV14

/-- `ExtrinsicV14`. -/
structure ExtrinsicV14 where
  type : Si1LookupTypeID
  version : UInt8
  signedExtensions : List SignedExtensionMetadataV14
  deriving Inhabited

namespace ExtrinsicV14

def encode (extrinsic : ExtrinsicV14) : Written :=
  encodeStruct [extrinsic.type.encode, encodeU8 extrinsic.version,
    encodeSlice SignedExtensionMetadataV14.encode extrinsic.signedExtensions]

def decode : Decoder ExtrinsicV14 := do
  let type ← decodeField UCompact.decode
  let version ← decodeField decodeU8
  let signedExtensions ← decodeField (decodeList SignedExtensionMetadataV14.decode)
  pure ⟨type, version, signedExtensions⟩

structure WellFormed (extrinsic : ExtrinsicV14) : Prop where
  type : extrinsic.type.InRange
  signedExtensions : AllFit allowed (SignedExtensionMetadataV14.WellFormed allowed)
    extrinsic.signedExtensions

end ExtrinsicV14

/-! ## `MetadataV14` -/

/-- `PortableRegistryV14.toMap`: of two types with one key the last is kept. -/
def toMap (types : List PortableTypeV14) (key : Int64) : Option Si1Type :=
  (types.reverse.find? fun portable => Si1LookupTypeID.int64 portable.id = key).map
    PortableTypeV14.type

/-- `MetadataV14`. -/
structure MetadataV14 where
  lookup : List PortableTypeV14
  pallets : List PalletMetadataV14
  extrinsic : ExtrinsicV14
  type : Si1LookupTypeID
  efficientLookup : Int64 → Option Si1Type
  deriving Inhabited

namespace MetadataV14

/-- `Encode` of the fields that are not skipped. -/
def encode (metadata : MetadataV14) : Written :=
  encodeStruct [encodeStruct [encodeSlice PortableTypeV14.encode metadata.lookup],
    encodeSlice PalletMetadataV14.encode metadata.pallets, metadata.extrinsic.encode,
    metadata.type.encode]

/-- `MetadataV14.Decode`. -/
def decode : Decoder MetadataV14 := do
  let lookup ← decodeField (decodeList PortableTypeV14.decode)
  let pallets ← decodeList PalletMetadataV14.decode
  let extrinsic ← ExtrinsicV14.decode
  let type ← UCompact.decode
  pure ⟨lookup, pallets, extrinsic, type, toMap lookup⟩

structure WellFormed (metadata : MetadataV14) : Prop where
  lookup : AllFit allowed (PortableTypeV14.WellFormed allowed) metadata.lookup
  pallets : AllFit allowed (PalletMetadataV14.WellFormed allowed) metadata.pallets
  extrinsic : metadata.extrinsic.WellFormed allowed
  type : metadata.type.InRange
  efficientLookup : metadata.efficientLookup = toMap metadata.lookup

end MetadataV14

section Restored

variable {allowed : Nat → Prop} (short : ∀ length, allowed length → length ≤ maxUint32)

theorem restores_typeReference {hasType : Bool} {type : Si1LookupTypeID}
    (fits : OptionFits UCompact.InRange hasType type) :
    Restores (encodeOption hasType (encodeTypeReference type)) (decodeOptional decodeTypeReference)
      (hasType, type) :=
  fits.restores fun in_range => restores_only_field (restores_uCompact in_range)

include short

theorem MapTypeV14.restores {map : MapTypeV14} (well : map.WellFormed allowed) :
    Restores map.encode decode map := by
  refine restores_field (well.hashers.restores short fun _ => StorageHasherV10.restores) ?_
  refine restores_field (restores_uCompact well.key) ?_
  exact restores_field (restores_uCompact well.value) (restores_struct_nil map)

theorem StorageEntryTypeV14.restores {type : StorageEntryTypeV14}
    (well : type.WellFormed zero (Good allowed)) : Restores (encode type) decode type := by
  refine TaggedUnion.restores (fun flag => ?_) reads_readOneByte (fun flag payload good => ?_) well
  · cases flag <;> exact ⟨_, rfl, rfl⟩
  · cases flag with
    | isPlainType => exact restores_uCompact good
    | isMap => exact MapTypeV14.restores short good

theorem StorageEntryMetadataV14.restores {entry : StorageEntryMetadataV14}
    (well : WellFormed allowed entry) : Restores (encode entry) decode entry :=
  StorageFunctionMetadata.restores short (fun _ => StorageEntryTypeV14.restores short) well

theorem ConstantMetadataV14.restores {constant : ConstantMetadataV14}
    (well : constant.WellFormed allowed) : Restores constant.encode decode constant := by
  refine restores_field (restores_text (short _ well.name)) ?_
  refine restores_field (restores_uCompact well.type) ?_
  refine restores_field (restores_bytes (short _ well.value)) ?_
  exact restores_field (well.docs.restores short) (restores_struct_nil constant)

theorem PalletMetadataV14.restores {pallet : PalletMetadataV14} (well : pallet.WellFormed allowed) :
    Restores pallet.encode decode pallet := by
  have storage := well.storage.restores fun all =>
    StorageMetadata.restores short (fun _ => StorageEntryMetadataV14.restores short) all
  refine (restores_text (short _ well.name)).cons ?_
  refine storage.cons ?_
  refine (restores_typeReference well.calls).cons ?_
  refine (restores_typeReference well.events).cons ?_
  refine (well.constants.restores short fun _ => ConstantMetadataV14.restores short).cons ?_
  refine (restores_typeReference well.errors).cons ?_
  exact (restores_u8 pallet.index).cons (restores_nil pallet)

theorem SignedExtensionMetadataV14.restores {extension : SignedExtensionMetadataV14}
    (well : extension.WellFormed allowed) : Restores extension.encode decode extension := by
  refine restores_field (restores_text (short _ well.identifier)) ?_
  refine restores_field (restores_uCompact well.type) ?_
  exact restores_field (restores_uCompact well.additionalSigned) (restores_struct_nil extension)

theorem ExtrinsicV14.restores {extrinsic : ExtrinsicV14} (well : extrinsic.WellFormed allowed) :
    Restores extrinsic.encode decode extrinsic := by
  refine restores_field (restores_uCompact well.type) ?_
  refine restores_field (restores_u8 extrinsic.version) ?_
  refine restores_field ?_ (restores_struct_nil extrinsic)
  exact well.signedExtensions.restores short fun _ => SignedExtensionMetadataV14.restores short

/-- The encoder wraps the errors of its fields and the decoder does not, but there are none. -/
theorem MetadataV14.restores {metadata : MetadataV14} (well : metadata.WellFormed allowed) :
    Restores metadata.encode decode metadata := by
  have lookup := restores_only_field
    (well.lookup.restores short fun _ => PortableTypeV14.restores short)
  have pallets := well.pallets.restores short fun _ => PalletMetadataV14.restores short
  have ending : (⟨metadata.lookup, metadata.pallets, metadata.extrinsic, metadata.type,
      toMap metadata.lookup⟩ : MetadataV14) = metadata := by
    rw [← well.efficientLookup]
  refine lookup.mapErrorLeft.cons ?_
  refine pallets.mapErrorLeft.cons ?_
  refine (ExtrinsicV14.restores short well.extrinsic).mapErrorLeft.cons ?_
  refine (restores_uCompact well.type).mapErrorLeft.cons ?_
  exact ending ▸ restores_nil metadata

end Restored

end SubstrateClient.MetadataFormat
