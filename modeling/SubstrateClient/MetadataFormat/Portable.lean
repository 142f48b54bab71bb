import SubstrateClient.MetadataFormat.Hashers

/-!
# The portable types of version 14

A type is described by a definition of one of nine kinds and refers to other types by their
identifiers in the registry.
-/

namespace SubstrateClient.MetadataFormat

open ByteParser Scale SubstrateClient.Types TaggedUnion

variable (allowed : Nat → Prop)

/-- `Si1LookupTypeID`, whose methods are those of the embedded `UCompact`. -/
abbrev Si1LookupTypeID : Type := UCompact

/-- `UCompact.Int64`: the low 64 bits. -/
def Si1LookupTypeID.int64 (id : Si1LookupTypeID) : Int64 := Int64.ofInt id

/-! ## Fields and variants -/

/-- `Si1Field`. -/
structure Si1Field where
  hasName : Bool
  name : Text
  type : Si1LookupTypeID
  hasTypeName : Bool
  typeName : Text
  docs : List Text
  deriving Inhabited

namespace Si1Field

/-- `Si1Field.Encode`. -/
def encode (field : Si1Field) : Written :=
  writeAll [encodeOption field.hasName (encodeText field.name), field.type.encode,
    encodeOption field.hasTypeName (encodeText field.typeName), encodeSlice encodeText field.docs]

/-- `Si1Field.Decode`. -/
def decode : Decoder Si1Field := do
  let name ← decodeOptional decodeText
  let type ← UCompact.decode
  let typeName ← decodeOptional decodeText
  let docs ← decodeList decodeText
  pure ⟨name.1, name.2, type, typeName.1, typeName.2, docs⟩

structure WellFormed (field : Si1Field) : Prop where
  name : OptionFits (fun text => allowed text.length) field.hasName field.name
  type : field.type.InRange
  typeName : OptionFits (fun text => allowed text.length) field.hasTypeName field.typeName
  docs : TextsFit allowed field.docs

end Si1Field

/-- `Si1Variant`. -/
structure Si1Variant where
  name : Text
  fields : List Si1Field
  index : UInt8
  docs : List Text
  deriving Inhabited

namespace Si1Variant

def encode (variant : Si1Variant) : Written :=
  encodeStruct [encodeText variant.name, encodeSlice Si1Field.encode variant.fields,
    encodeU8 variant.index, encodeSlice encodeText variant.docs]

def decode : Decoder Si1Variant := do
  let name ← decodeField decodeText
  let fields ← decodeField (decodeList Si1Field.decode)
  let index ← decodeField decodeU8
  let docs ← decodeField (decodeList decodeText)
  pure ⟨name, fields, index, docs⟩

structure WellFormed (variant : Si1Variant) : Prop where
  name : allowed variant.name.length
  fields : AllFit allowed (Si1Field.WellFormed allowed) variant.fields
  docs : TextsFit allowed variant.docs

end Si1Variant

/-! ## Primitives -/

/-- `Encode` of `Si1TypeDefPrimitive`, which has no method for it. -/
def encodePrimitive (primitive : UInt8) : Written := encodeStruct [encodeU8 primitive]

/-- `Si0TypeDefPrimitive.Decode`, which `Si1TypeDefPrimitive` inherits. -/
def decodePrimitive : Decoder UInt8 := do
  let tag ← readOneByte
  if tag.toNat ≤ 14 then
    pure tag
  else
    fail (.text ("Si0TypeDefPrimitive do not support this type: " ++ toString tag.toNat))

theorem restores_primitive {primitive : UInt8} (known : primitive.toNat ≤ 14) :
    Restores (encodePrimitive primitive) decodePrimitive primitive := by
  have written : encodeU8 primitive = .ok [primitive] := encode_u8 primitive
  refine ⟨[primitive], ?_, ?_⟩
  · rw [encodePrimitive, encodeStruct, List.map_singleton, written]
    rfl
  · intro rest
    simp [decodePrimitive, known]

/-! ## Type definitions -/

/-- The flags of `Si1TypeDef`. -/
inductive Si1TypeDef.Flag where
  | isComposite | isVariant | isSequence | isArray | isTuple | isPrimitive | isCompact | isBitSequence
  | isHistoricMetaCompat
  deriving DecidableEq

/-- The payloads of `Si1TypeDef`. -/
def Si1TypeDef.Payload : Si1TypeDef.Flag → Type
  | .isComposite => List Si1Field
  | .isVariant => List Si1Variant
  | .isSequence => Si1LookupTypeID
  | .isArray => UInt32 × Si1LookupTypeID
  | .isTuple => List Si1LookupTypeID
  | .isPrimitive => UInt8
  | .isCompact => Si1LookupTypeID
  | .isBitSequence => Si1LookupTypeID × Si1LookupTypeID
  | .isHistoricMetaCompat => Text

/-- `Si1TypeDef`. -/
abbrev Si1TypeDef : Type := TaggedUnion Si1TypeDef.Flag Si1TypeDef.Payload

namespace Si1TypeDef

/-- The payloads of the zero value. -/
def zero : (flag : Flag) → Payload flag
  | .isComposite => ([] : List Si1Field)
  | .isVariant => ([] : List Si1Variant)
  | .isSequence => (default : UCompact)
  | .isArray => ((0 : UInt32), (default : UCompact))
  | .isTuple => ([] : List UCompact)
  | .isPrimitive => (0 : UInt8)
  | .isCompact => (default : UCompact)
  | .isBitSequence => ((default : UCompact), (default : UCompact))
  | .isHistoricMetaCompat => ([] : Text)

instance : Inhabited Si1TypeDef := ⟨blank zero⟩

/-- The structs that hold the payloads are encoded field by field; a tuple is a slice. -/
def encodePayload : (flag : Flag) → Payload flag → Written
  | .isComposite, fields => encodeStruct [encodeSlice Si1Field.encode fields]
  | .isVariant, variants => encodeStruct [encodeSlice Si1Variant.encode variants]
  | .isSequence, type => encodeStruct [UCompact.encode type]
  | .isArray, (len, type) => encodeStruct [encodeU32 len, type.encode]
  | .isTuple, types => encodeSlice UCompact.encode types
  | .isPrimitive, primitive => encodePrimitive primitive
  | .isCompact, type => encodeStruct [UCompact.encode type]
  | .isBitSequence, (bitStoreType, bitOrderType) =>
      encodeStruct [bitStoreType.encode, bitOrderType.encode]
  | .isHistoricMetaCompat, type => encodeText type

def decodePayload : (flag : Flag) → Decoder (Payload flag)
  | .isComposite => decodeField (decodeList Si1Field.decode)
  | .isVariant => decodeField (decodeList Si1Variant.decode)
  | .isSequence => decodeField UCompact.decode
  | .isArray => do
      let len ← decodeField (decodeU32 0)
      let type ← decodeField UCompact.decode
      pure (len, type)
  | .isTuple => decodeList UCompact.decode
  | .isPrimitive => decodePrimitive
  | .isCompact => decodeField UCompact.decode
  | .isBitSequence => do
      let bitStoreType ← decodeField UCompact.decode
      let bitOrderType ← decodeField UCompact.decode
      pure (bitStoreType, bitOrderType)
  | .isHistoricMetaCompat => decodeText

/-- `Si1TypeDef.Encode`. -/
def encode : Si1TypeDef → Written :=
  TaggedUnion.encode
    [(.isComposite, 0), (.isVariant, 1), (.isSequence, 2), (.isArray, 3), (.isTuple, 4),
      (.isPrimitive, 5), (.isCompact, 6), (.isBitSequence, 7), (.isHistoricMetaCompat, 8)]
    encodePayload (.error (.text "expected Si1TypeDef instance to be one of the valid variants"))

/-- `Si1TypeDef.Decode`. -/
def decode : Decoder Si1TypeDef :=
  TaggedUnion.decode zero readOneByte
    [(0, .isComposite), (1, .isVariant), (2, .isSequence), (3, .isArray), (4, .isTuple),
      (5, .isPrimitive), (6, .isCompact), (7, .isBitSequence), (8, .isHistoricMetaCompat)]
    decodePayload fun tag => fail (.text ("Si1TypeDef unknow type : " ++ toString tag.toNat))

/-- Identifiers are in range and primitive tags are known. -/
def Good : (flag : Flag) → Payload flag → Prop
  | .isComposite, fields => AllFit allowed (Si1Field.WellFormed allowed) fields
  | .isVariant, variants => AllFit allowed (Si1Variant.WellFormed allowed) variants
  | .isSequence, type => UCompact.InRange type
  | .isArray, (_, type) => type.InRange
  | .isTuple, types => AllFit allowed UCompact.InRange types
  | .isPrimitive, primitive => UInt8.toNat primitive ≤ 14
  | .isCompact, type => UCompact.InRange type
  | .isBitSequence, (bitStoreType, bitOrderType) => bitStoreType.InRange ∧ bitOrderType.InRange
  | .isHistoricMetaCompat, type => allowed (List.length (α := UInt8) type)

end Si1TypeDef

/-! ## Types -/

/-- `Si1TypeParameter`. -/
structure Si1TypeParameter where
  name : Text
  hasType : Bool
  type : Si1LookupTypeID
  deriving Inhabited

namespace Si1TypeParameter

/-- `Si1TypeParameter.Encode`. -/
def encode (parameter : Si1TypeParameter) : Written :=
  writeAll [encodeText parameter.name, encodeOption parameter.hasType parameter.type.encode]

/-- `Si1TypeParameter.Decode`. -/
def decode : Decoder Si1TypeParameter := do
  let name ← decodeText
  let type ← decodeOptional UCompact.decode
  pure ⟨name, type.1, type.2⟩

structure WellFormed (parameter : Si1TypeParameter) : Prop where
  name : allowed parameter.name.length
  type : OptionFits UCompact.InRange parameter.hasType parameter.type

end Si1TypeParameter

/-- `Si1Type`. -/
structure Si1Type where
  path : List Text
  params : List Si1TypeParameter
  typeDef : Si1TypeDef
  docs : List Text
  deriving Inhabited

namespace Si1Type

def encode (type : Si1Type) : Written :=
  encodeStruct [encodeSlice encodeText type.path, encodeSlice Si1TypeParameter.encode type.params,
    type.typeDef.encode, encodeSlice encodeText type.docs]

def decode : Decoder Si1Type := do
  let path ← decodeField (decodeList decodeText)
  let params ← decodeField (decodeList Si1TypeParameter.decode)
  let typeDef ← decodeField Si1TypeDef.decode
  let docs ← decodeField (decodeList decodeText)
  pure ⟨path, params, typeDef, docs⟩

structure WellFormed (type : Si1Type) : Prop where
  path : TextsFit allowed type.path
  params : AllFit allowed (Si1TypeParameter.WellFormed allowed) type.params
  typeDef : type.typeDef.WellFormed Si1TypeDef.zero (Si1TypeDef.Good allowed)
  docs : TextsFit allowed type.docs

end Si1Type

/-- `PortableTypeV14`. -/
structure PortableTypeV14 where
  id : Si1LookupTypeID
  type : Si1Type
  deriving Inhabited

namespace PortableTypeV14

def encode (portable : PortableTypeV14) : Written :=
  encodeStruct [portable.id.encode, portable.type.encode]

def decode : Decoder PortableTypeV14 := do
  let id ← decodeField UCompact.decode
  let type ← decodeField Si1Type.decode
  pure ⟨id, type⟩

structure WellFormed (portable : PortableTypeV14) : Prop where
  id : portable.id.InRange
  type : portable.type.WellFormed allowed

end PortableTypeV14

section Restored

variable {allowed : Nat → Prop} (short : ∀ length, allowed length → length ≤ maxUint32)

include short

theorem Si1Field.restores {field : Si1Field} (well : field.WellFormed allowed) :
    Restores field.encode decode field := by
  refine (well.name.restores fun fits => restores_text (short _ fits)).cons ?_
  refine (restores_uCompact well.type).cons ?_
  refine (well.typeName.restores fun fits => restores_text (short _ fits)).cons ?_
  exact (well.docs.restores short).cons (restores_nil field)

theorem Si1Variant.restores {variant : Si1Variant} (well : variant.WellFormed allowed) :
    Restores variant.encode decode variant := by
  refine restores_field (restores_text (short _ well.name)) ?_
  refine restores_field (well.fields.restores short fun _ => Si1Field.restores short) ?_
  refine restores_field (restores_u8 variant.index) ?_
  exact restores_field (well.docs.restores short) (restores_struct_nil variant)

theorem Si1TypeDef.restores {typeDef : Si1TypeDef} (well : typeDef.WellFormed zero (Good allowed)) :
    Restores (encode typeDef) decode typeDef := by
  refine TaggedUnion.restores (fun flag => ?_) reads_readOneByte (fun flag payload good => ?_) well
  · cases flag <;> exact ⟨_, rfl, rfl⟩
  · cases flag with
    | isComposite =>
        exact restores_only_field (AllFit.restores short good fun _ => Si1Field.restores short)
    | isVariant =>
        exact restores_only_field (AllFit.restores short good fun _ => Si1Variant.restores short)
    | isSequence => exact restores_only_field (restores_uCompact good)
    | isArray =>
        refine restores_field (restores_u32 payload.1) ?_
        exact restores_field (restores_uCompact good) (restores_struct_nil payload)
    | isTuple => exact AllFit.restores short good fun _ => restores_uCompact
    | isPrimitive => exact restores_primitive good
    | isCompact => exact restores_only_field (restores_uCompact good)
    | isBitSequence =>
        refine restores_field (restores_uCompact good.1) ?_
        exact restores_field (restores_uCompact good.2) (restores_struct_nil payload)
    | isHistoricMetaCompat => exact restores_text (short _ good)

theorem Si1TypeParameter.restores {parameter : Si1TypeParameter} (well : parameter.WellFormed allowed) :
    Restores parameter.encode decode parameter := by
  refine (restores_text (short _ well.name)).cons ?_
  exact (well.type.restores restores_uCompact).cons (restores_nil parameter)

theorem Si1Type.restores {type : Si1Type} (well : type.WellFormed allowed) :
    Restores type.encode decode type := by
  refine restores_field (well.path.restores short) ?_
  refine restores_field (well.params.restores short fun _ => Si1TypeParameter.restores short) ?_
  refine restores_field (Si1TypeDef.restores short well.typeDef) ?_
  exact restores_field (well.docs.restores short) (restores_struct_nil type)

theorem PortableTypeV14.restores {portable : PortableTypeV14} (well : portable.WellFormed allowed) :
    Restores portable.encode decode portable := by
  refine restores_field (restores_uCompact well.id) ?_
  exact restores_field (Si1Type.restores short well.type) (restores_struct_nil portable)

end Restored

end SubstrateClient.MetadataFormat
