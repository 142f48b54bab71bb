import SubstrateClient.MetadataFormat.Hashers

/-!
# Storage metadata up to version 13

A storage entry is a plain value or a map.  The versions differ in the hashers and in the kinds of map.
-/

namespace SubstrateClient.MetadataFormat

open ByteParser Scale SubstrateClient.Types TaggedUnion

/-! ## Storage types -/

section StorageTypes

variable {μ δ τ : Type} (allowed : Nat → Prop)

/-- The flags of `StorageFunctionTypeV4`, `StorageFunctionTypeV5` and `StorageFunctionTypeV10`. -/
inductive StorageFunctionType.Flag where
  | isType | isMap | isDoubleMap
  deriving DecidableEq

/-- The payloads, over the types of the two kinds of map. -/
def StorageFunctionType.Payload (μ δ : Type) : StorageFunctionType.Flag → Type
  | .isType => Text
  | .isMap => μ
  | .isDoubleMap => δ

/-- What the three versions share. -/
abbrev StorageFunctionType (μ δ : Type) : Type :=
  TaggedUnion StorageFunctionType.Flag (StorageFunctionType.Payload μ δ)

/-- `StorageFunctionTypeV4`. -/
abbrev StorageFunctionTypeV4 : Type := StorageFunctionType MapTypeV4 DoubleMapTypeV4

/-- `StorageFunctionTypeV5`. -/
abbrev StorageFunctionTypeV5 : Type := StorageFunctionType MapTypeV4 DoubleMapTypeV5

/-- `StorageFunctionTypeV10`. -/
abbrev StorageFunctionTypeV10 : Type := StorageFunctionType MapTypeV10 DoubleMapTypeV10

namespace StorageFunctionType

/-- The payloads of the zero value. -/
def zero [Inhabited μ] [Inhabited δ] : (flag : Flag) → Payload μ δ flag
  | .isType => ([] : Text)
  | .isMap => (default : μ)
  | .isDoubleMap => (default : δ)

instance [Inhabited μ] [Inhabited δ] : Inhabited (StorageFunctionType μ δ) := ⟨blank zero⟩

def encodePayload (encodeMap : μ → Written) (encodeDoubleMap : δ → Written) :
    (flag : Flag) → Payload μ δ flag → Written
  | .isType, type => encodeText type
  | .isMap, map => encodeMap map
  | .isDoubleMap, map => encodeDoubleMap map

def decodePayload (decodeMap : Decoder μ) (decodeDoubleMap : Decoder δ) :
    (flag : Flag) → Decoder (Payload μ δ flag)
  | .isType => decodeText
  | .isMap => decodeMap
  | .isDoubleMap => decodeDoubleMap

/-- The `Encode` methods. -/
def encode (encodeMap : μ → Written) (encodeDoubleMap : δ → Written) :
    StorageFunctionType μ δ → Written :=
  TaggedUnion.encode [(.isType, 0), (.isMap, 1), (.isDoubleMap, 2)]
    (encodePayload encodeMap encodeDoubleMap)
    (.error (.text "expected to be either type, map or double map, but none was set"))

/-- The `Decode` methods. -/
def decode [Inhabited μ] [Inhabited δ] (decodeMap : Decoder μ) (decodeDoubleMap : Decoder δ) :
    Decoder (StorageFunctionType μ δ) :=
  TaggedUnion.decode zero decodeU8 [(0, .isType), (1, .isMap), (2, .isDoubleMap)]
    (decodePayload decodeMap decodeDoubleMap)
    fun tag => fail (.text ("received unexpected type " ++ toString tag.toNat))

/-- The payload of the selected kind is good. -/
def Good (map : μ → Prop) (doubleMap : δ → Prop) : (flag : Flag) → Payload μ δ flag → Prop
  | .isType, type => allowed (List.length (α := UInt8) type)
  | .isMap, value => map value
  | .isDoubleMap, value => doubleMap value

end StorageFunctionType

/-- The flags of `StorageFunctionTypeV13`. -/
inductive StorageFunctionTypeV13.Flag where
  | isType | isMap | isDoubleMap | isNMap
  deriving DecidableEq

/-- The payloads of `StorageFunctionTypeV13`. -/
def StorageFunctionTypeV13.Payload : StorageFunctionTypeV13.Flag → Type
  | .isType => Text
  | .isMap => MapTypeV10
  | .isDoubleMap => DoubleMapTypeV10
  | .isNMap => NMapTypeV13

/-- `StorageFunctionTypeV13`. -/
abbrev StorageFunctionTypeV13 : Type :=
  TaggedUnion StorageFunctionTypeV13.Flag StorageFunctionTypeV13.Payload

namespace StorageFunctionTypeV13

/-- The payloads of the zero value. -/
def zero : (flag : Flag) → Payload flag
  | .isType => ([] : Text)
  | .isMap => (default : MapTypeV10)
  | .isDoubleMap => (default : DoubleMapTypeV10)
  | .isNMap => (default : NMapTypeV13)

instance : Inhabited StorageFunctionTypeV13 := ⟨blank zero⟩

def encodePayload : (flag : Flag) → Payload flag → Written
  | .isType, type => encodeText type
  | .isMap, map => MapType.encode StorageHasherV10.encode map
  | .isDoubleMap, map => DoubleMapType.encode StorageHasherV10.encode StorageHasherV10.encode map
  | .isNMap, map => NMapTypeV13.encode map

def decodePayload : (flag : Flag) → Decoder (Payload flag)
  | .isType => decodeText
  | .isMap => MapType.decode StorageHasherV10.decode
  | .isDoubleMap => DoubleMapType.decode StorageHasherV10.decode StorageHasherV10.decode
  | .isNMap => NMapTypeV13.decode

/-- `StorageFunctionTypeV13.Encode`. -/
def encode : StorageFunctionTypeV13 → Written :=
  TaggedUnion.encode [(.isType, 0), (.isMap, 1), (.isDoubleMap, 2), (.isNMap, 3)] encodePayload
    (.error (.text "expected to be either type, map, double map or nmap but none was set"))

/-- `StorageFunctionTypeV13.Decode`. -/
def decode : Decoder StorageFunctionTypeV13 :=
  TaggedUnion.decode zero decodeU8 [(0, .isType), (1, .isMap), (2, .isDoubleMap), (3, .isNMap)]
    decodePayload fun tag => fail (.text ("received unexpected type " ++ toString tag.toNat))

/-- The payload of the selected kind is good. -/
def Good : (flag : Flag) → Payload flag → Prop
  | .isType, type => allowed (List.length (α := UInt8) type)
  | .isMap, map => MapType.WellFormed allowed OneFlag map
  | .isDoubleMap, map => DoubleMapType.WellFormed allowed OneFlag OneFlag map
  | .isNMap, map => NMapTypeV13.WellFormed allowed map

end StorageFunctionTypeV13

/-! ## Storage entries -/

/-- A storage entry, over its storage type. -/
structure StorageFunctionMetadata (τ : Type) where
  name : Text
  modifier : StorageFunctionModifierV0
  type : τ
  fallback : List UInt8
  documentation : List Text
  deriving Inhabited

/-- `StorageFunctionMetadataV4`. -/
abbrev StorageFunctionMetadataV4 : Type := StorageFunctionMetadata StorageFunctionTypeV4

/-- `StorageFunctionMetadataV5`. -/
abbrev StorageFunctionMetadataV5 : Type := StorageFunctionMetadata StorageFunctionTypeV5

/-- `StorageFunctionMetadataV10`. -/
abbrev StorageFunctionMetadataV10 : Type := StorageFunctionMetadata StorageFunctionTypeV10

/-- `StorageFunctionMetadataV13`. -/
abbrev StorageFunctionMetadataV13 : Type := StorageFunctionMetadata StorageFunctionTypeV13

namespace StorageFunctionMetadata

def encode (encodeType : τ → Written) (entry : StorageFunctionMetadata τ) : Written :=
  encodeStruct [encodeText entry.name, entry.modifier.encode, encodeType entry.type,
    encodeBytes entry.fallback, encodeSlice encodeText entry.documentation]

def decode (decodeType : Decoder τ) : Decoder (StorageFunctionMetadata τ) := do
  let name ← decodeField decodeText
  let modifier ← decodeField StorageFunctionModifierV0.decode
  let type ← decodeField decodeType
  let fallback ← decodeField (decodeBytes [])
  let documentation ← decodeField (decodeList decodeText)
  pure ⟨name, modifier, type, fallback, documentation⟩

structure WellFormed (good : τ → Prop) (entry : StorageFunctionMetadata τ) : Prop where
  name : allowed entry.name.length
  modifier : OneFlag entry.modifier
  type : good entry.type
  fallback : allowed entry.fallback.length
  documentation : TextsFit allowed entry.documentation

end StorageFunctionMetadata

/-- The storage of a module, over the type of its entries. -/
structure StorageMetadata (ι : Type) where
  modulePrefix : Text
  items : List ι
  deriving Inhabited

/-- `StorageMetadata` of the versions 7 to 9. -/
abbrev StorageMetadataV7 : Type := StorageMetadata StorageFunctionMetadataV5

/-- `StorageMetadataV10`. -/
abbrev StorageMetadataV10 : Type := StorageMetadata StorageFunctionMetadataV10

/-- `StorageMetadataV13`. -/
abbrev StorageMetadataV13 : Type := StorageMetadata StorageFunctionMetadataV13

namespace StorageMetadata

variable {ι : Type}

def encode (encodeItem : ι → Written) (storage : StorageMetadata ι) : Written :=
  encodeStruct [encodeText storage.modulePrefix, encodeSlice encodeItem storage.items]

def decode [Inhabited ι] (decodeItem : Decoder ι) : Decoder (StorageMetadata ι) := do
  let modulePrefix ← decodeField decodeText
  let items ← decodeField (decodeList decodeItem)
  pure ⟨modulePrefix, items⟩

structure WellFormed (good : ι → Prop) (storage : StorageMetadata ι) : Prop where
  modulePrefix : allowed storage.modulePrefix.length
  items : AllFit allowed good storage.items

end StorageMetadata

end StorageTypes

section Restored

variable {μ δ τ ι : Type} {allowed : Nat → Prop}
  (short : ∀ length, allowed length → length ≤ maxUint32)

include short

theorem StorageFunctionType.restores [Inhabited μ] [Inhabited δ] {encodeMap : μ → Written}
    {decodeMap : Decoder μ} {encodeDoubleMap : δ → Written} {decodeDoubleMap : Decoder δ}
    {map : μ → Prop} {doubleMap : δ → Prop}
    (maps : ∀ value, map value → Restores (encodeMap value) decodeMap value)
    (doubleMaps : ∀ value, doubleMap value → Restores (encodeDoubleMap value) decodeDoubleMap value)
    {type : StorageFunctionType μ δ} (well : type.WellFormed zero (Good allowed map doubleMap)) :
    Restores (encode encodeMap encodeDoubleMap type) (decode decodeMap decodeDoubleMap) type := by
  refine TaggedUnion.restores (fun flag => ?_) reads_decodeU8 (fun flag payload good => ?_) well
  · cases flag <;> exact ⟨_, rfl, rfl⟩
  · cases flag with
    | isType => exact restores_text (short _ good)
    | isMap => exact maps payload good
    | isDoubleMap => exact doubleMaps payload good

theorem StorageFunctionTypeV13.restores {type : StorageFunctionTypeV13}
    (well : type.WellFormed zero (Good allowed)) : Restores (encode type) decode type := by
  refine TaggedUnion.restores (fun flag => ?_) reads_decodeU8 (fun flag payload good => ?_) well
  · cases flag <;> exact ⟨_, rfl, rfl⟩
  · cases flag with
    | isType => exact restores_text (short _ good)
    | isMap => exact MapType.restores short (fun _ => StorageHasherV10.restores) good
    | isDoubleMap =>
        exact DoubleMapType.restores short (fun _ => StorageHasherV10.restores)
          (fun _ => StorageHasherV10.restores) good
    | isNMap => exact NMapTypeV13.restores short good

theorem StorageFunctionMetadata.restores {encodeType : τ → Written} {decodeType : Decoder τ}
    {good : τ → Prop} (types : ∀ type, good type → Restores (encodeType type) decodeType type)
    {entry : StorageFunctionMetadata τ} (well : entry.WellFormed allowed good) :
    Restores (entry.encode encodeType) (decode decodeType) entry := by
  refine restores_field (restores_text (short _ well.name)) ?_
  refine restores_field (StorageFunctionModifierV0.restores well.modifier) ?_
  refine restores_field (types _ well.type) ?_
  refine restores_field (restores_bytes (short _ well.fallback)) ?_
  exact restores_field (well.documentation.restores short) (restores_struct_nil entry)

theorem StorageMetadata.restores [Inhabited ι] {encodeItem : ι → Written} {decodeItem : Decoder ι}
    {good : ι → Prop} (items : ∀ item, good item → Restores (encodeItem item) decodeItem item)
    {storage : StorageMetadata ι} (well : storage.WellFormed allowed good) :
    Restores (storage.encode encodeItem) (decode decodeItem) storage := by
  refine restores_field (restores_text (short _ well.modulePrefix)) ?_
  exact restores_field (well.items.restores short items) (restores_struct_nil storage)

end Restored

/-! ## The entries of the versions -/

namespace StorageFunctionMetadataV4

/-- `Encode` of an entry. -/
def encode : StorageFunctionMetadataV4 → Written :=
  StorageFunctionMetadata.encode (StorageFunctionType.encode (MapType.encode StorageHasher.encode)
    (DoubleMapType.encode StorageHasher.encode encodeText))

/-- `Decode` of an entry. -/
def decode : Decoder StorageFunctionMetadataV4 :=
  StorageFunctionMetadata.decode (StorageFunctionType.decode (MapType.decode StorageHasher.decode)
    (DoubleMapType.decode StorageHasher.decode decodeText))

def WellFormed (allowed : Nat → Prop) : StorageFunctionMetadataV4 → Prop :=
  StorageFunctionMetadata.WellFormed allowed (TaggedUnion.WellFormed StorageFunctionType.zero
    (StorageFunctionType.Good allowed (MapType.WellFormed allowed OneFlag)
      (DoubleMapType.WellFormed allowed OneFlag fun text => allowed text.length)))

theorem restores {allowed : Nat → Prop} (short : ∀ length, allowed length → length ≤ maxUint32)
    {entry : StorageFunctionMetadataV4} (well : WellFormed allowed entry) :
    Restores (encode entry) decode entry := by
  refine StorageFunctionMetadata.restores short (fun type => ?_) well
  refine StorageFunctionType.restores short (fun map => ?_) fun map => ?_
  · exact MapType.restores short fun _ => StorageHasher.restores
  · exact DoubleMapType.restores short (fun _ => StorageHasher.restores) fun text fits =>
      restores_text (short _ fits)

end StorageFunctionMetadataV4

namespace StorageFunctionMetadataV5

/-- `Encode` of an entry. -/
def encode : StorageFunctionMetadataV5 → Written :=
  StorageFunctionMetadata.encode (StorageFunctionType.encode (MapType.encode StorageHasher.encode)
    (DoubleMapType.encode StorageHasher.encode StorageHasher.encode))

/-- `Decode` of an entry. -/
def decode : Decoder StorageFunctionMetadataV5 :=
  StorageFunctionMetadata.decode (StorageFunctionType.decode (MapType.decode StorageHasher.decode)
    (DoubleMapType.decode StorageHasher.decode StorageHasher.decode))

def WellFormed (allowed : Nat → Prop) : StorageFunctionMetadataV5 → Prop :=
  StorageFunctionMetadata.WellFormed allowed (TaggedUnion.WellFormed StorageFunctionType.zero
    (StorageFunctionType.Good allowed (MapType.WellFormed allowed OneFlag)
      (DoubleMapType.WellFormed allowed OneFlag OneFlag)))

theorem restores {allowed : Nat → Prop} (short : ∀ length, allowed length → length ≤ maxUint32)
    {entry : StorageFunctionMetadataV5} (well : WellFormed allowed entry) :
    Restores (encode entry) decode entry := by
  refine StorageFunctionMetadata.restores short (fun type => ?_) well
  refine StorageFunctionType.restores short (fun map => ?_) fun map => ?_
  · exact MapType.restores short fun _ => StorageHasher.restores
  · exact DoubleMapType.restores short (fun _ => StorageHasher.restores) fun _ =>
      StorageHasher.restores

end StorageFunctionMetadataV5

namespace StorageFunctionMetadataV10

/-- `Encode` of an entry. -/
def encode : StorageFunctionMetadataV10 → Written :=
  StorageFunctionMetadata.encode (StorageFunctionType.encode (MapType.encode StorageHasherV10.encode)
    (DoubleMapType.encode StorageHasherV10.encode StorageHasherV10.encode))

/-- `Decode` of an entry. -/
def decode : Decoder StorageFunctionMetadataV10 :=
  StorageFunctionMetadata.decode (StorageFunctionType.decode (MapType.decode StorageHasherV10.decode)
    (DoubleMapType.decode StorageHasherV10.decode StorageHasherV10.decode))

def WellFormed (allowed : Nat → Prop) : StorageFunctionMetadataV10 → Prop :=
  StorageFunctionMetadata.WellFormed allowed (TaggedUnion.WellFormed StorageFunctionType.zero
    (StorageFunctionType.Good allowed (MapType.WellFormed allowed OneFlag)
      (DoubleMapType.WellFormed allowed OneFlag OneFlag)))

theorem restores {allowed : Nat → Prop} (short : ∀ length, allowed length → length ≤ maxUint32)
    {entry : StorageFunctionMetadataV10} (well : WellFormed allowed entry) :
    Restores (encode entry) decode entry := by
  refine StorageFunctionMetadata.restores short (fun type => ?_) well
  refine StorageFunctionType.restores short (fun map => ?_) fun map => ?_
  · exact MapType.restores short fun _ => StorageHasherV10.restores
  · exact DoubleMapType.restores short (fun _ => StorageHasherV10.restores) fun _ =>
      StorageHasherV10.restores

end StorageFunctionMetadataV10

namespace StorageFunctionMetadataV13

/-- `Encode` of an entry. -/
def encode : StorageFunctionMetadataV13 → Written :=
  StorageFunctionMetadata.encode StorageFunctionTypeV13.encode

/-- `Decode` of an entry. -/
def decode : Decoder StorageFunctionMetadataV13 :=
  StorageFunctionMetadata.decode StorageFunctionTypeV13.decode

def WellFormed (allowed : Nat → Prop) : StorageFunctionMetadataV13 → Prop :=
  StorageFunctionMetadata.WellFormed allowed
    (TaggedUnion.WellFormed StorageFunctionTypeV13.zero (StorageFunctionTypeV13.Good allowed))

theorem restores {allowed : Nat → Prop} (short : ∀ length, allowed length → length ≤ maxUint32)
    {entry : StorageFunctionMetadataV13} (well : WellFormed allowed entry) :
    Restores (encode entry) decode entry :=
  StorageFunctionMetadata.restores short (fun _ => StorageFunctionTypeV13.restores short) well

end StorageFunctionMetadataV13

end SubstrateClient.MetadataFormat
