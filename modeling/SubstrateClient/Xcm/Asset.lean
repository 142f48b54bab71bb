import SubstrateClient.Xcm.Location

/-!
# Assets

Assets with their identifiers and amounts, and the filters that select some of them.
-/

namespace SubstrateClient.Xcm

open ByteParser Scale SubstrateClient.Types TaggedUnion

/-! ## Identifiers -/

/-- The flags of `AssetID`. -/
inductive AssetID.Flag where
  | isConcrete | isAbstract
  deriving DecidableEq

/-- The payloads of `AssetID`. -/
def AssetID.Payload : AssetID.Flag → Type
  | .isConcrete => MultiLocationV1
  | .isAbstract => List UInt8

/-- `AssetID`. -/
abbrev AssetID : Type := TaggedUnion AssetID.Flag AssetID.Payload

namespace AssetID

/-- The payloads of the zero value. -/
def zero : (flag : Flag) → Payload flag
  | .isConcrete => (default : MultiLocationV1)
  | .isAbstract => ([] : List UInt8)

instance : Inhabited AssetID := ⟨blank zero⟩

def encodePayload : (flag : Flag) → Payload flag → Written
  | .isConcrete, multiLocation => MultiLocationV1.encode multiLocation
  | .isAbstract, abstractKey => encodeBytes abstractKey

def decodePayload : (flag : Flag) → Decoder (Payload flag)
  | .isConcrete => MultiLocationV1.decode
  | .isAbstract => decodeBytes []

/-- `AssetID.Encode`. -/
def encode : AssetID → Written := encodeUnion [(.isConcrete, 0), (.isAbstract, 1)] encodePayload

/-- `AssetID.Decode`. -/
def decode : Decoder AssetID := decodeUnion zero [(0, .isConcrete), (1, .isAbstract)] decodePayload

def Good : (flag : Flag) → Payload flag → Prop
  | .isConcrete, multiLocation => MultiLocationV1.WellFormed multiLocation
  | .isAbstract, abstractKey => Short (List.length (α := UInt8) abstractKey)

theorem restores {id : AssetID} (well : id.WellFormed zero Good) : Restores (encode id) decode id := by
  refine restores_union (fun flag => ?_) (fun flag payload good => ?_) well
  · cases flag <;> exact ⟨_, rfl, rfl⟩
  · cases flag with
    | isConcrete => exact MultiLocationV1.restores good
    | isAbstract => exact Short.restores_bytes good

end AssetID

/-- The flags of `AssetInstance`. -/
inductive AssetInstance.Flag where
  | isUndefined | isIndex | isArray4 | isArray8 | isArray16 | isArray32 | isBlob
  deriving DecidableEq

/-- The payloads of `AssetInstance`. -/
def AssetInstance.Payload : AssetInstance.Flag → Type
  | .isUndefined => Unit
  | .isIndex => U128
  | .isArray4 => List.Vector UInt8 4
  | .isArray8 => List.Vector UInt8 8
  | .isArray16 => List.Vector UInt8 16
  | .isArray32 => List.Vector UInt8 32
  | .isBlob => List UInt8

/-- `AssetInstance`. -/
abbrev AssetInstance : Type := TaggedUnion AssetInstance.Flag AssetInstance.Payload

namespace AssetInstance

/-- The payloads of the zero value. -/
def zero : (flag : Flag) → Payload flag
  | .isUndefined => ()
  | .isIndex => (default : U128)
  | .isArray4 | .isArray8 | .isArray16 | .isArray32 => zeroBytes _
  | .isBlob => ([] : List UInt8)

instance : Inhabited AssetInstance := ⟨blank zero⟩

def encodePayload : (flag : Flag) → Payload flag → Written
  | .isUndefined, _ => .ok []
  | .isIndex, index => U128.encode index
  | .isArray4, array | .isArray8, array | .isArray16, array | .isArray32, array => encodeArray array
  | .isBlob, blob => encodeBytes blob

def decodePayload : (flag : Flag) → Decoder (Payload flag)
  | .isUndefined => pure ()
  | .isIndex => U128.decode
  | .isArray4 | .isArray8 | .isArray16 | .isArray32 => decodeArray (zeroBytes _)
  | .isBlob => decodeBytes []

/-- `AssetInstance.Encode`. -/
def encode : AssetInstance → Written :=
  encodeUnion
    [(.isUndefined, 0), (.isIndex, 1), (.isArray4, 2), (.isArray8, 3), (.isArray16, 4), (.isArray32, 5),
      (.isBlob, 6)]
    encodePayload

/-- `AssetInstance.Decode`. -/
def decode : Decoder AssetInstance :=
  decodeUnion zero
    [(0, .isUndefined), (1, .isIndex), (2, .isArray4), (3, .isArray8), (4, .isArray16), (5, .isArray32),
      (6, .isBlob)]
    decodePayload

def Good : (flag : Flag) → Payload flag → Prop
  | .isIndex, index => U128.InRange index
  | .isBlob, blob => Short (List.length (α := UInt8) blob)
  | .isUndefined, _ | .isArray4, _ | .isArray8, _ | .isArray16, _ | .isArray32, _ => True

theorem restores {assetInstance : AssetInstance} (well : assetInstance.WellFormed zero Good) :
    Restores (encode assetInstance) decode assetInstance := by
  refine restores_union (fun flag => ?_) (fun flag payload good => ?_) well
  · cases flag <;> exact ⟨_, rfl, rfl⟩
  · cases flag with
    | isUndefined => exact restores_unit payload
    | isIndex => exact U128.restores good
    | isArray4 | isArray8 | isArray16 | isArray32 => exact restores_array payload
    | isBlob => exact Short.restores_bytes good

end AssetInstance

/-! ## Assets -/

/-- The flags of `Fungibility`. -/
inductive Fungibility.Flag where
  | isFungible | isNonFungible
  deriving DecidableEq

/-- The payloads of `Fungibility`. -/
def Fungibility.Payload : Fungibility.Flag → Type
  | .isFungible => UCompact
  | .isNonFungible => AssetInstance

/-- `Fungibility`. -/
abbrev Fungibility : Type := TaggedUnion Fungibility.Flag Fungibility.Payload

namespace Fungibility

/-- The payloads of the zero value. -/
def zero : (flag : Flag) → Payload flag
  | .isFungible => (default : UCompact)
  | .isNonFungible => (default : AssetInstance)

instance : Inhabited Fungibility := ⟨blank zero⟩

def encodePayload : (flag : Flag) → Payload flag → Written
  | .isFungible, amount => UCompact.encode amount
  | .isNonFungible, assetInstance => AssetInstance.encode assetInstance

def decodePayload : (flag : Flag) → Decoder (Payload flag)
  | .isFungible => UCompact.decode
  | .isNonFungible => AssetInstance.decode

/-- `Fungibility.Encode`. -/
def encode : Fungibility → Written := encodeUnion [(.isFungible, 0), (.isNonFungible, 1)] encodePayload

/-- `Fungibility.Decode`. -/
def decode : Decoder Fungibility :=
  decodeUnion zero [(0, .isFungible), (1, .isNonFungible)] decodePayload

def Good : (flag : Flag) → Payload flag → Prop
  | .isFungible, amount => UCompact.InRange amount
  | .isNonFungible, assetInstance =>
      TaggedUnion.WellFormed AssetInstance.zero AssetInstance.Good assetInstance

theorem restores {fungibility : Fungibility} (well : fungibility.WellFormed zero Good) :
    Restores (encode fungibility) decode fungibility := by
  refine restores_union (fun flag => ?_) (fun flag payload good => ?_) well
  · cases flag <;> exact ⟨_, rfl, rfl⟩
  · cases flag with
    | isFungible => exact restores_uCompact good
    | isNonFungible => exact AssetInstance.restores good

end Fungibility

/-- `MultiAssetV1`. -/
structure MultiAssetV1 where
  id : AssetID
  fungibility : Fungibility
  deriving Inhabited

namespace MultiAssetV1

/-- `MultiAssetV1.Encode`. -/
def encode (asset : MultiAssetV1) : Written := writeAll [asset.id.encode, asset.fungibility.encode]

/-- `MultiAssetV1.Decode`. -/
def decode : Decoder MultiAssetV1 := do
  let id ← AssetID.decode
  let fungibility ← Fungibility.decode
  pure ⟨id, fungibility⟩

structure WellFormed (asset : MultiAssetV1) : Prop where
  id : asset.id.WellFormed AssetID.zero AssetID.Good
  fungibility : asset.fungibility.WellFormed Fungibility.zero Fungibility.Good

theorem restores {asset : MultiAssetV1} (well : asset.WellFormed) :
    Restores asset.encode decode asset := by
  refine (AssetID.restores well.id).cons ?_
  exact (Fungibility.restores well.fungibility).cons (restores_nil asset)

end MultiAssetV1

/-- `MultiAssetsV1`. -/
abbrev MultiAssetsV1 : Type := List MultiAssetV1

namespace MultiAssetsV1

/-- `Encode` of a slice of assets. -/
def encode (assets : MultiAssetsV1) : Written := encodeSlice MultiAssetV1.encode assets

/-- `Decode` of a slice of assets. -/
def decode : Decoder MultiAssetsV1 := decodeList MultiAssetV1.decode

def WellFormed (assets : MultiAssetsV1) : Prop := AllFit Short MultiAssetV1.WellFormed assets

theorem restores {assets : MultiAssetsV1} (well : WellFormed assets) :
    Restores (encode assets) decode assets :=
  AllFit.restores (fun _ => Short.le_maxUint32) well fun _ => MultiAssetV1.restores

end MultiAssetsV1

/-! ## Filters -/

/-- The flags of `WildFungibility`. -/
inductive WildFungibility.Flag where
  | isFungible | isNonFungible
  deriving DecidableEq

/-- `WildFungibility`. -/
abbrev WildFungibility : Type := Flags WildFungibility.Flag

namespace WildFungibility

instance : Inhabited WildFungibility := ⟨blank fun _ => ()⟩

/-- `WildFungibility.Encode`. -/
def encode : WildFungibility → Written := encodeFlags [(.isFungible, 0), (.isNonFungible, 1)] (.ok [])

/-- `WildFungibility.Decode`. -/
def decode : Decoder WildFungibility :=
  decodeFlags readOneByte [(0, .isFungible), (1, .isNonFungible)] fun _ => pure default

theorem restores {wild : WildFungibility} (one : OneFlag wild) : Restores (encode wild) decode wild := by
  refine restores_flags (fun flag => ?_) reads_readOneByte one
  cases flag <;> exact ⟨_, rfl, rfl⟩

end WildFungibility

/-- The flags of `WildMultiAsset`. -/
inductive WildMultiAsset.Flag where
  | isAll | isAllOf
  deriving DecidableEq

/-- The payloads of `WildMultiAsset`. -/
def WildMultiAsset.Payload : WildMultiAsset.Flag → Type
  | .isAll => Unit
  | .isAllOf => AssetID × WildFungibility

/-- `WildMultiAsset`. -/
abbrev WildMultiAsset : Type := TaggedUnion WildMultiAsset.Flag WildMultiAsset.Payload

namespace WildMultiAsset

/-- The payloads of the zero value. -/
def zero : (flag : Flag) → Payload flag
  | .isAll => ()
  | .isAllOf => ((default : AssetID), (default : WildFungibility))

instance : Inhabited WildMultiAsset := ⟨blank zero⟩

def encodePayload : (flag : Flag) → Payload flag → Written
  | .isAll, _ => .ok []
  | .isAllOf, (id, wild) => writeAll [id.encode, wild.encode]

def decodePayload : (flag : Flag) → Decoder (Payload flag)
  | .isAll => pure ()
  | .isAllOf => do
      let id ← AssetID.decode
      let wild ← WildFungibility.decode
      pure (id, wild)

/-- `WildMultiAsset.Encode`. -/
def encode : WildMultiAsset → Written := encodeUnion [(.isAll, 0), (.isAllOf, 1)] encodePayload

/-- `WildMultiAsset.Decode`. -/
def decode : Decoder WildMultiAsset := decodeUnion zero [(0, .isAll), (1, .isAllOf)] decodePayload

def Good : (flag : Flag) → Payload flag → Prop
  | .isAll, _ => True
  | .isAllOf, (id, wild) => id.WellFormed AssetID.zero AssetID.Good ∧ OneFlag wild

theorem restores {asset : WildMultiAsset} (well : asset.WellFormed zero Good) :
    Restores (encode asset) decode asset := by
  refine restores_union (fun flag => ?_) (fun flag payload good => ?_) well
  · cases flag <;> exact ⟨_, rfl, rfl⟩
  · cases flag with
    | isAll => exact restores_unit payload
    | isAllOf => exact (AssetID.restores good.1).pair (WildFungibility.restores good.2)

end WildMultiAsset

/-- The flags of `MultiAssetFilter`. -/
inductive MultiAssetFilter.Flag where
  | isDefinite | isWild
  deriving DecidableEq

/-- The payloads of `MultiAssetFilter`. -/
def MultiAssetFilter.Payload : MultiAssetFilter.Flag → Type
  | .isDefinite => MultiAssetsV1
  | .isWild => WildMultiAsset

/-- `MultiAssetFilter`. -/
abbrev MultiAssetFilter : Type := TaggedUnion MultiAssetFilter.Flag MultiAssetFilter.Payload

namespace MultiAssetFilter

/-- The payloads of the zero value. -/
def zero : (flag : Flag) → Payload flag
  | .isDefinite => ([] : MultiAssetsV1)
  | .isWild => (default : WildMultiAsset)

instance : Inhabited MultiAssetFilter := ⟨blank zero⟩

def encodePayload : (flag : Flag) → Payload flag → Written
  | .isDefinite, multiAssets => MultiAssetsV1.encode multiAssets
  | .isWild, wildMultiAsset => WildMultiAsset.encode wildMultiAsset

def decodePayload : (flag : Flag) → Decoder (Payload flag)
  | .isDefinite => MultiAssetsV1.decode
  | .isWild => WildMultiAsset.decode

/-- `MultiAssetFilter.Encode`. -/
def encode : MultiAssetFilter → Written := encodeUnion [(.isDefinite, 0), (.isWild, 1)] encodePayload

/-- `MultiAssetFilter.Decode`. -/
def decode : Decoder MultiAssetFilter := decodeUnion zero [(0, .isDefinite), (1, .isWild)] decodePayload

def Good : (flag : Flag) → Payload flag → Prop
  | .isDefinite, multiAssets => MultiAssetsV1.WellFormed multiAssets
  | .isWild, wildMultiAsset => TaggedUnion.WellFormed WildMultiAsset.zero WildMultiAsset.Good wildMultiAsset

theorem restores {filter : MultiAssetFilter} (well : filter.WellFormed zero Good) :
    Restores (encode filter) decode filter := by
  refine restores_union (fun flag => ?_) (fun flag payload good => ?_) well
  · cases flag <;> exact ⟨_, rfl, rfl⟩
  · cases flag with
    | isDefinite => exact MultiAssetsV1.restores good
    | isWild => exact WildMultiAsset.restores good

end MultiAssetFilter

end SubstrateClient.Xcm
