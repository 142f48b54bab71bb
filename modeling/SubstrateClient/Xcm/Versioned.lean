import SubstrateClient.Xcm.Asset
import SubstrateClient.Xcm.CutLocations

/-!
# Versioned locations and assets

The first version of locations and of assets, and the unions over the versions.  The junctions of the first version
report a network that cannot be decoded, those of the second do not: which cuts of an encoding pass depends on the
version, and on what follows the location.
-/

namespace SubstrateClient.Xcm

open ByteParser Registry Scale SubstrateClient.Types TaggedUnion

/-! ## Junctions of the first version -/

/-- The flags of `JunctionV0`. -/
inductive JunctionV0.Flag where
  | isParent | isParachain | isAccountID32 | isAccountIndex64 | isAccountKey20 | isPalletInstance | isGeneralIndex
  | isGeneralKey | isOnlyChild | isPlurality
  deriving DecidableEq

/-- The payloads of `JunctionV0`. -/
def JunctionV0.Payload : JunctionV0.Flag → Type
  | .isParent | .isOnlyChild => Unit
  | .isParachain => UInt32
  | .isAccountID32 => NetworkID × List UInt8
  | .isAccountIndex64 => NetworkID × UInt64
  | .isAccountKey20 => NetworkID × List UInt8
  | .isPalletInstance => UInt8
  | .isGeneralIndex => U128
  | .isGeneralKey => List UInt8
  | .isPlurality => BodyID × BodyPart

/-- `JunctionV0`. -/
abbrev JunctionV0 : Type := TaggedUnion JunctionV0.Flag JunctionV0.Payload

namespace JunctionV0

/-- The payloads of the zero value. -/
def zero : (flag : Flag) → Payload flag
  | .isParent | .isOnlyChild => ()
  | .isParachain => (0 : UInt32)
  | .isAccountID32 => ((default : NetworkID), ([] : List UInt8))
  | .isAccountIndex64 => ((default : NetworkID), (0 : UInt64))
  | .isAccountKey20 => ((default : NetworkID), ([] : List UInt8))
  | .isPalletInstance => (0 : UInt8)
  | .isGeneralIndex => (default : U128)
  | .isGeneralKey => ([] : List UInt8)
  | .isPlurality => ((default : BodyID), (default : BodyPart))

instance : Inhabited JunctionV0 := ⟨blank zero⟩

def encodePayload : (flag : Flag) → Payload flag → Written
  | .isParent, _ | .isOnlyChild, _ => .ok []
  | .isParachain, parachainID => encodeU32 parachainID
  | .isAccountID32, (networkID, accountID) => writeAll [networkID.encode, encodeBytes accountID]
  | .isAccountIndex64, (networkID, accountIndex) => writeAll [networkID.encode, encodeU64 accountIndex]
  | .isAccountKey20, (networkID, accountKey) => writeAll [networkID.encode, encodeBytes accountKey]
  | .isPalletInstance, palletIndex => encodeU8 palletIndex
  | .isGeneralIndex, generalIndex => U128.encode generalIndex
  | .isGeneralKey, generalKey => encodeBytes generalKey
  | .isPlurality, (bodyID, bodyPart) => writeAll [bodyID.encode, bodyPart.encode]

def decodePayload : (flag : Flag) → Decoder (Payload flag)
  | .isParent | .isOnlyChild => pure ()
  | .isParachain => decodeU32 0
  | .isAccountID32 => do
      let networkID ← NetworkID.decode
      let accountID ← decodeBytes []
      pure (networkID, accountID)
  | .isAccountIndex64 => do
      let networkID ← NetworkID.decode
      let accountIndex ← decodeU64
      pure (networkID, accountIndex)
  | .isAccountKey20 => do
      let networkID ← NetworkID.decode
      let accountKey ← decodeBytes []
      pure (networkID, accountKey)
  | .isPalletInstance => decodeU8
  | .isGeneralIndex => U128.decode
  | .isGeneralKey => decodeBytes []
  | .isPlurality => do
      let bodyID ← BodyID.decode
      let bodyPart ← BodyPart.decode
      pure (bodyID, bodyPart)

/-- `JunctionV0.Encode`. -/
def encode : JunctionV0 → Written :=
  encodeUnion
    [(.isParent, 0), (.isParachain, 1), (.isAccountID32, 2), (.isAccountIndex64, 3), (.isAccountKey20, 4),
      (.isPalletInstance, 5), (.isGeneralIndex, 6), (.isGeneralKey, 7), (.isOnlyChild, 8), (.isPlurality, 9)]
    encodePayload

/-- `JunctionV0.Decode`. -/
def decode : Decoder JunctionV0 :=
  decodeUnion zero
    [(0, .isParent), (1, .isParachain), (2, .isAccountID32), (3, .isAccountIndex64), (4, .isAccountKey20),
      (5, .isPalletInstance), (6, .isGeneralIndex), (7, .isGeneralKey), (8, .isOnlyChild), (9, .isPlurality)]
    decodePayload

def Good : (flag : Flag) → Payload flag → Prop
  | .isAccountID32, (networkID, accountID) =>
      networkID.WellFormed NetworkID.zero NetworkID.Good ∧ Short accountID.length
  | .isAccountIndex64, (networkID, _) => networkID.WellFormed NetworkID.zero NetworkID.Good
  | .isAccountKey20, (networkID, accountKey) =>
      networkID.WellFormed NetworkID.zero NetworkID.Good ∧ Short accountKey.length
  | .isGeneralIndex, generalIndex => U128.InRange generalIndex
  | .isGeneralKey, generalKey => Short (List.length (α := UInt8) generalKey)
  | .isPlurality, (bodyID, bodyPart) =>
      bodyID.WellFormed BodyID.zero BodyID.Good ∧ bodyPart.WellFormed BodyPart.zero BodyPart.Good
  | .isParent, _ | .isParachain, _ | .isPalletInstance, _ | .isOnlyChild, _ => True

theorem restores {junction : JunctionV0} (well : junction.WellFormed zero Good) :
    Restores (encode junction) decode junction := by
  refine restores_union (fun flag => ?_) (fun flag payload good => ?_) well
  · cases flag <;> exact ⟨_, rfl, rfl⟩
  · cases flag with
    | isParent | isOnlyChild => exact restores_unit payload
    | isParachain => exact restores_u32 payload
    | isAccountID32 | isAccountKey20 => exact (NetworkID.restores good.1).pair (Short.restores_bytes good.2)
    | isAccountIndex64 => exact (NetworkID.restores good).pair (restores_u64 payload.2)
    | isPalletInstance => exact restores_u8 payload
    | isGeneralIndex => exact U128.restores good
    | isGeneralKey => exact Short.restores_bytes good
    | isPlurality => exact (BodyID.restores good.1).pair (BodyPart.restores good.2)

end JunctionV0

/-! ## Locations of the first version -/

/-- The flags of `MultiLocationV0`. -/
inductive MultiLocationV0.Flag where
  | isNull | isX1 | isX2 | isX3 | isX4 | isX5 | isX6 | isX7 | isX8
  deriving DecidableEq

/-- The payloads of `MultiLocationV0`: arrays, except for a single junction. -/
def MultiLocationV0.Payload : MultiLocationV0.Flag → Type
  | .isNull => Unit
  | .isX1 => JunctionV0
  | .isX2 => List.Vector JunctionV0 2
  | .isX3 => List.Vector JunctionV0 3
  | .isX4 => List.Vector JunctionV0 4
  | .isX5 => List.Vector JunctionV0 5
  | .isX6 => List.Vector JunctionV0 6
  | .isX7 => List.Vector JunctionV0 7
  | .isX8 => List.Vector JunctionV0 8

/-- `MultiLocationV0`. -/
abbrev MultiLocationV0 : Type := TaggedUnion MultiLocationV0.Flag MultiLocationV0.Payload

namespace MultiLocationV0

/-- The payloads of the zero value. -/
def zero : (flag : Flag) → Payload flag
  | .isNull => ()
  | .isX1 => (default : JunctionV0)
  | .isX2 | .isX3 | .isX4 | .isX5 | .isX6 | .isX7 | .isX8 => List.Vector.replicate _ (default : JunctionV0)

instance : Inhabited MultiLocationV0 := ⟨blank zero⟩

def encodePayload : (flag : Flag) → Payload flag → Written
  | .isNull, _ => .ok []
  | .isX1, junction => JunctionV0.encode junction
  | .isX2, junctions | .isX3, junctions | .isX4, junctions | .isX5, junctions | .isX6, junctions
  | .isX7, junctions | .isX8, junctions => encodeVector JunctionV0.encode junctions

def decodePayload : (flag : Flag) → Decoder (Payload flag)
  | .isNull => pure ()
  | .isX1 => JunctionV0.decode
  | .isX2 | .isX3 | .isX4 | .isX5 | .isX6 | .isX7 | .isX8 => decodeVector JunctionV0.decode

/-- `MultiLocationV0.Encode`. -/
def encode : MultiLocationV0 → Written :=
  encodeUnion
    [(.isNull, 0), (.isX1, 1), (.isX2, 2), (.isX3, 3), (.isX4, 4), (.isX5, 5), (.isX6, 6), (.isX7, 7), (.isX8, 8)]
    encodePayload

/-- `MultiLocationV0.Decode`. -/
def decode : Decoder MultiLocationV0 :=
  decodeUnion zero
    [(0, .isNull), (1, .isX1), (2, .isX2), (3, .isX3), (4, .isX4), (5, .isX5), (6, .isX6), (7, .isX7), (8, .isX8)]
    decodePayload

def Good : (flag : Flag) → Payload flag → Prop
  | .isNull, _ => True
  | .isX1, junction => TaggedUnion.WellFormed JunctionV0.zero JunctionV0.Good junction
  | .isX2, junctions | .isX3, junctions | .isX4, junctions | .isX5, junctions | .isX6, junctions
  | .isX7, junctions | .isX8, junctions =>
      ∀ junction ∈ List.Vector.toList junctions, junction.WellFormed JunctionV0.zero JunctionV0.Good

theorem restores {location : MultiLocationV0} (well : location.WellFormed zero Good) :
    Restores (encode location) decode location := by
  refine restores_union (fun flag => ?_) (fun flag payload good => ?_) well
  · cases flag <;> exact ⟨_, rfl, rfl⟩
  · cases flag with
    | isNull => exact restores_unit payload
    | isX1 => exact JunctionV0.restores good
    | isX2 | isX3 | isX4 | isX5 | isX6 | isX7 | isX8 =>
        exact restores_vector fun junction member => JunctionV0.restores (good junction member)

end MultiLocationV0

/-! ## Locations of either version -/

/-- The flags of `VersionedMultiLocation`. -/
inductive VersionedMultiLocation.Flag where
  | isV0 | isV1
  deriving DecidableEq

/-- The payloads of `VersionedMultiLocation`. -/
def VersionedMultiLocation.Payload : VersionedMultiLocation.Flag → Type
  | .isV0 => MultiLocationV0
  | .isV1 => MultiLocationV1

/-- `VersionedMultiLocation`. -/
abbrev VersionedMultiLocation : Type := TaggedUnion VersionedMultiLocation.Flag VersionedMultiLocation.Payload

namespace VersionedMultiLocation

/-- The payloads of the zero value. -/
def zero : (flag : Flag) → Payload flag
  | .isV0 => (default : MultiLocationV0)
  | .isV1 => (default : MultiLocationV1)

def encodePayload : (flag : Flag) → Payload flag → Written
  | .isV0, location => MultiLocationV0.encode location
  | .isV1, location => MultiLocationV1.encodeValue location

def decodePayload : (flag : Flag) → Decoder (Payload flag)
  | .isV0 => MultiLocationV0.decode
  | .isV1 => MultiLocationV1.decode

/-- `VersionedMultiLocation.Encode`. -/
def encode : VersionedMultiLocation → Written := encodeUnion [(.isV0, 0), (.isV1, 1)] encodePayload

/-- `VersionedMultiLocation.Decode`. -/
def decode : Decoder VersionedMultiLocation := decodeUnion zero [(0, .isV0), (1, .isV1)] decodePayload

def Good : (flag : Flag) → Payload flag → Prop
  | .isV0, location => TaggedUnion.WellFormed MultiLocationV0.zero MultiLocationV0.Good location
  | .isV1, location => MultiLocationV1.WellFormed location

theorem restores {location : VersionedMultiLocation} (well : location.WellFormed zero Good) :
    Restores (encode location) decode location := by
  refine restores_union (fun flag => ?_) (fun flag payload good => ?_) well
  · cases flag <;> exact ⟨_, rfl, rfl⟩
  · cases flag with
    | isV0 => exact MultiLocationV0.restores good
    | isV1 => exact MultiLocationV1.restores_value good

end VersionedMultiLocation

/-! ## Assets of the first version -/

/-- The flags of `MultiAssetV0`. -/
inductive MultiAssetV0.Flag where
  | isNone | isAll | isAllFungible | isAllNonFungible | isAllAbstractFungible | isAllAbstractNonFungible
  | isAllConcreteFungible | isAllConcreteNonFungible | isAbstractFungible | isAbstractNonFungible
  | isConcreteFungible | isConcreteNonFungible
  deriving DecidableEq

/-- The payloads of `MultiAssetV0`. -/
def MultiAssetV0.Payload : MultiAssetV0.Flag → Type
  | .isNone | .isAll | .isAllFungible | .isAllNonFungible => Unit
  | .isAllAbstractFungible | .isAllAbstractNonFungible => List UInt8
  | .isAllConcreteFungible | .isAllConcreteNonFungible => MultiLocationV1
  | .isAbstractFungible => List UInt8 × U128
  | .isAbstractNonFungible => List UInt8 × AssetInstance
  | .isConcreteFungible => MultiLocationV1 × U128
  | .isConcreteNonFungible => MultiLocationV1 × AssetInstance

/-- `MultiAssetV0`. -/
abbrev MultiAssetV0 : Type := TaggedUnion MultiAssetV0.Flag MultiAssetV0.Payload

namespace MultiAssetV0

/-- The payloads of the zero value. -/
def zero : (flag : Flag) → Payload flag
  | .isNone | .isAll | .isAllFungible | .isAllNonFungible => ()
  | .isAllAbstractFungible | .isAllAbstractNonFungible => ([] : List UInt8)
  | .isAllConcreteFungible | .isAllConcreteNonFungible => (default : MultiLocationV1)
  | .isAbstractFungible => (([] : List UInt8), (default : U128))
  | .isAbstractNonFungible => (([] : List UInt8), (default : AssetInstance))
  | .isConcreteFungible => ((default : MultiLocationV1), (default : U128))
  | .isConcreteNonFungible => ((default : MultiLocationV1), (default : AssetInstance))

instance : Inhabited MultiAssetV0 := ⟨blank zero⟩

def encodePayload : (flag : Flag) → Payload flag → Written
  | .isNone, _ | .isAll, _ | .isAllFungible, _ | .isAllNonFungible, _ => .ok []
  | .isAllAbstractFungible, key | .isAllAbstractNonFungible, key => encodeBytes key
  | .isAllConcreteFungible, location | .isAllConcreteNonFungible, location => MultiLocationV1.encodeValue location
  | .isAbstractFungible, (key, amount) => writeAll [encodeBytes key, U128.encode amount]
  | .isAbstractNonFungible, (key, assetInstance) => writeAll [encodeBytes key, assetInstance.encode]
  | .isConcreteFungible, (location, amount) => writeAll [location.encodeValue, U128.encode amount]
  | .isConcreteNonFungible, (location, assetInstance) => writeAll [location.encodeValue, assetInstance.encode]

def decodePayload : (flag : Flag) → Decoder (Payload flag)
  | .isNone | .isAll | .isAllFungible | .isAllNonFungible => pure ()
  | .isAllAbstractFungible | .isAllAbstractNonFungible => decodeBytes []
  | .isAllConcreteFungible | .isAllConcreteNonFungible => MultiLocationV1.decode
  | .isAbstractFungible => do
      let key ← decodeBytes []
      let amount ← U128.decode
      pure (key, amount)
  | .isAbstractNonFungible => do
      let key ← decodeBytes []
      let assetInstance ← AssetInstance.decode
      pure (key, assetInstance)
  | .isConcreteFungible => do
      let location ← MultiLocationV1.decode
      let amount ← U128.decode
      pure (location, amount)
  | .isConcreteNonFungible => do
      let location ← MultiLocationV1.decode
      let assetInstance ← AssetInstance.decode
      pure (location, assetInstance)

/-- `MultiAssetV0.Encode`. -/
def encode : MultiAssetV0 → Written :=
  encodeUnion
    [(.isNone, 0), (.isAll, 1), (.isAllFungible, 2), (.isAllNonFungible, 3), (.isAllAbstractFungible, 4),
      (.isAllAbstractNonFungible, 5), (.isAllConcreteFungible, 6), (.isAllConcreteNonFungible, 7),
      (.isAbstractFungible, 8), (.isAbstractNonFungible, 9), (.isConcreteFungible, 10), (.isConcreteNonFungible, 11)]
    encodePayload

/-- `MultiAssetV0.Decode`. -/
def decode : Decoder MultiAssetV0 :=
  decodeUnion zero
    [(0, .isNone), (1, .isAll), (2, .isAllFungible), (3, .isAllNonFungible), (4, .isAllAbstractFungible),
      (5, .isAllAbstractNonFungible), (6, .isAllConcreteFungible), (7, .isAllConcreteNonFungible),
      (8, .isAbstractFungible), (9, .isAbstractNonFungible), (10, .isConcreteFungible), (11, .isConcreteNonFungible)]
    decodePayload

def Good : (flag : Flag) → Payload flag → Prop
  | .isNone, _ | .isAll, _ | .isAllFungible, _ | .isAllNonFungible, _ => True
  | .isAllAbstractFungible, key | .isAllAbstractNonFungible, key => Short (List.length (α := UInt8) key)
  | .isAllConcreteFungible, location | .isAllConcreteNonFungible, location => MultiLocationV1.WellFormed location
  | .isAbstractFungible, (key, amount) => Short key.length ∧ U128.InRange amount
  | .isAbstractNonFungible, (key, assetInstance) =>
      Short key.length ∧ assetInstance.WellFormed AssetInstance.zero AssetInstance.Good
  | .isConcreteFungible, (location, amount) => location.WellFormed ∧ U128.InRange amount
  | .isConcreteNonFungible, (location, assetInstance) =>
      location.WellFormed ∧ assetInstance.WellFormed AssetInstance.zero AssetInstance.Good

theorem restores {asset : MultiAssetV0} (well : asset.WellFormed zero Good) :
    Restores (encode asset) decode asset := by
  refine restores_union (fun flag => ?_) (fun flag payload good => ?_) well
  · cases flag <;> exact ⟨_, rfl, rfl⟩
  · cases flag with
    | isNone | isAll | isAllFungible | isAllNonFungible => exact restores_unit payload
    | isAllAbstractFungible | isAllAbstractNonFungible => exact Short.restores_bytes good
    | isAllConcreteFungible | isAllConcreteNonFungible => exact MultiLocationV1.restores_value good
    | isAbstractFungible => exact (Short.restores_bytes good.1).pair (U128.restores good.2)
    | isAbstractNonFungible => exact (Short.restores_bytes good.1).pair (AssetInstance.restores good.2)
    | isConcreteFungible => exact (MultiLocationV1.restores_value good.1).pair (U128.restores good.2)
    | isConcreteNonFungible => exact (MultiLocationV1.restores_value good.1).pair (AssetInstance.restores good.2)

end MultiAssetV0

/-! ## Assets of either version -/

/-- The flags of `VersionedMultiAssets`. -/
inductive VersionedMultiAssets.Flag where
  | isV0 | isV1
  deriving DecidableEq

/-- The payloads of `VersionedMultiAssets`. -/
def VersionedMultiAssets.Payload : VersionedMultiAssets.Flag → Type
  | .isV0 => List MultiAssetV0
  | .isV1 => MultiAssetsV1

/-- `VersionedMultiAssets`. -/
abbrev VersionedMultiAssets : Type := TaggedUnion VersionedMultiAssets.Flag VersionedMultiAssets.Payload

namespace VersionedMultiAssets

/-- The payloads of the zero value. -/
def zero : (flag : Flag) → Payload flag
  | .isV0 => ([] : List MultiAssetV0)
  | .isV1 => ([] : List MultiAssetV1)

def encodePayload : (flag : Flag) → Payload flag → Written
  | .isV0, assets => encodeSlice MultiAssetV0.encode assets
  | .isV1, assets => MultiAssetsV1.encode assets

def decodePayload : (flag : Flag) → Decoder (Payload flag)
  | .isV0 => decodeList MultiAssetV0.decode
  | .isV1 => MultiAssetsV1.decode

/-- `VersionedMultiAssets.Encode`. -/
def encode : VersionedMultiAssets → Written := encodeUnion [(.isV0, 0), (.isV1, 1)] encodePayload

/-- `VersionedMultiAssets.Decode`. -/
def decode : Decoder VersionedMultiAssets := decodeUnion zero [(0, .isV0), (1, .isV1)] decodePayload

def Good : (flag : Flag) → Payload flag → Prop
  | .isV0, assets => AllFit Short (TaggedUnion.WellFormed MultiAssetV0.zero MultiAssetV0.Good) assets
  | .isV1, assets => MultiAssetsV1.WellFormed assets

theorem restores {assets : VersionedMultiAssets} (well : assets.WellFormed zero Good) :
    Restores (encode assets) decode assets := by
  refine restores_union (fun flag => ?_) (fun flag payload good => ?_) well
  · cases flag <;> exact ⟨_, rfl, rfl⟩
  · cases flag with
    | isV0 => exact AllFit.restores (fun _ => Short.le_maxUint32) good fun _ => MultiAssetV0.restores
    | isV1 => exact MultiAssetsV1.restores good

end VersionedMultiAssets

/-! ## Cuts that pass -/

/-- Behind the tag of the second version, the last junction is cut in its network. -/
def VersionedMultiLocation.CutInNetwork (location : VersionedMultiLocation) (cut : List UInt8) : Prop :=
  location.flag .isV1 = true ∧ cut ≠ [] ∧ MultiLocationV1.CutInNetwork (location.payload .isV1) cut.tail

/-- The location of all assets of a kind, behind which an asset ends. -/
def MultiAssetV0.allOf? (asset : MultiAssetV0) : Option MultiLocationV1 :=
  if asset.flag .isAllConcreteFungible then some (asset.payload .isAllConcreteFungible)
  else if asset.flag .isAllConcreteNonFungible then some (asset.payload .isAllConcreteNonFungible)
  else none

/-- Behind the tag of the asset, the location at its end is cut in a network. -/
def MultiAssetV0.CutInNetwork (asset : MultiAssetV0) (cut : List UInt8) : Prop :=
  cut ≠ [] ∧ ∃ location ∈ asset.allOf?, location.CutInNetwork cut.tail

/-- Behind the tag of the first version and the number of assets, the last asset is cut in a network. -/
def VersionedMultiAssets.CutInNetwork (assets : VersionedMultiAssets) (cut : List UInt8) : Prop :=
  assets.flag .isV0 = true ∧ cut ≠ [] ∧
    Behind (compactBytes (List.length (α := MultiAssetV0) (assets.payload .isV0)))
      (CutInLast MultiAssetV0.encode MultiAssetV0.CutInNetwork (assets.payload .isV0)) cut.tail

/-! ## Parts that notice every cut -/

theorem delimited_networkID : Delimited NetworkID.decode := by
  refine delimited_union delimited_readOneByte (fun flag => ?_) fun _ => delimited_pure _
  cases flag with
  | isNamed => exact delimited_bytes
  | isAny | isPolkadot | isKusama => exact delimited_pure _

theorem delimited_junctionV0 : Delimited JunctionV0.decode := by
  refine delimited_union delimited_readOneByte (fun flag => ?_) fun _ => delimited_pure _
  cases flag with
  | isParent | isOnlyChild => exact delimited_pure _
  | isParachain => exact delimited_num .u32 (0 : UInt32)
  | isAccountID32 | isAccountKey20 =>
      exact delimited_networkID.bind fun _ => delimited_bytes.bind fun _ => delimited_pure _
  | isAccountIndex64 => exact delimited_networkID.bind fun _ => (delimited_num .u64 _).bind fun _ => delimited_pure _
  | isPalletInstance => exact delimited_num .u8 (0 : UInt8)
  | isGeneralIndex => exact delimited_u128
  | isGeneralKey => exact delimited_bytes
  | isPlurality => exact delimited_bodyID.bind fun _ => delimited_bodyPart.bind fun _ => delimited_pure _

theorem delimited_multiLocationV0 : Delimited MultiLocationV0.decode := by
  refine delimited_union delimited_readOneByte (fun flag => ?_) fun _ => delimited_pure _
  cases flag with
  | isNull => exact delimited_pure _
  | isX1 => exact delimited_junctionV0
  | isX2 | isX3 | isX4 | isX5 | isX6 | isX7 | isX8 => exact delimited_mapVector (fun _ => delimited_junctionV0) _

theorem delimited_assetInstance : Delimited AssetInstance.decode := by
  refine delimited_union delimited_readOneByte (fun flag => ?_) fun _ => delimited_pure _
  cases flag with
  | isUndefined => exact delimited_pure _
  | isIndex => exact delimited_u128
  | isArray4 | isArray8 | isArray16 | isArray32 => exact delimited_mapVector (delimited_num .u8) _
  | isBlob => exact delimited_bytes

theorem delimited_fungibility : Delimited Fungibility.decode := by
  refine delimited_union delimited_readOneByte (fun flag => ?_) fun _ => delimited_pure _
  cases flag with
  | isFungible => exact delimited_uCompact
  | isNonFungible => exact delimited_assetInstance

/-! ## Well-formed values have one flag -/

theorem JunctionV1.oneFlag_of_wellFormed {junction : JunctionV1} (well : junction.WellFormed zero Good) :
    junction.OneFlag := by
  have networks : ∀ {network : NetworkID}, network.WellFormed NetworkID.zero NetworkID.Good → network.OneFlag :=
    fun well => marked_of_wellFormed well fun _ _ _ => trivial
  refine marked_of_wellFormed well fun flag payload good => ?_
  cases flag with
  | isAccountID32 | isAccountKey20 => exact networks good.1
  | isAccountIndex64 => exact networks good
  | isPlurality =>
      exact ⟨marked_of_wellFormed good.1 fun _ _ _ => trivial, marked_of_wellFormed good.2 fun _ _ _ => trivial⟩
  | isParachain | isPalletInstance | isGeneralIndex | isGeneralKey | isOnlyChild => trivial

theorem MultiLocationV1.oneFlag_of_wellFormed {location : MultiLocationV1} (well : location.WellFormed) :
    location.interior.OneFlag := by
  refine marked_of_wellFormed well fun flag payload good => ?_
  cases flag with
  | isHere => trivial
  | isX1 => exact JunctionV1.oneFlag_of_wellFormed good
  | isX2 | isX3 | isX4 | isX5 | isX6 | isX7 | isX8 =>
      exact fun junction member => JunctionV1.oneFlag_of_wellFormed (good junction member)

/-! ## Which cuts pass -/

/-- A location of the second version, where it is written as a value. -/
theorem MultiLocationV1.cutsAt_value {location : MultiLocationV1} (well : location.WellFormed) {bytes : List UInt8}
    (encoded : location.encodeValue = .ok bytes) : CutsAt MultiLocationV1.decode bytes location.CutInNetwork := by
  apply MultiLocationV1.cutsAt (MultiLocationV1.oneFlag_of_wellFormed well)
  obtain ⟨front, back, parents, interior, rfl⟩ := writeAll_pair_eq_ok.mp encoded
  have parents_written := Outcome.mapError_eq_ok.mp parents
  have interior_written := Outcome.mapError_eq_ok.mp interior
  exact writeAll_pair_eq_ok.mpr ⟨front, back, parents_written, interior_written, rfl⟩

namespace VersionedMultiLocation

theorem cutsAt {location : VersionedMultiLocation} (well : location.WellFormed zero Good) {bytes : List UInt8}
    (encoded : location.encode = .ok bytes) : CutsAt decode bytes location.CutInNetwork := by
  have agree : Agree [(Flag.isV0, 0), (.isV1, 1)] [(0, Flag.isV0), (1, .isV1)] := by
    intro flag
    cases flag <;> exact ⟨_, rfl, rfl⟩
  obtain ⟨flag, selects, good⟩ := well
  obtain ⟨tag, payload, rfl, -, tag_known, written⟩ := exists_tag_of_marked selects.flags agree encoded
  have union_cuts : ∀ {accepted : List UInt8 → Prop}, CutsAt (decodePayload flag) payload accepted →
      CutsAt decode (tag :: payload) fun cut => cut ≠ [] ∧ accepted cut.tail := fun cuts =>
    cutsAt_union_tail delimited_readOneByte (reads_readOneByte tag) tag_known cuts
  cases flag with
  | isV0 =>
      have closed := delimited_multiLocationV0.cutsAt_of_readable (MultiLocationV0.restores good).readable written
      exact (union_cuts closed).congr fun cut _ _ _ => by simp [CutInNetwork, selects.flags]
  | isV1 =>
      have cuts := MultiLocationV1.cutsAt_value good written
      exact (union_cuts cuts).congr fun cut _ _ _ => by simp [CutInNetwork, selects.flags]

end VersionedMultiLocation

/-- Every well-formed location of either version is decoded from its encoding, whatever follows.  A proper front part
of the encoding passes for a location exactly when the location has the second version and its last junction is cut
in its network. -/
theorem versioned_location_round_trip (location : VersionedMultiLocation)
    (well : location.WellFormed VersionedMultiLocation.zero VersionedMultiLocation.Good) :
    Restores location.encode VersionedMultiLocation.decode location ∧
      ∀ cut missing, location.encode = .ok (cut ++ missing) → missing ≠ [] →
        ((VersionedMultiLocation.decode cut).Succeeds ↔ location.CutInNetwork cut) := by
  refine ⟨VersionedMultiLocation.restores well, ?_⟩
  intro cut missing encoded proper
  exact (VersionedMultiLocation.cutsAt well encoded).succeeds_iff cut missing rfl proper

theorem accountLocation_wellFormed : accountLocation.WellFormed := by
  have network : (choose NetworkID.zero .isAny ()).WellFormed NetworkID.zero NetworkID.Good :=
    wellFormed_choose trivial
  have junction : indexedAccount.WellFormed JunctionV1.zero JunctionV1.Good := wellFormed_choose network
  change (choose JunctionsV1.zero .isX1 indexedAccount).WellFormed JunctionsV1.zero JunctionsV1.Good
  exact wellFormed_choose junction

/-- The location of the account, in the second version. -/
def versionedAccount : VersionedMultiLocation := choose VersionedMultiLocation.zero .isV1 accountLocation

theorem versioned_location_round_trip_account :
    Restores versionedAccount.encode VersionedMultiLocation.decode versionedAccount ∧
      versionedAccount.encode = .ok ([1, 0, 1, 2] ++ [0, 5, 0, 0, 0, 0, 0, 0, 0]) ∧
      versionedAccount.CutInNetwork [1, 0, 1, 2] := by
  have encoded : versionedAccount.encode = .ok ([1, 0, 1, 2] ++ [0, 5, 0, 0, 0, 0, 0, 0, 0]) := rfl
  obtain ⟨restores, cuts⟩ :=
    versioned_location_round_trip versionedAccount (wellFormed_choose accountLocation_wellFormed)
  exact ⟨restores, encoded, (cuts _ _ encoded (by simp)).mp ⟨_, rfl⟩⟩

/-! ## Which cuts of assets pass -/

/-- Behind the number of items, a list is cut in its last item. -/
theorem cutsAt_list {α : Type} [Inhabited α] {encodeItem : α → Written} {decodeItem : Decoder α}
    {accepted : α → List UInt8 → Prop} {items : List α} {bytes : List UInt8}
    (each : ∀ item ∈ items, ∀ bytes, encodeItem item = .ok bytes → CutsAt decodeItem bytes (accepted item))
    (starved : ¬ (decodeItem []).Succeeds) (encoded : encodeSlice encodeItem items = .ok bytes) :
    CutsAt (decodeList decodeItem) bytes
      (Behind (compactBytes items.length) (CutInLast encodeItem accepted items)) := by
  obtain ⟨short, chunks, written, rfl⟩ := encodeSlice_eq_ok encoded
  have length_lt : items.length < 2 ^ 536 := lt_compact_bound (by unfold maxUint32 at short; omega)
  have length_cuts := delimited_decodeUintCompact.cutsAt (reads_compactBytes length_lt)
  have items_cuts : CutsAt (decodeItems ampleMemory default (fun _ => decodeItem) ⟨[], []⟩ items.length) chunks.flatten
      (CutInLast encodeItem accepted items) := by
    rw [decodeItems_ample default _ _ short, resize_empty]
    exact (cutsAt_mapM default each starved (Outcome.mapM_eq_ok.mpr written)).bind_pure _
  have sequence : CutsAt (decodeUintCompact >>= decodeItems ampleMemory default (fun _ => decodeItem) ⟨[], []⟩)
      (compactBytes items.length ++ chunks.flatten)
      (Behind (compactBytes items.length) (CutInLast encodeItem accepted items)) := by
    apply length_cuts.bind_closed
    intro length length_read
    have twice := (length_read []).symm.trans (reads_compactBytes length_lt [])
    cases twice
    exact items_cuts
  apply CutsAt.bind_pure
  apply sequence.of_ok_iff
  intro input result
  rw [decodeSlice, bind_apply]
  cases decodeUintCompact input <;> simp

namespace MultiAssetV0

/-- The tables of the two methods agree. -/
theorem agree :
    Agree
      [(.isNone, 0), (.isAll, 1), (.isAllFungible, 2), (.isAllNonFungible, 3), (.isAllAbstractFungible, 4),
        (.isAllAbstractNonFungible, 5), (.isAllConcreteFungible, 6), (.isAllConcreteNonFungible, 7),
        (.isAbstractFungible, 8), (.isAbstractNonFungible, 9), (.isConcreteFungible, 10), (.isConcreteNonFungible, 11)]
      [(0, Flag.isNone), (1, .isAll), (2, .isAllFungible), (3, .isAllNonFungible), (4, .isAllAbstractFungible),
        (5, .isAllAbstractNonFungible), (6, .isAllConcreteFungible), (7, .isAllConcreteNonFungible),
        (8, .isAbstractFungible), (9, .isAbstractNonFungible), (10, .isConcreteFungible),
        (11, .isConcreteNonFungible)] := by
  intro flag
  cases flag <;> exact ⟨_, rfl, rfl⟩

/-- Behind a location comes an amount or an instance, which is missed, unless the asset stands for all of a kind. -/
theorem cutsAt {asset : MultiAssetV0} (well : asset.WellFormed zero Good) {bytes : List UInt8}
    (encoded : asset.encode = .ok bytes) : CutsAt decode bytes asset.CutInNetwork := by
  obtain ⟨flag, selects, good⟩ := well
  obtain ⟨tag, payload, rfl, -, tag_known, written⟩ := exists_tag_of_marked selects.flags agree encoded
  have union_cuts : ∀ {accepted : List UInt8 → Prop}, CutsAt (decodePayload flag) payload accepted →
      CutsAt decode (tag :: payload) fun cut => cut ≠ [] ∧ accepted cut.tail := fun cuts =>
    cutsAt_union_tail delimited_readOneByte (reads_readOneByte tag) tag_known cuts
  have closed : asset.allOf? = none → CutsAt (decodePayload flag) payload NoCut →
      CutsAt decode (tag :: payload) asset.CutInNetwork := fun absent cuts =>
    (union_cuts cuts).congr fun cut _ _ _ => by simp [CutInNetwork, absent]
  have all_of : ∀ {location : MultiLocationV1}, asset.allOf? = some location →
      CutsAt (decodePayload flag) payload location.CutInNetwork →
      CutsAt decode (tag :: payload) asset.CutInNetwork := fun {location} known cuts =>
    (union_cuts cuts).congr fun cut _ _ _ => by simp [CutInNetwork, known]
  cases flag with
  | isNone | isAll | isAllFungible | isAllNonFungible =>
      exact closed (by simp [allOf?, selects.flags])
        ((delimited_pure ()).cutsAt_of_readable (readable_unit ()) written)
  | isAllAbstractFungible | isAllAbstractNonFungible =>
      exact closed (by simp [allOf?, selects.flags])
        (delimited_bytes.cutsAt_of_readable (readable_bytes _) written)
  | isAllConcreteFungible | isAllConcreteNonFungible =>
      exact all_of (by simp [allOf?, selects.flags]) (MultiLocationV1.cutsAt_value good written)
  | isAbstractFungible =>
      refine closed (by simp [allOf?, selects.flags]) (Delimited.cutsAt_of_readable ?_
        ((readable_bytes _).pair (readable_u128 _)) written)
      exact delimited_bytes.bind fun _ => delimited_u128.bind fun _ => delimited_pure _
  | isAbstractNonFungible =>
      refine closed (by simp [allOf?, selects.flags]) (Delimited.cutsAt_of_readable ?_
        ((readable_bytes _).pair (AssetInstance.restores good.2).readable) written)
      exact delimited_bytes.bind fun _ => delimited_assetInstance.bind fun _ => delimited_pure _
  | isConcreteFungible =>
      refine closed (by simp [allOf?, selects.flags]) (CutsAt.pair_closed Prod.mk written
        (fun _ location => ⟨_, MultiLocationV1.cutsAt_value good.1 location⟩) delimited_u128 (readable_u128 _) ?_)
      rintro ⟨_, success⟩
      cases success
  | isConcreteNonFungible =>
      refine closed (by simp [allOf?, selects.flags]) (CutsAt.pair_closed Prod.mk written
        (fun _ location => ⟨_, MultiLocationV1.cutsAt_value good.1 location⟩) delimited_assetInstance
        (AssetInstance.restores good.2).readable ?_)
      rintro ⟨_, success⟩
      cases success

end MultiAssetV0

/-- Behind a location or a key comes the fungibility, which is missed. -/
theorem MultiAssetV1.cutsAt {asset : MultiAssetV1} (well : asset.WellFormed) {bytes : List UInt8}
    (encoded : asset.encode = .ok bytes) : CutsAt MultiAssetV1.decode bytes NoCut := by
  have agree : Agree [(AssetID.Flag.isConcrete, 0), (.isAbstract, 1)]
      [(0, AssetID.Flag.isConcrete), (1, .isAbstract)] := by
    intro flag
    cases flag <;> exact ⟨_, rfl, rfl⟩
  have id_cuts : ∀ front, asset.id.encode = .ok front → ∃ accepted, CutsAt AssetID.decode front accepted := by
    intro front front_written
    obtain ⟨flag, selects, good⟩ := well.id
    obtain ⟨tag, payload, rfl, -, tag_known, written⟩ := exists_tag_of_marked selects.flags agree front_written
    have union_cuts : ∀ {accepted : List UInt8 → Prop}, CutsAt (AssetID.decodePayload flag) payload accepted →
        CutsAt AssetID.decode (tag :: payload) (Behind [tag] accepted) := fun cuts =>
      cutsAt_union delimited_readOneByte (reads_readOneByte tag) tag_known cuts
    cases flag with
    | isConcrete =>
        exact ⟨_, union_cuts (MultiLocationV1.cutsAt (MultiLocationV1.oneFlag_of_wellFormed good) written)⟩
    | isAbstract => exact ⟨_, union_cuts (delimited_bytes.cutsAt_of_readable (readable_bytes _) written)⟩
  apply CutsAt.pair_closed MultiAssetV1.mk encoded id_cuts delimited_fungibility
    (Fungibility.restores well.fungibility).readable
  rintro ⟨_, success⟩
  cases success

namespace VersionedMultiAssets

theorem cutsAt {assets : VersionedMultiAssets} (well : assets.WellFormed zero Good) {bytes : List UInt8}
    (encoded : assets.encode = .ok bytes) : CutsAt decode bytes assets.CutInNetwork := by
  have agree : Agree [(Flag.isV0, 0), (.isV1, 1)] [(0, Flag.isV0), (1, .isV1)] := by
    intro flag
    cases flag <;> exact ⟨_, rfl, rfl⟩
  obtain ⟨flag, selects, good⟩ := well
  obtain ⟨tag, payload, rfl, -, tag_known, written⟩ := exists_tag_of_marked selects.flags agree encoded
  have union_cuts : ∀ {accepted : List UInt8 → Prop}, CutsAt (decodePayload flag) payload accepted →
      CutsAt decode (tag :: payload) fun cut => cut ≠ [] ∧ accepted cut.tail := fun cuts =>
    cutsAt_union_tail delimited_readOneByte (reads_readOneByte tag) tag_known cuts
  cases flag with
  | isV0 =>
      have cuts := cutsAt_list (fun asset member _ => MultiAssetV0.cutsAt (good.2 asset member)) (by
        rintro ⟨_, success⟩
        cases success) written
      exact (union_cuts cuts).congr fun cut _ _ _ => by simp [CutInNetwork, selects.flags]
  | isV1 =>
      have cuts := cutsAt_list (fun asset member _ => MultiAssetV1.cutsAt (good.2 asset member)) (by
        rintro ⟨_, success⟩
        cases success) written
      refine (union_cuts cuts).congr fun cut _ _ _ => iff_of_false ?_ (by simp [CutInNetwork, selects.flags])
      rintro ⟨_, _, _, inside⟩
      exact not_cutInLast inside

end VersionedMultiAssets

/-- Every well-formed list of assets of either version is decoded from its encoding, whatever follows.  A proper front
part of the encoding passes for a list exactly when the list has the first version, its last asset stands for all
assets of a kind at a location, and the location is cut in the network of its last junction. -/
theorem versioned_assets_round_trip (assets : VersionedMultiAssets)
    (well : assets.WellFormed VersionedMultiAssets.zero VersionedMultiAssets.Good) :
    Restores assets.encode VersionedMultiAssets.decode assets ∧
      ∀ cut missing, assets.encode = .ok (cut ++ missing) → missing ≠ [] →
        ((VersionedMultiAssets.decode cut).Succeeds ↔ assets.CutInNetwork cut) := by
  refine ⟨VersionedMultiAssets.restores well, ?_⟩
  intro cut missing encoded proper
  exact (VersionedMultiAssets.cutsAt well encoded).succeeds_iff cut missing rfl proper

/-- All assets of a kind, at the account of any network. -/
def accountAssets : VersionedMultiAssets :=
  choose VersionedMultiAssets.zero .isV0 [choose MultiAssetV0.zero .isAllConcreteFungible accountLocation]

theorem accountAssets_wellFormed : accountAssets.WellFormed VersionedMultiAssets.zero VersionedMultiAssets.Good := by
  have asset : (choose MultiAssetV0.zero .isAllConcreteFungible accountLocation).WellFormed MultiAssetV0.zero
      MultiAssetV0.Good := wellFormed_choose accountLocation_wellFormed
  exact wellFormed_choose ⟨by simp [Short], by simpa using asset⟩

theorem versioned_assets_round_trip_account :
    Restores accountAssets.encode VersionedMultiAssets.decode accountAssets ∧
      accountAssets.encode = .ok ([0, 4, 6, 0, 1, 2] ++ [0, 5, 0, 0, 0, 0, 0, 0, 0]) ∧
      accountAssets.CutInNetwork [0, 4, 6, 0, 1, 2] := by
  have encoded : accountAssets.encode = .ok ([0, 4, 6, 0, 1, 2] ++ [0, 5, 0, 0, 0, 0, 0, 0, 0]) := rfl
  obtain ⟨restores, cuts⟩ := versioned_assets_round_trip accountAssets accountAssets_wellFormed
  exact ⟨restores, encoded, (cuts _ _ encoded (by simp)).mp ⟨_, rfl⟩⟩

end SubstrateClient.Xcm
