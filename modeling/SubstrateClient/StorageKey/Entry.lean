import SubstrateClient.MetadataFormat.Versions
import SubstrateClient.StorageKey.Hash
import SubstrateClient.Utf8Text

/-!
# Storage entries

`FindStorageEntryMetadata` looks for an entry by the prefix of its module and its own name.  The entries
of all versions implement one interface.
-/

namespace SubstrateClient.StorageKey

open Scale SubstrateClient.Types MetadataFormat

/-! ## The interface -/

/-- The implementations of `StorageEntryMetadata`. -/
inductive StorageEntryMetadata where
  | v4 (entry : StorageFunctionMetadataV4)
  | v5 (entry : StorageFunctionMetadataV5)
  | v10 (entry : StorageFunctionMetadataV10)
  | v13 (entry : StorageFunctionMetadataV13)
  | v14 (entry : StorageEntryMetadataV14)

/-- The error of `Hashers` on an entry that is no map. -/
def errNotMap : GoError := .text "Hashers() is only to be called on Maps"

/-- `collectHashersV5`. -/
def collectHashersV5 (type : StorageFunctionTypeV5) : Outcome GoError (List StorageHasher) :=
  if type.flag .isMap then
    let map : MapTypeV4 := type.payload .isMap
    .ok [map.hasher]
  else if type.flag .isDoubleMap then
    let map : DoubleMapTypeV5 := type.payload .isDoubleMap
    .ok [map.hasher, map.key2Hasher]
  else
    .panic

/-- `collectHashersV10`. -/
def collectHashersV10 (type : StorageFunctionTypeV10) : Outcome GoError (List StorageHasherV10) :=
  if type.flag .isMap then
    let map : MapTypeV10 := type.payload .isMap
    .ok [map.hasher]
  else if type.flag .isDoubleMap then
    let map : DoubleMapTypeV10 := type.payload .isDoubleMap
    .ok [map.hasher, map.key2Hasher]
  else
    .panic

/-- `collectHashersV13`. -/
def collectHashersV13 (type : StorageFunctionTypeV13) : Outcome GoError (List StorageHasherV10) :=
  if type.flag .isMap then
    let map : MapTypeV10 := type.payload .isMap
    .ok [map.hasher]
  else if type.flag .isDoubleMap then
    let map : DoubleMapTypeV10 := type.payload .isDoubleMap
    .ok [map.hasher, map.key2Hasher]
  else if type.flag .isNMap then
    let map : NMapTypeV13 := type.payload .isNMap
    .ok map.hashers
  else
    .panic

namespace StorageEntryMetadata

/-- `IsPlain`. -/
def isPlain : StorageEntryMetadata → Bool
  | v4 entry => entry.type.flag .isType
  | v5 entry => entry.type.flag .isType
  | v10 entry => entry.type.flag .isType
  | v13 entry => entry.type.flag .isType
  | v14 entry => entry.type.flag .isPlainType

/-- `IsMap`. -/
def isMap : StorageEntryMetadata → Bool
  | v4 entry => entry.type.flag .isMap || entry.type.flag .isDoubleMap
  | v5 entry => entry.type.flag .isMap || entry.type.flag .isDoubleMap
  | v10 entry => entry.type.flag .isMap || entry.type.flag .isDoubleMap
  | v13 entry => entry.type.flag .isMap || entry.type.flag .isDoubleMap || entry.type.flag .isNMap
  | v14 entry => entry.type.flag .isMap

/-- `DefaultPlainHasher`. -/
def defaultPlainHasher (entry : StorageEntryMetadata) : Outcome GoError HashObject :=
  if entry.isPlain then
    .ok (.xxhash (new128 []))
  else
    .error (.text "Hasher() is only to be called on a Plain entry")

/-- `Hasher`. -/
def hasher (digests : Digests) (entry : StorageEntryMetadata) : Outcome GoError HashObject :=
  match entry with
  | v4 function =>
      if entry.isMap then
        let map : MapTypeV4 := function.type.payload .isMap
        hashFunc digests map.hasher
      else
        entry.defaultPlainHasher
  | _ => entry.defaultPlainHasher

/-- `Hashers`. -/
def hashers (digests : Digests) (entry : StorageEntryMetadata) : Outcome GoError (List HashObject) :=
  match entry with
  | v4 function =>
      if !entry.isMap then
        .error errNotMap
      else if function.type.flag .isDoubleMap then
        .error (.text ("getting the two hashers of a DoubleMap is not supported for metadata v4. " ++
          "Please upgrade to use metadata v8 or newer"))
      else do
        let map : MapTypeV4 := function.type.payload .isMap
        let hashFn ← hashFunc digests map.hasher
        pure [hashFn]
  | v5 function =>
      if !entry.isMap then
        .error errNotMap
      else do
        let hashers ← collectHashersV5 function.type
        hashers.mapM (hashFunc digests)
  | v10 function =>
      if !entry.isMap then
        .error errNotMap
      else do
        let hashers ← collectHashersV10 function.type
        hashers.mapM (hashFuncV10 digests)
  | v13 function =>
      if !entry.isMap then
        .error errNotMap
      else do
        let hashers ← collectHashersV13 function.type
        hashers.mapM (hashFuncV10 digests)
  | v14 storage =>
      if !entry.isMap then
        .error (.text "StorageEntryMetadataV14.Hashers() should be called on a Map entry")
      else
        let map : MapTypeV14 := storage.type.payload .isMap
        map.hashers.mapM (hashFuncV10 digests)

end StorageEntryMetadata

/-! ## Lookup -/

/-- The field `Name` of an entry. -/
def StorageEntryMetadata.name : StorageEntryMetadata → Text
  | v4 entry => entry.name
  | v5 entry => entry.name
  | v10 entry => entry.name
  | v13 entry => entry.name
  | v14 entry => entry.name

/-- The prefix of a module and the entries of its storage. -/
abbrev ModuleStorage : Type := Text × List StorageEntryMetadata

/-- The loops of the `FindStorageEntryMetadata` methods, over the modules that have storage: the first
of them with the prefix decides. -/
def findEntry (storages : List ModuleStorage) (module fn : Text) :
    Outcome GoError StorageEntryMetadata :=
  match storages.find? fun storage => storage.1 = module with
  | none => .error (.printed (Utf8Text.bytes "module " ++ module ++ Utf8Text.bytes " not found in metadata"))
  | some storage =>
      match storage.2.find? fun entry => entry.name = fn with
      | some entry => .ok entry
      | none =>
          .error (.printed (Utf8Text.bytes "storage " ++ fn ++ Utf8Text.bytes " not found within module " ++
            module))

/-- The storage of a module, if it has one. -/
def moduleStorage {ι : Type} (wrap : ι → StorageEntryMetadata) (hasStorage : Bool)
    (storage : StorageMetadata ι) : Option ModuleStorage :=
  if hasStorage then some (storage.modulePrefix, storage.items.map wrap) else none

/-- The modules that have storage; none for a version that is not supported. -/
def moduleStorages (metadata : Metadata) : Option (List ModuleStorage) :=
  match metadata.version.toNat with
  | 4 => some (metadata.asMetadataV4.modules.filterMap fun mod =>
      moduleStorage .v4 mod.hasStorage ⟨mod.modulePrefix, mod.storage⟩)
  | 7 => some (metadata.asMetadataV7.modules.filterMap fun mod =>
      moduleStorage .v5 mod.hasStorage mod.storage)
  | 8 => some (metadata.asMetadataV8.modules.filterMap fun mod =>
      moduleStorage .v5 mod.hasStorage mod.storage)
  | 9 => some (metadata.asMetadataV9.modules.filterMap fun mod =>
      moduleStorage .v5 mod.hasStorage mod.storage)
  | 10 => some (metadata.asMetadataV10.modules.filterMap fun mod =>
      moduleStorage .v10 mod.hasStorage mod.storage)
  | 11 => some (metadata.asMetadataV11.metadataV10.modules.filterMap fun mod =>
      moduleStorage .v10 mod.hasStorage mod.storage)
  | 12 => some (metadata.asMetadataV12.modules.filterMap fun mod =>
      moduleStorage .v10 mod.moduleMetadataV10.hasStorage mod.moduleMetadataV10.storage)
  | 13 => some (metadata.asMetadataV13.modules.filterMap fun mod =>
      moduleStorage .v13 mod.hasStorage mod.storage)
  | 14 => some (metadata.asMetadataV14.pallets.filterMap fun mod =>
      moduleStorage .v14 mod.hasStorage mod.storage)
  | _ => none

/-- `Metadata.FindStorageEntryMetadata`. -/
def findStorageEntryMetadata (metadata : Metadata) (module fn : Text) :
    Outcome GoError StorageEntryMetadata :=
  match moduleStorages metadata with
  | some storages => findEntry storages module fn
  | none => .error (.text "unsupported metadata version")

/-- All storage entries of the metadata. -/
def storageEntries (metadata : Metadata) : List StorageEntryMetadata :=
  ((moduleStorages metadata).getD []).flatMap Prod.snd

/-- What is found is one of the entries. -/
theorem mem_storageEntries_of_find {metadata : Metadata} {module fn : Text}
    {entry : StorageEntryMetadata} (found : findStorageEntryMetadata metadata module fn = .ok entry) :
    entry ∈ storageEntries metadata := by
  unfold findStorageEntryMetadata at found
  unfold storageEntries
  cases supported : moduleStorages metadata with
  | none =>
      rw [supported] at found
      cases found
  | some storages =>
      rw [supported] at found
      unfold findEntry at found
      dsimp only at found
      split at found
      · cases found
      · rename_i storage selected
        split at found
        · rename_i candidate matched
          cases found
          exact List.mem_flatMap.mpr ⟨storage, List.mem_of_find?_eq_some selected,
            List.mem_of_find?_eq_some matched⟩
        · cases found

/-! ## Flags of entries -/

/-- A hasher of an entry, in one of the two forms that the versions have. -/
inductive KeyHasher where
  | old (hasher : StorageHasher)
  | new (hasher : StorageHasherV10)

/-- Exactly the flag of the kind is set. -/
inductive KeyHasher.HasKind : KeyHasher → HasherKind → Prop where
  | old {hasher : StorageHasher} {flag : StorageHasher.Flag}
      (selects : hasher.Selects (fun _ => ()) flag) : HasKind (.old hasher) (hasherKind flag)
  | new {hasher : StorageHasherV10} {flag : StorageHasherV10.Flag}
      (selects : hasher.Selects (fun _ => ()) flag) : HasKind (.new hasher) (hasherKindV10 flag)

/-- Exactly one flag of a union is set. -/
def OneKind {ν : Type} [DecidableEq ν] {Payload : ν → Type} (union : TaggedUnion ν Payload) : Prop :=
  ∃ variant, ∀ other, union.flag other = decide (other = variant)

namespace StorageEntryMetadata

/-- The hashers of the keys of an entry; none for a plain entry. -/
def keyHashers : StorageEntryMetadata → List KeyHasher
  | v4 entry =>
      let map : MapTypeV4 := entry.type.payload .isMap
      if entry.type.flag .isMap then [.old map.hasher] else []
  | v5 entry =>
      let map : MapTypeV4 := entry.type.payload .isMap
      let doubleMap : DoubleMapTypeV5 := entry.type.payload .isDoubleMap
      if entry.type.flag .isMap then [.old map.hasher]
      else if entry.type.flag .isDoubleMap then [.old doubleMap.hasher, .old doubleMap.key2Hasher]
      else []
  | v10 entry =>
      let map : MapTypeV10 := entry.type.payload .isMap
      let doubleMap : DoubleMapTypeV10 := entry.type.payload .isDoubleMap
      if entry.type.flag .isMap then [.new map.hasher]
      else if entry.type.flag .isDoubleMap then [.new doubleMap.hasher, .new doubleMap.key2Hasher]
      else []
  | v13 entry =>
      let map : MapTypeV10 := entry.type.payload .isMap
      let doubleMap : DoubleMapTypeV10 := entry.type.payload .isDoubleMap
      let nMap : NMapTypeV13 := entry.type.payload .isNMap
      if entry.type.flag .isMap then [.new map.hasher]
      else if entry.type.flag .isDoubleMap then [.new doubleMap.hasher, .new doubleMap.key2Hasher]
      else if entry.type.flag .isNMap then nMap.hashers.map .new
      else []
  | v14 entry =>
      let map : MapTypeV14 := entry.type.payload .isMap
      if entry.type.flag .isMap then map.hashers.map .new else []

/-- Exactly one kind flag. -/
def OneKindFlag : StorageEntryMetadata → Prop
  | v4 entry => OneKind entry.type
  | v5 entry => OneKind entry.type
  | v10 entry => OneKind entry.type
  | v13 entry => OneKind entry.type
  | v14 entry => OneKind entry.type

/-- Exactly one kind flag, and exactly one flag for each hasher. -/
structure WellFlagged (entry : StorageEntryMetadata) : Prop where
  kind : entry.OneKindFlag
  hashers : ∀ hasher ∈ entry.keyHashers, ∃ kind, hasher.HasKind kind

end StorageEntryMetadata

end SubstrateClient.StorageKey
