import SubstrateClient.MetadataFormat.Modules
import SubstrateClient.MetadataFormat.Pallets

/-!
# Versioned metadata

`Metadata` has a part for every supported version, and the version byte says which part is encoded
and decoded.
-/

namespace SubstrateClient.MetadataFormat

open ByteParser Scale SubstrateClient.Types TaggedUnion

section Parts

variable {μ : Type} (allowed : Nat → Prop)

/-- Metadata that are a list of modules. -/
structure ModulesMetadata (μ : Type) where
  modules : List μ
  deriving Inhabited

/-- `MetadataV4`. -/
abbrev MetadataV4 : Type := ModulesMetadata ModuleMetadataV4

/-- `MetadataV7`. -/
abbrev MetadataV7 : Type := ModulesMetadata ModuleMetadataV7

/-- `MetadataV8`. -/
abbrev MetadataV8 : Type := ModulesMetadata ModuleMetadataV8

/-- `MetadataV9`, with the modules of version 8. -/
abbrev MetadataV9 : Type := ModulesMetadata ModuleMetadataV8

/-- `MetadataV10`. -/
abbrev MetadataV10 : Type := ModulesMetadata ModuleMetadataV10

namespace ModulesMetadata

/-- The `Encode` methods. -/
def encode (encodeModule : μ → Written) (metadata : ModulesMetadata μ) : Written :=
  encodeSlice encodeModule metadata.modules

/-- The `Decode` methods. -/
def decode [Inhabited μ] (decodeModule : Decoder μ) : Decoder (ModulesMetadata μ) := do
  let modules ← decodeList decodeModule
  pure ⟨modules⟩

end ModulesMetadata

/-- `MetadataV11`. -/
structure MetadataV11 where
  metadataV10 : MetadataV10
  extrinsic : ExtrinsicV11
  deriving Inhabited

namespace MetadataV11

/-- `MetadataV11.Encode`. -/
def encode (metadata : MetadataV11) : Written :=
  writeAll [metadata.metadataV10.encode ModuleMetadataV10.encode, metadata.extrinsic.encode]

/-- `MetadataV11.Decode`. -/
def decode : Decoder MetadataV11 := do
  let metadataV10 ← ModulesMetadata.decode ModuleMetadataV10.decode
  let extrinsic ← ExtrinsicV11.decode
  pure ⟨metadataV10, extrinsic⟩

end MetadataV11

/-- Metadata that are a list of modules and the signed extensions. -/
structure ExtendedMetadata (μ : Type) where
  modules : List μ
  extrinsic : ExtrinsicV11
  deriving Inhabited

/-- `MetadataV12`. -/
abbrev MetadataV12 : Type := ExtendedMetadata ModuleMetadataV12

/-- `MetadataV13`. -/
abbrev MetadataV13 : Type := ExtendedMetadata ModuleMetadataV13

namespace ExtendedMetadata

/-- The `Encode` methods. -/
def encode (encodeModule : μ → Written) (metadata : ExtendedMetadata μ) : Written :=
  writeAll [encodeSlice encodeModule metadata.modules, metadata.extrinsic.encode]

/-- The `Decode` methods. -/
def decode [Inhabited μ] (decodeModule : Decoder μ) : Decoder (ExtendedMetadata μ) := do
  let modules ← decodeList decodeModule
  let extrinsic ← ExtrinsicV11.decode
  pure ⟨modules, extrinsic⟩

structure WellFormed (good : μ → Prop) (metadata : ExtendedMetadata μ) : Prop where
  modules : AllFit allowed good metadata.modules
  extrinsic : TextsFit allowed metadata.extrinsic.signedExtensions

end ExtendedMetadata

end Parts

/-! ## `Metadata` -/

/-- `MagicNumber`. -/
def magicNumber : UInt32 := 0x6174656d

/-- `Metadata`. -/
structure Metadata where
  magicNumber : UInt32
  version : UInt8
  asMetadataV4 : MetadataV4
  asMetadataV7 : MetadataV7
  asMetadataV8 : MetadataV8
  asMetadataV9 : MetadataV9
  asMetadataV10 : MetadataV10
  asMetadataV11 : MetadataV11
  asMetadataV12 : MetadataV12
  asMetadataV13 : MetadataV13
  asMetadataV14 : MetadataV14
  deriving Inhabited

namespace Metadata

/-- The format `%#x`. -/
def hexText (number : UInt32) : String := "0x" ++ String.ofList (Nat.toDigits 16 number.toNat)

/-- The error of a version that is not supported. -/
def unsupportedVersion (version : UInt8) : GoError :=
  .text ("unsupported metadata version " ++ toString version.toNat)

/-- The `switch` of `Metadata.Encode`. -/
def encodePart (metadata : Metadata) : Written :=
  match metadata.version.toNat with
  | 4 => metadata.asMetadataV4.encode ModuleMetadataV4.encode
  | 7 => metadata.asMetadataV7.encode ModuleMetadataV7.encode
  | 8 => metadata.asMetadataV8.encode ModuleMetadataV8.encode
  | 9 => metadata.asMetadataV9.encode ModuleMetadataV8.encode
  | 10 => metadata.asMetadataV10.encode ModuleMetadataV10.encode
  | 11 => metadata.asMetadataV11.encode
  | 12 => metadata.asMetadataV12.encode ModuleMetadataV12.encode
  | 13 => metadata.asMetadataV13.encode ModuleMetadataV13.encode
  | 14 => metadata.asMetadataV14.encode
  | _ => .error (unsupportedVersion metadata.version)

/-- `Metadata.Encode`. -/
def encode (metadata : Metadata) : Written :=
  writeAll [encodeU32 metadata.magicNumber, encodeU8 metadata.version, metadata.encodePart]

/-- The zero value with the magic number and a version. -/
def ofVersion (version : UInt8) : Metadata :=
  { (default : Metadata) with magicNumber := MetadataFormat.magicNumber, version }

/-- The `switch` of `Metadata.Decode`. -/
def decodePart (version : UInt8) : Decoder Metadata :=
  match version.toNat with
  | 4 => do
      let part ← ModulesMetadata.decode ModuleMetadataV4.decode
      pure { ofVersion version with asMetadataV4 := part }
  | 7 => do
      let part ← ModulesMetadata.decode ModuleMetadataV7.decode
      pure { ofVersion version with asMetadataV7 := part }
  | 8 => do
      let part ← ModulesMetadata.decode ModuleMetadataV8.decode
      pure { ofVersion version with asMetadataV8 := part }
  | 9 => do
      let part ← ModulesMetadata.decode ModuleMetadataV8.decode
      pure { ofVersion version with asMetadataV9 := part }
  | 10 => do
      let part ← ModulesMetadata.decode ModuleMetadataV10.decode
      pure { ofVersion version with asMetadataV10 := part }
  | 11 => do
      let part ← MetadataV11.decode
      pure { ofVersion version with asMetadataV11 := part }
  | 12 => do
      let part ← ExtendedMetadata.decode ModuleMetadataV12.decode
      pure { ofVersion version with asMetadataV12 := part }
  | 13 => do
      let part ← ExtendedMetadata.decode ModuleMetadataV13.decode
      pure { ofVersion version with asMetadataV13 := part }
  | 14 => do
      let part ← MetadataV14.decode
      pure { ofVersion version with asMetadataV14 := part }
  | _ => fail (unsupportedVersion version)

/-- `Metadata.Decode` into a zero value. -/
def decode : Decoder Metadata := do
  let found ← decodeU32 0
  if found ≠ MetadataFormat.magicNumber then
    fail (.text ("magic number mismatch: expected " ++ hexText MetadataFormat.magicNumber ++ ", found " ++
      hexText found))
  else
    let version ← decodeU8
    decodePart version

/-- The right magic number, and only the part of the version filled in. -/
inductive WellFormed (allowed : Nat → Prop) : Metadata → Prop where
  | v4 (part : MetadataV4) (fit : AllFit allowed (ModuleMetadataV4.WellFormed allowed) part.modules) :
      WellFormed allowed { ofVersion 4 with asMetadataV4 := part }
  | v7 (part : MetadataV7) (fit : AllFit allowed (ModuleMetadataV7.WellFormed allowed) part.modules) :
      WellFormed allowed { ofVersion 7 with asMetadataV7 := part }
  | v8 (part : MetadataV8) (fit : AllFit allowed (ModuleMetadataV8.WellFormed allowed) part.modules) :
      WellFormed allowed { ofVersion 8 with asMetadataV8 := part }
  | v9 (part : MetadataV9) (fit : AllFit allowed (ModuleMetadataV8.WellFormed allowed) part.modules) :
      WellFormed allowed { ofVersion 9 with asMetadataV9 := part }
  | v10 (part : MetadataV10) (fit : AllFit allowed (ModuleMetadataV10.WellFormed allowed) part.modules) :
      WellFormed allowed { ofVersion 10 with asMetadataV10 := part }
  | v11 (part : MetadataV11)
      (fit : AllFit allowed (ModuleMetadataV10.WellFormed allowed) part.metadataV10.modules)
      (extrinsic : TextsFit allowed part.extrinsic.signedExtensions) :
      WellFormed allowed { ofVersion 11 with asMetadataV11 := part }
  | v12 (part : MetadataV12) (well : part.WellFormed allowed fun module =>
      ModuleMetadataV10.WellFormed allowed module.moduleMetadataV10) :
      WellFormed allowed { ofVersion 12 with asMetadataV12 := part }
  | v13 (part : MetadataV13) (well : part.WellFormed allowed (ModuleMetadataV13.WellFormed allowed)) :
      WellFormed allowed { ofVersion 13 with asMetadataV13 := part }
  | v14 (part : MetadataV14) (well : part.WellFormed allowed) :
      WellFormed allowed { ofVersion 14 with asMetadataV14 := part }

end Metadata

/-! ## Round trips -/

section Restored

variable {μ : Type} {allowed : Nat → Prop} (short : ∀ length, allowed length → length ≤ maxUint32)

include short

theorem ModulesMetadata.restores [Inhabited μ] {encodeModule : μ → Written} {decodeModule : Decoder μ}
    {good : μ → Prop} (modules : ∀ module, good module → Restores (encodeModule module) decodeModule module)
    {metadata : ModulesMetadata μ} (fit : AllFit allowed good metadata.modules) :
    Restores (metadata.encode encodeModule) (decode decodeModule) metadata :=
  (fit.restores short modules).map ModulesMetadata.mk

theorem MetadataV11.restores {metadata : MetadataV11}
    (fit : AllFit allowed (ModuleMetadataV10.WellFormed allowed) metadata.metadataV10.modules)
    (extrinsic : TextsFit allowed metadata.extrinsic.signedExtensions) :
    Restores metadata.encode decode metadata := by
  refine (ModulesMetadata.restores short (fun _ => ModuleMetadataV10.restores short) fit).cons ?_
  exact (ExtrinsicV11.restores short extrinsic).cons (restores_nil metadata)

theorem ExtendedMetadata.restores [Inhabited μ] {encodeModule : μ → Written} {decodeModule : Decoder μ}
    {good : μ → Prop} (modules : ∀ module, good module → Restores (encodeModule module) decodeModule module)
    {metadata : ExtendedMetadata μ} (well : metadata.WellFormed allowed good) :
    Restores (metadata.encode encodeModule) (decode decodeModule) metadata := by
  refine (well.modules.restores short modules).cons ?_
  exact (ExtrinsicV11.restores short well.extrinsic).cons (restores_nil metadata)

omit short in
/-- Behind magic number and version the part of the version is restored. -/
theorem Metadata.restores_of_part {metadata : Metadata}
    (magic : metadata.magicNumber = MetadataFormat.magicNumber)
    (part : Restores metadata.encodePart (decodePart metadata.version) metadata) :
    Restores metadata.encode decode metadata := by
  refine (restores_u32 metadata.magicNumber).cons ?_
  rw [if_neg (not_not.mpr magic)]
  obtain ⟨bytes, written, reads⟩ := part
  refine (restores_u8 metadata.version).cons ⟨bytes, ?_, reads⟩
  rw [writeAll, written]
  exact congrArg Outcome.ok (List.append_nil bytes)

/-- Every version restores its own part. -/
theorem Metadata.restores {metadata : Metadata} (well : metadata.WellFormed allowed) :
    Restores metadata.encode decode metadata := by
  cases well with
  | v4 part fit =>
      have restored := ModulesMetadata.restores short (fun _ => ModuleMetadataV4.restores short) fit
      exact restores_of_part rfl
        (restored.map fun part => ({ ofVersion 4 with asMetadataV4 := part } : Metadata))
  | v7 part fit =>
      have restored := ModulesMetadata.restores short (fun _ => ModuleMetadataV7.restores short) fit
      exact restores_of_part rfl
        (restored.map fun part => ({ ofVersion 7 with asMetadataV7 := part } : Metadata))
  | v8 part fit =>
      have restored := ModulesMetadata.restores short (fun _ => ModuleMetadataV8.restores short) fit
      exact restores_of_part rfl
        (restored.map fun part => ({ ofVersion 8 with asMetadataV8 := part } : Metadata))
  | v9 part fit =>
      have restored := ModulesMetadata.restores short (fun _ => ModuleMetadataV8.restores short) fit
      exact restores_of_part rfl
        (restored.map fun part => ({ ofVersion 9 with asMetadataV9 := part } : Metadata))
  | v10 part fit =>
      have restored := ModulesMetadata.restores short (fun _ => ModuleMetadataV10.restores short) fit
      exact restores_of_part rfl
        (restored.map fun part => ({ ofVersion 10 with asMetadataV10 := part } : Metadata))
  | v11 part fit extrinsic =>
      have restored := MetadataV11.restores short fit extrinsic
      exact restores_of_part rfl
        (restored.map fun part => ({ ofVersion 11 with asMetadataV11 := part } : Metadata))
  | v12 part well =>
      have restored := ExtendedMetadata.restores short (fun _ => ModuleMetadataV12.restores short) well
      exact restores_of_part rfl
        (restored.map fun part => ({ ofVersion 12 with asMetadataV12 := part } : Metadata))
  | v13 part well =>
      have restored := ExtendedMetadata.restores short (fun _ => ModuleMetadataV13.restores short) well
      exact restores_of_part rfl
        (restored.map fun part => ({ ofVersion 13 with asMetadataV13 := part } : Metadata))
  | v14 part well =>
      have restored := MetadataV14.restores short well
      exact restores_of_part rfl
        (restored.map fun part => ({ ofVersion 14 with asMetadataV14 := part } : Metadata))

end Restored

/-- Well-formed metadata are encoded, and decoding their bytes gives them back and stops right after. -/
theorem Metadata.decode_encode_metadata (metadata : Metadata)
    (well : metadata.WellFormed fun length => length < 2 ^ 32) :
    ∃ bytes, metadata.encode = .ok bytes ∧
      ∀ rest, Metadata.decode (bytes ++ rest) = .ok (metadata, rest) :=
  Metadata.restores (fun length short => by unfold maxUint32; omega) well

/-- A primitive type. -/
def samplePortable : PortableTypeV14 :=
  ⟨(7 : Int), [], [], choose Si1TypeDef.zero .isPrimitive (3 : UInt8), []⟩

/-- A map with one hasher. -/
def sampleMap : MapTypeV14 := ⟨[choose (fun _ => ()) .isTwox64Concat ()], (7 : Int), (7 : Int)⟩

/-- A pallet with a map in its storage and nothing else. -/
def samplePallet : PalletMetadataV14 :=
  { (default : PalletMetadataV14) with
    name := [66]
    hasStorage := true
    storage := ⟨[66], [⟨[97], choose (fun _ => ()) .isDefault (),
      choose StorageEntryTypeV14.zero .isMap sampleMap, [0], []⟩]⟩ }

def sampleMetadata : Metadata :=
  { Metadata.ofVersion 14 with
    asMetadataV14 := ⟨[samplePortable], [samplePallet], default, (7 : Int), toMap [samplePortable]⟩ }

section Sample

private theorem inRange_seven : UCompact.InRange (7 : Int) := ⟨7, rfl, lt_compact_bound (by norm_num)⟩

private theorem wellFormed_samplePortable : samplePortable.WellFormed fun length => length < 2 ^ 32 where
  id := inRange_seven
  type := ⟨⟨by decide, by simp [samplePortable]⟩, ⟨by decide, by simp [samplePortable]⟩,
    wellFormed_choose (show UInt8.toNat 3 ≤ 14 by decide), ⟨by decide, by simp [samplePortable]⟩⟩

private theorem wellFormed_sampleMap : sampleMap.WellFormed fun length => length < 2 ^ 32 where
  hashers := ⟨by decide, fun hasher member => by
    obtain rfl := List.mem_singleton.mp member
    exact wellFormed_choose trivial⟩
  key := inRange_seven
  value := inRange_seven

private theorem wellFormed_samplePallet : samplePallet.WellFormed fun length => length < 2 ^ 32 where
  name := by decide
  storage := ⟨fun _ => ⟨by decide, by decide, fun entry member => by
    obtain rfl := List.mem_singleton.mp member
    exact ⟨by decide, wellFormed_choose trivial, wellFormed_choose wellFormed_sampleMap, by decide,
      by decide, by simp⟩⟩, fun absent => by cases absent⟩
  calls := optionFits_absent
  events := optionFits_absent
  constants := ⟨by decide, fun constant member => by cases member⟩
  errors := optionFits_absent

private theorem wellFormed_sampleExtrinsic :
    (default : ExtrinsicV14).WellFormed fun length => length < 2 ^ 32 where
  type := ⟨0, rfl, by positivity⟩
  signedExtensions := ⟨by decide, fun extension member => by cases member⟩

theorem Metadata.decode_encode_metadata_sample :
    ∃ bytes, sampleMetadata.encode = .ok bytes ∧
      ∀ rest, Metadata.decode (bytes ++ rest) = .ok (sampleMetadata, rest) := by
  refine Metadata.decode_encode_metadata sampleMetadata (.v14 _ ?_)
  refine ⟨⟨by decide, ?_⟩, ⟨by decide, ?_⟩, wellFormed_sampleExtrinsic, inRange_seven, rfl⟩
  · intro portable member
    obtain rfl := List.mem_singleton.mp member
    exact wellFormed_samplePortable
  · intro pallet member
    obtain rfl := List.mem_singleton.mp member
    exact wellFormed_samplePallet

end Sample

/-- A list of too many modules is not encoded, whatever is in them. -/
theorem Metadata.encode_of_long {modules : List ModuleMetadataV4} (long : maxUint32 < modules.length) :
    ({ Metadata.ofVersion 4 with asMetadataV4 := ⟨modules⟩ } : Metadata).encode =
      .error (.text "Attempted to serialize a collection with too many elements.") := by
  have part : ({ Metadata.ofVersion 4 with asMetadataV4 := ⟨modules⟩ } : Metadata).encodePart =
      .error (.text "Attempted to serialize a collection with too many elements.") := if_pos long
  rw [Metadata.encode, writeAll, writeAll, writeAll, part]
  rfl

/-- More modules than the length of a list may say. -/
def longModules : List ModuleMetadataV4 := List.replicate (2 ^ 32) default

theorem Metadata.encode_fails_of_long :
    Metadata.WellFormed (fun _ => True) { Metadata.ofVersion 4 with asMetadataV4 := ⟨longModules⟩ } ∧
      ∃ reason, ({ Metadata.ofVersion 4 with asMetadataV4 := ⟨longModules⟩ } : Metadata).encode =
        .error reason := by
  have long : maxUint32 < longModules.length := by
    rw [longModules, List.length_replicate]
    decide
  refine ⟨.v4 _ ⟨trivial, fun module member => ?_⟩, _, Metadata.encode_of_long long⟩
  obtain rfl := List.eq_of_mem_replicate member
  exact ⟨trivial, trivial, optionFits_absent, optionFits_absent, optionFits_absent⟩

end SubstrateClient.MetadataFormat
