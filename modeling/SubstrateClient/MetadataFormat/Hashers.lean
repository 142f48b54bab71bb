import SubstrateClient.TaggedUnion
import SubstrateClient.Types.ZeroValues

/-!
# Modifiers, hashers and kinds of map

The parts of a storage entry up to version 13.  A map names one hasher for each of its keys.
-/

namespace SubstrateClient.MetadataFormat

open ByteParser Scale SubstrateClient.Types TaggedUnion

/-- The tag of a union, as the methods that decode it into a `uint8` read it. -/
theorem reads_decodeU8 (tag : UInt8) : Reads decodeU8 [tag] tag := reads_u8 0 tag

/-! ## Modifiers -/

/-- The flags of `StorageFunctionModifierV0`. -/
inductive StorageFunctionModifierV0.Flag where
  | isOptional | isDefault | isRequired
  deriving DecidableEq

/-- `StorageFunctionModifierV0`. -/
abbrev StorageFunctionModifierV0 : Type := Flags StorageFunctionModifierV0.Flag

namespace StorageFunctionModifierV0

instance : Inhabited StorageFunctionModifierV0 := ⟨blank fun _ => ()⟩

/-- `StorageFunctionModifierV0.Encode`. -/
def encode : StorageFunctionModifierV0 → Written :=
  encodeFlags [(.isOptional, 0), (.isDefault, 1), (.isRequired, 2)]
    (.error (.text "expected storage function modifier, but none was set: \x7bfalse false false\x7d"))

/-- `StorageFunctionModifierV0.Decode`. -/
def decode : Decoder StorageFunctionModifierV0 :=
  decodeFlags decodeU8 [(0, .isOptional), (1, .isDefault), (2, .isRequired)] fun tag =>
    fail (.text ("received unexpected storage function modifier type " ++ toString tag.toNat))

theorem restores {modifier : StorageFunctionModifierV0} (one : OneFlag modifier) :
    Restores modifier.encode decode modifier := by
  refine restores_flags (fun flag => ?_) reads_decodeU8 one
  cases flag <;> exact ⟨_, rfl, rfl⟩

end StorageFunctionModifierV0

/-! ## Hashers -/

/-- The flags of `StorageHasher`. -/
inductive StorageHasher.Flag where
  | isBlake2_128 | isBlake2_256 | isTwox128 | isTwox256 | isTwox64Concat
  deriving DecidableEq

/-- `StorageHasher`. -/
abbrev StorageHasher : Type := Flags StorageHasher.Flag

namespace StorageHasher

instance : Inhabited StorageHasher := ⟨blank fun _ => ()⟩

/-- `StorageHasher.Encode`. -/
def encode : StorageHasher → Written :=
  encodeFlags
    [(.isBlake2_128, 0), (.isBlake2_256, 1), (.isTwox128, 2), (.isTwox256, 3), (.isTwox64Concat, 4)]
    (.error (.text "expected storage hasher, but none was set: \x7bfalse false false false false\x7d"))

/-- `StorageHasher.Decode`. -/
def decode : Decoder StorageHasher :=
  decodeFlags decodeU8
    [(0, .isBlake2_128), (1, .isBlake2_256), (2, .isTwox128), (3, .isTwox256), (4, .isTwox64Concat)]
    fun tag => fail (.text ("received unexpected storage hasher type " ++ toString tag.toNat))

theorem restores {hasher : StorageHasher} (one : OneFlag hasher) :
    Restores hasher.encode decode hasher := by
  refine restores_flags (fun flag => ?_) reads_decodeU8 one
  cases flag <;> exact ⟨_, rfl, rfl⟩

end StorageHasher

/-- The flags of `StorageHasherV10`. -/
inductive StorageHasherV10.Flag where
  | isBlake2_128 | isBlake2_256 | isBlake2_128Concat | isTwox128 | isTwox256 | isTwox64Concat
  | isIdentity
  deriving DecidableEq

/-- `StorageHasherV10`. -/
abbrev StorageHasherV10 : Type := Flags StorageHasherV10.Flag

namespace StorageHasherV10

instance : Inhabited StorageHasherV10 := ⟨blank fun _ => ()⟩

/-- `StorageHasherV10.Encode`. -/
def encode : StorageHasherV10 → Written :=
  encodeFlags
    [(.isBlake2_128, 0), (.isBlake2_256, 1), (.isBlake2_128Concat, 2), (.isTwox128, 3),
      (.isTwox256, 4), (.isTwox64Concat, 5), (.isIdentity, 6)]
    (.error (.text ("expected storage hasher, but none was set: " ++
      "\x7bfalse false false false false false false\x7d")))

/-- `StorageHasherV10.Decode`. -/
def decode : Decoder StorageHasherV10 :=
  decodeFlags decodeU8
    [(0, .isBlake2_128), (1, .isBlake2_256), (2, .isBlake2_128Concat), (3, .isTwox128),
      (4, .isTwox256), (5, .isTwox64Concat), (6, .isIdentity)]
    fun tag => fail (.text ("received unexpected storage hasher type " ++ toString tag.toNat))

theorem restores {hasher : StorageHasherV10} (one : OneFlag hasher) :
    Restores hasher.encode decode hasher := by
  refine restores_flags (fun flag => ?_) reads_decodeU8 one
  cases flag <;> exact ⟨_, rfl, rfl⟩

end StorageHasherV10

/-! ## Kinds of map -/

section Maps

variable {η κ : Type} (allowed : Nat → Prop)

/-- A map with one key, over the type of its hasher. -/
structure MapType (η : Type) where
  hasher : η
  key : Text
  value : Text
  linked : Bool
  deriving Inhabited

/-- `MapTypeV4`. -/
abbrev MapTypeV4 : Type := MapType StorageHasher

/-- `MapTypeV10`. -/
abbrev MapTypeV10 : Type := MapType StorageHasherV10

namespace MapType

def encode (encodeHasher : η → Written) (map : MapType η) : Written :=
  encodeStruct [encodeHasher map.hasher, encodeText map.key, encodeText map.value, encodeBool map.linked]

def decode (decodeHasher : Decoder η) : Decoder (MapType η) := do
  let hasher ← decodeField decodeHasher
  let key ← decodeField decodeText
  let value ← decodeField decodeText
  let linked ← decodeField decodeBool
  pure ⟨hasher, key, value, linked⟩

structure WellFormed (good : η → Prop) (map : MapType η) : Prop where
  hasher : good map.hasher
  key : allowed map.key.length
  value : allowed map.value.length

end MapType

/-- A map with two keys, over the types of their hashers. -/
structure DoubleMapType (η κ : Type) where
  hasher : η
  key1 : Text
  key2 : Text
  value : Text
  key2Hasher : κ
  deriving Inhabited

/-- `DoubleMapTypeV4`, where the second hasher is a text. -/
abbrev DoubleMapTypeV4 : Type := DoubleMapType StorageHasher Text

/-- `DoubleMapTypeV5`. -/
abbrev DoubleMapTypeV5 : Type := DoubleMapType StorageHasher StorageHasher

/-- `DoubleMapTypeV10`. -/
abbrev DoubleMapTypeV10 : Type := DoubleMapType StorageHasherV10 StorageHasherV10

namespace DoubleMapType

def encode (encodeHasher : η → Written) (encodeKey2Hasher : κ → Written) (map : DoubleMapType η κ) :
    Written :=
  encodeStruct [encodeHasher map.hasher, encodeText map.key1, encodeText map.key2, encodeText map.value,
    encodeKey2Hasher map.key2Hasher]

def decode (decodeHasher : Decoder η) (decodeKey2Hasher : Decoder κ) :
    Decoder (DoubleMapType η κ) := do
  let hasher ← decodeField decodeHasher
  let key1 ← decodeField decodeText
  let key2 ← decodeField decodeText
  let value ← decodeField decodeText
  let key2Hasher ← decodeField decodeKey2Hasher
  pure ⟨hasher, key1, key2, value, key2Hasher⟩

structure WellFormed (good : η → Prop) (good' : κ → Prop) (map : DoubleMapType η κ) : Prop where
  hasher : good map.hasher
  key1 : allowed map.key1.length
  key2 : allowed map.key2.length
  value : allowed map.value.length
  key2Hasher : good' map.key2Hasher

end DoubleMapType

/-- `NMapTypeV13`. -/
structure NMapTypeV13 where
  keys : List Text
  hashers : List StorageHasherV10
  value : Text
  deriving Inhabited

namespace NMapTypeV13

def encode (map : NMapTypeV13) : Written :=
  encodeStruct [encodeSlice encodeText map.keys, encodeSlice StorageHasherV10.encode map.hashers,
    encodeText map.value]

def decode : Decoder NMapTypeV13 := do
  let keys ← decodeField (decodeList decodeText)
  let hashers ← decodeField (decodeList StorageHasherV10.decode)
  let value ← decodeField decodeText
  pure ⟨keys, hashers, value⟩

structure WellFormed (map : NMapTypeV13) : Prop where
  keys : TextsFit allowed map.keys
  hashers : AllFit allowed OneFlag map.hashers
  value : allowed map.value.length

end NMapTypeV13

end Maps

section Restored

variable {η κ : Type} {allowed : Nat → Prop} (short : ∀ length, allowed length → length ≤ maxUint32)

include short

theorem MapType.restores {encodeHasher : η → Written} {decodeHasher : Decoder η} {good : η → Prop}
    (hashers : ∀ hasher, good hasher → Restores (encodeHasher hasher) decodeHasher hasher)
    {map : MapType η} (well : map.WellFormed allowed good) :
    Restores (map.encode encodeHasher) (decode decodeHasher) map := by
  refine restores_field (hashers _ well.hasher) ?_
  refine restores_field (restores_text (short _ well.key)) ?_
  refine restores_field (restores_text (short _ well.value)) ?_
  exact restores_field (restores_bool map.linked) (restores_struct_nil map)

theorem DoubleMapType.restores {encodeHasher : η → Written} {decodeHasher : Decoder η} {good : η → Prop}
    {encodeKey2Hasher : κ → Written} {decodeKey2Hasher : Decoder κ} {good' : κ → Prop}
    (hashers : ∀ hasher, good hasher → Restores (encodeHasher hasher) decodeHasher hasher)
    (hashers' : ∀ hasher, good' hasher → Restores (encodeKey2Hasher hasher) decodeKey2Hasher hasher)
    {map : DoubleMapType η κ} (well : map.WellFormed allowed good good') :
    Restores (map.encode encodeHasher encodeKey2Hasher) (decode decodeHasher decodeKey2Hasher) map := by
  refine restores_field (hashers _ well.hasher) ?_
  refine restores_field (restores_text (short _ well.key1)) ?_
  refine restores_field (restores_text (short _ well.key2)) ?_
  refine restores_field (restores_text (short _ well.value)) ?_
  exact restores_field (hashers' _ well.key2Hasher) (restores_struct_nil map)

theorem NMapTypeV13.restores {map : NMapTypeV13} (well : map.WellFormed allowed) :
    Restores map.encode decode map := by
  refine restores_field (well.keys.restores short) ?_
  refine restores_field (well.hashers.restores short fun hasher => StorageHasherV10.restores) ?_
  exact restores_field (restores_text (short _ well.value)) (restores_struct_nil map)

end Restored

end SubstrateClient.MetadataFormat
