import SubstrateClient.Registry.Value
import SubstrateClient.TaggedUnion
import SubstrateClient.Types.ZeroValues

/-!
# Locations

Networks, bodies and junctions, and the locations that are made of them.  A tag that stands for nothing
leaves the zero value, and a value without a flag is written as nothing.
-/

namespace SubstrateClient.Xcm

open ByteParser Scale SubstrateClient.Types TaggedUnion

/-- The lengths that a list may have. -/
def Short (length : Nat) : Prop := length < 2 ^ 32

theorem Short.le_maxUint32 {length : Nat} (short : Short length) : length ≤ maxUint32 :=
  Nat.le_sub_one_of_lt short

theorem Short.restores_bytes {bytes : List UInt8} (short : Short bytes.length) :
    Restores (encodeBytes bytes) (decodeBytes []) bytes :=
  Types.restores_bytes short.le_maxUint32

/-- `U128`, with nil for its zero value. -/
def U128 : Type := Option Int

namespace U128

instance : Inhabited U128 := ⟨none⟩

/-- `U128.Encode`. -/
def encode (value : U128) : Written := Registry.BigKind.u128.encode (Option.getD value 0)

/-- `U128.Decode`. -/
def decode : Decoder U128 := do
  let number ← Registry.BigKind.u128.decode
  pure (some number : Option Int)

/-- The method is the one of the fixed-width integers. -/
theorem encode_eq (value : U128) : value.encode = Types.U128.encode value :=
  (Registry.BigKind.u128.encode_eq_bigInt (Option.getD value 0)).trans rfl

/-- The method is the one of the fixed-width integers. -/
theorem decode_eq : decode = Types.U128.decode := by
  have same := Registry.BigKind.u128.decode_eq_bigInt
  rw [map_eq_pure_bind] at same
  exact same

/-- A number of 128 bits. -/
def InRange (value : U128) : Prop :=
  ∃ number : Nat, value = (some (number : Int) : Option Int) ∧ number < 2 ^ 128

theorem restores {value : U128} (in_range : value.InRange) : Restores value.encode decode value := by
  obtain ⟨number, rfl, number_lt⟩ := in_range
  have fits : number < 256 ^ 16 := number_lt.trans_eq (by norm_num)
  refine ⟨LittleEndian.ofNat 16 number, Registry.BigKind.u128.encode_ofBits fits, ?_⟩
  have width : (LittleEndian.ofNat 16 number).length = 16 := LittleEndian.length_ofNat 16 number
  have reads := reads_read (List.ne_nil_of_length_pos (by omega : 0 < (LittleEndian.ofNat 16 number).length))
  rw [width] at reads
  have restored := reads.bind_pure fun bytes => (some ((LittleEndian.toNat bytes : Nat) : Int) : U128)
  rw [LittleEndian.toNat_ofNat fits] at restored
  exact restored

end U128

/-! ## Unions -/

section Unions

variable {ν : Type} {Payload : ν → Type}

/-- The `switch` of the `Encode` methods. -/
def encodeUnion (cases : List (ν × UInt8))
    (encodePayload : (variant : ν) → Payload variant → Written) : TaggedUnion ν Payload → Written :=
  TaggedUnion.encode cases encodePayload (.ok [])

variable [DecidableEq ν]

/-- The `switch` of the `Decode` methods. -/
def decodeUnion (zero : (variant : ν) → Payload variant) (cases : List (UInt8 × ν))
    (decodePayload : (variant : ν) → Decoder (Payload variant)) : Decoder (TaggedUnion ν Payload) :=
  TaggedUnion.decode zero readOneByte cases decodePayload fun _ => pure (blank zero)

theorem restores_union {zero : (variant : ν) → Payload variant} {written : List (ν × UInt8)}
    {read : List (UInt8 × ν)} {encodePayload : (variant : ν) → Payload variant → Written}
    {decodePayload : (variant : ν) → Decoder (Payload variant)}
    {good : (variant : ν) → Payload variant → Prop} {union : TaggedUnion ν Payload}
    (agree : Agree written read)
    (payloads : ∀ variant payload, good variant payload →
      Restores (encodePayload variant payload) (decodePayload variant) payload)
    (well : union.WellFormed zero good) :
    Restores (encodeUnion written encodePayload union) (decodeUnion zero read decodePayload) union :=
  TaggedUnion.restores agree reads_readOneByte payloads well

end Unions

/-- A variant without a payload. -/
theorem restores_unit (payload : Unit) : Restores (.ok [] : Written) (pure ()) payload :=
  ⟨[], rfl, reads_pure ()⟩

/-! ## Networks -/

/-- The flags of `NetworkID`. -/
inductive NetworkID.Flag where
  | isAny | isNamed | isPolkadot | isKusama
  deriving DecidableEq

/-- The payloads of `NetworkID`. -/
def NetworkID.Payload : NetworkID.Flag → Type
  | .isNamed => List UInt8
  | _ => Unit

/-- `NetworkID`. -/
abbrev NetworkID : Type := TaggedUnion NetworkID.Flag NetworkID.Payload

namespace NetworkID

/-- The payloads of the zero value. -/
def zero : (flag : Flag) → Payload flag
  | .isNamed => ([] : List UInt8)
  | .isAny | .isPolkadot | .isKusama => ()

instance : Inhabited NetworkID := ⟨blank zero⟩

def encodePayload : (flag : Flag) → Payload flag → Written
  | .isNamed, network => encodeBytes network
  | .isAny, _ | .isPolkadot, _ | .isKusama, _ => .ok []

def decodePayload : (flag : Flag) → Decoder (Payload flag)
  | .isNamed => decodeBytes []
  | .isAny | .isPolkadot | .isKusama => pure ()

/-- `NetworkID.Encode`. -/
def encode : NetworkID → Written :=
  encodeUnion [(.isAny, 0), (.isNamed, 1), (.isPolkadot, 2), (.isKusama, 3)] encodePayload

/-- `NetworkID.Decode`. -/
def decode : Decoder NetworkID :=
  decodeUnion zero [(0, .isAny), (1, .isNamed), (2, .isPolkadot), (3, .isKusama)] decodePayload

def Good : (flag : Flag) → Payload flag → Prop
  | .isNamed, network => Short (List.length (α := UInt8) network)
  | .isAny, _ | .isPolkadot, _ | .isKusama, _ => True

theorem restores {network : NetworkID} (well : network.WellFormed zero Good) :
    Restores (encode network) decode network := by
  refine restores_union (fun flag => ?_) (fun flag payload good => ?_) well
  · cases flag <;> exact ⟨_, rfl, rfl⟩
  · cases flag with
    | isNamed => exact Short.restores_bytes good
    | isAny | isPolkadot | isKusama => exact restores_unit payload

end NetworkID

/-! ## Bodies -/

/-- The flags of `BodyID`. -/
inductive BodyID.Flag where
  | isUnit | isNamed | isIndex | isExecutive | isTechnical | isLegislative | isJudicial
  deriving DecidableEq

/-- The payloads of `BodyID`. -/
def BodyID.Payload : BodyID.Flag → Type
  | .isNamed => List UInt8
  | .isIndex => UInt32
  | _ => Unit

/-- `BodyID`. -/
abbrev BodyID : Type := TaggedUnion BodyID.Flag BodyID.Payload

namespace BodyID

/-- The payloads of the zero value. -/
def zero : (flag : Flag) → Payload flag
  | .isNamed => ([] : List UInt8)
  | .isIndex => (0 : UInt32)
  | .isUnit | .isExecutive | .isTechnical | .isLegislative | .isJudicial => ()

instance : Inhabited BodyID := ⟨blank zero⟩

def encodePayload : (flag : Flag) → Payload flag → Written
  | .isNamed, body => encodeBytes body
  | .isIndex, index => encodeU32 index
  | .isUnit, _ | .isExecutive, _ | .isTechnical, _ | .isLegislative, _ | .isJudicial, _ => .ok []

def decodePayload : (flag : Flag) → Decoder (Payload flag)
  | .isNamed => decodeBytes []
  | .isIndex => decodeU32 0
  | .isUnit | .isExecutive | .isTechnical | .isLegislative | .isJudicial => pure ()

/-- `BodyID.Encode`. -/
def encode : BodyID → Written :=
  encodeUnion
    [(.isUnit, 0), (.isNamed, 1), (.isIndex, 2), (.isExecutive, 3), (.isTechnical, 4),
      (.isLegislative, 5), (.isJudicial, 6)]
    encodePayload

/-- `BodyID.Decode`. -/
def decode : Decoder BodyID :=
  decodeUnion zero
    [(0, .isUnit), (1, .isNamed), (2, .isIndex), (3, .isExecutive), (4, .isTechnical),
      (5, .isLegislative), (6, .isJudicial)]
    decodePayload

def Good : (flag : Flag) → Payload flag → Prop
  | .isNamed, body => Short (List.length (α := UInt8) body)
  | .isIndex, _ | .isUnit, _ | .isExecutive, _ | .isTechnical, _ | .isLegislative, _
  | .isJudicial, _ => True

theorem restores {body : BodyID} (well : body.WellFormed zero Good) :
    Restores (encode body) decode body := by
  refine restores_union (fun flag => ?_) (fun flag payload good => ?_) well
  · cases flag <;> exact ⟨_, rfl, rfl⟩
  · cases flag with
    | isNamed => exact Short.restores_bytes good
    | isIndex => exact restores_u32 payload
    | isUnit | isExecutive | isTechnical | isLegislative | isJudicial => exact restores_unit payload

end BodyID

/-- The flags of `BodyPart`. -/
inductive BodyPart.Flag where
  | isVoice | isMembers | isFraction | isAtLeastProportion | isMoreThanProportion
  deriving DecidableEq

/-- The payloads of `BodyPart`: a count, or a numerator and a denominator. -/
def BodyPart.Payload : BodyPart.Flag → Type
  | .isVoice => Unit
  | .isMembers => UInt32
  | .isFraction | .isAtLeastProportion | .isMoreThanProportion => UInt32 × UInt32

/-- `BodyPart`. -/
abbrev BodyPart : Type := TaggedUnion BodyPart.Flag BodyPart.Payload

namespace BodyPart

/-- The payloads of the zero value. -/
def zero : (flag : Flag) → Payload flag
  | .isVoice => ()
  | .isMembers => (0 : UInt32)
  | .isFraction | .isAtLeastProportion | .isMoreThanProportion => ((0 : UInt32), (0 : UInt32))

instance : Inhabited BodyPart := ⟨blank zero⟩

/-- A numerator and a denominator. -/
def encodeRatio (ratio : UInt32 × UInt32) : Written := writeAll [encodeU32 ratio.1, encodeU32 ratio.2]

def decodeRatio : Decoder (UInt32 × UInt32) := do
  let nom ← decodeU32 0
  let denom ← decodeU32 0
  pure (nom, denom)

def encodePayload : (flag : Flag) → Payload flag → Written
  | .isVoice, _ => .ok []
  | .isMembers, count => encodeU32 count
  | .isFraction, ratio | .isAtLeastProportion, ratio | .isMoreThanProportion, ratio => encodeRatio ratio

def decodePayload : (flag : Flag) → Decoder (Payload flag)
  | .isVoice => pure ()
  | .isMembers => decodeU32 0
  | .isFraction | .isAtLeastProportion | .isMoreThanProportion => decodeRatio

/-- `BodyPart.Encode`. -/
def encode : BodyPart → Written :=
  encodeUnion
    [(.isVoice, 0), (.isMembers, 1), (.isFraction, 2), (.isAtLeastProportion, 3),
      (.isMoreThanProportion, 4)]
    encodePayload

/-- `BodyPart.Decode`. -/
def decode : Decoder BodyPart :=
  decodeUnion zero
    [(0, .isVoice), (1, .isMembers), (2, .isFraction), (3, .isAtLeastProportion),
      (4, .isMoreThanProportion)]
    decodePayload

/-- Nothing is asked of the numbers. -/
def Good (flag : Flag) (_ : Payload flag) : Prop := True

theorem restores {part : BodyPart} (well : part.WellFormed zero Good) :
    Restores (encode part) decode part := by
  refine restores_union (fun flag => ?_) (fun flag payload _ => ?_) well
  · cases flag <;> exact ⟨_, rfl, rfl⟩
  · cases flag with
    | isVoice => exact restores_unit payload
    | isMembers => exact restores_u32 payload
    | isFraction | isAtLeastProportion | isMoreThanProportion =>
        exact (restores_u32 payload.1).pair (restores_u32 payload.2)

end BodyPart

/-! ## Junctions -/

/-- The input that is still unread when `NetworkID.Decode` fails.  Only the name of a network can fail after
the tag, at its length or at one of its bytes. -/
def NetworkID.unread : List UInt8 → List UInt8
  | [] => []
  | _ :: input =>
      match decodeUintCompact input with
      | .ok (codedLen, rest) => if maxUint32 < codedLen % 2 ^ 64 then rest else []
      | _ => input

/-- The cases of `JunctionV1.Decode` with a network: if the network cannot be decoded, the method returns
without an error.  The network was decoded into a holder, so the field keeps its zero value. -/
def decodeWithNetwork {α : Type} [Inhabited α] (decodeLater : Decoder α) : Decoder (NetworkID × α) :=
  fun input =>
    match NetworkID.decode input with
    | .ok (network, rest) => (decodeLater >>= fun later => pure (network, later)) rest
    | .error _ => .ok ((blank NetworkID.zero, default), NetworkID.unread input)
    | .panic => .panic
    | .outOfFuel => .outOfFuel

theorem restores_withNetwork {α : Type} [Inhabited α] {network : NetworkID} {later : α}
    {writer : Written} {decodeLater : Decoder α} (well : network.WellFormed NetworkID.zero NetworkID.Good)
    (restored : Restores writer decodeLater later) :
    Restores (writeAll [NetworkID.encode network, writer]) (decodeWithNetwork decodeLater)
      (network, later) := by
  obtain ⟨bytes, written, reads⟩ := (NetworkID.restores well).pair restored
  refine ⟨bytes, written, fun rest => ?_⟩
  have whole := reads rest
  rw [bind_apply] at whole
  unfold decodeWithNetwork
  cases decoded : NetworkID.decode (bytes ++ rest) with
  | ok result =>
      rw [decoded] at whole
      exact whole
  | error _ | panic | outOfFuel =>
      rw [decoded] at whole
      cases whole

/-- The flags of `JunctionV1`. -/
inductive JunctionV1.Flag where
  | isParachain | isAccountID32 | isAccountIndex64 | isAccountKey20 | isPalletInstance | isGeneralIndex
  | isGeneralKey | isOnlyChild | isPlurality
  deriving DecidableEq

/-- The payloads of `JunctionV1`. -/
def JunctionV1.Payload : JunctionV1.Flag → Type
  | .isParachain => UCompact
  | .isAccountID32 => NetworkID × List UInt8
  | .isAccountIndex64 => NetworkID × UInt64
  | .isAccountKey20 => NetworkID × List UInt8
  | .isPalletInstance => UInt8
  | .isGeneralIndex => U128
  | .isGeneralKey => List UInt8
  | .isOnlyChild => Unit
  | .isPlurality => BodyID × BodyPart

/-- `JunctionV1`. -/
abbrev JunctionV1 : Type := TaggedUnion JunctionV1.Flag JunctionV1.Payload

namespace JunctionV1

/-- The payloads of the zero value. -/
def zero : (flag : Flag) → Payload flag
  | .isParachain => (default : UCompact)
  | .isAccountID32 => ((default : NetworkID), ([] : List UInt8))
  | .isAccountIndex64 => ((default : NetworkID), (0 : UInt64))
  | .isAccountKey20 => ((default : NetworkID), ([] : List UInt8))
  | .isPalletInstance => (0 : UInt8)
  | .isGeneralIndex => (default : U128)
  | .isGeneralKey => ([] : List UInt8)
  | .isOnlyChild => ()
  | .isPlurality => ((default : BodyID), (default : BodyPart))

instance : Inhabited JunctionV1 := ⟨blank zero⟩

def encodePayload : (flag : Flag) → Payload flag → Written
  | .isParachain, parachainID => UCompact.encode parachainID
  | .isAccountID32, (networkID, accountID) => writeAll [networkID.encode, encodeBytes accountID]
  | .isAccountIndex64, (networkID, accountIndex) => writeAll [networkID.encode, encodeU64 accountIndex]
  | .isAccountKey20, (networkID, accountKey) => writeAll [networkID.encode, encodeBytes accountKey]
  | .isPalletInstance, palletIndex => encodeU8 palletIndex
  | .isGeneralIndex, generalIndex => U128.encode generalIndex
  | .isGeneralKey, generalKey => encodeBytes generalKey
  | .isOnlyChild, _ => .ok []
  | .isPlurality, (bodyID, bodyPart) => writeAll [bodyID.encode, bodyPart.encode]

def decodePayload : (flag : Flag) → Decoder (Payload flag)
  | .isParachain => UCompact.decode
  | .isAccountID32 => decodeWithNetwork (decodeBytes [])
  | .isAccountIndex64 => decodeWithNetwork decodeU64
  | .isAccountKey20 => decodeWithNetwork (decodeBytes [])
  | .isPalletInstance => decodeU8
  | .isGeneralIndex => U128.decode
  | .isGeneralKey => decodeBytes []
  | .isOnlyChild => pure ()
  | .isPlurality => do
      let bodyID ← BodyID.decode
      let bodyPart ← BodyPart.decode
      pure (bodyID, bodyPart)

/-- `JunctionV1.Encode`. -/
def encode : JunctionV1 → Written :=
  encodeUnion
    [(.isParachain, 0), (.isAccountID32, 1), (.isAccountIndex64, 2), (.isAccountKey20, 3),
      (.isPalletInstance, 4), (.isGeneralIndex, 5), (.isGeneralKey, 6), (.isOnlyChild, 7),
      (.isPlurality, 8)]
    encodePayload

/-- `JunctionV1.Decode`. -/
def decode : Decoder JunctionV1 :=
  decodeUnion zero
    [(0, .isParachain), (1, .isAccountID32), (2, .isAccountIndex64), (3, .isAccountKey20),
      (4, .isPalletInstance), (5, .isGeneralIndex), (6, .isGeneralKey), (7, .isOnlyChild),
      (8, .isPlurality)]
    decodePayload

def Good : (flag : Flag) → Payload flag → Prop
  | .isParachain, parachainID => UCompact.InRange parachainID
  | .isAccountID32, (networkID, accountID) =>
      networkID.WellFormed NetworkID.zero NetworkID.Good ∧ Short accountID.length
  | .isAccountIndex64, (networkID, _) => networkID.WellFormed NetworkID.zero NetworkID.Good
  | .isAccountKey20, (networkID, accountKey) =>
      networkID.WellFormed NetworkID.zero NetworkID.Good ∧ Short accountKey.length
  | .isGeneralIndex, generalIndex => U128.InRange generalIndex
  | .isGeneralKey, generalKey => Short (List.length (α := UInt8) generalKey)
  | .isPlurality, (bodyID, bodyPart) =>
      bodyID.WellFormed BodyID.zero BodyID.Good ∧ bodyPart.WellFormed BodyPart.zero BodyPart.Good
  | .isPalletInstance, _ | .isOnlyChild, _ => True

theorem restores {junction : JunctionV1} (well : junction.WellFormed zero Good) :
    Restores (encode junction) decode junction := by
  refine restores_union (fun flag => ?_) (fun flag payload good => ?_) well
  · cases flag <;> exact ⟨_, rfl, rfl⟩
  · cases flag with
    | isParachain => exact restores_uCompact good
    | isAccountID32 | isAccountKey20 =>
        exact restores_withNetwork good.1 (Short.restores_bytes good.2)
    | isAccountIndex64 => exact restores_withNetwork good (restores_u64 payload.2)
    | isPalletInstance => exact restores_u8 payload
    | isGeneralIndex => exact U128.restores good
    | isGeneralKey => exact Short.restores_bytes good
    | isOnlyChild => exact restores_unit payload
    | isPlurality => exact (BodyID.restores good.1).pair (BodyPart.restores good.2)

end JunctionV1

/-- The flags of `JunctionsV1`. -/
inductive JunctionsV1.Flag where
  | isHere | isX1 | isX2 | isX3 | isX4 | isX5 | isX6 | isX7 | isX8
  deriving DecidableEq

/-- The payloads of `JunctionsV1`: arrays, except for a single junction. -/
def JunctionsV1.Payload : JunctionsV1.Flag → Type
  | .isHere => Unit
  | .isX1 => JunctionV1
  | .isX2 => List.Vector JunctionV1 2
  | .isX3 => List.Vector JunctionV1 3
  | .isX4 => List.Vector JunctionV1 4
  | .isX5 => List.Vector JunctionV1 5
  | .isX6 => List.Vector JunctionV1 6
  | .isX7 => List.Vector JunctionV1 7
  | .isX8 => List.Vector JunctionV1 8

/-- `JunctionsV1`. -/
abbrev JunctionsV1 : Type := TaggedUnion JunctionsV1.Flag JunctionsV1.Payload

namespace JunctionsV1

/-- The payloads of the zero value. -/
def zero : (flag : Flag) → Payload flag
  | .isHere => ()
  | .isX1 => (default : JunctionV1)
  | .isX2 | .isX3 | .isX4 | .isX5 | .isX6 | .isX7 | .isX8 => List.Vector.replicate _ (default : JunctionV1)

instance : Inhabited JunctionsV1 := ⟨blank zero⟩

def encodePayload : (flag : Flag) → Payload flag → Written
  | .isHere, _ => .ok []
  | .isX1, junction => JunctionV1.encode junction
  | .isX2, junctions | .isX3, junctions | .isX4, junctions | .isX5, junctions | .isX6, junctions
  | .isX7, junctions | .isX8, junctions => encodeVector JunctionV1.encode junctions

def decodePayload : (flag : Flag) → Decoder (Payload flag)
  | .isHere => pure ()
  | .isX1 => JunctionV1.decode
  | .isX2 | .isX3 | .isX4 | .isX5 | .isX6 | .isX7 | .isX8 => decodeVector JunctionV1.decode

/-- `JunctionsV1.Encode`. -/
def encode : JunctionsV1 → Written :=
  encodeUnion
    [(.isHere, 0), (.isX1, 1), (.isX2, 2), (.isX3, 3), (.isX4, 4), (.isX5, 5), (.isX6, 6), (.isX7, 7),
      (.isX8, 8)]
    encodePayload

/-- `JunctionsV1.Decode`. -/
def decode : Decoder JunctionsV1 :=
  decodeUnion zero
    [(0, .isHere), (1, .isX1), (2, .isX2), (3, .isX3), (4, .isX4), (5, .isX5), (6, .isX6), (7, .isX7),
      (8, .isX8)]
    decodePayload

/-- All junctions are well-formed. -/
def AllWellFormed {count : Nat} (junctions : List.Vector JunctionV1 count) : Prop :=
  ∀ junction ∈ junctions.toList, junction.WellFormed JunctionV1.zero JunctionV1.Good

def Good : (flag : Flag) → Payload flag → Prop
  | .isHere, _ => True
  | .isX1, junction => TaggedUnion.WellFormed JunctionV1.zero JunctionV1.Good junction
  | .isX2, junctions | .isX3, junctions | .isX4, junctions | .isX5, junctions | .isX6, junctions
  | .isX7, junctions | .isX8, junctions => AllWellFormed junctions

theorem restores {junctions : JunctionsV1} (well : junctions.WellFormed zero Good) :
    Restores (encode junctions) decode junctions := by
  refine restores_union (fun flag => ?_) (fun flag payload good => ?_) well
  · cases flag <;> exact ⟨_, rfl, rfl⟩
  · cases flag with
    | isHere => exact restores_unit payload
    | isX1 => exact JunctionV1.restores good
    | isX2 | isX3 | isX4 | isX5 | isX6 | isX7 | isX8 =>
        exact restores_vector fun junction member => JunctionV1.restores (good junction member)

end JunctionsV1

/-! ## Locations -/

/-- `MultiLocationV1`. -/
structure MultiLocationV1 where
  parents : UInt8
  interior : JunctionsV1
  deriving Inhabited

namespace MultiLocationV1

/-- `MultiLocationV1.Encode`, which a pointer has. -/
def encode (location : MultiLocationV1) : Written :=
  writeAll [encodeU8 location.parents, location.interior.encode]

/-- `Encode` of a value, which has no method: field by field. -/
def encodeValue (location : MultiLocationV1) : Written :=
  encodeStruct [encodeU8 location.parents, location.interior.encode]

/-- `MultiLocationV1.Decode`. -/
def decode : Decoder MultiLocationV1 := do
  let parents ← decodeU8
  let interior ← JunctionsV1.decode
  pure ⟨parents, interior⟩

def WellFormed (location : MultiLocationV1) : Prop :=
  location.interior.WellFormed JunctionsV1.zero JunctionsV1.Good

theorem restores {location : MultiLocationV1} (well : location.WellFormed) :
    Restores location.encode decode location := by
  refine (restores_u8 location.parents).cons ?_
  exact (JunctionsV1.restores well).cons (restores_nil location)

/-- The errors of a value are reported as those of its fields, but there are none. -/
theorem restores_value {location : MultiLocationV1} (well : location.WellFormed) :
    Restores location.encodeValue decode location := by
  refine (restores_u8 location.parents).mapErrorLeft.cons ?_
  exact (JunctionsV1.restores well).mapErrorLeft.cons (restores_nil location)

end MultiLocationV1

end SubstrateClient.Xcm
