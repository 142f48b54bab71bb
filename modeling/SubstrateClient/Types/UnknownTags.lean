import SubstrateClient.Discriminants
import SubstrateClient.Scale.Truncation
import SubstrateClient.Types.EventRecord
import SubstrateClient.Types.ZeroValues

/-!
# Discriminants of the enum-like types

Six types of extrinsic, event and header streams start with a byte that selects a variant.  Their
`Decode` methods have no default branch.
-/

namespace SubstrateClient.Types

open ByteParser Scale TaggedUnion

/-! ## `DispatchError` -/

/-- `types.ModuleError`. -/
structure ModuleError where
  index : UInt8
  error : List.Vector UInt8 4

namespace ModuleError

/-- `ModuleError.Encode`. -/
def encode (error : ModuleError) : Written := writeAll [encodeU8 error.index, encodeArray error.error]

/-- `ModuleError.Decode`. -/
def decode : Decoder ModuleError := do
  let index ← decodeU8
  let error ← decodeArray (zeroBytes 4)
  pure ⟨index, error⟩

end ModuleError

/-- The `switch` of an enumeration without payloads: no flag is written as nothing. -/
def encodeEnum {ν : Type} (cases : List (ν × UInt8)) : Flags ν → Written :=
  encodeFlags cases (.ok [])

/-- The `switch` of an enumeration without payloads: an unknown byte sets no flag. -/
def decodeEnum {ν : Type} [DecidableEq ν] (cases : List (UInt8 × ν)) : Decoder (Flags ν) :=
  decodeFlags readOneByte cases fun _ => pure (blank fun _ => ())

/-- The flags of `TokenError`. -/
inductive TokenError.Flag where
  | isNoFunds | isWouldDie | isBelowMinimum | isCannotCreate | isUnknownAsset | isFrozen | isUnsupported
  deriving DecidableEq

namespace TokenError

/-- `TokenError.Encode`. -/
def encode : Flags Flag → Written :=
  encodeEnum [(.isNoFunds, 0), (.isWouldDie, 1), (.isBelowMinimum, 2), (.isCannotCreate, 3),
    (.isUnknownAsset, 4), (.isFrozen, 5), (.isUnsupported, 6)]

/-- `TokenError.Decode`. -/
def decode : Decoder (Flags Flag) :=
  decodeEnum [(0, .isNoFunds), (1, .isWouldDie), (2, .isBelowMinimum), (3, .isCannotCreate),
    (4, .isUnknownAsset), (5, .isFrozen), (6, .isUnsupported)]

end TokenError

/-- The flags of `ArithmeticError`. -/
inductive ArithmeticError.Flag where
  | isUnderflow | isOverflow | isDivisionByZero
  deriving DecidableEq

namespace ArithmeticError

/-- `ArithmeticError.Encode`. -/
def encode : Flags Flag → Written :=
  encodeEnum [(.isUnderflow, 0), (.isOverflow, 1), (.isDivisionByZero, 2)]

/-- `ArithmeticError.Decode`. -/
def decode : Decoder (Flags Flag) :=
  decodeEnum [(0, .isUnderflow), (1, .isOverflow), (2, .isDivisionByZero)]

end ArithmeticError

/-- The flags of `TransactionalError`. -/
inductive TransactionalError.Flag where
  | isLimitReached | isNoLayer
  deriving DecidableEq

namespace TransactionalError

/-- `TransactionalError.Encode`. -/
def encode : Flags Flag → Written := encodeEnum [(.isLimitReached, 0), (.isNoLayer, 1)]

/-- `TransactionalError.Decode`. -/
def decode : Decoder (Flags Flag) := decodeEnum [(0, .isLimitReached), (1, .isNoLayer)]

end TransactionalError

/-- The flags of `DispatchError`. -/
inductive DispatchError.Flag where
  | isOther | isCannotLookup | isBadOrigin | isModule | isConsumerRemaining | isNoProviders
  | isTooManyConsumers | isToken | isArithmetic | isTransactional
  deriving DecidableEq

/-- The payloads of `DispatchError`. -/
def DispatchError.Payload : DispatchError.Flag → Type
  | .isModule => ModuleError
  | .isToken => Flags TokenError.Flag
  | .isArithmetic => Flags ArithmeticError.Flag
  | .isTransactional => Flags TransactionalError.Flag
  | _ => Unit

/-- `types.DispatchError`. -/
abbrev DispatchError : Type := TaggedUnion DispatchError.Flag DispatchError.Payload

namespace DispatchError

/-- The flags in the order of the fields. -/
def allFlags : List Flag :=
  [.isOther, .isCannotLookup, .isBadOrigin, .isModule, .isConsumerRemaining, .isNoProviders,
    .isTooManyConsumers, .isToken, .isArithmetic, .isTransactional]

/-- The payloads of the zero value. -/
def zero : (flag : Flag) → Payload flag
  | .isModule => (⟨0, zeroBytes 4⟩ : ModuleError)
  | .isToken => (blank fun _ => () : Flags TokenError.Flag)
  | .isArithmetic => (blank fun _ => () : Flags ArithmeticError.Flag)
  | .isTransactional => (blank fun _ => () : Flags TransactionalError.Flag)
  | .isOther | .isCannotLookup | .isBadOrigin | .isConsumerRemaining | .isNoProviders
  | .isTooManyConsumers => ()

def encodePayload : (flag : Flag) → Payload flag → Written
  | .isModule, error => ModuleError.encode error
  | .isToken, error => TokenError.encode error
  | .isArithmetic, error => ArithmeticError.encode error
  | .isTransactional, error => TransactionalError.encode error
  | .isOther, _ | .isCannotLookup, _ | .isBadOrigin, _ | .isConsumerRemaining, _ | .isNoProviders, _
  | .isTooManyConsumers, _ => .ok []

def decodePayload : (flag : Flag) → Decoder (Payload flag)
  | .isModule => ModuleError.decode
  | .isToken => TokenError.decode
  | .isArithmetic => ArithmeticError.decode
  | .isTransactional => TransactionalError.decode
  | .isOther | .isCannotLookup | .isBadOrigin | .isConsumerRemaining | .isNoProviders
  | .isTooManyConsumers => pure ()

/-- The cases of `DispatchError.Encode`. -/
def written : List (Flag × UInt8) :=
  [(.isOther, 0), (.isCannotLookup, 1), (.isBadOrigin, 2), (.isModule, 3), (.isConsumerRemaining, 4),
    (.isNoProviders, 5), (.isTooManyConsumers, 6), (.isToken, 7), (.isArithmetic, 8),
    (.isTransactional, 9)]

/-- The cases of `DispatchError.Decode`. -/
def read : List (UInt8 × Flag) :=
  [(0, .isOther), (1, .isCannotLookup), (2, .isBadOrigin), (3, .isModule), (4, .isConsumerRemaining),
    (5, .isNoProviders), (6, .isTooManyConsumers), (7, .isToken), (8, .isArithmetic),
    (9, .isTransactional)]

/-- `DispatchError.Encode`. -/
def encode : DispatchError → Written := TaggedUnion.encode written encodePayload (.ok [])

/-- `DispatchError.Decode`. -/
def decode : Decoder DispatchError :=
  TaggedUnion.decode zero readOneByte read decodePayload fun _ => pure (blank zero)

end DispatchError

/-! ## `ExtrinsicStatus` -/

/-- The flags of `ExtrinsicStatus`. -/
inductive ExtrinsicStatus.Flag where
  | isFuture | isReady | isBroadcast | isInBlock | isRetracted | isFinalityTimeout | isFinalized
  | isUsurped | isDropped | isInvalid
  deriving DecidableEq

/-- The payloads of `ExtrinsicStatus`. -/
def ExtrinsicStatus.Payload : ExtrinsicStatus.Flag → Type
  | .isBroadcast => List Text
  | .isInBlock | .isRetracted | .isFinalityTimeout | .isFinalized | .isUsurped => Hash
  | _ => Unit

/-- `types.ExtrinsicStatus`. -/
abbrev ExtrinsicStatus : Type := TaggedUnion ExtrinsicStatus.Flag ExtrinsicStatus.Payload

namespace ExtrinsicStatus

/-- The flags in the order of the fields. -/
def allFlags : List Flag :=
  [.isFuture, .isReady, .isBroadcast, .isInBlock, .isRetracted, .isFinalityTimeout, .isFinalized,
    .isUsurped, .isDropped, .isInvalid]

/-- The payloads of the zero value. -/
def zero : (flag : Flag) → Payload flag
  | .isBroadcast => ([] : List Text)
  | .isInBlock | .isRetracted | .isFinalityTimeout | .isFinalized | .isUsurped => zeroBytes 32
  | .isFuture | .isReady | .isDropped | .isInvalid => ()

def encodePayload : (flag : Flag) → Payload flag → Written
  | .isBroadcast, peers => encodeSlice encodeText peers
  | .isInBlock, hash | .isRetracted, hash | .isFinalityTimeout, hash | .isFinalized, hash
  | .isUsurped, hash => encodeArray hash
  | .isFuture, _ | .isReady, _ | .isDropped, _ | .isInvalid, _ => .ok []

def decodePayload : (flag : Flag) → Decoder (Payload flag)
  | .isBroadcast => decodeList decodeText
  | .isInBlock | .isRetracted | .isFinalityTimeout | .isFinalized | .isUsurped =>
      decodeArray (zeroBytes 32)
  | .isFuture | .isReady | .isDropped | .isInvalid => pure ()

/-- The cases of `ExtrinsicStatus.Encode`. -/
def written : List (Flag × UInt8) :=
  [(.isFuture, 0), (.isReady, 1), (.isBroadcast, 2), (.isInBlock, 3), (.isRetracted, 4),
    (.isFinalityTimeout, 5), (.isFinalized, 6), (.isUsurped, 7), (.isDropped, 8), (.isInvalid, 9)]

/-- The cases of `ExtrinsicStatus.Decode`. -/
def read : List (UInt8 × Flag) :=
  [(0, .isFuture), (1, .isReady), (2, .isBroadcast), (3, .isInBlock), (4, .isRetracted),
    (5, .isFinalityTimeout), (6, .isFinalized), (7, .isUsurped), (8, .isDropped), (9, .isInvalid)]

/-- `ExtrinsicStatus.Encode`. -/
def encode : ExtrinsicStatus → Written := TaggedUnion.encode written encodePayload (.ok [])

/-- `ExtrinsicStatus.Decode`. -/
def decode : Decoder ExtrinsicStatus :=
  TaggedUnion.decode zero readOneByte read decodePayload fun _ => pure (blank zero)

end ExtrinsicStatus

/-! ## `DigestItem` -/

/-- `types.Seal`, `types.Consensus` and `types.PreRuntime`. -/
structure EngineMessage where
  consensusEngineID : UInt32
  bytes : List UInt8

namespace EngineMessage

/-- `Encode` of the struct, field by field. -/
def encode (message : EngineMessage) : Written :=
  encodeStruct [encodeU32 message.consensusEngineID, encodeBytes message.bytes]

/-- `Decode` of the struct, field by field. -/
def decode : Decoder EngineMessage := do
  let consensusEngineID ← decodeField (decodeU32 0)
  let bytes ← decodeField (decodeBytes [])
  pure ⟨consensusEngineID, bytes⟩

end EngineMessage

/-- `types.ChangesTrieSignal`. -/
structure ChangesTrieSignal where
  isNewConfiguration : Bool
  asNewConfiguration : List UInt8

namespace ChangesTrieSignal

/-- `ChangesTrieSignal.Encode`. -/
def encode (signal : ChangesTrieSignal) : Written :=
  if signal.isNewConfiguration then do
    let bytes ← encodeBytes signal.asNewConfiguration
    pure (0 :: bytes)
  else
    .error (.text "no such variant for ChangesTrieSignal")

/-- `ChangesTrieSignal.Decode`. -/
def decode : Decoder ChangesTrieSignal := do
  let tag ← readOneByte
  if tag = 0 then
    let bytes ← decodeBytes []
    pure ⟨true, bytes⟩
  else
    fail (.text "no such variant for ChangesTrieSignal")

end ChangesTrieSignal

/-- The flags of `DigestItem`. -/
inductive DigestItem.Flag where
  | isChangesTrieRoot | isPreRuntime | isConsensus | isSeal | isChangesTrieSignal | isOther
  deriving DecidableEq

/-- The payloads of `DigestItem`. -/
def DigestItem.Payload : DigestItem.Flag → Type
  | .isChangesTrieRoot => Hash
  | .isPreRuntime | .isConsensus | .isSeal => EngineMessage
  | .isChangesTrieSignal => ChangesTrieSignal
  | .isOther => List UInt8

/-- `types.DigestItem`. -/
abbrev DigestItem : Type := TaggedUnion DigestItem.Flag DigestItem.Payload

namespace DigestItem

/-- The flags in the order of the fields. -/
def allFlags : List Flag :=
  [.isChangesTrieRoot, .isPreRuntime, .isConsensus, .isSeal, .isChangesTrieSignal, .isOther]

/-- The payloads of the zero value. -/
def zero : (flag : Flag) → Payload flag
  | .isChangesTrieRoot => zeroBytes 32
  | .isPreRuntime | .isConsensus | .isSeal => (⟨0, []⟩ : EngineMessage)
  | .isChangesTrieSignal => (⟨false, []⟩ : ChangesTrieSignal)
  | .isOther => ([] : List UInt8)

def encodePayload : (flag : Flag) → Payload flag → Written
  | .isChangesTrieRoot, hash => encodeArray hash
  | .isPreRuntime, message | .isConsensus, message | .isSeal, message => EngineMessage.encode message
  | .isChangesTrieSignal, signal => ChangesTrieSignal.encode signal
  | .isOther, bytes => encodeBytes bytes

def decodePayload : (flag : Flag) → Decoder (Payload flag)
  | .isChangesTrieRoot => decodeArray (zeroBytes 32)
  | .isPreRuntime | .isConsensus | .isSeal => EngineMessage.decode
  | .isChangesTrieSignal => ChangesTrieSignal.decode
  | .isOther => decodeBytes []

/-- The cases of `DigestItem.Encode`. -/
def written : List (Flag × UInt8) :=
  [(.isOther, 0), (.isChangesTrieRoot, 2), (.isConsensus, 4), (.isSeal, 5), (.isPreRuntime, 6),
    (.isChangesTrieSignal, 7)]

/-- The cases of `DigestItem.Decode`. -/
def read : List (UInt8 × Flag) :=
  [(2, .isChangesTrieRoot), (6, .isPreRuntime), (4, .isConsensus), (5, .isSeal),
    (7, .isChangesTrieSignal), (0, .isOther)]

/-- `DigestItem.Encode`. -/
def encode : DigestItem → Written := TaggedUnion.encode written encodePayload (.ok [])

/-- `DigestItem.Decode`. -/
def decode : Decoder DigestItem :=
  TaggedUnion.decode zero readOneByte read decodePayload fun _ => pure (blank zero)

end DigestItem

/-! ## What is decoded is encoded again -/

section Slices

variable {α : Type} {grants : Nat → Bool} {zero : α} {decodeItem : α → Decoder α} {good : α → Prop}

theorem ensures_decodeItems (each : ∀ start, Ensures good (decodeItem start)) (target : GoSlice α)
    (codedLen : Nat) :
    Ensures (fun slice => slice.elems.length ≤ maxUint32 ∧ ∀ item ∈ slice.elems, good item)
      (decodeItems grants zero decodeItem target codedLen) := by
  unfold decodeItems
  split_ifs with protocol platform refused
  · exact ensures_fail _
  · exact ensures_fail _
  · exact ensures_abort
  · refine ((ensures_length_mapM _ _).and (ensures_mapM each _)).bind fun elems decoded => ?_
    refine ensures_pure ⟨?_, decoded.2⟩
    rw [decoded.1, length_resize]
    exact not_lt.mp protocol

/-- A decoded slice is short enough to be encoded, and its items come from the item decoder. -/
theorem ensures_decodeSlice (each : ∀ start, Ensures good (decodeItem start)) (target : GoSlice α) :
    Ensures (fun slice => slice.elems.length ≤ maxUint32 ∧ ∀ item ∈ slice.elems, good item)
      (decodeSlice grants zero decodeItem target) := by
  intro input slice rest run
  rw [decodeSlice] at run
  cases counted : decodeUintCompact input with
  | ok result =>
      rw [counted] at run
      exact ensures_decodeItems each target result.1 result.2 slice rest run
  | error | panic | outOfFuel =>
      rw [counted] at run
      cases run

end Slices

theorem ensures_length_bytes (target : List UInt8) :
    Ensures (fun bytes => bytes.length ≤ maxUint32) (decodeBytes target) := by
  have any : ∀ start : UInt8, Ensures (fun _ => True) ((GoType.num .u8 : GoType .none).decode start) :=
    fun _ _ _ _ _ => trivial
  exact (ensures_decodeSlice any _).bind fun slice short => ensures_pure short.1

theorem ensures_length_text : Ensures (fun text => text.length ≤ maxUint32) decodeText := by
  have any : ∀ start : UInt8, Ensures (fun _ => True) (decodeByte start) := fun _ _ _ _ _ => trivial
  exact (ensures_decodeSlice any _).bind fun slice short => ensures_pure short.1

theorem rewrites_bytes : Rewrites encodeBytes (decodeBytes []) := by
  intro input bytes rest run
  exact ⟨_, encodeBytes_eq (ensures_length_bytes [] input bytes rest run)⟩

theorem rewrites_array {count : Nat} (target : List.Vector UInt8 count) :
    Rewrites encodeArray (decodeArray target) :=
  rewrites_of_total (fun bytes => ⟨_, encodeArray_eq bytes⟩) _

theorem rewrites_texts : Rewrites (encodeSlice encodeText) (decodeList decodeText) := by
  intro input texts rest run
  have fits : Ensures (fun texts : List Text => texts.length ≤ maxUint32 ∧
      ∀ text ∈ texts, text.length ≤ maxUint32) (decodeList decodeText) :=
    (ensures_decodeSlice (fun _ => ensures_length_text) _).bind fun slice short => ensures_pure short
  obtain ⟨short, each⟩ := fits input texts rest run
  obtain ⟨bytes, written, -⟩ := restores_list short fun text member => restores_text (each text member)
  exact ⟨bytes, written⟩

theorem rewrites_enum {ν : Type} [DecidableEq ν] (written : List (ν × UInt8)) (parser : Decoder (Flags ν)) :
    Rewrites (encodeEnum written) parser := by
  refine rewrites_of_total (fun flags => ?_) parser
  rw [encodeEnum, encodeFlags, TaggedUnion.encode]
  cases written.find? fun entry => flags.flag entry.1 with
  | none => exact ⟨[], rfl⟩
  | some entry => exact ⟨[entry.2], rfl⟩

theorem rewrites_moduleError (parser : Decoder ModuleError) : Rewrites ModuleError.encode parser := by
  refine rewrites_of_total (fun error => ?_) parser
  exact ⟨_, by rw [ModuleError.encode, encodeArray_eq]; rfl⟩

theorem rewrites_engineMessage : Rewrites EngineMessage.encode EngineMessage.decode := by
  refine ensures_bind fun engine => ((ensures_length_bytes []).mapError _).bind fun bytes short => ?_
  refine ensures_pure ?_
  refine ⟨LittleEndian.ofNat 4 engine.toNat ++ (compactBytes bytes.length ++ bytes), ?_⟩
  rw [EngineMessage.encode, encodeU32_eq, encodeBytes_eq short]
  simp [encodeStruct, writeAll]

theorem rewrites_changesTrieSignal : Rewrites ChangesTrieSignal.encode ChangesTrieSignal.decode := by
  refine ensures_bind fun tag => ?_
  split_ifs
  · refine (ensures_length_bytes []).bind fun bytes short => ensures_pure ?_
    exact ⟨_, by rw [ChangesTrieSignal.encode, if_pos rfl, encodeBytes_eq short]; rfl⟩
  · exact ensures_fail _

/-! ## Known and unknown tags -/

namespace MultiAddress

/-- The flags in the order of the fields. -/
def flags (address : MultiAddress) : List Bool :=
  [address.isID, address.isIndex, address.isRaw, address.isAddress32, address.isAddress20]

theorem definite_iff (input : List UInt8) :
    Definite flags encode (decode zero) [0, 1, 2, 3, 4] input ↔
      StartsKnown [0, 1, 2, 3, 4] input := by
  refine ByteParser.definite_iff ⟨.eof, rfl⟩ (fun tag member => ?_) (fun tag new rest => ?_) input
  · simp only [List.mem_cons, List.not_mem_nil, or_false] at member
    rcases member with rfl | rfl | rfl | rfl | rfl
    · exact ⟨_, fun bytes => { zero with isID := true, asID := bytes }, _, encodeArray,
        fun _ => rfl, fun _ => rfl, fun _ => rfl, rewrites_array _⟩
    · exact ⟨_, fun index => { zero with isIndex := true, asIndex := index }, _, encodeU32,
        fun _ => rfl, fun _ => rfl, fun _ => rfl, rewrites_of_total (fun _ => ⟨_, rfl⟩) _⟩
    · exact ⟨_, fun bytes => { zero with isRaw := true, asRaw := bytes }, _, encodeBytes,
        fun _ => rfl, fun _ => rfl, fun _ => rfl, rewrites_bytes⟩
    · exact ⟨_, fun bytes => { zero with isAddress32 := true, asAddress32 := bytes }, _, encodeArray,
        fun _ => rfl, fun _ => rfl, fun _ => rfl, rewrites_array _⟩
    · exact ⟨_, fun bytes => { zero with isAddress20 := true, asAddress20 := bytes }, _, encodeArray,
        fun _ => rfl, fun _ => rfl, fun _ => rfl, rewrites_array _⟩
  · simp only [List.mem_cons, List.not_mem_nil, or_false, not_or] at new
    obtain ⟨not_id, not_index, not_raw, not_address32, not_address20⟩ := new
    refine ⟨zero, ?_, by decide⟩
    simp [decode, not_id, not_index, not_raw, not_address32, not_address20]

end MultiAddress

namespace MultiSignature

/-- The flags in the order of the fields. -/
def flags (signature : MultiSignature) : List Bool :=
  [signature.isEd25519, signature.isSr25519, signature.isEcdsa]

theorem definite_iff (input : List UInt8) :
    Definite flags encode (decode zero) [0, 1, 2] input ↔ StartsKnown [0, 1, 2] input := by
  refine ByteParser.definite_iff ⟨.eof, rfl⟩ (fun tag member => ?_) (fun tag new rest => ?_) input
  · simp only [List.mem_cons, List.not_mem_nil, or_false] at member
    rcases member with rfl | rfl | rfl
    · exact ⟨_, fun bytes => { zero with isEd25519 := true, asEd25519 := bytes }, _, encodeArray,
        fun _ => rfl, fun _ => rfl, fun _ => rfl, rewrites_array _⟩
    · exact ⟨_, fun bytes => { zero with isSr25519 := true, asSr25519 := bytes }, _, encodeArray,
        fun _ => rfl, fun _ => rfl, fun _ => rfl, rewrites_array _⟩
    · exact ⟨_, fun bytes => { zero with isEcdsa := true, asEcdsa := bytes }, _, encodeArray,
        fun _ => rfl, fun _ => rfl, fun _ => rfl, rewrites_array _⟩
  · simp only [List.mem_cons, List.not_mem_nil, or_false, not_or] at new
    obtain ⟨not_ed25519, not_sr25519, not_ecdsa⟩ := new
    refine ⟨zero, ?_, by decide⟩
    simp [decode, not_ed25519, not_sr25519, not_ecdsa]

end MultiSignature

namespace Phase

/-- The flags in the order of the fields. -/
def flags (phase : Phase) : List Bool :=
  [phase.isApplyExtrinsic, phase.isFinalization, phase.isInitialization]

theorem definite_iff (input : List UInt8) :
    Definite flags encode decode [0, 1, 2] input ↔ StartsKnown [0, 1, 2] input := by
  refine ByteParser.definite_iff ⟨.eof, rfl⟩ (fun tag member => ?_) (fun tag new rest => ?_) input
  · simp only [List.mem_cons, List.not_mem_nil, or_false] at member
    rcases member with rfl | rfl | rfl
    · exact ⟨_, fun index => { zero with isApplyExtrinsic := true, asApplyExtrinsic := index }, _,
        encodeU32, fun _ => rfl, fun _ => rfl, fun _ => rfl, rewrites_of_total (fun _ => ⟨_, rfl⟩) _⟩
    · exact branches_of_tag { zero with isFinalization := true } (fun _ => rfl) rfl rfl
    · exact branches_of_tag { zero with isInitialization := true } (fun _ => rfl) rfl rfl
  · simp only [List.mem_cons, List.not_mem_nil, or_false, not_or] at new
    obtain ⟨not_apply, not_finalization, not_initialization⟩ := new
    refine ⟨zero, ?_, by decide⟩
    simp [decode, not_apply, not_finalization, not_initialization]

end Phase

namespace DispatchError

/-- The flags of a value. -/
def flags (error : DispatchError) : List Bool := allFlags.map error.flag

theorem definite_iff (input : List UInt8) :
    Definite flags encode decode (read.map Prod.fst) input ↔ StartsKnown (read.map Prod.fst) input := by
  refine union_definite_iff ⟨.eof, rfl⟩ reads_readOneByte ?_ ?_ ?_ (fun flag => ?_) input
  · decide
  · simp [allFlags]
  · intro flag
    cases flag <;> simp [allFlags]
  · cases flag with
    | isModule => exact rewrites_moduleError _
    | isToken | isArithmetic | isTransactional => exact rewrites_enum _ _
    | _ => exact rewrites_of_total (fun _ => ⟨[], rfl⟩) _

end DispatchError

namespace ExtrinsicStatus

/-- The flags of a value. -/
def flags (status : ExtrinsicStatus) : List Bool := allFlags.map status.flag

theorem definite_iff (input : List UInt8) :
    Definite flags encode decode (read.map Prod.fst) input ↔ StartsKnown (read.map Prod.fst) input := by
  refine union_definite_iff ⟨.eof, rfl⟩ reads_readOneByte ?_ ?_ ?_ (fun flag => ?_) input
  · decide
  · simp [allFlags]
  · intro flag
    cases flag <;> simp [allFlags]
  · cases flag with
    | isBroadcast => exact rewrites_texts
    | isInBlock | isRetracted | isFinalityTimeout | isFinalized | isUsurped => exact rewrites_array _
    | _ => exact rewrites_of_total (fun _ => ⟨[], rfl⟩) _

end ExtrinsicStatus

namespace DigestItem

/-- The flags of a value. -/
def flags (item : DigestItem) : List Bool := allFlags.map item.flag

theorem definite_iff (input : List UInt8) :
    Definite flags encode decode (read.map Prod.fst) input ↔ StartsKnown (read.map Prod.fst) input := by
  refine union_definite_iff ⟨.eof, rfl⟩ reads_readOneByte ?_ ?_ ?_ (fun flag => ?_) input
  · decide
  · simp [allFlags]
  · intro flag
    cases flag <;> simp [allFlags]
  · cases flag with
    | isChangesTrieRoot => exact rewrites_array _
    | isPreRuntime | isConsensus | isSeal => exact rewrites_engineMessage
    | isChangesTrieSignal => exact rewrites_changesTrieSignal
    | isOther => exact rewrites_bytes

end DigestItem

/-- Each of the six types is decoded as it should be exactly when the input does not start with a byte
that stands for nothing. -/
theorem enums_definite_iff_startsKnown (input : List UInt8) :
    (Definite MultiAddress.flags MultiAddress.encode (MultiAddress.decode .zero) [0, 1, 2, 3, 4] input ↔
      StartsKnown [0, 1, 2, 3, 4] input) ∧
    (Definite MultiSignature.flags MultiSignature.encode (MultiSignature.decode .zero) [0, 1, 2] input ↔
      StartsKnown [0, 1, 2] input) ∧
    (Definite Phase.flags Phase.encode Phase.decode [0, 1, 2] input ↔ StartsKnown [0, 1, 2] input) ∧
    (Definite DispatchError.flags DispatchError.encode DispatchError.decode
        [0, 1, 2, 3, 4, 5, 6, 7, 8, 9] input ↔
      StartsKnown [0, 1, 2, 3, 4, 5, 6, 7, 8, 9] input) ∧
    (Definite ExtrinsicStatus.flags ExtrinsicStatus.encode ExtrinsicStatus.decode
        [0, 1, 2, 3, 4, 5, 6, 7, 8, 9] input ↔
      StartsKnown [0, 1, 2, 3, 4, 5, 6, 7, 8, 9] input) ∧
    (Definite DigestItem.flags DigestItem.encode DigestItem.decode [2, 6, 4, 5, 7, 0] input ↔
      StartsKnown [2, 6, 4, 5, 7, 0] input) :=
  ⟨MultiAddress.definite_iff input, MultiSignature.definite_iff input, Phase.definite_iff input,
    DispatchError.definite_iff input, ExtrinsicStatus.definite_iff input, DigestItem.definite_iff input⟩

/-- A phase with tag 3 is taken for the zero value, which no flag describes and which is written as
nothing. -/
theorem unknown_phase_accepted :
    Phase.decode [3] = .ok (Phase.zero, []) ∧ Phase.zero.flags.count true = 0 ∧
      Phase.zero.encode = .ok [] ∧ ¬ Definite Phase.flags Phase.encode Phase.decode [0, 1, 2] [3] := by
  refine ⟨rfl, rfl, rfl, ?_⟩
  rintro ⟨-, refused⟩
  obtain ⟨reason, failed⟩ := refused 3 [] rfl (by decide)
  cases failed

end SubstrateClient.Types
