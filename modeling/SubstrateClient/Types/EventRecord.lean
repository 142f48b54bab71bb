import SubstrateClient.Types.ExtrinsicParts

/-!
# The fixed parts of an event record

Every event starts with a phase and an event identifier and ends with its topics.
-/

namespace SubstrateClient.Types

open ByteParser Scale

/-- `types.Phase`. -/
structure Phase where
  isApplyExtrinsic : Bool
  asApplyExtrinsic : UInt32
  isFinalization : Bool
  isInitialization : Bool
  deriving DecidableEq, Repr

namespace Phase

/-- The zero value. -/
def zero : Phase := ⟨false, 0, false, false⟩

/-- `Phase.Encode`. -/
def encode (phase : Phase) : Written :=
  if phase.isApplyExtrinsic then do
    let bytes ← encodeU32 phase.asApplyExtrinsic
    pure (0 :: bytes)
  else if phase.isFinalization then .ok [1]
  else if phase.isInitialization then .ok [2]
  else .ok []

/-- `Phase.Decode` into a zero value: an unknown byte leaves it zero. -/
def decode : Decoder Phase := do
  let byte ← readOneByte
  if byte = 0 then
    let index ← decodeU32 0
    pure { zero with isApplyExtrinsic := true, asApplyExtrinsic := index }
  else if byte = 1 then
    pure { zero with isFinalization := true }
  else if byte = 2 then
    pure { zero with isInitialization := true }
  else
    pure zero

/-- Exactly one flag is set, and the payload is zero if it is not selected. -/
def WellFormed (phase : Phase) : Prop :=
  (∃ index, phase = ⟨true, index, false, false⟩) ∨ phase = ⟨false, 0, true, false⟩ ∨
    phase = ⟨false, 0, false, true⟩

theorem encode_reads {phase : Phase} (well_formed : phase.WellFormed) :
    ∃ bytes, phase.encode = .ok bytes ∧ Reads decode bytes phase := by
  rcases well_formed with ⟨index, rfl⟩ | rfl | rfl
  · refine ⟨0 :: LittleEndian.ofNat 4 index.toNat, rfl, ?_⟩
    exact (reads_readOneByte 0).bind ((reads_u32 0 index).bind_pure _)
  · exact ⟨[1], rfl, fun rest => rfl⟩
  · exact ⟨[2], rfl, fun rest => rfl⟩

end Phase

/-- `types.EventID`. -/
abbrev EventID : Type := UInt8 × UInt8

namespace EventID

/-- `Encode` of an event identifier. -/
def encode (id : EventID) : List UInt8 := [id.1, id.2]

/-- `Decode` of an event identifier, byte by byte. -/
def decode : Decoder EventID := do
  let first ← (GoType.num .u8 : GoType .none).decode (0 : UInt8)
  let second ← (GoType.num .u8 : GoType .none).decode (0 : UInt8)
  pure (first, second)

theorem encode_reads (id : EventID) : Reads decode id.encode id :=
  (reads_u8 0 id.1).bind ((reads_u8 0 id.2).bind_pure fun second => (id.1, second))

end EventID

/-- `types.Hash`. -/
abbrev Hash : Type := List.Vector UInt8 32

/-- `[]types.Hash`. -/
def hashSlice : GoType .none := .slice (byteArray 32)

/-- `Encode` of the topics. -/
def encodeTopics (topics : List Hash) : Written := hashSlice.encode (⟨topics, []⟩ : GoSlice Hash)

/-- `Decode` of the topics into a nil slice. -/
def decodeTopics [Runtime .none] : Decoder (List Hash) := do
  let topics ← hashSlice.decode (⟨[], []⟩ : GoSlice Hash)
  pure (GoSlice.elems topics)

theorem encodeTopics_reads {topics : List Hash} (short : topics.length ≤ maxUint32) :
    ∃ bytes, encodeTopics topics = .ok bytes ∧ Reads decodeTopics bytes topics := by
  obtain ⟨bytes, encoded, reads⟩ := slice_roundTrip_self short fun topic : Hash =>
    ⟨topic.toList, encodeArray_eq topic, reads_array topic⟩
  exact ⟨bytes, encoded, reads.bind_pure GoSlice.elems⟩

end SubstrateClient.Types
