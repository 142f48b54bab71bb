import SubstrateClient.TaggedTree
import SubstrateClient.Xcm.Response

/-!
# Instructions

An instruction of a message is one of 28 kinds, and six of them carry messages of their own.  So
instructions are trees, written and read from the outside in.
-/

namespace SubstrateClient.Xcm

open ByteParser Scale SubstrateClient.Types TaggedUnion

/-! ## Origins, calls and limits -/

/-- The flags of `OriginKind`. -/
inductive OriginKind.Flag where
  | isNative | isSovereignAccount | isSuperuser | isXcm
  deriving DecidableEq

/-- `OriginKind`. -/
abbrev OriginKind : Type := Flags OriginKind.Flag

namespace OriginKind

instance : Inhabited OriginKind := ⟨blank fun _ => ()⟩

/-- `OriginKind.Encode`. -/
def encode : OriginKind → Written :=
  encodeFlags [(.isNative, 0), (.isSovereignAccount, 1), (.isSuperuser, 2), (.isXcm, 3)] (.ok [])

/-- `OriginKind.Decode`. -/
def decode : Decoder OriginKind :=
  decodeFlags readOneByte [(0, .isNative), (1, .isSovereignAccount), (2, .isSuperuser), (3, .isXcm)]
    fun _ => pure default

theorem restores {origin : OriginKind} (one : OneFlag origin) :
    Restores (encode origin) decode origin := by
  refine restores_flags (fun flag => ?_) reads_readOneByte one
  cases flag <;> exact ⟨_, rfl, rfl⟩

end OriginKind

/-- `EncodedCall`. -/
structure EncodedCall where
  call : List UInt8
  deriving Inhabited

namespace EncodedCall

/-- `EncodedCall.Encode`. -/
def encode (encoded : EncodedCall) : Written := encodeBytes encoded.call

/-- `EncodedCall.Decode`. -/
def decode : Decoder EncodedCall := do
  let call ← decodeBytes []
  pure ⟨call⟩

theorem restores {encoded : EncodedCall} (short : Short encoded.call.length) :
    Restores encoded.encode decode encoded :=
  short.restores_bytes.map EncodedCall.mk

end EncodedCall

/-- The flags of `WeightLimit`. -/
inductive WeightLimit.Flag where
  | isUnlimited | isLimited
  deriving DecidableEq

/-- The payloads of `WeightLimit`. -/
def WeightLimit.Payload : WeightLimit.Flag → Type
  | .isUnlimited => Unit
  | .isLimited => UInt64

/-- `WeightLimit`. -/
abbrev WeightLimit : Type := TaggedUnion WeightLimit.Flag WeightLimit.Payload

namespace WeightLimit

/-- The payloads of the zero value. -/
def zero : (flag : Flag) → Payload flag
  | .isUnlimited => ()
  | .isLimited => (0 : UInt64)

instance : Inhabited WeightLimit := ⟨blank zero⟩

def encodePayload : (flag : Flag) → Payload flag → Written
  | .isUnlimited, _ => .ok []
  | .isLimited, limit => encodeU64 limit

def decodePayload : (flag : Flag) → Decoder (Payload flag)
  | .isUnlimited => pure ()
  | .isLimited => decodeU64

/-- `WeightLimit.Encode`. -/
def encode : WeightLimit → Written := encodeUnion [(.isUnlimited, 0), (.isLimited, 1)] encodePayload

/-- `WeightLimit.Decode`. -/
def decode : Decoder WeightLimit := decodeUnion zero [(0, .isUnlimited), (1, .isLimited)] decodePayload

/-- Nothing is asked of the limit. -/
def Good (flag : Flag) (_ : Payload flag) : Prop := True

theorem restores {limit : WeightLimit} (well : limit.WellFormed zero Good) :
    Restores (encode limit) decode limit := by
  refine restores_union (fun flag => ?_) (fun flag payload _ => ?_) well
  · cases flag <;> exact ⟨_, rfl, rfl⟩
  · cases flag with
    | isUnlimited => exact restores_unit payload
    | isLimited => exact restores_u64 payload

end WeightLimit

/-! ## Instructions -/

namespace Instruction

/-- The flags of `Instruction`. -/
inductive Flag where
  | isWithdrawAsset | isReserveAssetDeposited | isReceiveTeleportedAsset | isQueryResponse
  | isTransferAsset | isTransferReserveAsset | isTransact | isHrmpNewChannelOpenRequest
  | isHrmpChannelAccepted | isHrmpChannelClosing | isClearOrigin | isDescendOrigin | isReportError
  | isDepositAsset | isDepositReserveAsset | isExchangeAsset | isInitiateReserveWithdraw
  | isInitiateTeleport | isQueryHolding | isBuyExecution | isRefundSurplus | isSetErrorHandler
  | isSetAppendix | isClearError | isClaimAsset | isTrap | isSubscribeVersion | isUnsubscribeVersion
  deriving DecidableEq

/-- The fields of `Instruction` that hold instructions. -/
inductive Message where
  | transferReserveAssetXCM | depositReserveAssetXCM | initiateReserveWithdrawXCM | initiateTeleportXCM
  | setErrorHandlerXCM | setAppendixXCM
  deriving DecidableEq

/-- The message that goes with a flag, after all other fields. -/
def message : Flag → Option Message
  | .isTransferReserveAsset => some .transferReserveAssetXCM
  | .isDepositReserveAsset => some .depositReserveAssetXCM
  | .isInitiateReserveWithdraw => some .initiateReserveWithdrawXCM
  | .isInitiateTeleport => some .initiateTeleportXCM
  | .isSetErrorHandler => some .setErrorHandlerXCM
  | .isSetAppendix => some .setAppendixXCM
  | _ => none

/-- The other fields that go with a flag. -/
def Payload : Flag → Type
  | .isWithdrawAsset | .isReserveAssetDeposited | .isReceiveTeleportedAsset => MultiAssetsV1
  | .isQueryResponse => UCompact × Response × UCompact
  | .isTransferAsset | .isTransferReserveAsset => MultiAssetsV1 × MultiLocationV1
  | .isTransact => OriginKind × UCompact × EncodedCall
  | .isHrmpNewChannelOpenRequest => UInt32 × UInt32 × UInt32
  | .isHrmpChannelAccepted => UInt32
  | .isHrmpChannelClosing => UInt32 × UInt32 × UInt32
  | .isDescendOrigin => JunctionsV1
  | .isReportError => UInt64 × MultiLocationV1 × UInt64
  | .isDepositAsset | .isDepositReserveAsset => MultiAssetFilter × UInt32 × MultiLocationV1
  | .isExchangeAsset => MultiAssetFilter × MultiAssetsV1
  | .isInitiateReserveWithdraw | .isInitiateTeleport => MultiAssetFilter × MultiLocationV1
  | .isQueryHolding => UInt64 × MultiLocationV1 × MultiAssetFilter × UInt64
  | .isBuyExecution => MultiAssetV1 × WeightLimit
  | .isClaimAsset => MultiAssetsV1 × MultiLocationV1
  | .isTrap => UInt64
  | .isSubscribeVersion => UInt64 × UInt64
  | .isClearOrigin | .isRefundSurplus | .isSetErrorHandler | .isSetAppendix | .isClearError
  | .isUnsubscribeVersion => Unit

end Instruction

/-- `Instruction`. -/
abbrev Instruction : Type := TaggedTree Instruction.Flag Instruction.Message Instruction.Payload

namespace Instruction

/-- The payloads of the zero value. -/
def zero : (flag : Flag) → Payload flag
  | .isWithdrawAsset | .isReserveAssetDeposited | .isReceiveTeleportedAsset => ([] : MultiAssetsV1)
  | .isQueryResponse => ((default, default, default) : UCompact × Response × UCompact)
  | .isTransferAsset | .isTransferReserveAsset => (([], default) : MultiAssetsV1 × MultiLocationV1)
  | .isTransact => ((default, default, default) : OriginKind × UCompact × EncodedCall)
  | .isHrmpNewChannelOpenRequest => ((0, 0, 0) : UInt32 × UInt32 × UInt32)
  | .isHrmpChannelAccepted => (0 : UInt32)
  | .isHrmpChannelClosing => ((0, 0, 0) : UInt32 × UInt32 × UInt32)
  | .isDescendOrigin => (default : JunctionsV1)
  | .isReportError => ((0, default, 0) : UInt64 × MultiLocationV1 × UInt64)
  | .isDepositAsset | .isDepositReserveAsset =>
      ((default, 0, default) : MultiAssetFilter × UInt32 × MultiLocationV1)
  | .isExchangeAsset => ((default, []) : MultiAssetFilter × MultiAssetsV1)
  | .isInitiateReserveWithdraw | .isInitiateTeleport =>
      ((default, default) : MultiAssetFilter × MultiLocationV1)
  | .isQueryHolding => ((0, default, default, 0) : UInt64 × MultiLocationV1 × MultiAssetFilter × UInt64)
  | .isBuyExecution => ((default, default) : MultiAssetV1 × WeightLimit)
  | .isClaimAsset => (([], default) : MultiAssetsV1 × MultiLocationV1)
  | .isTrap => (0 : UInt64)
  | .isSubscribeVersion => ((0, 0) : UInt64 × UInt64)
  | .isClearOrigin | .isRefundSurplus | .isSetErrorHandler | .isSetAppendix | .isClearError
  | .isUnsubscribeVersion => ()

instance : Inhabited Instruction := ⟨TaggedTree.blank zero⟩

/-- What the cases of `Instruction.Encode` write after the tag and before a message. -/
def encodePayload : (flag : Flag) → Payload flag → Written
  | .isWithdrawAsset, assets | .isReserveAssetDeposited, assets | .isReceiveTeleportedAsset, assets =>
      MultiAssetsV1.encode assets
  | .isQueryResponse, (queryID, response, maxWeight) =>
      writeAll [queryID.encode, response.encode, maxWeight.encode]
  | .isTransferAsset, (assets, beneficiary) =>
      writeAll [MultiAssetsV1.encode assets, beneficiary.encodeValue]
  | .isTransferReserveAsset, (assets, dest) => writeAll [MultiAssetsV1.encode assets, dest.encodeValue]
  | .isTransact, (originType, requireWeightAtMost, call) =>
      writeAll [originType.encode, requireWeightAtMost.encode, call.encode]
  | .isHrmpNewChannelOpenRequest, (sender, maxMessageSize, maxCapacity) =>
      writeAll [encodeU32 sender, encodeU32 maxMessageSize, encodeU32 maxCapacity]
  | .isHrmpChannelAccepted, recipient => encodeU32 recipient
  | .isHrmpChannelClosing, (initiator, sender, recipient) =>
      writeAll [encodeU32 initiator, encodeU32 sender, encodeU32 recipient]
  | .isDescendOrigin, location => JunctionsV1.encode location
  | .isReportError, (queryID, destination, maxResponseWeight) =>
      writeAll [encodeU64 queryID, destination.encodeValue, encodeU64 maxResponseWeight]
  | .isDepositAsset, (filter, maxAssets, beneficiary) =>
      writeAll [filter.encode, encodeU32 maxAssets, beneficiary.encodeValue]
  | .isDepositReserveAsset, (filter, maxAssets, dest) =>
      writeAll [filter.encode, encodeU32 maxAssets, dest.encodeValue]
  | .isExchangeAsset, (give, receive) => writeAll [give.encode, MultiAssetsV1.encode receive]
  | .isInitiateReserveWithdraw, (assets, reserve) => writeAll [assets.encode, reserve.encodeValue]
  | .isInitiateTeleport, (assets, dest) => writeAll [assets.encode, dest.encodeValue]
  | .isQueryHolding, (queryID, dest, assets, maxResponseWeight) =>
      writeAll [encodeU64 queryID, dest.encodeValue, assets.encode, encodeU64 maxResponseWeight]
  | .isBuyExecution, (fees, weightLimit) => writeAll [fees.encode, weightLimit.encode]
  | .isClaimAsset, (assets, ticket) => writeAll [MultiAssetsV1.encode assets, ticket.encodeValue]
  | .isTrap, code => encodeU64 code
  | .isSubscribeVersion, (queryID, maxResponseWeight) =>
      writeAll [encodeU64 queryID, encodeU64 maxResponseWeight]
  | .isClearOrigin, _ | .isRefundSurplus, _ | .isSetErrorHandler, _ | .isSetAppendix, _
  | .isClearError, _ | .isUnsubscribeVersion, _ => .ok []

/-- What the cases of `Instruction.Decode` read after the tag and before a message. -/
def decodePayload : (flag : Flag) → Decoder (Payload flag)
  | .isWithdrawAsset | .isReserveAssetDeposited | .isReceiveTeleportedAsset => MultiAssetsV1.decode
  | .isQueryResponse => do
      let queryID ← UCompact.decode
      let response ← Response.decode
      let maxWeight ← UCompact.decode
      pure (queryID, response, maxWeight)
  | .isTransferAsset => do
      let assets ← MultiAssetsV1.decode
      let beneficiary ← MultiLocationV1.decode
      pure (assets, beneficiary)
  | .isTransferReserveAsset => do
      let assets ← MultiAssetsV1.decode
      let dest ← MultiLocationV1.decode
      pure (assets, dest)
  | .isTransact => do
      let originType ← OriginKind.decode
      let requireWeightAtMost ← UCompact.decode
      let call ← EncodedCall.decode
      pure (originType, requireWeightAtMost, call)
  | .isHrmpNewChannelOpenRequest => do
      let sender ← decodeU32 0
      let maxMessageSize ← decodeU32 0
      let maxCapacity ← decodeU32 0
      pure (sender, maxMessageSize, maxCapacity)
  | .isHrmpChannelAccepted => decodeU32 0
  | .isHrmpChannelClosing => do
      let initiator ← decodeU32 0
      let sender ← decodeU32 0
      let recipient ← decodeU32 0
      pure (initiator, sender, recipient)
  | .isDescendOrigin => JunctionsV1.decode
  | .isReportError => do
      let queryID ← decodeU64
      let destination ← MultiLocationV1.decode
      let maxResponseWeight ← decodeU64
      pure (queryID, destination, maxResponseWeight)
  | .isDepositAsset => do
      let filter ← MultiAssetFilter.decode
      let maxAssets ← decodeU32 0
      let beneficiary ← MultiLocationV1.decode
      pure (filter, maxAssets, beneficiary)
  | .isDepositReserveAsset => do
      let filter ← MultiAssetFilter.decode
      let maxAssets ← decodeU32 0
      let dest ← MultiLocationV1.decode
      pure (filter, maxAssets, dest)
  | .isExchangeAsset => do
      let give ← MultiAssetFilter.decode
      let receive ← MultiAssetsV1.decode
      pure (give, receive)
  | .isInitiateReserveWithdraw => do
      let assets ← MultiAssetFilter.decode
      let reserve ← MultiLocationV1.decode
      pure (assets, reserve)
  | .isInitiateTeleport => do
      let assets ← MultiAssetFilter.decode
      let dest ← MultiLocationV1.decode
      pure (assets, dest)
  | .isQueryHolding => do
      let queryID ← decodeU64
      let dest ← MultiLocationV1.decode
      let assets ← MultiAssetFilter.decode
      let maxResponseWeight ← decodeU64
      pure (queryID, dest, assets, maxResponseWeight)
  | .isBuyExecution => do
      let fees ← MultiAssetV1.decode
      let weightLimit ← WeightLimit.decode
      pure (fees, weightLimit)
  | .isClaimAsset => do
      let assets ← MultiAssetsV1.decode
      let ticket ← MultiLocationV1.decode
      pure (assets, ticket)
  | .isTrap => decodeU64
  | .isSubscribeVersion => do
      let queryID ← decodeU64
      let maxResponseWeight ← decodeU64
      pure (queryID, maxResponseWeight)
  | .isClearOrigin | .isRefundSurplus | .isSetErrorHandler | .isSetAppendix | .isClearError
  | .isUnsubscribeVersion => pure ()

/-- `Instruction.Encode`. -/
def encode : Instruction → Written :=
  TaggedTree.encode message encodePayload (encodeSlice id)
    [(.isWithdrawAsset, 0), (.isReserveAssetDeposited, 1), (.isReceiveTeleportedAsset, 2),
      (.isQueryResponse, 3), (.isTransferAsset, 4), (.isTransferReserveAsset, 5), (.isTransact, 6),
      (.isHrmpNewChannelOpenRequest, 7), (.isHrmpChannelAccepted, 8), (.isHrmpChannelClosing, 9),
      (.isClearOrigin, 10), (.isDescendOrigin, 11), (.isReportError, 12), (.isDepositAsset, 13),
      (.isDepositReserveAsset, 14), (.isExchangeAsset, 15), (.isInitiateReserveWithdraw, 16),
      (.isInitiateTeleport, 17), (.isQueryHolding, 18), (.isBuyExecution, 19), (.isRefundSurplus, 20),
      (.isSetErrorHandler, 21), (.isSetAppendix, 22), (.isClearError, 23), (.isClaimAsset, 24),
      (.isTrap, 25), (.isSubscribeVersion, 26), (.isUnsubscribeVersion, 27)]
    (.ok [])

/-- `Instruction.Decode`, to the depth that the fuel allows. -/
def decode : Nat → Decoder Instruction :=
  TaggedTree.decode message zero readOneByte
    [(0, .isWithdrawAsset), (1, .isReserveAssetDeposited), (2, .isReceiveTeleportedAsset),
      (3, .isQueryResponse), (4, .isTransferAsset), (5, .isTransferReserveAsset), (6, .isTransact),
      (7, .isHrmpNewChannelOpenRequest), (8, .isHrmpChannelAccepted), (9, .isHrmpChannelClosing),
      (10, .isClearOrigin), (11, .isDescendOrigin), (12, .isReportError), (13, .isDepositAsset),
      (14, .isDepositReserveAsset), (15, .isExchangeAsset), (16, .isInitiateReserveWithdraw),
      (17, .isInitiateTeleport), (18, .isQueryHolding), (19, .isBuyExecution), (20, .isRefundSurplus),
      (21, .isSetErrorHandler), (22, .isSetAppendix), (23, .isClearError), (24, .isClaimAsset),
      (25, .isTrap), (26, .isSubscribeVersion), (27, .isUnsubscribeVersion)]
    decodePayload decodeList fun _ => pure default

/-! ## What is restored -/

def Good : (flag : Flag) → Payload flag → Prop
  | .isWithdrawAsset, assets | .isReserveAssetDeposited, assets | .isReceiveTeleportedAsset, assets =>
      MultiAssetsV1.WellFormed assets
  | .isQueryResponse, (queryID, response, maxWeight) =>
      queryID.InRange ∧ response.WellFormed Response.zero Response.Good ∧ maxWeight.InRange
  | .isTransferAsset, (assets, location) | .isTransferReserveAsset, (assets, location)
  | .isClaimAsset, (assets, location) => MultiAssetsV1.WellFormed assets ∧ location.WellFormed
  | .isTransact, (originType, requireWeightAtMost, call) =>
      OneFlag originType ∧ requireWeightAtMost.InRange ∧ Short call.call.length
  | .isDescendOrigin, location => TaggedUnion.WellFormed JunctionsV1.zero JunctionsV1.Good location
  | .isReportError, (_, destination, _) => destination.WellFormed
  | .isDepositAsset, (filter, _, location) | .isDepositReserveAsset, (filter, _, location) =>
      filter.WellFormed MultiAssetFilter.zero MultiAssetFilter.Good ∧ location.WellFormed
  | .isExchangeAsset, (give, receive) =>
      give.WellFormed MultiAssetFilter.zero MultiAssetFilter.Good ∧ MultiAssetsV1.WellFormed receive
  | .isInitiateReserveWithdraw, (filter, location) | .isInitiateTeleport, (filter, location) =>
      filter.WellFormed MultiAssetFilter.zero MultiAssetFilter.Good ∧ location.WellFormed
  | .isQueryHolding, (_, dest, assets, _) =>
      dest.WellFormed ∧ assets.WellFormed MultiAssetFilter.zero MultiAssetFilter.Good
  | .isBuyExecution, (fees, weightLimit) =>
      fees.WellFormed ∧ weightLimit.WellFormed WeightLimit.zero WeightLimit.Good
  | .isHrmpNewChannelOpenRequest, _ | .isHrmpChannelAccepted, _ | .isHrmpChannelClosing, _
  | .isTrap, _ | .isSubscribeVersion, _ | .isClearOrigin, _ | .isRefundSurplus, _
  | .isSetErrorHandler, _ | .isSetAppendix, _ | .isClearError, _ | .isUnsubscribeVersion, _ => True

/-- Three fields of an instruction. -/
theorem restores_triple {α β γ : Type} {first second third : Written} {decodeFirst : Decoder α}
    {decodeSecond : Decoder β} {decodeThird : Decoder γ} {payload : α × β × γ}
    (restored : Restores first decodeFirst payload.1) (later : Restores second decodeSecond payload.2.1)
    (last : Restores third decodeThird payload.2.2) :
    Restores (writeAll [first, second, third])
      (decodeFirst >>= fun one => decodeSecond >>= fun two => decodeThird >>= fun three =>
        pure (one, two, three)) payload :=
  restored.cons (later.cons (last.last _))

theorem restores_payload {flag : Flag} {payload : Payload flag} (good : Good flag payload) :
    Restores (encodePayload flag payload) (decodePayload flag) payload := by
  cases flag with
  | isWithdrawAsset | isReserveAssetDeposited | isReceiveTeleportedAsset =>
      exact MultiAssetsV1.restores good
  | isQueryResponse =>
      exact restores_triple (restores_uCompact good.1) (Response.restores good.2.1)
        (restores_uCompact good.2.2)
  | isTransferAsset | isTransferReserveAsset | isClaimAsset =>
      exact (MultiAssetsV1.restores good.1).pair (MultiLocationV1.restores_value good.2)
  | isTransact =>
      exact restores_triple (OriginKind.restores good.1) (restores_uCompact good.2.1)
        (EncodedCall.restores good.2.2)
  | isHrmpNewChannelOpenRequest | isHrmpChannelClosing =>
      exact restores_triple (restores_u32 _) (restores_u32 _) (restores_u32 _)
  | isHrmpChannelAccepted => exact restores_u32 payload
  | isDescendOrigin => exact JunctionsV1.restores good
  | isReportError =>
      exact restores_triple (restores_u64 _) (MultiLocationV1.restores_value good) (restores_u64 _)
  | isDepositAsset | isDepositReserveAsset =>
      exact restores_triple (MultiAssetFilter.restores good.1) (restores_u32 _)
        (MultiLocationV1.restores_value good.2)
  | isExchangeAsset => exact (MultiAssetFilter.restores good.1).pair (MultiAssetsV1.restores good.2)
  | isInitiateReserveWithdraw | isInitiateTeleport =>
      exact (MultiAssetFilter.restores good.1).pair (MultiLocationV1.restores_value good.2)
  | isQueryHolding =>
      refine (restores_u64 payload.1).cons ((MultiLocationV1.restores_value good.1).cons ?_)
      exact (MultiAssetFilter.restores good.2).cons ((restores_u64 payload.2.2.2).last _)
  | isBuyExecution => exact (MultiAssetV1.restores good.1).pair (WeightLimit.restores good.2)
  | isTrap => exact restores_u64 payload
  | isSubscribeVersion => exact (restores_u64 payload.1).pair (restores_u64 payload.2)
  | isClearOrigin | isRefundSurplus | isSetErrorHandler | isSetAppendix | isClearError
  | isUnsubscribeVersion => exact restores_unit payload

/-- Messages are written and read as slices. -/
theorem listLaw : TaggedTree.ListLaw Short (encodeSlice id) (decodeList (α := Instruction)) := by
  intro chunks short
  have written : (chunks.map .ok : List Written).mapM id = .ok chunks :=
    Outcome.mapM_eq_ok.mpr (List.forall₂_map_left_iff.mpr (List.forall₂_same.mpr fun _ _ => rfl))
  have count : (chunks.map .ok : List Written).length = chunks.length := List.length_map _
  refine ⟨compactBytes chunks.length ++ chunks.flatten, ?_, fun chunk member => ?_,
    fun parser values each => ?_⟩
  · have encoded := encodeSlice_eq (count ▸ short.le_maxUint32) written
    rwa [count] at encoded
  · have inside := (List.sublist_flatten_of_mem member).length_le
    rw [List.length_append]
    omega
  · have same : chunks.length = values.length := each.length_eq
    have reads := @reads_decodeSlice Instruction default (fun _ => parser) chunks values
      (same ▸ short.le_maxUint32) each
    rw [← same] at reads
    exact reads.bind_pure GoSlice.elems

/-- A well-formed instruction is written, and its bytes are read back as the instruction. -/
theorem decode_encode_instruction (instruction : Instruction)
    (well : instruction.WellFormed zero message Good Short) :
    ∃ bytes, instruction.encode = .ok bytes ∧
      ∀ rest fuel, bytes.length ≤ fuel → decode fuel (bytes ++ rest) = .ok (instruction, rest) := by
  have restored : ∃ bytes, instruction.encode = .ok bytes ∧
      ∀ fuel, bytes.length ≤ fuel → Reads (decode fuel) bytes instruction := by
    refine TaggedTree.restores (fun flag => ?_) reads_readOneByte (fun _ _ => restores_payload) listLaw well
    cases flag <;> exact ⟨_, rfl, rfl⟩
  obtain ⟨bytes, written, reads⟩ := restored
  exact ⟨bytes, written, fun rest fuel enough => reads fuel enough rest⟩

/-- An amount of an asset at a junction of an account. -/
def sampleAsset : MultiAssetV1 where
  id := choose AssetID.zero .isConcrete (⟨1, choose JunctionsV1.zero .isX1 (choose JunctionV1.zero
    .isAccountID32 (choose NetworkID.zero .isAny (), [9]))⟩ : MultiLocationV1)
  fungibility := choose Fungibility.zero .isFungible (7 : Int)

/-- An instruction with messages two levels deep. -/
def sampleInstruction : Instruction :=
  TaggedTree.choose zero message .isSetAppendix ()
    [TaggedTree.choose zero message .isWithdrawAsset [sampleAsset] [],
      TaggedTree.choose zero message .isSetErrorHandler ()
        [TaggedTree.choose zero message .isTrap (5 : UInt64) []]]

private theorem wellFormed_sampleAsset : sampleAsset.WellFormed where
  id := by
    refine TaggedUnion.wellFormed_choose (TaggedUnion.wellFormed_choose (TaggedUnion.wellFormed_choose ?_))
    exact ⟨TaggedUnion.wellFormed_choose trivial, show 1 < 2 ^ 32 by decide⟩
  fungibility := TaggedUnion.wellFormed_choose ⟨7, rfl, lt_compact_bound (by norm_num)⟩

private theorem wellFormed_sampleInstruction : sampleInstruction.WellFormed zero message Good Short := by
  have zero_short : Short 0 := by unfold Short; decide
  have one_short : Short 1 := by unfold Short; decide
  have two_short : Short 2 := by unfold Short; decide
  have trap : (TaggedTree.choose zero message .isTrap (5 : UInt64) [] : Instruction).WellFormed zero message
      Good Short :=
    TaggedTree.wellFormed_choose trivial zero_short zero_short fun _ member => by cases member
  refine TaggedTree.wellFormed_choose trivial zero_short two_short fun item member => ?_
  rcases List.mem_pair.mp member with rfl | rfl
  · refine TaggedTree.wellFormed_choose ⟨one_short, fun asset member => ?_⟩ zero_short zero_short
      fun _ member => by cases member
    obtain rfl := List.mem_singleton.mp member
    exact wellFormed_sampleAsset
  · refine TaggedTree.wellFormed_choose trivial zero_short one_short fun item member => ?_
    obtain rfl := List.mem_singleton.mp member
    exact trap

theorem decode_encode_instruction_sample :
    ∃ bytes, sampleInstruction.encode = .ok bytes ∧
      ∀ rest fuel, bytes.length ≤ fuel → decode fuel (bytes ++ rest) = .ok (sampleInstruction, rest) :=
  decode_encode_instruction sampleInstruction wellFormed_sampleInstruction

example : sampleInstruction.encode =
    .ok [22, 8, 0, 4, 0, 1, 1, 1, 0, 4, 9, 0, 28, 21, 4, 25, 5, 0, 0, 0, 0, 0, 0, 0] := by
  decide +kernel

end Instruction

end SubstrateClient.Xcm
