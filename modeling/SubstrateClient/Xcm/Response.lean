import SubstrateClient.Xcm.Asset

/-!
# Responses

The errors of an execution, and the answers to queries.
-/

namespace SubstrateClient.Xcm

open ByteParser Scale SubstrateClient.Types TaggedUnion

/-- `Weight`. -/
structure Weight where
  refTime : UCompact
  proofSize : UCompact
  deriving Inhabited

namespace Weight

/-- `Encode` of a weight, which has no method: field by field. -/
def encode (weight : Weight) : Written := encodeStruct [weight.refTime.encode, weight.proofSize.encode]

/-- `Decode` of a weight, field by field. -/
def decode : Decoder Weight := do
  let refTime ← decodeField UCompact.decode
  let proofSize ← decodeField UCompact.decode
  pure ⟨refTime, proofSize⟩

structure WellFormed (weight : Weight) : Prop where
  refTime : weight.refTime.InRange
  proofSize : weight.proofSize.InRange

theorem restores {weight : Weight} (well : weight.WellFormed) : Restores weight.encode decode weight := by
  refine restores_field (restores_uCompact well.refTime) ?_
  exact restores_field (restores_uCompact well.proofSize) (restores_struct_nil weight)

end Weight

/-! ## Errors -/

/-- The flags of `XCMError`. -/
inductive XCMError.Flag where
  | isOverflow | isUnimplemented | isUntrustedReserveLocation | isUntrustedTeleportLocation
  | isMultiLocationFull | isMultiLocationNotInvertible | isBadOrigin | isInvalidLocation
  | isAssetNotFound | isFailedToTransactAsset | isNotWithdrawable | isLocationCannotHold
  | isExceedsMaxMessageSize | isDestinationUnsupported | isTransport | isUnroutable
  | isUnknownClaim | isFailedToDecode | isMaxWeightInvalid | isNotHoldingFees | isTooExpensive
  | isTrap | isUnhandledXcmVersion | isWeightLimitReached | isBarrier | isWeightNotComputable
  deriving DecidableEq

/-- The fields of `XCMError` beside its flags. -/
inductive XCMError.Field where
  | nothing | transport | trapCode | weight

/-- The values of a field. -/
def XCMError.Field.Val : XCMError.Field → Type
  | .nothing => Unit
  | .transport => Text
  | .trapCode => UInt64
  | .weight => Weight

/-- The field that goes with a flag. -/
def XCMError.field : XCMError.Flag → XCMError.Field
  | .isTransport => .transport
  | .isTrap => .trapCode
  | .isWeightLimitReached => .weight
  | _ => .nothing

/-- `XCMError`. -/
abbrev XCMError : Type := TaggedUnion XCMError.Flag fun flag => (XCMError.field flag).Val

namespace XCMError

namespace Field

/-- The zero value of a field. -/
def zero : (field : Field) → field.Val
  | .nothing => ()
  | .transport => ([] : Text)
  | .trapCode => (0 : UInt64)
  | .weight => (default : Weight)

def encode : (field : Field) → field.Val → Written
  | .nothing, _ => .ok []
  | .transport, text => encodeText text
  | .trapCode, code => encodeU64 code
  | .weight, limit => Weight.encode limit

def decode : (field : Field) → Decoder field.Val
  | .nothing => pure ()
  | .transport => decodeText
  | .trapCode => decodeU64
  | .weight => Weight.decode

def Good : (field : Field) → field.Val → Prop
  | .transport, text => Short (List.length (α := UInt8) text)
  | .weight, limit => Weight.WellFormed limit
  | .nothing, _ | .trapCode, _ => True

theorem restores {field : Field} {value : field.Val} (good : field.Good value) :
    Restores (field.encode value) field.decode value := by
  cases field with
  | nothing => exact restores_unit value
  | transport => exact restores_text (Short.le_maxUint32 good)
  | trapCode => exact restores_u64 value
  | weight => exact Weight.restores good

end Field

/-- The payloads of the zero value. -/
def zero (flag : Flag) : (field flag).Val := (field flag).zero

instance : Inhabited XCMError := ⟨blank zero⟩

/-- `XCMError.Encode`. -/
def encode : XCMError → Written :=
  encodeUnion
    [(.isOverflow, 0), (.isUnimplemented, 1), (.isUntrustedReserveLocation, 2),
      (.isUntrustedTeleportLocation, 3), (.isMultiLocationFull, 4), (.isMultiLocationNotInvertible, 5),
      (.isBadOrigin, 6), (.isInvalidLocation, 7), (.isAssetNotFound, 8), (.isFailedToTransactAsset, 9),
      (.isNotWithdrawable, 10), (.isLocationCannotHold, 11), (.isExceedsMaxMessageSize, 12),
      (.isDestinationUnsupported, 13), (.isTransport, 14), (.isUnroutable, 15), (.isUnknownClaim, 16),
      (.isFailedToDecode, 17), (.isMaxWeightInvalid, 18), (.isNotHoldingFees, 19), (.isTooExpensive, 20),
      (.isTrap, 21), (.isUnhandledXcmVersion, 22), (.isWeightLimitReached, 23), (.isBarrier, 24),
      (.isWeightNotComputable, 25)]
    fun flag => (field flag).encode

/-- `XCMError.Decode`. -/
def decode : Decoder XCMError :=
  decodeUnion zero
    [(0, .isOverflow), (1, .isUnimplemented), (2, .isUntrustedReserveLocation),
      (3, .isUntrustedTeleportLocation), (4, .isMultiLocationFull), (5, .isMultiLocationNotInvertible),
      (6, .isBadOrigin), (7, .isInvalidLocation), (8, .isAssetNotFound), (9, .isFailedToTransactAsset),
      (10, .isNotWithdrawable), (11, .isLocationCannotHold), (12, .isExceedsMaxMessageSize),
      (13, .isDestinationUnsupported), (14, .isTransport), (15, .isUnroutable), (16, .isUnknownClaim),
      (17, .isFailedToDecode), (18, .isMaxWeightInvalid), (19, .isNotHoldingFees), (20, .isTooExpensive),
      (21, .isTrap), (22, .isUnhandledXcmVersion), (23, .isWeightLimitReached), (24, .isBarrier),
      (25, .isWeightNotComputable)]
    fun flag => (field flag).decode

def Good (flag : Flag) (value : (field flag).Val) : Prop := (field flag).Good value

theorem restores {error : XCMError} (well : error.WellFormed zero Good) :
    Restores (encode error) decode error := by
  refine restores_union (fun flag => ?_) (fun flag payload good => Field.restores good) well
  cases flag <;> exact ⟨_, rfl, rfl⟩

end XCMError

/-- `ExecutionResult`. -/
structure ExecutionResult where
  outcome : UInt32
  error : XCMError
  deriving Inhabited

namespace ExecutionResult

/-- `ExecutionResult.Encode`. -/
def encode (result : ExecutionResult) : Written := writeAll [encodeU32 result.outcome, result.error.encode]

/-- `ExecutionResult.Decode`. -/
def decode : Decoder ExecutionResult := do
  let outcome ← decodeU32 0
  let error ← XCMError.decode
  pure ⟨outcome, error⟩

def WellFormed (result : ExecutionResult) : Prop := result.error.WellFormed XCMError.zero XCMError.Good

theorem restores {result : ExecutionResult} (well : result.WellFormed) :
    Restores result.encode decode result := by
  refine (restores_u32 result.outcome).cons ?_
  exact (XCMError.restores well).cons (restores_nil result)

end ExecutionResult

/-! ## Responses -/

/-- The flags of `Response`. -/
inductive Response.Flag where
  | isNull | isAssets | isExecutionResult | isVersion
  deriving DecidableEq

/-- The payloads of `Response`. -/
def Response.Payload : Response.Flag → Type
  | .isNull => Unit
  | .isAssets => MultiAssetsV1
  | .isExecutionResult => ExecutionResult
  | .isVersion => UInt32

/-- `Response`. -/
abbrev Response : Type := TaggedUnion Response.Flag Response.Payload

namespace Response

/-- The payloads of the zero value. -/
def zero : (flag : Flag) → Payload flag
  | .isNull => ()
  | .isAssets => ([] : MultiAssetsV1)
  | .isExecutionResult => (default : ExecutionResult)
  | .isVersion => (0 : UInt32)

instance : Inhabited Response := ⟨blank zero⟩

def encodePayload : (flag : Flag) → Payload flag → Written
  | .isNull, _ => .ok []
  | .isAssets, multiAssets => MultiAssetsV1.encode multiAssets
  | .isExecutionResult, executionResult => ExecutionResult.encode executionResult
  | .isVersion, version => encodeU32 version

def decodePayload : (flag : Flag) → Decoder (Payload flag)
  | .isNull => pure ()
  | .isAssets => MultiAssetsV1.decode
  | .isExecutionResult => ExecutionResult.decode
  | .isVersion => decodeU32 0

/-- `Response.Encode`. -/
def encode : Response → Written :=
  encodeUnion [(.isNull, 0), (.isAssets, 1), (.isExecutionResult, 2), (.isVersion, 3)] encodePayload

/-- `Response.Decode`. -/
def decode : Decoder Response :=
  decodeUnion zero [(0, .isNull), (1, .isAssets), (2, .isExecutionResult), (3, .isVersion)] decodePayload

def Good : (flag : Flag) → Payload flag → Prop
  | .isAssets, multiAssets => MultiAssetsV1.WellFormed multiAssets
  | .isExecutionResult, executionResult => ExecutionResult.WellFormed executionResult
  | .isNull, _ | .isVersion, _ => True

theorem restores {response : Response} (well : response.WellFormed zero Good) :
    Restores (encode response) decode response := by
  refine restores_union (fun flag => ?_) (fun flag payload good => ?_) well
  · cases flag <;> exact ⟨_, rfl, rfl⟩
  · cases flag with
    | isNull => exact restores_unit payload
    | isAssets => exact MultiAssetsV1.restores good
    | isExecutionResult => exact ExecutionResult.restores good
    | isVersion => exact restores_u32 payload

end Response

end SubstrateClient.Xcm
