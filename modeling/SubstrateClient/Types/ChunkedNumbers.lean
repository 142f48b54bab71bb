import SubstrateClient.Scale.ChunkedCodec
import SubstrateClient.Types.BigInt
import SubstrateClient.Types.ExtrinsicParts

/-!
# Numbers from a reader that delivers chunks

The methods of the wide integers and of `UCompact` ask `Decoder.Read` for several bytes at once and fail on a
chunk that holds less; raw bytes are read one by one.
-/

namespace SubstrateClient.Types

open ByteParser Scale Reading

/-- The types whose methods read from the decoder directly. -/
inductive NumberName where
  | i128 | i256 | u128 | u256 | uCompact | args
  deriving DecidableEq

/-- The methods of these types. -/
@[reducible]
def numberTypes : MethodTypes where
  Name := NumberName
  Carrier
    | .i128 | .i256 | .u128 | .u256 => Option Int
    | .uCompact => UCompact
    | .args => Args
  kind
    | .args => .slice
    | _ => .struct
  zero
    | .i128 | .i256 | .u128 | .u256 => (none : Option Int)
    | .uCompact => (0 : Int)
    | .args => ([] : List UInt8)
  holder
    | .i128, _ | .i256, _ | .u128, _ | .u256, _ => (none : Option Int)
    | .uCompact, _ => (0 : Int)
    | .args, target => List.replicate (List.length (α := UInt8) target) (0 : UInt8)
  encode
    | .i128 => I128.encode
    | .i256 => I256.encode
    | .u128 => U128.encode
    | .u256 => U256.encode
    | .uCompact => UCompact.encode
    | .args => Args.encode
  decode
    | .i128 => fun _ => I128.decode
    | .i256 => fun _ => I256.decode
    | .u128 => fun _ => U128.decode
    | .u256 => fun _ => U256.decode
    | .uCompact => fun _ => UCompact.decode
    | .args => Args.decode

/-- The `Decode` methods of the wide integers, given how the bytes are converted. -/
def readBigNumber (convert : List UInt8 → Outcome GoError Int) (bytelen : Nat) : ChunkedDecoder (Option Int) := do
  let bytes ← readBuffer bytelen
  let value ← .done (convert bytes.reverse)
  if value = 0 then pure (some 0) else pure (some value)

/-- `UCompact.Decode`. -/
def readUCompact : ChunkedDecoder UCompact := do
  let number ← readUintCompact
  pure (number : Int)

/-- `Args.Decode`. -/
def readArgs (target : Args) : ChunkedDecoder Args :=
  .readAll fun bytes => pure (Args.decodeLoop target 0 bytes)

section BigNumber

variable {bytelen : Nat} (several : 1 < bytelen)
include several

theorem inMemory_readBigNumber (convert : List UInt8 → Outcome GoError Int) :
    (readBigNumber convert bytelen).inMemory =
      Scale.read bytelen >>= fun bytes => ofOutcome (convert bytes.reverse) >>= fun value =>
        if value = 0 then pure (some 0) else pure (some value) := by
  rw [readBigNumber, inMemory_bind, inMemory_readBuffer (Nat.zero_lt_of_lt several)]
  congr 1
  funext bytes
  rw [inMemory_bind]
  congr 1
  funext value
  split_ifs <;> rfl

theorem strict_readBigNumber (convert : List UInt8 → Outcome GoError Int) :
    (readBigNumber convert bytelen).Strict := by
  refine (strict_readBuffer (Nat.zero_lt_of_lt several)).bind fun bytes => ?_
  have conversion : Strict (.done (convert bytes.reverse)) := trivial
  refine conversion.bind fun value => ?_
  split_ifs <;> exact strict_pure _

/-- The bytes are asked for at once. -/
theorem narrow_readBigNumber (convert : List UInt8 → Outcome GoError Int) (input : List UInt8) :
    (readBigNumber convert bytelen).Narrow input ↔ ¬ input ≠ [] := by
  rw [readBigNumber, narrow_bind, narrow_readBuffer several, not_not]
  refine and_iff_left fun bytes rest _ => narrow_bind.mpr ⟨trivial, fun value rest _ => ?_⟩
  split_ifs <;> trivial

end BigNumber

/-- The methods as programs. -/
def numberReadings : MethodReadings numberTypes where
  reading
    | .i128, _ => readBigNumber intBytesToBigInt 16
    | .i256, _ => readBigNumber intBytesToBigInt 32
    | .u128, _ => readBigNumber uintBytesToBigInt 16
    | .u256, _ => readBigNumber uintBytesToBigInt 32
    | .uCompact, _ => readUCompact
    | .args, target => readArgs target
  inMemory_reading
    | .i128, _ => inMemory_readBigNumber (show 1 < 16 by norm_num) intBytesToBigInt
    | .i256, _ => inMemory_readBigNumber (show 1 < 32 by norm_num) intBytesToBigInt
    | .u128, _ => inMemory_readBigNumber (show 1 < 16 by norm_num) uintBytesToBigInt
    | .u256, _ => inMemory_readBigNumber (show 1 < 32 by norm_num) uintBytesToBigInt
    | .uCompact, _ => by
        change readUCompact.inMemory = UCompact.decode
        rw [readUCompact, inMemory_bind, inMemory_readUintCompact]
        rfl
    | .args, _ => rfl
  strict_reading
    | .i128, _ | .u128, _ => strict_readBigNumber (by norm_num) _
    | .i256, _ | .u256, _ => strict_readBigNumber (by norm_num) _
    | .uCompact, _ => strict_readUintCompact.bind fun _ => strict_pure _
    | .args, _ => fun _ => strict_pure _
  wide
    | .i128, _, input | .i256, _, input | .u128, _, input | .u256, _, input => input ≠ []
    | .uCompact, _, input => WideCompact input
    | .args, _, _ => False
  narrow_reading
    | .i128, _, input | .u128, _, input => narrow_readBigNumber (by norm_num) _ input
    | .i256, _, input | .u256, _, input => narrow_readBigNumber (by norm_num) _ input
    | .uCompact, _, input => narrow_bind_pure.trans (narrow_readUintCompact input)
    | .args, _, _ => iff_of_true trivial id

/-- The compact integer of four bytes is read from memory, and not byte by byte. -/
theorem compact_not_robust :
    ((GoType.method .uCompact : GoType numberTypes).reading numberReadings (0 : Int)).run .memory [2, 0, 1, 0] =
        .ok ((16384 : Int), []) ∧
      ¬ (((GoType.method .uCompact : GoType numberTypes).reading numberReadings (0 : Int)).run .bytewise
        [2, 0, 1, 0]).Succeeds ∧
      ¬ ∀ (type : GoType numberTypes) (target : type.Val) (bytes : List UInt8),
        (type.reading numberReadings target).Robust bytes := by
  have whole : ((GoType.method .uCompact : GoType numberTypes).reading numberReadings (0 : Int)).run .memory
      [2, 0, 1, 0] = .ok ((16384 : Int), []) := rfl
  have bytewise : ¬ (((GoType.method .uCompact : GoType numberTypes).reading numberReadings (0 : Int)).run
      .bytewise [2, 0, 1, 0]).Succeeds := Outcome.not_succeeds_error _
  refine ⟨whole, bytewise, fun robust => ?_⟩
  rcases robust (.method .uCompact) (0 : Int) [2, 0, 1, 0] .memory .bytewise [2, 0, 1, 0] [2, 0, 1, 0] rfl rfl with
    ⟨_, _, _, _, run⟩ | ⟨fails, -⟩
  · exact bytewise ⟨_, run⟩
  · exact fails ⟨_, whole⟩

end SubstrateClient.Types
