import SubstrateClient.Scale.InPlace
import SubstrateClient.Types.ExtrinsicParts

/-!
# Raw bytes and what their targets held

Five byte slices read to the end of the input.  The codec hands their `Decode` methods a slice of zeros as long
as the old contents, and the first byte that is read cuts it down to nothing; with no byte left to read, the
zeros stay.
-/

namespace SubstrateClient.Types

open ByteParser Scale

/-- The byte slices without a length in front. -/
inductive RawName where
  | args | data | storageKey | storageDataRaw | eventRecordsRaw
  deriving DecidableEq

/-- `Data.Decode`. -/
def Data.decode (target : List UInt8) : Decoder (List UInt8) := Args.decode target

/-- `StorageKey.Decode`. -/
def StorageKey.decode (target : List UInt8) : Decoder (List UInt8) := Args.decode target

/-- `StorageDataRaw.Decode`. -/
def StorageDataRaw.decode (target : List UInt8) : Decoder (List UInt8) := Args.decode target

/-- `EventRecordsRaw.Decode`. -/
def EventRecordsRaw.decode (target : List UInt8) : Decoder (List UInt8) := Args.decode target

/-- The methods of the byte slices. -/
@[reducible]
def rawTypes : MethodTypes where
  Name := RawName
  Carrier := fun _ => List UInt8
  kind := fun _ => .slice
  zero := fun _ => []
  holder := fun _ target => List.replicate target.length 0
  encode := fun _ bytes => Args.encode bytes
  decode
    | .args => Args.decode
    | .data => Data.decode
    | .storageKey => StorageKey.decode
    | .storageDataRaw => StorageDataRaw.decode
    | .eventRecordsRaw => EventRecordsRaw.decode

/-- Nothing is left to read, and the targets held slices of different lengths. -/
def rawStale (_ : RawName) (first second : List UInt8) (input : List UInt8) : Prop :=
  input = [] ∧ first.length ≠ second.length

/-- The first byte that is read cuts the receiver down. -/
theorem decodeLoop_zero_cons (target : List UInt8) (byte : UInt8) (input : List UInt8) :
    Args.decodeLoop target 0 (byte :: input) = byte :: input :=
  Args.decodeLoop_eq input [byte]

theorem rawTypes_decode (name : RawName) (target input : List UInt8) :
    rawTypes.decode name target input = .ok (Args.decodeLoop target 0 input, []) := by
  cases name <;> rfl

theorem rawTypes_tracesAt : rawTypes.TracesAt rawStale := by
  intro name first second input
  rw [rawTypes_decode, rawTypes_decode]
  refine alike_pure ?_
  cases input with
  | nil => simp [Args.decodeLoop, rawStale, List.replicate_inj]
  | cons byte input => simp [decodeLoop_zero_cons, rawStale]

/-- A struct of a byte and raw bytes. -/
def byteThenRaw : GoType rawTypes :=
  .struct (.cons .plain (.num .u8) (.cons .plain (.method .args) .nil))

/-- A struct that holds a zero and raw bytes. -/
def rawTarget (bytes : List UInt8) : Target rawTypes :=
  ⟨⟨fun address => if address = 1 then .method .args bytes else .num 0, 2⟩, 0⟩

theorem separate_rawTarget (bytes : List UInt8) : byteThenRaw.Separate (rawTarget bytes) :=
  ⟨(by decide : [0, 1].Nodup), (by decide : ∀ address ∈ [0, 1], address < 2)⟩

/-- Raw bytes on their own. -/
def argsTarget (bytes : List UInt8) : Target rawTypes := ⟨⟨fun _ => .method .args bytes, 1⟩, 0⟩

/-- Slices of bytes. -/
def byteSlices : GoType rawTypes := .slice (.slice (.num .u8))

/-- Two slices of bytes that share one array: `buf[0:1:4]` and `buf[1:2:4]`. -/
def sharedTarget : Target rawTypes where
  memory := ⟨fun
    | 0 => .slice ⟨1, 2, 2, le_rfl⟩
    | 1 => .slice ⟨3, 1, 4, Nat.le_add_right 1 3⟩
    | 2 => .slice ⟨4, 1, 3, Nat.le_add_right 1 2⟩
    | _ => .num 0, 7⟩
  address := 0

/-- A slice of slices that is nil. -/
def nilTarget : Target rawTypes := ⟨⟨fun _ => .blank, 1⟩, 0⟩

-- The second slice is written to where the first one has its second byte.
example :
    ∃ shared fresh rest,
      byteSlices.decodeInto sharedTarget [0x08, 0x0c, 1, 2, 3, 0x04, 9] = .ok (shared, rest) ∧
      byteSlices.decodeInto nilTarget [0x08, 0x0c, 1, 2, 3, 0x04, 9] = .ok (fresh, rest) ∧
      (GoSlice.elems (byteSlices.contents shared)).map GoSlice.elems = ([[1, 9, 3], [9]] : List (List UInt8)) ∧
      (GoSlice.elems (byteSlices.contents fresh)).map GoSlice.elems = ([[1, 2, 3], [9]] : List (List UInt8)) :=
  ⟨_, _, _, rfl, rfl, rfl, rfl⟩

end SubstrateClient.Types
