import SubstrateClient.Registry.EventTargets

/-!
# Machine integers made of decoded compact integers

A compact integer has up to 536 bits.  Every place that counts with one goes on with its low 64 bits
or fewer; only the length of a slice is compared with a limit, and after the cut.
-/

namespace SubstrateClient.Types

open ByteParser Scale

/-- `types.BlockNumber`. -/
abbrev BlockNumber : Type := UInt32

namespace BlockNumber

/-- `BlockNumber.Encode`. -/
def encode (number : BlockNumber) : Written := encodeUintCompact number.toNat

/-- `BlockNumber.Decode`: the conversion keeps the low 32 bits of the low 64 bits. -/
def decode : Decoder BlockNumber := do
  let number ← decodeUintCompact
  pure (UInt64.ofNat number).toUInt32

end BlockNumber

end SubstrateClient.Types

namespace SubstrateClient.Scale.UCompact

/-- `UCompact.Int64`: the low 64 bits in two's complement. -/
def int64 (value : UCompact) : Int64 := Int64.ofInt value

/-- `UCompact.MarshalJSON`. -/
def marshalJSON (value : UCompact) : Outcome GoError String :=
  .ok (toString value.int64.toInt)

end SubstrateClient.Scale.UCompact

namespace SubstrateClient.Registry

open ByteParser Scale SubstrateClient.Types
open MetadataFormat (Metadata)

/-- The places that make a machine integer of a decoded compact integer. -/
inductive NarrowingPlace where
  /-- The length of a slice or a string in `DecodeIntoReflectValue`. -/
  | reflectLength
  /-- The length in `SliceDecoder.Decode`. -/
  | sliceDecoder
  /-- The number of events in `ParseEvents`. -/
  | parseEvents
  /-- The number of events in `DecodeEventRecords`. -/
  | decodeEventRecords
  /-- `BlockNumber.Decode`. -/
  | blockNumber
  /-- `UCompact.MarshalJSON`. -/
  | marshalJSON

/-- The items of a slice of the given length in `DecodeIntoReflectValue`. -/
def fillSlice {α : Type} (zero : α) (decodeItem : α → Decoder α) (target : GoSlice α) (length : Nat) :
    Decoder (GoSlice α) := do
  let resized := target.resize zero length
  let elems ← resized.elems.mapM decodeItem
  pure ⟨elems, resized.spare⟩

namespace NarrowingPlace

/-- The machine integer a place goes on with, or the error it returns instead. -/
def machineValue : NarrowingPlace → Nat → Outcome GoError Int
  | reflectLength, number =>
      if maxUint32 < number % 2 ^ 64 then
        .error (.text ("Encoded array length is higher than allowed by the protocol " ++
          "(32-bit unsigned integer)"))
      else if maxInt < number % 2 ^ 64 then
        .error (.text "Encoded array length is higher than allowed by the platform")
      else
        .ok (number % 2 ^ 64 : Nat)
  | sliceDecoder, number | parseEvents, number | decodeEventRecords, number =>
      .ok (number % 2 ^ 64 : Nat)
  | blockNumber, number => .ok (number % 2 ^ 64 % 2 ^ 32 : Nat)
  | marshalJSON, number => .ok (Int64.ofInt number).toInt

/-- The modelled function at a place goes on with the machine integer, whatever its other arguments
and the bytes after the compact integer are. -/
def Uses (number : Nat) : NarrowingPlace → Prop
  | reflectLength =>
      (∀ (α : Type) (zero : α) (decodeItem : α → Decoder α) (target : GoSlice α) (rest : List UInt8),
        Scale.decodeSlice ampleMemory zero decodeItem target (compactBytes number ++ rest) =
          reflectLength.machineValue number >>= fun length =>
            fillSlice zero decodeItem target length.toNat rest) ∧
      ∀ (types : MethodTypes) (target rest : List UInt8),
        (GoType.string : GoType types).decode target (compactBytes number ++ rest) =
          reflectLength.machineValue number >>= fun length =>
            (GoSlice.elems <$> fillSlice 0 decodeByte ⟨[], []⟩ length.toNat) rest
  | sliceDecoder => ∀ (cells : Cells) (fuel : Nat) (item : FieldDecoder) (rest : List UInt8),
      item.isNil = false →
        FieldDecoder.decode cells (fuel + 1) (.slice item) (compactBytes number ++ rest) =
          sliceDecoder.machineValue number >>= fun count =>
            FieldDecoder.decodeItems
              ((item.decode cells fuel).mapError (.wrap errSliceItemDecoding)) count.toNat rest
  | parseEvents => ∀ (cells : Cells) (eventRegistry : TypeRegistry EventID) (fuel : Nat)
      (rest : List UInt8),
      Registry.parseEvents cells eventRegistry fuel (compactBytes number ++ rest) =
        parseEvents.machineValue number >>= fun count =>
          Prod.fst <$> parseEventLoop cells eventRegistry fuel 0 count.toNat rest
  | decodeEventRecords => ∀ (types : MethodTypes) (room : String → Nat → Nat) (m : Metadata)
      (fieldByName : String → Option (TargetField types)) (slices : EventSlices types)
      (rest : List UInt8), ∃ count, decodeEventRecords.machineValue number = .ok count ∧
        EventRecordsRaw.decodeEventRecords room (compactBytes number ++ rest) m (.struct fieldByName)
            slices =
          ((decodeEventLoop m fieldByName room 0 count.toNat slices rest).1,
            (fun _ => ()) <$> (decodeEventLoop m fieldByName room 0 count.toNat slices rest).2)
  | blockNumber => ∀ rest : List UInt8, ∃ decoded : BlockNumber,
      BlockNumber.decode (compactBytes number ++ rest) = .ok (decoded, rest) ∧
        blockNumber.machineValue number = .ok decoded.toNat
  | marshalJSON => ∀ rest : List UInt8, ∃ decoded : UCompact,
      UCompact.decode (compactBytes number ++ rest) = .ok (decoded, rest) ∧
        decoded.marshalJSON = marshalJSON.machineValue number >>= fun value => .ok (toString value)

/-- The machine integer is the decoded number, or an error is returned. -/
def Exact (place : NarrowingPlace) (number : Nat) : Prop :=
  place.machineValue number = .ok (number : Int) ∨ ∃ reason, place.machineValue number = .error reason

/-- The numbers a place converts without loss or refuses. -/
def Admits : NarrowingPlace → Nat → Prop
  | reflectLength, number => number < 2 ^ 64 ∨ 2 ^ 32 ≤ number % 2 ^ 64
  | sliceDecoder, number | parseEvents, number | decodeEventRecords, number => number < 2 ^ 64
  | blockNumber, number => number < 2 ^ 32
  | marshalJSON, number => number < 2 ^ 63

theorem uses {number : Nat} (number_lt : number < 2 ^ 536) (place : NarrowingPlace) :
    place.Uses number := by
  have reads := reads_compactBytes number_lt
  cases place with
  | reflectLength =>
      have slices : ∀ (α : Type) (zero : α) (decodeItem : α → Decoder α) (target : GoSlice α)
          (rest : List UInt8), Scale.decodeSlice ampleMemory zero decodeItem target (compactBytes number ++ rest) =
            reflectLength.machineValue number >>= fun length =>
              fillSlice zero decodeItem target length.toNat rest := by
        intro α zero decodeItem target rest
        rw [Scale.decodeSlice, reads rest]
        simp only [Scale.decodeItems, machineValue]
        split_ifs with large beyond refused
        · rfl
        · rfl
        · rw [ampleMemory_of_le (not_lt.mp large)] at refused
          cases refused.2
        · rfl
      refine ⟨slices, fun types target rest => ?_⟩
      have whole := slices UInt8 0 decodeByte ⟨[], []⟩ rest
      change Scale.decodeSlice ampleMemory 0 decodeByte ⟨[], []⟩ (compactBytes number ++ rest) >>= _ = _
      simp only [whole, bind_assoc, map_apply]
      rfl
  | sliceDecoder =>
      intro cells fuel item rest present
      rw [FieldDecoder.decode_slice, present, if_neg Bool.false_ne_true, FieldDecoder.decodeSlice,
        bind_apply, mapError_apply, reads rest]
      rfl
  | parseEvents =>
      intro cells eventRegistry fuel rest
      rw [Registry.parseEvents, readEvents, bind_apply, mapError_apply, reads rest]
      simp only [machineValue, Outcome.mapError_ok, Outcome.ok_bind, Int.toNat_natCast,
        map_eq_pure_bind]
  | decodeEventRecords =>
      intro types room m fieldByName slices rest
      refine ⟨(number % 2 ^ 64 : Nat), rfl, ?_⟩
      rw [EventRecordsRaw.decodeEventRecords, reads rest]
      rfl
  | blockNumber =>
      intro rest
      refine ⟨(UInt64.ofNat number).toUInt32, ?_, ?_⟩
      · rw [BlockNumber.decode, bind_apply, reads rest]
        rfl
      · rw [machineValue, UInt64.toNat_toUInt32, UInt64.toNat_ofNat']
  | marshalJSON =>
      intro rest
      refine ⟨(number : Int), ?_, rfl⟩
      rw [UCompact.decode, bind_apply, reads rest]
      rfl

theorem cut_exact_iff {number modulus : Nat} (modulus_pos : 0 < modulus) :
    ((Outcome.ok ((number % modulus : Nat) : Int) : Outcome GoError Int) = .ok (number : Int) ∨
        ∃ reason, (Outcome.ok ((number % modulus : Nat) : Int) : Outcome GoError Int) = .error reason) ↔
      number < modulus := by
  simp only [Outcome.ok.injEq, Int.natCast_inj, reduceCtorEq, exists_false, or_false]
  exact Nat.mod_eq_iff_lt (by omega)

theorem reflectLength_exact_iff (number : Nat) :
    reflectLength.Exact number ↔ reflectLength.Admits number := by
  rw [Exact, Admits, machineValue, maxUint32, maxInt]
  by_cases large : 2 ^ 32 - 1 < number % 2 ^ 64
  · rw [if_pos large]
    exact ⟨fun _ => .inr (by omega), fun _ => .inr ⟨_, rfl⟩⟩
  · rw [if_neg large, if_neg (by omega), cut_exact_iff (by norm_num)]
    omega

theorem marshalJSON_exact_iff (number : Nat) :
    marshalJSON.Exact number ↔ marshalJSON.Admits number := by
  simp only [Exact, Admits, machineValue, Outcome.ok.injEq, reduceCtorEq, exists_false, or_false]
  have size : ((Int64.size : Nat) : Int) = 2 ^ 64 := rfl
  have nonneg : (0 : Int) ≤ number := Int.natCast_nonneg number
  rw [Int64.toInt_ofInt, Int.bmod_def, size]
  split_ifs <;> omega

/-- A place uses the decoded number or returns an error exactly for the numbers it admits. -/
theorem exact_iff_admits {number : Nat} (number_lt : number < 2 ^ 536) (place : NarrowingPlace) :
    place.Uses number ∧ (place.Exact number ↔ place.Admits number) := by
  refine ⟨uses number_lt place, ?_⟩
  cases place with
  | reflectLength => exact reflectLength_exact_iff number
  | sliceDecoder | parseEvents | decodeEventRecords => exact cut_exact_iff (by norm_num)
  | blockNumber =>
      rw [Exact, machineValue, Nat.mod_mod_of_dvd number (by norm_num : 2 ^ 32 ∣ 2 ^ 64)]
      exact cut_exact_iff (by norm_num)
  | marshalJSON => exact marshalJSON_exact_iff number

theorem exact_iff_admits_five :
    blockNumber.Uses 5 ∧ (blockNumber.Exact 5 ↔ blockNumber.Admits 5) ∧ blockNumber.Admits 5 := by
  have here := exact_iff_admits (lt_compact_bound (by norm_num : 5 < 2 ^ 64)) blockNumber
  exact ⟨here.1, here.2, by norm_num [Admits]⟩

/-- A slice whose length prefix stands for `2 ^ 64` is taken for an empty one. -/
theorem reflectLength_wraps :
    (2 : Nat) ^ 64 < 2 ^ 536 ∧ compactBytes (2 ^ 64) = [0x17, 0, 0, 0, 0, 0, 0, 0, 0, 1] ∧
      ¬ reflectLength.Exact (2 ^ 64) := by
  refine ⟨Nat.pow_lt_pow_right (by norm_num) (by norm_num), ?_, ?_⟩
  · decide
  · rw [reflectLength_exact_iff]
    norm_num [Admits]

end NarrowingPlace

end SubstrateClient.Registry
