import SubstrateClient.PresenceBits
import SubstrateClient.SliceStore
import SubstrateClient.Types.ZeroValues

/-!
# Signed BEEFY commitments

A signed commitment has one optional signature for every validator.  Its compact form keeps the
signatures that are present and the bits that say where they belong.
-/

namespace SubstrateClient.Types

open ByteParser Scale

/-! ## Commitments -/

/-- `PayloadItem`. -/
structure PayloadItem where
  id : List.Vector UInt8 2
  data : List UInt8
  deriving Inhabited

/-- `Commitment`. -/
structure Commitment where
  payload : List PayloadItem
  blockNumber : UInt32
  validatorSetID : UInt64

/-- `BeefySignature`. -/
abbrev BeefySignature : Type := List.Vector UInt8 65

/-- `OptionBeefySignature`. -/
structure OptionBeefySignature where
  hasValue : Bool
  value : BeefySignature

/-- `NewOptionBeefySignature`. -/
def newOptionBeefySignature (value : BeefySignature) : OptionBeefySignature := ⟨true, value⟩

/-- `NewOptionBeefySignatureEmpty`. -/
def newOptionBeefySignatureEmpty : OptionBeefySignature := ⟨false, zeroBytes 65⟩

/-- `SignedCommitment`. -/
structure SignedCommitment where
  commitment : Commitment
  signatures : List OptionBeefySignature

/-- `CompactSignedCommitment`. -/
structure CompactSignedCommitment where
  commitment : Commitment
  signaturesFrom : List UInt8
  validatorSetLen : UInt32
  signaturesCompact : List BeefySignature

/-- `Encode` of a payload item. -/
def PayloadItem.encode (item : PayloadItem) : Written :=
  encodeStruct [encodeArray item.id, encodeBytes item.data]

/-- `Decode` of a payload item. -/
def PayloadItem.decode : Decoder PayloadItem := do
  let id ← decodeField (decodeArray (zeroBytes 2))
  let data ← decodeField (decodeBytes [])
  pure ⟨id, data⟩

/-- `Encode` of a commitment. -/
def Commitment.encode (commitment : Commitment) : Written :=
  encodeStruct [encodeSlice PayloadItem.encode commitment.payload, encodeU32 commitment.blockNumber,
    encodeU64 commitment.validatorSetID]

/-- `Decode` of a commitment. -/
def Commitment.decode : Decoder Commitment := do
  let payload ← decodeField (decodeList PayloadItem.decode)
  let blockNumber ← decodeField (decodeU32 0)
  let validatorSetID ← decodeField decodeU64
  pure ⟨payload, blockNumber, validatorSetID⟩

/-- `Encode` of the compact form. -/
def CompactSignedCommitment.encode (compact : CompactSignedCommitment) : Written :=
  encodeStruct [compact.commitment.encode, encodeBytes compact.signaturesFrom,
    encodeU32 compact.validatorSetLen, encodeSlice encodeArray compact.signaturesCompact]

/-- `Decode` of the compact form. -/
def CompactSignedCommitment.decode : Decoder CompactSignedCommitment := do
  let commitment ← decodeField Commitment.decode
  let signaturesFrom ← decodeField (decodeBytes [])
  let validatorSetLen ← decodeField (decodeU32 0)
  let signaturesCompact ← decodeField (decodeList (decodeArray (zeroBytes 65)))
  pure ⟨commitment, signaturesFrom, validatorSetLen, signaturesCompact⟩

/-! ## Packing and unpacking the bits -/

/-- `containerBitSize`. -/
def containerBitSize : Nat := 8

/-- `makeChunks`: one chunk for every start below the length, the last one cut off at the length. -/
def makeChunks (slice : List UInt8) (chunkSize : Nat) : List (List UInt8) :=
  (List.range ((slice.length + (chunkSize - 1)) / chunkSize)).map fun i =>
    (slice.drop (i * chunkSize)).take chunkSize

/-- An index into a slice. -/
def indexBytes (slice : List UInt8) (i : Nat) : Outcome GoError UInt8 :=
  match slice[i]? with
  | some byte => .ok byte
  | none => .panic

/-- The inner loop of `SignedCommitment.Encode`: the bits of a chunk in one byte. -/
def packChunk (chunk : List UInt8) : Outcome GoError UInt8 := do
  let first ← indexBytes chunk 0
  (List.range (containerBitSize - 1)).foldlM (fun acc i => do
    let bit ← indexBytes chunk (i + 1)
    pure ((acc <<< 1) ||| bit)) first

/-- The inner loop of `SignedCommitment.Decode`: the bits of a block, most significant first. -/
def blockBits (block : UInt8) : List UInt8 :=
  (List.range containerBitSize).map fun bit =>
    (block >>> UInt8.ofNat (containerBitSize - bit - 1)) &&& 1

/-! ## The methods of signed commitments -/

/-- The loop over the bits in `SignedCommitment.Decode`, with the index of the next signature. -/
def pickSignatures (signaturesCompact : List BeefySignature) :
    Nat → List UInt8 → Outcome GoError (List OptionBeefySignature)
  | _, [] => .ok []
  | sigIndex, bit :: bits =>
      if bit = 1 then
        match signaturesCompact[sigIndex]? with
        | none => .panic
        | some signature => do
            let later ← pickSignatures signaturesCompact (sigIndex + 1) bits
            pure (newOptionBeefySignature signature :: later)
      else do
        let later ← pickSignatures signaturesCompact sigIndex bits
        pure (newOptionBeefySignatureEmpty :: later)

namespace CompactSignedCommitment

/-- The slice `bits`, after all appends. -/
def bitStore (room : Nat → Nat) (compact : CompactSignedCommitment) : SliceStore Unit UInt8 :=
  (SliceStore.fresh 0).appendAll (fun _ => room)
    ((compact.signaturesFrom.flatMap blockBits).map fun bit => ((), bit))

/-- What `SignedCommitment.Decode` does with the compact form.  How far the capacity of a slice exceeds
its length when `append` moves it is up to the runtime: `room` gives it for every length. -/
def expand (room : Nat → Nat) (compact : CompactSignedCommitment) : Outcome GoError SignedCommitment :=
  match (compact.bitStore room).reslice () compact.validatorSetLen.toNat with
  | none => .panic
  | some bits => do
      let signatures ← pickSignatures compact.signaturesCompact 0 (bits.elements ())
      pure ⟨compact.commitment, signatures⟩

end CompactSignedCommitment

namespace SignedCommitment

/-- `SignedCommitment.Decode`. -/
def decode (room : Nat → Nat) : Decoder SignedCommitment := do
  let compact ← CompactSignedCommitment.decode
  ofOutcome (compact.expand room)

/-- The bits of the signatures, before they are filled up. -/
def presence (signatures : List OptionBeefySignature) : List UInt8 :=
  signatures.map fun optionSig => if optionSig.hasValue then 1 else 0

/-- The signatures that are present. -/
def present (signatures : List OptionBeefySignature) : List BeefySignature :=
  signatures.filterMap fun optionSig => if optionSig.hasValue then some optionSig.value else none

/-- The compact form that `SignedCommitment.Encode` makes. -/
def compact (s : SignedCommitment) : Outcome GoError CompactSignedCommitment := do
  let validatorSetLen := s.signatures.length
  let excessBitsLen := containerBitSize - validatorSetLen % containerBitSize
  let bits := presence s.signatures ++ List.replicate excessBitsLen 0
  let signaturesFrom ← (makeChunks bits containerBitSize).mapM packChunk
  pure ⟨s.commitment, signaturesFrom, UInt32.ofNat validatorSetLen, present s.signatures⟩

/-- `SignedCommitment.Encode`. -/
def encode (s : SignedCommitment) : Written := do
  let compact ← s.compact
  compact.encode

end SignedCommitment

/-! ## Bits as bytes -/

/-- A bit as the code keeps it. -/
def bitByte (bit : Bool) : UInt8 := if bit then 1 else 0

theorem bitByte_eq_ofNat (bit : Bool) : bitByte bit = UInt8.ofNat bit.toNat := by
  cases bit <;> rfl

/-- One step of the packing: a bit is put behind the bits before it. -/
theorem shift_or_bitByte {number : Nat} (small : number < 128) (bit : Bool) :
    (UInt8.ofNat number <<< 1) ||| bitByte bit = UInt8.ofNat (2 * number + bit.toNat) := by
  have bit_small := Bool.toNat_lt bit
  have shifted : number <<< 1 = 2 * number := by
    rw [Nat.shiftLeft_eq, pow_one, Nat.mul_comm]
  apply UInt8.toNat_inj.mp
  calc
    ((UInt8.ofNat number <<< 1) ||| bitByte bit).toNat = number <<< 1 ||| bit.toNat := by
      rw [bitByte_eq_ofNat, UInt8.toNat_or, UInt8.toNat_shiftLeft]
      simp only [UInt8.toNat_ofNat', UInt8.reduceToNat]
      rw [Nat.mod_eq_of_lt (show number < 2 ^ 8 by omega),
        Nat.mod_eq_of_lt (show bit.toNat < 2 ^ 8 by omega), show 1 % 8 = 1 from rfl, shifted,
        Nat.mod_eq_of_lt (show 2 * number < 2 ^ 8 by omega)]
    _ = 2 * number + bit.toNat := by
      rw [← Nat.shiftLeft_add_eq_or_of_lt (by omega), shifted]
    _ = (UInt8.ofNat (2 * number + bit.toNat)).toNat := by
      rw [UInt8.toNat_ofNat', Nat.mod_eq_of_lt (by omega)]

/-- One step of the unpacking: a bit of the number. -/
theorem shift_and_one (block : UInt8) {place : Nat} (inside : place < 8) :
    (block >>> UInt8.ofNat place) &&& 1 = bitByte (block.toNat.testBit place) := by
  apply UInt8.toNat_inj.mp
  rw [bitByte_eq_ofNat, UInt8.toNat_and, UInt8.toNat_shiftRight, Nat.testBit_eq_decide_div_mod_eq]
  simp only [UInt8.toNat_ofNat', UInt8.reduceToNat, Nat.and_one_is_mod]
  rw [Nat.mod_eq_of_lt (show place < 2 ^ 8 by omega), Nat.mod_eq_of_lt inside, Nat.shiftRight_eq_div_pow]
  rcases Nat.mod_two_eq_zero_or_one (block.toNat / 2 ^ place) with bit | bit <;> simp [bit]

/-- The bits of a block are those of its number. -/
theorem blockBits_eq (block : UInt8) :
    blockBits block = (PresenceBits.bitsOf 8 block.toNat).map bitByte := by
  rw [blockBits, PresenceBits.bitsOf, List.map_map]
  refine List.map_congr_left fun bit inside => ?_
  have inside : bit < 8 := List.mem_range.mp inside
  rw [show containerBitSize - bit - 1 = 8 - 1 - bit by unfold containerBitSize; omega,
    shift_and_one block (by omega)]
  rfl

theorem indexBytes_bits {bits : List Bool} {i : Nat} (inside : i < bits.length) :
    indexBytes (bits.map bitByte) i = .ok (bitByte bits[i]) := by
  simp [indexBytes, inside]

/-- The loop over a chunk collects its bits in one number. -/
theorem foldlM_pack {bits : List Bool} (short : bits.length ≤ 8) (first : Bool) (count : Nat)
    (inside : count < bits.length) (head : bits.take 1 = [first]) :
    (List.range count).foldlM (fun acc i => do
      let bit ← indexBytes (bits.map bitByte) (i + 1)
      pure ((acc <<< 1) ||| bit)) (bitByte first) =
      .ok (UInt8.ofNat (PresenceBits.value (bits.take (count + 1)))) := by
  induction count with
  | zero =>
      rw [head, bitByte_eq_ofNat]
      simp [PresenceBits.value]
  | succ count ih =>
      have collected : PresenceBits.value (bits.take (count + 1)) < 128 := by
        have bound := PresenceBits.value_lt (bits.take (count + 1))
        have small : 2 ^ (bits.take (count + 1)).length ≤ 2 ^ 7 :=
          Nat.pow_le_pow_right (by omega) (by rw [List.length_take]; omega)
        omega
      rw [List.range_succ, List.foldlM_append, ih (by omega), Outcome.ok_bind, List.foldlM_cons,
        indexBytes_bits inside, Outcome.ok_bind, Outcome.pure_eq, Outcome.ok_bind, List.foldlM_nil,
        shift_or_bitByte collected, List.take_succ_eq_append_getElem inside,
        PresenceBits.value_append_singleton, Outcome.pure_eq]

/-- A full chunk is packed into the number of its bits. -/
theorem packChunk_eq {bits : List Bool} (full : bits.length = 8) :
    packChunk (bits.map bitByte) = .ok (UInt8.ofNat (PresenceBits.value bits)) := by
  have head : bits.take 1 = [bits[0]] := by
    rw [List.take_succ_eq_append_getElem (by omega), List.take_zero, List.nil_append]
  rw [packChunk, indexBytes_bits (by omega), Outcome.ok_bind,
    foldlM_pack (by omega) bits[0] (containerBitSize - 1) (by unfold containerBitSize; omega) head,
    List.take_of_length_le (by unfold containerBitSize; omega)]

/-- A packed chunk has the bits it was made of. -/
theorem bitsOf_packed {bits : List Bool} (full : bits.length = 8) :
    PresenceBits.bitsOf containerBitSize (UInt8.ofNat (PresenceBits.value bits)).toNat = bits := by
  have bound := PresenceBits.value_lt bits
  have bits_again := PresenceBits.bitsOf_value bits
  rw [full] at bound bits_again
  rwa [UInt8.toNat_ofNat', Nat.mod_eq_of_lt bound]

/-- The first chunk, and the chunks of the rest. -/
theorem makeChunks_append {chunk rest : List UInt8} {chunkSize : Nat} (positive : 0 < chunkSize)
    (full : chunk.length = chunkSize) :
    makeChunks (chunk ++ rest) chunkSize = chunk :: makeChunks rest chunkSize := by
  have count : ((chunk ++ rest).length + (chunkSize - 1)) / chunkSize =
      (rest.length + (chunkSize - 1)) / chunkSize + 1 := by
    rw [List.length_append, full, show chunkSize + rest.length + (chunkSize - 1) =
      rest.length + (chunkSize - 1) + chunkSize by omega, Nat.add_div_right _ positive]
  rw [makeChunks, count, List.range_succ_eq_map, List.map_cons, List.map_map, makeChunks]
  congr 1
  · rw [Nat.zero_mul, List.drop_zero, ← full, List.take_left]
  · refine List.map_congr_left fun i _ => ?_
    rw [Function.comp_apply, Nat.succ_mul, Nat.add_comm, ← List.drop_drop, ← full, List.drop_left]

/-- Bits that fill whole blocks are packed and unpacked again. -/
theorem pack_unpack {blocks : Nat} {bits : List Bool} (full : bits.length = 8 * blocks) :
    ∃ packed, (makeChunks (bits.map bitByte) containerBitSize).mapM packChunk = .ok packed ∧
      packed.length = blocks ∧
      packed.flatMap (fun block => PresenceBits.bitsOf containerBitSize block.toNat) = bits := by
  induction blocks generalizing bits with
  | zero =>
      obtain rfl := List.length_eq_zero_iff.mp full
      exact ⟨[], rfl, rfl, rfl⟩
  | succ blocks ih =>
      have first_full : (bits.take 8).length = 8 := by
        rw [List.length_take]
        omega
      obtain ⟨packed, chunks, count, unpacked⟩ := @ih (bits.drop 8) (by rw [List.length_drop]; omega)
      refine ⟨UInt8.ofNat (PresenceBits.value (bits.take 8)) :: packed, ?_, by simp [count], ?_⟩
      · rw [← List.take_append_drop 8 bits, List.map_append,
          makeChunks_append (by decide) (by rw [List.length_map, first_full]; rfl), List.mapM_cons,
          packChunk_eq first_full, chunks, List.take_append_drop]
        rfl
      · rw [List.flatMap_cons, bitsOf_packed first_full, unpacked, List.take_append_drop]

/-! ## Picking the signatures -/

/-- An optional signature as the code keeps it. -/
def optionSignature : Option BeefySignature → OptionBeefySignature
  | some signature => newOptionBeefySignature signature
  | none => newOptionBeefySignatureEmpty

/-- The loop puts the signatures in the places whose bits are set, and aborts when there are too few. -/
theorem pickSignatures_eq (signatures : List BeefySignature) (sigIndex : Nat) (bits : List Bool) :
    pickSignatures signatures sigIndex (bits.map bitByte) =
      (PresenceBits.scatter bits (signatures.drop sigIndex)).elim .panic
        fun entries => .ok (entries.map optionSignature) := by
  induction bits generalizing sigIndex with
  | nil => rfl
  | cons bit bits ih =>
      cases bit with
      | false =>
          rw [List.map_cons, pickSignatures, if_neg (by decide), ih, PresenceBits.scatter]
          cases PresenceBits.scatter bits (signatures.drop sigIndex) <;> rfl
      | true =>
          rw [List.map_cons, pickSignatures, if_pos (show bitByte true = 1 from rfl)]
          by_cases inside : sigIndex < signatures.length
          · rw [List.getElem?_eq_getElem inside, List.drop_eq_getElem_cons inside, PresenceBits.scatter, ih]
            cases PresenceBits.scatter bits (signatures.drop (sigIndex + 1)) <;> rfl
          · rw [List.getElem?_eq_none (by omega), List.drop_eq_nil_of_le (by omega), PresenceBits.scatter]
            rfl

namespace CompactSignedCommitment

variable (room : Nat → Nat) (compact : CompactSignedCommitment)

/-- The bits of all blocks. -/
def bits : List Bool :=
  compact.signaturesFrom.flatMap fun block => PresenceBits.bitsOf containerBitSize block.toNat

theorem length_bits : compact.bits.length = 8 * compact.signaturesFrom.length := by
  simp [bits, List.length_flatMap, containerBitSize, Nat.mul_comm]

theorem elements_bitStore : (compact.bitStore room).elements () = compact.bits.map bitByte := by
  rw [bitStore, SliceStore.elements_appendAll_fresh, bits, List.map_flatMap]
  exact congrArg (List.flatMap · compact.signaturesFrom) (funext blockBits_eq)

variable {compact}

/-- With enough blocks, the signatures are put in the places of the first bits. -/
theorem expand_of_le (enough : compact.validatorSetLen.toNat ≤ 8 * compact.signaturesFrom.length) :
    compact.expand room =
      (PresenceBits.scatter (compact.bits.take compact.validatorSetLen.toNat)
        compact.signaturesCompact).elim .panic
          fun entries => .ok ⟨compact.commitment, entries.map optionSignature⟩ := by
  obtain ⟨shorter, resliced, first⟩ := @SliceStore.reslice_of_le Unit UInt8 _ (compact.bitStore room) ()
    compact.validatorSetLen.toNat (by rw [elements_bitStore, List.length_map, length_bits]; exact enough)
  rw [elements_bitStore, ← List.map_take] at first
  rw [expand, resliced]
  dsimp only
  rw [first, pickSignatures_eq, List.drop_zero]
  cases PresenceBits.scatter (compact.bits.take compact.validatorSetLen.toNat)
    compact.signaturesCompact <;> rfl

end CompactSignedCommitment

/-! ## What is accepted -/

/-- The loop over the bits has no error to return. -/
theorem pickSignatures_ne_error (signatures : List BeefySignature) (sigIndex : Nat) (bits : List UInt8)
    (reason : GoError) : pickSignatures signatures sigIndex bits ≠ .error reason := by
  induction bits generalizing sigIndex with
  | nil => simp [pickSignatures]
  | cons bit bits ih =>
      rw [pickSignatures]
      split
      · split
        · simp
        · intro failed
          rcases Outcome.bind_eq_error.mp failed with failed | ⟨_, _, failed⟩
          · exact ih (sigIndex + 1) failed
          · cases failed
      · intro failed
        rcases Outcome.bind_eq_error.mp failed with failed | ⟨_, _, failed⟩
        · exact ih sigIndex failed
        · cases failed

namespace CompactSignedCommitment

variable (room : Nat → Nat) {compact : CompactSignedCommitment}

theorem expand_ne_error (reason : GoError) : compact.expand room ≠ .error reason := by
  unfold expand
  split
  · simp
  · intro failed
    rcases Outcome.bind_eq_error.mp failed with failed | ⟨_, _, failed⟩
    · exact pickSignatures_ne_error _ _ _ _ failed
    · cases failed

/-- There is a bit for every validator and a signature for every bit that is set. -/
structure Consistent (compact : CompactSignedCommitment) : Prop where
  blocks : compact.validatorSetLen.toNat ≤ 8 * compact.signaturesFrom.length
  signatures : compact.signaturesCompact.length =
    (compact.bits.take compact.validatorSetLen.toNat).count true

theorem Consistent.expand (consistent : compact.Consistent) : ∃ s, compact.expand room = .ok s := by
  rw [expand_of_le room consistent.blocks]
  cases scattered : PresenceBits.scatter (compact.bits.take compact.validatorSetLen.toNat)
      compact.signaturesCompact with
  | none =>
      have few := PresenceBits.scatter_eq_none_iff.mp scattered
      have exact := consistent.signatures
      omega
  | some entries => exact ⟨_, rfl⟩

end CompactSignedCommitment

theorem PayloadItem.restores {item : PayloadItem} (short : item.data.length ≤ maxUint32) :
    Restores item.encode decode item :=
  restores_field (restores_array item.id) (restores_field (restores_bytes short) (restores_struct_nil _))

/-- The lengths can be written. -/
structure Commitment.Short (commitment : Commitment) : Prop where
  payload : commitment.payload.length ≤ maxUint32
  data : ∀ item ∈ commitment.payload, item.data.length ≤ maxUint32

theorem Commitment.restores {commitment : Commitment} (short : commitment.Short) :
    Restores commitment.encode decode commitment :=
  restores_field
    (restores_list short.payload fun item member => PayloadItem.restores (short.data item member))
    (restores_field (restores_u32 commitment.blockNumber)
      (restores_field (restores_u64 commitment.validatorSetID) (restores_struct_nil _)))

theorem CompactSignedCommitment.restores {compact : CompactSignedCommitment}
    (short : compact.commitment.Short) (blocks : compact.signaturesFrom.length ≤ maxUint32)
    (signatures : compact.signaturesCompact.length ≤ maxUint32) : Restores compact.encode decode compact :=
  restores_field (Commitment.restores short)
    (restores_field (restores_bytes blocks)
      (restores_field (restores_u32 compact.validatorSetLen)
        (restores_field (restores_list signatures fun signature _ => restores_array signature)
          (restores_struct_nil _))))

namespace SignedCommitment

/-- Decoding does not abort, accepts only consistent compact forms and returns an error for the others. -/
def RejectsInconsistent (room : Nat → Nat) (compact : CompactSignedCommitment) (input : List UInt8) : Prop :=
  decode room input ≠ .panic ∧
    ((∃ result, decode room input = .ok result) → compact.Consistent) ∧
    (¬ compact.Consistent → ∃ reason, decode room input = .error reason)

/-- Inconsistent compact forms are rejected if and only if there are none: no check is made. -/
theorem rejectsInconsistent_iff (room : Nat → Nat) {input rest : List UInt8}
    {compact : CompactSignedCommitment}
    (decodes : CompactSignedCommitment.decode input = .ok (compact, rest)) :
    RejectsInconsistent room compact input ↔ compact.Consistent := by
  have run : decode room input = compact.expand room >>= fun s => .ok (s, rest) := by
    rw [decode, bind_apply, decodes]
    rfl
  constructor
  · rintro ⟨_, _, rejects⟩
    by_contra inconsistent
    obtain ⟨reason, failed⟩ := rejects inconsistent
    rw [run] at failed
    rcases Outcome.bind_eq_error.mp failed with failed | ⟨_, _, failed⟩
    · exact CompactSignedCommitment.expand_ne_error room reason failed
    · cases failed
  · intro consistent
    obtain ⟨s, expanded⟩ := consistent.expand room
    rw [RejectsInconsistent, run, expanded]
    exact ⟨by simp, fun _ => consistent, fun inconsistent => absurd consistent inconsistent⟩

/-- Three validators, of which the first two signed. -/
def signedForm : CompactSignedCommitment :=
  ⟨⟨[⟨⟨[109, 104], rfl⟩, [1, 2, 3]⟩], 5, 0⟩, [192], 3, [zeroBytes 65, List.Vector.replicate 65 1]⟩

theorem rejectsInconsistent_signed :
    ∃ bytes, signedForm.encode = .ok bytes ∧ RejectsInconsistent (fun _ => 7) signedForm bytes := by
  have short : signedForm.commitment.Short := by
    refine ⟨by decide, fun item member => ?_⟩
    obtain rfl := List.mem_singleton.mp member
    decide
  obtain ⟨bytes, encoded, reads⟩ := CompactSignedCommitment.restores short (by decide) (by decide)
  exact ⟨bytes, encoded, (rejectsInconsistent_iff _ reads.apply_self).mpr ⟨by decide, by decide⟩⟩

/-- The zero commitment, one block with the given bits for one validator, and no signatures. -/
def unsignedForm (block : UInt8) : List UInt8 :=
  List.replicate 13 0 ++ [4, block] ++ [1, 0, 0, 0] ++ [0]

/-- A set bit without a signature makes decoding abort, whatever the capacity of the slice is. -/
theorem inconsistent_not_rejected :
    CompactSignedCommitment.decode (unsignedForm 128) = .ok (⟨⟨[], 0, 0⟩, [128], 1, []⟩, []) ∧
      ¬ ∃ room, RejectsInconsistent room ⟨⟨[], 0, 0⟩, [128], 1, []⟩ (unsignedForm 128) := by
  have decodes : CompactSignedCommitment.decode (unsignedForm 128) =
      .ok (⟨⟨[], 0, 0⟩, [128], 1, []⟩, []) := rfl
  refine ⟨decodes, ?_⟩
  rintro ⟨room, returns, _⟩
  have aborts : CompactSignedCommitment.expand room ⟨⟨[], 0, 0⟩, [128], 1, []⟩ = .panic := by
    rw [CompactSignedCommitment.expand_of_le room (by decide)]
    rfl
  apply returns
  rw [decode, bind_apply, decodes, Outcome.ok_bind, ofOutcome_apply, aborts]
  rfl

end SignedCommitment

/-! ## The round trip -/

namespace SignedCommitment

/-- The entries of the list, as options. -/
def entries (signatures : List OptionBeefySignature) : List (Option BeefySignature) :=
  signatures.map fun optionSig => if optionSig.hasValue then some optionSig.value else none

/-- Absent signatures have the zero value. -/
def AbsentZero (signatures : List OptionBeefySignature) : Prop :=
  ∀ optionSig ∈ signatures, optionSig.hasValue = false → optionSig.value = zeroBytes 65

theorem presence_eq (signatures : List OptionBeefySignature) :
    presence signatures = ((entries signatures).map Option.isSome).map bitByte := by
  simp only [presence, entries, List.map_map]
  refine List.map_congr_left fun optionSig _ => ?_
  cases has : optionSig.hasValue <;> simp [has, bitByte]

theorem present_eq (signatures : List OptionBeefySignature) :
    present signatures = (entries signatures).reduceOption := by
  rw [present, entries, List.reduceOption, List.filterMap_map]
  rfl

theorem map_optionSignature {signatures : List OptionBeefySignature} (zero : AbsentZero signatures) :
    (entries signatures).map optionSignature = signatures := by
  rw [entries, List.map_map]
  conv => rhs; rw [← List.map_id signatures]
  refine List.map_congr_left fun optionSig member => ?_
  obtain ⟨hasValue, value⟩ := optionSig
  cases hasValue with
  | true => rfl
  | false =>
      obtain rfl : value = zeroBytes 65 := zero _ member rfl
      rfl

/-- The compact form, with the bits of the signatures first among the bits of its blocks. -/
theorem compact_eq (s : SignedCommitment) :
    ∃ packed, s.compact =
        .ok ⟨s.commitment, packed, UInt32.ofNat s.signatures.length, present s.signatures⟩ ∧
      packed.length = s.signatures.length / 8 + 1 ∧
      ((packed.flatMap fun block => PresenceBits.bitsOf containerBitSize block.toNat).take
        s.signatures.length) = (entries s.signatures).map Option.isSome := by
  have filled : presence s.signatures ++
        List.replicate (containerBitSize - s.signatures.length % containerBitSize) 0 =
      ((entries s.signatures).map Option.isSome ++
        List.replicate (containerBitSize - s.signatures.length % containerBitSize) false).map bitByte := by
    rw [List.map_append, ← presence_eq, List.map_replicate]
    rfl
  have length_entries : (entries s.signatures).length = s.signatures.length := List.length_map _
  obtain ⟨packed, chunks, count, unpacked⟩ := @pack_unpack (s.signatures.length / 8 + 1)
    ((entries s.signatures).map Option.isSome ++
      List.replicate (containerBitSize - s.signatures.length % containerBitSize) false) (by
    rw [List.length_append, List.length_map, length_entries, List.length_replicate, containerBitSize]
    omega)
  refine ⟨packed, ?_, count, ?_⟩
  · rw [compact, filled, chunks]
    rfl
  · rw [unpacked, List.take_left' (by rw [List.length_map, length_entries])]

/-- The compact form of a signed commitment is expanded to it. -/
theorem expand_compact (room : Nat → Nat) {s : SignedCommitment} {packed : List UInt8}
    (count : packed.length = s.signatures.length / 8 + 1)
    (front : ((packed.flatMap fun block => PresenceBits.bitsOf containerBitSize block.toNat).take
      s.signatures.length) = (entries s.signatures).map Option.isSome)
    (few : s.signatures.length < 2 ^ 32) (zero : AbsentZero s.signatures) :
    CompactSignedCommitment.expand room
      ⟨s.commitment, packed, UInt32.ofNat s.signatures.length, present s.signatures⟩ = .ok s := by
  have validators : (UInt32.ofNat s.signatures.length).toNat = s.signatures.length := by
    rw [UInt32.toNat_ofNat', Nat.mod_eq_of_lt few]
  rw [CompactSignedCommitment.expand_of_le room (by simp only [validators, count]; omega)]
  simp only [CompactSignedCommitment.bits, validators, front, present_eq, PresenceBits.scatter_presence,
    Option.elim_some, map_optionSignature zero]

/-- Signed commitments are restored if their lengths can be written. -/
theorem decode_encode_signed (room : Nat → Nat) {s : SignedCommitment} (short : s.commitment.Short)
    (few : s.signatures.length < 2 ^ 32 - 8) (zero : AbsentZero s.signatures) :
    ∃ bytes, s.encode = .ok bytes ∧ ∀ rest, decode room (bytes ++ rest) = .ok (s, rest) := by
  obtain ⟨packed, compacted, count, front⟩ := s.compact_eq
  have blocks : packed.length ≤ maxUint32 := by
    unfold maxUint32
    omega
  have signatures : (present s.signatures).length ≤ maxUint32 := by
    have bound : (present s.signatures).length ≤ s.signatures.length := List.length_filterMap_le _ _
    unfold maxUint32
    omega
  obtain ⟨bytes, written, reads⟩ := @CompactSignedCommitment.restores
    ⟨s.commitment, packed, UInt32.ofNat s.signatures.length, present s.signatures⟩ short blocks signatures
  refine ⟨bytes, ?_, fun rest => ?_⟩
  · rw [encode, compacted, Outcome.ok_bind, written]
  · rw [decode, bind_apply, reads rest, Outcome.ok_bind, ofOutcome_apply,
      expand_compact room count front (by omega) zero]
    rfl

/-- Nine validators, of which the second signed. -/
def sampleSigned : SignedCommitment :=
  ⟨⟨[⟨⟨[109, 104], rfl⟩, [1, 2, 3]⟩], 5, 0⟩,
    newOptionBeefySignatureEmpty :: newOptionBeefySignature (zeroBytes 65) ::
      List.replicate 7 newOptionBeefySignatureEmpty⟩

theorem decode_encode_signed_sample :
    ∃ bytes, sampleSigned.encode = .ok bytes ∧
      ∀ rest, decode (fun _ => 7) (bytes ++ rest) = .ok (sampleSigned, rest) := by
  refine decode_encode_signed _ ⟨by decide, ?_⟩ (by decide) ?_
  · intro item member
    obtain rfl := List.mem_singleton.mp member
    decide
  · intro optionSig member absent
    rcases List.mem_cons.mp member with rfl | member
    · rfl
    · rcases List.mem_cons.mp member with rfl | member
      · cases absent
      · rw [List.eq_of_mem_replicate member]
        rfl

/-- More payload items than the length of a list may say. -/
def longCommitment : Commitment := ⟨List.replicate (2 ^ 32) default, 0, 0⟩

/-- The encoder refuses the payload, and with it the whole. -/
theorem encode_of_long {s : SignedCommitment} (long : maxUint32 < s.commitment.payload.length) :
    ∃ reason, s.encode = .error reason := by
  have payload : encodeSlice PayloadItem.encode s.commitment.payload =
      .error (.text "Attempted to serialize a collection with too many elements.") := if_pos long
  have commitment : ∃ reason, s.commitment.encode = .error reason := by
    rw [Commitment.encode, payload]
    exact ⟨_, rfl⟩
  obtain ⟨reason, failed⟩ := commitment
  obtain ⟨packed, compacted, _⟩ := s.compact_eq
  rw [encode, compacted, Outcome.ok_bind, CompactSignedCommitment.encode, failed]
  exact ⟨_, rfl⟩

theorem encode_fails_of_long_payload :
    longCommitment.payload.length = 2 ^ 32 ∧
      ∃ reason, (⟨longCommitment, []⟩ : SignedCommitment).encode = .error reason := by
  have length : longCommitment.payload.length = 2 ^ 32 := by
    rw [longCommitment, List.length_replicate]
  refine ⟨length, encode_of_long ?_⟩
  rw [length]
  decide

end SignedCommitment

end SubstrateClient.Types
