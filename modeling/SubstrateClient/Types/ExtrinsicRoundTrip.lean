import SubstrateClient.Types.Extrinsic

/-!
# Round trip of extrinsics

The signature is a struct of types that round-trip, so its law is an instance of the codec's.  The
arguments of the call run to the end of the input, so the call is read from exactly its bytes.
-/

namespace SubstrateClient.Types

open ByteParser Scale

namespace ExtrinsicSignatureV4

/-- The parts of a signature are well formed. -/
structure WellFormed (parts : ExtrinsicSignatureV4) : Prop where
  signer : parts.signer.WellFormed
  signature : parts.signature.WellFormed
  era : parts.era.WellFormed
  nonce : parts.nonce.InRange
  tip : parts.tip.InRange

end ExtrinsicSignatureV4

/-- The values of each part that are read back. -/
def partFits : (name : partTypes.Name) → partTypes.Carrier name → Prop
  | .multiAddress => fun address : MultiAddress =>
      address.WellFormed ∧ address.asRaw.length ≤ maxUint32
  | .multiSignature => MultiSignature.WellFormed
  | .extrinsicEra => ExtrinsicEra.WellFormed
  | .uCompact => UCompact.InRange
  | .callIndex => fun _ => True
  | .args => fun _ => False

/-- Every part but the arguments round-trips. -/
theorem partTypes_lawful (name : partTypes.Name) (not_args : name ≠ .args) :
    partTypes.Lawful partFits name := by
  cases name with
  | multiAddress => exact ⟨rfl, fun address ⟨well, short⟩ => MultiAddress.encode_reads well short⟩
  | multiSignature => exact ⟨rfl, fun signature => MultiSignature.encode_reads⟩
  | extrinsicEra => exact ⟨rfl, fun era => ExtrinsicEra.encode_reads⟩
  | uCompact => exact ⟨rfl, fun value => UCompact.encode_reads⟩
  | callIndex => exact ⟨rfl, fun index _ => CallIndex.encode_reads CallIndex.zero index⟩
  | args => exact absurd rfl not_args

/-- A well-formed signature is read back. -/
theorem ExtrinsicSignatureV4.encode_reads {signature : ExtrinsicSignatureV4}
    (well : signature.WellFormed) (short : signature.signer.asRaw.length ≤ maxUint32) :
    ∃ written, extrinsicSignatureV4.encode signature.reflect = .ok written ∧
      Reads (extrinsicSignatureV4.decode ExtrinsicSignatureV4.zero.reflect) written
        signature.reflect := by
  have within : extrinsicSignatureV4.Within ⟨false, fun name => name ≠ PartName.args⟩ :=
    ⟨rfl, nofun, rfl, nofun, rfl, nofun, rfl, nofun, rfl, nofun, trivial⟩
  have fits : extrinsicSignatureV4.Fits partFits signature.reflect :=
    ⟨⟨well.signer, short⟩, well.signature, well.era, well.nonce, well.tip, trivial⟩
  exact GoType.encode_reads partTypes_lawful extrinsicSignatureV4 within signature.reflect fits

theorem CallIndex.encode_eq (index : CallIndex) :
    index.encode = .ok [index.sectionIndex, index.methodIndex] := by
  rw [CallIndex.encode, encode_u8, encode_u8]
  rfl

/-- Only the signer of a signature can be long. -/
theorem ExtrinsicSignatureV4.length_encode_le {signature : ExtrinsicSignatureV4}
    (nonce : signature.nonce.InRange) (tip : signature.tip.InRange)
    (short : signature.signer.asRaw.length ≤ maxUint32) {written : List UInt8}
    (encoded : extrinsicSignatureV4.encode signature.reflect = .ok written) :
    written.length ≤ signature.signer.asRaw.length + 273 := by
  obtain ⟨signer, _, signer_eq, after_signer, rfl⟩ := GoFields.encode_plain_eq_ok.mp encoded
  obtain ⟨proof, _, proof_eq, after_proof, rfl⟩ := GoFields.encode_plain_eq_ok.mp after_signer
  obtain ⟨era, _, era_eq, after_era, rfl⟩ := GoFields.encode_plain_eq_ok.mp after_proof
  obtain ⟨number, _, nonce_eq, after_nonce, rfl⟩ := GoFields.encode_plain_eq_ok.mp after_era
  obtain ⟨fee, _, tip_eq, after_tip, rfl⟩ := GoFields.encode_plain_eq_ok.mp after_nonce
  cases after_tip
  have signer_le := MultiAddress.length_encode_le short signer_eq
  have proof_le := MultiSignature.length_encode_le proof_eq
  have era_le := ExtrinsicEra.length_encode_le era_eq
  have nonce_le := UCompact.length_encode_le nonce nonce_eq
  have tip_le := UCompact.length_encode_le tip tip_eq
  simp only [List.length_append, List.length_nil]
  omega

/-- A call is the two bytes of its index and its arguments. -/
theorem Call.encode_eq (call : Call) :
    call.encode = .ok (call.callIndex.sectionIndex :: call.callIndex.methodIndex :: call.args) := by
  have fields : call.encode =
      ((call.callIndex.encode.mapError .fieldByField) >>= fun bytes =>
        (Args.encode call.args).mapError .fieldByField >>= fun others =>
          .ok (bytes ++ (others ++ []))) := rfl
  rw [fields, CallIndex.encode_eq]
  simp [Args.encode]

/-- A call is read back from exactly its bytes. -/
theorem Call.decode_encode (call : Call) :
    Call.decode Call.zero
      (call.callIndex.sectionIndex :: call.callIndex.methodIndex :: call.args) = .ok (call, []) := by
  obtain ⟨written, index_eq, reads⟩ := CallIndex.encode_reads CallIndex.zero call.callIndex
  rw [CallIndex.encode_eq] at index_eq
  cases index_eq
  refine bind_eq_ok.mpr ⟨call.reflect, [], ?_, rfl⟩
  refine GoFields.decode_plain_eq_ok.mpr ⟨call.args, reads call.args, ?_⟩
  exact GoFields.decode_plain_eq_ok.mpr ⟨[], Args.decode_nil call.args, rfl⟩

namespace Extrinsic

/-- The parts of an extrinsic of version four are well formed: the signature as far as the version
byte announces one, and zero otherwise. -/
structure WellFormed (extrinsic : Extrinsic) : Prop where
  version : extrinsic.type = extrinsicVersion4
  signed : extrinsic.isSigned = true → extrinsic.signature.WellFormed
  unsigned : extrinsic.isSigned = false → extrinsic.signature = ExtrinsicSignatureV4.zero

/-- The signature of a well-formed extrinsic is read back when the version byte announces it. -/
theorem signature_reads {extrinsic : Extrinsic} (well : extrinsic.WellFormed)
    (short : extrinsic.signature.signer.asRaw.length ≤ maxUint32) :
    ∃ written, extrinsic.encodeSignature = .ok written ∧
      written.length ≤ extrinsic.signature.signer.asRaw.length + 273 ∧
      Reads (decodeSignature extrinsic.version ExtrinsicSignatureV4.zero) written
        extrinsic.signature := by
  by_cases signed : extrinsic.isSigned = true
  · obtain ⟨written, encoded, reads⟩ :=
      ExtrinsicSignatureV4.encode_reads (well.signed signed) short
    refine ⟨written, (if_pos signed).trans encoded, ?_, ?_⟩
    · exact ExtrinsicSignatureV4.length_encode_le (well.signed signed).nonce
        (well.signed signed).tip short encoded
    · rw [decodeSignature_signed signed well.version]
      exact reads.bind_pure ExtrinsicSignatureV4.ofReflect
  · refine ⟨[], if_neg signed, Nat.zero_le _, ?_⟩
    rw [decodeSignature_unsigned signed, well.unsigned (by simpa using signed)]
    exact reads_pure _

/-- An extrinsic whose signature bytes are read as some signature is read with that signature. -/
theorem decode_of_signature_reads {extrinsic : Extrinsic} {written : List UInt8}
    {decoded : ExtrinsicSignatureV4} (signature_eq : extrinsic.encodeSignature = .ok written)
    (version : extrinsic.type = extrinsicVersion4)
    (reads : Reads (decodeSignature extrinsic.version ExtrinsicSignatureV4.zero) written decoded)
    (small : written.length + extrinsic.method.args.length + 3 < 2 ^ 64) :
    ∃ whole body, extrinsic.encode = .ok whole ∧
      decodeUintCompact whole = .ok (body.length, body) ∧
      decode zero whole = .ok (⟨extrinsic.version, decoded, extrinsic.method⟩, []) := by
  have body_eq : extrinsic.encodeBody = .ok ([extrinsic.version] ++ (written ++
      (extrinsic.method.callIndex.sectionIndex :: extrinsic.method.callIndex.methodIndex ::
        extrinsic.method.args))) := by
    rw [encodeBody, encode_u8, signature_eq, Call.encode_eq]
    rfl
  generalize call_eq : extrinsic.method.callIndex.sectionIndex ::
    extrinsic.method.callIndex.methodIndex :: extrinsic.method.args = call at body_eq
  have call_read : Call.decode Call.zero call = .ok (extrinsic.method, []) :=
    call_eq ▸ Call.decode_encode extrinsic.method
  have call_length : call.length = extrinsic.method.args.length + 2 := by simp [← call_eq]
  have body_lt : ([extrinsic.version] ++ (written ++ call)).length < 2 ^ 536 := by
    apply lt_compact_bound
    rw [List.length_append, List.length_append, List.length_singleton]
    omega
  have length_reads := reads_compactBytes body_lt
  refine ⟨_, [extrinsic.version] ++ (written ++ call), ?_, length_reads _, ?_⟩
  · rw [encode, if_neg (not_not.mpr version), body_eq, Outcome.ok_bind, encodeUintCompact_eq body_lt]
    rfl
  · refine bind_eq_ok.mpr ⟨_, _, length_reads _, ?_⟩
    refine bind_eq_ok.mpr ⟨_, _, reads_u8 _ extrinsic.version _, ?_⟩
    refine bind_eq_ok.mpr ⟨_, _, reads call, ?_⟩
    exact bind_eq_ok.mpr ⟨_, _, call_read, rfl⟩

/-- A well-formed extrinsic is encoded behind a length prefix that counts the bytes after it, and
decoding exactly those bytes into a zero target returns it. -/
theorem decode_encode_wellFormed {extrinsic : Extrinsic} (well : extrinsic.WellFormed)
    (raw_short : extrinsic.signature.signer.asRaw.length ≤ maxUint32)
    (args_int : extrinsic.method.args.length ≤ maxInt) :
    ∃ written body, extrinsic.encode = .ok written ∧
      decodeUintCompact written = .ok (body.length, body) ∧
      decode zero written = .ok (extrinsic, []) := by
  obtain ⟨signature, signature_eq, length_le, reads⟩ := signature_reads well raw_short
  refine decode_of_signature_reads signature_eq well.version reads ?_
  unfold maxUint32 at raw_short
  unfold maxInt at args_int
  omega

/-- An extrinsic is encoded only if its signature is. -/
theorem encodeSignature_of_encode {extrinsic : Extrinsic} {written : List UInt8}
    (encoded : extrinsic.encode = .ok written) :
    ∃ signature, extrinsic.encodeSignature = .ok signature := by
  unfold encode at encoded
  split_ifs at encoded
  obtain ⟨body, body_eq, -⟩ := Outcome.bind_eq_ok.mp encoded
  obtain ⟨version, -, body_eq⟩ := Outcome.bind_eq_ok.mp body_eq
  obtain ⟨signature, signature_eq, -⟩ := Outcome.bind_eq_ok.mp body_eq
  exact ⟨signature, signature_eq⟩

/-- An extrinsic of version four signed with an sr25519 key by the given address. -/
def signedBy (signer : MultiAddress) : Extrinsic where
  version := 0x84
  signature :=
    ⟨signer, { MultiSignature.zero with isSr25519 := true }, .mortal 5 1, (7 : Int), (2 : Int)⟩
  method := ⟨⟨3, 0⟩, [255, 1]⟩

/-- The address of an account index. -/
def indexAddress : MultiAddress := { MultiAddress.zero with isIndex := true, asIndex := 9 }

theorem signedBy_wellFormed {signer : MultiAddress} (well : signer.WellFormed) :
    (signedBy signer).WellFormed where
  version := show versionType 0x84 = extrinsicVersion4 by decide
  signed _ :=
    { signer := well
      signature := ⟨rfl, fun _ => rfl, nofun, fun _ => rfl⟩
      era := .inr ⟨5, 1, by decide, rfl⟩
      nonce := ⟨7, rfl, lt_compact_bound (by norm_num)⟩
      tip := ⟨2, rfl, lt_compact_bound (by norm_num)⟩ }
  unsigned unsigned := absurd unsigned (show ¬ versionIsSigned 0x84 = false by decide)

theorem decode_encode_indexAddress :
    ∃ written body, (signedBy indexAddress).encode = .ok written ∧
      decodeUintCompact written = .ok (body.length, body) ∧
      decode zero written = .ok (signedBy indexAddress, []) := by
  have address_well : indexAddress.WellFormed :=
    ⟨rfl, fun _ => rfl, nofun, fun _ => rfl, fun _ => rfl, fun _ => rfl⟩
  exact decode_encode_wellFormed (signedBy_wellFormed address_well) (by decide) (by decide)

/-- A raw address of `2 ^ 32` bytes is well formed, but the codec refuses to encode it. -/
theorem encode_long_raw_fails :
    ¬ ∀ extrinsic : Extrinsic, extrinsic.WellFormed → extrinsic.method.args.length ≤ maxInt →
      ∃ written, extrinsic.encode = .ok written := by
  intro encodes
  have long : maxUint32 < (List.replicate (2 ^ 32) (0 : UInt8)).length := by
    rw [List.length_replicate]
    decide
  generalize List.replicate (2 ^ 32) (0 : UInt8) = raw at long
  have address_well : MultiAddress.WellFormed { MultiAddress.zero with isRaw := true, asRaw := raw } :=
    ⟨rfl, fun _ => rfl, fun _ => rfl, nofun, fun _ => rfl, fun _ => rfl⟩
  have args_int : [(255 : UInt8), 1].length ≤ maxInt := by decide
  obtain ⟨written, encoded⟩ := encodes _ (signedBy_wellFormed address_well) args_int
  obtain ⟨signature, signature_eq⟩ := encodeSignature_of_encode encoded
  have fields_eq := (if_pos (show versionIsSigned 0x84 = true by decide)).symm.trans signature_eq
  obtain ⟨signer, _, signer_eq, -⟩ := GoFields.encode_plain_eq_ok.mp fields_eq
  have raw_form : (encodeBytes raw >>= fun bytes => .ok (2 :: bytes)) = .ok signer := signer_eq
  obtain ⟨bytes, raw_eq, -⟩ := Outcome.bind_eq_ok.mp raw_form
  have refused : encodeBytes raw =
      .error (.text "Attempted to serialize a collection with too many elements.") := if_pos long
  rw [refused] at raw_eq
  cases raw_eq

end Extrinsic

end SubstrateClient.Types
