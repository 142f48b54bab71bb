import SubstrateClient.Types.ExtrinsicRoundTrip

/-!
# Signing an extrinsic

The signed bytes come from the payload's own encoder, which orders the fields otherwise than the
extrinsic does.  Key derivation, hashing and signing are third-party functions and stay abstract; a
run keeps the byte strings that were handed to `signature.Sign`.
-/

namespace SubstrateClient.Types

open ByteParser Scale

/-- The third-party functions behind `signature.Sign`. -/
structure SigningScheme where
  /-- `blake2b.Sum256`. -/
  sum256 : List UInt8 → List.Vector UInt8 32
  /-- `subkey.DeriveKeyPair` of a URI, then `Sign` with the derived pair. -/
  deriveAndSign : String → List UInt8 → Except GoError (List UInt8)

/-- `signature.Sign`: long data is hashed first. -/
def SigningScheme.sign (scheme : SigningScheme) (data : List UInt8) (privateKeyURI : String) :
    Outcome GoError (List UInt8) :=
  let data := if 256 < data.length then (scheme.sum256 data).toList else data
  match scheme.deriveAndSign privateKeyURI data with
  | .ok signature => .ok signature
  | .error reason => .error reason

/-- `signature.KeyringPair`, without the address that signing does not use. -/
structure KeyringPair where
  uri : String
  publicKey : List UInt8

/-- `NewSignature`: copy into an array of 64 bytes. -/
def newSignature (bytes : List UInt8) : List.Vector UInt8 64 :=
  ⟨(bytes ++ List.replicate 64 0).take 64, by simp⟩

/-- `NewMultiAddressFromAccountID`. -/
def newMultiAddressFromAccountID (bytes : List UInt8) : Outcome GoError MultiAddress :=
  if width : bytes.length = 32 then
    .ok { MultiAddress.zero with isID := true, asID := ⟨bytes, width⟩ }
  else
    .error (.text "invalid account ID bytes")

/-- `types.SignatureOptions`. -/
structure SignatureOptions where
  era : ExtrinsicEra
  nonce : UCompact
  tip : UCompact
  specVersion : UInt32
  genesisHash : List.Vector UInt8 32
  blockHash : List.Vector UInt8 32
  transactionVersion : UInt32

/-- `types.ExtrinsicPayloadV3`. -/
structure ExtrinsicPayloadV3 where
  method : List UInt8
  era : ExtrinsicEra
  nonce : UCompact
  tip : UCompact
  specVersion : UInt32
  genesisHash : List.Vector UInt8 32
  blockHash : List.Vector UInt8 32

/-- `types.ExtrinsicPayloadV4`. -/
structure ExtrinsicPayloadV4 extends ExtrinsicPayloadV3 where
  transactionVersion : UInt32

/-- `ExtrinsicPayloadV4.Encode`.  The method is written bare, without a length. -/
def ExtrinsicPayloadV4.encode (payload : ExtrinsicPayloadV4) : Written := do
  let method ← (.ok payload.method : Written)
  let era ← payload.era.encode
  let nonce ← payload.nonce.encode
  let tip ← payload.tip.encode
  let specVersion ← encodeU32 payload.specVersion
  let transactionVersion ← encodeU32 payload.transactionVersion
  let genesisHash ← encodeArray payload.genesisHash
  let blockHash ← encodeArray payload.blockHash
  pure (method ++ era ++ nonce ++ tip ++ specVersion ++ transactionVersion ++ genesisHash ++
    blockHash)

/-- The payload for a call, an era, a nonce and a tip under the given options. -/
def payloadV4 (method : List UInt8) (era : ExtrinsicEra) (nonce tip : UCompact)
    (options : SignatureOptions) : ExtrinsicPayloadV4 where
  method := method
  era := era
  nonce := nonce
  tip := tip
  specVersion := options.specVersion
  genesisHash := options.genesisHash
  blockHash := options.blockHash
  transactionVersion := options.transactionVersion

/-- A run of `Extrinsic.Sign`. -/
structure SignRun where
  /-- The receiver afterwards. -/
  extrinsic : Extrinsic
  /-- The byte strings handed to `signature.Sign`, in order. -/
  handed : List (List UInt8)
  /-- How the run ended. -/
  outcome : Outcome GoError Unit

/-- Continue with a returned value; any other ending leaves the receiver as it is. -/
def SignRun.continue {α : Type} (extrinsic : Extrinsic) (handed : List (List UInt8))
    (run : Outcome GoError α) (next : α → SignRun) : SignRun :=
  match run with
  | .ok value => next value
  | .error reason => ⟨extrinsic, handed, .error reason⟩
  | .panic => ⟨extrinsic, handed, .panic⟩
  | .outOfFuel => ⟨extrinsic, handed, .outOfFuel⟩

/-- The era `Extrinsic.Sign` uses: anything but a mortal era becomes the immortal one. -/
def SignatureOptions.signingEra (options : SignatureOptions) : ExtrinsicEra :=
  if !options.era.isMortalEra then .immortal else options.era

/-- `Extrinsic.Sign`. -/
def Extrinsic.sign (scheme : SigningScheme) (extrinsic : Extrinsic) (signer : KeyringPair)
    (options : SignatureOptions) : SignRun :=
  if extrinsic.type ≠ extrinsicVersion4 then
    ⟨extrinsic, [], .error (unsupportedVersion extrinsic.version)⟩
  else
    .continue extrinsic [] extrinsic.method.encode fun method =>
    let era := options.signingEra
    let payload := payloadV4 method era options.nonce options.tip options
    .continue extrinsic [] (newMultiAddressFromAccountID signer.publicKey) fun signerPubKey =>
    .continue extrinsic [] payload.encode fun bytes =>
    .continue extrinsic [bytes] (scheme.sign bytes signer.uri) fun signature =>
    let signed : ExtrinsicSignatureV4 :=
      { signer := signerPubKey
        signature :=
          { MultiSignature.zero with isSr25519 := true, asSr25519 := newSignature signature }
        era := era
        nonce := options.nonce
        tip := options.tip }
    ⟨{ extrinsic with signature := signed, version := extrinsic.version ||| extrinsicBitSigned },
      [bytes], .ok ()⟩

/-- The bytes to sign, rebuilt from a decoded extrinsic and the options. -/
def Extrinsic.rebuildPayload (decoded : Extrinsic) (options : SignatureOptions) : Written := do
  let method ← decoded.method.encode
  (payloadV4 method decoded.signature.era decoded.signature.nonce decoded.signature.tip
    options).encode

/-! ## The version byte -/

private theorem and_or_bitSigned (version mask : UInt8) :
    (version ||| extrinsicBitSigned) &&& mask =
      (version &&& mask) ||| (extrinsicBitSigned &&& mask) := by
  apply UInt8.toBitVec_inj.mp
  simp only [UInt8.toBitVec_and, UInt8.toBitVec_or]
  rw [BitVec.and_comm, BitVec.and_or_distrib_left, BitVec.and_comm, BitVec.and_comm mask.toBitVec]

/-- Setting the bit marks the extrinsic as signed. -/
theorem versionIsSigned_or (version : UInt8) :
    versionIsSigned (version ||| extrinsicBitSigned) = true := by
  have absorbed : (version &&& extrinsicBitSigned) ||| extrinsicBitSigned = extrinsicBitSigned := by
    apply UInt8.toBitVec_inj.mp
    ext i
    simp only [UInt8.toBitVec_and, UInt8.toBitVec_or, BitVec.getElem_and, BitVec.getElem_or]
    cases extrinsicBitSigned.toBitVec[i] <;> simp
  rw [versionIsSigned, and_or_bitSigned, UInt8.and_self, absorbed, beq_self_eq_true]

/-- Setting the bit leaves the transaction version alone. -/
theorem versionType_or (version : UInt8) :
    versionType (version ||| extrinsicBitSigned) = versionType version := by
  rw [versionType, and_or_bitSigned,
    show extrinsicBitSigned &&& extrinsicUnmaskVersion = 0 by decide, UInt8.or_zero, versionType]

/-! ## The era -/

/-- The era that its bytes decode to. -/
def ExtrinsicEra.normal (era : ExtrinsicEra) : ExtrinsicEra :=
  if era.isImmortalEra then .immortal else .mortal era.asMortalEra.first era.asMortalEra.second

theorem ExtrinsicEra.encode_normal (era : ExtrinsicEra) : era.normal.encode = era.encode := by
  obtain ⟨isImmortalEra, isMortalEra, asMortalEra⟩ := era
  cases isImmortalEra <;> rfl

theorem ExtrinsicEra.normal_wellFormed {era : ExtrinsicEra}
    (readable : era.isImmortalEra = true ∨ era.asMortalEra.first ≠ 0) : era.normal.WellFormed := by
  unfold normal
  split_ifs with immortal
  · exact .inl rfl
  · exact .inr ⟨_, _, readable.resolve_left immortal, rfl⟩

/-- The options as the signing law needs them. -/
structure SignatureOptions.WellFormed (options : SignatureOptions) : Prop where
  nonce : options.nonce.InRange
  tip : options.tip.InRange
  era : options.era.isMortalEra = true → options.era.asMortalEra.first ≠ 0

theorem SignatureOptions.WellFormed.signingEra_readable {options : SignatureOptions}
    (well : options.WellFormed) :
    options.signingEra.isImmortalEra = true ∨ options.signingEra.asMortalEra.first ≠ 0 := by
  unfold signingEra
  split_ifs with not_mortal
  · exact .inl rfl
  · exact .inr (well.era (by simpa using not_mortal))

/-! ## The law -/

/-- A signature is encoded through its era's bytes only. -/
theorem encode_signature_of_normal {signature : ExtrinsicSignatureV4} {written : List UInt8}
    (encoded : extrinsicSignatureV4.encode
      { signature with era := signature.era.normal : ExtrinsicSignatureV4 }.reflect = .ok written) :
    extrinsicSignatureV4.encode signature.reflect = .ok written := by
  obtain ⟨signer, _, signer_eq, after_signer, rfl⟩ := GoFields.encode_plain_eq_ok.mp encoded
  obtain ⟨proof, _, proof_eq, after_proof, rfl⟩ := GoFields.encode_plain_eq_ok.mp after_signer
  obtain ⟨era, others, era_eq, after_era, rfl⟩ := GoFields.encode_plain_eq_ok.mp after_proof
  have same_era : signature.era.encode = .ok era := signature.era.encode_normal.symm.trans era_eq
  exact GoFields.encode_plain_eq_ok.mpr ⟨signer, _, signer_eq,
    GoFields.encode_plain_eq_ok.mpr ⟨proof, _, proof_eq,
      GoFields.encode_plain_eq_ok.mpr ⟨era, others, same_era, after_era, rfl⟩, rfl⟩, rfl⟩

/-- The payload of a call under well-formed options is encoded. -/
theorem payloadV4_encodes (method : List UInt8) (era : ExtrinsicEra) {options : SignatureOptions}
    (well : options.WellFormed) :
    ∃ bytes, (payloadV4 method era options.nonce options.tip options).encode = .ok bytes := by
  obtain ⟨nonce, nonce_eq, -⟩ := UCompact.encode_reads well.nonce
  obtain ⟨tip, tip_eq, -⟩ := UCompact.encode_reads well.tip
  have era_eq : ∃ bytes, era.encode = .ok bytes := by
    unfold ExtrinsicEra.encode
    split_ifs <;> exact ⟨_, rfl⟩
  obtain ⟨era_bytes, era_eq⟩ := era_eq
  simp [ExtrinsicPayloadV4.encode, payloadV4, era_eq, nonce_eq, tip_eq, encodeU32_eq,
    encodeArray_eq]

/-- The payload is encoded through its era's bytes only. -/
theorem payloadV4_normal (method : List UInt8) (era : ExtrinsicEra) (nonce tip : UCompact)
    (options : SignatureOptions) :
    (payloadV4 method era.normal nonce tip options).encode =
      (payloadV4 method era nonce tip options).encode := by
  simp only [ExtrinsicPayloadV4.encode, payloadV4, ExtrinsicEra.encode_normal]

/-- `signature.Sign` returns bytes or an error. -/
theorem SigningScheme.sign_cases (scheme : SigningScheme) (data : List UInt8) (uri : String) :
    (∃ bytes, scheme.sign data uri = .ok bytes) ∨ ∃ reason, scheme.sign data uri = .error reason := by
  unfold SigningScheme.sign
  dsimp only
  split
  · exact .inl ⟨_, rfl⟩
  · exact .inr ⟨_, rfl⟩

/-- The signature that `Extrinsic.Sign` stores. -/
def storedSignature (publicKey : List.Vector UInt8 32) (signature : List UInt8)
    (options : SignatureOptions) : ExtrinsicSignatureV4 where
  signer := { MultiAddress.zero with isID := true, asID := publicKey }
  signature := { MultiSignature.zero with isSr25519 := true, asSr25519 := newSignature signature }
  era := options.signingEra
  nonce := options.nonce
  tip := options.tip

/-- With a public key of 32 bytes and well-formed options, signing a version-four extrinsic comes
down to the third-party signature of the payload's bytes. -/
theorem Extrinsic.sign_eq (scheme : SigningScheme) {extrinsic : Extrinsic} {signer : KeyringPair}
    {options : SignatureOptions} {handed method : List UInt8}
    (four : extrinsic.type = extrinsicVersion4) (key : signer.publicKey.length = 32)
    (method_eq : extrinsic.method.encode = .ok method)
    (payload_eq : (payloadV4 method options.signingEra options.nonce options.tip options).encode =
      .ok handed) :
    extrinsic.sign scheme signer options =
      .continue extrinsic [handed] (scheme.sign handed signer.uri) fun signature =>
        ⟨{ extrinsic with
            signature := storedSignature ⟨signer.publicKey, key⟩ signature options
            version := extrinsic.version ||| extrinsicBitSigned }, [handed], .ok ()⟩ := by
  have address_eq : newMultiAddressFromAccountID signer.publicKey =
      .ok { MultiAddress.zero with isID := true, asID := ⟨signer.publicKey, key⟩ } := dif_pos key
  rw [Extrinsic.sign, if_neg (not_not.mpr four), method_eq, address_eq]
  dsimp only [SignRun.continue]
  rw [payload_eq]
  rfl

/-- The stored signature is read back with the era its bytes stand for. -/
theorem storedSignature_reads (publicKey : List.Vector UInt8 32) (signature : List UInt8)
    {options : SignatureOptions} (well : options.WellFormed) :
    ∃ written, written.length ≤ 273 ∧
      extrinsicSignatureV4.encode (storedSignature publicKey signature options).reflect =
        .ok written ∧
      Reads (extrinsicSignatureV4.decode ExtrinsicSignatureV4.zero.reflect) written
        { storedSignature publicKey signature options with
          era := options.signingEra.normal : ExtrinsicSignatureV4 }.reflect := by
  have short : ([] : List UInt8).length ≤ maxUint32 := Nat.zero_le _
  have normal_well : ExtrinsicSignatureV4.WellFormed
      { storedSignature publicKey signature options with era := options.signingEra.normal } :=
    { signer := ⟨rfl, nofun, fun _ => rfl, fun _ => rfl, fun _ => rfl, fun _ => rfl⟩
      signature := ⟨rfl, fun _ => rfl, nofun, fun _ => rfl⟩
      era := ExtrinsicEra.normal_wellFormed well.signingEra_readable
      nonce := well.nonce
      tip := well.tip }
  obtain ⟨written, encoded, reads⟩ := ExtrinsicSignatureV4.encode_reads normal_well short
  have length_le : written.length ≤ 0 + 273 :=
    ExtrinsicSignatureV4.length_encode_le normal_well.nonce normal_well.tip short encoded
  exact ⟨written, by omega, encode_signature_of_normal encoded, reads⟩

/-- The extrinsic with its stored signature is read back up to the form of the era. -/
theorem stored_roundTrip (extrinsic : Extrinsic) (publicKey : List.Vector UInt8 32)
    (signature : List UInt8) {options : SignatureOptions}
    (four : extrinsic.type = extrinsicVersion4) (well : options.WellFormed)
    (args_int : extrinsic.method.args.length ≤ maxInt) :
    ∃ whole,
      Extrinsic.encode
        ⟨extrinsic.version ||| extrinsicBitSigned, storedSignature publicKey signature options,
          extrinsic.method⟩ = .ok whole ∧
      Extrinsic.decode Extrinsic.zero whole =
        .ok (⟨extrinsic.version ||| extrinsicBitSigned,
          { storedSignature publicKey signature options with era := options.signingEra.normal },
          extrinsic.method⟩, []) := by
  obtain ⟨written, length_le, encoded, reads⟩ := storedSignature_reads publicKey signature well
  have signed := versionIsSigned_or extrinsic.version
  have still_four := (versionType_or extrinsic.version).trans four
  generalize extrinsic.version ||| extrinsicBitSigned = version at signed still_four
  have signature_reads :
      Reads (Extrinsic.decodeSignature version ExtrinsicSignatureV4.zero) written
        { storedSignature publicKey signature options with era := options.signingEra.normal } := by
    rw [Extrinsic.decodeSignature_signed signed still_four]
    exact reads.bind_pure ExtrinsicSignatureV4.ofReflect
  have signature_eq :
      Extrinsic.encodeSignature
        ⟨version, storedSignature publicKey signature options, extrinsic.method⟩ = .ok written := by
    rw [Extrinsic.encodeSignature, Extrinsic.isSigned, if_pos signed]
    exact encoded
  have small : written.length + extrinsic.method.args.length + 3 < 2 ^ 64 := by
    unfold maxInt at args_int
    omega
  obtain ⟨whole, -, encode_eq, -, decode_eq⟩ :=
    Extrinsic.decode_of_signature_reads signature_eq still_four signature_reads small
  exact ⟨whole, encode_eq, decode_eq⟩

/-- The run failed and left the extrinsic alone, or it marked the extrinsic as signed such that the
payload rebuilt from its decoded encoding is what was handed to the signing function. -/
def SignRun.Faithful (run : SignRun) (before : Extrinsic) (options : SignatureOptions) : Prop :=
  (∃ reason, run.outcome = .error reason ∧ run.extrinsic = before) ∨
    (run.outcome = .ok () ∧ run.extrinsic.isSigned = true ∧
      ∃ handed written decoded, run.handed = [handed] ∧ run.extrinsic.encode = .ok written ∧
        Extrinsic.decode Extrinsic.zero written = .ok (decoded, []) ∧
        decoded.rebuildPayload options = .ok handed)

/-- What is signed is what the transmitted extrinsic says, whether or not it was signed before. -/
theorem sign_faithful (scheme : SigningScheme) (extrinsic : Extrinsic) {signer : KeyringPair}
    {options : SignatureOptions} (key : signer.publicKey.length = 32) (well : options.WellFormed)
    (args_int : extrinsic.method.args.length ≤ maxInt) :
    (extrinsic.sign scheme signer options).Faithful extrinsic options := by
  by_cases four : extrinsic.type = extrinsicVersion4
  · have method_eq := extrinsic.method.encode_eq
    obtain ⟨handed, payload_eq⟩ := payloadV4_encodes _ options.signingEra well
    rw [Extrinsic.sign_eq scheme four key method_eq payload_eq]
    rcases scheme.sign_cases handed signer.uri with ⟨signature, signed⟩ | ⟨reason, failed⟩
    · rw [signed]
      refine .inr ⟨rfl, versionIsSigned_or extrinsic.version, handed, ?_⟩
      obtain ⟨whole, encode_eq, decode_eq⟩ :=
        stored_roundTrip extrinsic ⟨signer.publicKey, key⟩ signature four well args_int
      refine ⟨whole, _, rfl, encode_eq, decode_eq, ?_⟩
      rw [Extrinsic.rebuildPayload]
      refine Outcome.bind_eq_ok.mpr ⟨_, method_eq, ?_⟩
      exact (payloadV4_normal _ _ _ _ _).trans payload_eq
    · rw [failed]
      exact .inl ⟨reason, rfl, rfl⟩
  · rw [Extrinsic.sign, if_pos four]
    exact .inl ⟨_, rfl, rfl⟩

/-- A signer with an all-zero public key. -/
def zeroKey : KeyringPair := ⟨"//Alice", (zeroBytes 32).toList⟩

/-- Options with a mortal era. -/
def mortalOptions : SignatureOptions :=
  ⟨.mortal 5 1, (7 : Int), (2 : Int), 123, zeroBytes 32, zeroBytes 32, 1⟩

/-- A scheme whose signatures are 64 zero bytes. -/
def zeroScheme : SigningScheme := ⟨fun _ => zeroBytes 32, fun _ _ => .ok (zeroBytes 64).toList⟩

/-- Signing an extrinsic that is signed already. -/
theorem sign_faithful_again :
    ((Extrinsic.signedBy Extrinsic.indexAddress).sign zeroScheme zeroKey mortalOptions).Faithful
      (Extrinsic.signedBy Extrinsic.indexAddress) mortalOptions := by
  have well : mortalOptions.WellFormed :=
    { nonce := ⟨7, rfl, lt_compact_bound (by norm_num)⟩
      tip := ⟨2, rfl, lt_compact_bound (by norm_num)⟩
      era := fun _ => by decide }
  exact sign_faithful zeroScheme (Extrinsic.signedBy Extrinsic.indexAddress) rfl well (by decide)

end SubstrateClient.Types
