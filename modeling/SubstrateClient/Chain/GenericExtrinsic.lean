import SubstrateClient.Types.Extrinsic

/-!
# Generic extrinsics

The decoder of `rpc/chain/generic` allocates the signature and decodes it through a pointer, with
the payment fields in a struct of their own.  With the default parameters it accepts the same inputs
as the decoder of `types.Extrinsic` and reports the same contents.
-/

namespace SubstrateClient.Chain

open ByteParser Scale SubstrateClient.Types

/-- The reflected type of `ExtrinsicSignature[A, S, P]`. -/
def extrinsicSignature (signer signature paymentFields : GoType partTypes) : GoType partTypes :=
  .struct (.cons .plain signer (.cons .plain signature (.cons .plain (.method .extrinsicEra)
    (.cons .plain (.method .uCompact) (.cons .plain paymentFields .nil)))))

/-- The reflected type of `DefaultPaymentFields`. -/
def defaultPaymentFields : GoType partTypes := .struct (.cons .plain (.method .uCompact) .nil)

/-- `generic.Extrinsic[A, S, P]`. -/
structure Extrinsic (signer signature paymentFields : GoType partTypes) where
  version : UInt8
  /-- The signature pointer. -/
  signature : Option (extrinsicSignature signer signature paymentFields).Val
  method : Call

namespace Extrinsic

variable (signer signature paymentFields : GoType partTypes)

/-- The zero value. -/
def zero : Extrinsic signer signature paymentFields := ⟨0, none, Call.zero⟩

/-- The signature as `Extrinsic.Decode` reads it after the version byte, through a new pointer. -/
def decodeSignature (version : UInt8)
    (target : Option (extrinsicSignature signer signature paymentFields).Val) :
    Decoder (Option (extrinsicSignature signer signature paymentFields).Val) :=
  if versionIsSigned version then
    if versionType version ≠ extrinsicVersion4 then
      ByteParser.fail (unsupportedVersion version)
    else
      (GoType.ptr (extrinsicSignature signer signature paymentFields)).decode
        (some (extrinsicSignature signer signature paymentFields).zero)
  else
    pure target

theorem decodeSignature_signed {version : UInt8} (signed : versionIsSigned version = true)
    (four : versionType version = extrinsicVersion4)
    (target : Option (extrinsicSignature signer signature paymentFields).Val) :
    decodeSignature signer signature paymentFields version target = (do
      let decoded ← (extrinsicSignature signer signature paymentFields).decode
        (extrinsicSignature signer signature paymentFields).zero
      pure (some decoded)) :=
  (if_pos signed).trans (if_neg (not_not.mpr four))

theorem decodeSignature_unsupported {version : UInt8} (signed : versionIsSigned version = true)
    (not_four : ¬ versionType version = extrinsicVersion4)
    (target : Option (extrinsicSignature signer signature paymentFields).Val) :
    decodeSignature signer signature paymentFields version target =
      ByteParser.fail (unsupportedVersion version) :=
  (if_pos signed).trans (if_pos not_four)

theorem decodeSignature_unsigned {version : UInt8} (unsigned : ¬ versionIsSigned version = true)
    (target : Option (extrinsicSignature signer signature paymentFields).Val) :
    decodeSignature signer signature paymentFields version target = pure target :=
  if_neg unsigned

/-- `Extrinsic.Decode`. -/
def decode (target : Extrinsic signer signature paymentFields) :
    Decoder (Extrinsic signer signature paymentFields) := do
  let _ ← decodeUintCompact
  let version ← (GoType.num .u8 : GoType .none).decode target.version
  let decoded ← decodeSignature signer signature paymentFields version target.signature
  let method ← Call.decode target.method
  pure ⟨version, decoded, method⟩

end Extrinsic

/-- `generic.Extrinsic` with the default parameters. -/
abbrev DefaultExtrinsic : Type :=
  Extrinsic (.method .multiAddress) (.method .multiSignature) defaultPaymentFields

/-- The reflected signature type with the default parameters. -/
abbrev defaultSignature : GoType partTypes :=
  extrinsicSignature (.method .multiAddress) (.method .multiSignature) defaultPaymentFields

/-- `Decode` of the default extrinsic into a zero target. -/
def DefaultExtrinsic.decode : Decoder DefaultExtrinsic :=
  Extrinsic.decode (.method .multiAddress) (.method .multiSignature) defaultPaymentFields
    (Extrinsic.zero _ _ _)

/-- The generic view of a signature: the tip moves into the payment fields. -/
def genericSignature (signature : ExtrinsicSignatureV4) : defaultSignature.Val :=
  (signature.signer, signature.signature, signature.era, signature.nonce, (signature.tip, ()), ())

/-- Both decoders of the signature struct accept the same inputs with the same contents. -/
theorem decode_defaultSignature_eq_ok {input rest : List UInt8} {value : defaultSignature.Val} :
    defaultSignature.decode defaultSignature.zero input = .ok (value, rest) ↔
      ∃ signature : ExtrinsicSignatureV4, value = genericSignature signature ∧
        extrinsicSignatureV4.decode ExtrinsicSignatureV4.zero.reflect input =
          .ok (signature.reflect, rest) := by
  constructor
  · intro success
    obtain ⟨signer, proof, era, nonce, ⟨tip, _⟩, _⟩ := value
    obtain ⟨r1, signer_eq, after_signer⟩ := GoFields.decode_plain_eq_ok.mp success
    obtain ⟨r2, proof_eq, after_proof⟩ := GoFields.decode_plain_eq_ok.mp after_signer
    obtain ⟨r3, era_eq, after_era⟩ := GoFields.decode_plain_eq_ok.mp after_proof
    obtain ⟨r4, nonce_eq, after_nonce⟩ := GoFields.decode_plain_eq_ok.mp after_era
    obtain ⟨r5, payment_eq, after_payment⟩ := GoFields.decode_plain_eq_ok.mp after_nonce
    obtain ⟨r6, tip_eq, after_tip⟩ := GoFields.decode_plain_eq_ok.mp payment_eq
    cases after_tip
    cases after_payment
    refine ⟨⟨signer, proof, era, nonce, tip⟩, rfl, ?_⟩
    exact GoFields.decode_plain_eq_ok.mpr ⟨r1, signer_eq, GoFields.decode_plain_eq_ok.mpr
      ⟨r2, proof_eq, GoFields.decode_plain_eq_ok.mpr ⟨r3, era_eq, GoFields.decode_plain_eq_ok.mpr
        ⟨r4, nonce_eq, GoFields.decode_plain_eq_ok.mpr ⟨rest, tip_eq, rfl⟩⟩⟩⟩⟩
  · rintro ⟨signature, rfl, success⟩
    obtain ⟨r1, signer_eq, after_signer⟩ := GoFields.decode_plain_eq_ok.mp success
    obtain ⟨r2, proof_eq, after_proof⟩ := GoFields.decode_plain_eq_ok.mp after_signer
    obtain ⟨r3, era_eq, after_era⟩ := GoFields.decode_plain_eq_ok.mp after_proof
    obtain ⟨r4, nonce_eq, after_nonce⟩ := GoFields.decode_plain_eq_ok.mp after_era
    obtain ⟨r5, tip_eq, after_tip⟩ := GoFields.decode_plain_eq_ok.mp after_nonce
    cases after_tip
    have payment_eq : defaultPaymentFields.decode defaultPaymentFields.zero r4 =
        .ok ((signature.tip, ()), rest) :=
      GoFields.decode_plain_eq_ok.mpr ⟨rest, tip_eq, rfl⟩
    exact GoFields.decode_plain_eq_ok.mpr ⟨r1, signer_eq, GoFields.decode_plain_eq_ok.mpr
      ⟨r2, proof_eq, GoFields.decode_plain_eq_ok.mpr ⟨r3, era_eq, GoFields.decode_plain_eq_ok.mpr
        ⟨r4, nonce_eq, GoFields.decode_plain_eq_ok.mpr ⟨rest, payment_eq, rfl⟩⟩⟩⟩⟩

/-- After the same version byte both decoders read the same signature or none. -/
theorem decodeSignature_eq_ok {version : UInt8} {input rest : List UInt8}
    {value : Option defaultSignature.Val} :
    Extrinsic.decodeSignature (.method .multiAddress) (.method .multiSignature)
        defaultPaymentFields version none input = .ok (value, rest) ↔
      ∃ signature, value = (if versionIsSigned version then some (genericSignature signature) else none) ∧
        Types.Extrinsic.decodeSignature version ExtrinsicSignatureV4.zero input =
          .ok (signature, rest) := by
  by_cases signed : versionIsSigned version = true
  · simp only [signed, if_true]
    by_cases four : versionType version = extrinsicVersion4
    · rw [Extrinsic.decodeSignature_signed _ _ _ signed four,
        Types.Extrinsic.decodeSignature_signed signed four]
      constructor
      · intro success
        obtain ⟨decoded, middle, parsed, returned⟩ := bind_eq_ok.mp success
        cases returned
        obtain ⟨signature, rfl, plain⟩ := decode_defaultSignature_eq_ok.mp parsed
        exact ⟨signature, rfl, bind_eq_ok.mpr ⟨signature.reflect, rest, plain, rfl⟩⟩
      · rintro ⟨signature, rfl, success⟩
        obtain ⟨decoded, middle, parsed, returned⟩ := bind_eq_ok.mp success
        cases returned
        have generic := decode_defaultSignature_eq_ok.mpr
          ⟨ExtrinsicSignatureV4.ofReflect decoded, rfl, parsed⟩
        exact bind_eq_ok.mpr ⟨_, rest, generic, rfl⟩
    · rw [Extrinsic.decodeSignature_unsupported _ _ _ signed four, Types.Extrinsic.decodeSignature,
        if_pos signed, if_pos four]
      simp
  · rw [Extrinsic.decodeSignature_unsigned _ _ _ signed, Types.Extrinsic.decodeSignature_unsigned signed]
    simp only [signed]
    constructor
    · intro success
      cases success
      exact ⟨ExtrinsicSignatureV4.zero, rfl, rfl⟩
    · rintro ⟨signature, rfl, success⟩
      cases success
      rfl

/-- Both extrinsics say the same. -/
structure SameReport (plain : Types.Extrinsic) (generic : DefaultExtrinsic) : Prop where
  version : generic.version = plain.version
  method : generic.method = plain.method
  nil_iff : generic.signature = none ↔ plain.isSigned = false
  signature : plain.isSigned = true → generic.signature = some (genericSignature plain.signature)

theorem sameReport_of_signature {version : UInt8} {signature : ExtrinsicSignatureV4} {call : Call} :
    SameReport ⟨version, signature, call⟩
      ⟨version, if versionIsSigned version then some (genericSignature signature) else none,
        call⟩ := by
  refine ⟨rfl, rfl, ?_, fun signed => if_pos signed⟩
  rw [Types.Extrinsic.isSigned]
  cases versionIsSigned version <;> simp

/-- What the plain decoder reads, the generic one reads and reports. -/
theorem generic_decode_of_plain {input rest : List UInt8} {plain : Types.Extrinsic}
    (success : Types.Extrinsic.decode Types.Extrinsic.zero input = .ok (plain, rest)) :
    ∃ generic, DefaultExtrinsic.decode input = .ok (generic, rest) ∧ SameReport plain generic := by
  obtain ⟨length, r1, length_eq, success⟩ := bind_eq_ok.mp success
  obtain ⟨version, r2, version_eq, success⟩ := bind_eq_ok.mp success
  obtain ⟨signature, r3, signature_eq, success⟩ := bind_eq_ok.mp success
  obtain ⟨call, r4, call_eq, returned⟩ := bind_eq_ok.mp success
  cases returned
  have generic_eq := decodeSignature_eq_ok.mpr ⟨signature, rfl, signature_eq⟩
  refine ⟨_, ?_, sameReport_of_signature⟩
  exact bind_eq_ok.mpr ⟨length, r1, length_eq, bind_eq_ok.mpr ⟨version, r2, version_eq,
    bind_eq_ok.mpr ⟨_, r3, generic_eq, bind_eq_ok.mpr ⟨call, rest, call_eq, rfl⟩⟩⟩⟩

/-- What the generic decoder reads, the plain one reads and reports. -/
theorem plain_decode_of_generic {input rest : List UInt8} {generic : DefaultExtrinsic}
    (success : DefaultExtrinsic.decode input = .ok (generic, rest)) :
    ∃ plain, Types.Extrinsic.decode Types.Extrinsic.zero input = .ok (plain, rest) ∧
      SameReport plain generic := by
  obtain ⟨length, r1, length_eq, success⟩ := bind_eq_ok.mp success
  obtain ⟨version, r2, version_eq, success⟩ := bind_eq_ok.mp success
  obtain ⟨value, r3, value_eq, success⟩ := bind_eq_ok.mp success
  obtain ⟨call, r4, call_eq, returned⟩ := bind_eq_ok.mp success
  cases returned
  obtain ⟨signature, rfl, signature_eq⟩ := decodeSignature_eq_ok.mp value_eq
  refine ⟨_, ?_, sameReport_of_signature⟩
  exact bind_eq_ok.mpr ⟨length, r1, length_eq, bind_eq_ok.mpr ⟨version, r2, version_eq,
    bind_eq_ok.mpr ⟨signature, r3, signature_eq, bind_eq_ok.mpr ⟨call, rest, call_eq, rfl⟩⟩⟩⟩

/-- Both decoders accept the same inputs, leave the same bytes and report the same contents. -/
theorem generic_decode_agrees (input rest : List UInt8) :
    (∀ plain, Types.Extrinsic.decode Types.Extrinsic.zero input = .ok (plain, rest) →
        ∃ generic, DefaultExtrinsic.decode input = .ok (generic, rest) ∧
          SameReport plain generic) ∧
      ∀ generic, DefaultExtrinsic.decode input = .ok (generic, rest) →
        ∃ plain, Types.Extrinsic.decode Types.Extrinsic.zero input = .ok (plain, rest) ∧
          SameReport plain generic :=
  ⟨fun _ success => generic_decode_of_plain success,
    fun _ success => plain_decode_of_generic success⟩

end SubstrateClient.Chain
