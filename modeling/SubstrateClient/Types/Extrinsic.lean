import SubstrateClient.Types.ExtrinsicParts

/-!
# Extrinsics

The envelope of a call: a length, a version byte whose highest bit says whether a signature follows,
the signature and the call.  The signature and the call are structs without methods of their own, so
the reflective codec handles them field by field.
-/

namespace SubstrateClient.Types

open ByteParser Scale

/-- The types with methods that occur in an extrinsic. -/
inductive PartName where
  | multiAddress | multiSignature | extrinsicEra | uCompact | callIndex | args
  deriving DecidableEq

/-- The methods of the parts of an extrinsic. -/
@[reducible]
def partTypes : MethodTypes where
  Name := PartName
  Carrier
    | .multiAddress => MultiAddress
    | .multiSignature => MultiSignature
    | .extrinsicEra => ExtrinsicEra
    | .uCompact => UCompact
    | .callIndex => CallIndex
    | .args => Args
  kind
    | .args => .slice
    | _ => .struct
  zero
    | .multiAddress => MultiAddress.zero
    | .multiSignature => MultiSignature.zero
    | .extrinsicEra => ExtrinsicEra.zero
    | .uCompact => (0 : Int)
    | .callIndex => CallIndex.zero
    | .args => ([] : List UInt8)
  holder
    | .multiAddress, _ => MultiAddress.zero
    | .multiSignature, _ => MultiSignature.zero
    | .extrinsicEra, _ => ExtrinsicEra.zero
    | .uCompact, _ => (0 : Int)
    | .callIndex, _ => CallIndex.zero
    | .args, target => List.replicate (List.length (α := UInt8) target) (0 : UInt8)
  encode
    | .multiAddress => MultiAddress.encode
    | .multiSignature => MultiSignature.encode
    | .extrinsicEra => ExtrinsicEra.encode
    | .uCompact => UCompact.encode
    | .callIndex => CallIndex.encode
    | .args => Args.encode
  decode
    | .multiAddress => MultiAddress.decode
    | .multiSignature => MultiSignature.decode
    | .extrinsicEra => ExtrinsicEra.decode
    | .uCompact => fun _ => UCompact.decode
    | .callIndex => CallIndex.decode
    | .args => Args.decode

/-- `types.ExtrinsicSignatureV4`. -/
structure ExtrinsicSignatureV4 where
  signer : MultiAddress
  signature : MultiSignature
  era : ExtrinsicEra
  nonce : UCompact
  tip : UCompact
  deriving DecidableEq

/-- The reflected type of `ExtrinsicSignatureV4`. -/
def extrinsicSignatureV4 : GoType partTypes :=
  .struct (.cons .plain (.method .multiAddress) (.cons .plain (.method .multiSignature)
    (.cons .plain (.method .extrinsicEra) (.cons .plain (.method .uCompact)
      (.cons .plain (.method .uCompact) .nil)))))

namespace ExtrinsicSignatureV4

/-- The zero value. -/
def zero : ExtrinsicSignatureV4 :=
  ⟨MultiAddress.zero, MultiSignature.zero, ExtrinsicEra.zero, (0 : Int), (0 : Int)⟩

/-- The fields as reflection sees them. -/
def reflect (signature : ExtrinsicSignatureV4) : extrinsicSignatureV4.Val :=
  (signature.signer, signature.signature, signature.era, signature.nonce, signature.tip, ())

/-- The struct with the given reflected fields. -/
def ofReflect : extrinsicSignatureV4.Val → ExtrinsicSignatureV4 :=
  fun (signer, signature, era, nonce, tip, _) => ⟨signer, signature, era, nonce, tip⟩

end ExtrinsicSignatureV4

/-- `types.Call`. -/
structure Call where
  callIndex : CallIndex
  args : Args
  deriving DecidableEq

/-- The reflected type of `Call`. -/
def callType : GoType partTypes :=
  .struct (.cons .plain (.method .callIndex) (.cons .plain (.method .args) .nil))

namespace Call

/-- The zero value. -/
def zero : Call := ⟨CallIndex.zero, []⟩

/-- The fields as reflection sees them. -/
def reflect (call : Call) : callType.Val := (call.callIndex, call.args, ())

/-- The struct with the given reflected fields. -/
def ofReflect : callType.Val → Call := fun (callIndex, args, _) => ⟨callIndex, args⟩

/-- `codec.Encode` of a call. -/
def encode (call : Call) : Written := callType.encode call.reflect

/-- `Decode` into a call. -/
def decode (target : Call) : Decoder Call := do
  let value ← callType.decode target.reflect
  pure (ofReflect value)

end Call

/-- `ExtrinsicBitSigned`. -/
def extrinsicBitSigned : UInt8 := 0x80

/-- `ExtrinsicUnmaskVersion`. -/
def extrinsicUnmaskVersion : UInt8 := 0x7f

/-- `ExtrinsicVersion4`. -/
def extrinsicVersion4 : UInt8 := 4

/-- The highest bit of the version byte. -/
def versionIsSigned (version : UInt8) : Bool := version &&& extrinsicBitSigned == extrinsicBitSigned

/-- The lower bits of the version byte. -/
def versionType (version : UInt8) : UInt8 := version &&& extrinsicUnmaskVersion

/-- The error for a version other than four. -/
def unsupportedVersion (version : UInt8) : GoError :=
  .text ("unsupported extrinsic version: " ++ toString version.toNat ++ " (isSigned: " ++
    toString (versionIsSigned version) ++ ", type: " ++ toString (versionType version).toNat ++ ")")

/-- `types.Extrinsic`. -/
structure Extrinsic where
  version : UInt8
  signature : ExtrinsicSignatureV4
  method : Call
  deriving DecidableEq

namespace Extrinsic

/-- The zero value. -/
def zero : Extrinsic := ⟨0, ExtrinsicSignatureV4.zero, Call.zero⟩

/-- `Extrinsic.IsSigned`. -/
def isSigned (extrinsic : Extrinsic) : Bool := versionIsSigned extrinsic.version

/-- `Extrinsic.Type`. -/
def type (extrinsic : Extrinsic) : UInt8 := versionType extrinsic.version

/-- The signature part of `Extrinsic.Encode`. -/
def encodeSignature (extrinsic : Extrinsic) : Written :=
  if extrinsic.isSigned then extrinsicSignatureV4.encode extrinsic.signature.reflect else .ok []

/-- The temporary buffer of `Extrinsic.Encode`: version, signature if signed, call. -/
def encodeBody (extrinsic : Extrinsic) : Written := do
  let version ← (GoType.num .u8 : GoType .none).encode extrinsic.version
  let signature ← extrinsic.encodeSignature
  let method ← extrinsic.method.encode
  pure (version ++ (signature ++ method))

/-- `Extrinsic.Encode`. -/
def encode (extrinsic : Extrinsic) : Written :=
  if extrinsic.type ≠ extrinsicVersion4 then
    .error (unsupportedVersion extrinsic.version)
  else do
    let body ← extrinsic.encodeBody
    let length ← encodeUintCompact body.length
    pure (length ++ body)

/-- The signature as `Extrinsic.Decode` reads it after the version byte. -/
def decodeSignature (version : UInt8) (target : ExtrinsicSignatureV4) :
    Decoder ExtrinsicSignatureV4 :=
  if versionIsSigned version then
    if versionType version ≠ extrinsicVersion4 then
      ByteParser.fail (unsupportedVersion version)
    else do
      let value ← extrinsicSignatureV4.decode target.reflect
      pure (ExtrinsicSignatureV4.ofReflect value)
  else
    pure target

theorem decodeSignature_signed {version : UInt8} (signed : versionIsSigned version = true)
    (four : versionType version = extrinsicVersion4) (target : ExtrinsicSignatureV4) :
    decodeSignature version target = (do
      let value ← extrinsicSignatureV4.decode target.reflect
      pure (ExtrinsicSignatureV4.ofReflect value)) := by
  rw [decodeSignature, if_pos signed, if_neg (not_not.mpr four)]

theorem decodeSignature_unsigned {version : UInt8} (unsigned : ¬ versionIsSigned version = true)
    (target : ExtrinsicSignatureV4) : decodeSignature version target = pure target := by
  rw [decodeSignature, if_neg unsigned]

/-- `Extrinsic.Decode`. -/
def decode (target : Extrinsic) : Decoder Extrinsic := do
  let _ ← decodeUintCompact
  let version ← (GoType.num .u8 : GoType .none).decode target.version
  let signature ← decodeSignature version target.signature
  let method ← Call.decode target.method
  pure ⟨version, signature, method⟩

end Extrinsic

end SubstrateClient.Types
