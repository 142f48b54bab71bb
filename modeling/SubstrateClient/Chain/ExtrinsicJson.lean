import SubstrateClient.Types.HexString
import SubstrateClient.Chain.ExtrinsicExtent

/-!
# Extrinsics in JSON

An extrinsic arrives as a text of hexadecimal digits, with or without the length in front.  The
version byte of an extrinsic is itself a compact number of one byte, so without the length it is
taken for the length; and a length whose digits include letters is recognised in lower case only.
-/

namespace SubstrateClient.Chain

open ByteParser Scale HexText SubstrateClient.Types

/-- `Extrinsic.UnmarshalJSON` of `types`. -/
def unmarshalJSON (value : JsonValue) : Outcome GoError Types.Extrinsic :=
  unmarshalExtrinsic (Types.Extrinsic.decode Types.Extrinsic.zero) value

/-- `Extrinsic.UnmarshalJSON` of `rpc/chain/generic`, with the default parameters. -/
def DefaultExtrinsic.unmarshalJSON (value : JsonValue) : Outcome GoError DefaultExtrinsic :=
  unmarshalExtrinsic DefaultExtrinsic.decode value

/-- The texts in which an extrinsic can arrive. -/
structure TextForm where
  /-- The length stands in front. -/
  hasLength : Bool
  /-- The case of the digits. -/
  letters : LetterCase
  deriving DecidableEq, Repr

/-- The text of an extrinsic with the given length and body. -/
def TextForm.text (form : TextForm) (header body : List UInt8) : JsonValue :=
  .string (hexText form.letters (if form.hasLength then header ++ body else body))

/-! ## What a wrong guess reads -/

/-- A version byte of type four is one of two. -/
theorem version_four {version : UInt8} (four : versionType version = extrinsicVersion4) :
    version = 4 ∨ version = 0x84 := by
  have version_lt := version.toNat_lt
  have low_bits := congrArg UInt8.toNat four
  rw [versionType, UInt8.toNat_and, show extrinsicUnmaskVersion.toNat = 2 ^ 7 - 1 from rfl,
    Nat.and_two_pow_sub_one_eq_mod, show extrinsicVersion4.toNat = 4 from rfl] at low_bits
  rw [← UInt8.toNat_inj, ← UInt8.toNat_inj]
  change version.toNat = 4 ∨ version.toNat = 132
  omega

/-- The parts a successful decoding has read behind the length. -/
theorem decode_eq_ok {header tail rest : List UInt8} {number : Nat} {extrinsic : Types.Extrinsic}
    (header_reads : Reads decodeUintCompact header number)
    (success : Types.Extrinsic.decode Types.Extrinsic.zero (header ++ tail) =
      .ok (extrinsic, rest)) :
    ∃ later call, tail = extrinsic.version :: later ∧
      Types.Extrinsic.decodeSignature extrinsic.version ExtrinsicSignatureV4.zero later =
        .ok (extrinsic.signature, call) ∧
      Call.decode Call.zero call = .ok (extrinsic.method, rest) := by
  obtain ⟨_, _, length_eq, success⟩ := bind_eq_ok.mp success
  rw [header_reads tail] at length_eq
  cases length_eq
  obtain ⟨version, later, version_eq, success⟩ := bind_eq_ok.mp success
  obtain ⟨signature, call, signature_eq, success⟩ := bind_eq_ok.mp success
  obtain ⟨method, after_call, call_eq, returned⟩ := bind_eq_ok.mp success
  cases returned
  cases tail with
  | nil => cases version_eq
  | cons byte after_byte =>
      have byte_read : (GoType.num .u8 : GoType .none).decode Types.Extrinsic.zero.version
          (byte :: after_byte) = .ok (byte, after_byte) := reads_u8 _ byte after_byte
      rw [byte_read] at version_eq
      obtain ⟨rfl, rfl⟩ := Prod.mk.inj (Outcome.ok.inj version_eq)
      exact ⟨_, call, rfl, signature_eq, call_eq⟩

/-- A call is decoded from its own bytes only. -/
theorem bytes_of_decode_call {input rest : List UInt8} {call : Call}
    (success : Call.decode Call.zero input = .ok (call, rest)) :
    input = call.callIndex.sectionIndex :: call.callIndex.methodIndex :: call.args := by
  cases input with
  | nil => cases success
  | cons sectionIndex input =>
      cases input with
      | nil => cases success
      | cons methodIndex args =>
          have read := Call.decode_encode ⟨⟨sectionIndex, methodIndex⟩, args⟩
          rw [read] at success
          cases success
          rfl

/-- An encoded address begins with a small tag. -/
theorem address_tag {address : MultiAddress} {written : List UInt8} (well : address.WellFormed)
    (encoded : address.encode = .ok written) :
    ∃ tag later, written = tag :: later ∧ tag.toNat ≤ 4 := by
  have tagged : ∀ (payload : Written) (tag : UInt8), tag.toNat ≤ 4 →
      (payload >>= fun bytes => .ok (tag :: bytes)) = .ok written →
        ∃ tag later, written = tag :: later ∧ tag.toNat ≤ 4 := by
    intro payload tag tag_le encoded
    obtain ⟨bytes, -, returned⟩ := Outcome.bind_eq_ok.mp encoded
    cases returned
    exact ⟨tag, bytes, rfl, tag_le⟩
  rcases well.forms with form | form | form | form | form
  · rw [form] at encoded
    exact tagged (encodeArray address.asID) 0 (by decide) encoded
  · rw [form] at encoded
    exact tagged (encodeU32 address.asIndex) 1 (by decide) encoded
  · rw [form] at encoded
    exact tagged (encodeBytes address.asRaw) 2 (by decide) encoded
  · rw [form] at encoded
    exact tagged (encodeArray address.asAddress32) 3 (by decide) encoded
  · rw [form] at encoded
    exact tagged (encodeArray address.asAddress20) 4 (by decide) encoded

/-- Read behind any length, the body of a well-formed extrinsic without its version byte is never
taken for the extrinsic. -/
theorem decode_body_tail_ne {extrinsic : Types.Extrinsic} (well : extrinsic.WellFormed)
    {header signature rest : List UInt8} {number : Nat}
    (header_reads : Reads decodeUintCompact header number)
    (signature_eq : extrinsic.encodeSignature = .ok signature) :
    Types.Extrinsic.decode Types.Extrinsic.zero (header ++ (signature ++
      (extrinsic.method.callIndex.sectionIndex :: extrinsic.method.callIndex.methodIndex ::
        extrinsic.method.args))) ≠ .ok (extrinsic, rest) := by
  intro success
  obtain ⟨later, call, tail_eq, decoded, call_eq⟩ := decode_eq_ok header_reads success
  by_cases signed : extrinsic.isSigned = true
  · -- The version would be the tag of the signer's address.
    have fields_eq := (if_pos signed).symm.trans signature_eq
    obtain ⟨signer, others, signer_eq, -, rfl⟩ := GoFields.encode_plain_eq_ok.mp fields_eq
    obtain ⟨tag, after_tag, rfl, tag_le⟩ := address_tag (well.signed signed).signer signer_eq
    rw [List.append_assoc, List.cons_append] at tail_eq
    rw [(List.cons.inj tail_eq).1] at tag_le
    rcases version_four well.version with four | four
    · rw [Types.Extrinsic.isSigned, four] at signed
      cases signed
    · rw [four] at tag_le
      exact absurd tag_le (by decide)
  · -- The call would be shorter than it is.
    rw [Types.Extrinsic.decodeSignature_unsigned signed] at decoded
    obtain rfl : later = call := (Prod.mk.inj (Outcome.ok.inj decoded)).2
    obtain rfl : signature = [] := by
      have empty := (if_neg signed).symm.trans signature_eq
      cases empty
      rfl
    rw [bytes_of_decode_call call_eq] at tail_eq
    have lengths := congrArg List.length tail_eq
    simp at lengths

/-- A compact number in a form that begins with a byte of mode zero is that byte. -/
theorem compactBytes_of_mode0 {number : Nat} (number_lt : number < 2 ^ 536) {first : UInt8}
    {later : List UInt8} (form : compactBytes number = first :: later)
    (mode : first.toNat % 4 = 0) : later = [] := by
  have read := (reads_compactBytes number_lt).apply_self
  rw [form, decodeUintCompact_mode0 mode later] at read
  exact (Prod.mk.inj (Outcome.ok.inj read)).2

/-- Read behind another length, an encoded extrinsic whose own length has letters is never taken
for the extrinsic. -/
theorem decode_twice_headed_ne {extrinsic : Types.Extrinsic} (well : extrinsic.WellFormed)
    {outer body rest : List UInt8} {number inner : Nat} (inner_lt : inner < 2 ^ 536)
    (outer_reads : Reads decodeUintCompact outer number)
    (letters : ¬ LetterFree (compactBytes inner)) :
    Types.Extrinsic.decode Types.Extrinsic.zero (outer ++ (compactBytes inner ++ body)) ≠
      .ok (extrinsic, rest) := by
  intro success
  obtain ⟨later, call, tail_eq, -⟩ := decode_eq_ok outer_reads success
  obtain ⟨first, others, form⟩ := List.exists_cons_of_ne_nil (compactBytes_ne_nil inner)
  rw [form, List.cons_append] at tail_eq
  obtain rfl := (List.cons.inj tail_eq).1
  -- The length would begin with a version byte, which is a length of one byte without letters.
  rcases version_four well.version with four | four
  · rw [four] at form
    rw [compactBytes_of_mode0 inner_lt form (by decide)] at form
    rw [form] at letters
    exact letters (by decide)
  · rw [four] at form
    rw [compactBytes_of_mode0 inner_lt form (by decide)] at form
    rw [form] at letters
    exact letters (by decide)

/-! ## Which texts are read as the extrinsic -/

/-- With the length in front the guess is right, or the length is taken for part of the body. -/
theorem unmarshalJSON_headed_iff {extrinsic : Types.Extrinsic} (well : extrinsic.WellFormed)
    {number : Nat} (number_lt : number < 2 ^ 536) {body : List UInt8}
    (encoded : extrinsic.encode = .ok (compactBytes number ++ body)) (letters : LetterCase) :
    unmarshalJSON (.string (hexText letters (compactBytes number ++ body))) = .ok extrinsic ↔
      (letters = .upper → LetterFree (compactBytes number)) := by
  rw [unmarshalJSON, unmarshalExtrinsic_hexText _ letters number_lt]
  by_cases seen : letters = .upper → LetterFree (compactBytes number)
  · rw [if_pos seen]
    have decoded := decode_append well encoded []
    rw [List.append_nil, withTrailing_nil] at decoded
    exact iff_of_true (decodeWhole_eq_ok.mpr ⟨[], decoded⟩) seen
  · rw [if_neg seen]
    refine iff_of_false (fun success => ?_) seen
    obtain ⟨outer, outer_eq, success⟩ := Outcome.bind_eq_ok.mp success
    obtain ⟨rest, decoded⟩ := decodeWhole_eq_ok.mp success
    exact decode_twice_headed_ne well number_lt (reads_of_encodeUintCompact outer_eq)
      (fun letter_free => seen fun _ => letter_free) decoded

/-- Without the length in front the version byte is taken for the length. -/
theorem unmarshalJSON_headless_ne {extrinsic : Types.Extrinsic} (well : extrinsic.WellFormed)
    {signature : List UInt8} (signature_eq : extrinsic.encodeSignature = .ok signature)
    (letters : LetterCase) :
    unmarshalJSON (.string (hexText letters (extrinsic.version :: (signature ++
      (extrinsic.method.callIndex.sectionIndex :: extrinsic.method.callIndex.methodIndex ::
        extrinsic.method.args))))) ≠ .ok extrinsic := by
  have one_byte : compactBytes (extrinsic.version.toNat / 4) = [extrinsic.version] ∧
      LetterFree [extrinsic.version] := by
    rcases version_four well.version with four | four
    · rw [four]
      exact ⟨rfl, by decide⟩
    · rw [four]
      exact ⟨rfl, by decide⟩
  have number_lt : extrinsic.version.toNat / 4 < 2 ^ 536 := by
    have version_lt := extrinsic.version.toNat_lt
    exact lt_compact_bound (by omega)
  have header_reads := reads_compactBytes number_lt
  intro success
  rw [← List.singleton_append, ← one_byte.1, unmarshalJSON,
    unmarshalExtrinsic_hexText _ letters number_lt, one_byte.1, if_pos fun _ => one_byte.2] at success
  rw [one_byte.1] at header_reads
  obtain ⟨rest, decoded⟩ := decodeWhole_eq_ok.mp success
  exact decode_body_tail_ne well header_reads signature_eq decoded

/-- The text of an extrinsic is read as that extrinsic exactly when it has the length in front and,
in upper-case digits, the length needs no letters. -/
theorem unmarshalJSON_eq_ok_iff {extrinsic : Types.Extrinsic} (well : extrinsic.WellFormed)
    {header body : List UInt8} (header_eq : encodeUintCompact body.length = .ok header)
    (encoded : extrinsic.encode = .ok (header ++ body)) (form : TextForm) :
    unmarshalJSON (form.text header body) = .ok extrinsic ↔
      form.hasLength = true ∧ (form.letters = .upper → LetterFree header) := by
  obtain ⟨number_lt, rfl⟩ := encodeUintCompact_eq_ok header_eq
  obtain ⟨hasLength, letters⟩ := form
  cases hasLength with
  | true => simpa [TextForm.text] using unmarshalJSON_headed_iff well number_lt encoded letters
  | false =>
      obtain ⟨header', signature, body', header_eq', signature_eq, split, body_eq⟩ :=
        encode_eq_ok encoded
      obtain rfl : body = body' := by
        have read := reads_compactBytes number_lt body
        rw [split, reads_of_encodeUintCompact header_eq' body'] at read
        exact (Prod.mk.inj (Outcome.ok.inj read)).2.symm
      subst body_eq
      simpa [TextForm.text] using unmarshalJSON_headless_ne well signature_eq letters

/-! ## The generic extrinsic -/

theorem genericSignature_injective : Function.Injective genericSignature := by
  intro left right same
  obtain ⟨signer, proof, era, nonce, tip⟩ := left
  obtain ⟨signer', proof', era', nonce', tip'⟩ := right
  have fields : ((signer, proof, era, nonce, (tip, ()), ()) :
      MultiAddress × MultiSignature × ExtrinsicEra × UCompact × (UCompact × Unit) × Unit) =
        (signer', proof', era', nonce', (tip', ()), ()) := same
  cases fields
  rfl

/-- One generic extrinsic stands for one plain extrinsic, if unsigned ones have no signature. -/
theorem eq_of_sameReport {left right : Types.Extrinsic} {generic : DefaultExtrinsic}
    (left_report : SameReport left generic) (right_report : SameReport right generic)
    (left_zero : left.isSigned = false → left.signature = ExtrinsicSignatureV4.zero)
    (right_zero : right.isSigned = false → right.signature = ExtrinsicSignatureV4.zero) :
    left = right := by
  have version : left.version = right.version := left_report.version.symm.trans right_report.version
  have method : left.method = right.method := left_report.method.symm.trans right_report.method
  have signed_eq : left.isSigned = right.isSigned := congrArg versionIsSigned version
  have signature : left.signature = right.signature := by
    by_cases signed : left.isSigned = true
    · have same := (left_report.signature signed).symm.trans (right_report.signature (signed_eq ▸ signed))
      exact genericSignature_injective (Option.some.inj same)
    · have unsigned : left.isSigned = false := by simpa using signed
      rw [left_zero unsigned, right_zero (signed_eq ▸ unsigned)]
  cases left
  cases right
  simp_all

/-- A decoded extrinsic that is unsigned has no signature. -/
theorem signature_zero_of_decode {input rest : List UInt8} {extrinsic : Types.Extrinsic}
    (success : Types.Extrinsic.decode Types.Extrinsic.zero input = .ok (extrinsic, rest))
    (unsigned : extrinsic.isSigned = false) : extrinsic.signature = ExtrinsicSignatureV4.zero := by
  obtain ⟨length, _, -, success⟩ := bind_eq_ok.mp success
  obtain ⟨version, _, -, success⟩ := bind_eq_ok.mp success
  obtain ⟨signature, _, signature_eq, success⟩ := bind_eq_ok.mp success
  obtain ⟨method, _, -, returned⟩ := bind_eq_ok.mp success
  cases returned
  have not_signed : ¬ versionIsSigned version = true := by
    rw [show versionIsSigned version = false from unsigned]
    exact Bool.false_ne_true
  rw [Types.Extrinsic.decodeSignature_unsigned not_signed] at signature_eq
  cases signature_eq
  rfl

/-- Both methods agree on every text: the generic one reports a well-formed extrinsic exactly when
the plain one returns it. -/
theorem generic_unmarshalJSON_iff {extrinsic : Types.Extrinsic} (well : extrinsic.WellFormed)
    (value : JsonValue) :
    (∃ generic, DefaultExtrinsic.unmarshalJSON value = .ok generic ∧ SameReport extrinsic generic) ↔
      unmarshalJSON value = .ok extrinsic := by
  rw [unmarshalJSON, unmarshalExtrinsic_eq_ok]
  constructor
  · rintro ⟨generic, success, report⟩
    obtain ⟨bytes, rest, bytes_eq, decoded⟩ := unmarshalExtrinsic_eq_ok.mp success
    obtain ⟨plain, plain_decoded, plain_report⟩ := plain_decode_of_generic decoded
    obtain rfl := eq_of_sameReport plain_report report (signature_zero_of_decode plain_decoded)
      well.unsigned
    exact ⟨bytes, rest, bytes_eq, plain_decoded⟩
  · rintro ⟨bytes, rest, bytes_eq, decoded⟩
    obtain ⟨generic, generic_decoded, report⟩ := generic_decode_of_plain decoded
    exact ⟨generic, unmarshalExtrinsic_eq_ok.mpr ⟨bytes, rest, bytes_eq, generic_decoded⟩, report⟩

/-- A text of a well-formed extrinsic is read as the extrinsic by either method exactly when it has
the length in front and, in upper-case digits, the length needs no letters. -/
theorem unmarshalJSON_both_iff {extrinsic : Types.Extrinsic} (well : extrinsic.WellFormed)
    {header body : List UInt8} (header_eq : encodeUintCompact body.length = .ok header)
    (encoded : extrinsic.encode = .ok (header ++ body)) (form : TextForm) :
    (unmarshalJSON (form.text header body) = .ok extrinsic ↔
        form.hasLength = true ∧ (form.letters = .upper → LetterFree header)) ∧
      ((∃ generic, DefaultExtrinsic.unmarshalJSON (form.text header body) = .ok generic ∧
          SameReport extrinsic generic) ↔
        form.hasLength = true ∧ (form.letters = .upper → LetterFree header)) := by
  have plain_iff := unmarshalJSON_eq_ok_iff well header_eq encoded form
  exact ⟨plain_iff, (generic_unmarshalJSON_iff well _).trans plain_iff⟩

theorem unmarshalJSON_both_unsigned :
    unmarshalJSON (.string (hexText .lower [12, 4, 0, 0])) = .ok unsignedExtrinsic ∧
      ¬ unmarshalJSON (.string (hexText .upper [12, 4, 0, 0])) = .ok unsignedExtrinsic ∧
      ¬ unmarshalJSON (.string (hexText .lower [4, 0, 0])) = .ok unsignedExtrinsic := by
  have both := @unmarshalJSON_both_iff unsignedExtrinsic unsignedExtrinsic_wellFormed [12] [4, 0, 0]
    rfl rfl
  refine ⟨(both ⟨true, .lower⟩).1.mpr (by decide), ?_, ?_⟩
  · exact mt (both ⟨true, .upper⟩).1.mp (by decide)
  · exact mt (both ⟨false, .lower⟩).1.mp (by decide)

/-- Without the length an unsigned extrinsic of three bytes is refused: its version byte is taken
for the length and its first index byte for the version. -/
theorem unmarshalJSON_headless_fails :
    unmarshalJSON (.string ['0', 'x', '0', '4', '0', '0', '0', '0']) =
        .error (.fieldByField (.text "expected more bytes, but could not decode any more")) ∧
      ¬ ∀ (extrinsic : Types.Extrinsic) (header body : List UInt8), extrinsic.WellFormed →
        encodeUintCompact body.length = .ok header → extrinsic.encode = .ok (header ++ body) →
          ∀ form : TextForm, unmarshalJSON (form.text header body) = .ok extrinsic := by
  have refused : unmarshalJSON (.string ['0', 'x', '0', '4', '0', '0', '0', '0']) =
      .error (.fieldByField (.text "expected more bytes, but could not decode any more")) := by
    decide
  refine ⟨refused, fun reads => ?_⟩
  have read := reads unsignedExtrinsic [12] [4, 0, 0] unsignedExtrinsic_wellFormed rfl rfl
    ⟨false, .lower⟩
  have same : unmarshalJSON ((⟨false, .lower⟩ : TextForm).text [12] [4, 0, 0]) =
      unmarshalJSON (.string ['0', 'x', '0', '4', '0', '0', '0', '0']) := rfl
  rw [same, refused] at read
  cases read

end SubstrateClient.Chain
