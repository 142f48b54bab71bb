import SubstrateClient.Types.ExtrinsicRoundTrip
import SubstrateClient.Chain.GenericExtrinsic

/-!
# How far an extrinsic is read

Both decoders of extrinsics read the length in front of an extrinsic and drop it.  The arguments of
the call run to the end of the input, so an extrinsic takes in everything behind its length, whatever
the length says.
-/

namespace SubstrateClient.Chain

open ByteParser Scale SubstrateClient.Types

section Extent

variable {α β : Type}

/-- A successful run leaves nothing unread. -/
def TakesAll (parser : Decoder α) : Prop :=
  ∀ input value rest, parser input = .ok (value, rest) → rest = []

theorem TakesAll.of_bind {parser : Decoder α} {next : α → Decoder β}
    (second : ∀ value, TakesAll (next value)) : TakesAll (parser >>= next) := by
  intro input value rest success
  obtain ⟨first, middle, -, continued⟩ := bind_eq_ok.mp success
  exact second first middle value rest continued

theorem TakesAll.bind_pure {parser : Decoder α} (first : TakesAll parser) (transform : α → β) :
    TakesAll (parser >>= fun value => pure (transform value)) := by
  intro input value rest success
  obtain ⟨read, middle, parsed, returned⟩ := bind_eq_ok.mp success
  cases returned
  exact first input read rest parsed

/-- A compact length in front of the input bounds a successful run: that many bytes follow it, and
exactly those are read. -/
def LengthBinding (parser : Decoder α) : Prop :=
  ∀ (number : Nat) (header tail : List UInt8), encodeUintCompact number = .ok header →
    ∀ value unread, parser (header ++ tail) = .ok (value, unread) →
      number ≤ tail.length ∧ unread = tail.drop number

/-- A compact length in front of the input is read and has no effect. -/
structure LengthIgnored (parser : Decoder α) : Prop where
  /-- Any other length gives the same outcome. -/
  same_outcome : ∀ (number other : Nat) (header header' tail : List UInt8),
    encodeUintCompact number = .ok header → encodeUintCompact other = .ok header' →
      parser (header ++ tail) = parser (header' ++ tail)
  /-- A successful run takes in all that follows the length. -/
  takes_all : ∀ (number : Nat) (header tail : List UInt8), encodeUintCompact number = .ok header →
    ∀ value unread, parser (header ++ tail) = .ok (value, unread) → unread = []
  /-- A successful run reads as many bytes as announced exactly when no more and no fewer follow. -/
  extent_iff : ∀ (number : Nat) (header tail : List UInt8), encodeUintCompact number = .ok header →
    ∀ value unread, parser (header ++ tail) = .ok (value, unread) →
      ((number ≤ tail.length ∧ unread = tail.drop number) ↔ tail.length = number)

/-- A length that is read and dropped in front of a body that takes in everything is ignored. -/
theorem lengthIgnored_of_takesAll {body : Decoder α} (all : TakesAll body) :
    LengthIgnored (decodeUintCompact >>= fun _ => body) := by
  have outcome : ∀ (number : Nat) (header tail : List UInt8),
      encodeUintCompact number = .ok header →
        (decodeUintCompact >>= fun _ => body) (header ++ tail) = body tail := by
    intro number header tail encoded
    rw [bind_apply, reads_of_encodeUintCompact encoded tail]
    rfl
  have takes : ∀ (number : Nat) (header tail : List UInt8), encodeUintCompact number = .ok header →
      ∀ value unread, (decodeUintCompact >>= fun _ => body) (header ++ tail) = .ok (value, unread) →
        unread = [] := by
    intro number header tail encoded value unread success
    rw [outcome number header tail encoded] at success
    exact all tail value unread success
  refine ⟨?_, takes, ?_⟩
  · intro number other header header' tail encoded encoded'
    rw [outcome number header tail encoded, outcome other header' tail encoded']
  · intro number header tail encoded value unread success
    rw [takes number header tail encoded value unread success, eq_comm, List.drop_eq_nil_iff]
    omega

end Extent

/-- A call takes in everything behind its index. -/
theorem takesAll_call (target : Call) : TakesAll (Call.decode target) := by
  intro input call rest success
  obtain ⟨value, middle, parsed, returned⟩ := bind_eq_ok.mp success
  cases returned
  obtain ⟨after_index, -, parsed⟩ := GoFields.decode_plain_eq_ok.mp parsed
  obtain ⟨after_args, args_eq, no_more⟩ := GoFields.decode_plain_eq_ok.mp parsed
  cases no_more
  have args_read : Args.decode (List.replicate (List.length (α := UInt8) target.args) (0 : UInt8))
      after_index = .ok (value.2.1, rest) := args_eq
  exact (congrArg Prod.snd (Outcome.ok.inj args_read)).symm

theorem lengthIgnored_decode (target : Types.Extrinsic) :
    LengthIgnored (Types.Extrinsic.decode target) :=
  lengthIgnored_of_takesAll <| .of_bind fun version => .of_bind fun signature =>
    (takesAll_call target.method).bind_pure (Types.Extrinsic.mk version signature)

theorem lengthIgnored_generic_decode (signer signature paymentFields : GoType partTypes)
    (target : Extrinsic signer signature paymentFields) :
    LengthIgnored (Extrinsic.decode signer signature paymentFields target) :=
  lengthIgnored_of_takesAll <| .of_bind fun version => .of_bind fun decoded =>
    (takesAll_call target.method).bind_pure (Extrinsic.mk version decoded)

/-! ## Lists of extrinsics -/

/-- `types.Extrinsic` as the only type with methods. -/
def extrinsicTypes : MethodTypes where
  Name := Unit
  Carrier := fun _ => Types.Extrinsic
  kind := fun _ => .struct
  zero := fun _ => Types.Extrinsic.zero
  holder := fun _ _ => Types.Extrinsic.zero
  encode := fun _ => Types.Extrinsic.encode
  decode := fun _ => Types.Extrinsic.decode

/-- `[]types.Extrinsic`. -/
def extrinsics : GoType extrinsicTypes := .slice (.method ())

/-- A slice of extrinsics without spare capacity. -/
def extrinsicSlice (list : List Types.Extrinsic) : extrinsics.Val :=
  (⟨list, []⟩ : GoSlice Types.Extrinsic)

/-- The extrinsic with more bytes behind its arguments. -/
def withTrailing (extrinsic : Types.Extrinsic) (trailing : List UInt8) : Types.Extrinsic :=
  { extrinsic with method := ⟨extrinsic.method.callIndex, extrinsic.method.args ++ trailing⟩ }

theorem withTrailing_nil (extrinsic : Types.Extrinsic) : withTrailing extrinsic [] = extrinsic := by
  simp [withTrailing]

/-- An encoded extrinsic is its body behind the length of the body. -/
theorem encode_eq_ok {extrinsic : Types.Extrinsic} {written : List UInt8}
    (encoded : extrinsic.encode = .ok written) :
    ∃ header signature body, encodeUintCompact body.length = .ok header ∧
      extrinsic.encodeSignature = .ok signature ∧ written = header ++ body ∧
      body = extrinsic.version :: (signature ++ (extrinsic.method.callIndex.sectionIndex ::
        extrinsic.method.callIndex.methodIndex :: extrinsic.method.args)) := by
  unfold Types.Extrinsic.encode at encoded
  split_ifs at encoded
  obtain ⟨body, body_eq, encoded⟩ := Outcome.bind_eq_ok.mp encoded
  obtain ⟨header, header_eq, returned⟩ := Outcome.bind_eq_ok.mp encoded
  cases returned
  obtain ⟨version, version_eq, body_eq⟩ := Outcome.bind_eq_ok.mp body_eq
  obtain ⟨signature, signature_eq, body_eq⟩ := Outcome.bind_eq_ok.mp body_eq
  obtain ⟨method, method_eq, returned⟩ := Outcome.bind_eq_ok.mp body_eq
  cases returned
  rw [encode_u8] at version_eq
  cases version_eq
  rw [Call.encode_eq] at method_eq
  cases method_eq
  exact ⟨header, signature, _, header_eq, signature_eq, rfl, rfl⟩

/-- A raw address is encoded only if it is not too long. -/
theorem raw_short_of_encode {address : MultiAddress} {written : List UInt8}
    (well : address.WellFormed) (encoded : address.encode = .ok written) :
    address.asRaw.length ≤ maxUint32 := by
  by_cases raw : address.isRaw = true
  · rcases well.forms with form | form | form | form | form
    · rw [form] at raw
      cases raw
    · rw [form] at raw
      cases raw
    · rw [form] at encoded
      by_contra long
      have refused : encodeBytes address.asRaw =
          .error (.text "Attempted to serialize a collection with too many elements.") :=
        if_pos (not_le.mp long)
      have raw_form : (encodeBytes address.asRaw >>= fun bytes => .ok (2 :: bytes)) = .ok written :=
        encoded
      rw [refused] at raw_form
      cases raw_form
    · rw [form] at raw
      cases raw
    · rw [form] at raw
      cases raw
  · rw [well.raw_zero (by simpa using raw)]
    exact Nat.zero_le _

theorem raw_short_of_encodeSignature {extrinsic : Types.Extrinsic} {signature : List UInt8}
    (well : extrinsic.WellFormed) (encoded : extrinsic.encodeSignature = .ok signature) :
    extrinsic.signature.signer.asRaw.length ≤ maxUint32 := by
  by_cases signed : extrinsic.isSigned = true
  · have fields_eq := (if_pos signed).symm.trans encoded
    obtain ⟨signer, _, signer_eq, -⟩ := GoFields.encode_plain_eq_ok.mp fields_eq
    exact raw_short_of_encode (well.signed signed).signer signer_eq
  · rw [well.unsigned (by simpa using signed)]
    exact Nat.zero_le _

/-- Whatever follows an encoded extrinsic becomes part of its arguments. -/
theorem decode_append {extrinsic : Types.Extrinsic} {written : List UInt8}
    (well : extrinsic.WellFormed) (encoded : extrinsic.encode = .ok written)
    (trailing : List UInt8) :
    Types.Extrinsic.decode Types.Extrinsic.zero (written ++ trailing) =
      .ok (withTrailing extrinsic trailing, []) := by
  obtain ⟨header, signature, body, header_eq, signature_eq, rfl, rfl⟩ := encode_eq_ok encoded
  have short := raw_short_of_encodeSignature well signature_eq
  obtain ⟨_, same, -, signature_reads⟩ := Types.Extrinsic.signature_reads well short
  rw [signature_eq] at same
  cases same
  rw [List.append_assoc]
  refine bind_eq_ok.mpr ⟨_, _, reads_of_encodeUintCompact header_eq _, ?_⟩
  rw [List.cons_append, List.append_assoc]
  refine bind_eq_ok.mpr ⟨_, _, reads_u8 0 extrinsic.version _, ?_⟩
  refine bind_eq_ok.mpr ⟨_, _, signature_reads _, ?_⟩
  exact bind_eq_ok.mpr ⟨_, _, Call.decode_encode
    ⟨extrinsic.method.callIndex, extrinsic.method.args ++ trailing⟩, rfl⟩

/-- Behind its length a list of extrinsics is decoded one by one, each into a new holder. -/
theorem decode_extrinsics_eq {count : Nat} {header : List UInt8} (short : count ≤ maxUint32)
    (header_eq : encodeUintCompact count = .ok header) (input : List UInt8) :
    extrinsics.decode extrinsics.zero (header ++ input) =
      ((List.replicate count Types.Extrinsic.zero).mapM (fun _ =>
        Types.Extrinsic.decode Types.Extrinsic.zero) >>= fun elems =>
          pure (extrinsicSlice elems)) input := by
  have slice_form : extrinsics.decode extrinsics.zero =
      decodeSlice ampleMemory Types.Extrinsic.zero (fun _ => Types.Extrinsic.decode Types.Extrinsic.zero)
        ⟨[], []⟩ := rfl
  rw [slice_form, decodeSlice, reads_of_encodeUintCompact header_eq input]
  change decodeItems _ _ _ _ count input = _
  rw [decodeItems_ample _ _ _ short, resize_empty]
  rfl

/-- Decoding an encoded list of extrinsics: the first one takes in all the others, so a second one
finds nothing to read. -/
theorem decode_extrinsics {list : List Types.Extrinsic} {written : List UInt8}
    (well : ∀ extrinsic ∈ list, extrinsic.WellFormed)
    (encoded : extrinsics.encode (extrinsicSlice list) = .ok written) :
    (list.length ≤ 1 → extrinsics.decode extrinsics.zero written = .ok (extrinsicSlice list, [])) ∧
      (1 < list.length → extrinsics.decode extrinsics.zero written = .error .eof) := by
  have slice_form : encodeSlice Types.Extrinsic.encode list = .ok written := encoded
  unfold encodeSlice at slice_form
  split_ifs at slice_form with long
  obtain ⟨header, header_eq, slice_form⟩ := Outcome.bind_eq_ok.mp slice_form
  obtain ⟨chunks, chunks_eq, returned⟩ := Outcome.bind_eq_ok.mp slice_form
  cases returned
  rw [decode_extrinsics_eq (not_lt.mp long) header_eq]
  cases list with
  | nil =>
      rw [Outcome.mapM_eq_ok, List.forall₂_nil_left_iff] at chunks_eq
      subst chunks_eq
      exact ⟨fun _ => rfl, fun more => absurd more (by simp)⟩
  | cons first others =>
      obtain ⟨chunk, later, first_eq, later_eq, rfl⟩ :=
        List.forall₂_cons_left_iff.mp (Outcome.mapM_eq_ok.mp chunks_eq)
      have first_read := decode_append (well first List.mem_cons_self) first_eq later.flatten
      simp only [List.length_cons, List.replicate_succ, List.mapM_cons, List.flatten_cons,
        bind_apply, first_read, Outcome.ok_bind]
      cases others with
      | nil =>
          cases later_eq
          refine ⟨fun _ => ?_, fun more => absurd more (by simp)⟩
          rw [List.flatten_nil, withTrailing_nil]
          rfl
      | cons second others => exact ⟨fun one => absurd one (by simp), fun _ => rfl⟩

/-- The length in front of an extrinsic is read and ignored by both decoders, and a list of
extrinsics is read back exactly as long as nothing stands behind the first one. -/
theorem extrinsic_extent (target : Types.Extrinsic) (signer signature paymentFields : GoType partTypes)
    (genericTarget : Extrinsic signer signature paymentFields) :
    LengthIgnored (Types.Extrinsic.decode target) ∧
      LengthIgnored (Extrinsic.decode signer signature paymentFields genericTarget) ∧
      ∀ (list : List Types.Extrinsic) (written : List UInt8),
        (∀ extrinsic ∈ list, extrinsic.WellFormed) →
        extrinsics.encode (extrinsicSlice list) = .ok written →
          (list.length ≤ 1 →
            extrinsics.decode extrinsics.zero written = .ok (extrinsicSlice list, [])) ∧
          (1 < list.length → extrinsics.decode extrinsics.zero written = .error .eof) :=
  ⟨lengthIgnored_decode target, lengthIgnored_generic_decode signer signature paymentFields _,
    fun _ _ well encoded => decode_extrinsics well encoded⟩

/-- An unsigned extrinsic of version four with an empty call. -/
def unsignedExtrinsic : Types.Extrinsic := ⟨4, ExtrinsicSignatureV4.zero, Call.zero⟩

theorem unsignedExtrinsic_wellFormed : unsignedExtrinsic.WellFormed where
  version := show versionType 4 = extrinsicVersion4 by decide
  signed signed := absurd signed (show ¬ versionIsSigned 4 = true by decide)
  unsigned _ := rfl

theorem extrinsic_extent_pair :
    extrinsics.decode extrinsics.zero [4, 12, 4, 0, 0] =
        .ok (extrinsicSlice [unsignedExtrinsic], []) ∧
      extrinsics.decode extrinsics.zero [8, 12, 4, 0, 0, 12, 4, 0, 0] = .error .eof := by
  have extent := (extrinsic_extent Types.Extrinsic.zero (.method .multiAddress)
    (.method .multiSignature) defaultPaymentFields (Extrinsic.zero _ _ _)).2.2
  constructor
  · refine (extent [unsignedExtrinsic] _ ?_ rfl).1 (by decide)
    simp [unsignedExtrinsic_wellFormed]
  · refine (extent [unsignedExtrinsic, unsignedExtrinsic] _ ?_ rfl).2 (by decide)
    simp [unsignedExtrinsic_wellFormed]

/-- Three bytes are announced, four follow, and the fourth becomes an argument of the call. -/
theorem not_lengthBinding_decode : ¬ LengthBinding (Types.Extrinsic.decode Types.Extrinsic.zero) := by
  intro binding
  have decoded : Types.Extrinsic.decode Types.Extrinsic.zero ([12] ++ [4, 0, 0, 7]) =
      .ok (withTrailing unsignedExtrinsic [7], []) := by decide
  have extent := binding 3 [12] [4, 0, 0, 7] rfl _ _ decoded
  exact absurd extent.2 (by decide)

end SubstrateClient.Chain
