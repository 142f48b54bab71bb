import SubstrateClient.Registry.Decoder
import SubstrateClient.Scale.RoundTrip

/-!
# Wire forms

The byte strings that the decoders accept, as a grammar: which bytes stand for which value.  The
canonical grammar asks for compact integers in their shortest form and for sequence lengths that a Go
slice can hold; the plain grammar has, besides, only what the reflective encoder writes in the same way.
Bit sequences are left out.
-/

namespace SubstrateClient.Registry

open ByteParser Scale SubstrateClient.Types

/-- The two grammars. -/
inductive Form where
  /-- Shortest compact integers and uncut lengths. -/
  | canonical
  /-- Only what is written back as it was read. -/
  | plain
  deriving DecidableEq, Repr

/-- Bytes of a scalar. -/
inductive ScalarForm (form : Form) : ValueKind → Scalar → List UInt8 → Prop
  | bool {byte : UInt8} (flag : form = .plain → byte = 0 ∨ byte = 1) :
      ScalarForm form .bool (.bool (decide (byte ≠ 0))) [byte]
  | byte (value : UInt8) : ScalarForm form .byte (.byte value) [value]
  | string {text : List UInt8} (short : text.length ≤ maxUint32) :
      ScalarForm form .string (.string text) (compactBytes text.length ++ text)
  | num {kind : NumKind} {bytes : List UInt8} (width : bytes.length = kind.size) :
      ScalarForm form (.num kind) (.num kind (kind.ofBits (LittleEndian.toNat bytes))) bytes
  | big {kind : BigKind} {bytes : List UInt8} (width : bytes.length = kind.size) :
      ScalarForm form (.big kind) (.big kind (kind.ofBits (LittleEndian.toNat bytes))) bytes
  | uCompact {number : Nat} (bound : number < 2 ^ 536) :
      ScalarForm form .uCompact (.uCompact (number : Int)) (compactBytes number)

/-- Items one after another. -/
inductive ItemsForm (below : Value → List UInt8 → Prop) : List Value → List UInt8 → Prop
  | nil : ItemsForm below [] []
  | cons {value : Value} {bytes : List UInt8} {values : List Value} {later : List UInt8}
      (first : below value bytes) (others : ItemsForm below values later) :
      ItemsForm below (value :: values) (bytes ++ later)

/-- Fields one after another. -/
inductive FieldsForm (below : FieldDecoder → Value → List UInt8 → Prop) :
    List (Field FieldDecoder) → DecodedFields → List UInt8 → Prop
  | nil : FieldsForm below [] [] []
  | cons {field : Field FieldDecoder} {value : Value} {bytes : List UInt8}
      {fields : List (Field FieldDecoder)} {values : DecodedFields} {later : List UInt8}
      (first : below field.decoder value bytes) (others : FieldsForm below fields values later) :
      FieldsForm below (field :: fields) (⟨field.name, value, field.lookupIndex⟩ :: values)
        (bytes ++ later)

/-- One layer of a wire form over the forms of the decoders below. -/
inductive Layer (form : Form) (cells : Cells) (below : FieldDecoder → Value → List UInt8 → Prop) :
    FieldDecoder → Value → List UInt8 → Prop
  | noop : Layer form cells below .noop .nil []
  | bare {fieldDecoderMap : List (UInt8 × FieldDecoder)} {variantByte : UInt8}
      (selected : fieldDecoderMap.lookup variantByte = some .noop) :
      Layer form cells below (.variant fieldDecoderMap) (.scalar (.byte variantByte)) [variantByte]
  | variant {fieldDecoderMap : List (UInt8 × FieldDecoder)} {variantByte : UInt8}
      {variantDecoder : FieldDecoder} {value : Value} {bytes : List UInt8}
      (loose : form = .canonical)
      (selected : fieldDecoderMap.lookup variantByte = some variantDecoder)
      (filled : variantDecoder.isNoop = false) (body : below variantDecoder value bytes) :
      Layer form cells below (.variant fieldDecoderMap) value (variantByte :: bytes)
  /-- The index of the variant happens to be the compact form of the number of its fields. -/
  | counted {fieldDecoderMap : List (UInt8 × FieldDecoder)} {variantByte : UInt8} {name : String}
      {fields : List (Field FieldDecoder)} {values : DecodedFields} {bytes : List UInt8}
      (selected : fieldDecoderMap.lookup variantByte = some (.composite name fields))
      (each : FieldsForm below fields values bytes)
      (count : variantByte.toNat = 4 * fields.length) :
      Layer form cells below (.variant fieldDecoderMap) (.fields values) (variantByte :: bytes)
  | array {item : FieldDecoder} {values : List Value} {bytes : List UInt8} (loose : form = .canonical)
      (present : item.isNil = false) (short : values.length ≤ maxSliceCap)
      (each : ItemsForm (below item) values bytes) :
      Layer form cells below (.array values.length item) (.slice values) bytes
  | slice {item : FieldDecoder} {values : List Value} {bytes : List UInt8}
      (present : item.isNil = false) (short : values.length ≤ maxSliceCap)
      (writable : form = .plain → values.length ≤ maxUint32 ∧ ∀ value ∈ values, value.isNil = false)
      (each : ItemsForm (below item) values bytes) :
      Layer form cells below (.slice item) (.slice values) (compactBytes values.length ++ bytes)
  | composite {name : String} {fields : List (Field FieldDecoder)} {values : DecodedFields}
      {bytes : List UInt8} (loose : form = .canonical) (each : FieldsForm below fields values bytes) :
      Layer form cells below (.composite name fields) (.fields values) bytes
  | value {kind : ValueKind} {scalar : Scalar} {bytes : List UInt8}
      (spelled : ScalarForm form kind scalar bytes) :
      Layer form cells below (.value kind) (.scalar scalar) bytes
  | recursive {cell : Nat} {inner : FieldDecoder} {value : Value} {bytes : List UInt8}
      (set : cells[cell]? = some inner) (present : inner.isNil = false)
      (body : below inner value bytes) : Layer form cells below (.recursive cell) value bytes
  /-- A decoder of a client that writes back what it reads. -/
  | custom {run : ByteParser String Value} {value : Value} {bytes : List UInt8}
      (reads : Reads run bytes value) (written : value.encode = .ok bytes) :
      Layer form cells below (.custom run) value bytes

/-- The bytes stand for the value under the decoder, at most so many layers deep. -/
def WireForm (form : Form) (cells : Cells) : Nat → FieldDecoder → Value → List UInt8 → Prop
  | 0 => fun _ _ _ => False
  | depth + 1 => Layer form cells (WireForm form cells depth)

/-- The bytes stand for some values of the fields of a type decoder. -/
def TypeDecoder.Accepts (form : Form) (cells : Cells) (typeDecoder : TypeDecoder)
    (bytes : List UInt8) : Prop :=
  ∃ depth values, FieldsForm (WireForm form cells depth) typeDecoder.fields values bytes

/-! ## More layers -/

section Depth

variable {form : Form} {cells : Cells}

theorem ItemsForm.imp {below above : Value → List UInt8 → Prop} {values : List Value}
    {bytes : List UInt8} (weaken : ∀ value bytes, below value bytes → above value bytes)
    (each : ItemsForm below values bytes) : ItemsForm above values bytes := by
  induction each with
  | nil => exact .nil
  | cons first _ ih => exact .cons (weaken _ _ first) ih

theorem FieldsForm.imp {below above : FieldDecoder → Value → List UInt8 → Prop}
    {fields : List (Field FieldDecoder)} {values : DecodedFields} {bytes : List UInt8}
    (weaken : ∀ decoder value bytes, below decoder value bytes → above decoder value bytes)
    (each : FieldsForm below fields values bytes) : FieldsForm above fields values bytes := by
  induction each with
  | nil => exact .nil
  | cons first _ ih => exact .cons (weaken _ _ _ first) ih

theorem Layer.imp {below above : FieldDecoder → Value → List UInt8 → Prop} {decoder : FieldDecoder}
    {value : Value} {bytes : List UInt8}
    (weaken : ∀ decoder value bytes, below decoder value bytes → above decoder value bytes)
    (layer : Layer form cells below decoder value bytes) :
    Layer form cells above decoder value bytes := by
  cases layer with
  | noop => exact .noop
  | bare selected => exact .bare selected
  | variant loose selected filled body => exact .variant loose selected filled (weaken _ _ _ body)
  | counted selected each count => exact .counted selected (each.imp weaken) count
  | array loose present short each => exact .array loose present short (each.imp (weaken _))
  | slice present short writable each => exact .slice present short writable (each.imp (weaken _))
  | composite loose each => exact .composite loose (each.imp weaken)
  | value spelled => exact .value spelled
  | recursive set present body => exact .recursive set present (weaken _ _ _ body)
  | custom reads written => exact .custom reads written

theorem WireForm.deeper {depth : Nat} {decoder : FieldDecoder} {value : Value} {bytes : List UInt8}
    (spelled : WireForm form cells depth decoder value bytes) :
    WireForm form cells (depth + 1) decoder value bytes := by
  induction depth generalizing decoder value bytes with
  | zero => cases spelled
  | succ depth ih => exact Layer.imp (fun _ _ _ => ih) spelled

/-! ## Plain byte strings are canonical -/

theorem ScalarForm.canonical {kind : ValueKind} {scalar : Scalar} {bytes : List UInt8}
    (spelled : ScalarForm .plain kind scalar bytes) : ScalarForm .canonical kind scalar bytes := by
  cases spelled with
  | bool flag => exact .bool fun impossible => by cases impossible
  | byte value => exact .byte value
  | string short => exact .string short
  | num width => exact .num width
  | big width => exact .big width
  | uCompact bound => exact .uCompact bound

theorem Layer.canonical {below : FieldDecoder → Value → List UInt8 → Prop} {decoder : FieldDecoder}
    {value : Value} {bytes : List UInt8} (layer : Layer .plain cells below decoder value bytes) :
    Layer .canonical cells below decoder value bytes := by
  cases layer with
  | noop => exact .noop
  | bare selected => exact .bare selected
  | variant loose => cases loose
  | counted selected each count => exact .counted selected each count
  | array loose => cases loose
  | slice present short writable each => exact .slice present short (fun impossible => by cases impossible) each
  | composite loose => cases loose
  | value spelled => exact .value spelled.canonical
  | recursive set present body => exact .recursive set present body
  | custom reads written => exact .custom reads written

theorem WireForm.canonical {depth : Nat} {decoder : FieldDecoder} {value : Value} {bytes : List UInt8}
    (spelled : WireForm .plain cells depth decoder value bytes) :
    WireForm .canonical cells depth decoder value bytes := by
  induction depth generalizing decoder value bytes with
  | zero => cases spelled
  | succ depth ih => exact Layer.imp (fun _ _ _ => ih) (Layer.canonical spelled)

/-- A plain byte string of a type is a canonical one. -/
theorem TypeDecoder.Accepts.canonical {typeDecoder : TypeDecoder} {bytes : List UInt8}
    (plain : typeDecoder.Accepts .plain cells bytes) : typeDecoder.Accepts .canonical cells bytes := by
  obtain ⟨depth, values, each⟩ := plain
  exact ⟨depth, values, each.imp fun _ _ _ => WireForm.canonical⟩

end Depth

/-! ## Reading wire forms -/

section Reading

variable {form : Form} {cells : Cells}

/-- A string is written as its length and its bytes. -/
theorem encode_string_eq {text : List UInt8} (short : text.length ≤ maxUint32) :
    (Scalar.string text).encode = .ok (compactBytes text.length ++ text) := by
  have chunks : text.mapM (fun byte => (.ok [byte] : Written)) = .ok (text.map fun byte => [byte]) :=
    Outcome.mapM_eq_ok.mpr (List.forall₂_map_right_iff.mpr (List.forall₂_same.mpr fun _ _ => rfl))
  have joined : (text.map fun byte => [byte]).flatten = text := by
    rw [← List.flatMap_def, List.flatMap_singleton']
  have length_lt : text.length < 2 ^ 536 := lt_compact_bound (by unfold maxUint32 at short; omega)
  change encodeSlice _ text = _
  rw [encodeSlice, if_neg (not_lt.mpr short), encodeUintCompact_eq length_lt, chunks]
  simp only [Outcome.ok_bind, Outcome.pure_eq, joined]

theorem ScalarForm.reads {kind : ValueKind} {scalar : Scalar} {bytes : List UInt8}
    (spelled : ScalarForm form kind scalar bytes) : Reads kind.decode bytes scalar := by
  cases spelled with
  | @bool byte flag =>
      have reads := (reads_binaryRead one_pos (show [byte].length = 1 from rfl)).bind_pure
        fun bytes => decide (LittleEndian.toNat bytes ≠ 0)
      have same : decide (LittleEndian.toNat [byte] ≠ 0) = decide (byte ≠ 0) := by
        simp [LittleEndian.toNat, ← UInt8.toNat_inj]
      rw [same] at reads
      exact Reads.bind_pure reads Scalar.bool
  | byte value => exact Reads.bind_pure (reads_decodeByte 0 value) Scalar.byte
  | @string text short =>
      obtain ⟨bytes, encoded, reads⟩ : ∃ bytes, (Scalar.string text).encode = .ok bytes ∧
          Reads ((GoType.string : GoType .none).decode ([] : List UInt8)) bytes text :=
        string_roundTrip short
      rw [encode_string_eq short] at encoded
      cases encoded
      exact Reads.bind_pure reads Scalar.string
  | @num kind bytes width =>
      exact Reads.bind_pure ((reads_binaryRead kind.size_pos width).bind_pure _) (Scalar.num kind)
  | @big kind bytes width =>
      have nonempty : bytes ≠ [] := by
        refine List.ne_nil_of_length_pos ?_
        rw [width]
        cases kind <;> decide
      have reads := (reads_read nonempty).bind_pure fun bytes => kind.ofBits (LittleEndian.toNat bytes)
      rw [width] at reads
      exact Reads.bind_pure reads (Scalar.big kind)
  | uCompact bound =>
      exact Reads.bind_pure ((reads_compactBytes bound).bind_pure fun number => (number : Int))
        Scalar.uCompact

theorem ItemsForm.reads {below : Value → List UInt8 → Prop} {item : Decoder Value}
    {values : List Value} {bytes : List UInt8}
    (each_reads : ∀ value bytes, below value bytes → Reads item bytes value)
    (each : ItemsForm below values bytes) : Reads (times item values.length) bytes values := by
  induction each with
  | nil => exact reads_pure []
  | cons first _ ih => exact (each_reads _ _ first).bind (ih.bind_pure _)

theorem FieldsForm.reads {below : FieldDecoder → Value → List UInt8 → Prop}
    {decodeValue : FieldDecoder → Decoder Value} {fields : List (Field FieldDecoder)}
    {values : DecodedFields} {bytes : List UInt8}
    (each_reads : ∀ decoder value bytes, below decoder value bytes →
      Reads (decodeValue decoder) bytes value)
    (each : FieldsForm below fields values bytes) :
    Reads (FieldDecoder.decodeFields decodeValue fields) bytes values := by
  induction each with
  | nil => exact reads_pure []
  | cons first _ ih =>
      rw [FieldDecoder.decodeFields, List.mapM_cons]
      exact ((each_reads _ _ _ first).bind_pure _).bind (ih.bind_pure _)

theorem reads_bare {decodeValue : FieldDecoder → Decoder Value}
    {fieldDecoderMap : List (UInt8 × FieldDecoder)} {variantByte : UInt8}
    (selected : fieldDecoderMap.lookup variantByte = some .noop) :
    Reads (FieldDecoder.decodeVariant decodeValue fieldDecoderMap) [variantByte]
      (.scalar (.byte variantByte)) := by
  change Reads _ ([variantByte] ++ []) _
  refine ((reads_readOneByte variantByte).mapError _).bind ?_
  rw [selected]
  exact reads_pure _

theorem reads_decodeVariant {decodeValue : FieldDecoder → Decoder Value}
    {fieldDecoderMap : List (UInt8 × FieldDecoder)} {variantByte : UInt8}
    {variantDecoder : FieldDecoder} {value : Value} {bytes : List UInt8}
    (selected : fieldDecoderMap.lookup variantByte = some variantDecoder)
    (filled : variantDecoder.isNoop = false) (body : Reads (decodeValue variantDecoder) bytes value) :
    Reads (FieldDecoder.decodeVariant decodeValue fieldDecoderMap) (variantByte :: bytes) value := by
  refine ((reads_readOneByte variantByte).mapError _).bind ?_
  simpa only [selected, filled, Bool.false_eq_true, if_false] using body

theorem reads_decodeSlots {below : Value → List UInt8 → Prop} {item : Decoder Value}
    {values : List Value} {bytes : List UInt8} (short : values.length ≤ maxSliceCap)
    (each_reads : ∀ value bytes, below value bytes → Reads item bytes value)
    (each : ItemsForm below values bytes) :
    Reads (FieldDecoder.decodeItems item values.length) bytes (.slice values) := by
  rw [FieldDecoder.decodeItems, if_neg (by simpa [FieldDecoder.grantsCapacity_eq_false] using short)]
  exact (each.reads each_reads).bind_pure _

theorem WireForm.isNil {depth : Nat} {decoder : FieldDecoder} {value : Value} {bytes : List UInt8}
    (spelled : WireForm form cells depth decoder value bytes) : decoder.isNil = false := by
  cases depth with
  | zero => cases spelled
  | succ depth => cases (show Layer form cells _ _ _ _ from spelled) <;> rfl

/-- Decoding reads every wire form, with two calls of `Decode` for a layer. -/
theorem WireForm.reads {depth : Nat} {decoder : FieldDecoder} {value : Value} {bytes : List UInt8}
    (spelled : WireForm form cells depth decoder value bytes) :
    Reads (decoder.decode cells (2 * depth)) bytes value := by
  induction depth generalizing decoder value bytes with
  | zero => cases spelled
  | succ depth ih =>
      have richer : ∀ decoder value bytes, WireForm form cells depth decoder value bytes →
          Reads (decoder.decode cells (2 * depth + 1)) bytes value := fun decoder value bytes below rest =>
        (FieldDecoder.settles_decode cells (2 * depth) decoder).ok (ih below rest)
      rw [Nat.mul_succ]
      cases (show Layer form cells (WireForm form cells depth) decoder value bytes from spelled) with
      | noop => exact reads_pure _
      | bare selected => exact reads_bare selected
      | variant loose selected filled body =>
          exact reads_decodeVariant selected filled (richer _ _ _ body)
      | counted selected each count =>
          refine reads_decodeVariant selected rfl (Reads.bind_pure (each.reads fun _ _ _ below => ?_) _)
          exact (ih below).mapError _
      | array loose present short each =>
          rw [FieldDecoder.decode_array, present]
          exact reads_decodeSlots short (fun _ _ below => (richer _ _ _ below).mapError _) each
      | @slice item values bytes present short writable each =>
          have small : values.length < 2 ^ 64 := short.trans_lt (by norm_num [maxSliceCap])
          rw [FieldDecoder.decode_slice, present]
          refine ((reads_compactBytes (lt_compact_bound small)).mapError _).bind ?_
          rw [Nat.mod_eq_of_lt small]
          exact reads_decodeSlots short (fun _ _ below => (richer _ _ _ below).mapError _) each
      | composite loose each =>
          refine Reads.bind_pure (each.reads fun _ _ _ below => ?_) _
          exact (richer _ _ _ below).mapError _
      | value spelled => exact Reads.bind_pure (spelled.reads.mapError _) _
      | recursive set present body =>
          rw [FieldDecoder.decode_recursive _ set present]
          exact richer _ _ _ body
      | custom reads written => exact reads.mapError _

end Reading

end SubstrateClient.Registry
