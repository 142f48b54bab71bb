import SubstrateClient.ByteParser
import SubstrateClient.LittleEndian

/-!
# Byte streams and compact integers of the scale codec

The decoder reads from an in-memory byte reader, so its state is the list of unread bytes.  The
encoder appends to a buffer, so encoding returns the bytes written.
-/

namespace SubstrateClient

/-- Error values.  Texts that print a reflected type are not modelled. -/
inductive GoError where
  /-- `io.EOF`. -/
  | eof
  /-- `io.ErrUnexpectedEOF`. -/
  | unexpectedEOF
  /-- A plain error, given by its text. -/
  | text (message : String)
  /-- A plain error that prints strings of its input, given by the bytes of its text. -/
  | printed (message : List UInt8)
  /-- A struct field that could not be encoded or decoded. -/
  | fieldByField (inner : GoError)
  /-- A constant of type `libErr.Error`, given by its text. -/
  | declared (message : String)
  /-- `Error.WithMsg`. -/
  | withMsg (base : GoError) (message : String)
  /-- `Error.Wrap`. -/
  | wrap (outer inner : GoError)
  /-- `fmt.Errorf` with a text before the wrapped error. -/
  | annotated (message : String) (inner : GoError)
  deriving DecidableEq, Repr

/-- The declared constant is part of the chain of an error. -/
def GoError.mentions (constant : String) : GoError → Bool
  | declared message => message = constant
  | fieldByField inner => inner.mentions constant
  | withMsg base _ => base.mentions constant
  | wrap outer inner => outer.mentions constant || inner.mentions constant
  | annotated _ inner => inner.mentions constant
  | _ => false

namespace GoError

variable (constant message : String) (inner outer : GoError)

@[simp]
theorem mentions_eof : eof.mentions constant = false := rfl

@[simp]
theorem mentions_unexpectedEOF : unexpectedEOF.mentions constant = false := rfl

@[simp]
theorem mentions_text : (text message).mentions constant = false := rfl

@[simp]
theorem mentions_declared : (declared message).mentions constant = decide (message = constant) := rfl

@[simp]
theorem mentions_fieldByField : (fieldByField inner).mentions constant = inner.mentions constant := rfl

@[simp]
theorem mentions_withMsg : (withMsg inner message).mentions constant = inner.mentions constant := rfl

@[simp]
theorem mentions_wrap :
    (wrap outer inner).mentions constant = (outer.mentions constant || inner.mentions constant) := rfl

end GoError

namespace Scale

/-- A decoding step of `scale.Decoder`. -/
abbrev Decoder (α : Type) : Type := ByteParser GoError α

/-- The bytes an encoding step of `scale.Encoder` writes. -/
abbrev Written : Type := Outcome GoError (List UInt8)

/-- `Decoder.Read` into a buffer of `count` bytes, over `bytes.Reader`. -/
def read (count : Nat) : Decoder (List UInt8) := fun input =>
  if input = [] then
    .error .eof
  else if input.length < count then
    .error (.text ("Cannot read the required number of bytes " ++ toString count ++ ", only " ++
      toString input.length ++ " available"))
  else
    .ok (input.take count, input.drop count)

/-- `Decoder.ReadOneByte`. -/
def readOneByte : Decoder UInt8 := fun input =>
  match input with
  | [] => .error .eof
  | byte :: rest => .ok (byte, rest)

@[simp]
theorem readOneByte_nil : readOneByte [] = .error .eof := rfl

@[simp]
theorem readOneByte_cons (byte : UInt8) (rest : List UInt8) :
    readOneByte (byte :: rest) = .ok (byte, rest) := rfl

theorem reads_readOneByte (byte : UInt8) : ByteParser.Reads readOneByte [byte] byte :=
  fun _ => rfl

theorem reads_read {bytes : List UInt8} (nonempty : bytes ≠ []) :
    ByteParser.Reads (read bytes.length) bytes bytes := by
  intro rest
  simp [read, nonempty]

theorem read_of_le {count : Nat} {input : List UInt8} (count_pos : 1 ≤ count)
    (enough : count ≤ input.length) : read count input = .ok (input.take count, input.drop count) := by
  have nonempty : input ≠ [] := List.ne_nil_of_length_pos (by omega)
  simp only [read, nonempty, if_false, not_lt.mpr enough]

theorem read_of_lt {count : Nat} {input : List UInt8} (short : input.length < count) :
    ∃ reason, read count input = .error reason := by
  by_cases empty : input = []
  · exact ⟨_, by simp only [read, empty, if_true]; rfl⟩
  · exact ⟨_, by simp only [read, empty, short, if_false, if_true]; rfl⟩

theorem delimited_readOneByte : ByteParser.Delimited readOneByte := by
  intro input value rest success
  cases input with
  | nil => simp at success
  | cons byte input =>
      rw [readOneByte_cons] at success
      cases success
      exact ⟨[value], rfl, reads_readOneByte value⟩

theorem delimited_read {count : Nat} (count_pos : 0 < count) :
    ByteParser.Delimited (read count) := by
  intro input value rest success
  have enough : count ≤ input.length := by
    by_contra short
    obtain ⟨reason, failed⟩ := read_of_lt (not_le.mp short)
    rw [success] at failed
    cases failed
  rw [read_of_le count_pos enough] at success
  cases success
  have width : (input.take count).length = count := by simp [enough]
  have reads := reads_read (List.ne_nil_of_length_pos (by omega : 0 < (input.take count).length))
  rw [width] at reads
  exact ⟨input.take count, (List.take_append_drop count input).symm, reads⟩

/-- `EncodeUintCompact`. -/
def encodeUintCompact (value : Int) : Written :=
  if value < 0 then
    .error (.text "Assertion error: EncodeUintCompact cannot process negative numbers")
  else
    let number := value.toNat
    if number < 2 ^ 30 then
      if number < 2 ^ 6 then
        .ok [UInt8.ofNat number <<< 2]
      else if number < 2 ^ 14 then
        .ok (LittleEndian.ofNat 2 ((UInt64.ofNat number <<< 2).toUInt16 + 1).toNat)
      else
        .ok (LittleEndian.ofNat 4 ((UInt64.ofNat number <<< 2).toUInt32 + 2).toNat)
    else
      let buffer := LittleEndian.shortest number
      if 255 < buffer.length then
        .error (.text "Assertion error: numBytes>255 exeeds allowed for length prefix")
      else
        let topSixBits := UInt8.ofNat (buffer.length - 4)
        if 63 < topSixBits then
          .error
            (.text "Assertion error: n<=63 needed to compact-encode substrate unsigned big integer")
        else
          .ok ((topSixBits <<< 2 + 3) :: buffer)

/-- `DecodeUintCompact`. -/
def decodeUintCompact : Decoder Nat := do
  let first ← readOneByte
  if first &&& 3 = 0 then
    pure (first >>> 2).toNat
  else if first &&& 3 = 1 then
    let second ← readOneByte
    pure ((UInt64.ofNat second.toNat <<< 6) + UInt64.ofNat (first >>> 2).toNat).toNat
  else if first &&& 3 = 2 then
    let buffer ← read 3
    pure ((UInt32.ofNat (LittleEndian.toNat (first :: buffer))) >>> 2).toNat
  else
    let extra := first >>> 2
    if 63 < extra then
      ByteParser.fail
        (.text "Not supported: l>63 encountered when decoding a compact-encoded uint")
    else
      let buffer ← read (extra + 4).toNat
      pure (LittleEndian.toNat buffer)

/-! ## The four modes in natural-number arithmetic -/

private theorem and_three_eq_iff (byte mode : UInt8) :
    byte &&& 3 = mode ↔ byte.toNat % 4 = mode.toNat := by
  rw [← UInt8.toNat_inj, UInt8.toNat_and]
  rw [show (3 : UInt8).toNat = 2 ^ 2 - 1 from rfl, Nat.and_two_pow_sub_one_eq_mod]

private theorem toNat_shiftRight_two (byte : UInt8) : (byte >>> 2).toNat = byte.toNat / 4 := by
  rw [UInt8.toNat_shiftRight]
  exact Nat.shiftRight_eq_div_pow byte.toNat 2

private theorem modes_distinct :
    ¬ (1 : UInt8) = 0 ∧ ¬ (2 : UInt8) = 0 ∧ ¬ (2 : UInt8) = 1 ∧ ¬ (3 : UInt8) = 0 ∧
      ¬ (3 : UInt8) = 1 ∧ ¬ (3 : UInt8) = 2 := by
  decide

theorem decodeUintCompact_nil : decodeUintCompact [] = .error .eof := rfl

theorem decodeUintCompact_mode0 {first : UInt8} (mode : first.toNat % 4 = 0)
    (rest : List UInt8) : decodeUintCompact (first :: rest) = .ok (first.toNat / 4, rest) := by
  have is_mode : first &&& 3 = 0 := (and_three_eq_iff first 0).mpr mode
  simp only [decodeUintCompact, ByteParser.bind_apply, readOneByte_cons, Outcome.ok_bind, is_mode,
    if_true, ByteParser.pure_apply, toNat_shiftRight_two]

/-- The number read in mode one. -/
private theorem mode1_value (first second : UInt8) :
    ((UInt64.ofNat second.toNat <<< 6) + UInt64.ofNat (first >>> 2).toNat).toNat =
      second.toNat * 64 + first.toNat / 4 := by
  have first_lt := first.toNat_lt
  have second_lt := second.toNat_lt
  rw [UInt64.toNat_add, UInt64.toNat_shiftLeft, toNat_shiftRight_two]
  simp only [UInt64.toNat_ofNat', Nat.shiftLeft_eq]
  rw [show (6 : UInt64).toNat % 64 = 6 from rfl]
  omega

theorem decodeUintCompact_mode1 {first : UInt8} (mode : first.toNat % 4 = 1) (second : UInt8)
    (rest : List UInt8) :
    decodeUintCompact (first :: second :: rest) =
      .ok (second.toNat * 64 + first.toNat / 4, rest) := by
  have is_mode : first &&& 3 = 1 := (and_three_eq_iff first 1).mpr mode
  simp only [decodeUintCompact, ByteParser.bind_apply, readOneByte_cons, Outcome.ok_bind, is_mode,
    modes_distinct, if_false, if_true, ByteParser.pure_apply, mode1_value]

/-- The number read in mode two. -/
private theorem mode2_value {bytes : List UInt8} (width : bytes.length = 4) :
    ((UInt32.ofNat (LittleEndian.toNat bytes)) >>> 2).toNat = LittleEndian.toNat bytes / 4 := by
  have bound := LittleEndian.toNat_lt bytes
  rw [width, show 256 ^ 4 = 2 ^ 32 from rfl] at bound
  rw [UInt32.toNat_shiftRight, UInt32.toNat_ofNat', Nat.mod_eq_of_lt bound]
  exact Nat.shiftRight_eq_div_pow _ 2

theorem decodeUintCompact_mode2 {first : UInt8} (mode : first.toNat % 4 = 2)
    {buffer : List UInt8} (width : buffer.length = 3) (rest : List UInt8) :
    decodeUintCompact (first :: buffer ++ rest) =
      .ok (LittleEndian.toNat (first :: buffer) / 4, rest) := by
  have is_mode : first &&& 3 = 2 := (and_three_eq_iff first 2).mpr mode
  have reads : read 3 (buffer ++ rest) = .ok (buffer, rest) := by
    rw [← width]
    exact reads_read (List.ne_nil_of_length_pos (by omega)) rest
  have value := mode2_value (show (first :: buffer).length = 4 by simp [width])
  simp only [List.cons_append, decodeUintCompact, ByteParser.bind_apply, readOneByte_cons,
    Outcome.ok_bind, is_mode, modes_distinct, if_false, if_true, reads, ByteParser.pure_apply,
    value]

theorem decodeUintCompact_mode3 {first : UInt8} (mode : first.toNat % 4 = 3)
    {buffer : List UInt8} (width : buffer.length = first.toNat / 4 + 4) (rest : List UInt8) :
    decodeUintCompact (first :: buffer ++ rest) = .ok (LittleEndian.toNat buffer, rest) := by
  have first_lt := first.toNat_lt
  have is_mode : first &&& 3 = 3 := (and_three_eq_iff first 3).mpr mode
  have small : ¬ (63 : UInt8) < first >>> 2 := by
    rw [UInt8.lt_iff_toNat_lt, toNat_shiftRight_two]
    change ¬ 63 < first.toNat / 4
    omega
  have count : (first >>> 2 + 4).toNat = buffer.length := by
    rw [UInt8.toNat_add, toNat_shiftRight_two, width]
    change (first.toNat / 4 + 4) % 256 = _
    omega
  have reads : read buffer.length (buffer ++ rest) = .ok (buffer, rest) :=
    reads_read (List.ne_nil_of_length_pos (by omega)) rest
  simp only [List.cons_append, decodeUintCompact, ByteParser.bind_apply, readOneByte_cons,
    Outcome.ok_bind, is_mode, modes_distinct, if_false, small, count, reads, ByteParser.pure_apply]

end Scale
end SubstrateClient
