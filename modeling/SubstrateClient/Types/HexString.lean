import SubstrateClient.HexText
import SubstrateClient.Scale.Compact

/-!
# Values in hexadecimal text

The functions of `types/codec` that write a value as a text of digits behind `0x` and read it back.
A text is the list of its characters.
-/

namespace SubstrateClient.Types

open ByteParser Scale HexText

variable {α : Type}

/-- A JSON value, as far as reading it into a string distinguishes them. -/
inductive JsonValue where
  | string (text : List Char)
  | null
  /-- A value of another kind, with the word the error has for it. -/
  | other (description : String)
  deriving DecidableEq

/-- `json.Unmarshal` into an empty string. -/
def unmarshalString : JsonValue → Outcome GoError (List Char)
  | .string text => .ok text
  | .null => .ok []
  | .other description =>
      .error (.text ("json: cannot unmarshal " ++ description ++ " into Go value of type string"))

/-- `HexDecodeString`.  The error does not name the character it is about. -/
def hexDecodeString (text : List Char) : Outcome GoError (List UInt8) :=
  let trimmed := if ['0', 'x'] <+: text then text.drop 2 else text
  let padded := if trimmed.length % 2 ≠ 0 then '0' :: trimmed else trimmed
  match ofDigits padded with
  | some bytes => .ok bytes
  | none => .error (.text "encoding/hex: invalid byte")

/-- `fmt.Sprintf("%#x", bytes)`, which prints nothing for no bytes. -/
def sharpHex (bytes : List UInt8) : List Char :=
  if bytes = [] then [] else '0' :: 'x' :: digits .lower bytes

/-- `EncodeToHex`, given what the value is encoded as. -/
def encodeToHex (encoded : Written) : Outcome GoError (List Char) := do
  let bytes ← encoded
  pure (sharpHex bytes)

/-- `codec.Decode`, given how the target is decoded.  What is left of the bytes is dropped. -/
def decodeWhole (decoder : Decoder α) (bytes : List UInt8) : Outcome GoError α := do
  let result ← decoder bytes
  pure result.1

/-- `DecodeFromHex`, given how the target is decoded. -/
def decodeFromHex (decoder : Decoder α) (text : List Char) : Outcome GoError α := do
  let bytes ← hexDecodeString text
  decodeWhole decoder bytes

theorem decodeWhole_eq_ok {decoder : Decoder α} {bytes : List UInt8} {value : α} :
    decodeWhole decoder bytes = .ok value ↔ ∃ rest, decoder bytes = .ok (value, rest) := by
  rw [decodeWhole, Outcome.bind_eq_ok]
  constructor
  · rintro ⟨⟨read, rest⟩, decoded, returned⟩
    cases returned
    exact ⟨rest, decoded⟩
  · rintro ⟨rest, decoded⟩
    exact ⟨(value, rest), decoded, rfl⟩

/-- The text of a byte string behind `0x`, in digits of either case. -/
def hexText (letters : LetterCase) (bytes : List UInt8) : List Char :=
  '0' :: 'x' :: digits letters bytes

theorem hexDecodeString_hexText (letters : LetterCase) (bytes : List UInt8) :
    hexDecodeString (hexText letters bytes) = .ok bytes := by
  have even : ¬ (digits letters bytes).length % 2 ≠ 0 := by
    rw [length_digits]
    omega
  have marked : ['0', 'x'] <+: hexText letters bytes := ⟨digits letters bytes, rfl⟩
  have trimmed : (hexText letters bytes).drop 2 = digits letters bytes := rfl
  simp only [hexDecodeString, if_pos marked, trimmed, if_neg even, ofDigits_digits]

theorem decodeFromHex_hexText (decoder : Decoder α) (letters : LetterCase) (bytes : List UInt8) :
    decodeFromHex decoder (hexText letters bytes) = decodeWhole decoder bytes := by
  rw [decodeFromHex, hexDecodeString_hexText]
  rfl

/-- The common text of the two `UnmarshalJSON` methods of extrinsics, given the `Decode` method of
the receiver.  Whether the length is there is found out by decoding a compact number from the front
of the text and comparing the text with that number's own. -/
def unmarshalExtrinsic (decoder : Decoder α) (value : JsonValue) : Outcome GoError α := do
  let tmp ← unmarshalString value
  let l ← decodeFromHex UCompact.decode tmp
  let header ← encodeToHex l.encode
  if header <+: tmp then
    decodeFromHex decoder tmp
  else do
    let dec ← hexDecodeString tmp
    let lengthBytes ← encodeUintCompact dec.length
    decodeWhole decoder (lengthBytes ++ dec)

/-- The bytes that are handed to the `Decode` method. -/
def extrinsicBytes (value : JsonValue) : Outcome GoError (List UInt8) := do
  let tmp ← unmarshalString value
  let l ← decodeFromHex UCompact.decode tmp
  let header ← encodeToHex l.encode
  if header <+: tmp then
    hexDecodeString tmp
  else do
    let dec ← hexDecodeString tmp
    let lengthBytes ← encodeUintCompact dec.length
    pure (lengthBytes ++ dec)

/-- The bytes do not depend on the receiver. -/
theorem unmarshalExtrinsic_eq (decoder : Decoder α) (value : JsonValue) :
    unmarshalExtrinsic decoder value = extrinsicBytes value >>= decodeWhole decoder := by
  simp only [unmarshalExtrinsic, extrinsicBytes, bind_assoc]
  congr 1
  funext tmp
  congr 1
  funext l
  congr 1
  funext header
  split_ifs with seen
  · rfl
  · simp only [bind_assoc, pure_bind]

theorem unmarshalExtrinsic_eq_ok {decoder : Decoder α} {value : JsonValue} {result : α} :
    unmarshalExtrinsic decoder value = .ok result ↔
      ∃ bytes rest, extrinsicBytes value = .ok bytes ∧ decoder bytes = .ok (result, rest) := by
  simp only [unmarshalExtrinsic_eq, Outcome.bind_eq_ok, decodeWhole_eq_ok, exists_and_left]

/-- On the text of bytes that begin with the compact form of a number, that form is taken for the
length when its digits are seen in the text, and a length is put in front otherwise. -/
theorem unmarshalExtrinsic_hexText (decoder : Decoder α) (letters : LetterCase) {number : Nat}
    (number_lt : number < 2 ^ 536) (rest : List UInt8) :
    unmarshalExtrinsic decoder (.string (hexText letters (compactBytes number ++ rest))) =
      if letters = .upper → LetterFree (compactBytes number) then
        decodeWhole decoder (compactBytes number ++ rest)
      else
        encodeUintCompact (compactBytes number ++ rest).length >>= fun lengthBytes =>
          decodeWhole decoder (lengthBytes ++ (compactBytes number ++ rest)) := by
  have number_read : decodeWhole UCompact.decode (compactBytes number ++ rest) =
      .ok ((number : Int) : UCompact) := by
    have reads := (reads_compactBytes number_lt).bind_pure fun number => ((number : Int) : UCompact)
    exact decodeWhole_eq_ok.mpr ⟨rest, reads rest⟩
  have number_encoded : UCompact.encode ((number : Int) : UCompact) = .ok (compactBytes number) :=
    encodeUintCompact_eq number_lt
  have seen_iff : sharpHex (compactBytes number) <+: hexText letters (compactBytes number ++ rest) ↔
      (letters = .upper → LetterFree (compactBytes number)) := by
    rw [sharpHex, if_neg (compactBytes_ne_nil number), hexText, List.cons_prefix_cons,
      List.cons_prefix_cons, digits_lower_prefix_iff]
    simp
  change (decodeFromHex UCompact.decode _ >>= _) = _
  rw [decodeFromHex_hexText, number_read]
  change (encodeToHex (UCompact.encode ((number : Int) : UCompact)) >>= _) = _
  rw [encodeToHex, number_encoded]
  change (if sharpHex (compactBytes number) <+: _ then _ else _) = _
  simp only [seen_iff, decodeFromHex_hexText, hexDecodeString_hexText, Outcome.ok_bind]

end SubstrateClient.Types
