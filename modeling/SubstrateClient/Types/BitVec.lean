import SubstrateClient.Scale.Stream

/-!
# Bit vectors

`types.BitVec` reads a compact number of bits and then as many whole bytes as hold them.  The number
of bytes goes through a `float64`, so the rounding of large numbers is part of the model.
-/

namespace SubstrateClient.Types

open ByteParser Scale

/-- `BitOrder`. -/
inductive BitOrder where
  | lsb0 | msb0
  deriving DecidableEq, Repr

/-- `NewBitOrderFromString`. -/
def newBitOrderFromString (name : String) : Outcome GoError BitOrder :=
  if name = "Lsb0" then .ok .lsb0
  else if name = "Msb0" then .ok .msb0
  else .error (.text ("bit order '" ++ name ++ "' not supported"))

/-- Conversion of a `uint64` to `float64`: 53 significant bits, ties to even. -/
def toFloat64 (number : Nat) : Nat :=
  if number < 2 ^ 53 then
    number
  else
    let unit := 2 ^ (Nat.log2 number - 52)
    let quotient := number / unit
    let remainder := number % unit
    if 2 * remainder < unit ∨ 2 * remainder = unit ∧ quotient % 2 = 0 then
      quotient * unit
    else
      (quotient + 1) * unit

/-- `GetMinimumNumberOfBytes`. -/
def getMinimumNumberOfBytes : Decoder Nat := do
  let number ← decodeUintCompact
  let numberOfBits := number % 2 ^ 64
  if numberOfBits = 0 then
    ByteParser.fail (.text "invalid number of bits")
  else
    pure ((toFloat64 numberOfBits + 7) / 8)

/-- `bits.Reverse8`. -/
def reverse8 (byte : UInt8) : UInt8 :=
  UInt8.ofNat ((List.range 8).foldl (fun bits position =>
    2 * bits + (byte.toNat.testBit position).toNat) 0)

/-- `BitVec.Decode` into a new vector: the byte slice. -/
def BitVec.decode (bitOrder : BitOrder) : Decoder (List UInt8) := do
  let numBytes ← getMinimumNumberOfBytes
  let bytes ← times readOneByte numBytes
  pure (if bitOrder = .lsb0 then bytes.map reverse8 else bytes)

/-- The eight binary digits of a byte, as `%08b` prints them. -/
def binaryDigits (byte : UInt8) : String :=
  String.ofList ((List.range 8).map fun position =>
    if byte.toNat.testBit (7 - position) then '1' else '0')

/-- `BitVec.String`. -/
def BitVec.string (byteSlice : List UInt8) : String :=
  "0b" ++ String.join (byteSlice.map binaryDigits)

end SubstrateClient.Types
