import LiquidityReturns.Text.Hexadecimal
import LiquidityReturns.Text.Utf8

namespace LiquidityReturns

/-!
# Percent encoding

A byte may be written as a percent sign and two hexadecimal digits.  Encoding
writes the bytes of some characters in this way and keeps the others; decoding
leaves a percent sign alone that no two digits follow.
-/

namespace Web.Percent

/-- A byte as a percent sign and two digits. -/
def escape (byte : UInt8) : List Char :=
  ['%', Text.hexDigit (byte.toNat / 16), Text.hexDigit (byte.toNat % 16)]

/-- Encode the characters for which the test holds. -/
def encode (mustEscape : Char → Bool) (characters : List Char) : List Char :=
  characters.flatMap fun character =>
    if mustEscape character then
      (String.utf8EncodeChar character).flatMap escape
    else
      [character]

/-- The value of a byte that is a hexadecimal digit. -/
def digitOfByte? (byte : UInt8) : Option Nat :=
  Text.hexValue? (Char.ofNat byte.toNat)

def byteOfDigits? (high low : UInt8) : Option UInt8 := do
  let high ← digitOfByte? high
  let low ← digitOfByte? low
  return UInt8.ofNat (16 * high + low)

def mark : UInt8 :=
  0x25

/-- Decode the escapes of a sequence of bytes. -/
def decode : List UInt8 → List UInt8
  | first :: high :: low :: rest =>
      if first = mark then
        match byteOfDigits? high low with
        | some byte =>
            byte :: decode rest
        | none =>
            first :: decode (high :: low :: rest)
      else
        first :: decode (high :: low :: rest)
  | bytes =>
      bytes

end Web.Percent

end LiquidityReturns
