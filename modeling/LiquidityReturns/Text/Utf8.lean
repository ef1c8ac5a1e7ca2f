namespace LiquidityReturns

/-!
# UTF-8

A decoder takes one byte at a time.  Every maximal run of bytes that starts a
character and does not finish it counts as one fault.  Strict decoding admits
no fault, and lenient decoding puts the replacement character in its place.
-/

namespace Text.Utf8

/--
Where a decoder stands: between characters, or inside one that still needs
bytes, of which the next one must lie between two bounds.
-/
inductive State where
  | between
  | inside (value remaining low high : Nat)
  deriving Repr, DecidableEq

/--
What a byte yields at the start of a character: a character, a fault, or
nothing yet.
-/
def start (byte : Nat) : List (Option Char) × State :=
  if byte < 0x80 then
    ([some (Char.ofNat byte)], .between)
  else if 0xC2 ≤ byte ∧ byte ≤ 0xDF then
    ([], .inside (byte - 0xC0) 1 0x80 0xBF)
  else if byte = 0xE0 then
    ([], .inside 0x0 2 0xA0 0xBF)
  else if byte = 0xED then
    ([], .inside 0xD 2 0x80 0x9F)
  else if 0xE1 ≤ byte ∧ byte ≤ 0xEF then
    ([], .inside (byte - 0xE0) 2 0x80 0xBF)
  else if byte = 0xF0 then
    ([], .inside 0x0 3 0x90 0xBF)
  else if 0xF1 ≤ byte ∧ byte ≤ 0xF3 then
    ([], .inside (byte - 0xF0) 3 0x80 0xBF)
  else if byte = 0xF4 then
    ([], .inside 0x4 3 0x80 0x8F)
  else
    ([none], .between)

/-- Add a further byte to a character. -/
def extend (value remaining byte : Nat) : List (Option Char) × State :=
  let extended := value * 0x40 + (byte - 0x80)
  if remaining ≤ 1 then
    ([some (Char.ofNat extended)], .between)
  else
    ([], .inside extended (remaining - 1) 0x80 0xBF)

/-- Take one byte; a byte that cannot extend a character starts the next one. -/
def step (state : State) (byte : Nat) : List (Option Char) × State :=
  match state with
  | .between =>
      start byte
  | .inside value remaining low high =>
      if low ≤ byte ∧ byte ≤ high then
        extend value remaining byte
      else
        let (decoded, next) := start byte
        (none :: decoded, next)

/--
Decode bytes from some state; a character without its last bytes is a fault.
-/
def decodeFrom : State → List UInt8 → List (Option Char)
  | .between, [] =>
      []
  | .inside .., [] =>
      [none]
  | state, byte :: rest =>
      let (decoded, next) := step state byte.toNat
      decoded ++ decodeFrom next rest

/-- Decode bytes without a fault. -/
def decode? (bytes : List UInt8) : Option (List Char) :=
  (decodeFrom .between bytes).mapM id

/-- The character that stands for a fault. -/
def replacement : Char :=
  '\ufffd'

/-- Decode bytes with a replacement character for each fault. -/
def decodeLenient (bytes : List UInt8) : List Char :=
  (decodeFrom .between bytes).map fun decoded => decoded.getD replacement

def encode (characters : List Char) : List UInt8 :=
  characters.flatMap String.utf8EncodeChar

end Text.Utf8

end LiquidityReturns
