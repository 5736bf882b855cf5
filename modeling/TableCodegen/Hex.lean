import TableCodegen.Text
import TableCodegen.Text.Escaped

/-!
# Hexadecimal strings

Two digits of either case make a byte. Reading works on the UTF-8 form: an odd number of bytes is
reported before anything else, then the leftmost byte that is no digit, with its index, and shown
as the character whose code point it is.
-/

namespace TableCodegen
namespace Hex

/-- Why a text is not a string of hexadecimal byte pairs. -/
inductive Error where
  /-- The UTF-8 form has an odd number of bytes. -/
  | oddLength
  /-- The byte at `index` of the UTF-8 form is no digit. -/
  | invalidByte (byte : UInt8) (index : Nat)
  deriving DecidableEq, Repr

/-- What is wrong with the digits, in words. -/
def Error.message : Error → Text
  | .oddLength => "Odd number of digits".toList
  | .invalidByte byte index =>
    "Invalid character ".toList ++ Text.escapedChar (Char.ofNat byte.toNat)
      ++ " at position ".toList ++ Text.decimal index

/-- The value of a digit. -/
def digitValue? (b : UInt8) : Option UInt8 :=
  if 0x30 ≤ b && b ≤ 0x39 then some (b - 0x30)
  else if 0x41 ≤ b && b ≤ 0x46 then some (b - 0x41 + 10)
  else if 0x61 ≤ b && b ≤ 0x66 then some (b - 0x61 + 10)
  else none

/-- The bytes that pairs of digits stand for; `index` is the place of the first digit. -/
def decodePairs : Nat → Bytes → Except Error Bytes
  | _, [] => .ok []
  | _, [_] => .error .oddLength
  | index, high :: low :: rest =>
    match digitValue? high, digitValue? low with
    | none, _ => .error (.invalidByte high index)
    | some _, none => .error (.invalidByte low (index + 1))
    | some h, some l => (decodePairs (index + 2) rest).map fun bytes => (h * 16 + l) :: bytes

/-- The bytes that a text stands for. -/
def decode (t : Text) : Except Error Bytes :=
  if (Text.utf8 t).length % 2 = 1 then .error .oddLength else decodePairs 0 (Text.utf8 t)

/-- A digit of value below sixteen, in small letters. -/
def digit (n : Nat) : Char := Nat.digitChar n

/-- A byte as two digits in small letters. -/
def encodeByte (b : UInt8) : Text := [digit (b.toNat / 16), digit (b.toNat % 16)]

/-- Bytes as pairs of digits in small letters. -/
def encode (bytes : Bytes) : Text := bytes.flatMap encodeByte

end Hex
end TableCodegen
