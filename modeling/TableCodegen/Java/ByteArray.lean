import TableCodegen.Hex

/-!
# Java byte array declarations

Hexadecimal digits become the declaration of a byte array, eight values on a line:

    byte[] name = {
        (byte) 0x01, …, (byte) 0x08,
        (byte) 0x09};

Every value is followed by a comma, but one is followed by the terminator. Where it stands is the
**boundary** rule:

| boundary | terminator behind |
| --- | --- |
| `exact` | the last value |
| `legacy` | the last value if the last line is full, else the last but one (or the only one) |
-/

namespace TableCodegen
namespace Java

/-- Where the terminator of a byte array is placed. -/
inductive Boundary where
  | exact
  | legacy
  deriving DecidableEq, Repr

/-- The number of values on a full line. -/
def valuesPerLine : Nat := 8

/-- The index of the value that the terminator follows, out of `count` values. -/
def Boundary.terminatorIndex (boundary : Boundary) (count : Nat) : Nat :=
  match boundary with
  | .exact => count - 1
  | .legacy => if count % valuesPerLine = 0 then count - 1 else count - 2

/-- A byte value. -/
def byteToken (b : UInt8) : Text := "(byte) 0x".toList ++ Hex.encodeByte b

/-- The value at an index with what stands before and behind it. -/
def byteItem (terminator count index : Nat) (b : UInt8) : Text :=
  (if index % valuesPerLine = 0 then "    ".toList else [' ']) ++ byteToken b
    ++ (if index = terminator then ['\x7d', ';'] else [','])
    ++ (if (index + 1) % valuesPerLine = 0 ∨ index + 1 = count then ['\n'] else [])

/-- The values from an index on. -/
def byteItems (terminator count : Nat) : Nat → Bytes → Text
  | _, [] => []
  | index, b :: bytes =>
    byteItem terminator count index b ++ byteItems terminator count (index + 1) bytes

/-- The declaration of a byte array. -/
def declareBytes (name : Text) (boundary : Boundary) (bytes : Bytes) : Text :=
  "byte[] ".toList ++ name ++ " = \x7b".toList ++
    if bytes.isEmpty then "\x7d;\n".toList
    else '\n' :: byteItems (boundary.terminatorIndex bytes.length) bytes.length 0 bytes

/-- The declaration of the byte array that hexadecimal digits stand for. -/
def declareHex (hex name : Text) (boundary : Boundary) : Except Hex.Error Text :=
  (Hex.decode hex).map (declareBytes name boundary)

end Java
end TableCodegen
