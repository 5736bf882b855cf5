import TableCodegen.Toml.Value

/-!
# TOML scalars

Readers for text, numbers, booleans and dates. A reader gives back what it has read and the rest of
the text, or nothing if the form is not there.

| form | examples |
| --- | --- |
| text in one line | `"a\tb"`, `'a\b'` |
| text over lines | between `"""` or `'''`; a line break right behind the opening is dropped |
| integer | `-12`, `1_000`, `0xff`, `0o17`, `0b1`; it has 64 bits |
| float | `1.5`, `-2e10`, `inf`, `+nan`; the nearest of 64 bits |
| date, time | `1979-05-27`, `07:32:00.5`, `1979-05-27T07:32:00Z`, `1979-05-27 07:32:00-07:00` |

Between two digits an underscore may stand, and a decimal number has no zeros in front.
-/

namespace TableCodegen
namespace Toml

/-- The rest of a text without spaces and tabs at its start. -/
def skipBlanks (t : Text) : Text := t.dropWhile fun c => c == ' ' || c == '\t'

/-- What follows a line break, a line feed with or without a carriage return before it. -/
def afterBreak? : Text → Option Text
  | '\n' :: cs => some cs
  | '\r' :: '\n' :: cs => some cs
  | _ => none

/-- Whether a character may stand in text and comments: all but the controls, tab excepted. -/
def isPlain (c : Char) : Bool := c == '\t' || (0x20 ≤ c.toNat && c.toNat != 0x7F)

/-- The number that hexadecimal digits stand for. -/
def hexValue? (digits : Text) : Option Nat :=
  digits.foldl (fun value? c => value?.bind fun value =>
    if Text.isDigit c then some (value * 16 + (c.toNat - '0'.toNat))
    else if 'a' ≤ c && c ≤ 'f' then some (value * 16 + (c.toNat - 'a'.toNat + 10))
    else if 'A' ≤ c && c ≤ 'F' then some (value * 16 + (c.toNat - 'A'.toNat + 10))
    else none) (some 0)

/-- The character whose code point stands at the start of a text in `count` digits. -/
def readCodePoint (count : Nat) (t : Text) : Option (Char × Text) :=
  if (t.take count).length = count then
    match hexValue? (t.take count) with
    | some n => if n.isValidChar then some (Char.ofNat n, t.drop count) else none
    | none => none
  else none

/-- The character that an escape stands for, given behind its backslash. -/
def readEscape : Text → Option (Char × Text)
  | 'b' :: cs => some ('\x08', cs)
  | 't' :: cs => some ('\t', cs)
  | 'n' :: cs => some ('\n', cs)
  | 'f' :: cs => some ('\x0c', cs)
  | 'r' :: cs => some ('\r', cs)
  | '"' :: cs => some ('"', cs)
  | '\\' :: cs => some ('\\', cs)
  | 'u' :: cs => readCodePoint 4 cs
  | 'U' :: cs => readCodePoint 8 cs
  | _ => none

/-- Puts a character in front of a text that has been read. -/
def pushChar (c : Char) : Option (Text × Text) → Option (Text × Text)
  | some (t, rest) => some (c :: t, rest)
  | none => none

/-- Text with escapes up to its closing quote. -/
def readBasic : (bound : Nat) → Text → Option (Text × Text)
  | 0, _ => none
  | bound + 1, t =>
    match t with
    | [] => none
    | '"' :: cs => some ([], cs)
    | '\\' :: cs =>
      match readEscape cs with
      | some (c, rest) => pushChar c (readBasic bound rest)
      | none => none
    | c :: cs => if isPlain c then pushChar c (readBasic bound cs) else none

/-- Text without escapes up to its closing quote. -/
def readLiteral : Text → Option (Text × Text)
  | [] => none
  | c :: cs =>
    if c = '\x27' then some ([], cs) else if isPlain c then pushChar c (readLiteral cs) else none

/-- The number of quotes at the start of a text. -/
def leadingQuotes (quote : Char) (t : Text) : Nat := (t.takeWhile (· == quote)).length

/-- The end of a text over lines, where at least three quotes stand: up to two of them belong to
the text. -/
def closeLines (quote : Char) (t : Text) : Option (Text × Text) :=
  let count := leadingQuotes quote t
  if count ≤ 5 then some (List.replicate (count - 3) quote, t.drop count) else none

/-- What follows a backslash at the end of a line: the next character that is no white space. -/
def afterFoldedLines (t : Text) : Option Text :=
  match afterBreak? (skipBlanks t) with
  | none => none
  | some rest =>
    let rec skipLines : (bound : Nat) → Text → Text
      | 0, t => t
      | bound + 1, t =>
        match afterBreak? (skipBlanks t) with
        | some rest => skipLines bound rest
        | none => skipBlanks t
    some (skipLines rest.length rest)

/-- Text over lines with escapes, up to its closing quotes. -/
def readBasicLines : (bound : Nat) → Text → Option (Text × Text)
  | 0, _ => none
  | bound + 1, t =>
    if 3 ≤ leadingQuotes '"' t then closeLines '"' t
    else
      match t with
      | [] => none
      | '\\' :: cs =>
        match readEscape cs, afterFoldedLines cs with
        | some (c, rest), _ => pushChar c (readBasicLines bound rest)
        | none, some rest => readBasicLines bound rest
        | none, none => none
      | c :: cs =>
        match afterBreak? t with
        | some rest => pushChar '\n' (readBasicLines bound rest)
        | none => if isPlain c then pushChar c (readBasicLines bound cs) else none

/-- Text over lines without escapes, up to its closing quotes. -/
def readLiteralLines : (bound : Nat) → Text → Option (Text × Text)
  | 0, _ => none
  | bound + 1, t =>
    if 3 ≤ leadingQuotes '\x27' t then closeLines '\x27' t
    else
      match t with
      | [] => none
      | c :: cs =>
        match afterBreak? t with
        | some rest => pushChar '\n' (readLiteralLines bound rest)
        | none => if isPlain c then pushChar c (readLiteralLines bound cs) else none

/-- The text behind an opening, without a line break right behind it. -/
def dropFirstBreak (t : Text) : Text := (afterBreak? t).getD t

/-- A text in one of the four forms. -/
def readText (t : Text) : Option (Text × Text) :=
  match t with
  | '"' :: '"' :: '"' :: cs => readBasicLines (cs.length + 1) (dropFirstBreak cs)
  | '\x27' :: '\x27' :: '\x27' :: cs => readLiteralLines (cs.length + 1) (dropFirstBreak cs)
  | '"' :: cs => readBasic (cs.length + 1) cs
  | '\x27' :: cs => readLiteral cs
  | _ => none

/-- Digits with single underscores between them, without the underscores. -/
def readDigits (isDigit : Char → Bool) : Text → Text × Text
  | [] => ([], [])
  | c :: cs =>
    if isDigit c then
      match readDigits isDigit cs with
      | (digits, rest) => (c :: digits, rest)
    else
      match c, cs with
      | '_', d :: _ =>
        if isDigit d then readDigits isDigit cs else ([], c :: cs)
      | _, _ => ([], c :: cs)

/-- At least one digit, with single underscores between digits. -/
def readDigits? (isDigit : Char → Bool) (t : Text) : Option (Text × Text) :=
  match t with
  | c :: _ => if isDigit c then some (readDigits isDigit t) else none
  | [] => none

/-- The digits of a decimal number without zeros in front. -/
def readDecimal? (t : Text) : Option (Text × Text) :=
  match t with
  | '0' :: cs => some (['0'], cs)
  | _ => readDigits? Text.isDigit t

/-- The sign of a number: whether it is negative, and what follows. -/
def readSign (t : Text) : Bool × Text :=
  match t with
  | '-' :: cs => (true, cs)
  | '+' :: cs => (false, cs)
  | cs => (false, cs)

/-- Whether a character is a digit of a base up to sixteen. -/
def isDigitOf (base : Nat) (c : Char) : Bool :=
  match hexValue? [c] with
  | some value => value < base
  | none => false

/-- The number that digits of a base stand for. -/
def valueIn (base : Nat) (digits : Text) : Nat :=
  digits.foldl (fun value c => value * base + (hexValue? [c]).getD 0) 0

/-- An integer of 64 bits. -/
def readInteger (t : Text) : Option (Int × Text) :=
  let based (base : Nat) (digits : Text) : Option (Int × Text) :=
    match readDigits? (isDigitOf base) digits with
    | some (digits, rest) =>
      if Text.fits64 (valueIn base digits) then some (valueIn base digits, rest) else none
    | none => none
  match t with
  | '0' :: 'x' :: cs => based 16 cs
  | '0' :: 'o' :: cs => based 8 cs
  | '0' :: 'b' :: cs => based 2 cs
  | _ =>
    match readSign t with
    | (negative, unsigned) =>
      match readDecimal? unsigned with
      | some (digits, rest) =>
        let n : Int := if negative then -(valueIn 10 digits) else valueIn 10 digits
        if Text.fits64 n then some (n, rest) else none
      | none => none

/-- The exponent of a float, with its sign. -/
def readExponent (t : Text) : Option (Int × Text) :=
  let signed (cs : Text) : Option (Int × Text) :=
    match readSign cs with
    | (negative, unsigned) =>
      (readDigits? Text.isDigit unsigned).map fun read =>
        (if negative then -(valueIn 10 read.1) else valueIn 10 read.1, read.2)
  match t with
  | 'e' :: cs => signed cs
  | 'E' :: cs => signed cs
  | _ => none

/-- The words for floats that are not numbers or not finite. -/
def readFloatWord (negative : Bool) (unsigned : Text) : Option (Float × Text) :=
  match Text.after? "inf".toList unsigned with
  | some rest => some (Decimal.infinity negative, rest)
  | none => (Text.after? "nan".toList unsigned).map fun rest => (Decimal.notANumber, rest)

/-- A float in digits, with a point or an exponent or both. -/
def readFloatDigits (negative : Bool) (unsigned : Text) : Option (Float × Text) :=
  match readDecimal? unsigned with
  | none => none
  | some (whole, rest) =>
    let fraction? := match rest with
      | '.' :: cs => readDigits? Text.isDigit cs
      | _ => none
    let (fraction, behind) := fraction?.getD ([], rest)
    let exponent? := readExponent behind
    if fraction?.isNone && exponent?.isNone then none
    else
      let (exponent, rest) := exponent?.getD (0, behind)
      let number : Decimal :=
        ⟨negative, valueIn 10 (whole ++ fraction), exponent - fraction.length⟩
      some (number.toFloat, rest)

/-- A float. Digits that come out as positive infinity are none; as negative infinity they may. -/
def readFloat (t : Text) : Option (Float × Text) :=
  match readSign t with
  | (negative, unsigned) =>
    match readFloatWord negative unsigned with
    | some read => some read
    | none =>
      match readFloatDigits negative unsigned with
      | some (x, rest) => if x.isInf && !negative then none else some (x, rest)
      | none => none

/-- A number of exactly `count` digits between two bounds, both included. -/
def readField (count low high : Nat) (t : Text) : Option (Nat × Text) :=
  let digits := t.take count
  let n := Text.digitsValue digits
  if digits.length = count ∧ digits.all Text.isDigit ∧ low ≤ n ∧ n ≤ high then
    some (n, t.drop count)
  else none

/-- The number of days of a month. -/
def daysIn (year month : Nat) : Nat :=
  if month = 2 then
    if year % 4 = 0 ∧ (year % 100 ≠ 0 ∨ year % 400 = 0) then 29 else 28
  else if month = 4 ∨ month = 6 ∨ month = 9 ∨ month = 11 then 30
  else 31

/-- A date: what follows it. -/
def afterDate? (t : Text) : Option Text := do
  let (year, t) ← readField 4 0 9999 t
  let t ← Text.after? ['-'] t
  let (month, t) ← readField 2 1 12 t
  let t ← Text.after? ['-'] t
  let (_, t) ← readField 2 1 (daysIn year month) t
  return t

/-- A time of day: what follows it. -/
def afterTime? (t : Text) : Option Text := do
  let (_, t) ← readField 2 0 23 t
  let t ← Text.after? [':'] t
  let (_, t) ← readField 2 0 59 t
  let t ← Text.after? [':'] t
  let (_, t) ← readField 2 0 60 t
  match t with
  | '.' :: cs =>
    match cs.takeWhile Text.isDigit with
    | [] => return t
    | digits => return cs.drop digits.length
  | _ => return t

/-- The offset of a time, if there is one: what follows it. A sign without an offset is an error. -/
def afterOffset? (t : Text) : Option Text :=
  let numeric (cs : Text) : Option Text := do
    let (_, cs) ← readField 2 0 23 cs
    let cs ← Text.after? [':'] cs
    let (_, cs) ← readField 2 0 59 cs
    return cs
  match t with
  | 'Z' :: cs => some cs
  | 'z' :: cs => some cs
  | '+' :: cs => numeric cs
  | '-' :: cs => numeric cs
  | _ => some t

/-- A date, a time or both: what follows. -/
def afterDateTime? (t : Text) : Option Text :=
  match afterDate? t with
  | none => afterTime? t
  | some rest =>
    match rest with
    | c :: cs =>
      if c = 'T' ∨ c = 't' ∨ c = ' ' then
        match afterTime? cs with
        | some rest => afterOffset? rest
        | none => some rest
      else some rest
    | [] => some rest

/-- A value that holds no other values. -/
def readScalar (t : Text) : Option (Value × Text) :=
  match readText t with
  | some (text, rest) => some (.text text, rest)
  | none =>
    match Text.after? "true".toList t, Text.after? "false".toList t with
    | some rest, _ => some (.boolean true, rest)
    | none, some rest => some (.boolean false, rest)
    | none, none =>
      match afterDateTime? t with
      | some rest => some (.dateTime, rest)
      | none =>
        match readFloat t with
        | some (x, rest) => some (.float x, rest)
        | none => (readInteger t).map fun read => (.integer read.1, read.2)

end Toml
end TableCodegen
