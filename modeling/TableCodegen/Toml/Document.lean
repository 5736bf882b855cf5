import TableCodegen.Toml.Scalar

/-!
# TOML documents

A document is a sequence of lines: key-value pairs, headers and empty lines, each with a comment at
its end if there is one. A byte order mark may stand at the very start. Arrays may run over lines
and hold comments and a comma behind the last item, inline tables may not.

Arrays and inline tables are nested less than eighty deep, and a key has less than eighty parts.
-/

namespace TableCodegen
namespace Toml

/-- The limit of nesting and of the parts of a key. -/
def nestingLimit : Nat := 80

/-- Whether a character may stand in a key without quotes. -/
def isBareKeyChar (c : Char) : Bool := c.isAlpha || c.isDigit || c == '_' || c == '-'

/-- One part of a key. -/
def readKeyPart (t : Text) : Option (Text × Text) :=
  match t with
  | '"' :: cs => readBasic (cs.length + 1) cs
  | '\x27' :: cs => readLiteral cs
  | _ =>
    match t.takeWhile isBareKeyChar with
    | [] => none
    | part => some (part, t.drop part.length)

/-- A key: its leading parts, its last part, and the rest. Blanks around the points and the key do
not count. -/
def readKey : (bound : Nat) → Text → Option (List Text × Text × Text)
  | 0, _ => none
  | bound + 1, t =>
    match readKeyPart (skipBlanks t) with
    | none => none
    | some (part, rest) =>
      match skipBlanks rest with
      | '.' :: cs =>
        match readKey bound cs with
        | some (path, key, rest) => some (part :: path, key, rest)
        | none => none
      | rest => some ([], part, rest)

/-- A key with fewer parts than the limit. -/
def readKey? (t : Text) : Option (List Text × Text × Text) := readKey (nestingLimit - 1) t

/-- What follows a comment, up to the line break. -/
def skipComment (t : Text) : Text :=
  match t with
  | '#' :: cs => cs.dropWhile isPlain
  | _ => t

/-- What follows blanks, comments and line breaks inside an array. -/
def skipLines : (bound : Nat) → Text → Text
  | 0, t => t
  | bound + 1, t =>
    let rest := skipComment (skipBlanks t)
    match afterBreak? rest with
    | some next => skipLines bound next
    | none => rest

mutual

/-- A value; `depth` says how deep arrays and inline tables may still be nested. -/
def readValue : (bound depth : Nat) → Text → Option (Value × Text)
  | 0, _, _ => none
  | bound + 1, depth, t =>
    match t, depth with
    | '[' :: _, 0 => none
    | '[' :: cs, depth + 1 =>
      match readItems bound depth cs with
      | some (items, rest) => some (.array items, rest)
      | none => none
    | '\x7b' :: _, 0 => none
    | '\x7b' :: cs, depth + 1 =>
      match skipBlanks cs with
      | '\x7d' :: rest => some (.table .inline [], rest)
      | inner =>
        match readPairs bound depth [] inner with
        | some (entries, rest) => some (.table .inline entries, rest)
        | none => none
    | _, _ => readScalar t

/-- The items of an array and its closing bracket. -/
def readItems : (bound depth : Nat) → Text → Option (List Value × Text)
  | 0, _, _ => none
  | bound + 1, depth, t =>
    match skipLines (t.length + 1) t with
    | ']' :: rest => some ([], rest)
    | inner =>
      match readValue bound depth inner with
      | none => none
      | some (item, rest) =>
        match skipLines (rest.length + 1) rest with
        | ']' :: rest => some ([item], rest)
        | ',' :: rest =>
          match readItems bound depth rest with
          | some (items, rest) => some (item :: items, rest)
          | none => none
        | _ => none

/-- The pairs of an inline table and its closing brace, added to those before them. -/
def readPairs : (bound depth : Nat) → Entries → Text → Option (Entries × Text)
  | 0, _, _, _ => none
  | bound + 1, depth, entries, t =>
    match readKey? t with
    | some (path, key, '=' :: cs) =>
      match readValue bound depth (skipBlanks cs) with
      | none => none
      | some (value, rest) =>
        match entries.insert path key value with
        | none => none
        | some entries =>
          match skipBlanks rest with
          | '\x7d' :: rest => some (entries, rest)
          | ',' :: rest => readPairs bound depth entries rest
          | _ => none
    | _ => none

end

/-- What follows a header or pair on its line: nothing but blanks and a comment may be there. -/
def afterLine? (t : Text) : Option Text :=
  match skipComment (skipBlanks t) with
  | [] => some []
  | rest => afterBreak? rest

/-- Adds a line to a document, and what follows the line. -/
def readLine (c : Construction) (t : Text) : Option (Construction × Text) :=
  match skipBlanks t with
  | '[' :: '[' :: cs =>
    match readKey? cs with
    | some (path, key, ']' :: ']' :: rest) =>
      match c.openRepeated path key, afterLine? rest with
      | some c, some next => some (c, next)
      | _, _ => none
    | _ => none
  | '[' :: cs =>
    match readKey? cs with
    | some (path, key, ']' :: rest) =>
      match c.openTable path key, afterLine? rest with
      | some c, some next => some (c, next)
      | _, _ => none
    | _ => none
  | line =>
    match afterLine? line with
    | some next => some (c, next)
    | none =>
      match readKey? line with
      | some (path, key, '=' :: cs) =>
        match readValue (cs.length + 1) (nestingLimit - 1) (skipBlanks cs) with
        | none => none
        | some (value, rest) =>
          match c.insert path key value, afterLine? rest with
          | some c, some next => some (c, next)
          | _, _ => none
      | _ => none

/-- Adds all lines of a text to a document, `bound` of them at most. -/
def readLines : (bound : Nat) → Construction → Text → Option Entries
  | _, c, [] => c.finish
  | 0, _, _ :: _ => none
  | bound + 1, c, t =>
    match readLine c t with
    | some (c, rest) => readLines bound c rest
    | none => none

/-- The entries of a document, or nothing if the text is none. -/
def parse? (t : Text) : Option Entries :=
  let t := match t with
    | '\ufeff' :: cs => cs
    | cs => cs
  readLines t.length .start t

end Toml
end TableCodegen
