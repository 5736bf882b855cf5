import TableCodegen.Text

/-!
# Records as templates and dumps see them

Whatever a table describes, a loaded row is exposed as a list of named fields in a fixed order. The
content of a field is a text, a number or a flag.

The **dump** writes a list of records as JSON, two spaces to a level, the fields in their order. In
a JSON string a quote, a backslash and the controls below U+0020 are escaped and all else is as it
is; the empty list is `[]`.
-/

namespace TableCodegen

/-- The content of an exposed field. -/
inductive Content where
  | text (t : Text)
  | number (n : Nat)
  | flag (b : Bool)
  deriving DecidableEq, Repr

/-- The exposed fields of a loaded row, in order. -/
abbrev Record := List (Text × Content)

namespace Dump

/-- A character inside a JSON string. -/
def escapeChar (c : Char) : Text :=
  if c = '"' then ['\\', '"']
  else if c = '\\' then ['\\', '\\']
  else if c = '\x08' then ['\\', 'b']
  else if c = '\x0c' then ['\\', 'f']
  else if c = '\n' then ['\\', 'n']
  else if c = '\r' then ['\\', 'r']
  else if c = '\t' then ['\\', 't']
  else if c.toNat < 0x20 then
    ['\\', 'u', '0', '0', Nat.digitChar (c.toNat / 16), Nat.digitChar (c.toNat % 16)]
  else [c]

/-- A JSON string. -/
def quoted (t : Text) : Text := '"' :: t.flatMap escapeChar ++ ['"']

/-- A field's content as JSON. -/
def content : Content → Text
  | .text t => quoted t
  | .number n => Text.decimal n
  | .flag true => "true".toList
  | .flag false => "false".toList

/-- The start of a line at a level of nesting. -/
def lineStart (level : Nat) : Text := '\n' :: List.replicate (2 * level) ' '

/-- Items between brackets, each on a line of its own one level deeper; no item, no line. -/
def bracketed (opening closing : Char) (level : Nat) : List Text → Text
  | [] => [opening, closing]
  | items =>
    opening :: Text.joinWith [','] (items.map (lineStart (level + 1) ++ ·))
      ++ lineStart level ++ [closing]

/-- A field as a member of its record's object. -/
def member (field : Text × Content) : Text :=
  quoted field.1 ++ [':', ' '] ++ content field.2

/-- A record as an object inside the list. -/
def record (fields : Record) : Text := bracketed '\x7b' '\x7d' 1 (fields.map member)

/-- The dump of a list of records. -/
def records (rs : List Record) : Text := bracketed '[' ']' 0 (rs.map record)

end Dump
end TableCodegen
