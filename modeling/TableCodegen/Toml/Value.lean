import TableCodegen.Decimal.Shortest

/-!
# TOML values and how tables grow

A document is built by key-value pairs and headers in the order of the text. Every table remembers
how it came about, because that decides what may be added to it later.

| origin | came about by | dotted keys may enter | a header may complete it |
| --- | --- | --- | --- |
| `header` | its own header, or the root | no | no |
| `implied` | a header of a table inside it | yes | yes |
| `dotted` | a dotted key | yes | no |
| `inline` | braces | no | no |

Dotted keys pass through the last of repeated tables but may not end there. Of dates only the kind
is kept.
-/

namespace TableCodegen
namespace Toml

/-- How a table came about. -/
inductive Origin where
  | header
  | implied
  | dotted
  | inline
  deriving DecidableEq, Repr

/-- A value of a document. -/
inductive Value where
  | text (t : Text)
  | integer (n : Int)
  | boolean (b : Bool)
  | float (x : Float)
  | dateTime
  | array (items : List Value)
  | table (origin : Origin) (entries : List (Text × Value))
  /-- The tables under a repeated header. -/
  | tables (items : List (List (Text × Value)))
  deriving Repr

/-- Keys and values in the order of the document. -/
abbrev Entries := List (Text × Value)

namespace Entries

/-- Entries with a further one, if its key is new. -/
def insertNew (key : Text) (value : Value) (entries : Entries) : Option Entries :=
  if (entries.lookup key).isSome then none else some (entries ++ [(key, value)])

/-- Entries with another value under a key that is there. -/
def replace (key : Text) (value : Value) : Entries → Entries
  | [] => []
  | entry :: entries =>
    if entry.1 = key then (key, value) :: entries else entry :: replace key value entries

/-- Entries without a key. -/
def remove (key : Text) (entries : Entries) : Entries := entries.filter (·.1 ≠ key)

/-- Adds a value behind a dotted path inside a table of the given origin. The last table on the
path has to come from dotted keys, and of repeated tables on the way the last is meant. -/
def insertDotted (key : Text) (value : Value) : List Text → Origin → Entries → Option Entries
  | [], origin, entries => if origin = .dotted then entries.insertNew key value else none
  | step :: path, _, entries =>
    match entries.lookup step with
    | none =>
      (insertDotted key value path .dotted []).map fun inner =>
        entries ++ [(step, .table .dotted inner)]
    | some (.table .dotted inner) =>
      (insertDotted key value path .dotted inner).map fun inner =>
        entries.replace step (.table .dotted inner)
    | some (.table .implied inner) =>
      (insertDotted key value path .implied inner).map fun inner =>
        entries.replace step (.table .implied inner)
    | some (.tables items) =>
      match items.getLast? with
      | none => none
      | some last =>
        (insertDotted key value path .header last).map fun last =>
          entries.replace step (.tables (items.dropLast ++ [last]))
    | some _ => none

/-- Adds a value under a key that may be dotted. -/
def insert (path : List Text) (key : Text) (value : Value) (entries : Entries) :
    Option Entries :=
  match path with
  | [] => entries.insertNew key value
  | step :: path => entries.insertDotted key value (step :: path) .header

/-- Changes the table that the path of a header leads to. Tables on the way that are not there are
implied, and of repeated tables the last is meant. -/
def changeAt (change : Entries → Option Entries) : List Text → Entries → Option Entries
  | [], entries => change entries
  | step :: path, entries =>
    match entries.lookup step with
    | none =>
      (changeAt change path []).map fun inner => entries ++ [(step, .table .implied inner)]
    | some (.table .inline _) => none
    | some (.table origin inner) =>
      (changeAt change path inner).map fun inner => entries.replace step (.table origin inner)
    | some (.tables items) =>
      match items.getLast? with
      | none => none
      | some last =>
        (changeAt change path last).map fun last =>
          entries.replace step (.tables (items.dropLast ++ [last]))
    | some _ => none

end Entries

/-- A document under construction: the tables that are complete, and the one being filled with the
path it will stand at. -/
structure Construction where
  root : Entries
  path : List Text
  repeated : Bool
  current : Entries
  deriving Repr

namespace Construction

/-- The document before its first line. -/
def start : Construction := ⟨[], [], false, []⟩

/-- Puts the table being filled into the document. -/
def finish (c : Construction) : Option Entries :=
  match c.path.getLast? with
  | none => some c.current
  | some key =>
    c.root.changeAt (fun parent =>
      if c.repeated then
        match parent.lookup key with
        | some (.tables items) => some (parent.replace key (.tables (items ++ [c.current])))
        | _ => none
      else parent.insertNew key (.table .header c.current)) c.path.dropLast

/-- What a header finds under its key: the entries to go on with. -/
def startTable (key : Text) (parent : Entries) : Option Entries :=
  match parent.lookup key with
  | none => some []
  | some (.table .implied inner) => some inner
  | some _ => none

/-- The entries of the table at a header's path, before the header. -/
def entriesAt (key : Text) : List Text → Entries → Option Entries
  | [], entries => startTable key entries
  | step :: path, entries =>
    match entries.lookup step with
    | none => some []
    | some (.table .inline _) => none
    | some (.table _ inner) => entriesAt key path inner
    | some (.tables items) =>
      match items.getLast? with
      | none => none
      | some last => entriesAt key path last
    | some _ => none

/-- Goes on with the table of a header. A table that was implied is taken out of its place: it will
stand behind the others. -/
def openTable (path : List Text) (key : Text) (c : Construction) : Option Construction := do
  let root ← c.finish
  let current ← entriesAt key path root
  let root ← root.changeAt (fun parent => some (Entries.remove key parent)) path
  return ⟨root, path ++ [key], false, current⟩

/-- Goes on with a further table of a repeated header. -/
def openRepeated (path : List Text) (key : Text) (c : Construction) : Option Construction := do
  let root ← c.finish
  let root ← root.changeAt (fun parent =>
    match parent.lookup key with
    | none => some (parent ++ [(key, .tables [])])
    | some (.tables _) => some parent
    | some _ => none) path
  return ⟨root, path ++ [key], true, []⟩

/-- Adds a value to the table being filled. -/
def insert (path : List Text) (key : Text) (value : Value) (c : Construction) :
    Option Construction :=
  (c.current.insert path key value).map fun current => { c with current := current }

end Construction
end Toml
end TableCodegen
