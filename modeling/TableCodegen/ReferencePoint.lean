import TableCodegen.Table.Rows
import TableCodegen.Java.Literal
import TableCodegen.Record

/-!
# Reference points between network elements

A row of the reference point table has five columns:

| column | content |
| ---: | --- |
| 0 | interface name |
| 1 | protocols, between commas |
| 2 | network elements, between commas |
| 3 | description |
| 4 | references, between spaces, with the word `TS` in front of each |

A name becomes a Java identifier: one prime at its end (U+2019 or U+2032) becomes the word `Prime`
and every hyphen an underscore. Of the references the words `TS` are dropped, and `TS` is taken out
of the words that are left, once, from the left.
-/

namespace TableCodegen

/-- A normalized row of the reference point table. -/
structure ReferencePoint where
  name : Text
  protocol : List Text
  elements : List Text
  description : Text
  references : List Text
  deriving DecidableEq, Repr

namespace ReferencePoint

/-- The number of columns a row needs. -/
def columns : Nat := 5

/-- Whether a character marks a primed name. -/
def isPrimeMark (c : Char) : Bool := c == '\u2019' || c == '\u2032'

/-- A name with one prime mark at its end spelled out. -/
def spellPrime : Text → Text
  | [] => []
  | [c] => if isPrimeMark c then "Prime".toList else [c]
  | c :: cs => c :: spellPrime cs

/-- The Java identifier of an interface name. -/
def identifierOf (raw : Text) : Text :=
  (spellPrime raw).map fun c => if c = '-' then '_' else c

/-- The items of a list cell. -/
def listItems (cell : Text) : List Text := cell.splitOn ','

/-- The word that announces a reference. -/
def specificationWord : Text := "TS".toList

/-- The references of a cell. -/
def referenceItems (cell : Text) : List Text :=
  ((cell.splitOn ' ').filter (· ≠ specificationWord)).map (Text.replaceAll specificationWord [])

/-- The reference point that a row describes. -/
def ofRow (row : Table.Row) : Except Table.Error ReferencePoint := do
  row.require columns
  let name ← row.cell 0
  let protocol ← row.cell 1
  let elements ← row.cell 2
  let description ← row.cell 3
  let references ← row.cell 4
  return {
    name := identifierOf name.text
    protocol := listItems protocol.text
    elements := listItems elements.text
    description := description.text
    references := referenceItems references.text }

/-- The reference points of a table; the first row that fails decides. -/
def load (table : Text) : Except Table.Error (List ReferencePoint) :=
  (Table.rows table).mapM ofRow

/-- The fields of a reference point; all but the name are Java literals. -/
def expose (point : ReferencePoint) : Record := [
  ("name".toList, .text point.name),
  ("protocol".toList, .text (Java.arrayOf point.protocol)),
  ("elements".toList, .text (Java.arrayOf point.elements)),
  ("description".toList, .text (Java.quote point.description)),
  ("references".toList, .text (Java.arrayOf point.references))]

end ReferencePoint
end TableCodegen
