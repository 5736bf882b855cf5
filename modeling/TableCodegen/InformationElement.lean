import TableCodegen.Table.Rows
import TableCodegen.Text.Blank
import TableCodegen.Java.Literal
import TableCodegen.Record

/-!
# GTPv2 information elements

A row of the information element table has seventeen columns:

| column | content |
| ---: | --- |
| 0 | skip marker |
| 1 | type code |
| 2 | message |
| 3 | specification |
| 4 | section |
| 5, 6 | marks: initial, triggered |
| 7 … 16 | a mark for each interface |

A row whose first cell is exactly the skip marker is passed over unread. A type code is a number
from 0 to 255 in ASCII digits, with at most one plus in front and white space around it. A mark is
exactly `x` or `X`. In a message spaces become underscores, and a section of white space is empty.
-/

namespace TableCodegen

/-- The interfaces that carry GTPv2 messages. -/
inductive Interface where
  | s3 | s10 | s16 | n26 | s11 | s4 | s5 | s8 | s2a | s2b
  deriving DecidableEq, Repr

namespace Interface

/-- The name of an interface. -/
def name : Interface → Text
  | .s3 => "S3".toList
  | .s10 => "S10".toList
  | .s16 => "S16".toList
  | .n26 => "N26".toList
  | .s11 => "S11".toList
  | .s4 => "S4".toList
  | .s5 => "S5".toList
  | .s8 => "S8".toList
  | .s2a => "S2a".toList
  | .s2b => "S2b".toList

/-- The columns of the interface marks, in table order. -/
def columns : List (Nat × Interface) := [
  (7, .s3), (8, .s10), (9, .s16), (10, .n26), (11, .s11), (12, .s4), (13, .s5), (14, .s8),
  (15, .s2a), (16, .s2b)]

/-- The interface with a given name. -/
def ofName? (t : Text) : Option Interface :=
  (columns.map (·.2)).find? fun interface => interface.name == t

/-- Every interface has a column, and its name leads back to it. -/
theorem ofName?_name (interface : Interface) : ofName? interface.name = some interface := by
  cases interface <;> decide

end Interface

/-- A normalized row of the information element table. -/
structure InformationElement where
  typeCode : UInt8
  message : Text
  specification : Text
  sectionText : Text
  initial : Bool
  triggered : Bool
  interfaces : List Interface
  deriving DecidableEq, Repr

namespace InformationElement

/-- The number of columns a row needs. -/
def columns : Nat := 17

/-- The first cell of a row to be passed over. -/
def skipMark : Text := ['x']

/-- Whether a cell is marked. -/
def isMark (cell : Text) : Bool := cell == ['x'] || cell == ['X']

/-- The digits of a number, without one plus in front. -/
def afterPlus : Text → Text
  | '+' :: digits => digits
  | digits => digits

/-- The type code that a cell holds. -/
def typeCode? (cell : Text) : Option UInt8 :=
  let digits := afterPlus (Text.trimBlank cell)
  if digits ≠ [] ∧ digits.all Text.isDigit ∧ Text.digitsValue digits < 256 then
    some (UInt8.ofNat (Text.digitsValue digits))
  else none

/-- The marked interfaces of a row, in column order. -/
def markedInterfaces (row : Table.Row) :
    List (Nat × Interface) → Except Table.Error (List Interface)
  | [] => .ok []
  | (column, interface) :: more => do
    let cell ← row.cell column
    let rest ← markedInterfaces row more
    return if isMark cell.text then interface :: rest else rest

/-- The element that a row not to be passed over describes. -/
def ofData (row : Table.Row) : Except Table.Error InformationElement := do
  row.require columns
  let code ← row.cell 1
  match typeCode? code.text with
  | none => throw ⟨code.span, .invalidTypeCode code.text⟩
  | some typeCode =>
    let message ← row.cell 2
    let specification ← row.cell 3
    let sectionText ← row.cell 4
    let initial ← row.cell 5
    let triggered ← row.cell 6
    let interfaces ← markedInterfaces row Interface.columns
    return {
      typeCode := typeCode
      message := message.text.map fun c => if c = ' ' then '_' else c
      specification := specification.text
      sectionText := if Text.allBlank sectionText.text then [] else sectionText.text
      initial := isMark initial.text
      triggered := isMark triggered.text
      interfaces := interfaces }

/-- The element that a row describes; none for a row to be passed over. -/
def ofRow (row : Table.Row) : Except Table.Error (Option InformationElement) :=
  if row.opensWith skipMark then .ok none else (ofData row).map some

/-- The elements of consecutive rows; the first row that fails decides. -/
def ofRows : List Table.Row → Except Table.Error (List InformationElement)
  | [] => .ok []
  | row :: rows => do
    let element ← ofRow row
    let elements ← ofRows rows
    return element.toList ++ elements

/-- The elements of a table. -/
def load (table : Text) : Except Table.Error (List InformationElement) :=
  ofRows (Table.rows table)

/-- The names of the interfaces between commas. -/
def interfaceNames (element : InformationElement) : Text :=
  Text.joinWith [','] (element.interfaces.map Interface.name)

/-- The fields of an element; specification and section are Java literals. -/
def expose (element : InformationElement) : Record := [
  ("type".toList, .number element.typeCode.toNat),
  ("message".toList, .text element.message),
  ("specification".toList, .text (Java.quote element.specification)),
  ("section".toList, .text (Java.quote element.sectionText)),
  ("initial".toList, .flag element.initial),
  ("triggered".toList, .flag element.triggered),
  ("interfaces".toList, .text element.interfaceNames)]

end InformationElement
end TableCodegen
