import TableCodegen.Text
import TableCodegen.Text.Escaped

/-!
# Rows, cells and what can be wrong with them

A specification table is a tab-delimited text. A row remembers the line it stands on, and every row
and cell the **span** of bytes it takes in the table text, so that an error can point at it.
-/

namespace TableCodegen

/-- A range of places in a text, from `start` up to and without `stop`, in bytes. -/
structure Span where
  start : Nat
  stop : Nat
  deriving DecidableEq, Repr

namespace Table

/-- What a row lacks or a cell holds that makes it unusable. -/
inductive Cause where
  /-- The row has `found` cells, too few for the column at index `column`, counted from 0. -/
  | missingColumn (column found : Nat)
  /-- The cell is not a number from 0 to 255. -/
  | invalidTypeCode (cell : Text)
  deriving DecidableEq, Repr

/-- A cause and the span of the row or cell it was found in. -/
structure Error where
  span : Span
  cause : Cause
  deriving DecidableEq, Repr

/-- The cause in words; columns are counted from 1 here. -/
def Cause.message : Cause → Text
  | .missingColumn column found =>
    "row has ".toList ++ Text.decimal found ++ " columns, but column ".toList
      ++ Text.decimal (column + 1) ++ " is required".toList
  | .invalidTypeCode cell =>
    "invalid type code: ".toList ++ Text.escaped cell ++ " is not an integer in 0..=255".toList

/-- A cell: its content without quotes, and the span of its written form. -/
structure Cell where
  text : Text
  span : Span
  deriving DecidableEq, Repr

/-- A row of the table body; `line` counts from 1 and the header is line 1. -/
structure Row where
  line : Nat
  span : Span
  cells : List Cell
  deriving DecidableEq, Repr

namespace Row

/-- The cell at a column, counted from 0. -/
def cell (row : Row) (column : Nat) : Except Error Cell :=
  match row.cells[column]? with
  | some cell => .ok cell
  | none => .error ⟨row.span, .missingColumn column row.cells.length⟩

/-- Checks that the row has at least so many cells. -/
def require (row : Row) (columns : Nat) : Except Error Unit :=
  match columns with
  | 0 => .ok ()
  | last + 1 => (row.cell last).map fun _ => ()

/-- Whether the first cell holds exactly the given text; a row without cells has none. -/
def opensWith (row : Row) (marker : Text) : Bool :=
  match row.cells with
  | [] => false
  | cell :: _ => cell.text == marker

/-- **A row has enough cells exactly if it has that many or more.** What the cells hold is not
looked at. -/
theorem require_eq_ok_iff (row : Row) (columns : Nat) :
    row.require columns = .ok () ↔ columns ≤ row.cells.length := by
  cases columns with
  | zero => simp [require]
  | succ last =>
    by_cases h : last < row.cells.length
    · simp [require, cell, List.getElem?_eq_getElem h, Except.map, Nat.succ_le_of_lt h]
    · have hnone : row.cells[last]? = none := List.getElem?_eq_none (Nat.le_of_not_lt h)
      simp only [require, cell, hnone, Except.map, reduceCtorEq, false_iff]
      omega

end Row
end Table
end TableCodegen
