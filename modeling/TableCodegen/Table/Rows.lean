import TableCodegen.Table.Cells

/-!
# From a table text to its rows

A line feed ends a line, and one at the end of the text opens no further line. A carriage return
before the line feed belongs to the terminator. The first line is the header and no row. An empty
line inside the table is a row without cells.
-/

namespace TableCodegen
namespace Table

/-- The lines of a text without their line feeds. -/
def lineTexts : Text → List Text
  | [] => []
  | c :: cs => if c = '\n' then [] :: lineTexts cs else Text.consHead c (lineTexts cs)

/-- A line without one carriage return at its end. -/
def dropReturn : Text → Text
  | [] => []
  | ['\r'] => []
  | c :: cs => c :: dropReturn cs

/-- The row on a line that starts at byte `offset`. -/
def Row.ofLine (line offset : Nat) (content : Text) : Row where
  line := line
  span := ⟨offset, offset + Text.byteSize content⟩
  cells := if content.isEmpty then [] else cellsOf offset content

/-- The rows on consecutive lines, the first of which has number `line` and starts at `offset`. -/
def rowsFrom : (line offset : Nat) → List Text → List Row
  | _, _, [] => []
  | line, offset, content :: lines =>
    Row.ofLine line offset (dropReturn content)
      :: rowsFrom (line + 1) (offset + Text.byteSize content + 1) lines

/-- The rows of a table, without its header. -/
def rows (t : Text) : List Row := (rowsFrom 1 0 (lineTexts t)).drop 1

end Table
end TableCodegen
