import TableCodegen.Table.Basic

/-!
# The lines of a document

The line table lists for each line the span from its first byte to its line feed, or to the end of
the text: one line more than there are line feeds. The line that holds a place is found by
bisection.
-/

namespace TableCodegen
namespace Document

/-- The line table of a text that starts at byte `place` of a line which starts at byte `start`. -/
def linesFrom (start place : Nat) : Text → List Span
  | [] => [⟨start, place⟩]
  | c :: cs =>
    if c = '\n' then ⟨start, place⟩ :: linesFrom (place + 1) (place + 1) cs
    else linesFrom start (place + c.utf8Size) cs

/-- The line table of a text. -/
def lineTable (t : Text) : List Span := linesFrom 0 0 t

/-- Where a line lies in relation to a place: behind it, before it, or around it. -/
def compareLine (place : Nat) (line : Span) : Ordering :=
  if place < line.start then .gt else if line.stop < place then .lt else .eq

/-- Bisection among `size` indices from `low` on: an index where `compare` says `eq`, or else the
index up to which it says `lt`. -/
def bisect (compare : Nat → Ordering) (low size : Nat) : Except Nat Nat :=
  if _h : size = 0 then .error low
  else
    match compare (low + size / 2) with
    | .eq => .ok (low + size / 2)
    | .gt => bisect compare low (size / 2)
    | .lt => bisect compare (low + size / 2 + 1) (size - size / 2 - 1)
termination_by size

/-- The index of the line that holds a place, or else the index where such a line would stand. -/
def findLine (lines : List Span) (place : Nat) : Except Nat Nat :=
  bisect (fun index => (lines[index]?).elim .gt (compareLine place)) 0 lines.length

end Document
end TableCodegen
