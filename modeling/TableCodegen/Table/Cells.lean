import TableCodegen.Table.Basic

/-!
# From a line to its cells

Cells stand between tabs. A cell that starts with a double quote is *quoted*: its body runs to the
closing quote, and in the body two quotes stand for one and a tab is content. What follows the
closing quote, up to the next tab, belongs to the cell as it is. A body that is not closed runs to
the end of the line. In every other cell quotes are content.

| written | content |
| --- | --- |
| `plain "q"` | `plain "q"` |
| `"a⇥b"` | `a⇥b` |
| `"say ""hi"""` | `say "hi"` |
| `"a"b"c` | `ab"c` |
| `"abc⇥def` at the end | `abc⇥def` |
-/

namespace TableCodegen
namespace Table

/-- A cell cut off a line: how it is written, what it holds, and what is left of the line. -/
structure Piece where
  written : Text
  content : Text
  rest : Text
  deriving DecidableEq, Repr

/-- The characters up to the next tab. -/
def upToTab (line : Text) : Text := line.takeWhile (· ≠ '\t')

/-- What is left from the next tab on. -/
def fromTab (line : Text) : Text := line.dropWhile (· ≠ '\t')

/-- A cell without quotes. -/
def plainPiece (line : Text) : Piece := ⟨upToTab line, upToTab line, fromTab line⟩

/-- A quoted body, given behind its opening quote; the closing quote belongs to what is written. -/
def quotedBody : Text → Piece
  | [] => ⟨[], [], []⟩
  | '"' :: '"' :: cs =>
    let body := quotedBody cs
    ⟨'"' :: '"' :: body.written, '"' :: body.content, body.rest⟩
  | c :: cs =>
    if c = '"' then ⟨['"'], [], cs⟩
    else
      let body := quotedBody cs
      ⟨c :: body.written, c :: body.content, body.rest⟩

/-- A quoted cell, given behind its opening quote: the body and the tail up to the next tab. -/
def quotedPiece (line : Text) : Piece :=
  let body := quotedBody line
  ⟨'"' :: body.written ++ upToTab body.rest, body.content ++ upToTab body.rest,
    fromTab body.rest⟩

/-- The first cell of a line. -/
def firstPiece : Text → Piece
  | '"' :: cs => quotedPiece cs
  | line => plainPiece line

/-- A line is what stands up to its first tab and what is left from that tab on, so cutting there
loses nothing. -/
theorem upToTab_append_fromTab (line : Text) : upToTab line ++ fromTab line = line :=
  List.takeWhile_append_dropWhile

/-- Nothing of a body is lost. -/
theorem quotedBody_written_append (line : Text) :
    (quotedBody line).written ++ (quotedBody line).rest = line := by
  fun_induction quotedBody line with
  | case1 => rfl
  | case2 cs body ih => simpa using ih
  | case3 cs h => rfl
  | case4 c cs h hc body ih => simpa using ih

/-- Nothing of a line is lost when its first cell is cut off. -/
theorem firstPiece_written_append (line : Text) :
    (firstPiece line).written ++ (firstPiece line).rest = line := by
  unfold firstPiece
  split
  · rename_i cs
    simp only [quotedPiece, List.cons_append, List.append_assoc, upToTab_append_fromTab,
      quotedBody_written_append]
  · exact upToTab_append_fromTab _

/-- What is left of a line, if anything, starts with a tab. -/
theorem fromTab_eq (line : Text) : fromTab line = [] ∨ ∃ rest, fromTab line = '\t' :: rest := by
  unfold fromTab
  induction line with
  | nil => exact .inl rfl
  | cons c cs ih =>
    by_cases h : c = '\t'
    · subst h
      exact .inr ⟨cs, by simp⟩
    · simpa [List.dropWhile_cons, h] using ih

/-- What is left behind the first piece is no longer than the line. With the tab taken off it is
shorter, which is why the reading of cells ends. -/
theorem length_rest_le (line : Text) : (firstPiece line).rest.length ≤ line.length := by
  have h := congrArg List.length (firstPiece_written_append line)
  rw [List.length_append] at h
  omega

/-- The cells of a line that starts at byte `offset`; a tab always opens a further cell. -/
def cellsOf (offset : Nat) (line : Text) : List Cell :=
  let piece := firstPiece line
  let stop := offset + Text.byteSize piece.written
  ⟨piece.content, offset, stop⟩ ::
    match _h : piece.rest with
    | [] => []
    | _ :: rest => cellsOf (stop + 1) rest
termination_by line.length
decreasing_by
  have hle := length_rest_le line
  rw [show (firstPiece line).rest = _ from _h] at hle
  simp only [List.length_cons] at hle
  omega

end Table
end TableCodegen
