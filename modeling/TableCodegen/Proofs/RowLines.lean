import TableCodegen.Proofs.Cursors
import TableCodegen.Proofs.LineTable

/-!
# Rows stand on the lines of the line table

The row reader and the line table take a text apart in two ways. The reader goes from line feed to
line feed, drops a carriage return, and stops where nothing is left. The line table pairs the places
where lines start: 0 and behind each line feed (`lineTable_eq_spansBetween`).

| the text | lines in the table | rows |
| --- | ---: | ---: |
| empty | 1 | 0 |
| ends in a line feed | one for each line feed, and 1 | 2 less: the header, and the last line |
| any other | one for each line feed, and 1 | 1 less: the header |

`StandsOn` says what a row has to do with an entry of the table: they start together, and the entry
goes on behind the row for a carriage return at most. `rows_standOn_lines` says it of every row, and
that every place in a row or in one of its cells is looked up to that entry.
-/

namespace TableCodegen
namespace Document

open Text

/-- The places behind the line feeds of a text that stands at byte `place`. -/
def startsBehind (place : Nat) : Text → List Nat
  | [] => []
  | c :: cs =>
    if c = '\n' then (place + 1) :: startsBehind (place + 1) cs
    else startsBehind (place + c.utf8Size) cs

/-- The lines that start at given places: each stops in front of the line feed that the next one
starts behind, and the last one at `stop`. -/
def spansBetween (stop : Nat) : List Nat → List Span
  | [] => []
  | [start] => [⟨start, stop⟩]
  | start :: next :: starts => ⟨start, next - 1⟩ :: spansBetween stop (next :: starts)

/-- The table that walks the text and the one that pairs the starts of lines are the same. The
induction is on the text, with the place and the start of the line it is in left open. -/
theorem linesFrom_eq_spansBetween (t : Text) :
    ∀ start place, linesFrom start place t =
      spansBetween (place + byteSize t) (start :: startsBehind place t) := by
  induction t with
  | nil => exact fun _ _ => rfl
  | cons c cs ih =>
    intro start place
    rw [linesFrom, startsBehind, byteSize_cons, ← Nat.add_assoc]
    split
    · rename_i hc
      rw [ih, spansBetween, Nat.add_sub_cancel, hc, utf8Size_lineFeed]
    · rw [ih]

/-- **The line table pairs the places where lines start.** -/
theorem lineTable_eq_spansBetween (t : Text) :
    lineTable t = spansBetween (byteSize t) (0 :: startsBehind 0 t) := by
  rw [lineTable, linesFrom_eq_spansBetween, Nat.zero_add]

end Document

namespace Table

open Text Document

/-! ### How many there are -/

/-- Behind a line feed the end of a text is the end of what is left, unless nothing is. -/
theorem getLast?_line (content rest : Text) :
    (content ++ '\n' :: rest).getLast? = some '\n' ↔ rest = [] ∨ rest.getLast? = some '\n' := by
  rw [List.getLast?_append, List.getLast?_cons]
  cases hlast : rest.getLast? with
  | none => simp [List.getLast?_eq_none_iff.1 hlast]
  | some c =>
    have hne : rest ≠ [] := by
      rintro rfl
      cases hlast
    simp [hne]

/-- The reader has a line for each line feed, and one more for what is behind the last one. If
nothing is behind it there is no such line, while the line table has an entry there. -/
theorem length_lineTexts (t : Text) :
    (lineTexts t).length + (if t = [] ∨ t.getLast? = some '\n' then 1 else 0) =
      lineFeeds t + 1 := by
  induction t using lineInduction with
  | last content hcontent =>
    have hlast : content.getLast? ≠ some '\n' := fun h => hcontent (List.mem_of_getLast? h)
    rw [lineTexts_last hcontent, lineFeeds_eq_zero hcontent]
    by_cases hnil : content = []
    · rw [if_pos hnil, if_pos (.inl hnil)]
      rfl
    · rw [if_neg hnil, if_neg (not_or.2 ⟨hnil, hlast⟩)]
      rfl
  | line content rest hcontent ih =>
    have hne : content ++ '\n' :: rest ≠ [] := by simp
    have hfeeds : lineFeeds (content ++ '\n' :: rest) = lineFeeds rest + 1 := by
      rw [lineFeeds_append, lineFeeds_eq_zero hcontent, lineFeeds_lineFeed, Nat.zero_add]
    rw [lineTexts_line rest hcontent, List.length_cons, hfeeds]
    simp only [hne, false_or, getLast?_line]
    omega

/-- Every content makes one row, whatever it holds and wherever it stands. -/
theorem length_rowsFrom (contents : List Text) :
    ∀ line offset, (rowsFrom line offset contents).length = contents.length := by
  induction contents with
  | nil => exact fun _ _ => rfl
  | cons content contents ih =>
    intro line offset
    rw [rowsFrom, List.length_cons, List.length_cons, ih]

/-- **The lines of the table are the header, the rows,** and an empty line at the end of a text that
ends in a line feed. -/
theorem length_lineTable (t : Text) :
    (lineTable t).length = (rows t).length + 1 + if t.getLast? = some '\n' then 1 else 0 := by
  have hlines : (lineTable t).length = lineFeeds t + 1 := length_linesFrom t 0
  have htexts := length_lineTexts t
  rw [hlines, rows, List.length_drop, length_rowsFrom]
  by_cases hnil : t = []
  · rw [hnil]
    rfl
  · simp only [hnil, false_or] at htexts
    have hheader : 0 < (lineTexts t).length := by
      by_cases hfeed : '\n' ∈ t
      · obtain ⟨header, body, rfl, hheader⟩ := List.eq_append_cons_of_mem hfeed
        rw [lineTexts_line body hheader, List.length_cons]
        exact Nat.succ_pos _
      · rw [lineTexts_last hfeed, if_neg hnil]
        exact Nat.one_pos
    omega

/-! ### Where they are -/

/-- A row stands on the line with a given index in the line table. -/
structure StandsOn (t : Text) (row : Row) (index : Nat) : Prop where
  number : row.line = index + 1
  /-- They start together, and between their ends there is a carriage return at most. -/
  entry : ∃ line returned, (lineTable t)[index]? = some line ∧ line.start = row.span.start ∧
    row.span.stop ≤ line.stop ∧ slice? row.span.stop line.stop t = some returned ∧
      (returned = [] ∨ returned = ['\r'])
  /-- Every place in the row is looked up to that line, its start and its stop included. -/
  ofRow : ∀ place, row.span.start ≤ place → place ≤ row.span.stop →
    findLine (lineTable t) place = .ok index
  /-- So is every place in one of its cells. -/
  ofCell : ∀ cell ∈ row.cells, ∀ place, cell.span.start ≤ place → place ≤ cell.span.stop →
    findLine (lineTable t) place = .ok index

/-- The cells of a row lie within the row. -/
theorem within_of_mem_ofLine {line offset : Nat} {content : Text} {cell : Cell}
    (h : cell ∈ (Row.ofLine line offset content).cells) :
    offset ≤ cell.span.start ∧ cell.span.stop ≤ offset + byteSize content := by
  obtain ⟨front, written, behind, rfl, hspan, -⟩ := exists_part_of_mem_ofLine h
  rw [hspan, byteSize_append, byteSize_append]
  constructor
  · exact Nat.le_add_right ..
  · show offset + byteSize front + byteSize written ≤ _
    omega

/-- **The row of a line stands on the line.** Every place in it is looked up to that line, and so is
every place in one of its cells, as a cell is a part of the line. -/
theorem standsOn_ofLine {t before content after : Text} (h : LineAt t before content after) :
    StandsOn t (Row.ofLine (lineFeeds before + 1) (byteSize before) (dropReturn content))
      (lineFeeds before) := by
  obtain ⟨returned, hcontent, hreturned⟩ := exists_dropReturn_append content
  have hsize : byteSize content = byteSize (dropReturn content) + byteSize returned := by
    rw [← byteSize_append, ← hcontent]
  have hrest : slice? (byteSize before + byteSize (dropReturn content))
      (byteSize before + byteSize content) t = some returned := by
    have hparts : content = dropReturn content ++ returned ++ [] := by
      rw [List.append_nil, ← hcontent]
    exact h.slice?_part hparts rfl (by omega)
  have hplaces : ∀ place, byteSize before ≤ place →
      place ≤ byteSize before + byteSize (dropReturn content) →
        findLine (lineTable t) place = .ok (lineFeeds before) :=
    fun place hstart hstop => findLine_lineTable h hstart (by omega)
  constructor
  · rfl
  · refine ⟨_, returned, lineTable_getElem? h, rfl, ?_, hrest, hreturned⟩
    show byteSize before + byteSize (dropReturn content) ≤ byteSize before + byteSize content
    omega
  · exact hplaces
  · intro cell hcell place hstart hstop
    have hwithin := within_of_mem_ofLine hcell
    exact hplaces place (by omega) (by omega)

/-- **The row reader and the line table agree on every text.** The table, which pairs the places
where lines start, has a line for the header, one for each row that is read by places, and one more
exactly if the text ends in a line feed; and every row stands on the line with its number. -/
theorem rows_standOn_lines (t : Text) :
    lineTable t = spansBetween (byteSize t) (0 :: startsBehind 0 t) ∧ readRows? t = some (rows t) ∧
      (lineTable t).length = (rows t).length + 1 + (if t.getLast? = some '\n' then 1 else 0) ∧
      ∀ row ∈ rows t, ∃ index, StandsOn t row index := by
  refine ⟨lineTable_eq_spansBetween t, readRows?_eq t, length_lineTable t, fun row hrow => ?_⟩
  obtain ⟨before, content, after, hline, rfl⟩ := exists_lineAt_of_mem_rows hrow
  exact ⟨lineFeeds before, standsOn_ofLine hline⟩

/-- A row with two carriage returns at its end, of which one belongs to its last cell. -/
theorem rows_standOn_lines_returns :
    (⟨3, ⟨3, 11⟩, [⟨"é\t".toList, 3, 8⟩, ⟨['a', '\r'], 9, 11⟩]⟩ : Row) ∈
        rows "h\n\n\"é\t\"\ta\r\r\n".toList ∧
      StandsOn "h\n\n\"é\t\"\ta\r\r\n".toList
        ⟨3, ⟨3, 11⟩, [⟨"é\t".toList, 3, 8⟩, ⟨['a', '\r'], 9, 11⟩]⟩ 2 := by
  have hrows : rows "h\n\n\"é\t\"\ta\r\r\n".toList =
      [⟨2, ⟨2, 2⟩, []⟩, ⟨3, ⟨3, 11⟩, [⟨"é\t".toList, 3, 8⟩, ⟨['a', '\r'], 9, 11⟩]⟩] := by decide +kernel
  have hmem : (⟨3, ⟨3, 11⟩, [⟨"é\t".toList, 3, 8⟩, ⟨['a', '\r'], 9, 11⟩]⟩ : Row) ∈
      rows "h\n\n\"é\t\"\ta\r\r\n".toList := by
    rw [hrows]
    simp
  obtain ⟨index, hstands⟩ := (rows_standOn_lines _).2.2.2 _ hmem
  obtain rfl : 2 = index := Nat.succ.inj hstands.number
  exact ⟨hmem, hstands⟩

end Table
end TableCodegen
