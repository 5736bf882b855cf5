import Mathlib.Data.List.Basic
import TableCodegen.Proofs.Cells
import TableCodegen.Proofs.Excerpts
import TableCodegen.Proofs.Loading
import TableCodegen.Proofs.Messages

/-!
# The report of a table that does not load

The row reader and the line table split a text in their own ways, and the span of an error is made
by the one and looked up by the other. They agree: the span of a row or a cell is the place of a
part of one line, so the report of a table error always has its excerpt, and the excerpt shows the
line of the first row that fails.

`reportLines` is what such a report says and `PointsAt` where it points. The main statement is
`report_of_load_error`.
-/

namespace TableCodegen

open Text

/-- The lines of the report of a table error that underlines `width` characters of the line `shown`,
from a column on. -/
def reportLines (path : Text) (line column width : Nat) (shown message : Text) : List Text := [
  "table error".toList,
  "at ".toList ++ path ++ [' '] ++ decimal line ++ [':'] ++ decimal column
    ++ (if width > 1 then '-' :: decimal (column + width - 1) else []),
  decimal line ++ " | ".toList ++ shown,
  List.replicate ((decimal line).length + 3 + column - 1) ' ' ++ List.replicate width '^',
  message]

/-- Where the error of a row points: from which column on, and at how many characters. -/
inductive PointsAt (table : Text) (row : Table.Row) :
    Table.Error → (column width : Nat) → Prop where
  /-- A missing column at the whole row. -/
  | row {column found : Nat} {raw : Text}
      (hraw : slice? row.span.start row.span.stop table = some raw) :
      PointsAt table row ⟨row.span, .missingColumn column found⟩ 1 (max 1 raw.length)
  /-- A bad type code at the second cell as it is written. -/
  | cell {first second : Table.Cell} {others : List Table.Cell} {before raw : Text}
      (hcells : row.cells = first :: second :: others)
      (hbefore : slice? row.span.start second.span.start table = some before)
      (hraw : slice? second.span.start second.span.stop table = some raw) :
      PointsAt table row ⟨second.span, .invalidTypeCode second.text⟩ (1 + before.length)
        (max 1 raw.length)

/-- The report of a table error is a line that says so, the excerpt and the message. -/
theorem Failure.report_table (doc : Document) (error : Table.Error) :
    (Failure.table error).report doc =
      (doc.excerpt error.span).map fun excerpt =>
        "table error\n".toList ++ excerpt ++ error.cause.message ++ ['\n'] := by
  show ((doc.excerpt error.span).map _).map _ = _
  cases doc.excerpt error.span <;> rfl

/-- An error at a part of a line is reported with that part underlined. -/
theorem report_of_part (path : Text) (error : Table.Error)
    {t before content after front part behind : Text} (h : LineAt t before content after)
    (hcontent : content = front ++ part ++ behind)
    (hstart : error.span.start = byteSize before + byteSize front)
    (hstop : error.span.stop = error.span.start + byteSize part) :
    (Failure.table error).report ⟨path, t⟩ =
      .ok ((reportLines path (lineFeeds before + 1) (1 + front.length) (max 1 part.length)
        (trimEnd (· == '\r') content) error.cause.message).flatMap (· ++ ['\n'])) := by
  rw [Failure.report_table, Document.excerpt_part h hcontent hstart hstop, Nat.add_comm 1,
    Nat.max_comm 1, Except.map]
  unfold reportLines Document.showExcerpt
  simp

/-- The lines of a report are lines, if the path is one. -/
theorem lineFeed_notMem_reportLines {path shown message : Text} {line column width : Nat}
    (hpath : '\n' ∉ path) (hshown : '\n' ∉ shown) (hmessage : '\n' ∉ message) :
    ∀ reported ∈ reportLines path line column width shown message, '\n' ∉ reported := by
  have hline := lineFeed_notMem_decimal line
  have hcolumn := lineFeed_notMem_decimal column
  have hlast : '\n' ∉ if width > 1 then '-' :: decimal (column + width - 1) else [] := by
    split
    · simp [lineFeed_notMem_decimal]
    · exact List.not_mem_nil
  simp [reportLines, hpath, hshown, hmessage, hline, hcolumn, hlast]

/-- What is left when the end of a text is trimmed was there before. -/
theorem trimEnd_subset (p : Char → Bool) (t : Text) : trimEnd p t ⊆ t := by
  intro c hc
  rw [trimEnd, List.mem_reverse] at hc
  exact List.mem_reverse.1 ((List.dropWhile_sublist p).subset hc)

/-- What is told of a table that does not load: the first row that fails, the physical line it
stands on, what the error points at there, and the report, which is five lines. -/
structure Diagnosis (generator : Generator) (path table : Text) (error : Table.Error)
    (row : Table.Row) (physical : Text) (column width : Nat) : Prop where
  first : generator.FirstFailure (Table.rows table) row error
  line : (table.splitOn '\n')[row.line - 1]? = some physical
  points : PointsAt table row error column width
  report : (Failure.table error).report ⟨path, table⟩ =
    .ok ((reportLines path row.line column width (trimEnd (· == '\r') physical)
      error.cause.message).flatMap (· ++ ['\n']))
  lines : ∀ reported ∈ reportLines path row.line column width (trimEnd (· == '\r') physical)
    error.cause.message, '\n' ∉ reported

/-- **A table that does not load is reported at its first failing row.** Whatever the table holds
and whichever generator reads it, the report exists, and its five lines are told by the number of
that row, by the physical line with that number, and by what the error points at in the row. -/
theorem report_of_load_error (generator : Generator) {path table : Text} {error : Table.Error}
    (hpath : '\n' ∉ path) (h : generator.load table = .error error) :
    ∃ row physical column width,
      Diagnosis generator path table error row physical column width := by
  rw [Generator.load_eq_recordsOfRows] at h
  obtain ⟨row, hrow⟩ := Generator.recordsOfRows_eq_error h
  have hmem : row ∈ Table.rows table := by
    obtain ⟨earlier, later, hrows, -⟩ := hrow.isFirst
    rw [hrows]
    exact List.mem_append_right _ List.mem_cons_self
  obtain ⟨before, content, after, hline, hofLine⟩ := Table.exists_lineAt_of_mem_rows hmem
  obtain ⟨returned, hcontent, -⟩ := Table.exists_dropReturn_append content
  have hclean : '\n' ∉ trimEnd (· == '\r') content := fun hc =>
    hline.clean (trimEnd_subset _ _ hc)
  have hnumber : row.line = lineFeeds before + 1 := by rw [hofLine]; rfl
  have hstart : row.span.start = byteSize before := by rw [hofLine]; rfl
  have hstop : row.span.stop = row.span.start + byteSize (Table.dropReturn content) := by
    rw [hofLine]; rfl
  have hphysical : (table.splitOn '\n')[row.line - 1]? = some content := by
    rw [hnumber]
    exact hline.splitOn_getElem?
  obtain ⟨column, rfl⟩ | ⟨first, second, others, hcells, rfl⟩ :=
    Generator.recordOfRow_eq_error hrow.fails
  · have hparts : content = [] ++ Table.dropReturn content ++ returned := hcontent
    refine ⟨row, content, 1, _, hrow, hphysical, .row (hline.slice?_part hparts hstart hstop), ?_,
      lineFeed_notMem_reportLines hpath hclean (Table.Cause.lineFeed_notMem_message _)⟩
    have hreport := report_of_part path ⟨row.span, .missingColumn column row.cells.length⟩ hline
      hparts hstart hstop
    rw [List.length_nil, Nat.add_zero] at hreport
    rw [hnumber]
    exact hreport
  · have hsecond : second ∈ row.cells := by simp [hcells]
    rw [hofLine] at hsecond
    obtain ⟨front, written, behind, hparts, hspan, -⟩ := Table.exists_part_of_mem_ofLine hsecond
    have hparts' : content = front ++ written ++ (behind ++ returned) := by
      rw [hcontent, hparts]
      simp
    have hstart' : second.span.start = byteSize before + byteSize front := by rw [hspan]
    have hstop' : second.span.stop = second.span.start + byteSize written := by rw [hspan]
    refine ⟨row, content, 1 + front.length, max 1 written.length, hrow, hphysical,
      .cell hcells ?_ (hline.slice?_part hparts' hstart' hstop'), ?_,
      lineFeed_notMem_reportLines hpath hclean (Table.Cause.lineFeed_notMem_message _)⟩
    · rw [hstart]
      exact hline.slice?_front hparts' hstart'
    · rw [hnumber]
      exact report_of_part path _ hline hparts' hstart' hstop'

/-- A bad type code in quotes, behind a row that is passed over, on a line that ends in two carriage
returns. -/
theorem report_of_quoted_code :
    '\n' ∉ "ies.tsv".toList ∧
      Generator.informationElements.load
          "h\nx\n\t\"é\t9\"\t\t\t\t\t\t\t\t\t\t\t\t\t\t\t\r\r\n".toList =
        .error ⟨⟨5, 11⟩, .invalidTypeCode "é\t9".toList⟩ ∧
      ∃ row physical column width, Diagnosis .informationElements "ies.tsv".toList
        "h\nx\n\t\"é\t9\"\t\t\t\t\t\t\t\t\t\t\t\t\t\t\t\r\r\n".toList
        ⟨⟨5, 11⟩, .invalidTypeCode "é\t9".toList⟩ row physical column width :=
  ⟨by decide, by decide +kernel,
    report_of_load_error .informationElements (by decide) (by decide +kernel)⟩

end TableCodegen
