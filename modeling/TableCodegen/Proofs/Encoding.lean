import TableCodegen.Proofs.Cells
import TableCodegen.Proofs.Lines

/-!
# Reading a table undoes writing it

A cell can be written in two forms, plain or between quotes with every quote in it doubled; what
opens with a quote or holds a tab has to be quoted. Cells stand between tabs, and a row ends in a
line feed, with or without a carriage return in front; the last row may lack its end.

Whatever mixture of forms and ends is chosen, reading gives back the rows, the texts of their cells,
and with every cell the place of its written form (`rows_encoding`).
-/

namespace TableCodegen
namespace Table

open Text

/-- A text with every quote in it doubled. -/
def doubled : Text → Text
  | [] => []
  | c :: cs => if c = '"' then '"' :: '"' :: doubled cs else c :: doubled cs

/-- A cell and the form it is written in. -/
structure WrittenCell where
  text : Text
  quoted : Bool
  clean : '\n' ∉ text
  plain : quoted = false → text.head? ≠ some '"' ∧ '\t' ∉ text

/-- The written form of a cell. -/
def WrittenCell.form (cell : WrittenCell) : Text :=
  if cell.quoted then '"' :: doubled cell.text ++ ['"'] else cell.text

/-- The written form of a row without its end. -/
def formOf (cells : List WrittenCell) : Text := joinWith ['\t'] (cells.map WrittenCell.form)

/-- A row, and whether it has a carriage return in front of its line feed. The written form is not
empty, and its last cell, if plain, does not end in a carriage return. -/
structure WrittenRow where
  cells : List WrittenCell
  returned : Bool
  visible : formOf cells ≠ []
  unreturned : ∀ cell, cells.getLast? = some cell → cell.quoted = false →
    cell.text.getLast? ≠ some '\r'

/-- What a row has on its line: its cells, and the carriage return of its end. -/
def WrittenRow.content (row : WrittenRow) : Text :=
  formOf row.cells ++ if row.returned then ['\r'] else []

/-- The written form of a table body; the last row has an end if the body is `closed`. -/
def encode (closed : Bool) : List WrittenRow → Text
  | [] => []
  | [row] => if closed then row.content ++ ['\n'] else formOf row.cells
  | row :: next :: rows => row.content ++ '\n' :: encode closed (next :: rows)

/-! ### Cells -/

/-- Text without a tab is what stands in front of the tab that follows it, or of the end. -/
theorem upToTab_append (text : Text) {rest : Text} (h : '\t' ∉ text)
    (hrest : rest = [] ∨ ∃ more, rest = '\t' :: more) :
    upToTab (text ++ rest) = text ∧ fromTab (text ++ rest) = rest := by
  have hkept : ∀ c ∈ text, decide (c ≠ '\t') = true := by
    intro c hc
    exact decide_eq_true fun heq => h (heq ▸ hc)
  rw [upToTab, fromTab, List.takeWhile_append_of_pos hkept, List.dropWhile_append_of_pos hkept]
  obtain rfl | ⟨more, rfl⟩ := hrest <;> simp

/-- A closing quote that no second one follows ends the body. -/
theorem quotedBody_doubled (text : Text) {rest : Text} (hrest : rest.head? ≠ some '"') :
    quotedBody (doubled text ++ '"' :: rest) = ⟨doubled text ++ ['"'], text, rest⟩ := by
  induction text with
  | nil =>
    rw [doubled, List.nil_append, List.nil_append, quotedBody, if_pos rfl]
    rintro more - rfl
    exact hrest rfl
  | cons c cs ih =>
    by_cases hc : c = '"'
    · rw [doubled, if_pos hc, List.cons_append, List.cons_append, quotedBody, ih, hc]
      rfl
    · rw [doubled, if_neg hc, List.cons_append, quotedBody, if_neg hc, ih]
      · rfl
      · exact fun _ heq _ => hc heq

/-- A line that does not open with a quote has a plain cell in front. -/
theorem firstPiece_of_head {line : Text} (h : line.head? ≠ some '"') :
    firstPiece line = plainPiece line := by
  rw [firstPiece.eq_def]
  split
  · exact absurd rfl h
  · rfl

/-- **The first cell of a line is read off its written form,** if a tab or the end of the line
follows. A plain form is told from a quoted one by its first character, and the cell's own
conditions keep the two apart. -/
theorem firstPiece_form (cell : WrittenCell) {rest : Text}
    (hrest : rest = [] ∨ ∃ more, rest = '\t' :: more) :
    firstPiece (cell.form ++ rest) = ⟨cell.form, cell.text, rest⟩ := by
  have hhead : rest.head? ≠ some '"' := by obtain rfl | ⟨more, rfl⟩ := hrest <;> simp
  cases hquoted : cell.quoted with
  | true =>
    obtain ⟨hup, hfrom⟩ := upToTab_append [] List.not_mem_nil hrest
    rw [List.nil_append] at hup hfrom
    have hbody := quotedBody_doubled cell.text hhead
    simp [WrittenCell.form, hquoted, firstPiece, quotedPiece, hbody, hup, hfrom]
  | false =>
    obtain ⟨hopen, htab⟩ := cell.plain hquoted
    obtain ⟨hup, hfrom⟩ := upToTab_append _ htab hrest
    have hline : (cell.text ++ rest).head? ≠ some '"' := by
      cases htext : cell.text with
      | nil => exact hhead
      | cons c cs => simpa [htext] using hopen
    simp [WrittenCell.form, hquoted, firstPiece_of_head hline, plainPiece, hup, hfrom]

/-- One cell is written as itself. -/
theorem formOf_singleton (cell : WrittenCell) : formOf [cell] = cell.form := by
  simp [formOf, joinWith]

/-- A tab stands between a cell and the next one. -/
theorem formOf_cons_cons (cell next : WrittenCell) (cells : List WrittenCell) :
    formOf (cell :: next :: cells) = cell.form ++ '\t' :: formOf (next :: cells) := by
  simp [formOf, joinWith, List.intercalate]

/-- **The cells of a line are read off their written forms,** and each span cuts out the form, when
the line stands behind `front` in a text. -/
theorem cellsOf_formOf {cells : List WrittenCell} (hcells : cells ≠ []) :
    ∀ (front behind : Text),
      (cellsOf (byteSize front) (formOf cells)).map Cell.text = cells.map WrittenCell.text ∧
      (cellsOf (byteSize front) (formOf cells)).map
          (fun cell => slice? cell.span.start cell.span.stop (front ++ formOf cells ++ behind)) =
        cells.map fun cell => some cell.form := by
  induction cells with
  | nil => exact absurd rfl hcells
  | cons cell cells ih =>
    intro front behind
    cases cells with
    | nil =>
      have hpiece := firstPiece_form cell (.inl rfl)
      rw [List.append_nil] at hpiece
      rw [formOf_singleton, cellsOf_last _ (by rw [hpiece]), firstCell, hpiece]
      exact ⟨rfl, congrArg ([·]) (slice?_append front cell.form behind)⟩
    | cons next cells =>
      have hpiece := firstPiece_form cell (.inr ⟨formOf (next :: cells), rfl⟩)
      obtain ⟨htexts, hslices⟩ := ih (List.cons_ne_nil _ _) (front ++ cell.form ++ ['\t']) behind
      have hplace : byteSize front + byteSize cell.form + 1 =
          byteSize (front ++ cell.form ++ ['\t']) := by simp [Nat.add_assoc]
      have htext : front ++ (cell.form ++ '\t' :: formOf (next :: cells)) ++ behind =
          front ++ cell.form ++ ['\t'] ++ formOf (next :: cells) ++ behind := by simp
      have hslice : slice? (byteSize front) (byteSize front + byteSize cell.form)
          (front ++ cell.form ++ ['\t'] ++ formOf (next :: cells) ++ behind) = some cell.form :=
        slice?_of_eq_append _ ('\t' :: formOf (next :: cells) ++ behind) (by simp) rfl rfl
      rw [formOf_cons_cons, cellsOf_tab _ (by rw [hpiece]), firstCell, hpiece]
      simp only [hplace, htext, List.map_cons, hslice]
      exact ⟨congrArg (cell.text :: ·) htexts, congrArg (some cell.form :: ·) hslices⟩

/-! ### Rows -/

/-- One carriage return at the end of a line is dropped. -/
theorem dropReturn_append_return (content : Text) : dropReturn (content ++ ['\r']) = content := by
  induction content with
  | nil => rfl
  | cons c cs ih =>
    rw [List.cons_append, dropReturn, ih]
    intro _ hcs
    simp at hcs

/-- A line without one at its end is left as it is. -/
theorem dropReturn_of_getLast? {content : Text} (h : content.getLast? ≠ some '\r') :
    dropReturn content = content := by
  obtain ⟨returned, hcontent, rfl | rfl⟩ := exists_dropReturn_append content
  · rw [List.append_nil] at hcontent
    exact hcontent.symm
  · rw [hcontent] at h
    simp at h

/-- Doubling quotes brings no line feed in. -/
theorem lineFeed_notMem_doubled {text : Text} (h : '\n' ∉ text) : '\n' ∉ doubled text := by
  induction text with
  | nil => exact h
  | cons c cs ih =>
    obtain ⟨hc, hcs⟩ := not_or.1 (mt List.mem_cons.2 h)
    rw [doubled]
    split
    · simp [ih hcs]
    · simp [ih hcs, hc]

/-- No form of a cell holds a line feed, so a cell stays on its line. -/
theorem WrittenCell.lineFeed_notMem_form (cell : WrittenCell) : '\n' ∉ cell.form := by
  rw [form]
  split
  · simp [lineFeed_notMem_doubled cell.clean]
  · exact cell.clean

/-- No written row holds a line feed. -/
theorem lineFeed_notMem_formOf (cells : List WrittenCell) : '\n' ∉ formOf cells := by
  induction cells with
  | nil => exact List.not_mem_nil
  | cons cell cells ih =>
    cases cells with
    | nil =>
      rw [formOf_singleton]
      exact cell.lineFeed_notMem_form
    | cons next cells =>
      rw [formOf_cons_cons]
      simp [cell.lineFeed_notMem_form, ih]

/-- The written form of a row ends in a carriage return only if its last cell does. A quoted cell
ends in its quote, so only a plain one could. -/
theorem getLast?_formOf {cells : List WrittenCell}
    (h : ∀ cell, cells.getLast? = some cell → cell.quoted = false →
      cell.text.getLast? ≠ some '\r') :
    (formOf cells).getLast? ≠ some '\r' := by
  induction cells with
  | nil => simp [formOf, joinWith]
  | cons cell cells ih =>
    cases cells with
    | nil =>
      rw [formOf_singleton, WrittenCell.form]
      split
      · rw [List.getLast?_concat]
        decide
      · rename_i hquoted
        exact h cell rfl (by simpa using hquoted)
    | cons next cells =>
      have hrest := ih fun last hlast => h last (by rw [List.getLast?_cons_cons, hlast])
      rw [formOf_cons_cons, List.getLast?_append, List.getLast?_cons]
      cases hlast : (formOf (next :: cells)).getLast? with
      | none => simp
      | some c => simpa [hlast] using hrest

namespace WrittenRow

/-- The first line feed behind a row is that of its end. -/
theorem lineFeed_notMem_content (row : WrittenRow) : '\n' ∉ row.content := by
  rw [content]
  split <;> simp [lineFeed_notMem_formOf]

/-- A written row does not end in a carriage return of its own, which would be dropped with its
end. -/
theorem dropReturn_formOf (row : WrittenRow) : dropReturn (formOf row.cells) = formOf row.cells :=
  dropReturn_of_getLast? (getLast?_formOf row.unreturned)

/-- The carriage return of its end is dropped from a line, and none of a cell. -/
theorem dropReturn_content (row : WrittenRow) : dropReturn row.content = formOf row.cells := by
  rw [content]
  split
  · exact dropReturn_append_return _
  · rw [List.append_nil, row.dropReturn_formOf]

end WrittenRow

/-- Rows read off a text, against those that were written: their numbers from `line` on, the texts
of their cells, and what the spans of the cells cut out. -/
structure Decoded (t : Text) (line : Nat) (rows : List Row) (written : List WrittenRow) : Prop where
  lines : rows.map Row.line = List.range' line written.length
  texts : rows.map (fun row => row.cells.map Cell.text) =
    written.map fun row => row.cells.map WrittenCell.text
  forms : rows.map (fun row => row.cells.map fun cell =>
      slice? cell.span.start cell.span.stop t) =
    written.map fun row => row.cells.map fun cell => some cell.form

/-- A row in front of decoded rows is decoded, with the number of its line and the spans of its
cells counted from the start of the whole text. -/
theorem Decoded.cons {t front : Text} (behind : Text) {row : WrittenRow} {line : Nat}
    {rows : List Row} {written : List WrittenRow} (ht : t = front ++ formOf row.cells ++ behind)
    (h : Decoded t (line + 1) rows written) :
    Decoded t line (Row.ofLine line (byteSize front) (formOf row.cells) :: rows)
      (row :: written) := by
  have hcells : row.cells ≠ [] := by
    intro hnil
    exact row.visible (by rw [hnil]; rfl)
  have hofLine : (Row.ofLine line (byteSize front) (formOf row.cells)).cells =
      cellsOf (byteSize front) (formOf row.cells) :=
    if_neg (by rw [List.isEmpty_iff]; exact row.visible)
  obtain ⟨htexts, hforms⟩ := cellsOf_formOf hcells front behind
  rw [← hofLine] at htexts hforms
  rw [← ht] at hforms
  constructor
  · rw [List.map_cons, h.lines, List.length_cons, List.range'_succ]
    rfl
  · rw [List.map_cons, h.texts, htexts, List.map_cons]
  · rw [List.map_cons, h.forms, hforms, List.map_cons]

/-- The rows of a body that stands behind `front`, numbered from `line` on. The induction is on the
rows with the front growing by each; the last one is looked at apart, as it may lack its end. -/
theorem decoded_rowsFrom (closed : Bool) (written : List WrittenRow) :
    ∀ (line : Nat) (front : Text),
      Decoded (front ++ encode closed written) line
        (rowsFrom line (byteSize front) (lineTexts (encode closed written))) written := by
  induction written with
  | nil => exact fun line front => ⟨rfl, rfl, rfl⟩
  | cons row rows ih =>
    intro line front
    cases rows with
    | nil =>
      cases closed with
      | true =>
        rw [encode, if_pos rfl, lineTexts_line [] row.lineFeed_notMem_content, rowsFrom,
          row.dropReturn_content]
        refine .cons ((if row.returned then ['\r'] else []) ++ ['\n']) ?_ ⟨rfl, rfl, rfl⟩
        simp [WrittenRow.content]
      | false =>
        rw [encode, if_neg Bool.false_ne_true, lineTexts_last (lineFeed_notMem_formOf _),
          if_neg row.visible, rowsFrom, row.dropReturn_formOf]
        exact .cons [] (by simp) ⟨rfl, rfl, rfl⟩
    | cons next rows =>
      have hrest := ih (line + 1) (front ++ row.content ++ ['\n'])
      have hplace : byteSize front + byteSize row.content + 1 =
          byteSize (front ++ row.content ++ ['\n']) := by simp [Nat.add_assoc]
      have htext : front ++ (row.content ++ '\n' :: encode closed (next :: rows)) =
          front ++ row.content ++ ['\n'] ++ encode closed (next :: rows) := by simp
      rw [encode, lineTexts_line _ row.lineFeed_notMem_content, rowsFrom, row.dropReturn_content,
        hplace, htext]
      refine .cons
        ((if row.returned then ['\r'] else []) ++ '\n' :: encode closed (next :: rows)) ?_ hrest
      simp [WrittenRow.content]

/-- **Reading undoes writing.** Whatever is chosen for each cell and each row, there is one row for
each that was written, numbered from 2 on; its cells hold the written texts, and their spans cut out
the written forms. -/
theorem rows_encoding {header : Text} (hheader : '\n' ∉ header) (closed : Bool)
    (written : List WrittenRow) :
    Decoded (header ++ '\n' :: encode closed written) 2
      (rows (header ++ '\n' :: encode closed written)) written := by
  have h := decoded_rowsFrom closed written 2 (header ++ ['\n'])
  simpa [rows_header _ hheader] using h

/-- A row with a tab and quotes in quoted form and quotes in plain form, and a row that ends in an
empty cell behind one that ends in a carriage return. -/
def mixedRows : List WrittenRow := [
  { cells := [⟨"a\t\"b\"".toList, true, by decide, by decide⟩,
      ⟨"say \"hi\"".toList, false, by decide, by decide⟩]
    returned := true
    visible := by decide
    unreturned := by
      rintro cell ⟨⟩ -
      decide },
  { cells := [⟨"x\r".toList, false, by decide, by decide⟩, ⟨[], false, by decide, by decide⟩]
    returned := false
    visible := by decide
    unreturned := by
      rintro cell ⟨⟩ -
      decide }]

example : encode false mixedRows = "\"a\t\"\"b\"\"\"\tsay \"hi\"\r\nx\r\t".toList := by decide

/-- The mixed rows behind a header that ends in a carriage return, the last one without an end. -/
theorem rows_encoding_mixedRows :
    '\n' ∉ "head\r".toList ∧
      Decoded ("head\r".toList ++ '\n' :: encode false mixedRows) 2
        (rows ("head\r".toList ++ '\n' :: encode false mixedRows)) mixedRows :=
  ⟨by decide, rows_encoding (by decide) false mixedRows⟩

end Table
end TableCodegen
