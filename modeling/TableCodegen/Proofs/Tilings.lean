import Mathlib.Data.List.Chain
import TableCodegen.Proofs.Cursors

/-!
# Rows and cells take up the whole text

Nothing of a table is lost between its rows or between its cells, and nothing is read twice. Behind
the header come the lines of the rows, each with the end of its line; on a line come the cells, with
one tab between neighbours.

`RowsTile before rest rows` says that `rows` take up `rest`, which stands behind `before` in the
text, and `CellsTile t span cells` that `cells` take up a span of `t`. A text is taken up by its
header and its rows, and reading it by places ends there without a cut that misses (`rows_tile`).
-/

namespace TableCodegen
namespace Table

open Text

/-- Cells that take up a span of a text from its start to its stop. -/
structure CellsTile (t : Text) (span : Span) (cells : List Cell) : Prop where
  first : ∀ cell, cells.head? = some cell → cell.span.start = span.start
  last : ∀ cell, cells.getLast? = some cell → cell.span.stop = span.stop
  /-- One byte stands between a cell and the next one, and it is a tab. -/
  neighbours : cells.IsChain fun cell next =>
    next.span.start = cell.span.stop + 1 ∧ slice? cell.span.stop next.span.start t = some ['\t']
  /-- Every cell is a part of the text. -/
  within : ∀ cell ∈ cells, (slice? cell.span.start cell.span.stop t).isSome

/-- The end of a line between its content and `rest`: a line feed, which may be missing only at the
end of the text, with a carriage return in front if there is one. -/
def LineEnd (content ending rest : Text) : Prop :=
  ∃ returned, (returned = ['\r'] ∨ returned = [] ∧ content.getLast? ≠ some '\r') ∧
    (ending = returned ++ ['\n'] ∨ ending = returned ∧ rest = [])

/-- Rows that take up what is left of a text behind `before`. -/
inductive RowsTile : (before rest : Text) → List Row → Prop where
  /-- Nothing is left. -/
  | done {before : Text} : RowsTile before [] []
  /-- A row, the end of its line, and the rows behind it. -/
  | row {before content ending rest : Text} {row : Row} {rows : List Row}
      (line : row.line = lineFeeds before + 1)
      (start : row.span.start = byteSize before)
      (part : slice? row.span.start row.span.stop (before ++ content ++ ending ++ rest) =
        some content)
      (clean : '\n' ∉ content)
      (ends : LineEnd content ending rest)
      (visible : content ++ ending ≠ [])
      (empty : row.cells = [] ↔ row.span.start = row.span.stop)
      (cells : CellsTile (before ++ content ++ ending ++ rest) row.span row.cells)
      (behind : RowsTile (before ++ content ++ ending) rest rows) :
      RowsTile before (content ++ ending ++ rest) (row :: rows)

/-! ### Cells -/

/-- A line has a cell at least, if only an empty one: it is the row that makes no cells of an empty
line. -/
theorem cellsOf_ne_nil (offset : Nat) (line : Text) : cellsOf offset line ≠ [] := by
  rw [cellsOf]
  exact List.cons_ne_nil _ _

/-- An empty list of cells takes up any span: an empty line has no cells, and its row still has a
span. -/
theorem CellsTile.nil (t : Text) (span : Span) : CellsTile t span [] where
  first := by
    rintro cell ⟨⟩
  last := by
    rintro cell ⟨⟩
  neighbours := .nil
  within := by
    rintro cell ⟨⟩

/-- One cell takes up its own span. -/
theorem CellsTile.singleton {t : Text} {cell : Cell}
    (h : (slice? cell.span.start cell.span.stop t).isSome) : CellsTile t cell.span [cell] where
  first := by
    rintro _ ⟨⟩
    rfl
  last := by
    rintro _ ⟨⟩
    rfl
  neighbours := .singleton _
  within := List.forall_mem_singleton.2 h

/-- A cell, a tab, and the cells that take up what is behind it. -/
theorem CellsTile.cons {t : Text} {stop : Nat} {cell next : Cell} {cells : List Cell}
    (hpart : (slice? cell.span.start cell.span.stop t).isSome)
    (htab : slice? cell.span.stop (cell.span.stop + 1) t = some ['\t'])
    (h : CellsTile t ⟨cell.span.stop + 1, stop⟩ (next :: cells)) :
    CellsTile t ⟨cell.span.start, stop⟩ (cell :: next :: cells) := by
  have hnext : next.span.start = cell.span.stop + 1 := h.first next rfl
  constructor
  · rintro _ ⟨⟩
    rfl
  · intro last hlast
    rw [List.getLast?_cons_cons] at hlast
    exact h.last last hlast
  · rw [← hnext] at htab
    exact List.isChain_cons_cons.2 ⟨⟨hnext, htab⟩, h.neighbours⟩
  · exact List.forall_mem_cons.2 ⟨hpart, h.within⟩

/-- The first cell of a line is a part of the text that the line stands in. -/
theorem slice?_firstCell (front line behind : Text) :
    slice? (firstCell (byteSize front) line).span.start
      (firstCell (byteSize front) line).span.stop (front ++ line ++ behind) =
        some (firstPiece line).written := by
  have htext : front ++ line ++ behind =
      front ++ (firstPiece line).written ++ ((firstPiece line).rest ++ behind) := calc
    _ = front ++ ((firstPiece line).written ++ (firstPiece line).rest) ++ behind := by
      rw [firstPiece_written_append]
    _ = _ := by simp only [List.append_assoc]
  exact slice?_of_eq_append front _ htext rfl rfl

/-- **The cells of a line take up the line.** The induction is on the cells: the first one goes over
to the text in front, with its tab. -/
theorem cellsTile_cellsOf {line : Text} :
    ∀ front behind : Text, CellsTile (front ++ line ++ behind)
      ⟨byteSize front, byteSize front + byteSize line⟩ (cellsOf (byteSize front) line) := by
  induction line using cellInduction with
  | last line hrest =>
    intro front behind
    have hpart := Option.isSome_of_eq_some (slice?_firstCell front line behind)
    have hwritten := (written_eq_byteSize_iff line).2 hrest
    rw [cellsOf_last _ hrest, ← hwritten]
    exact .singleton hpart
  | tab line rest hrest ih =>
    intro front behind
    have hpart := Option.isSome_of_eq_some (slice?_firstCell front line behind)
    have hplace : byteSize (front ++ (firstPiece line).written ++ ['\t']) =
        byteSize front + byteSize (firstPiece line).written + 1 := by simp [Nat.add_assoc]
    have htext : front ++ (firstPiece line).written ++ ['\t'] ++ rest ++ behind =
        front ++ line ++ behind := calc
      _ = front ++ ((firstPiece line).written ++ '\t' :: rest) ++ behind := by simp
      _ = _ := congrArg (front ++ · ++ behind) (eq_written_append_tab hrest).symm
    have hstop : byteSize front + byteSize line =
        byteSize front + byteSize (firstPiece line).written + 1 + byteSize rest := calc
      _ = byteSize (front ++ ((firstPiece line).written ++ '\t' :: rest)) := by
        rw [← eq_written_append_tab hrest, byteSize_append]
      _ = _ := by simp [Nat.add_assoc]
    have htab : slice? (firstCell (byteSize front) line).span.stop
        ((firstCell (byteSize front) line).span.stop + 1) (front ++ line ++ behind) =
          some ['\t'] :=
      slice?_of_eq_append (front ++ (firstPiece line).written) (rest ++ behind)
        (by simp [← htext]) (byteSize_append ..).symm rfl
    have hcells := ih (front ++ (firstPiece line).written ++ ['\t']) behind
    rw [htext, hplace] at hcells
    obtain ⟨next, cells, hnext⟩ := List.exists_cons_of_ne_nil
      (cellsOf_ne_nil (byteSize front + byteSize (firstPiece line).written + 1) rest)
    rw [cellsOf_tab _ hrest, hstop, hnext]
    rw [hnext] at hcells
    exact .cons hpart htab hcells

/-! ### Rows -/

/-- A line is what is left of it and the carriage return that is dropped, if there is one. If
nothing is dropped, what is left does not end in a return, so the two forms exclude each other. -/
theorem exists_return {content : Text} (h : '\n' ∉ content) :
    '\n' ∉ dropReturn content ∧
      ∃ returned, content = dropReturn content ++ returned ∧
        (returned = ['\r'] ∨ returned = [] ∧ (dropReturn content).getLast? ≠ some '\r') := by
  obtain ⟨returned, hcontent, hreturned⟩ := exists_dropReturn_append content
  have hclean : '\n' ∉ dropReturn content := fun hmem =>
    h (hcontent ▸ List.mem_append_left returned hmem)
  refine ⟨hclean, returned, hcontent, ?_⟩
  rcases hreturned with rfl | rfl
  · refine .inr ⟨rfl, fun hlast => ?_⟩
    rw [List.append_nil] at hcontent
    rw [← hcontent] at hlast
    obtain ⟨front, rfl⟩ := List.getLast?_eq_some_iff.1 hlast
    rw [dropReturn_append_return] at hcontent
    have hlength := congrArg List.length hcontent
    rw [List.length_append, List.length_singleton] at hlength
    omega
  · exact .inl rfl

/-- A row has no cells exactly when nothing stands on its line. -/
theorem Row.cells_ofLine_eq_nil_iff (line offset : Nat) (content : Text) :
    (Row.ofLine line offset content).cells = [] ↔
      (Row.ofLine line offset content).span.start = (Row.ofLine line offset content).span.stop := by
  have hspan : offset = offset + byteSize content ↔ content = [] := by
    rw [← byteSize_eq_zero]
    omega
  refine Iff.trans ?_ hspan.symm
  rw [Row.ofLine, ← List.isEmpty_iff (l := content)]
  split
  · rename_i hempty
    exact iff_of_true rfl hempty
  · rename_i hempty
    exact iff_of_false (cellsOf_ne_nil offset content) hempty

/-- **A row takes up its line,** in front of rows that take up what is behind it. -/
theorem RowsTile.ofLine {before content ending rest : Text} {rows : List Row}
    (clean : '\n' ∉ content) (ends : LineEnd content ending rest) (visible : content ++ ending ≠ [])
    (behind : RowsTile (before ++ content ++ ending) rest rows) :
    RowsTile before (content ++ ending ++ rest)
      (Row.ofLine (lineFeeds before + 1) (byteSize before) content :: rows) := by
  have htext : before ++ content ++ ending ++ rest = before ++ content ++ (ending ++ rest) := by
    simp
  refine .row rfl rfl ?_ clean ends visible ?_ ?_ behind
  · rw [htext]
    exact slice?_append before content (ending ++ rest)
  · exact Row.cells_ofLine_eq_nil_iff _ _ content
  · rw [Row.ofLine, htext]
    split
    · exact .nil _ _
    · exact cellsTile_cellsOf before (ending ++ rest)

/-- **The rows of consecutive lines take them up.** A row ends before its line feed and a return in
front of that, and the next one starts behind them. -/
theorem rowsTile_rowsFrom {t : Text} :
    ∀ before : Text, RowsTile before t
      (rowsFrom (lineFeeds before + 1) (byteSize before) (lineTexts t)) := by
  induction t using lineInduction with
  | last content hcontent =>
    intro before
    obtain ⟨hclean, returned, hreturned, hcases⟩ := exists_return hcontent
    rw [lineTexts_last hcontent]
    split
    · rename_i hnil
      rw [hnil]
      exact .done
    · rename_i hnil
      have hvisible : dropReturn content ++ returned ≠ [] := by rwa [← hreturned]
      have hrow : RowsTile before (dropReturn content ++ returned ++ [])
          [Row.ofLine (lineFeeds before + 1) (byteSize before) (dropReturn content)] :=
        .ofLine hclean ⟨returned, hcases, .inr ⟨rfl, rfl⟩⟩ hvisible .done
      rwa [List.append_nil, ← hreturned] at hrow
  | line content rest hcontent ih =>
    intro before
    -- The carriage return, if there is one, goes over from the line to its end.
    obtain ⟨hclean, returned, hreturned, hcases⟩ := exists_return hcontent
    have hbefore : before ++ dropReturn content ++ (returned ++ ['\n']) =
        before ++ content ++ ['\n'] := calc
      _ = before ++ (dropReturn content ++ returned) ++ ['\n'] := by simp
      _ = _ := by rw [← hreturned]
    have hplace : byteSize before + byteSize content + 1 =
        byteSize (before ++ content ++ ['\n']) := by simp [Nat.add_assoc]
    have hline : lineFeeds before + 1 = lineFeeds (before ++ content ++ ['\n']) := by
      simp [lineFeeds_eq_zero hcontent]
    have hbehind := ih (before ++ content ++ ['\n'])
    rw [← hplace, ← hline, ← hbefore] at hbehind
    have hrow := RowsTile.ofLine hclean ⟨returned, hcases, .inl rfl⟩ (by simp) hbehind
    have htext : dropReturn content ++ (returned ++ ['\n']) ++ rest =
        content ++ '\n' :: rest := calc
      _ = dropReturn content ++ returned ++ '\n' :: rest := by simp
      _ = _ := by rw [← hreturned]
    rw [htext] at hrow
    rwa [lineTexts_line rest hcontent, rowsFrom]

/-- **Rows and cells take up the whole text.** Behind the header stand the rows, each on a line of
its own, and they are those that are read by places, where no cut misses and each step of the two
loops moves on. -/
theorem rows_tile (t : Text) :
    (∃ header ending body, t = header ++ ending ++ body ∧ '\n' ∉ header ∧
      (ending = ['\n'] ∨ ending = [] ∧ body = []) ∧
        RowsTile (header ++ ending) body (rows t)) ∧
      readRows? t = some (rows t) ∧
      (∀ line cursor next, nextLine? t cursor = some (some line, next) →
        cursor.offset < next.offset ∧ next.offset ≤ byteSize t) ∧
      ∀ offset line cell start next, nextCell? offset line start = some (cell, some next) →
        start < next ∧ next ≤ byteSize line := by
  refine ⟨?_, readRows?_eq t, fun _ _ _ h => nextLine?_advances h, fun _ _ _ _ _ h =>
    nextCell?_advances h⟩
  by_cases hfeed : '\n' ∈ t
  · obtain ⟨header, body, rfl, hheader⟩ := List.eq_append_cons_of_mem hfeed
    have hrows := rowsTile_rowsFrom (t := body) (header ++ ['\n'])
    refine ⟨header, ['\n'], body, by simp, hheader, .inl rfl, ?_⟩
    rw [rows_header body hheader]
    simpa [lineFeeds_eq_zero hheader] using hrows
  · refine ⟨t, [], [], by simp, hfeed, .inr ⟨rfl, rfl⟩, ?_⟩
    rw [rows_of_header hfeed]
    exact .done

end Table
end TableCodegen
