import TableCodegen.Proofs.Cells
import TableCodegen.Proofs.Loading

/-!
# Rows in another place

What a row comes to is told by the texts of its cells; its line and its spans are only pointed at.
So a row with the same content in another place comes to the same, and an error of it points at the
other place.

A `RowLoader` is a loader that reads a table row by row with a reader of this kind. Both tables have
one, and `collect_map_shift` says what such a reader makes of rows that have been moved.
-/

namespace TableCodegen

/-- A span so many bytes further on. -/
def Span.shift (span : Span) (bytes : Nat) : Span := ⟨span.start + bytes, span.stop + bytes⟩

namespace Table

/-- An error that points so many bytes further on. -/
def Error.shift (error : Error) (bytes : Nat) : Error :=
  { error with span := error.span.shift bytes }

/-- A cell so many bytes further on. -/
def Cell.shift (cell : Cell) (bytes : Nat) : Cell := { cell with span := cell.span.shift bytes }

/-- A row so many lines and bytes further on. -/
def Row.shift (row : Row) (lines bytes : Nat) : Row :=
  ⟨row.line + lines, row.span.shift bytes, row.cells.map (·.shift bytes)⟩

/-- The first cell of a line moves with its line. -/
theorem firstCell_shift (offset bytes : Nat) (line : Text) :
    firstCell (offset + bytes) line = (firstCell offset line).shift bytes := by
  simp only [firstCell, Cell.shift, Span.shift, Nat.add_right_comm]

/-- The cells of a line move with it. Each begins where the one before it ends, so a distance at the
start goes through to all of them. -/
theorem cellsOf_shift (bytes : Nat) {line : Text} :
    ∀ offset, cellsOf (offset + bytes) line = (cellsOf offset line).map (·.shift bytes) := by
  induction line using cellInduction with
  | last line hrest =>
    intro offset
    rw [cellsOf_last _ hrest, cellsOf_last _ hrest, firstCell_shift]
    rfl
  | tab line rest hrest ih =>
    intro offset
    have hplace : offset + bytes + Text.byteSize (firstPiece line).written + 1 =
        offset + Text.byteSize (firstPiece line).written + 1 + bytes := by omega
    rw [cellsOf_tab _ hrest, cellsOf_tab _ hrest, firstCell_shift, hplace, ih]
    rfl

/-- A line so many lines and bytes further on is the row so many further on. -/
theorem Row.ofLine_shift (line offset lines bytes : Nat) (content : Text) :
    Row.ofLine (line + lines) (offset + bytes) content =
      (Row.ofLine line offset content).shift lines bytes := by
  simp only [Row.ofLine, Row.shift, Span.shift, cellsOf_shift, Nat.add_right_comm]
  split <;> rfl

/-- **The same lines further on are the same rows further on.** -/
theorem rowsFrom_shift (lines bytes : Nat) {contents : List Text} :
    ∀ line offset, rowsFrom (line + lines) (offset + bytes) contents =
      (rowsFrom line offset contents).map (·.shift lines bytes) := by
  induction contents with
  | nil => exact fun _ _ => rfl
  | cons content contents ih =>
    intro line offset
    have hline : line + lines + 1 = line + 1 + lines := by omega
    have hplace : offset + bytes + Text.byteSize content + 1 =
        offset + Text.byteSize content + 1 + bytes := by omega
    rw [rowsFrom, rowsFrom, Row.ofLine_shift, hline, hplace, ih]
    rfl

/-- Whether a row opens with a marker does not depend on its place. -/
@[simp] theorem Row.opensWith_shift (row : Row) (lines bytes : Nat) (marker : Text) :
    (row.shift lines bytes).opensWith marker = row.opensWith marker := by
  unfold Row.opensWith Row.shift
  cases row.cells <;> rfl

/-- A row has the same number of cells in any place. -/
@[simp] theorem Row.length_cells_shift (row : Row) (lines bytes : Nat) :
    (row.shift lines bytes).cells.length = row.cells.length := List.length_map _

/-! ### Reading row by row -/

/-- What a reader makes of a row in another place is what it makes of the row, and an error points
at the other place. -/
def ReadsInPlace {α : Type} (read : Row → Except Error α) : Prop :=
  ∀ row lines bytes,
    read (row.shift lines bytes) = (read row).mapError (·.shift bytes)

/-- What is made of the items of a reader does not matter to their places. -/
theorem ReadsInPlace.map {α β : Type} {read : Row → Except Error α} (h : ReadsInPlace read)
    (f : α → β) : ReadsInPlace fun row => (read row).map f := by
  intro row lines bytes
  show (read (row.shift lines bytes)).map f = ((read row).map f).mapError (·.shift bytes)
  rw [h]
  cases read row <;> rfl

/-- The items that a reader finds in rows, in their order; the first row that fails decides. -/
def collect {α : Type} (read : Row → Except Error (Option α)) : List Row → Except Error (List α)
  | [] => .ok []
  | row :: rows => do
    let item? ← read row
    let items ← collect read rows
    return item?.toList ++ items

section Collect

variable {α : Type} {read : Row → Except Error (Option α)} {row : Row} {rows : List Row}

/-- The first row that fails decides, and no row behind it is looked at. -/
theorem collect_cons_of_error {error : Error} (h : read row = .error error) (rows : List Row) :
    collect read (row :: rows) = .error error := by
  rw [collect, h]
  rfl

/-- A row that can be read has its item, if it has one, in front of those behind it. -/
theorem collect_cons_of_ok {item? : Option α} (h : read row = .ok item?) (rows : List Row) :
    collect read (row :: rows) = (collect read rows).map (item?.toList ++ ·) := by
  rw [collect, h]
  cases collect read rows <;> rfl

/-- Rows that all can be read and the rows behind them. Items are put in front of those of the later
rows, and an error of the later rows is the error of all. -/
theorem collect_append_of_ok {items : List α} {later : List Row}
    (h : collect read rows = .ok items) :
    collect read (rows ++ later) = (collect read later).map (items ++ ·) := by
  induction rows generalizing items with
  | nil =>
    obtain rfl := Except.ok.inj h
    cases hlater : collect read later <;> simp [hlater, Except.map]
  | cons row rows ih =>
    cases hrow : read row with
    | error error =>
      rw [collect_cons_of_error hrow] at h
      cases h
    | ok item? =>
      rw [collect_cons_of_ok hrow] at h
      cases hrows : collect read rows with
      | error error =>
        rw [hrows] at h
        cases h
      | ok others =>
        rw [hrows] at h
        obtain rfl := Except.ok.inj h
        rw [List.cons_append, collect_cons_of_ok hrow, ih hrows]
        cases collect read later <;> simp [Except.map]

/-- A row that fails hides the rows behind it, whatever they are, as reading stops there. -/
theorem collect_append_of_error {error : Error} {later : List Row}
    (h : collect read rows = .error error) : collect read (rows ++ later) = .error error := by
  induction rows with
  | nil => cases h
  | cons row rows ih =>
    cases hrow : read row with
    | error cause =>
      rw [collect_cons_of_error hrow] at h
      obtain rfl := Except.error.inj h
      exact collect_cons_of_error hrow _
    | ok item? =>
      rw [collect_cons_of_ok hrow] at h
      cases hrows : collect read rows with
      | ok others =>
        rw [hrows] at h
        cases h
      | error cause =>
        rw [hrows] at h
        obtain rfl := Except.error.inj h
        rw [List.cons_append, collect_cons_of_ok hrow, ih hrows]
        rfl

/-- **Rows that are moved, each by its own distance,** come to the same items, or fail where they
failed before: at a row that was there, moved by the distance of that row. -/
theorem collect_map_shift (hread : ReadsInPlace read) (lines bytes : Row → Nat) (rows : List Row) :
    (∀ items, collect read rows = .ok items →
      collect read (rows.map fun row => row.shift (lines row) (bytes row)) = .ok items) ∧
    ∀ error, collect read rows = .error error → ∃ row ∈ rows, read row = .error error ∧
      collect read (rows.map fun row => row.shift (lines row) (bytes row)) =
        .error (error.shift (bytes row)) := by
  -- Each row has its own distance, so both halves are shown in one induction: which row fails first
  -- is only known once the rows in front of it have been read.
  induction rows with
  | nil => exact ⟨fun _ h => h, fun _ h => nomatch h⟩
  | cons row rows ih =>
    rw [List.map_cons]
    have hmoved := hread row (lines row) (bytes row)
    cases hrow : read row with
    | error cause =>
      rw [hrow] at hmoved
      rw [collect_cons_of_error hrow, collect_cons_of_error hmoved]
      refine ⟨fun _ h => (nomatch h), fun error h => ?_⟩
      obtain rfl := Except.error.inj h
      exact ⟨row, List.mem_cons_self, hrow, rfl⟩
    | ok item? =>
      rw [hrow] at hmoved
      rw [collect_cons_of_ok hrow, collect_cons_of_ok hmoved]
      cases hrows : collect read rows with
      | ok others =>
        rw [ih.1 others hrows]
        exact ⟨fun _ h => h, fun _ h => nomatch h⟩
      | error cause =>
        obtain ⟨row', hmem, hrow', herror⟩ := ih.2 cause hrows
        refine ⟨fun _ h => (nomatch h), fun error h => ?_⟩
        obtain rfl := Except.error.inj h
        rw [herror]
        exact ⟨row', List.mem_cons_of_mem _ hmem, hrow', rfl⟩

end Collect

/-- The errors of a reader point at the row or at one of its cells. -/
def PointsAtParts {α : Type} (read : Row → Except Error α) : Prop :=
  ∀ row error, read row = .error error →
    error.span = row.span ∨ ∃ cell ∈ row.cells, error.span = cell.span

/-- What is made of the items of a reader does not matter to its errors. -/
theorem PointsAtParts.map {α β : Type} {read : Row → Except Error α} (h : PointsAtParts read)
    (f : α → β) : PointsAtParts fun row => (read row).map f := by
  intro row error (herror : (read row).map f = .error error)
  cases hrow : read row with
  | error cause =>
    rw [hrow] at herror
    obtain rfl := Except.error.inj herror
    exact h row _ hrow
  | ok a =>
    rw [hrow] at herror
    cases herror

/-- A loader reads a table row by row, and each row for its cells. -/
structure RowLoader {α : Type} (load : Text → Except Error (List α))
    (read : Row → Except Error (Option α)) : Prop where
  byRows : ∀ table, load table = collect read (rows table)
  inPlace : ReadsInPlace read
  points : PointsAtParts read

end Table

/-! ### The readers of the two tables -/

open Table

/-- A reference point is read off the texts of five cells, and a missing one is reported at the
row. -/
theorem ReferencePoint.readsInPlace_ofRow : ReadsInPlace ReferencePoint.ofRow := by
  intro row lines bytes
  by_cases hshort : row.cells.length < columns
  · rw [ofRow_of_short hshort, ofRow_of_short (by rwa [Row.length_cells_shift]),
      Row.length_cells_shift]
    rfl
  · obtain ⟨name, protocol, elements, description, references, more, hcells⟩ :=
      exists_cells (Nat.le_of_not_lt hshort)
    have hmoved : (row.shift lines bytes).cells =
        name.shift bytes :: protocol.shift bytes :: elements.shift bytes ::
          description.shift bytes :: references.shift bytes :: more.map (·.shift bytes) := by
      simp [Row.shift, hcells]
    rw [ofRow_of_cells hcells, ofRow_of_cells hmoved]
    rfl

/-- An element is read off the texts of its cells, the marks included. A bad code is reported at its
cell, which moves with the row. -/
theorem InformationElement.readsInPlace_ofData : ReadsInPlace InformationElement.ofData := by
  intro row lines bytes
  by_cases hshort : row.cells.length < columns
  · rw [ofData_of_short hshort, ofData_of_short (by rwa [Row.length_cells_shift]),
      Row.length_cells_shift]
    rfl
  · have hcolumns := Nat.le_of_not_lt hshort
    obtain ⟨skip, code, message, specification, sectionText, initial, triggered, marks, hcells⟩ :=
      exists_cells hcolumns
    have hmoved : (row.shift lines bytes).cells =
        skip.shift bytes :: code.shift bytes :: message.shift bytes :: specification.shift bytes ::
          sectionText.shift bytes :: initial.shift bytes :: triggered.shift bytes ::
            marks.map (·.shift bytes) := by
      simp [Row.shift, hcells]
    have hmarks : ∀ mark : Nat × Interface,
        ((row.shift lines bytes).cells[mark.1]?.any fun cell => isMark cell.text) =
          row.cells[mark.1]?.any fun cell => isMark cell.text := by
      intro mark
      rw [Row.shift, List.getElem?_map]
      cases row.cells[mark.1]? <;> rfl
    rw [ofData_of_cells hcolumns hcells,
      ofData_of_cells (by rwa [Row.length_cells_shift]) hmoved]
    have hcode : (code.shift bytes).text = code.text := rfl
    simp only [hmarks, hcode]
    cases typeCode? code.text <;> rfl

/-- Whether a row is skipped is told by the text of its first cell, so this does not depend on its
place either. -/
theorem InformationElement.readsInPlace_ofRow : ReadsInPlace InformationElement.ofRow := by
  intro row lines bytes
  rw [ofRow, ofRow, Row.opensWith_shift]
  split
  · rfl
  · exact readsInPlace_ofData.map some row lines bytes

/-- The one error of a reference point row points at the row. -/
theorem ReferencePoint.pointsAtParts_ofRow : PointsAtParts ReferencePoint.ofRow :=
  fun _ _ h => .inl (by rw [ofRow_eq_error h])

/-- An error of an element row points at the row, if cells are missing, or at the cell of the
code. -/
theorem InformationElement.pointsAtParts_ofRow : PointsAtParts InformationElement.ofRow := by
  intro row error h
  obtain rfl | ⟨first, code, others, hcells, rfl⟩ := ofRow_eq_error h
  · exact .inl rfl
  · exact .inr ⟨code, by simp [hcells], rfl⟩

/-- The records of both tables are read in place. -/
theorem Generator.readsInPlace_recordOfRow (generator : Generator) :
    ReadsInPlace generator.recordOfRow := by
  cases generator with
  | referencePoints => exact ReferencePoint.readsInPlace_ofRow.map _
  | informationElements => exact InformationElement.readsInPlace_ofRow.map _

/-- The errors of both tables point at parts of their rows. -/
theorem Generator.pointsAtParts_recordOfRow (generator : Generator) :
    PointsAtParts generator.recordOfRow := by
  cases generator with
  | referencePoints => exact ReferencePoint.pointsAtParts_ofRow.map _
  | informationElements => exact InformationElement.pointsAtParts_ofRow.map _

/-! ### The loaders of the two tables -/

/-- **The reference points are loaded row by row.** Every row has one, so the library's loop over a
list collects them. -/
theorem ReferencePoint.rowLoader :
    RowLoader ReferencePoint.load fun row => (ReferencePoint.ofRow row).map some where
  byRows table := by
    rw [load]
    induction rows table with
    | nil => rfl
    | cons row rows ih =>
      rw [List.mapM_cons, collect, ih]
      cases ReferencePoint.ofRow row <;> rfl
  inPlace := readsInPlace_ofRow.map some
  points := pointsAtParts_ofRow.map some

/-- **The information elements are loaded row by row.** The loop leaves out the rows that are
skipped. -/
theorem InformationElement.rowLoader :
    RowLoader InformationElement.load InformationElement.ofRow where
  byRows table := by
    rw [load]
    induction rows table with
    | nil => rfl
    | cons row rows ih => rw [ofRows, collect, ih]
  inPlace := readsInPlace_ofRow
  points := pointsAtParts_ofRow

/-- **The records of both tables are loaded row by row,** so what is shown of row loaders holds of
either generator. -/
theorem Generator.rowLoader (generator : Generator) :
    RowLoader generator.load generator.recordOfRow where
  byRows table := by
    rw [load_eq_recordsOfRows]
    induction rows table with
    | nil => rfl
    | cons row rows ih => rw [recordsOfRows, collect, ih]
  inPlace := generator.readsInPlace_recordOfRow
  points := generator.pointsAtParts_recordOfRow

end TableCodegen
