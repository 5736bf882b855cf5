import TableCodegen.Proofs.RowOutcomes

/-!
# Loading goes row by row

The two tables are read in different ways, one by a traversal of its rows and one by a recursion
that passes over marked rows. `recordsOfRows` is what they have in common: the records of the rows
in their order, up to the first row that fails, and that row decides.
-/

namespace TableCodegen

/-- What a step gives is what its two halves give. -/
theorem exists_of_bind_eq_ok {ε α β : Type} {x : Except ε α} {f : α → Except ε β} {b : β}
    (h : x >>= f = .ok b) : ∃ a, x = .ok a ∧ f a = .ok b := by
  cases x with
  | error error => cases h
  | ok a => exact ⟨a, rfl, h⟩

/-- A loaded reference point is what a row comes to. Facts about one row pass to all loaded points
in this way. -/
theorem ReferencePoint.mapM_ofRow_eq_ok {rows : List Table.Row} :
    ∀ {points : List ReferencePoint}, rows.mapM ofRow = .ok points →
      ∀ point ∈ points, ∃ row ∈ rows, ofRow row = .ok point := by
  induction rows with
  | nil =>
    rintro points h point hmem
    obtain rfl := Except.ok.inj h
    exact absurd hmem List.not_mem_nil
  | cons row rows ih =>
    intro points h point hmem
    rw [List.mapM_cons] at h
    obtain ⟨first, hrow, h⟩ := exists_of_bind_eq_ok h
    obtain ⟨others, hrows, h⟩ := exists_of_bind_eq_ok h
    obtain rfl := Except.ok.inj h
    obtain rfl | hmem := List.mem_cons.1 hmem
    · exact ⟨row, List.mem_cons_self, hrow⟩
    · obtain ⟨row', hrow', hpoint⟩ := ih hrows point hmem
      exact ⟨row', List.mem_cons_of_mem _ hrow', hpoint⟩

/-- A loaded element is what a row comes to. Rows that are passed over leave no element, so there
may be fewer elements than rows. -/
theorem InformationElement.ofRows_eq_ok {rows : List Table.Row} :
    ∀ {elements : List InformationElement}, ofRows rows = .ok elements →
      ∀ element ∈ elements, ∃ row ∈ rows, ofRow row = .ok (some element) := by
  induction rows with
  | nil =>
    rintro elements h element hmem
    obtain rfl := Except.ok.inj h
    exact absurd hmem List.not_mem_nil
  | cons row rows ih =>
    intro elements h element hmem
    rw [ofRows] at h
    obtain ⟨element?, hrow, h⟩ := exists_of_bind_eq_ok h
    obtain ⟨others, hrows, h⟩ := exists_of_bind_eq_ok h
    obtain rfl := Except.ok.inj h
    obtain hmem | hmem := List.mem_append.1 hmem
    · rw [Option.mem_toList] at hmem
      exact ⟨row, List.mem_cons_self, by rw [hrow, hmem]⟩
    · obtain ⟨row', hrow', helement⟩ := ih hrows element hmem
      exact ⟨row', List.mem_cons_of_mem _ hrow', helement⟩

namespace Generator

/-- The exposed records of consecutive rows; the first row that fails decides. -/
def recordsOfRows (generator : Generator) : List Table.Row → Except Table.Error (List Record)
  | [] => .ok []
  | row :: rows => do
    let record? ← generator.recordOfRow row
    let records ← recordsOfRows generator rows
    return record?.toList ++ records

/-- The traversal of the reference point table is the common form: it has a record for each row. -/
theorem recordsOfRows_referencePoints (rows : List Table.Row) :
    recordsOfRows .referencePoints rows =
      (rows.mapM ReferencePoint.ofRow).map (·.map (·.expose)) := by
  induction rows with
  | nil => rfl
  | cons row rows ih =>
    rw [recordsOfRows, ih, List.mapM_cons, recordOfRow]
    cases ReferencePoint.ofRow row with
    | error error => rfl
    | ok point => cases rows.mapM ReferencePoint.ofRow <;> rfl

/-- The recursion of the information element table is the common form: it passes over marked
rows. -/
theorem recordsOfRows_informationElements (rows : List Table.Row) :
    recordsOfRows .informationElements rows =
      (InformationElement.ofRows rows).map (·.map (·.expose)) := by
  induction rows with
  | nil => rfl
  | cons row rows ih =>
    rw [recordsOfRows, ih, InformationElement.ofRows, recordOfRow]
    cases InformationElement.ofRow row with
    | error error => rfl
    | ok element? =>
      cases InformationElement.ofRows rows with
      | error error => rfl
      | ok elements => cases element? <;> rfl

/-- **Both generators load row by row.** -/
theorem load_eq_recordsOfRows (generator : Generator) (table : Text) :
    generator.load table = generator.recordsOfRows (Table.rows table) := by
  cases generator with
  | referencePoints => exact (recordsOfRows_referencePoints _).symm
  | informationElements => exact (recordsOfRows_informationElements _).symm

/-- A row is the first of its table that fails. -/
structure FirstFailure (generator : Generator) (rows : List Table.Row) (row : Table.Row)
    (error : Table.Error) : Prop where
  fails : generator.recordOfRow row = .error error
  isFirst : ∃ earlier later, rows = earlier ++ row :: later ∧
    ∀ other ∈ earlier, ∃ record?, generator.recordOfRow other = .ok record?

/-- The first row that fails is one of the rows. -/
theorem FirstFailure.mem {generator : Generator} {rows : List Table.Row} {row : Table.Row}
    {error : Table.Error} (h : FirstFailure generator rows row error) : row ∈ rows := by
  obtain ⟨earlier, later, rfl, -⟩ := h.isFirst
  exact List.mem_append_right earlier List.mem_cons_self

/-- **The first row that fails decides.** Rows are read in order and loading stops at a failure, so
all rows before it can be read and those behind it do not count. -/
theorem recordsOfRows_eq_error {generator : Generator} {rows : List Table.Row}
    {error : Table.Error} (h : generator.recordsOfRows rows = .error error) :
    ∃ row, FirstFailure generator rows row error := by
  induction rows with
  | nil => cases h
  | cons first rows ih =>
    cases hfirst : generator.recordOfRow first with
    | error cause =>
      simp only [recordsOfRows, hfirst, bind, Except.bind] at h
      obtain rfl := Except.error.inj h
      exact ⟨first, hfirst, [], rows, rfl, fun _ hnil => absurd hnil List.not_mem_nil⟩
    | ok record? =>
      cases hrows : generator.recordsOfRows rows with
      | error cause =>
        simp only [recordsOfRows, hfirst, hrows, bind, Except.bind] at h
        obtain rfl := Except.error.inj h
        obtain ⟨row, hrow, earlier, later, rfl, hearlier⟩ := ih hrows
        refine ⟨row, hrow, first :: earlier, later, rfl, fun other hother => ?_⟩
        obtain rfl | hother := List.mem_cons.1 hother
        · exact ⟨record?, hfirst⟩
        · exact hearlier other hother
      | ok records =>
        simp only [recordsOfRows, hfirst, hrows, bind, Except.bind] at h
        cases h

end Generator
end TableCodegen
