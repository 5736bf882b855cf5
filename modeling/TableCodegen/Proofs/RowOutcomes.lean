import TableCodegen.Generator

/-!
# What a row comes to

Whatever a generator reads off a row, it asks for all the columns first. So a row that is too short
fails with the last column it lacks, and no later look at a cell can fail. The only other failure is
a type code that is no number from 0 to 255.
-/

namespace TableCodegen
namespace Table
namespace Row

/-- A cell that is there is found. -/
theorem cell_eq_ok {row : Row} {column : Nat} {cell : Cell} (h : row.cells[column]? = some cell) :
    row.cell column = .ok cell := by
  rw [Row.cell, h]

/-- A row with enough cells has what is asked for. -/
theorem require_of_le {row : Row} {columns : Nat} (h : columns ≤ row.cells.length) :
    row.require columns = .ok () := (row.require_eq_ok_iff columns).2 h

/-- A row with too few cells lacks the last column that is asked for, and says how many cells it
has. -/
theorem require_of_lt {row : Row} {last : Nat} (h : row.cells.length < last + 1) :
    row.require (last + 1) = .error ⟨row.span, .missingColumn last row.cells.length⟩ := by
  rw [require, cell, List.getElem?_eq_none (Nat.le_of_lt_succ h)]
  rfl

end Row
end Table

namespace ReferencePoint

open Table

/-- A row with fewer than five cells lacks the fifth. -/
theorem ofRow_of_short {row : Row} (h : row.cells.length < columns) :
    ofRow row = .error ⟨row.span, .missingColumn 4 row.cells.length⟩ := by
  rw [ofRow, columns, Row.require_of_lt h]
  rfl

/-- **A row with five cells is a reference point,** whatever it holds. -/
theorem ofRow_of_cells {row : Row} {name protocol elements description references : Cell}
    {more : List Cell}
    (h : row.cells = name :: protocol :: elements :: description :: references :: more) :
    ofRow row = .ok {
      name := identifierOf name.text
      protocol := listItems protocol.text
      elements := listItems elements.text
      description := description.text
      references := referenceItems references.text } := by
  rw [ofRow, Row.require_of_le (by simp [h, columns])]
  simp only [Row.cell_eq_ok (show row.cells[0]? = some name by simp [h]),
    Row.cell_eq_ok (show row.cells[1]? = some protocol by simp [h]),
    Row.cell_eq_ok (show row.cells[2]? = some elements by simp [h]),
    Row.cell_eq_ok (show row.cells[3]? = some description by simp [h]),
    Row.cell_eq_ok (show row.cells[4]? = some references by simp [h])]
  rfl

/-- The cells of a row that is not too short. -/
theorem exists_cells {row : Row} (h : columns ≤ row.cells.length) :
    ∃ name protocol elements description references more,
      row.cells = name :: protocol :: elements :: description :: references :: more := by
  match hcells : row.cells with
  | name :: protocol :: elements :: description :: references :: more =>
    exact ⟨name, protocol, elements, description, references, more, rfl⟩
  | [] | [_] | [_, _] | [_, _, _] | [_, _, _, _] => simp [hcells, columns] at h

/-- **A row fails only when it is too short.** -/
theorem ofRow_eq_error {row : Row} {error : Error} (h : ofRow row = .error error) :
    error = ⟨row.span, .missingColumn 4 row.cells.length⟩ := by
  by_cases hshort : row.cells.length < columns
  · rw [ofRow_of_short hshort] at h
    exact (Except.error.inj h).symm
  · obtain ⟨_, _, _, _, _, _, hcells⟩ := exists_cells (Nat.le_of_not_lt hshort)
    rw [ofRow_of_cells hcells] at h
    cases h

end ReferencePoint

namespace InformationElement

open Table

/-- With all the columns there, the marks can be read. -/
theorem markedInterfaces_eq {row : Row} :
    ∀ {marks : List (Nat × Interface)}, (∀ mark ∈ marks, mark.1 < row.cells.length) →
      markedInterfaces row marks =
        .ok ((marks.filter fun mark => row.cells[mark.1]?.any fun cell => isMark cell.text).map
          (·.2))
  | [], _ => rfl
  | (column, interface) :: marks, h => by
    obtain ⟨hcolumn, hmarks⟩ := List.forall_mem_cons.1 h
    have hget := List.getElem?_eq_getElem hcolumn
    rw [markedInterfaces, Row.cell_eq_ok hget, markedInterfaces_eq hmarks, List.filter_cons]
    simp only [hget, Option.any_some, bind, Except.bind]
    split <;> rfl

/-- An element row with fewer than seventeen cells lacks the seventeenth, whatever is wrong with the
others. -/
theorem ofData_of_short {row : Row} (h : row.cells.length < columns) :
    ofData row = .error ⟨row.span, .missingColumn 16 row.cells.length⟩ := by
  rw [ofData, columns, Row.require_of_lt h]
  rfl

/-- A row with all its columns fails on its type code alone. The other columns can hold anything, as
a mark or the lack of one is never an error. -/
theorem ofData_of_cells {row : Row} (hcolumns : columns ≤ row.cells.length)
    {skip code message specification sectionText initial triggered : Cell} {marks : List Cell}
    (h : row.cells =
      skip :: code :: message :: specification :: sectionText :: initial :: triggered :: marks) :
    ofData row =
      match typeCode? code.text with
      | none => .error ⟨code.span, .invalidTypeCode code.text⟩
      | some typeCode => .ok {
          typeCode := typeCode
          message := message.text.map fun c => if c = ' ' then '_' else c
          specification := specification.text
          sectionText := if Text.allBlank sectionText.text then [] else sectionText.text
          initial := isMark initial.text
          triggered := isMark triggered.text
          interfaces := (Interface.columns.filter fun mark =>
            row.cells[mark.1]?.any fun cell => isMark cell.text).map (·.2) } := by
  have hmarks : ∀ mark ∈ Interface.columns, mark.1 < row.cells.length := by
    have : ∀ mark ∈ Interface.columns, mark.1 < columns := by decide
    exact fun mark hmark => Nat.lt_of_lt_of_le (this mark hmark) hcolumns
  rw [ofData, Row.require_of_le hcolumns]
  simp only [Row.cell_eq_ok (show row.cells[1]? = some code by simp [h]),
    Row.cell_eq_ok (show row.cells[2]? = some message by simp [h]),
    Row.cell_eq_ok (show row.cells[3]? = some specification by simp [h]),
    Row.cell_eq_ok (show row.cells[4]? = some sectionText by simp [h]),
    Row.cell_eq_ok (show row.cells[5]? = some initial by simp [h]),
    Row.cell_eq_ok (show row.cells[6]? = some triggered by simp [h]), markedInterfaces_eq hmarks,
    bind, Except.bind]
  cases typeCode? code.text <;> rfl

/-- The cells of a row that is not too short. -/
theorem exists_cells {row : Row} (h : columns ≤ row.cells.length) :
    ∃ skip code message specification sectionText initial triggered marks, row.cells =
      skip :: code :: message :: specification :: sectionText :: initial :: triggered :: marks := by
  match hcells : row.cells with
  | skip :: code :: message :: specification :: sectionText :: initial :: triggered :: marks =>
    exact ⟨skip, code, message, specification, sectionText, initial, triggered, marks, rfl⟩
  | [] | [_] | [_, _] | [_, _, _] | [_, _, _, _] | [_, _, _, _, _] | [_, _, _, _, _, _] =>
    simp [hcells, columns] at h

/-- **A row fails because it is too short or because of its type code.** The width is looked at
first, so the type code is known to be there when it is the reason. -/
theorem ofRow_eq_error {row : Row} {error : Error} (h : ofRow row = .error error) :
    error = ⟨row.span, .missingColumn 16 row.cells.length⟩ ∨
      ∃ first code others, row.cells = first :: code :: others ∧
        error = ⟨code.span, .invalidTypeCode code.text⟩ := by
  rw [ofRow] at h
  split at h
  · cases h
  · by_cases hshort : row.cells.length < columns
    · rw [ofData_of_short hshort] at h
      exact .inl (Except.error.inj h).symm
    · have hcolumns := Nat.le_of_not_lt hshort
      obtain ⟨skip, code, message, specification, sectionText, initial, triggered, marks, hcells⟩ :=
        exists_cells hcolumns
      rw [ofData_of_cells hcolumns hcells] at h
      cases hcode : typeCode? code.text with
      | none =>
        rw [hcode] at h
        exact .inr ⟨skip, code, _, hcells, (Except.error.inj h).symm⟩
      | some typeCode =>
        rw [hcode] at h
        cases h

/-- **An element is read off its cells.** The columns in front are told one by one, and the
interfaces by the marks behind them, in the order of the columns. -/
theorem ofRow_eq_some {row : Row} {element : InformationElement}
    (h : ofRow row = .ok (some element)) :
    ∃ skip code message specification sectionText initial triggered marks, row.cells =
        skip :: code :: message :: specification :: sectionText :: initial :: triggered :: marks ∧
      typeCode? code.text = some element.typeCode ∧
      element.message = message.text.map (fun c => if c = ' ' then '_' else c) ∧
      element.specification = specification.text ∧
      element.sectionText = (if Text.allBlank sectionText.text then [] else sectionText.text) ∧
      element.initial = isMark initial.text ∧ element.triggered = isMark triggered.text ∧
      element.interfaces = (Interface.columns.filter fun mark =>
        row.cells[mark.1]?.any fun cell => isMark cell.text).map (·.2) := by
  rw [ofRow] at h
  split at h
  · cases h
  · by_cases hshort : row.cells.length < columns
    · rw [ofData_of_short hshort] at h
      cases h
    · have hcolumns := Nat.le_of_not_lt hshort
      obtain ⟨skip, code, message, specification, sectionText, initial, triggered, marks, hcells⟩ :=
        exists_cells hcolumns
      rw [ofData_of_cells hcolumns hcells] at h
      cases hcode : typeCode? code.text with
      | none =>
        rw [hcode] at h
        cases h
      | some typeCode =>
        rw [hcode] at h
        obtain rfl := Option.some.inj (Except.ok.inj h)
        exact ⟨skip, code, message, specification, sectionText, initial, triggered, marks, hcells,
          hcode, rfl, rfl, rfl, rfl, rfl, rfl⟩

end InformationElement

namespace Generator

/-- **The two failures of a row.** The row is too short, or its second cell is no type code. Each
tells the span it is about: that of the row, or that of the cell. -/
theorem recordOfRow_eq_error {generator : Generator} {row : Table.Row} {error : Table.Error}
    (h : generator.recordOfRow row = .error error) :
    (∃ column, error = ⟨row.span, .missingColumn column row.cells.length⟩) ∨
      ∃ first code others, row.cells = first :: code :: others ∧
        error = ⟨code.span, .invalidTypeCode code.text⟩ := by
  cases generator with
  | referencePoints =>
    cases hrow : ReferencePoint.ofRow row with
    | error cause =>
      rw [recordOfRow, hrow] at h
      obtain rfl := Except.error.inj h
      exact .inl ⟨4, ReferencePoint.ofRow_eq_error hrow⟩
    | ok point =>
      rw [recordOfRow, hrow] at h
      cases h
  | informationElements =>
    cases hrow : InformationElement.ofRow row with
    | error cause =>
      rw [recordOfRow, hrow] at h
      obtain rfl := Except.error.inj h
      exact (InformationElement.ofRow_eq_error hrow).imp_left fun h => ⟨16, h⟩
    | ok element? =>
      rw [recordOfRow, hrow] at h
      cases h

end Generator
end TableCodegen
