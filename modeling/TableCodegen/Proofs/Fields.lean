import TableCodegen.Proofs.Cells
import TableCodegen.Proofs.Lines
import TableCodegen.Proofs.Loading

/-!
# Where the characters of a field come from

A field of a loaded record is a cell, a part of one, or empty, but for the name and the message,
which are spelled anew. So it holds no character that its line does not hold, and in particular no
line feed.
-/

namespace TableCodegen
namespace Text

/-- Parts are collected from the right, a character in front of the first part at a time. So the
invariant of splitting is that the parts take their characters from what has been gone through. -/
theorem subset_of_mem_consHead {c : Char} {parts : List Text} {t part : Text}
    (ht : ∀ part ∈ parts, part ⊆ t) (h : part ∈ consHead c parts) : part ⊆ c :: t := by
  cases parts with
  | nil =>
    obtain rfl := List.mem_singleton.1 h
    exact List.cons_subset_cons _ (List.nil_subset _)
  | cons first others =>
    obtain ⟨hfirst, hothers⟩ := List.forall_mem_cons.1 ht
    obtain rfl | h := List.mem_cons.1 h
    · exact List.cons_subset_cons _ hfirst
    · exact List.subset_cons_of_subset _ (hothers _ h)

/-- A part between separators holds no other characters than the text. With it a property of all
characters of a cell, such as being no line feed, passes to the parts of the cell. -/
theorem subset_of_mem_splitOn {separator : Char} {t part : Text} (h : part ∈ t.splitOn separator) :
    part ⊆ t := by
  induction t generalizing part with
  | nil =>
    obtain rfl := List.mem_singleton.1 h
    exact List.Subset.refl _
  | cons c cs ih =>
    have hhead :
        (cs.splitOn separator).modifyHead (c :: ·) = consHead c (cs.splitOn separator) := by
      cases hparts : cs.splitOn separator with
      | nil => exact absurd hparts (List.splitOn_ne_nil _ _)
      | cons first others => rfl
    rw [List.splitOn_cons_eq_if_modifyHead, hhead] at h
    split at h
    · obtain rfl | h := List.mem_cons.1 h
      · exact List.nil_subset _
      · exact List.subset_cons_of_subset _ (ih h)
    · exact subset_of_mem_consHead (fun _ => ih) h

/-- A part between two occurrences of a pattern takes its characters from the text, also while
characters of an occurrence are skipped. -/
theorem subset_of_mem_splitFrom {p : Char} {ps t part : Text} {skip : Nat}
    (h : part ∈ splitFrom p ps skip t) : part ⊆ t := by
  fun_induction splitFrom p ps skip t generalizing part with
  | case1 =>
    obtain rfl := List.mem_singleton.1 h
    exact List.Subset.refl _
  | case2 skip c cs ih => exact List.subset_cons_of_subset _ (ih h)
  | case3 c cs hpattern ih =>
    obtain rfl | h := List.mem_cons.1 h
    · exact List.nil_subset _
    · exact List.subset_cons_of_subset _ (ih h)
  | case4 c cs hpattern ih => exact subset_of_mem_consHead (fun _ => ih) h

/-- Joined parts have no other characters than the parts and the separator. -/
theorem joinWith_subset {separator t : Text} {parts : List Text} (hseparator : separator ⊆ t)
    (hparts : ∀ part ∈ parts, part ⊆ t) : joinWith separator parts ⊆ t := by
  induction parts with
  | nil => exact List.nil_subset _
  | cons first others ih =>
    obtain ⟨hfirst, hothers⟩ := List.forall_mem_cons.1 hparts
    by_cases h : others = []
    · rw [h, joinWith, List.intercalate_singleton]
      exact hfirst
    · rw [joinWith, List.intercalate_cons_of_ne_nil h]
      exact List.append_subset.2 ⟨List.append_subset.2 ⟨hfirst, hseparator⟩, ih hothers⟩

/-- Taking a word out of a text adds no character. -/
theorem replaceAll_nil_subset (p : Char) (ps t : Text) : replaceAll (p :: ps) [] t ⊆ t :=
  joinWith_subset (List.nil_subset _) fun _ => subset_of_mem_splitFrom

end Text

namespace Table

/-- **No line feed reaches a cell,** in whatever form it is written. -/
theorem lineFeed_notMem_cell {t : Text} {row : Row} {cell : Cell} (hrow : row ∈ rows t)
    (hcell : cell ∈ row.cells) : '\n' ∉ cell.text := by
  obtain ⟨before, content, after, hline, rfl⟩ := exists_lineAt_of_mem_rows hrow
  obtain ⟨returned, hcontent, -⟩ := exists_dropReturn_append content
  obtain ⟨front, written, behind, hparts, -, htext⟩ := exists_part_of_mem_ofLine hcell
  intro hfeed
  refine hline.clean ?_
  rw [hcontent, hparts]
  simp [htext hfeed]

end Table

namespace ReferencePoint

/-- An item between commas takes its characters from its cell. -/
theorem subset_of_mem_listItems {cell item : Text} (h : item ∈ listItems cell) : item ⊆ cell :=
  Text.subset_of_mem_splitOn h

/-- A reference takes its characters from its cell: splitting at spaces and taking out the word both
leave characters out and bring none in. -/
theorem subset_of_mem_referenceItems {cell item : Text} (h : item ∈ referenceItems cell) :
    item ⊆ cell := by
  obtain ⟨word, hword, rfl⟩ := List.mem_map.1 h
  exact List.Subset.trans (Text.replaceAll_nil_subset ..)
    (Text.subset_of_mem_splitOn (List.mem_filter.1 hword).1)

/-- The fields of a reference point but for its name, one by one. -/
def fields (point : ReferencePoint) : List Text :=
  point.description :: (point.protocol ++ point.elements ++ point.references)

/-- **No line feed reaches a field of a reference point.** Its fields come from cells of one line,
and the spelling of the name brings none in. -/
theorem lineFeed_notMem_fields {table : Text} {points : List ReferencePoint}
    (h : load table = .ok points) {point : ReferencePoint} (hpoint : point ∈ points) :
    ∀ field ∈ point.fields, '\n' ∉ field := by
  obtain ⟨row, hmem, hrow⟩ := mapM_ofRow_eq_ok h point hpoint
  have hlong : columns ≤ row.cells.length := by
    refine Nat.le_of_not_lt fun hshort => ?_
    rw [ofRow_of_short hshort] at hrow
    cases hrow
  obtain ⟨name, protocol, elements, description, references, more, hcells⟩ := exists_cells hlong
  rw [ofRow_of_cells hcells] at hrow
  obtain rfl := Except.ok.inj hrow
  have hclean : ∀ cell ∈ row.cells, '\n' ∉ cell.text := fun _ => Table.lineFeed_notMem_cell hmem
  rw [hcells] at hclean
  intro field hfield
  simp only [fields, List.mem_cons, List.mem_append] at hfield
  obtain rfl | (hitem | hitem) | hitem := hfield
  · exact hclean description (by simp)
  · exact fun hfeed => hclean protocol (by simp) (subset_of_mem_listItems hitem hfeed)
  · exact fun hfeed => hclean elements (by simp) (subset_of_mem_listItems hitem hfeed)
  · exact fun hfeed => hclean references (by simp) (subset_of_mem_referenceItems hitem hfeed)

end ReferencePoint

namespace InformationElement

/-- **No line feed reaches the specification or the section of an element.** -/
theorem lineFeed_notMem_fields {table : Text} {elements : List InformationElement}
    (h : load table = .ok elements) {element : InformationElement} (helement : element ∈ elements) :
    '\n' ∉ element.specification ∧ '\n' ∉ element.sectionText := by
  obtain ⟨row, hmem, hrow⟩ := ofRows_eq_ok h element helement
  obtain ⟨skip, code, message, specification, sectionText, initial, triggered, marks, hcells, -, -,
    hspecification, hsection, -⟩ := ofRow_eq_some hrow
  have hclean : ∀ cell ∈ row.cells, '\n' ∉ cell.text := fun _ => Table.lineFeed_notMem_cell hmem
  rw [hcells] at hclean
  rw [hspecification, hsection]
  constructor
  · exact hclean specification (by simp)
  · split
    · exact List.not_mem_nil
    · exact hclean sectionText (by simp)

end InformationElement
end TableCodegen
