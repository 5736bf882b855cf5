import TableCodegen.Proofs.Places
import TableCodegen.Table.Rows

/-!
# The cells of a line

A line is a chain of cells: a written cell, a tab, and the rest. Each cell of a row is a part of the
line, its span is the place of that part, and it holds no character that the part does not hold.
-/

namespace TableCodegen
namespace Table

open Text

/-- What is cut off in front of the first tab has no tab in it. -/
theorem tab_notMem_upToTab (line : Text) : '\t' ∉ upToTab line := by
  intro h
  have hkept := List.all_takeWhile (p := fun c => decide (c ≠ '\t')) (l := line)
  rw [List.all_eq_true] at hkept
  exact of_decide_eq_true (hkept '\t' h) rfl

/-- What is left behind the first cell, if anything, starts with a tab. -/
theorem firstPiece_rest_eq (line : Text) :
    (firstPiece line).rest = [] ∨ ∃ rest, (firstPiece line).rest = '\t' :: rest := by
  unfold firstPiece
  split
  · exact fromTab_eq _
  · exact fromTab_eq _

/-- A line with a tab behind its first cell. -/
theorem eq_written_append_tab {line rest : Text} (h : (firstPiece line).rest = '\t' :: rest) :
    line = (firstPiece line).written ++ '\t' :: rest := by
  rw [← h, firstPiece_written_append]

/-- The first cell as it is cut off a line that starts at byte `offset`. -/
def firstCell (offset : Nat) (line : Text) : Cell :=
  ⟨(firstPiece line).content, offset, offset + byteSize (firstPiece line).written⟩

/-- A line of which the first piece leaves nothing is one cell. -/
theorem cellsOf_last (offset : Nat) {line : Text} (h : (firstPiece line).rest = []) :
    cellsOf offset line = [firstCell offset line] := by
  rw [cellsOf]
  split
  · rfl
  · rename_i heq
    rw [h] at heq
    exact absurd heq.symm (List.cons_ne_nil _ _)

/-- Behind a first piece with a tab there are the cells of the rest, and their places count the
tab. -/
theorem cellsOf_tab (offset : Nat) {line rest : Text} (h : (firstPiece line).rest = '\t' :: rest) :
    cellsOf offset line =
      firstCell offset line ::
        cellsOf (offset + byteSize (firstPiece line).written + 1) rest := by
  rw [cellsOf]
  split
  · rename_i heq
    rw [h] at heq
    exact absurd heq (List.cons_ne_nil _ _)
  · rename_i heq
    rw [h] at heq
    obtain ⟨-, rfl⟩ := List.cons.inj heq
    rfl

/-- **A line is a chain of cells:** the last one, or one with a tab and a shorter line behind it. -/
@[elab_as_elim]
theorem cellInduction {motive : Text → Prop}
    (last : ∀ line, (firstPiece line).rest = [] → motive line)
    (tab : ∀ line rest, (firstPiece line).rest = '\t' :: rest → motive rest → motive line)
    (line : Text) : motive line := by
  obtain h | ⟨rest, h⟩ := firstPiece_rest_eq line
  · exact last line h
  · exact tab line rest h (cellInduction last tab rest)
termination_by line.length
decreasing_by
  have hle := length_rest_le line
  rw [h, List.length_cons] at hle
  omega

/-- A body holds no character that is not written. -/
theorem quotedBody_content_subset (line : Text) :
    (quotedBody line).content ⊆ (quotedBody line).written := by
  fun_induction quotedBody line with
  | case1 => exact List.Subset.refl _
  | case2 =>
    rename_i ih
    exact List.cons_subset_cons _ (List.subset_cons_of_subset _ ih)
  | case3 => exact List.nil_subset _
  | case4 =>
    rename_i ih
    exact List.cons_subset_cons _ ih

/-- A cell holds no character that is not written. -/
theorem firstPiece_content_subset (line : Text) :
    (firstPiece line).content ⊆ (firstPiece line).written := by
  unfold firstPiece
  split
  · rename_i cs
    simp only [quotedPiece]
    refine List.append_subset.2 ⟨?_, List.subset_append_right ..⟩
    exact List.subset_append_of_subset_left _
      (List.subset_cons_of_subset _ (quotedBody_content_subset cs))
  · exact List.Subset.refl _

/-- **Every cell is a part of its line,** and its span is the place of that part. Its text has no
other characters than the part: quotes are dropped and halved, and nothing is added. -/
theorem exists_part_of_mem_cellsOf {line : Text} :
    ∀ {offset : Nat} {cell : Cell}, cell ∈ cellsOf offset line →
      ∃ front written behind, line = front ++ written ++ behind ∧
        cell.span = ⟨offset + byteSize front, offset + byteSize front + byteSize written⟩ ∧
          cell.text ⊆ written := by
  induction line using cellInduction with
  | last line hrest =>
    intro offset cell hcell
    rw [cellsOf_last offset hrest, List.mem_singleton] at hcell
    subst hcell
    exact ⟨[], (firstPiece line).written, (firstPiece line).rest,
      (firstPiece_written_append line).symm, rfl, firstPiece_content_subset line⟩
  | tab line rest hrest ih =>
    intro offset cell hcell
    rw [cellsOf_tab offset hrest, List.mem_cons] at hcell
    obtain rfl | hcell := hcell
    · exact ⟨[], (firstPiece line).written, (firstPiece line).rest,
        (firstPiece_written_append line).symm, rfl, firstPiece_content_subset line⟩
    · obtain ⟨front, written, behind, rfl, hspan, htext⟩ := ih hcell
      refine ⟨(firstPiece line).written ++ '\t' :: front, written, behind, ?_, ?_, htext⟩
      · exact (eq_written_append_tab hrest).trans (by simp)
      · rw [hspan]
        simp [Nat.add_assoc]

/-- **The cells of a row are parts of its line.** The span of a cell is the place of its part in the
text, and the cell holds no character that the part does not hold. An empty line has no cells, so
nothing is said of it. -/
theorem exists_part_of_mem_ofLine {line offset : Nat} {content : Text} {cell : Cell}
    (h : cell ∈ (Row.ofLine line offset content).cells) :
    ∃ front written behind, content = front ++ written ++ behind ∧
      cell.span = ⟨offset + byteSize front, offset + byteSize front + byteSize written⟩ ∧
        cell.text ⊆ written := by
  unfold Row.ofLine at h
  split at h
  · exact absurd h List.not_mem_nil
  · exact exists_part_of_mem_cellsOf h

end Table
end TableCodegen
