import TableCodegen.Document.Lines
import TableCodegen.Proofs.Lines

/-!
# The line table finds every line

The line table lists the span of each line, and no two spans share a place: each stops in front of
the line feed that the next one starts behind. So a place in a line belongs to that line alone, and
bisection finds it.
-/

namespace TableCodegen
namespace Document

open Text

/-- **Bisection finds the index where the order turns.** Below it the comparison says `lt`, above it
`gt`. -/
theorem bisect_eq_ok {compare : Nat → Ordering} {target : Nat} :
    ∀ (low size : Nat), low ≤ target → target < low + size →
      (∀ index, low ≤ index → index < target → compare index = .lt) → compare target = .eq →
      (∀ index, target < index → index < low + size → compare index = .gt) →
      bisect compare low size = .ok target := by
  intro low size
  induction size using Nat.strongRecOn generalizing low with
  | ind size ih =>
    intro hlow hsize below found above
    rw [bisect, dif_neg (by omega)]
    obtain hlt | heq | hgt := Nat.lt_trichotomy (low + size / 2) target
    · rw [below _ (by omega) hlt]
      exact ih _ (by omega) _ (by omega) (by omega) (fun index h => below index (by omega)) found
        fun index h h' => above index h (by omega)
    · rw [heq, found]
    · rw [above _ hgt (by omega)]
      exact ih _ (by omega) _ hlow (by omega) below found fun index h h' => above index h (by omega)

/-- **Bisection that finds nothing stops behind the last index,** if the comparison says `lt`
everywhere. -/
theorem bisect_eq_error {compare : Nat → Ordering} :
    ∀ (low size : Nat), (∀ index, low ≤ index → index < low + size → compare index = .lt) →
      bisect compare low size = .error (low + size) := by
  intro low size
  induction size using Nat.strongRecOn generalizing low with
  | ind size ih =>
    intro below
    rw [bisect]
    split
    · rename_i hsize
      rw [hsize, Nat.add_zero]
    · rw [below _ (by omega) (by omega)]
      show bisect compare (low + size / 2 + 1) (size - size / 2 - 1) = .error (low + size)
      rw [ih _ (by omega) _ fun index h h' => below index (by omega) (by omega)]
      congr 1
      omega

/-- Content without a line feed makes one entry, which stops where the content does. -/
theorem linesFrom_last (start place : Nat) {content : Text} (h : '\n' ∉ content) :
    linesFrom start place content = [⟨start, place + byteSize content⟩] := by
  induction content generalizing place with
  | nil => rfl
  | cons c cs ih =>
    obtain ⟨hc, hcs⟩ := not_or.1 (mt List.mem_cons.2 h)
    rw [linesFrom, if_neg (Ne.symm hc), ih _ hcs, byteSize_cons, Nat.add_assoc]

/-- Up to a line feed there is one entry, and behind the line feed, at the next place, the entries
of the rest start. This and `linesFrom_last` are all that is ever unfolded of the table. -/
theorem linesFrom_line (start place : Nat) {content : Text} (rest : Text) (h : '\n' ∉ content) :
    linesFrom start place (content ++ '\n' :: rest) =
      ⟨start, place + byteSize content⟩ ::
        linesFrom (place + byteSize content + 1) (place + byteSize content + 1) rest := by
  induction content generalizing place with
  | nil => rfl
  | cons c cs ih =>
    obtain ⟨hc, hcs⟩ := not_or.1 (mt List.mem_cons.2 h)
    rw [List.cons_append, linesFrom, if_neg (Ne.symm hc), ih _ hcs, byteSize_cons, Nat.add_assoc]

/-- No entry starts in front of the text, and none stops before it starts. -/
theorem le_start_of_mem_linesFrom {t : Text} :
    ∀ {start : Nat} {line : Span}, line ∈ linesFrom start start t →
      start ≤ line.start ∧ line.start ≤ line.stop := by
  induction t using lineInduction with
  | last content hcontent =>
    intro start line hline
    rw [linesFrom_last _ _ hcontent, List.mem_singleton] at hline
    subst hline
    exact ⟨Nat.le_refl _, Nat.le_add_right ..⟩
  | line content rest hcontent ih =>
    intro start line hline
    rw [linesFrom_line _ _ rest hcontent, List.mem_cons] at hline
    obtain rfl | hline := hline
    · exact ⟨Nat.le_refl _, Nat.le_add_right ..⟩
    · have := ih hline
      omega

/-- No entry stops behind the text. An entry at the end of the text may stop right at it, as the
last line has no line feed. -/
theorem stop_le_of_mem_linesFrom {t : Text} :
    ∀ {start : Nat} {line : Span}, line ∈ linesFrom start start t →
      line.stop ≤ start + byteSize t := by
  induction t using lineInduction with
  | last content hcontent =>
    intro start line hline
    rw [linesFrom_last _ _ hcontent, List.mem_singleton] at hline
    subst hline
    exact Nat.le_refl _
  | line content rest hcontent ih =>
    intro start line hline
    rw [linesFrom_line _ _ rest hcontent, List.mem_cons] at hline
    simp only [byteSize_append, byteSize_cons, utf8Size_lineFeed]
    obtain rfl | hline := hline
    · show start + byteSize content ≤ _
      omega
    · have := ih hline
      omega

/-- There is one entry more than there are line feeds. -/
theorem length_linesFrom (t : Text) :
    ∀ (start : Nat), (linesFrom start start t).length = lineFeeds t + 1 := by
  induction t using lineInduction with
  | last content hcontent =>
    intro start
    rw [linesFrom_last _ _ hcontent, lineFeeds_eq_zero hcontent]
    rfl
  | line content rest hcontent ih =>
    intro start
    rw [linesFrom_line _ _ rest hcontent, List.length_cons, ih, lineFeeds_append,
      lineFeeds_eq_zero hcontent, lineFeeds_lineFeed, Nat.zero_add]

/-- **The entries are apart:** each stops before the next one starts. -/
theorem pairwise_linesFrom {t : Text} :
    ∀ (start : Nat),
      (linesFrom start start t).Pairwise fun line later => line.stop < later.start := by
  induction t using lineInduction with
  | last content hcontent =>
    intro start
    rw [linesFrom_last _ _ hcontent]
    exact List.pairwise_singleton ..
  | line content rest hcontent ih =>
    intro start
    rw [linesFrom_line _ _ rest hcontent]
    refine List.pairwise_cons.2 ⟨fun later hlater => ?_, ih _⟩
    have := (le_start_of_mem_linesFrom hlater).1
    show start + byteSize content < later.start
    omega

/-- The entry of a line stands at the number of line feeds in front of the line. -/
theorem linesFrom_getElem? {t before content after : Text} (h : LineAt t before content after) :
    ∀ (start : Nat), (linesFrom start start t)[lineFeeds before]? =
      some ⟨start + byteSize before, start + byteSize before + byteSize content⟩ := by
  induction h with
  | first clean closes =>
    intro start
    obtain rfl | ⟨later, rfl⟩ := closes
    · rw [List.append_nil, linesFrom_last _ _ clean]
      rfl
    · rw [linesFrom_line _ _ _ clean]
      rfl
  | behind front clean line ih =>
    intro start
    rw [linesFrom_line _ _ _ clean]
    simp only [lineFeeds_append, lineFeeds_eq_zero clean, lineFeeds_lineFeed, Nat.zero_add,
      List.getElem?_cons_succ, ih, byteSize_append, byteSize_cons, utf8Size_lineFeed]
    congr 2 <;> omega

/-- The same for a whole text: the entry at the index of a line starts where the line does and stops
at its end. -/
theorem lineTable_getElem? {t before content after : Text} (h : LineAt t before content after) :
    (lineTable t)[lineFeeds before]? =
      some ⟨byteSize before, byteSize before + byteSize content⟩ := by
  simpa [lineTable] using linesFrom_getElem? h 0

/-- **In entries that are apart, bisection finds the one around a place.** The entries before it
stop before the place and those behind it start behind the place, so each comparison keeps the half
that it is in. -/
theorem findLine_eq_ok {lines : List Span} {index place : Nat} {line : Span}
    (apart : lines.Pairwise fun line later => line.stop < later.start)
    (order : ∀ line ∈ lines, line.start ≤ line.stop)
    (hline : lines[index]? = some line) (hstart : line.start ≤ place) (hstop : place ≤ line.stop) :
    findLine lines place = .ok index := by
  obtain ⟨hindex, hget⟩ := List.getElem?_eq_some_iff.1 hline
  rw [findLine]
  refine bisect_eq_ok 0 _ (Nat.zero_le _) (by omega) (fun other _ hother => ?_) ?_
    fun other hother hlength => ?_
  · have hapart := List.pairwise_iff_getElem.1 apart other index (by omega) hindex hother
    have horder := order _ (List.getElem_mem (show other < lines.length by omega))
    rw [hget] at hapart
    rw [List.getElem?_eq_getElem (show other < lines.length by omega), Option.elim_some,
      compareLine, if_neg (by omega), if_pos (by omega)]
  · rw [hline, Option.elim_some, compareLine, if_neg (by omega), if_neg (by omega)]
  · have hapart := List.pairwise_iff_getElem.1 apart index other hindex (by omega) hother
    rw [hget] at hapart
    rw [List.getElem?_eq_getElem (show other < lines.length by omega), Option.elim_some,
      compareLine, if_pos (by omega)]

/-- **A place in a line is found in that line,** whether at its start, inside or at its end. -/
theorem findLine_lineTable {t before content after : Text} (h : LineAt t before content after)
    {place : Nat} (hstart : byteSize before ≤ place)
    (hstop : place ≤ byteSize before + byteSize content) :
    findLine (lineTable t) place = .ok (lineFeeds before) :=
  findLine_eq_ok (pairwise_linesFrom 0) (fun _ hline => (le_start_of_mem_linesFrom hline).2)
    (lineTable_getElem? h) hstart hstop

/-- **A place behind the text is found in no line,** and the lines are counted instead. -/
theorem findLine_lineTable_beyond {t : Text} {place : Nat} (h : byteSize t < place) :
    findLine (lineTable t) place = .error (lineFeeds t + 1) := by
  have hlength : (lineTable t).length = lineFeeds t + 1 := length_linesFrom t 0
  rw [findLine, ← hlength, bisect_eq_error, Nat.zero_add]
  intro index _ hindex
  rw [Nat.zero_add] at hindex
  have hmem := List.getElem_mem hindex
  have horder := (le_start_of_mem_linesFrom hmem).2
  have hstop := stop_le_of_mem_linesFrom hmem
  rw [List.getElem?_eq_getElem hindex, Option.elim_some, compareLine, if_neg (by omega),
    if_pos (by omega)]

end Document
end TableCodegen
