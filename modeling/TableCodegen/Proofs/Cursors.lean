import TableCodegen.Proofs.Encoding

/-!
# Reading a table by places

A reader can also keep the whole text and move a place through it. It finds the next line feed or
tab, cuts out what stands in front of it, and goes on behind it. Two things can go wrong there that
cannot when lines and cells are taken off a list: a cut can miss the character boundaries or reach
beyond the text, and a loop can stay where it is.

The reader below takes every part of a text by such a cut, so that a cut that misses is an answer of
its own, `none`. It makes the rows of the text, whatever the text is (`readRows?_eq`): no cut ever
misses. Its loops are well-founded because each step moves on, and never beyond the end
(`nextLine?_advances`, `nextCell?_advances`).

| function | what is read | next place |
| --- | --- | --- |
| `nextLine?` | a line without its end | behind its line feed |
| `nextCell?` | a cell of a line | behind its tab |
-/

namespace TableCodegen
namespace Text

/-- The place of the first such character. -/
def place? (c : Char) : Text → Option Nat
  | [] => none
  | d :: ds => if d = c then some 0 else (place? c ds).map (d.utf8Size + ·)

/-- Without the character there is no place of it. -/
theorem place?_of_notMem {c : Char} {t : Text} (h : c ∉ t) : place? c t = none := by
  induction t with
  | nil => rfl
  | cons d ds ih =>
    obtain ⟨hd, hds⟩ := not_or.1 (mt List.mem_cons.2 h)
    rw [place?, if_neg (Ne.symm hd), ih hds, Option.map_none]

/-- The first such character stands behind everything that is none. -/
theorem place?_append_cons {c : Char} {t : Text} (h : c ∉ t) (rest : Text) :
    place? c (t ++ c :: rest) = some (byteSize t) := by
  induction t with
  | nil => exact if_pos rfl
  | cons d ds ih =>
    obtain ⟨hd, hds⟩ := not_or.1 (mt List.mem_cons.2 h)
    rw [List.cons_append, place?, if_neg (Ne.symm hd), ih hds, Option.map_some, byteSize_cons]

/-- What is left behind the front of a text is cut out up to the end. -/
theorem slice?_behind (front rest : Text) :
    slice? (byteSize front) (byteSize (front ++ rest)) (front ++ rest) = some rest :=
  slice?_of_eq_append front [] (by simp) rfl (byteSize_append front rest)

/-- What is cut out up to the end is what is left behind some front. -/
theorem exists_front_of_slice? {start : Nat} {t rest : Text}
    (h : slice? start (byteSize t) t = some rest) : ∃ front, t = front ++ rest ∧
      start = byteSize front := by
  obtain ⟨front, behind, ht, hstart, hstop⟩ := exists_eq_append_of_slice? h
  have hbehind : byteSize behind = 0 := by
    rw [ht, byteSize_append, byteSize_append] at hstop
    omega
  rw [byteSize_eq_zero] at hbehind
  rw [hbehind, List.append_nil] at ht
  exact ⟨front, ht, hstart⟩

/-- What stands in front of the rest of a text is cut out from its start. -/
theorem slice?_front (front rest : Text) :
    slice? 0 (byteSize front) (front ++ rest) = some front :=
  slice?_of_eq_append [] rest rfl rfl (by simp)

end Text

namespace Table

open Text

/-! ### Cells -/

/-- What a quoted body holds, from place `place` on, and the place behind its closing quote, if it
has one. -/
def unquoteFrom : (place : Nat) → Text → Text × Option Nat
  | _, [] => ([], none)
  | place, '"' :: '"' :: cs =>
    let body := unquoteFrom (place + 2) cs
    ('"' :: body.1, body.2)
  | place, c :: cs =>
    if c = '"' then ([], some (place + 1))
    else
      let body := unquoteFrom (place + c.utf8Size) cs
      (c :: body.1, body.2)

/-- What the quoted cell at the start of a text holds, and the place where it stops. -/
def unquote? (rest : Text) : Option (Text × Nat) := do
  let body := unquoteFrom 1 (rest.drop 1)
  let closed := body.2.getD (byteSize rest)
  let behind ← slice? closed (byteSize rest) rest
  let stop := ((place? '\t' behind).map (closed + ·)).getD (byteSize rest)
  let tail ← slice? closed stop rest
  return (body.1 ++ tail, stop)

/-- What the cell at the start of a text holds, and the place where it stops. -/
def cutCell? (rest : Text) : Option (Text × Nat) :=
  if rest.head? = some '"' then unquote? rest
  else
    let stop := (place? '\t' rest).getD (byteSize rest)
    (slice? 0 stop rest).map fun content => (content, stop)

/-- The cell at place `start` of a line that stands at byte `offset`, and the place of the next one,
if there is one. -/
def nextCell? (offset : Nat) (line : Text) (start : Nat) : Option (Cell × Option Nat) := do
  let rest ← slice? start (byteSize line) line
  let (content, stop) ← cutCell? rest
  let cell : Cell := ⟨content, offset + start, offset + start + stop⟩
  return (cell, if stop = byteSize rest then none else some (start + stop + 1))

/-- Where the cell that is cut off a line stops. -/
theorem stop_upToTab (line : Text) :
    (place? '\t' line).getD (byteSize line) = byteSize (upToTab line) := by
  have htab := tab_notMem_upToTab line
  have hline : line = upToTab line ++ fromTab line := (upToTab_append_fromTab line).symm
  rcases fromTab_eq line with hnil | ⟨rest, hrest⟩
  · rw [hnil, List.append_nil] at hline
    rw [← hline] at htab
    rw [place?_of_notMem htab, Option.getD_none, ← hline]
  · rw [hrest] at hline
    have hplace : place? '\t' line = some (byteSize (upToTab line)) := by
      rw [congrArg (place? '\t') hline, place?_append_cons htab]
    rw [hplace, Option.getD_some]

/-- The loop reads the body, and stops behind what it has read: behind the closing quote, or at the
end of the line if there is none. The cases are those of the body, as the loop and the body look at
the same characters. -/
theorem unquoteFrom_eq (line : Text) :
    ∀ place, (unquoteFrom place line).1 = (quotedBody line).content ∧
      (unquoteFrom place line).2.getD (place + byteSize line) =
        place + byteSize (quotedBody line).written := by
  fun_induction quotedBody line with
  | case1 => exact fun place => ⟨rfl, rfl⟩
  | case2 cs =>
    rename_i ih
    intro place
    obtain ⟨hcontent, hplace⟩ := ih (place + 2)
    have hsize : place + byteSize ('"' :: '"' :: cs) = place + 2 + byteSize cs := by
      show place + (1 + (1 + byteSize cs)) = _
      omega
    rw [unquoteFrom, hsize]
    refine ⟨congrArg ('"' :: ·) hcontent, hplace.trans ?_⟩
    show _ = place + (1 + (1 + byteSize (quotedBody cs).written))
    omega
  | case3 cs h =>
    intro place
    rw [unquoteFrom, if_pos rfl]
    · exact ⟨rfl, rfl⟩
    · exact h
  | case4 c cs h hc =>
    rename_i ih
    intro place
    obtain ⟨hcontent, hplace⟩ := ih (place + c.utf8Size)
    rw [unquoteFrom, if_neg hc, byteSize_cons, ← Nat.add_assoc]
    · exact ⟨congrArg (c :: ·) hcontent, hplace.trans (Nat.add_assoc ..)⟩
    · exact h

/-- **A quoted cell** is read as it is cut off a line: neither of the cuts misses. One cut takes
what is behind the closing quote, and the other what stands up to the next tab. -/
theorem unquote?_eq (cs : Text) :
    unquote? ('"' :: cs) = some ((quotedPiece cs).content, byteSize (quotedPiece cs).written) := by
  obtain ⟨hcontent, hclosed⟩ := unquoteFrom_eq cs 1
  have hrest : '"' :: cs = '"' :: (quotedBody cs).written ++ (quotedBody cs).rest :=
    congrArg ('"' :: ·) (quotedBody_written_append cs).symm
  have hsize : 1 + byteSize cs =
      byteSize ('"' :: (quotedBody cs).written) + byteSize (quotedBody cs).rest := by
    rw [← byteSize_append, ← hrest]
    rfl
  have hbehind : slice? (byteSize ('"' :: (quotedBody cs).written)) (1 + byteSize cs)
      ('"' :: cs) = some (quotedBody cs).rest :=
    slice?_of_eq_append _ [] (by rw [List.append_nil, ← hrest]) rfl hsize
  have hstop : ((place? '\t' (quotedBody cs).rest).map
      (byteSize ('"' :: (quotedBody cs).written) + ·)).getD (1 + byteSize cs) =
        byteSize ('"' :: (quotedBody cs).written) + byteSize (upToTab (quotedBody cs).rest) := by
    rw [hsize, Option.getD_map, stop_upToTab]
  have htail : slice? (byteSize ('"' :: (quotedBody cs).written))
      (byteSize ('"' :: (quotedBody cs).written) + byteSize (upToTab (quotedBody cs).rest))
        ('"' :: cs) = some (upToTab (quotedBody cs).rest) := by
    refine slice?_of_eq_append _ (fromTab (quotedBody cs).rest) ?_ rfl rfl
    rw [List.append_assoc, upToTab_append_fromTab, ← hrest]
  have hquote : byteSize ('"' :: cs) = 1 + byteSize cs := rfl
  have hwritten : 1 + byteSize (quotedBody cs).written =
      byteSize ('"' :: (quotedBody cs).written) := rfl
  rw [unquote?]
  simp only [List.drop_one, List.tail_cons, hcontent, hquote, hclosed, hwritten, hbehind, hstop,
    htail, Option.bind_eq_bind, Option.bind_some]
  rw [quotedPiece, byteSize_append]
  rfl

/-- **The first cell of a line** is read as it is cut off: no cut misses. -/
theorem cutCell?_eq (line : Text) :
    cutCell? line = some ((firstPiece line).content, byteSize (firstPiece line).written) := by
  rw [cutCell?]
  split
  · rename_i hhead
    obtain ⟨cs, rfl⟩ := List.head?_eq_some_iff.1 hhead
    exact unquote?_eq cs
  · rename_i hhead
    have hcut : slice? 0 (byteSize (upToTab line)) line = some (upToTab line) :=
      slice?_of_eq_append [] (fromTab line) (upToTab_append_fromTab line).symm rfl (by simp)
    simp only [stop_upToTab, hcut, Option.map_some, firstPiece_of_head hhead]
    rfl

/-- A cell ends with its line when nothing is left behind it. -/
theorem written_eq_byteSize_iff (line : Text) :
    byteSize (firstPiece line).written = byteSize line ↔ (firstPiece line).rest = [] := by
  have hsize := congrArg byteSize (firstPiece_written_append line)
  rw [byteSize_append] at hsize
  rw [← byteSize_eq_zero]
  omega

/-- **One step of the cell loop** behind the front of a line. -/
theorem nextCell?_eq (offset : Nat) (front line : Text) :
    nextCell? offset (front ++ line) (byteSize front) =
      some (firstCell (offset + byteSize front) line,
        if (firstPiece line).rest = [] then none
        else some (byteSize front + byteSize (firstPiece line).written + 1)) := by
  rw [nextCell?, slice?_behind]
  simp only [Option.bind_eq_bind, Option.bind_some, cutCell?_eq, written_eq_byteSize_iff]
  rfl

/-- **The cell loop moves on,** and not beyond the line. -/
theorem nextCell?_advances {offset start next : Nat} {line : Text} {cell : Cell}
    (h : nextCell? offset line start = some (cell, some next)) :
    start < next ∧ next ≤ byteSize line := by
  -- That the first cut has not missed makes `start` the place behind some front.
  obtain ⟨rest, hrest, -⟩ := Option.bind_eq_some_iff.1 h
  obtain ⟨front, rfl, rfl⟩ := exists_front_of_slice? hrest
  rw [nextCell?_eq, Option.some.injEq, Prod.mk.injEq] at h
  obtain ⟨-, hnext⟩ := h
  split at hnext
  · cases hnext
  · rename_i hleft
    cases hnext
    have hsize := congrArg byteSize (firstPiece_written_append rest)
    have hpos : byteSize (firstPiece rest).rest ≠ 0 := mt byteSize_eq_zero.1 hleft
    rw [byteSize_append] at hsize ⊢
    omega

/-- The cells from place `start` of a line on. -/
def cellsFrom? (offset : Nat) (line : Text) (start : Nat) : Option (List Cell) :=
  match _h : nextCell? offset line start with
  | none => none
  | some (cell, none) => some [cell]
  | some (cell, some next) => (cellsFrom? offset line next).map (cell :: ·)
termination_by byteSize line - start
decreasing_by
  have hnext := nextCell?_advances _h
  omega

/-- A cell with no next place is the last one. -/
theorem cellsFrom?_last {offset start : Nat} {line : Text} {cell : Cell}
    (h : nextCell? offset line start = some (cell, none)) :
    cellsFrom? offset line start = some [cell] := by
  rw [cellsFrom?]
  split
  · rename_i hstep
    rw [h] at hstep
    cases hstep
  · rename_i hstep
    rw [h] at hstep
    cases hstep
    rfl
  · rename_i hstep
    rw [h] at hstep
    cases hstep

/-- A cell with a next place stands in front of the cells from there on, if these can be read. The
step lemma `nextCell?_advances` is what makes this recursion end. -/
theorem cellsFrom?_next {offset start next : Nat} {line : Text} {cell : Cell}
    (h : nextCell? offset line start = some (cell, some next)) :
    cellsFrom? offset line start = (cellsFrom? offset line next).map (cell :: ·) := by
  rw [cellsFrom?]
  split
  · rename_i hstep
    rw [h] at hstep
    cases hstep
  · rename_i hstep
    rw [h] at hstep
    cases hstep
  · rename_i hstep
    rw [h] at hstep
    cases hstep
    rfl

/-- **The cell loop** makes the cells of a line, from the place behind its front on. The induction
is on the cells: behind a tab the loop goes on with a longer front and the rest of the line. -/
theorem cellsFrom?_eq (offset : Nat) {line : Text} :
    ∀ front, cellsFrom? offset (front ++ line) (byteSize front) =
      some (cellsOf (offset + byteSize front) line) := by
  induction line using cellInduction with
  | last line hrest =>
    intro front
    have hstep := nextCell?_eq offset front line
    rw [if_pos hrest] at hstep
    rw [cellsFrom?_last hstep, cellsOf_last _ hrest]
  | tab line rest hrest ih =>
    intro front
    have hstep := nextCell?_eq offset front line
    rw [if_neg (by rw [hrest]; exact List.cons_ne_nil _ _)] at hstep
    have hline : front ++ line = front ++ (firstPiece line).written ++ ['\t'] ++ rest := calc
      front ++ line = front ++ ((firstPiece line).written ++ '\t' :: rest) :=
        congrArg (front ++ ·) (eq_written_append_tab hrest)
      _ = _ := by simp
    have hplace : byteSize front + byteSize (firstPiece line).written + 1 =
        byteSize (front ++ (firstPiece line).written ++ ['\t']) := by simp [Nat.add_assoc]
    have hnext := ih (front ++ (firstPiece line).written ++ ['\t'])
    rw [← hline, ← hplace] at hnext
    rw [cellsFrom?_next hstep, hnext, cellsOf_tab _ hrest, Option.map_some]
    simp only [Nat.add_assoc]

/-! ### Lines and rows -/

/-- Where the row reader stands: the place behind the last line it has read, and how many it has
read. -/
structure Cursor where
  offset : Nat
  line : Nat
  deriving DecidableEq, Repr

/-- The line at the start of a text without its line feed, and the place behind that. -/
def cutLine? (rest : Text) : Option (Text × Nat) :=
  match place? '\n' rest with
  | some place => (slice? 0 place rest).map fun line => (line, place + 1)
  | none => some (rest, byteSize rest)

/-- The next line without its end, if there is one, and where the reader stands behind it. -/
def nextLine? (t : Text) (cursor : Cursor) : Option (Option Text × Cursor) :=
  if byteSize t ≤ cursor.offset then some (none, cursor)
  else do
    let rest ← slice? cursor.offset (byteSize t) t
    let (line, consumed) ← cutLine? rest
    return (some (dropReturn line), ⟨cursor.offset + consumed, cursor.line + 1⟩)

/-- Up to a line feed the content is cut out, and the next line starts one byte behind it. -/
theorem cutLine?_line {content : Text} (rest : Text) (h : '\n' ∉ content) :
    cutLine? (content ++ '\n' :: rest) = some (content, byteSize content + 1) := by
  simp only [cutLine?, place?_append_cons h, slice?_front, Option.map_some]

/-- Without a line feed the content goes to the end of the text, and so does the cursor. -/
theorem cutLine?_last {content : Text} (h : '\n' ∉ content) :
    cutLine? content = some (content, byteSize content) := by
  simp only [cutLine?, place?_of_notMem h]

/-- A cursor at the end of the text reads no line and stays. -/
theorem nextLine?_end {t : Text} {cursor : Cursor} (h : byteSize t ≤ cursor.offset) :
    nextLine? t cursor = some (none, cursor) := if_pos h

/-- **One step of the row loop** behind the front of a text: a line, and its line feed. -/
theorem nextLine?_line {content : Text} (front rest : Text) (count : Nat) (h : '\n' ∉ content) :
    nextLine? (front ++ (content ++ '\n' :: rest)) ⟨byteSize front, count⟩ =
      some (some (dropReturn content), ⟨byteSize front + byteSize content + 1, count + 1⟩) := by
  have hlt : ¬byteSize (front ++ (content ++ '\n' :: rest)) ≤ byteSize front := by
    simp only [byteSize_append, byteSize_cons, utf8Size_lineFeed]
    omega
  rw [nextLine?, if_neg hlt]
  simp only [slice?_behind, cutLine?_line rest h, Option.bind_eq_bind, Option.bind_some]
  rfl

/-- The same for a last line that has no line feed. -/
theorem nextLine?_last {content : Text} (front : Text) (count : Nat) (h : '\n' ∉ content)
    (hnil : content ≠ []) :
    nextLine? (front ++ content) ⟨byteSize front, count⟩ =
      some (some (dropReturn content), ⟨byteSize front + byteSize content, count + 1⟩) := by
  have hlt : ¬byteSize (front ++ content) ≤ byteSize front := by
    have hpos : byteSize content ≠ 0 := mt byteSize_eq_zero.1 hnil
    rw [byteSize_append]
    omega
  rw [nextLine?, if_neg hlt]
  simp only [slice?_behind, cutLine?_last h, Option.bind_eq_bind, Option.bind_some]
  rfl

/-- **The row loop moves on,** and not beyond the text. So it ends, with one step for each line at
most. -/
theorem nextLine?_advances {t line : Text} {cursor next : Cursor}
    (h : nextLine? t cursor = some (some line, next)) :
    cursor.offset < next.offset ∧ next.offset ≤ byteSize t := by
  obtain ⟨offset, count⟩ := cursor
  by_cases hend : byteSize t ≤ offset
  · rw [nextLine?_end hend] at h
    cases h
  · have hcut := h
    rw [nextLine?, if_neg hend] at hcut
    obtain ⟨rest, hrest, -⟩ := Option.bind_eq_some_iff.1 hcut
    obtain ⟨front, rfl, rfl⟩ := exists_front_of_slice? hrest
    by_cases hfeed : '\n' ∈ rest
    · obtain ⟨content, behind, rfl, hclean⟩ := List.eq_append_cons_of_mem hfeed
      rw [nextLine?_line front behind count hclean] at h
      cases h
      simp only [byteSize_append, byteSize_cons, utf8Size_lineFeed]
      omega
    · have hnil : rest ≠ [] := by
        rintro rfl
        exact hend (Nat.le_of_eq (congrArg byteSize (List.append_nil front)))
      have hpos : byteSize rest ≠ 0 := mt byteSize_eq_zero.1 hnil
      rw [nextLine?_last front count hfeed hnil] at h
      cases h
      simp only [byteSize_append]
      omega

/-- The cells of a line that stands at byte `offset`; an empty one has none. -/
def lineCells? (offset : Nat) (line : Text) : Option (List Cell) :=
  if line.isEmpty then some [] else cellsFrom? offset line 0

/-- The rows from a place of a text on. -/
def rowsAt? (t : Text) (cursor : Cursor) : Option (List Row) :=
  match _h : nextLine? t cursor with
  | none => none
  | some (none, _) => some []
  | some (some line, next) => do
    let cells ← lineCells? cursor.offset line
    let rows ← rowsAt? t next
    return ⟨next.line, ⟨cursor.offset, cursor.offset + byteSize line⟩, cells⟩ :: rows
termination_by byteSize t - cursor.offset
decreasing_by
  have hnext := nextLine?_advances _h
  omega

/-- The rows of a text; the first line is the header and no row. -/
def readRows? (t : Text) : Option (List Row) := do
  let (_, cursor) ← nextLine? t ⟨0, 0⟩
  rowsAt? t cursor

/-- Where no line is left there are no further rows. -/
theorem rowsAt?_end {t : Text} {cursor next : Cursor} (h : nextLine? t cursor = some (none, next)) :
    rowsAt? t cursor = some [] := by
  rw [rowsAt?]
  split
  · rename_i hstep
    rw [h] at hstep
    cases hstep
  · rfl
  · rename_i hstep
    rw [h] at hstep
    cases hstep

/-- A line that has been read is a row: its cells are those that the cell loop makes. The row keeps
the place where the loop stood before the line and the number that it has behind it. -/
theorem rowsAt?_next {t line : Text} {cursor next : Cursor}
    (h : nextLine? t cursor = some (some line, next)) :
    rowsAt? t cursor =
      (rowsAt? t next).map (Row.ofLine next.line cursor.offset line :: ·) := by
  have hcells : lineCells? cursor.offset line =
      some (Row.ofLine next.line cursor.offset line).cells := by
    rw [lineCells?, Row.ofLine]
    split
    · rfl
    · exact cellsFrom?_eq cursor.offset []
  rw [rowsAt?]
  split
  · rename_i hstep
    rw [h] at hstep
    cases hstep
  · rename_i hstep
    rw [h] at hstep
    cases hstep
  · rename_i hstep
    rw [h] at hstep
    cases hstep
    rw [hcells]
    cases rowsAt? t next with
    | none => rfl
    | some rows => rfl

/-- **The row loop** makes the rows of the lines behind the front of a text. The induction is on the
lines; the front grows by each line, and its size is the place where the loop stands. -/
theorem rowsAt?_eq {t : Text} :
    ∀ (front : Text) (count : Nat), rowsAt? (front ++ t) ⟨byteSize front, count⟩ =
      some (rowsFrom (count + 1) (byteSize front) (lineTexts t)) := by
  induction t using lineInduction with
  | last content hcontent =>
    intro front count
    by_cases hnil : content = []
    · rw [lineTexts_last hcontent, if_pos hnil, rowsAt?_end (nextLine?_end (by simp [hnil]))]
      rfl
    · have hstep := nextLine?_last front count hcontent hnil
      have hend : rowsAt? (front ++ content) ⟨byteSize front + byteSize content, count + 1⟩ =
          some [] := rowsAt?_end (nextLine?_end (Nat.le_of_eq (byteSize_append front content)))
      rw [lineTexts_last hcontent, if_neg hnil, rowsAt?_next hstep, hend]
      rfl
  | line content rest hcontent ih =>
    intro front count
    have hstep := nextLine?_line front rest count hcontent
    have htext : front ++ (content ++ '\n' :: rest) = front ++ content ++ ['\n'] ++ rest := by simp
    have hplace : byteSize front + byteSize content + 1 =
        byteSize (front ++ content ++ ['\n']) := by simp [Nat.add_assoc]
    have hnext := ih (front ++ content ++ ['\n']) (count + 1)
    rw [← htext, ← hplace] at hnext
    rw [rowsAt?_next hstep, hnext, lineTexts_line rest hcontent]
    rfl

/-- **No cut misses.** Read by places, every text has its rows. Only the first line is treated
apart, since it is read and dropped. -/
theorem readRows?_eq (t : Text) : readRows? t = some (rows t) := by
  by_cases hfeed : '\n' ∈ t
  · obtain ⟨header, body, rfl, hheader⟩ := List.eq_append_cons_of_mem hfeed
    have hstep : nextLine? (header ++ '\n' :: body) ⟨0, 0⟩ =
        some (some (dropReturn header), ⟨byteSize header + 1, 1⟩) := by
      simpa using nextLine?_line [] body 0 hheader
    have hbody : rowsAt? (header ++ '\n' :: body) ⟨byteSize header + 1, 1⟩ =
        some (rowsFrom 2 (byteSize header + 1) (lineTexts body)) := by
      simpa using rowsAt?_eq (header ++ ['\n']) 1 (t := body)
    rw [readRows?, hstep, rows_header body hheader]
    exact hbody
  · have hend : rowsAt? t ⟨byteSize t, 1⟩ = some [] := rowsAt?_end (nextLine?_end (Nat.le_refl _))
    rw [rows_of_header hfeed]
    by_cases hnil : t = []
    · have hstep : nextLine? t ⟨0, 0⟩ = some (none, ⟨0, 0⟩) :=
        nextLine?_end (by rw [hnil]; exact Nat.le_refl _)
      rw [readRows?, hstep]
      exact rowsAt?_end hstep
    · have hstep : nextLine? t ⟨0, 0⟩ = some (some (dropReturn t), ⟨byteSize t, 1⟩) := by
        simpa using nextLine?_last [] 0 hfeed hnil
      rw [readRows?, hstep]
      exact hend

/-- A quoted cell with a character of three bytes and an empty cell behind it, an empty line, and a
last line that ends in a carriage return. -/
example : readRows? "h\n\"’\t\"\"\"\t\r\n\nx\r".toList =
    some [⟨2, ⟨2, 11⟩, [⟨"’\t\"".toList, 2, 10⟩, ⟨[], 11, 11⟩]⟩, ⟨3, ⟨13, 13⟩, []⟩,
      ⟨4, ⟨14, 15⟩, [⟨"x".toList, 14, 15⟩]⟩] := by cbv

end Table
end TableCodegen
