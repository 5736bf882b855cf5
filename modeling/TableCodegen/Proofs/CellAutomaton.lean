import TableCodegen.Proofs.Encoding

/-!
# Cells by an automaton

The cells of a line can be read in one pass, character by character. The reader is in one of five
modes, and what a character does is told by the mode:

| mode | a quote | a tab | another character |
| --- | --- | --- | --- |
| `start` | is dropped: `quoted` | ends the cell | is kept: `plain` |
| `plain` | is kept | ends the cell | is kept |
| `quoted` | is dropped: `quoteSeen` | is kept | is kept |
| `quoteSeen` | is kept: `quoted` | ends the cell | is kept: `tail` |
| `tail` | is kept | ends the cell | is kept |

Behind a tab a further cell starts, and the end of the line ends the cell in every mode. The cells
that are cut off a line one after the other are those of the automaton, with the same texts and the
same spans, for all lines (`cellsOf_eq_scan`).
-/

namespace TableCodegen
namespace Table

open Text

/-- Where a reader is in a cell. -/
inductive Mode where
  /-- In front of the first character. -/
  | start
  /-- In a cell that does not start with a quote. -/
  | plain
  /-- Behind the opening quote. -/
  | quoted
  /-- Behind a quote in the body, which may be the closing one. -/
  | quoteSeen
  /-- Behind the closing quote and another character. -/
  | tail
  deriving DecidableEq, Repr

/-- What a character does. -/
inductive Effect where
  /-- It is no content. -/
  | drop (next : Mode)
  /-- It is content. -/
  | keep (next : Mode)
  /-- It ends the cell. -/
  | close
  deriving DecidableEq, Repr

/-- What a character does in a mode. -/
def Mode.effect : Mode → Char → Effect
  | .start, c => if c = '"' then .drop .quoted else if c = '\t' then .close else .keep .plain
  | .plain, c => if c = '\t' then .close else .keep .plain
  | .quoted, c => if c = '"' then .drop .quoteSeen else .keep .quoted
  | .quoteSeen, c => if c = '"' then .keep .quoted else if c = '\t' then .close else .keep .tail
  | .tail, c => if c = '\t' then .close else .keep .tail

/-- A reader of cells: its mode, the content and the start of the cell it is in, its place, and the
cells that it has read. -/
structure Scanner where
  mode : Mode
  content : Text
  start : Nat
  place : Nat
  cells : List Cell
  deriving DecidableEq, Repr

namespace Scanner

/-- A reader in front of a cell. -/
def opening (place : Nat) (cells : List Cell) : Scanner := ⟨.start, [], place, place, cells⟩

/-- The cells of a reader at the end of its line. -/
def finish (scanner : Scanner) : List Cell :=
  scanner.cells ++ [⟨scanner.content, scanner.start, scanner.place⟩]

/-- A reader after one more character. -/
def step (scanner : Scanner) (c : Char) : Scanner :=
  match scanner.mode.effect c with
  | .drop next => { scanner with mode := next, place := scanner.place + c.utf8Size }
  | .keep next =>
    { scanner with
      mode := next
      content := scanner.content ++ [c]
      place := scanner.place + c.utf8Size }
  | .close => opening (scanner.place + c.utf8Size) scanner.finish

/-- A reader after a text. -/
def run (scanner : Scanner) (t : Text) : Scanner := t.foldl step scanner

end Scanner

/-- The cells that the automaton reads on a line that starts at byte `offset`. -/
def scan (offset : Nat) (line : Text) : List Cell :=
  ((Scanner.opening offset []).run line).finish

/-! ### What the automaton makes of a cell -/

namespace Scanner

variable {scanner : Scanner}

@[simp] theorem run_nil : scanner.run [] = scanner := rfl

/-- A scanner takes one character and then the others. -/
theorem run_cons (c : Char) (cs : Text) : scanner.run (c :: cs) = (scanner.step c).run cs := rfl

/-- **A run can be cut anywhere:** what a scanner has read so far is all that the rest of its run
depends on. -/
theorem run_append (s t : Text) : scanner.run (s ++ t) = (scanner.run s).run t :=
  List.foldl_append ..

/-- A reader that has kept a text and is in a mode. -/
def kept (scanner : Scanner) (mode : Mode) (content written : Text) : Scanner :=
  { scanner with
    mode := mode
    content := scanner.content ++ content
    place := scanner.place + byteSize written }

/-- What is kept in two steps is kept in one, and the mode of the last step counts. -/
theorem kept_kept (mode next : Mode) (content content' written written' : Text) :
    (scanner.kept mode content written).kept next content' written' =
      scanner.kept next (content ++ content') (written ++ written') := by
  simp [kept, Nat.add_assoc]

/-- Keeping nothing without a change of mode changes nothing. -/
theorem kept_nil {mode : Mode} (h : scanner.mode = mode) : scanner.kept mode [] [] = scanner := by
  subst h
  simp [kept]

/-- A character that is kept is both content and written form. -/
theorem step_keep {c : Char} {next : Mode} (h : scanner.mode.effect c = .keep next) :
    scanner.step c = scanner.kept next [c] [c] := by
  simp [step, h, kept]

/-- A character that is dropped belongs to the written form of the cell alone, as a quote around the
body does. -/
theorem step_drop {c : Char} {next : Mode} (h : scanner.mode.effect c = .drop next) :
    scanner.step c = scanner.kept next [] [c] := by
  simp [step, h, kept]

/-- A mode that keeps everything up to a tab keeps a text without a tab. -/
theorem run_of_notMem {mode : Mode} (hkeeps : ∀ c, c ≠ '\t' → mode.effect c = .keep mode)
    {t : Text} :
    ∀ scanner : Scanner, scanner.mode = mode → '\t' ∉ t →
      scanner.run t = scanner.kept mode t t := by
  induction t with
  | nil => exact fun _ hmode _ => (kept_nil hmode).symm
  | cons c cs ih =>
    intro scanner hmode ht
    obtain ⟨hc, hcs⟩ := not_or.1 (mt List.mem_cons.2 ht)
    have hstep : scanner.step c = scanner.kept mode [c] [c] :=
      step_keep (by rw [hmode]; exact hkeeps c (Ne.symm hc))
    rw [run_cons, hstep, ih _ rfl hcs, kept_kept]
    rfl

/-- From a mode that lets a tab end the cell, and that other characters lead out of into a mode that
keeps them, everything up to the next tab is kept. -/
theorem run_upToTab (mode next : Mode) (hclose : mode.effect '\t' = .close)
    (hfirst : ∀ c, c ≠ '"' → c ≠ '\t' → mode.effect c = .keep next)
    (hclose' : next.effect '\t' = .close) (hnext : ∀ c, c ≠ '\t' → next.effect c = .keep next)
    {line : Text} (hline : line.head? ≠ some '"') (hmode : scanner.mode = mode) :
    ∃ last, scanner.run (upToTab line) = scanner.kept last (upToTab line) (upToTab line) ∧
      last.effect '\t' = .close := by
  have htab := tab_notMem_upToTab line
  cases hcell : upToTab line with
  | nil => exact ⟨mode, (kept_nil hmode).symm, hclose⟩
  | cons c cs =>
    rw [hcell] at htab
    obtain ⟨hc, hcs⟩ := not_or.1 (mt List.mem_cons.2 htab)
    have hquote : c ≠ '"' := by
      rintro rfl
      have hhead : line.head? = some '"' := by
        rw [← upToTab_append_fromTab line, hcell]
        rfl
      exact hline hhead
    have hstep : scanner.step c = scanner.kept next [c] [c] :=
      step_keep (by rw [hmode]; exact hfirst c hquote (Ne.symm hc))
    refine ⟨next, ?_, hclose'⟩
    rw [run_cons, hstep, run_of_notMem hnext _ rfl hcs, kept_kept]
    rfl

/-- A cell that does not start with a quote is kept as it is. -/
theorem run_plain (scanner : Scanner) {line : Text} (hline : line.head? ≠ some '"')
    (hmode : scanner.mode = .start) :
    ∃ last, scanner.run (upToTab line) = scanner.kept last (upToTab line) (upToTab line) ∧
      last.effect '\t' = .close :=
  run_upToTab .start .plain rfl (fun _ hquote htab => (if_neg hquote).trans (if_neg htab)) rfl
    (fun _ htab => if_neg htab) hline hmode

/-- What follows a closing quote is kept as it is. -/
theorem run_tail (scanner : Scanner) {line : Text} (hline : line.head? ≠ some '"')
    (hmode : scanner.mode = .quoteSeen) :
    ∃ last, scanner.run (upToTab line) = scanner.kept last (upToTab line) (upToTab line) ∧
      last.effect '\t' = .close :=
  run_upToTab .quoteSeen .tail rfl (fun _ hquote htab => (if_neg hquote).trans (if_neg htab)) rfl
    (fun _ htab => if_neg htab) hline hmode

/-- What is read of a quoted body: a closed one ends behind a quote that no second one follows, and
one that is not closed takes the rest of the line. -/
theorem run_quotedBody (line : Text) :
    ∀ scanner : Scanner, scanner.mode = .quoted →
      ∃ mode, scanner.run (quotedBody line).written =
          scanner.kept mode (quotedBody line).content (quotedBody line).written ∧
        (mode = .quoteSeen ∧ (quotedBody line).rest.head? ≠ some '"' ∨
          mode = .quoted ∧ (quotedBody line).rest = []) := by
  fun_induction quotedBody line with
  | case1 => exact fun _ hmode => ⟨.quoted, (kept_nil hmode).symm, .inr ⟨rfl, rfl⟩⟩
  | case2 cs =>
    rename_i ih
    intro scanner hmode
    have hfirst : scanner.step '"' = scanner.kept .quoteSeen [] ['"'] :=
      step_drop (by rw [hmode]; rfl)
    have hsecond : (scanner.kept .quoteSeen [] ['"']).step '"' =
        (scanner.kept .quoteSeen [] ['"']).kept .quoted ['"'] ['"'] := step_keep rfl
    have hquotes : scanner.run ['"', '"'] = scanner.kept .quoted ['"'] ['"', '"'] := by
      rw [run_cons, run_cons, hfirst, hsecond, kept_kept]
      rfl
    obtain ⟨mode, hrun, hend⟩ := ih (scanner.kept .quoted ['"'] ['"', '"']) rfl
    refine ⟨mode, ?_, hend⟩
    show scanner.run (['"', '"'] ++ (quotedBody cs).written) = _
    rw [run_append, hquotes, hrun, kept_kept]
    rfl
  | case3 cs h =>
    intro scanner hmode
    refine ⟨.quoteSeen, ?_, .inl ⟨rfl, ?_⟩⟩
    · exact step_drop (by rw [hmode]; rfl)
    · intro hhead
      obtain ⟨rest, hrest⟩ := List.head?_eq_some_iff.1 hhead
      exact h rest rfl hrest
  | case4 c cs h hc =>
    rename_i ih
    intro scanner hmode
    have hstep : scanner.step c = scanner.kept .quoted [c] [c] :=
      step_keep (by rw [hmode]; exact if_neg hc)
    obtain ⟨mode, hrun, hend⟩ := ih (scanner.kept .quoted [c] [c]) rfl
    refine ⟨mode, ?_, hend⟩
    rw [run_cons, hstep, hrun, kept_kept]
    rfl

/-- **The first cell of a line** is read as it is cut off, and a tab behind it ends it. The mode
that the automaton is left in depends on the cell: plain text, behind a closing quote, or inside a
quote that is never closed, where no tab ends it and none is left. -/
theorem run_firstPiece (scanner : Scanner) (line : Text) (hmode : scanner.mode = .start) :
    ∃ last, scanner.run (firstPiece line).written =
        scanner.kept last (firstPiece line).content (firstPiece line).written ∧
      ((firstPiece line).rest = [] ∨ last.effect '\t' = .close) := by
  by_cases hline : line.head? = some '"'
  · obtain ⟨cs, rfl⟩ := List.head?_eq_some_iff.1 hline
    have hopen : scanner.step '"' = scanner.kept .quoted [] ['"'] :=
      step_drop (by rw [hmode]; rfl)
    obtain ⟨mode, hbody, hend⟩ := run_quotedBody cs (scanner.kept .quoted [] ['"']) rfl
    have hwritten : (firstPiece ('"' :: cs)).written =
        '"' :: ((quotedBody cs).written ++ upToTab (quotedBody cs).rest) := rfl
    rw [hwritten, run_cons, hopen, run_append, hbody, kept_kept]
    rcases hend with ⟨rfl, hrest⟩ | ⟨rfl, hrest⟩
    · obtain ⟨last, htail, hclose⟩ := run_tail (scanner.kept .quoteSeen
        ([] ++ (quotedBody cs).content) (['"'] ++ (quotedBody cs).written)) hrest rfl
      refine ⟨last, ?_, .inr hclose⟩
      rw [htail, kept_kept]
      rfl
    · refine ⟨.quoted, ?_, .inl ?_⟩
      · simp [firstPiece, quotedPiece, hrest, upToTab]
      · simp [firstPiece, quotedPiece, hrest, fromTab]
  · rw [firstPiece_of_head hline]
    obtain ⟨last, hrun, hclose⟩ := run_plain scanner hline hmode
    exact ⟨last, hrun, .inr hclose⟩

/-- The cell that a reader ends in when it has kept the first cell of a line. -/
theorem finish_kept_opening (place : Nat) (cells : List Cell) (mode : Mode) (line : Text) :
    ((opening place cells).kept mode (firstPiece line).content (firstPiece line).written).finish =
      cells ++ [firstCell place line] := rfl

/-- **The cells of a line** are read as they are cut off, behind those that have been read. The
induction is on the cells, and the place and the cells so far are the state that one cell leaves for
the next. -/
theorem finish_run_opening {line : Text} :
    ∀ (place : Nat) (cells : List Cell),
      ((opening place cells).run line).finish = cells ++ cellsOf place line := by
  induction line using cellInduction with
  | last line hrest =>
    intro place cells
    obtain ⟨last, hrun, -⟩ := run_firstPiece (opening place cells) line rfl
    have hline : (firstPiece line).written = line := by
      have h := firstPiece_written_append line
      rwa [hrest, List.append_nil] at h
    rw [cellsOf_last place hrest, ← finish_kept_opening place cells last, ← hrun, hline]
  | tab line rest hrest ih =>
    intro place cells
    obtain ⟨last, hrun, hclose⟩ := run_firstPiece (opening place cells) line rfl
    have htab : last.effect '\t' = .close := by
      rcases hclose with hnil | hclose
      · rw [hrest] at hnil
        cases hnil
      · exact hclose
    have hstep : ((opening place cells).kept last (firstPiece line).content
        (firstPiece line).written).step '\t' =
          opening (place + byteSize (firstPiece line).written + 1)
            (cells ++ [firstCell place line]) := by
      rw [step]
      simp only [kept, htab]
      rfl
    have hline : (opening place cells).run line =
        (opening (place + byteSize (firstPiece line).written + 1)
          (cells ++ [firstCell place line])).run rest := calc
      (opening place cells).run line =
          (opening place cells).run ((firstPiece line).written ++ '\t' :: rest) :=
        congrArg _ (eq_written_append_tab hrest)
      _ = (((opening place cells).run (firstPiece line).written).step '\t').run rest :=
        run_append ..
      _ = _ := by rw [hrun, hstep]
    rw [hline, ih, cellsOf_tab place hrest, List.append_assoc]
    rfl

end Scanner

/-! ### Lines without quoted cells -/

/-- Texts as cells that hold them as they are, the first one from byte `offset` on, with one byte
between neighbours. -/
def cellsAt : (offset : Nat) → List Text → List Cell
  | _, [] => []
  | offset, t :: ts => ⟨t, offset, offset + byteSize t⟩ :: cellsAt (offset + byteSize t + 1) ts

/-- A line without a tab is one part. -/
theorem splitOn_of_fromTab_nil {line : Text} (h : fromTab line = []) :
    line.splitOn '\t' = [upToTab line] := by
  have hline : line = upToTab line := by
    rw [← List.append_nil (upToTab line), ← h, upToTab_append_fromTab]
  have htab := tab_notMem_upToTab line
  rw [← hline] at htab ⊢
  exact List.splitOn_eq_singleton htab

/-- The first part goes up to the first tab, and the others are those of what stands behind the
tab. -/
theorem splitOn_of_fromTab_cons {line rest : Text} (h : fromTab line = '\t' :: rest) :
    line.splitOn '\t' = upToTab line :: rest.splitOn '\t' := by
  have hline : upToTab line ++ '\t' :: rest = line := by
    rw [← h, upToTab_append_fromTab]
  have hsplit : (upToTab line ++ '\t' :: rest).splitOn '\t' = upToTab line :: rest.splitOn '\t' :=
    List.splitOn_append_cons_self_of_not_mem (tab_notMem_upToTab line) rest
  rwa [hline] at hsplit

/-- The first cell of a line is plain when nothing between tabs starts with a quote. -/
theorem firstPiece_of_parts {line : Text} (h : ∀ part ∈ line.splitOn '\t', part.head? ≠ some '"') :
    firstPiece line = plainPiece line := by
  refine firstPiece_of_head fun hhead => ?_
  obtain ⟨cs, rfl⟩ := List.head?_eq_some_iff.1 hhead
  have hmem : upToTab ('"' :: cs) ∈ ('"' :: cs : Text).splitOn '\t' := by
    rcases fromTab_eq ('"' :: cs) with hnil | ⟨rest, hrest⟩
    · rw [splitOn_of_fromTab_nil hnil]
      exact List.mem_singleton_self _
    · rw [splitOn_of_fromTab_cons hrest]
      exact List.mem_cons_self
  exact h _ hmem rfl

/-- **Plain splitting.** When nothing between tabs starts with a quote, the cells are what is
between the tabs. -/
theorem cellsOf_eq_cellsAt {line : Text} :
    ∀ offset, (∀ part ∈ line.splitOn '\t', part.head? ≠ some '"') →
      cellsOf offset line = cellsAt offset (line.splitOn '\t') := by
  induction line using cellInduction with
  | last line hrest =>
    intro offset h
    have hplain := firstPiece_of_parts h
    have hnil : fromTab line = [] := by rwa [hplain] at hrest
    rw [cellsOf_last offset hrest, splitOn_of_fromTab_nil hnil, firstCell, hplain]
    rfl
  | tab line rest hrest ih =>
    intro offset h
    have hplain := firstPiece_of_parts h
    have hcons : fromTab line = '\t' :: rest := by rwa [hplain] at hrest
    have hparts : line.splitOn '\t' = upToTab line :: rest.splitOn '\t' :=
      splitOn_of_fromTab_cons hcons
    have hbehind : ∀ part ∈ rest.splitOn '\t', part.head? ≠ some '"' := fun part hpart =>
      h part (hparts ▸ List.mem_cons_of_mem _ hpart)
    rw [cellsOf_tab offset hrest, ih _ hbehind, hparts, firstCell, hplain]
    rfl

/-- **The cells of a line are those of the automaton,** for every line, with their texts and their
spans. And when nothing between tabs starts with a quote, they are what is between the tabs. -/
theorem cellsOf_eq_scan (offset : Nat) (line : Text) :
    cellsOf offset line = scan offset line ∧
      ((∀ part ∈ line.splitOn '\t', part.head? ≠ some '"') →
        cellsOf offset line = cellsAt offset (line.splitOn '\t')) :=
  ⟨(Scanner.finish_run_opening offset []).symm, cellsOf_eq_cellsAt offset⟩

/-- A line with quotes inside its cells, and an empty cell at its end. -/
theorem cellsOf_eq_scan_innerQuotes :
    (∀ part ∈ ("a\"\t’\"\t".toList).splitOn '\t', part.head? ≠ some '"') ∧
      cellsOf 2 "a\"\t’\"\t".toList = scan 2 "a\"\t’\"\t".toList ∧
      cellsOf 2 "a\"\t’\"\t".toList =
        [⟨"a\"".toList, 2, 4⟩, ⟨"’\"".toList, 5, 9⟩, ⟨[], 10, 10⟩] := by
  have hparts : ∀ part ∈ ("a\"\t’\"\t".toList).splitOn '\t', part.head? ≠ some '"' := by decide
  obtain ⟨hscan, hplain⟩ := cellsOf_eq_scan 2 "a\"\t’\"\t".toList
  exact ⟨hparts, hscan, hplain hparts⟩

example : scan 4 "\"a\t\"\"\"b\"\t\tc\"".toList =
    [⟨"a\t\"b\"".toList, 4, 12⟩, ⟨[], 13, 13⟩, ⟨"c\"".toList, 14, 16⟩] := by decide

end Table
end TableCodegen
