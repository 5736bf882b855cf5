import TableCodegen.FileTree
import TableCodegen.Generate
import TableCodegen.Proofs.Diagnosis
import TableCodegen.Proofs.Encoding
import TableCodegen.Proofs.Shifts

/-!
# The style of line endings

Tables come with line feeds alone or with a carriage return in front of each. Three places take the
carriage return away, each in its own way: the row reader drops it from a line, an empty line is one
that is empty afterwards, and an excerpt trims it from the line that it shows.

For a text without carriage returns they agree, and `load_crlf` says so: with the other line endings
it loads to the same records and is generated from in the same way, or it fails at the same place,
which is as many bytes further on as there are line feeds in front of it, with the same report.
-/

namespace TableCodegen
namespace Text

/-- A text with a carriage return in front of every line feed. -/
def crlf (t : Text) : Text := t.flatMap fun c => if c = '\n' then ['\r', '\n'] else [c]

@[simp] theorem utf8Size_return : '\r'.utf8Size = 1 := rfl

@[simp] theorem crlf_nil : crlf [] = [] := rfl

/-- Line endings are replaced one by one, so a text can be taken apart at any place. -/
@[simp] theorem crlf_append (s t : Text) : crlf (s ++ t) = crlf s ++ crlf t := List.flatMap_append

/-- A line feed gets a carriage return in front of it. -/
@[simp] theorem crlf_lineFeed (t : Text) : crlf ('\n' :: t) = '\r' :: '\n' :: crlf t := rfl

/-- Inside a line nothing is replaced. -/
theorem crlf_of_clean {t : Text} (h : '\n' ∉ t) : crlf t = t := by
  induction t with
  | nil => rfl
  | cons c cs ih =>
    obtain ⟨hc, hcs⟩ := not_or.1 (mt List.mem_cons.2 h)
    rw [crlf, List.flatMap_cons, if_neg (Ne.symm hc)]
    exact congrArg (c :: ·) (ih hcs)

/-- Every line feed costs one byte, and their number stays. -/
theorem sizes_crlf (t : Text) :
    byteSize (crlf t) = byteSize t + lineFeeds t ∧ lineFeeds (crlf t) = lineFeeds t := by
  induction t using lineInduction with
  | last content hcontent =>
    rw [crlf_of_clean hcontent, lineFeeds_eq_zero hcontent]
    exact ⟨rfl, rfl⟩
  | line content rest hcontent ih =>
    obtain ⟨hsize, hfeeds⟩ := ih
    have hreturn : lineFeeds ('\r' :: '\n' :: crlf rest) = lineFeeds (crlf rest) + 1 := by
      rw [lineFeeds, List.count_cons_of_ne (by decide)]
      exact lineFeeds_lineFeed _
    rw [crlf_append, crlf_lineFeed, crlf_of_clean hcontent, lineFeeds_append, lineFeeds_append,
      lineFeeds_eq_zero hcontent, lineFeeds_lineFeed, hreturn, hfeeds]
    refine ⟨?_, rfl⟩
    simp only [byteSize_append, byteSize_cons, hsize, utf8Size_return, utf8Size_lineFeed]
    omega

/-- **A line stays the line it is,** with a carriage return at its end if a line feed follows. The
row reader drops the return again, but the line table and the excerpt do not, so both forms are kept
here. -/
theorem LineAt.crlf {t before content after : Text} (h : LineAt t before content after) :
    ∃ returned later, LineAt (crlf t) (crlf before) (content ++ returned) later ∧
      (returned = [] ∨ returned = ['\r']) := by
  induction h with
  | @first content after clean closes =>
    rcases closes with rfl | ⟨later, rfl⟩
    · have hline := LineAt.first clean (.inl rfl)
      refine ⟨[], [], ?_, .inl rfl⟩
      simpa [crlf_of_clean clean] using hline
    · refine ⟨['\r'], '\n' :: Text.crlf later, ?_, .inr rfl⟩
      have hclean : '\n' ∉ content ++ ['\r'] := by simp [clean]
      have hline := LineAt.first hclean (.inr ⟨Text.crlf later, rfl⟩)
      rw [crlf_append, crlf_lineFeed, crlf_of_clean clean]
      simpa using hline
  | behind front clean line ih =>
    obtain ⟨returned, later, hline, hreturned⟩ := ih
    refine ⟨returned, later, ?_, hreturned⟩
    have hclean : '\n' ∉ front ++ ['\r'] := by simp [clean]
    have hbehind := LineAt.behind (front ++ ['\r']) hclean hline
    rw [crlf_append, crlf_append, crlf_lineFeed, crlf_lineFeed, crlf_of_clean clean]
    simpa using hbehind

/-- An excerpt shows a line without the carriage return of its end, in either style. -/
theorem trimEnd_return {content returned : Text} (h : returned = [] ∨ returned = ['\r']) :
    trimEnd (· == '\r') (content ++ returned) = trimEnd (· == '\r') content := by
  rcases h with rfl | rfl
  · rw [List.append_nil]
  · rw [trimEnd, List.reverse_append, List.reverse_singleton, List.singleton_append,
      List.dropWhile_cons_of_pos (by decide)]
    rfl

end Text

namespace Table

open Text

/-- Rows are numbered upwards from the first. -/
theorem le_line_of_mem_rowsFrom {contents : List Text} :
    ∀ {line offset : Nat} {row : Row}, row ∈ rowsFrom line offset contents → line ≤ row.line := by
  induction contents with
  | nil => exact fun h => absurd h List.not_mem_nil
  | cons content contents ih =>
    intro line offset row h
    rw [rowsFrom, List.mem_cons] at h
    rcases h with rfl | h
    · exact Nat.le_refl _
    · exact Nat.le_of_succ_le (ih h)

/-- A line without carriage returns is read as it is. -/
theorem dropReturn_of_notMem {content : Text} (h : '\r' ∉ content) :
    dropReturn content = content :=
  dropReturn_of_getLast? fun hlast => h (List.mem_of_getLast? hlast)

/-- The rows of consecutive lines keep their texts and their numbers. What moves is their place: by
`bytes` for the text in front, and by one byte more for each line feed that was passed. -/
theorem rowsFrom_crlf {t : Text} (h : '\r' ∉ t) :
    ∀ line offset bytes, rowsFrom line (offset + bytes) (lineTexts (crlf t)) =
      (rowsFrom line offset (lineTexts t)).map fun row =>
        row.shift 0 (bytes + (row.line - line)) := by
  induction t using lineInduction with
  | last content hcontent =>
    intro line offset bytes
    rw [crlf_of_clean hcontent, lineTexts_last hcontent]
    split
    · rfl
    · have hrow := Row.ofLine_shift line offset 0 bytes (dropReturn content)
      simpa [rowsFrom, Row.ofLine] using hrow
  | line content rest hcontent ih =>
    intro line offset bytes
    obtain ⟨hcontent', hrest⟩ := not_or.1 (mt List.mem_append.2 h)
    have hclean : '\n' ∉ content ++ ['\r'] := by simp [hcontent]
    have htext : crlf (content ++ '\n' :: rest) = (content ++ ['\r']) ++ '\n' :: crlf rest := by
      rw [crlf_append, crlf_lineFeed, crlf_of_clean hcontent]
      simp
    have hplace : offset + bytes + byteSize (content ++ ['\r']) + 1 =
        offset + byteSize content + 1 + (bytes + 1) := by
      rw [byteSize_append, byteSize_cons, utf8Size_return, byteSize_nil]
      omega
    have hfirst : Row.ofLine line (offset + bytes) content =
        (Row.ofLine line offset content).shift 0 (bytes + (line - line)) := by
      rw [Nat.sub_self, Nat.add_zero]
      exact Row.ofLine_shift line offset 0 bytes content
    rw [htext, lineTexts_line _ hclean, lineTexts_line _ hcontent, rowsFrom, rowsFrom,
      dropReturn_append_return, dropReturn_of_notMem hcontent', hplace,
      ih fun hmem => hrest (List.mem_cons_of_mem _ hmem), List.map_cons, hfirst]
    refine congrArg (_ :: ·) (List.map_congr_left fun row hrow => ?_)
    -- A later row has had one more line feed in front of it.
    have hle := le_line_of_mem_rowsFrom hrow
    congr 1
    omega

/-- **Every row is moved by the line feeds in front of it,** and its cells hold what they held. -/
theorem rows_crlf {t : Text} (h : '\r' ∉ t) :
    rows (crlf t) = (rows t).map fun row => row.shift 0 (row.line - 1) := by
  have hrows := rowsFrom_crlf h 1 0 0
  simp only [Nat.zero_add] at hrows
  rw [rows, rows, hrows, List.map_drop]

/-- The place of an error that points at a row or a cell of it. -/
theorem exists_part_of_pointsAtParts {α : Type} {read : Row → Except Error α}
    (hread : PointsAtParts read) {t : Text} {row : Row} {error : Error} (hrow : row ∈ rows t)
    (herror : read row = .error error) :
    ∃ before content after front part behind, LineAt t before content after ∧
      content = front ++ part ++ behind ∧ error.span.start = byteSize before + byteSize front ∧
        error.span.stop = error.span.start + byteSize part ∧ row.line = lineFeeds before + 1 := by
  obtain ⟨before, content, after, hline, rfl⟩ := exists_lineAt_of_mem_rows hrow
  obtain ⟨returned, hcontent, -⟩ := exists_dropReturn_append content
  rcases hread _ _ herror with hspan | ⟨cell, hcell, hspan⟩
  · exact ⟨before, content, after, [], dropReturn content, returned, hline, hcontent,
      by rw [hspan]; rfl, by rw [hspan]; rfl, rfl⟩
  · obtain ⟨front, written, behind, hparts, hplace, -⟩ := exists_part_of_mem_ofLine hcell
    refine ⟨before, content, after, front, written, behind ++ returned, hline, ?_,
      by rw [hspan, hplace], by rw [hspan, hplace], rfl⟩
    rw [hcontent, hparts]
    simp

/-- A loader that does not mind the line endings of a text: the records are the same, and an error
is the same error, moved by the line feeds in front of it. -/
structure IgnoresLineEndings {α : Type} (load : Text → Except Error (List α)) (t : Text) :
    Prop where
  ok : ∀ items, load t = .ok items → load (crlf t) = .ok items
  error : ∀ error, load t = .error error → ∃ before behind, t = before ++ behind ∧
    error.span.start = byteSize before ∧
    load (crlf t) = .error (error.shift (lineFeeds before)) ∧
    ∀ path, ∃ report, (Failure.table error).report ⟨path, t⟩ = .ok report ∧
      (Failure.table (error.shift (lineFeeds before))).report ⟨path, crlf t⟩ = .ok report

/-- **A row loader ignores line endings.** The rows of both texts have the same cells, and a loader
looks at cells and spans only, so that an error differs by the shift of its row alone. -/
theorem RowLoader.ignoresLineEndings {α : Type} {load : Text → Except Error (List α)}
    {read : Row → Except Error (Option α)} (h : RowLoader load read) {t : Text} (ht : '\r' ∉ t) :
    IgnoresLineEndings load t := by
  have hmoved := collect_map_shift h.inPlace (fun _ => 0) (fun row => row.line - 1) (rows t)
  rw [← rows_crlf ht, ← h.byRows, ← h.byRows] at hmoved
  refine ⟨hmoved.1, fun error herror => ?_⟩
  obtain ⟨row, hrow, hread, hcrlf⟩ := hmoved.2 error herror
  obtain ⟨before, content, after, front, part, behind, hline, hcontent, hstart, hstop, hnumber⟩ :=
    exists_part_of_pointsAtParts h.points hrow hread
  obtain ⟨returned, later, hline', hreturned⟩ := hline.crlf
  have hclean : '\n' ∉ front := fun hmem => hline.clean (by simp [hcontent, hmem])
  have hfeeds : lineFeeds (before ++ front) = lineFeeds before := by
    rw [lineFeeds_append, lineFeeds_eq_zero hclean, Nat.add_zero]
  have hdistance : row.line - 1 = lineFeeds before := by omega
  refine ⟨before ++ front, part ++ behind ++ after, ?_, ?_, ?_, fun path => ?_⟩
  · rw [hline.eq, hcontent]
    simp
  · rw [hstart, byteSize_append]
  · rw [hcrlf, hdistance, hfeeds]
  · refine ⟨_, report_of_part path error hline hcontent hstart hstop, ?_⟩
    have hcontent' : content ++ returned = front ++ part ++ (behind ++ returned) := by
      rw [hcontent]
      simp
    obtain ⟨hsize, hsame⟩ := sizes_crlf before
    rw [hfeeds, report_of_part path _ hline' hcontent', trimEnd_return hreturned, hsame]
    · rfl
    · show error.span.start + lineFeeds before = _
      omega
    · show error.span.stop + lineFeeds before = error.span.start + lineFeeds before + _
      omega

end Table

namespace Generator

open Text Table

/-- What is reported of a row does not depend on its place, as long as its line has the same
number. -/
theorem rowEvent_shift (generator : Generator) (row : Row) (bytes : Nat) :
    generator.rowEvent (row.shift 0 bytes) =
      (generator.rowEvent row).mapError (·.shift bytes) := by
  cases generator with
  | referencePoints => exact ReferencePoint.readsInPlace_ofRow.map _ row 0 bytes
  | informationElements =>
    rw [rowEvent, rowEvent, InformationElement.readsInPlace_ofRow]
    cases InformationElement.ofRow row <;> rfl

/-- Moved rows are reported like those that have not been moved. -/
theorem rowEvents_map_shift (generator : Generator) (bytes : Row → Nat) (rows : List Row) :
    generator.rowEvents (rows.map fun row => row.shift 0 (bytes row)) =
      generator.rowEvents rows := by
  induction rows with
  | nil => rfl
  | cons row rows ih =>
    rw [List.map_cons, rowEvents, rowEvents, rowEvent_shift, ih]
    cases generator.rowEvent row <;> rfl

/-- **A table that loads is generated from in the same way,** whatever its line endings: with the
same files read and written, the same echo, events and count. -/
theorem generate_crlf {generator : Generator} {t : Text} {records : List Record} (ht : '\r' ∉ t)
    (h : generator.load t = .ok records) {m : Type → Type} [Monad m] [Storage m] (paths : Paths)
    (echo : Option Sink) :
    (generate generator (crlf t) paths echo : m Generation) = generate generator t paths echo := by
  have hcrlf := (generator.rowLoader.ignoresLineEndings ht).ok records h
  have hevents : generator.loadEvents (crlf t) = generator.loadEvents t := by
    rw [loadEvents, loadEvents, hcrlf, h, rows_crlf ht, rowEvents_map_shift]
  simp only [generate, hcrlf, h, hevents]

end Generator

open Text Table

/-- **Line endings do not matter.** A table without carriage returns and the same table with one in
front of every line feed load to the same records, and are then generated from in the same way; or
both fail, with the same error at the same place and with the same report. -/
theorem load_crlf {t : Text} (ht : '\r' ∉ t) :
    IgnoresLineEndings ReferencePoint.load t ∧ IgnoresLineEndings InformationElement.load t ∧
      ∀ generator : Generator, IgnoresLineEndings generator.load t ∧
        ((∃ records, generator.load t = .ok records) →
          ∀ {m : Type → Type} [Monad m] [Storage m] (paths : Paths) (echo : Option Sink),
            (generate generator (crlf t) paths echo : m Generation) =
              generate generator t paths echo) := by
  refine ⟨ReferencePoint.rowLoader.ignoresLineEndings ht,
    InformationElement.rowLoader.ignoresLineEndings ht,
    fun generator => ⟨generator.rowLoader.ignoresLineEndings ht, ?_⟩⟩
  rintro ⟨records, hload⟩ m _ _ paths echo
  exact generator.generate_crlf ht hload paths echo

/-- A bad type code in quotes behind a row that is passed over, and a table whose last line has no
end. -/
theorem load_crlf_quoted_code :
    ('\r' ∉ "h\nx\n\t\"é\t9\"\t\t\t\t\t\t\t\t\t\t\t\t\t\t\t\n".toList ∧
      InformationElement.load "h\nx\n\t\"é\t9\"\t\t\t\t\t\t\t\t\t\t\t\t\t\t\t\n".toList =
        .error ⟨⟨5, 11⟩, .invalidTypeCode "é\t9".toList⟩ ∧
      IgnoresLineEndings InformationElement.load
        "h\nx\n\t\"é\t9\"\t\t\t\t\t\t\t\t\t\t\t\t\t\t\t\n".toList) ∧
    '\r' ∉ "h\nUu\tp\te\td\tr\nX2\tp\te\td\tr".toList ∧
      (∃ records, Generator.referencePoints.load "h\nUu\tp\te\td\tr\nX2\tp\te\td\tr".toList =
        .ok records) ∧
      ∀ (paths : Paths) (echo : Option Sink),
        (generate .referencePoints (crlf "h\nUu\tp\te\td\tr\nX2\tp\te\td\tr".toList) paths echo :
            StateM FileTree Generation) =
          generate .referencePoints "h\nUu\tp\te\td\tr\nX2\tp\te\td\tr".toList paths echo := by
  have hpoints : ReferencePoint.load "h\nUu\tp\te\td\tr\nX2\tp\te\td\tr".toList =
      .ok [⟨"Uu".toList, [['p']], [['e']], ['d'], [['r']]⟩,
        ⟨"X2".toList, [['p']], [['e']], ['d'], [['r']]⟩] := by decide +kernel
  have hload : ∃ records, Generator.referencePoints.load
      "h\nUu\tp\te\td\tr\nX2\tp\te\td\tr".toList = .ok records :=
    ⟨_, by rw [Generator.load, hpoints]; rfl⟩
  exact ⟨⟨by decide, by decide +kernel, (load_crlf (by decide)).2.1⟩, by decide, hload,
    fun paths echo => ((load_crlf (by decide)).2.2 .referencePoints).2 hload paths echo⟩

end TableCodegen
