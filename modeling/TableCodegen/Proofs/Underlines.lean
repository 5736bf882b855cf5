import TableCodegen.Proofs.Excerpts
import TableCodegen.Proofs.Trimming

/-!
# Which spans have an excerpt, and what it underlines

A span is looked at in four steps: whether it stops in front of its start, whether it starts behind
the text, whether it stops behind the line it starts in, and whether it cuts a character. A span
that passes is a part of one line, and its excerpt shows the line with the part underlined: the
carets stand below the characters of the part, however many digits the number of the line has and
however many bytes the characters in front of the part take.

`SpanOutcome` tells this of the text around the span, without a line table, and
`excerpt_spanOutcome` says that it is what becomes of every span.
-/

namespace TableCodegen
namespace Text

/-- A place between two characters of a text, or at one of its ends. -/
def IsBoundary (t : Text) (place : Nat) : Prop :=
  ∃ front behind, t = front ++ behind ∧ byteSize front = place

/-- The line that holds a place of a text. It goes up to its line feed or the end of the text, and
the place of the line feed is its own. -/
structure LineAround (t : Text) (place : Nat) (before content after : Text) : Prop where
  line : LineAt t before content after
  start_le : byteSize before ≤ place
  le_stop : place ≤ byteSize before + byteSize content

/-- Lines one below the other, each with its line feed. -/
def unlines (lines : List Text) : Text := lines.flatMap (· ++ ['\n'])

/-- **A span inside a line whose ends are boundaries is a part of the line.** The ends of the line
are boundaries too, so the three parts are texts and not only bytes. -/
theorem LineAround.exists_part {t before content after : Text} {start stop : Nat}
    (h : LineAround t start before content after) (hordered : start ≤ stop)
    (hinside : stop ≤ byteSize before + byteSize content) (hstart : IsBoundary t start)
    (hstop : IsBoundary t stop) :
    ∃ front part behind, content = front ++ part ++ behind ∧
      start = byteSize (before ++ front) ∧ stop = byteSize (before ++ front ++ part) := by
  obtain ⟨head, rest, ht, rfl⟩ := hstart
  obtain ⟨head', rest', ht', rfl⟩ := hstop
  have hline : before ++ (content ++ after) = t := by
    rw [h.line.eq, List.append_assoc]
  obtain ⟨front, rfl, -⟩ := exists_part_of_byteSize_le (hline.trans ht) h.start_le
  obtain ⟨part, rfl, -⟩ := exists_part_of_byteSize_le (ht.symm.trans ht') hordered
  have hrest : before ++ front ++ part ++ rest' = before ++ content ++ after := by
    rw [← ht', h.line.eq]
  rw [← byteSize_append] at hinside
  obtain ⟨behind, hbehind, -⟩ := exists_part_of_byteSize_le hrest hinside
  refine ⟨front, part, behind, ?_, rfl, rfl⟩
  simpa [List.append_assoc] using hbehind

/-- Carriage returns at the end are cut off. -/
theorem trimEnd_returns {shown : Text} (returns : Nat) (h : shown.getLast? ≠ some '\r') :
    trimEnd (· == '\r') (shown ++ List.replicate returns '\r') = shown := by
  rw [trimEnd_append shown fun c hc => by simp [List.eq_of_mem_replicate hc]]
  exact trimEnd_eq_self fun c hc => by
    rw [beq_eq_false_iff_ne]
    rintro rfl
    exact h hc

/-- Content is what an excerpt shows of it and the carriage returns at its end, however many there
are. -/
theorem exists_eq_append_returns (content : Text) :
    ∃ shown returns, content = shown ++ List.replicate returns '\r' ∧
      shown.getLast? ≠ some '\r' := by
  obtain ⟨tail, htail, hreturns⟩ := exists_trimEnd_append (· == '\r') content
  refine ⟨trimEnd (· == '\r') content, tail.length, ?_, fun hlast => ?_⟩
  · rwa [← List.eq_replicate_of_mem fun c hc => eq_of_beq (hreturns c hc)]
  · exact absurd (of_mem_getLast?_trimEnd hlast) (by decide)

end Text

namespace Document

open Text

/-- Where an excerpt is from. The last column is given when there is more than one. -/
def placeLine (path : Text) (line column width : Nat) : Text :=
  "at ".toList ++ path ++ [' '] ++ decimal line ++ [':'] ++ decimal column
    ++ if width > 1 then '-' :: decimal (column + width - 1) else []

/-- A line as it is shown, behind its number. -/
def numberedLine (line : Nat) (shown : Text) : Text := decimal line ++ " | ".toList ++ shown

/-- Carets below so many characters of a numbered line, from a column on. -/
def caretLine (line column width : Nat) : Text :=
  List.replicate ((decimal line).length + 3 + (column - 1)) ' ' ++ List.replicate width '^'

/-- A span is the part `part` of a line, with `before` in front of the line and `front` between its
start and the part. The line is shown as `shown`, without the carriage returns at its end. -/
structure Marks (t : Text) (span : Span) (before front part shown : Text) : Prop where
  line : ∃ behind after returns, LineAt t before (front ++ part ++ behind) after ∧
    front ++ part ++ behind = shown ++ List.replicate returns '\r'
  trimmed : shown.getLast? ≠ some '\r'
  start : span.start = byteSize (before ++ front)
  stop : span.stop = byteSize (before ++ front ++ part)

/-- What becomes of a span, by what it is looked at for in turn. -/
inductive SpanOutcome (path t : Text) (span : Span) : Except SpanFault Text → Prop where
  | reversed (hreversed : span.stop < span.start) : SpanOutcome path t span (.error .reversed)
  | beyond (hordered : span.start ≤ span.stop) (hbeyond : byteSize t < span.start) :
      SpanOutcome path t span (.error (.beyond (lineFeeds t + 1)))
  | acrossLines {before content after : Text} (hordered : span.start ≤ span.stop)
      (hline : LineAround t span.start before content after)
      (hacross : byteSize before + byteSize content < span.stop) :
      SpanOutcome path t span (.error .acrossLines)
  | insideCharacter {before content after : Text} (hordered : span.start ≤ span.stop)
      (hline : LineAround t span.start before content after)
      (hinside : span.stop ≤ byteSize before + byteSize content)
      (hcuts : ¬ (IsBoundary t span.start ∧ IsBoundary t span.stop)) :
      SpanOutcome path t span (.error .insideCharacter)
  /-- The line has as many line feeds in front of it as the span, and the columns are counted in
  characters from the start of the line. -/
  | shown {before front part shown : Text} (hmarks : Marks t span before front part shown) :
      SpanOutcome path t span (.ok (unlines [
        placeLine path (1 + lineFeeds (before ++ front)) (1 + front.length) (max 1 part.length),
        numberedLine (1 + lineFeeds (before ++ front)) shown,
        caretLine (1 + lineFeeds (before ++ front)) (1 + front.length) (max 1 part.length)]))

/-- **The three lines of an excerpt:** where it is, the line with its number, and the carets below.
The gap in front of the carets is as wide as the number and what stands around it, so it goes with
the digits of the number. -/
theorem showExcerpt_eq (path : Text) (line front width : Nat) (content : Text) :
    showExcerpt path line (1 + front) width content =
      unlines [placeLine path line (1 + front) width, numberedLine line content,
        caretLine line (1 + front) width] := by
  have hindent : (decimal line).length + 3 + (1 + front) - 1 =
      (decimal line).length + 3 + (1 + front - 1) := by omega
  unfold showExcerpt unlines placeLine numberedLine caretLine
  rw [hindent]
  simp

/-- **A marked part has its excerpt.** -/
theorem Marks.excerpt_eq {t before front part shown : Text} {span : Span}
    (h : Marks t span before front part shown) (path : Text) :
    excerpt ⟨path, t⟩ span = .ok (unlines [
      placeLine path (1 + lineFeeds (before ++ front)) (1 + front.length) (max 1 part.length),
      numberedLine (1 + lineFeeds (before ++ front)) shown,
      caretLine (1 + lineFeeds (before ++ front)) (1 + front.length) (max 1 part.length)]) := by
  obtain ⟨behind, after, returns, hline, hshown⟩ := h.line
  have hstart : span.start = byteSize before + byteSize front := by
    rw [h.start, byteSize_append]
  have hstop : span.stop = span.start + byteSize part := by
    rw [h.stop, h.start, byteSize_append (before ++ front)]
  have hclean : '\n' ∉ front := fun hfeed => hline.clean (by simp [hfeed])
  have hnumber : lineFeeds before + 1 = 1 + lineFeeds (before ++ front) := by
    rw [lineFeeds_append, lineFeeds_eq_zero hclean, Nat.add_comm]
    rfl
  rw [excerpt_part hline rfl hstart hstop, hshown, trimEnd_returns returns h.trimmed,
    Nat.add_comm front.length, showExcerpt_eq, hnumber, Nat.max_comm]

/-- A span that starts in a line and stops behind it is refused. -/
theorem excerpt_acrossLines {path t before content after : Text} {span : Span}
    (hordered : span.start ≤ span.stop) (hline : LineAround t span.start before content after)
    (hacross : byteSize before + byteSize content < span.stop) :
    excerpt ⟨path, t⟩ span = .error .acrossLines := by
  rw [excerpt, if_neg (Nat.not_lt.2 hordered),
    findLine_lineTable hline.line hline.start_le hline.le_stop]
  simp only [lineTable_getElem? hline.line]
  rw [if_pos hacross]
  rfl

/-- A span inside a line that cuts a character is refused. -/
theorem excerpt_insideCharacter {path t before content after : Text} {span : Span}
    (hordered : span.start ≤ span.stop) (hline : LineAround t span.start before content after)
    (hinside : span.stop ≤ byteSize before + byteSize content)
    (hcuts : ¬ (IsBoundary t span.start ∧ IsBoundary t span.stop)) :
    excerpt ⟨path, t⟩ span = .error .insideCharacter := by
  rw [excerpt, if_neg (Nat.not_lt.2 hordered),
    findLine_lineTable hline.line hline.start_le hline.le_stop]
  simp only [lineTable_getElem? hline.line]
  rw [if_neg (Nat.not_lt.2 hinside)]
  -- If nothing else failed, the cut of the part would show that both ends are boundaries.
  cases hpart : slice? span.start span.stop t with
  | none => cases slice? (byteSize before) span.start t <;> rfl
  | some part =>
    obtain ⟨front, behind, ht, hstart, hstop⟩ := exists_eq_append_of_slice? hpart
    refine absurd ⟨⟨front, part ++ behind, ?_, hstart.symm⟩, front ++ part, behind, ht, ?_⟩ hcuts
    · rw [ht, List.append_assoc]
    · rw [byteSize_append, hstop, hstart]

/-- Every outcome is the one that `excerpt` has. -/
theorem SpanOutcome.excerpt_eq {path t : Text} {span : Span} {result : Except SpanFault Text}
    (h : SpanOutcome path t span result) : excerpt ⟨path, t⟩ span = result := by
  cases h with
  | reversed hreversed =>
    rw [excerpt, if_pos hreversed]
    rfl
  | beyond hordered hbeyond =>
    rw [excerpt, if_neg (Nat.not_lt.2 hordered), findLine_lineTable_beyond hbeyond]
    rfl
  | acrossLines hordered hline hacross => exact excerpt_acrossLines hordered hline hacross
  | insideCharacter hordered hline hinside hcuts =>
    exact excerpt_insideCharacter hordered hline hinside hcuts
  | shown hmarks => exact hmarks.excerpt_eq path

/-- **Every span has an outcome.** The conditions are asked in the order of the program, and what
passes all of them is shown. -/
theorem exists_spanOutcome (path t : Text) (span : Span) :
    ∃ result, SpanOutcome path t span result := by
  by_cases hreversed : span.stop < span.start
  · exact ⟨_, .reversed hreversed⟩
  have hordered := Nat.le_of_not_lt hreversed
  by_cases hbeyond : byteSize t < span.start
  · exact ⟨_, .beyond hordered hbeyond⟩
  obtain ⟨before, content, after, hat, hstart, hstop⟩ :=
    exists_lineAt_of_le (Nat.le_of_not_lt hbeyond)
  have hline : LineAround t span.start before content after := ⟨hat, hstart, hstop⟩
  by_cases hacross : byteSize before + byteSize content < span.stop
  · exact ⟨_, .acrossLines hordered hline hacross⟩
  have hinside := Nat.le_of_not_lt hacross
  by_cases hcuts : IsBoundary t span.start ∧ IsBoundary t span.stop
  · obtain ⟨front, part, behind, rfl, hfront, hpart⟩ :=
      hline.exists_part hordered hinside hcuts.1 hcuts.2
    obtain ⟨shown, returns, hshown, htrimmed⟩ := exists_eq_append_returns (front ++ part ++ behind)
    exact ⟨_, .shown ⟨⟨behind, after, returns, hat, hshown⟩, htrimmed, hfront, hpart⟩⟩
  · exact ⟨_, .insideCharacter hordered hline hinside hcuts⟩

/-- Below the first caret the line as it is shown has the first character of the part. -/
theorem Marks.isPrefix_drop {t before front part shown : Text} {span : Span}
    (h : Marks t span before front part shown)
    (hreturns : part = [] ∨ span.stop ≤ byteSize before + byteSize shown) :
    part <+: shown.drop front.length := by
  obtain rfl | hreturns := hreturns
  · exact List.nil_prefix
  obtain ⟨behind, after, returns, -, hshown⟩ := h.line
  rw [h.stop, List.append_assoc, byteSize_append, Nat.add_le_add_iff_left] at hreturns
  obtain ⟨rest, rfl, -⟩ := exists_part_of_byteSize_le hshown hreturns
  rw [List.append_assoc, List.drop_left]
  exact List.prefix_append ..

/-- The spaces in front of the carets are as many as the characters in front of the part. -/
theorem drop_numberedLine (line front width : Nat) (shown : Text) :
    (numberedLine line shown).drop
        ((caretLine line (1 + front) (max 1 width)).takeWhile (· == ' ')).length =
      shown.drop front := by
  obtain ⟨more, hmore⟩ : ∃ more, max 1 width = more + 1 := ⟨max 1 width - 1, by omega⟩
  have hindent : ((caretLine line (1 + front) (max 1 width)).takeWhile (· == ' ')).length =
      (decimal line ++ " | ".toList).length + front := by
    rw [caretLine, hmore, List.replicate_succ, List.takeWhile_append_of_pos (by simp),
      List.takeWhile_cons_of_neg (by decide), List.append_nil, List.length_replicate,
      List.length_append, Nat.add_sub_cancel_left]
    rfl
  rw [hindent, numberedLine, List.drop_length_add_append]

/-- **Every span has the outcome that the text around it tells, and the carets stand below the
span:** behind as many characters as there are spaces in front of the carets, the line as it is
shown goes on with what the span cuts out of the text, unless the span reaches into the carriage
returns that are not shown. -/
theorem excerpt_spanOutcome (path t : Text) (span : Span) :
    (∀ result, excerpt ⟨path, t⟩ span = result ↔ SpanOutcome path t span result) ∧
    ∀ before front part shown, Marks t span before front part shown →
      slice? span.start span.stop t = some part ∧
      (part = [] ∨ span.stop ≤ byteSize before + byteSize shown →
        part <+: (numberedLine (1 + lineFeeds (before ++ front)) shown).drop
          ((caretLine (1 + lineFeeds (before ++ front)) (1 + front.length)
            (max 1 part.length)).takeWhile (· == ' ')).length) := by
  constructor
  · intro result
    refine ⟨fun hresult => ?_, SpanOutcome.excerpt_eq⟩
    obtain ⟨result', houtcome⟩ := exists_spanOutcome path t span
    rwa [← hresult, houtcome.excerpt_eq]
  · intro before front part shown hmarks
    obtain ⟨behind, after, -, hline, -⟩ := hmarks.line
    refine ⟨?_, fun hreturns => ?_⟩
    · refine slice?_of_eq_append (before ++ front) (behind ++ after) ?_ hmarks.start ?_
      · simp [hline.eq]
      · rw [hmarks.stop, hmarks.start, byteSize_append (before ++ front)]
    · rw [drop_numberedLine]
      exact hmarks.isPrefix_drop hreturns

/-- Two characters of five bytes, behind one of three bytes, on a line that ends in two carriage
returns. -/
theorem excerpt_spanOutcome_multibyte :
    Marks "h\nS1’\té€x\r\r\n".toList ⟨8, 13⟩ "h\n".toList "S1’\t".toList "é€".toList
        "S1’\té€x".toList ∧
      SpanOutcome "t.tsv".toList "h\nS1’\té€x\r\r\n".toList ⟨8, 13⟩
        (.ok "at t.tsv 2:5-6\n2 | S1’\té€x\n        ^^\n".toList) ∧
      "é€".toList <+: (numberedLine 2 "S1’\té€x".toList).drop
        ((caretLine 2 5 2).takeWhile (· == ' ')).length := by
  have hclean : '\n' ∉ "S1’\té€x\r\r".toList := by decide
  have hline : LineAt "h\nS1’\té€x\r\r\n".toList "h\n".toList "S1’\té€x\r\r".toList ['\n'] :=
    .behind ['h'] (by decide) (.first hclean (.inr ⟨[], rfl⟩))
  have hmarks : Marks "h\nS1’\té€x\r\r\n".toList ⟨8, 13⟩ "h\n".toList "S1’\t".toList "é€".toList
      "S1’\té€x".toList :=
    ⟨⟨"x\r\r".toList, ['\n'], 2, hline, rfl⟩, by decide, by decide, by decide⟩
  obtain ⟨houtcome, hbelow⟩ :=
    excerpt_spanOutcome "t.tsv".toList "h\nS1’\té€x\r\r\n".toList ⟨8, 13⟩
  exact ⟨hmarks, (houtcome _).1 (hmarks.excerpt_eq _),
    (hbelow _ _ _ _ hmarks).2 (.inr (by decide))⟩

end Document
end TableCodegen
