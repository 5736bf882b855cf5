import TableCodegen.Proofs.Places
import TableCodegen.Table.Rows

/-!
# The lines of a text

A text is a chain of lines: content without a line feed, a line feed, and the rest. The row reader
and the line table both walk this chain, each in its own way, and what they have in common is told
here once.

`LineAt t before content after` says that `content` is a line of `t`, with `before` in front of it,
up to the last line feed, and `after` behind it, from its own line feed on. Its place is
`byteSize before`, and its index is the number of line feeds in `before`. Every row of a table
stands on such a line (`exists_lineAt_of_mem_rows`).
-/

namespace TableCodegen
namespace Text

/-- A line of a text: what stands in front of it, on it and behind it. -/
inductive LineAt : (t before content after : Text) → Prop where
  /-- The first line. -/
  | first {content after : Text} (clean : '\n' ∉ content)
      (closes : after = [] ∨ ∃ later, after = '\n' :: later) :
      LineAt (content ++ after) [] content after
  /-- A line behind the first one. -/
  | behind {t before content after : Text} (front : Text) (clean : '\n' ∉ front)
      (line : LineAt t before content after) :
      LineAt (front ++ '\n' :: t) (front ++ '\n' :: before) content after

/-- **A text is a chain of lines.** The last one, which may be empty, has no line feed; every other
is a line in front of a shorter text. -/
@[elab_as_elim]
theorem lineInduction {motive : Text → Prop}
    (last : ∀ content, '\n' ∉ content → motive content)
    (line : ∀ content rest, '\n' ∉ content → motive rest → motive (content ++ '\n' :: rest))
    (t : Text) : motive t := by
  by_cases h : '\n' ∈ t
  · obtain ⟨content, rest, ht, hcontent⟩ := List.eq_append_cons_of_mem h
    rw [ht]
    exact line content rest hcontent (lineInduction last line rest)
  · exact last t h
termination_by t.length
decreasing_by
  rw [ht]
  simp only [List.length_append, List.length_cons]
  omega

/-- Content of a line counts no line feed. -/
theorem lineFeeds_eq_zero {t : Text} (h : '\n' ∉ t) : lineFeeds t = 0 := List.count_eq_zero.2 h

/-- Line feeds are counted part by part. -/
@[simp] theorem lineFeeds_append (s t : Text) : lineFeeds (s ++ t) = lineFeeds s + lineFeeds t :=
  List.count_append

@[simp] theorem lineFeeds_nil : lineFeeds [] = 0 := rfl

/-- A line feed in front is one more. -/
@[simp] theorem lineFeeds_lineFeed (t : Text) : lineFeeds ('\n' :: t) = lineFeeds t + 1 :=
  List.count_cons_self

/-- The three parts are the whole text, in this order and with nothing between them. -/
theorem LineAt.eq {t before content after : Text} (h : LineAt t before content after) :
    t = before ++ content ++ after := by
  induction h with
  | first => rfl
  | behind front _ _ ih => simp [ih]

/-- The content of a line has no line feed, so a line never goes on beyond its own. -/
theorem LineAt.clean {t before content after : Text} (h : LineAt t before content after) :
    '\n' ∉ content := by
  induction h with
  | first clean => exact clean
  | behind _ _ _ ih => exact ih

/-- **Every place of a text is in a line,** at its end if it is the place of a line feed. The place
need not be a boundary between characters: only the ends of the line are. -/
theorem exists_lineAt_of_le {t : Text} :
    ∀ {place : Nat}, place ≤ byteSize t → ∃ before content after, LineAt t before content after ∧
      byteSize before ≤ place ∧ place ≤ byteSize before + byteSize content := by
  induction t using lineInduction with
  | last content hcontent =>
    intro place hplace
    refine ⟨[], content, [], ?_, Nat.zero_le _, ?_⟩
    · simpa using LineAt.first hcontent (.inl rfl)
    · rw [byteSize_nil, Nat.zero_add]
      exact hplace
  | line content rest hcontent ih =>
    intro place hplace
    by_cases hfirst : place ≤ byteSize content
    · refine ⟨[], content, '\n' :: rest, .first hcontent (.inr ⟨rest, rfl⟩), Nat.zero_le _, ?_⟩
      rw [byteSize_nil, Nat.zero_add]
      exact hfirst
    · simp only [byteSize_append, byteSize_cons, utf8Size_lineFeed] at hplace
      have hrest : place - byteSize content - 1 ≤ byteSize rest := by omega
      obtain ⟨before, content', after, hline, hstart, hstop⟩ := ih hrest
      refine ⟨content ++ '\n' :: before, content', after, .behind content hcontent hline, ?_⟩
      simp only [byteSize_append, byteSize_cons, utf8Size_lineFeed]
      omega

/-- What stands on a line in front of a part is cut out from the start of the line. -/
theorem LineAt.slice?_front {t before content after front part behind : Text}
    (h : LineAt t before content after) (hcontent : content = front ++ part ++ behind)
    {start : Nat} (hstart : start = byteSize before + byteSize front) :
    slice? (byteSize before) start t = some front :=
  slice?_of_eq_append _ (part ++ behind ++ after) (by simp [h.eq, hcontent]) rfl hstart

/-- A part of a line is cut out from its own place. -/
theorem LineAt.slice?_part {t before content after front part behind : Text}
    (h : LineAt t before content after) (hcontent : content = front ++ part ++ behind)
    {start stop : Nat} (hstart : start = byteSize before + byteSize front)
    (hstop : stop = start + byteSize part) : slice? start stop t = some part :=
  slice?_of_eq_append (before ++ front) (behind ++ after)
    (by simp [h.eq, hcontent]) (by rw [hstart, byteSize_append]) hstop

/-- The content of a line stands in the list of lines at the number of line feeds in front. -/
theorem LineAt.splitOn_getElem? {t before content after : Text}
    (h : LineAt t before content after) :
    (t.splitOn '\n')[lineFeeds before]? = some content := by
  induction h with
  | first clean closes =>
    obtain rfl | ⟨later, rfl⟩ := closes
    · rw [List.append_nil, List.splitOn_eq_singleton clean]
      rfl
    · rw [List.splitOn_append_cons_self_of_not_mem clean]
      rfl
  | behind front clean line ih =>
    rw [List.splitOn_append_cons_self_of_not_mem clean, lineFeeds_append, lineFeeds_eq_zero clean,
      lineFeeds_lineFeed, Nat.zero_add, List.getElem?_cons_succ, ih]

end Text

namespace Table

open Text

/-! ### What the row reader makes of it -/

/-- The row reader takes content up to its line feed as a line, drops the line feed, and goes on
with the rest. -/
theorem lineTexts_line {content : Text} (rest : Text) (h : '\n' ∉ content) :
    lineTexts (content ++ '\n' :: rest) = content :: lineTexts rest := by
  induction content with
  | nil => rfl
  | cons c cs ih =>
    obtain ⟨hc, hcs⟩ := not_or.1 (mt List.mem_cons.2 h)
    rw [List.cons_append, lineTexts, if_neg (Ne.symm hc), ih hcs, consHead]

/-- The last line is none when it is empty. -/
theorem lineTexts_last {content : Text} (h : '\n' ∉ content) :
    lineTexts content = if content = [] then [] else [content] := by
  induction content with
  | nil => rfl
  | cons c cs ih =>
    obtain ⟨hc, hcs⟩ := not_or.1 (mt List.mem_cons.2 h)
    rw [lineTexts, if_neg (Ne.symm hc), ih hcs, if_neg (List.cons_ne_nil c cs)]
    split
    · rename_i hnil
      rw [hnil, consHead]
    · rfl

/-- At most one carriage return is dropped, and only from the end. -/
theorem exists_dropReturn_append (content : Text) :
    ∃ returned, content = dropReturn content ++ returned ∧ (returned = [] ∨ returned = ['\r']) := by
  fun_induction dropReturn content with
  | case1 => exact ⟨[], rfl, .inl rfl⟩
  | case2 => exact ⟨['\r'], rfl, .inr rfl⟩
  | case3 c cs h ih =>
    obtain ⟨returned, hcs, hreturned⟩ := ih
    exact ⟨returned, congrArg (c :: ·) hcs, hreturned⟩

/-- The header takes the first line, and the rows stand on the lines behind it. -/
theorem rows_header {header : Text} (body : Text) (h : '\n' ∉ header) :
    rows (header ++ '\n' :: body) = rowsFrom 2 (byteSize header + 1) (lineTexts body) := by
  rw [rows, lineTexts_line body h, rowsFrom, List.drop_one, List.tail_cons, Nat.zero_add]

/-- Without a line feed there is at most a header. -/
theorem rows_of_header {t : Text} (h : '\n' ∉ t) : rows t = [] := by
  rw [rows, lineTexts_last h]
  split <;> rfl

/-- **Rows stand on lines.** Behind the text `front`, which the rows' number and place count in,
every row is the row of a line. -/
theorem exists_lineAt_of_mem_rowsFrom {t : Text} :
    ∀ (front : Text) {row : Row},
      row ∈ rowsFrom (lineFeeds front + 1) (byteSize front) (lineTexts t) →
        ∃ before content after, LineAt t before content after ∧
          row = Row.ofLine (lineFeeds (front ++ before) + 1) (byteSize (front ++ before))
            (dropReturn content) := by
  induction t using lineInduction with
  | last content hcontent =>
    intro front row hrow
    rw [lineTexts_last hcontent] at hrow
    split at hrow
    · exact absurd hrow List.not_mem_nil
    · rw [rowsFrom, rowsFrom, List.mem_singleton] at hrow
      exact ⟨[], content, [], by simpa using LineAt.first hcontent (.inl rfl), by simpa using hrow⟩
  | line content rest hcontent ih =>
    intro front row hrow
    rw [lineTexts_line rest hcontent, rowsFrom, List.mem_cons] at hrow
    obtain hrow | hrow := hrow
    · exact ⟨[], content, '\n' :: rest,
        .first hcontent (.inr ⟨rest, rfl⟩), by simpa using hrow⟩
    · have hfront : byteSize front + byteSize content + 1 = byteSize (front ++ content ++ ['\n']) ∧
          lineFeeds front + 1 = lineFeeds (front ++ content ++ ['\n']) := by
        constructor
        · simp [Nat.add_assoc]
        · simp [lineFeeds_eq_zero hcontent]
      rw [hfront.1, hfront.2] at hrow
      obtain ⟨before, content', after, hline, rfl⟩ := ih _ hrow
      exact ⟨content ++ '\n' :: before, content', after, .behind content hcontent hline, by simp⟩

/-- **Every row of a table is the row of a line behind the header.** -/
theorem exists_lineAt_of_mem_rows {t : Text} {row : Row} (h : row ∈ rows t) :
    ∃ before content after, LineAt t before content after ∧
      row = Row.ofLine (lineFeeds before + 1) (byteSize before) (dropReturn content) :=
  exists_lineAt_of_mem_rowsFrom [] (List.mem_of_mem_drop h)

end Table
end TableCodegen
