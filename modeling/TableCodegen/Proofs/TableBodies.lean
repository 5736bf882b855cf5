import Mathlib.Data.List.Basic
import TableCodegen.Proofs.Lines
import TableCodegen.Proofs.Shifts

/-!
# Tables one behind the other

The rows of a body behind another one are its own rows, so many lines and bytes further on. Nothing
is kept between two rows: neither an open quote nor anything else crosses the end of a line. So a
loader that goes row by row takes two bodies one behind the other to the records of the one and then
those of the other, and the first row that fails decides.

`Concatenates` says this of a loader at one border, and `load_append` of both loaders at every
border.
-/

namespace TableCodegen
namespace Text

/-- A text of complete lines: empty, or with a line feed at its end. -/
def Complete (t : Text) : Prop := t = [] ∨ t.getLast? = some '\n'

/-- The only complete text on one line is the empty one, as any other would lack its line feed. -/
theorem Complete.eq_nil {t : Text} (h : Complete t) (hclean : '\n' ∉ t) : t = [] := by
  rcases h with h | h
  · exact h
  · exact absurd (List.mem_of_getLast? h) hclean

/-- Behind a line of a complete text the rest is complete. -/
theorem Complete.of_line {content rest : Text} (h : Complete (content ++ '\n' :: rest)) :
    Complete rest := by
  rcases h with h | h
  · simp at h
  · cases rest with
    | nil => exact .inl rfl
    | cons c cs =>
      refine .inr ?_
      rwa [List.getLast?_append, List.getLast?_cons_cons,
        List.getLast?_eq_some_getLast (List.cons_ne_nil c cs), Option.some_or,
        ← List.getLast?_eq_some_getLast] at h

end Text

namespace Table

open Text

/-- **Complete lines in front move the rows behind them,** and do nothing else to them. Lines that
are not complete would run into the text behind, so that the last one of them had a longer row. -/
theorem rowsFrom_lineTexts_append {front : Text} (h : Complete front) (behind : Text) :
    ∀ line offset, rowsFrom line offset (lineTexts (front ++ behind)) =
      rowsFrom line offset (lineTexts front) ++
        rowsFrom (line + lineFeeds front) (offset + byteSize front) (lineTexts behind) := by
  induction front using lineInduction with
  | last content hcontent =>
    intro line offset
    obtain rfl := h.eq_nil hcontent
    rfl
  | line content rest hcontent ih =>
    intro line offset
    have hlines : line + lineFeeds (content ++ '\n' :: rest) = line + 1 + lineFeeds rest := by
      rw [lineFeeds_append, lineFeeds_eq_zero hcontent, lineFeeds_lineFeed]
      omega
    have hplace : offset + byteSize (content ++ '\n' :: rest) =
        offset + byteSize content + 1 + byteSize rest := by
      rw [byteSize_append, byteSize_cons, utf8Size_lineFeed]
      omega
    rw [List.append_assoc, List.cons_append, lineTexts_line _ hcontent, lineTexts_line _ hcontent,
      rowsFrom, rowsFrom, ih h.of_line, hlines, hplace]
    rfl

/-- **The rows of a body behind complete lines** are its own rows, moved. -/
theorem rows_append {header front : Text} (hheader : '\n' ∉ header) (hfront : Complete front)
    (behind : Text) :
    rows (header ++ '\n' :: (front ++ behind)) =
      rows (header ++ '\n' :: front) ++ (rows (header ++ '\n' :: behind)).map
        fun row => row.shift (lineFeeds front) (byteSize front) := by
  rw [rows_header _ hheader, rows_header _ hheader, rows_header _ hheader,
    rowsFrom_lineTexts_append hfront, rowsFrom_shift]

/-- What a loader makes of a body `behind` another one `front`, under a header line. -/
structure Concatenates {α : Type} (load : Text → Except Error (List α))
    (header front behind : Text) : Prop where
  /-- A failure in the first body is the failure of both. -/
  first : ∀ error, load (header ++ front) = .error error →
    load (header ++ front ++ behind) = .error error
  /-- A failure in the second one counts if the first one loads, and is moved behind it. -/
  second : ∀ items error, load (header ++ front) = .ok items →
    load (header ++ behind) = .error error →
    load (header ++ front ++ behind) = .error (error.shift (byteSize front))
  /-- If both load, so do they together. -/
  both : ∀ items others, load (header ++ front) = .ok items → load (header ++ behind) = .ok others →
    load (header ++ front ++ behind) = .ok (items ++ others)

/-- **A loader that goes row by row takes two bodies as the rows of both,** with the rows of the
second one moved by what the first one takes up. An error in the first hides the second, and an
error in the second is moved with its row. -/
theorem RowLoader.concatenates {α : Type} {load : Text → Except Error (List α)}
    {read : Row → Except Error (Option α)} (h : RowLoader load read) {header front : Text}
    (hheader : '\n' ∉ header) (hfront : Complete front) (behind : Text) :
    Concatenates load (header ++ ['\n']) front behind := by
  have hline : ∀ body, header ++ ['\n'] ++ body = header ++ '\n' :: body := by simp
  have hlines : header ++ ['\n'] ++ front ++ behind = header ++ '\n' :: (front ++ behind) := by simp
  have hmoved := collect_map_shift h.inPlace (fun _ => lineFeeds front) (fun _ => byteSize front)
    (rows (header ++ '\n' :: behind))
  constructor
  · intro error hfirst
    rw [hline, h.byRows] at hfirst
    rw [hlines, h.byRows, rows_append hheader hfront, collect_append_of_error hfirst]
  · intro items error hfirst hsecond
    rw [hline, h.byRows] at hfirst hsecond
    obtain ⟨-, -, -, herror⟩ := hmoved.2 error hsecond
    rw [hlines, h.byRows, rows_append hheader hfront, collect_append_of_ok hfirst, herror]
    rfl
  · intro items others hfirst hsecond
    rw [hline, h.byRows] at hfirst hsecond
    rw [hlines, h.byRows, rows_append hheader hfront, collect_append_of_ok hfirst,
      hmoved.1 others hsecond]
    rfl

/-- **Loading is a homomorphism over table bodies, and the first bad row decides.** Whatever the
header line and the body behind, if the body in front is made of complete lines. -/
theorem load_append {header front : Text} (hheader : '\n' ∉ header) (hfront : Complete front)
    (behind : Text) :
    Concatenates ReferencePoint.load (header ++ ['\n']) front behind ∧
      Concatenates InformationElement.load (header ++ ['\n']) front behind ∧
      ∀ generator : Generator, Concatenates generator.load (header ++ ['\n']) front behind :=
  ⟨ReferencePoint.rowLoader.concatenates hheader hfront behind,
    InformationElement.rowLoader.concatenates hheader hfront behind,
    fun generator => generator.rowLoader.concatenates hheader hfront behind⟩

/-- A body that loads, with a character of three bytes and an open quote at the end of its line, in
front of one with an empty row: that row is reported behind the first body. -/
theorem load_append_open_quote :
    '\n' ∉ "h\r".toList ∧ Complete "S1’\tp\te\td\t\"TS 1\n".toList ∧
      ReferencePoint.load ("h\r".toList ++ ['\n'] ++ "S1’\tp\te\td\t\"TS 1\n".toList) =
        .ok [⟨"S1Prime".toList, [['p']], [['e']], ['d'], [['1']]⟩] ∧
      ReferencePoint.load ("h\r".toList ++ ['\n'] ++ "\r\nrest\"".toList) =
        .error ⟨⟨3, 3⟩, .missingColumn 4 0⟩ ∧
      ReferencePoint.load ("h\r".toList ++ ['\n'] ++ "S1’\tp\te\td\t\"TS 1\n".toList
        ++ "\r\nrest\"".toList) = .error ⟨⟨21, 21⟩, .missingColumn 4 0⟩ := by
  have hheader : '\n' ∉ "h\r".toList := by decide
  have hfront : Complete "S1’\tp\te\td\t\"TS 1\n".toList := .inr (by decide)
  have hfirst : ReferencePoint.load
      ("h\r".toList ++ ['\n'] ++ "S1’\tp\te\td\t\"TS 1\n".toList) =
        .ok [⟨"S1Prime".toList, [['p']], [['e']], ['d'], [['1']]⟩] := by decide +kernel
  have hsecond : ReferencePoint.load ("h\r".toList ++ ['\n'] ++ "\r\nrest\"".toList) =
      .error ⟨⟨3, 3⟩, .missingColumn 4 0⟩ := by decide +kernel
  exact ⟨hheader, hfront, hfirst, hsecond,
    (load_append hheader hfront _).1.second _ _ hfirst hsecond⟩

end Table
end TableCodegen
