import TableCodegen.Proofs.LineTable
import Mathlib.Data.List.Chain
import Mathlib.Data.Nat.Init

/-!
# The line table is a partition

The entries of the line table lie one behind the other, from the first byte of the text to its end.
Between two of them is one byte, a line feed, and no entry has a line feed inside (`Partitions`).

An entry is closed at both ends: the place of the line feed behind it is its own, too. So every
place up to the end of the text is in one entry, and the number of line feeds in front of the place
is the index of that entry (`Partitions.holds_iff`). That alone makes two partitions of the same
bytes equal (`Partitions.eq`), and it is the index that bisection finds (`lineTable_partitions`).
-/

namespace TableCodegen
namespace Document

open Text

/-- The byte of a line feed. -/
def lineFeedByte : UInt8 := 0x0A

/-- The number of line feeds in front of a place. -/
def feedsBefore (bytes : Bytes) (place : Nat) : Nat := (bytes.take place).count lineFeedByte

/-- **Entries that lie one behind the other,** from a place up to the end of the bytes, each up to
the next line feed. -/
structure Partitions (bytes : Bytes) (start : Nat) (lines : List Span) : Prop where
  ne_nil : lines ≠ []
  first : ∀ line ∈ lines.head?, line.start = start
  last : ∀ line ∈ lines.getLast?, line.stop = bytes.length
  next : lines.IsChain fun line later => later.start = line.stop + 1
  ordered : ∀ line ∈ lines, line.start ≤ line.stop
  closed : ∀ line ∈ lines.dropLast, bytes[line.stop]? = some lineFeedByte
  clean : ∀ line ∈ lines, ∀ place, line.start ≤ place → place < line.stop →
    bytes[place]? ≠ some lineFeedByte

/-- A place is in the entry at an index. -/
def Holds (lines : List Span) (place index : Nat) : Prop :=
  ∃ line, lines[index]? = some line ∧ line.start ≤ place ∧ place ≤ line.stop

/-! ### Line feeds in front of a place -/

section Feeds

variable {bytes : Bytes} {start place : Nat}

variable (bytes) in
/-- Further on there are no fewer line feeds in front. -/
theorem feedsBefore_mono (h : start ≤ place) :
    feedsBefore bytes start ≤ feedsBefore bytes place :=
  (List.take_sublist_take_left h).count_le _

/-- A line feed counts for every place behind it, and not yet for its own. -/
theorem feedsBefore_succ_of_eq (h : bytes[place]? = some lineFeedByte) :
    feedsBefore bytes (place + 1) = feedsBefore bytes place + 1 := by
  rw [feedsBefore, List.take_add_one, h, List.count_append]
  rfl

/-- Any other byte leaves the number as it is. -/
theorem feedsBefore_succ_of_ne (h : bytes[place]? ≠ some lineFeedByte) :
    feedsBefore bytes (place + 1) = feedsBefore bytes place := by
  have hnone : (bytes[place]?.toList).count lineFeedByte = 0 :=
    List.count_eq_zero.2 fun hmem => h (by simpa using hmem)
  rw [feedsBefore, List.take_add_one, List.count_append, hnone]
  rfl

/-- Where there is no line feed, the number stays. -/
theorem feedsBefore_eq_of_clean (hle : start ≤ place)
    (h : ∀ between, start ≤ between → between < place → bytes[between]? ≠ some lineFeedByte) :
    feedsBefore bytes place = feedsBefore bytes start := by
  induction place, hle using Nat.le_induction with
  | base => rfl
  | succ place hle ih =>
    rw [feedsBefore_succ_of_ne (h place hle (Nat.lt_succ_self place)),
      ih fun between hstart hplace => h between hstart (Nat.lt_succ_of_lt hplace)]

end Feeds

/-! ### Partitions -/

/-- A place is in the first entry, at index 0, or in one of the others, whose indices are one less
among themselves. -/
theorem holds_cons {line : Span} {lines : List Span} {place index : Nat} :
    Holds (line :: lines) place index ↔
      index = 0 ∧ line.start ≤ place ∧ place ≤ line.stop ∨
        ∃ index', index = index' + 1 ∧ Holds lines place index' := by
  cases index with
  | zero => simp [Holds]
  | succ index => simp [Holds]

namespace Partitions

variable {bytes : Bytes} {start : Nat}

/-- The last line has no line feed and stops at the end. -/
theorem singleton (hle : start ≤ bytes.length)
    (hclean : ∀ place, start ≤ place → bytes[place]? ≠ some lineFeedByte) :
    Partitions bytes start [⟨start, bytes.length⟩] where
  ne_nil := List.cons_ne_nil _ _
  first := by simp
  last := by simp
  next := List.isChain_singleton _
  ordered := by simpa
  closed := by simp
  clean := by
    simp only [List.mem_singleton, forall_eq]
    exact fun place hstart _ => hclean place hstart

/-- A line stops at a line feed, and the next one starts behind it. -/
theorem cons {stop : Nat} {lines : List Span} (hle : start ≤ stop)
    (hclosed : bytes[stop]? = some lineFeedByte)
    (hclean : ∀ place, start ≤ place → place < stop → bytes[place]? ≠ some lineFeedByte)
    (h : Partitions bytes (stop + 1) lines) : Partitions bytes start (⟨start, stop⟩ :: lines) where
  ne_nil := List.cons_ne_nil _ _
  first := by simp
  last := by rw [List.getLast?_cons_of_ne_nil h.ne_nil]; exact h.last
  next := List.isChain_cons.2 ⟨h.first, h.next⟩
  ordered := List.forall_mem_cons.2 ⟨hle, h.ordered⟩
  closed := by
    rw [List.dropLast_cons_of_ne_nil h.ne_nil]
    exact List.forall_mem_cons.2 ⟨hclosed, h.closed⟩
  clean := List.forall_mem_cons.2 ⟨hclean, h.clean⟩

/-- Behind the first of several entries there is a partition of the rest. -/
theorem tail {line later : Span} {lines : List Span}
    (h : Partitions bytes start (line :: later :: lines)) :
    Partitions bytes (line.stop + 1) (later :: lines) where
  ne_nil := List.cons_ne_nil _ _
  first := (List.isChain_cons.1 h.next).1
  last := h.last
  next := (List.isChain_cons.1 h.next).2
  ordered := (List.forall_mem_cons.1 h.ordered).2
  closed := (List.forall_mem_cons.1 h.closed).2
  clean := (List.forall_mem_cons.1 h.clean).2

/-- The first entry holds no line feed in front of its places. -/
theorem feedsBefore_eq {line : Span} {lines : List Span}
    (h : Partitions bytes start (line :: lines)) {place : Nat} (hstart : start ≤ place)
    (hstop : place ≤ line.stop) :
    feedsBefore bytes place = feedsBefore bytes start := by
  obtain rfl := h.first line rfl
  exact feedsBefore_eq_of_clean hstart fun between hle hlt =>
    h.clean line List.mem_cons_self between hle (by omega)

/-- The line feed behind the first of several entries is one more. -/
theorem feedsBefore_tail {line later : Span} {lines : List Span}
    (h : Partitions bytes start (line :: later :: lines)) :
    feedsBefore bytes (line.stop + 1) = feedsBefore bytes start + 1 := by
  have hordered := h.ordered line List.mem_cons_self
  rw [h.first line rfl] at hordered
  rw [feedsBefore_succ_of_eq (h.closed line List.mem_cons_self),
    h.feedsBefore_eq hordered (Nat.le_refl _)]

/-- **The entry of a place.** Every place up to the end is in one entry, whose index is the number
of line feeds in between, and no other place is in any. -/
theorem holds_iff {lines : List Span} (h : Partitions bytes start lines) {place index : Nat} :
    Holds lines place index ↔ start ≤ place ∧ place ≤ bytes.length ∧
      feedsBefore bytes place = feedsBefore bytes start + index := by
  induction lines generalizing start index with
  | nil => exact absurd rfl h.ne_nil
  | cons line lines ih =>
    have hfirst := h.first line rfl
    rw [holds_cons]
    cases lines with
    | nil =>
      have hlast := h.last line rfl
      constructor
      · rintro (⟨rfl, hstart, hstop⟩ | ⟨index', -, _, hnone, -⟩)
        · have hfeeds := h.feedsBefore_eq (by omega) hstop
          exact ⟨by omega, by omega, hfeeds⟩
        · simp at hnone
      · rintro ⟨hstart, hend, hindex⟩
        have hfeeds := h.feedsBefore_eq hstart (by omega)
        exact .inl ⟨by omega, by omega, by omega⟩
    | cons later lines =>
      have htail := h.feedsBefore_tail
      have hordered := h.ordered line List.mem_cons_self
      have hinside : line.stop < bytes.length :=
        (List.getElem?_eq_some_iff.1 (h.closed line List.mem_cons_self)).1
      constructor
      · rintro (⟨rfl, hstart, hstop⟩ | ⟨index', rfl, hholds⟩)
        · have hfeeds := h.feedsBefore_eq (by omega) hstop
          exact ⟨by omega, by omega, hfeeds⟩
        · obtain ⟨hstart, hend, hfeeds⟩ := (ih h.tail).1 hholds
          exact ⟨by omega, hend, by omega⟩
      · rintro ⟨hstart, hend, hindex⟩
        by_cases hstop : place ≤ line.stop
        · have hfeeds := h.feedsBefore_eq hstart hstop
          exact .inl ⟨by omega, by omega, hstop⟩
        · -- Behind the line feed there is one at least, so this is not the first index.
          have hmono := feedsBefore_mono bytes (show line.stop + 1 ≤ place by omega)
          exact .inr ⟨index - 1, by omega, (ih h.tail).2 ⟨by omega, hend, by omega⟩⟩

/-- An entry lies inside the one at the same index of another partition. -/
theorem exists_entry {lines lines' : List Span} (h : Partitions bytes start lines)
    (h' : Partitions bytes start lines') {index : Nat} {line : Span}
    (hline : lines[index]? = some line) :
    ∃ line', lines'[index]? = some line' ∧ line'.start ≤ line.start ∧ line.stop ≤ line'.stop := by
  have hordered := h.ordered line (List.mem_of_getElem? hline)
  have hstart : Holds lines line.start index := ⟨line, hline, Nat.le_refl _, hordered⟩
  have hstop : Holds lines line.stop index := ⟨line, hline, hordered, Nat.le_refl _⟩
  rw [h.holds_iff, ← h'.holds_iff] at hstart hstop
  obtain ⟨line', hline', hle, -⟩ := hstart
  obtain ⟨line'', hline'', -, hge⟩ := hstop
  obtain rfl := Option.some.inj (hline'.symm.trans hline'')
  exact ⟨line', hline', hle, hge⟩

/-- **Bytes have one partition into lines.** -/
theorem eq {lines lines' : List Span} (h : Partitions bytes start lines)
    (h' : Partitions bytes start lines') : lines = lines' := by
  refine List.ext_getElem? fun index => Option.ext fun line => ?_
  have hsame : ∀ {lines lines' : List Span}, Partitions bytes start lines →
      Partitions bytes start lines' → lines[index]? = some line → lines'[index]? = some line := by
    intro lines lines' h h' hline
    obtain ⟨line', hline', hstart, hstop⟩ := h.exists_entry h' hline
    obtain ⟨line'', hline'', hstart', hstop'⟩ := h'.exists_entry h hline'
    obtain rfl := Option.some.inj (hline.symm.trans hline'')
    have heq : line' = line := by
      cases line
      cases line'
      congr
      · exact Nat.le_antisymm hstart hstart'
      · exact Nat.le_antisymm hstop' hstop
    rw [hline', heq]
  exact ⟨hsame h h', hsame h' h⟩

end Partitions

/-! ### The line table -/

/-- A line feed is the only character with its byte. -/
theorem lineFeedByte_mem_utf8EncodeChar {c : Char} :
    lineFeedByte ∈ String.utf8EncodeChar c ↔ c = '\n' := by
  constructor
  · intro h
    obtain ⟨hascii, hbytes⟩ | hhigh := utf8EncodeChar_ascii_or_high c
    · rw [hbytes, List.mem_singleton] at h
      have hcode := congrArg UInt8.toNat h
      rw [UInt8.toNat_ofNat', Nat.mod_eq_of_lt (by omega)] at hcode
      rw [← Char.ofNat_toNat c, ← hcode]
      rfl
    · exact absurd (hhigh _ h) (by decide)
  · rintro rfl
    decide

/-- The bytes of a text hold the byte of a line feed only where the text holds a line feed: no
character of several bytes has that byte in it. -/
theorem lineFeedByte_mem_utf8 {t : Text} : lineFeedByte ∈ utf8 t ↔ '\n' ∈ t := by
  simp only [utf8, List.mem_flatMap, lineFeedByte_mem_utf8EncodeChar, exists_eq_right]

/-- Where a text ends that stands behind other bytes. -/
theorem length_append_utf8 (front : Bytes) (content : Text) :
    (front ++ utf8 content).length = front.length + byteSize content := by
  rw [List.length_append, length_utf8]

/-- The bytes of a line are no line feeds, whatever stands around it. -/
theorem clean_utf8 {front : Bytes} {content : Text} (h : '\n' ∉ content) (behind : Bytes)
    {place : Nat} (hstart : front.length ≤ place)
    (hstop : place < front.length + byteSize content) :
    (front ++ utf8 content ++ behind)[place]? ≠ some lineFeedByte := by
  rw [List.append_assoc, List.getElem?_append_right hstart,
    List.getElem?_append_left (by rw [length_utf8]; omega)]
  exact fun hbyte => h (lineFeedByte_mem_utf8.1 (List.mem_of_getElem? hbyte))

/-- The entries of a text partition its bytes, whatever stands in front. The text in front is a
variable as the induction moves each line over to it. -/
theorem partitions_linesFrom {t : Text} : ∀ front : Bytes,
    Partitions (front ++ utf8 t) front.length (linesFrom front.length front.length t) := by
  induction t using lineInduction with
  | last content hcontent =>
    intro front
    have hlength := length_append_utf8 front content
    rw [linesFrom_last _ _ hcontent, ← hlength]
    refine .singleton (by omega) fun place hstart hbyte => ?_
    have hinside := (List.getElem?_eq_some_iff.1 hbyte).1
    refine clean_utf8 hcontent [] hstart (by omega) ?_
    rwa [List.append_nil]
  | line content rest hcontent ih =>
    intro front
    have hbytes : front ++ utf8 (content ++ '\n' :: rest) =
        front ++ utf8 content ++ [lineFeedByte] ++ utf8 rest := by
      rw [utf8_append, List.append_assoc, List.append_assoc]
      rfl
    have hlength := length_append_utf8 front content
    have hrest := ih (front ++ utf8 content ++ [lineFeedByte])
    rw [List.length_append, List.length_singleton, hlength] at hrest
    rw [linesFrom_line _ _ rest hcontent, hbytes]
    refine .cons (Nat.le_add_right ..) ?_ (fun place hstart hstop => ?_) hrest
    · rw [← hlength, List.append_assoc, List.getElem?_append_right (Nat.le_refl _), Nat.sub_self]
      rfl
    · rw [List.append_assoc]
      exact clean_utf8 hcontent _ hstart hstop

/-- **The line table is the partition of a text into lines, and bisection finds the entry of a
place.** There is no other such partition. Up to the end of the text a place is in one entry, which
stands at the number of line feeds in front, and that index is found. Behind the end it is in none,
and the number of entries is what is told instead. -/
theorem lineTable_partitions (t : Text) :
    (∀ lines, lineTable t = lines ↔ Partitions (utf8 t) 0 lines) ∧ ∀ place,
      (∀ index, Holds (lineTable t) place index ↔
        place ≤ (utf8 t).length ∧ index = feedsBefore (utf8 t) place) ∧
      findLine (lineTable t) place =
        if place ≤ (utf8 t).length then .ok (feedsBefore (utf8 t) place)
        else .error (lineTable t).length := by
  have hpartitions : Partitions (utf8 t) 0 (lineTable t) := partitions_linesFrom []
  have hholds : ∀ place index, Holds (lineTable t) place index ↔
      place ≤ (utf8 t).length ∧ index = feedsBefore (utf8 t) place := by
    intro place index
    rw [hpartitions.holds_iff]
    simp [feedsBefore, eq_comm]
  refine ⟨fun lines => ⟨fun h => h ▸ hpartitions, hpartitions.eq⟩, fun place => ⟨hholds place, ?_⟩⟩
  split
  · rename_i hplace
    obtain ⟨line, hline, hstart, hstop⟩ := (hholds place _).2 ⟨hplace, rfl⟩
    exact findLine_eq_ok (pairwise_linesFrom 0)
      (fun _ hmem => (le_start_of_mem_linesFrom hmem).2) hline hstart hstop
  · rename_i hplace
    rw [length_utf8] at hplace
    rw [findLine_lineTable_beyond (Nat.lt_of_not_le hplace), lineTable, length_linesFrom]

/-- Places count bytes, lines may be empty, and behind the last line feed there is a line, too. -/
example : lineTable "é\n\nb\n".toList = [⟨0, 2⟩, ⟨3, 3⟩, ⟨4, 5⟩, ⟨6, 6⟩] := by decide

end Document
end TableCodegen
