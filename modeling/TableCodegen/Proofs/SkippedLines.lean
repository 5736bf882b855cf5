import Mathlib.Algebra.GroupWithZero.Nat
import Mathlib.Data.List.Basic
import TableCodegen.Generate
import TableCodegen.Proofs.Encoding
import TableCodegen.Proofs.Shifts

/-!
# Lines that are passed over

A line of the information element table is passed over if its first cell holds the skip marker, and
nothing else on it is looked at. There are few ways to write such a line (`markerLine_iff`):

| the line | its first cell |
| --- | --- |
| `x`, and nothing or a tab and anything | plain |
| `"x"`, and nothing or a tab and anything | quoted |
| `""x`, and nothing or a tab and anything | quoted, with the marker behind the closing quote |
| `"x` | quoted, and not closed |

However many such lines are added to a table, and wherever in its body, they change nothing but
places: `load_added` says that the same elements are loaded and the same source is made of them, or
that the same row fails with the same error, as many bytes further on as the lines in front of it
have, with their line feeds.
-/

namespace TableCodegen

open Text

/-! ### Lines -/

/-- A text and the lines that it is made of. Each ends in a line feed, but the last one may lack it
if anything stands on it. -/
inductive Text.MadeOf : Text → List Text → Prop
  | nothing : MadeOf [] []
  | last {line : Text} (clean : '\n' ∉ line) (visible : line ≠ []) : MadeOf line [line]
  | line {line rest : Text} {lines : List Text} (clean : '\n' ∉ line) (behind : MadeOf rest lines) :
    MadeOf (line ++ '\n' :: rest) (line :: lines)

namespace Table

/-- **Every text is made of the lines that the row reader finds,** and of no others. So a claim on
the lines of a text can be read as one on how the text is put together. -/
theorem madeOf_iff (t : Text) (lines : List Text) : MadeOf t lines ↔ lineTexts t = lines := by
  constructor
  · intro h
    induction h with
    | nothing => rfl
    | last clean visible => rw [lineTexts_last clean, if_neg visible]
    | line clean _ ih => rw [lineTexts_line _ clean, ih]
  · rintro rfl
    induction t using lineInduction with
    | last content hcontent =>
      rw [lineTexts_last hcontent]
      split
      · rename_i hnil
        rw [hnil]
        exact .nothing
      · rename_i hvisible
        exact .last hcontent hvisible
    | line content rest hcontent ih =>
      rw [lineTexts_line rest hcontent]
      exact .line hcontent ih

/-- A line whose first cell is written for the marker. -/
inductive MarkerLine : Text → Prop
  | closed {form rest : Text} (hform : form ∈ [['x'], ['"', 'x', '"'], ['"', '"', 'x']])
      (hrest : rest = [] ∨ ∃ more, rest = '\t' :: more) : MarkerLine (form ++ rest)
  | unclosed : MarkerLine ['"', 'x']

/-- A body that holds nothing is closed at once, if there is one. -/
theorem eq_of_quotedBody_content_eq_nil {line : Text} (h : (quotedBody line).content = []) :
    line = [] ∨ line = '"' :: (quotedBody line).rest := by
  revert h
  fun_cases quotedBody line with
  | case1 => exact fun _ => .inl rfl
  | case2 => nofun
  | case3 => exact fun _ => .inr rfl
  | case4 => nofun

/-- A body that holds one character other than a quote has nothing else in front of its end. -/
theorem eq_of_quotedBody_content_eq_singleton {line : Text} {c : Char} (hc : c ≠ '"')
    (h : (quotedBody line).content = [c]) :
    line = [c] ∨ line = c :: '"' :: (quotedBody line).rest := by
  revert h
  fun_cases quotedBody line with
  | case1 => nofun
  | case2 => exact fun h => absurd (List.cons.inj h).1.symm hc
  | case3 => nofun
  | case4 d cs hsecond hd =>
    intro h
    obtain ⟨rfl, hcontent⟩ := List.cons.inj h
    obtain hcs | hcs := eq_of_quotedBody_content_eq_nil hcontent
    · exact .inl (congrArg (d :: ·) hcs)
    · exact .inr (congrArg (d :: ·) hcs)

/-- A quoted cell with a tail behind its closing quote. -/
theorem firstPiece_quoted (body : Text) {tail rest : Text} (hopen : tail.head? ≠ some '"')
    (htab : '\t' ∉ tail) (hrest : rest = [] ∨ ∃ more, rest = '\t' :: more) :
    (firstPiece ('"' :: (doubled body ++ '"' :: (tail ++ rest)))).content = body ++ tail := by
  have hhead : (tail ++ rest).head? ≠ some '"' := by
    cases tail with
    | nil => obtain rfl | ⟨more, rfl⟩ := hrest <;> simp
    | cons c cs => exact hopen
  show (quotedPiece (doubled body ++ '"' :: (tail ++ rest))).content = body ++ tail
  rw [quotedPiece, quotedBody_doubled body hhead]
  exact congrArg (body ++ ·) (upToTab_append tail htab hrest).1

/-- **The forms of the marker are all there are.** A line is written in one of them exactly if its
first cell holds the marker. -/
theorem markerLine_iff (line : Text) : MarkerLine line ↔ (firstPiece line).content = ['x'] := by
  constructor
  · rintro (⟨hform, hrest⟩ | _)
    · simp only [List.mem_cons, List.not_mem_nil, or_false] at hform
      obtain rfl | rfl | rfl := hform
      · rw [firstPiece_of_head (by simp)]
        exact (upToTab_append ['x'] (by decide) hrest).1
      · exact firstPiece_quoted ['x'] (by decide) (by decide) hrest
      · exact firstPiece_quoted [] (by decide) (by decide) hrest
    · rfl
  · intro h
    by_cases hhead : line.head? = some '"'
    · obtain ⟨cs, rfl⟩ := List.head?_eq_some_iff.1 hhead
      obtain ⟨hbody, htail⟩ | ⟨hbody, htail⟩ := List.append_eq_singleton_iff.1 h
      · obtain rfl | hcs := eq_of_quotedBody_content_eq_nil hbody
        · cases htail
        · have hrest := upToTab_append_fromTab (quotedBody cs).rest
          rw [htail] at hrest
          rw [hcs, ← hrest]
          exact @MarkerLine.closed ['"', '"', 'x'] _ (by decide) (fromTab_eq _)
      · obtain rfl | hcs := eq_of_quotedBody_content_eq_singleton (by decide) hbody
        · exact .unclosed
        · have hrest := upToTab_append_fromTab (quotedBody cs).rest
          rw [htail] at hrest
          rw [hcs, ← hrest]
          exact @MarkerLine.closed ['"', 'x', '"'] _ (by decide) (fromTab_eq _)
    · rw [firstPiece_of_head hhead] at h
      have hline : ['x'] ++ fromTab line = line := by
        rw [← h]
        exact upToTab_append_fromTab line
      rw [← hline]
      exact .closed (by decide) (fromTab_eq line)

/-- The end of a text loses its carriage return, whatever stands in front of it. -/
theorem dropReturn_append (front : Text) {rest : Text} (h : rest ≠ []) :
    dropReturn (front ++ rest) = front ++ dropReturn rest := by
  induction front with
  | nil => rfl
  | cons c cs ih =>
    have hne : cs ++ rest ≠ [] := List.append_ne_nil_of_right_ne_nil cs h
    rw [List.cons_append, dropReturn, ih, List.cons_append]
    exact fun _ hnil => hne hnil

/-- No carriage return at the end of a line belongs to its marker. -/
theorem MarkerLine.dropReturn {line : Text} (h : MarkerLine line) :
    MarkerLine (dropReturn line) := by
  obtain @⟨form, _, hform, rfl | ⟨more, rfl⟩⟩ | _ := h
  · have hsame : Table.dropReturn form = form := by
      simp only [List.mem_cons, List.not_mem_nil, or_false] at hform
      obtain rfl | rfl | rfl := hform <;> rfl
    rw [List.append_nil, hsame]
    simpa using MarkerLine.closed hform (.inl rfl)
  · have htab : Table.dropReturn ('\t' :: more) = '\t' :: Table.dropReturn more := by
      rw [Table.dropReturn]
      exact fun h => absurd h (by decide)
    rw [dropReturn_append _ (List.cons_ne_nil _ _), htab]
    exact .closed hform (.inr ⟨_, rfl⟩)
  · exact .unclosed

/-! ### Bodies with lines added -/

/-- A line of a table body, and whether it has been added. An added line is written for the marker,
with or without a carriage return at its end. -/
structure BodyLine where
  text : Text
  added : Bool
  marker : added = true → MarkerLine text ∨ MarkerLine (dropReturn text)

/-- What the row reader makes of an added line is written for the marker. -/
theorem BodyLine.markerLine {line : BodyLine} (h : line.added = true) :
    MarkerLine (dropReturn line.text) := (line.marker h).elim .dropReturn id

/-- The lines of a body without those that have been added. -/
def keptLines (body : List BodyLine) : List Text :=
  (body.filter fun line => !line.added).map BodyLine.text

/-- The bytes that the added lines of a body take up with their line feeds. -/
def addedSize (body : List BodyLine) : Nat :=
  ((body.filter fun line => line.added).map fun line => byteSize line.text + 1).sum

/-- The first row that a reader fails on stands at `index`, and this is its error. -/
structure FailsFirstAt {α : Type} (read : Row → Except Error α) (rows : List Row) (index : Nat)
    (error : Error) : Prop where
  fails : ∃ row, rows[index]? = some row ∧ read row = .error error
  isFirst : ∀ row ∈ rows.take index, ∃ a, read row = .ok a

/-- A row that can be read, in front of the others, moves the first failure on by one. -/
theorem FailsFirstAt.cons {α : Type} {read : Row → Except Error α} {rows : List Row} {index : Nat}
    {error : Error} {row : Row} {a : α} (hrow : read row = .ok a)
    (h : FailsFirstAt read rows index error) :
    FailsFirstAt read (row :: rows) (index + 1) error := by
  constructor
  · obtain ⟨failed, hget, hfails⟩ := h.fails
    exact ⟨failed, by rwa [List.getElem?_cons_succ], hfails⟩
  · rw [List.take_succ_cons]
    exact List.forall_mem_cons.2 ⟨⟨a, hrow⟩, h.isFirst⟩

section Added

variable {line : BodyLine} {body : List BodyLine}

/-- An added line is none of the kept ones. -/
theorem keptLines_of_added (h : line.added = true) : keptLines (line :: body) = keptLines body := by
  rw [keptLines, List.filter_cons_of_neg (by simp [h])]
  rfl

/-- A kept line stands in front of those behind it. -/
theorem keptLines_of_kept (h : line.added = false) :
    keptLines (line :: body) = line.text :: keptLines body := by
  rw [keptLines, List.filter_cons_of_pos (by simp [h])]
  rfl

/-- An added line adds its bytes and its line feed. -/
theorem addedSize_of_added (h : line.added = true) :
    addedSize (line :: body) = byteSize line.text + 1 + addedSize body := by
  rw [addedSize, List.filter_cons_of_pos h, List.map_cons, List.sum_cons]
  rfl

/-- A kept line adds no bytes. -/
theorem addedSize_of_kept (h : line.added = false) : addedSize (line :: body) = addedSize body := by
  rw [addedSize, List.filter_cons_of_neg (by simp [h])]
  rfl

/-- What a reader makes of `rows'`, the rows of a body behind a text that has grown by `bytes`,
against `rows`, those of its kept lines. -/
structure PassesOver {α : Type} (read : Row → Except Error (Option α)) (body : List BodyLine)
    (bytes : Nat) (rows rows' : List Row) : Prop where
  /-- The items are the same. -/
  loads : ∀ items, collect read rows = .ok items → collect read rows' = .ok items
  /-- The line that fails is the same, and its error is moved by what the text in front of it has
  grown. -/
  fails : ∀ error, collect read rows = .error error →
    ∃ earlier failed later, body = earlier ++ failed :: later ∧ failed.added = false ∧
      FailsFirstAt read rows (keptLines earlier).length error ∧
      collect read rows' = .error (error.shift (bytes + addedSize earlier))

variable {α : Type} {read : Row → Except Error (Option α)} {bytes : Nat} {rows rows' : List Row}

/-- **An added line comes to nothing,** and what is behind it is so much further on. -/
theorem PassesOver.added {row' : Row} (hadded : line.added = true) (hskip : read row' = .ok none)
    (h : PassesOver read body (bytes + (byteSize line.text + 1)) rows rows') :
    PassesOver read (line :: body) bytes rows (row' :: rows') := by
  have hcollect : collect read (row' :: rows') = collect read rows' := by
    rw [collect_cons_of_ok hskip]
    cases collect read rows' <;> rfl
  constructor
  · rw [hcollect]
    exact h.loads
  · intro error herror
    obtain ⟨earlier, failed, later, rfl, hkept, hfirst, hmoved⟩ := h.fails error herror
    refine ⟨line :: earlier, failed, later, rfl, hkept, ?_, ?_⟩
    · rwa [keptLines_of_added hadded]
    · rw [hcollect, hmoved, addedSize_of_added hadded, Nat.add_assoc]

/-- **A kept line comes to what it came to,** and fails where it stands now. If it can be read, the
lines behind it decide, and the errors of these are moved by the same bytes. -/
theorem PassesOver.kept {row row' : Row} (hadded : line.added = false)
    (hrow' : read row' = (read row).mapError (·.shift bytes))
    (h : PassesOver read body bytes rows rows') :
    PassesOver read (line :: body) bytes (row :: rows) (row' :: rows') := by
  cases hrow : read row with
  | error cause =>
    rw [hrow] at hrow'
    refine ⟨fun items hitems => ?_, fun error herror => ?_⟩
    · rw [collect_cons_of_error hrow] at hitems
      cases hitems
    · rw [collect_cons_of_error hrow] at herror
      obtain rfl := Except.error.inj herror
      exact ⟨[], line, body, rfl, hadded,
        ⟨⟨row, rfl, hrow⟩, fun _ hnil => absurd hnil List.not_mem_nil⟩,
        collect_cons_of_error hrow' rows'⟩
  | ok item? =>
    rw [hrow] at hrow'
    have hcollect := collect_cons_of_ok hrow rows
    have hcollect' := collect_cons_of_ok hrow' rows'
    cases hrows : collect read rows with
    | ok others =>
      rw [hrows] at hcollect
      rw [h.loads others hrows] at hcollect'
      refine ⟨fun items hitems => ?_, fun error herror => ?_⟩
      · rw [hcollect', ← hcollect, hitems]
      · rw [hcollect] at herror
        cases herror
    | error cause =>
      obtain ⟨earlier, failed, later, rfl, hkept, hfirst, hmoved⟩ := h.fails cause hrows
      rw [hrows] at hcollect
      rw [hmoved] at hcollect'
      refine ⟨fun items hitems => ?_, fun error herror => ?_⟩
      · rw [hcollect] at hitems
        cases hitems
      · rw [hcollect] at herror
        obtain rfl := Except.error.inj herror
        refine ⟨line :: earlier, failed, later, rfl, hkept, ?_, ?_⟩
        · rw [keptLines_of_kept hadded, List.length_cons]
          exact hfirst.cons hrow
        · rw [hcollect', addedSize_of_kept hadded]
          rfl

/-- **The rows of a body with lines added,** so many lines and bytes further on, for a reader that
passes over the added ones. -/
theorem passesOver_rowsFrom (hread : ReadsInPlace read)
    (hskip : ∀ number place line, MarkerLine line → read (Row.ofLine number place line) = .ok none)
    (body : List BodyLine) :
    ∀ number place lines bytes, PassesOver read body bytes
      (rowsFrom number place (keptLines body))
      (rowsFrom (number + lines) (place + bytes) (body.map BodyLine.text)) := by
  induction body with
  | nil => exact fun _ _ _ _ => ⟨fun _ h => h, by rintro _ ⟨⟩⟩
  | cons line body ih =>
    intro number place lines bytes
    rw [List.map_cons, rowsFrom]
    cases hadded : line.added with
    | true =>
      have hnumber : number + lines + 1 = number + (lines + 1) := Nat.add_assoc ..
      have hplace : place + bytes + byteSize line.text + 1 =
          place + (bytes + (byteSize line.text + 1)) := by omega
      rw [keptLines_of_added hadded, hnumber, hplace]
      exact .added hadded (hskip _ _ _ (line.markerLine hadded)) (ih ..)
    | false =>
      have hnumber : number + lines + 1 = number + 1 + lines := Nat.add_right_comm ..
      have hplace : place + bytes + byteSize line.text + 1 =
          place + byteSize line.text + 1 + bytes := by omega
      rw [keptLines_of_kept hadded, rowsFrom, hnumber, hplace, Row.ofLine_shift]
      exact .kept hadded (hread ..) (ih ..)

end Added

end Table

/-! ### Runs -/

/-- A run without what it has reported on the way. -/
def Generation.unreported (run : Generation) : Generation := { run with events := [] }

section Unreported

variable {m : Type → Type} [Monad m] [LawfulMonad m] [Storage m] {generator : Generator}

/-- What has been reported before does not decide what the last stages do. The events are carried
along to the end of the run and are never looked at. -/
theorem emitSource_unreported (records : List Record) (paths : Paths) (echo : Option Sink)
    (events events' : List Log.Event) :
    Generation.unreported <$> (emitSource generator records paths echo events : m Generation) =
      Generation.unreported <$> emitSource generator records paths echo events' := by
  unfold emitSource
  simp only [map_bind]
  refine bind_congr fun source? => ?_
  cases source? with
  | error reason => simp [Generation.unreported]
  | ok source =>
    cases hrendered : renderRecords generator source records with
    | error error => simp [hrendered, Generation.unreported]
    | ok text =>
      simp only [hrendered]
      rcases Sink.writeTo echo text with ⟨echo', _ | _⟩
      · simp [Generation.unreported]
      · simp only [map_bind]
        refine bind_congr fun written => ?_
        cases written <;> simp [Generation.unreported]

/-- **Tables with the same records are generated from in the same way,** but for what is
reported. -/
theorem generate_unreported {t t' : Text} {records : List Record}
    (h : generator.load t = .ok records) (h' : generator.load t' = .ok records) (paths : Paths)
    (echo : Option Sink) :
    Generation.unreported <$> (generate generator t' paths echo : m Generation) =
      Generation.unreported <$> generate generator t paths echo := by
  simp only [generate, h, h']
  rcases Sink.writeTo echo (Dump.records records) with ⟨echo', _ | _⟩
  · simp [Generation.unreported]
  · dsimp only
    rcases Sink.writeTo echo' ['\n'] with ⟨echo'', _ | _⟩
    · simp [Generation.unreported]
    · exact emitSource_unreported ..

omit [LawfulMonad m] in
/-- A table that fails to load is all that a run gets to: nothing is echoed, read or written. -/
theorem generate_of_load_error {t : Text} {error : Table.Error}
    (h : generator.load t = .error error) (paths : Paths) (echo : Option Sink) :
    (generate generator t paths echo : m Generation) =
      pure ⟨.error (.table error), echo, generator.loadEvents t⟩ := by
  simp only [generate, h]

end Unreported

open Table

/-- An information element table that is refused: it does not load, and a run on it ends with the
same error, with nothing echoed and no file looked at. -/
structure Refused (t : Text) (error : Table.Error) : Prop where
  load : InformationElement.load t = .error error
  run : ∀ {m : Type → Type} [Monad m] [Storage m] (paths : Paths) (echo : Option Sink),
    (generate .informationElements t paths echo : m Generation) =
      pure ⟨.error (.table error), echo, Generator.informationElements.loadEvents t⟩

/-- A table that does not load is refused, as a run loads it in front of everything else. -/
theorem refused_of_load {t : Text} {error : Table.Error}
    (h : InformationElement.load t = .error error) : Refused t error :=
  ⟨h, generate_of_load_error (by rw [Generator.load, h]; rfl)⟩

/-- What becomes of an information element table `t` in `t'`, with lines added to its body. -/
structure SameElements (t t' : Text) (body : List BodyLine) : Prop where
  /-- The same elements are loaded, if any are. -/
  loads : ∀ elements,
    InformationElement.load t' = .ok elements ↔ InformationElement.load t = .ok elements
  /-- Then the same source is made of them, with the same echo and the same count. -/
  generates : ∀ elements, InformationElement.load t = .ok elements →
    ∀ {m : Type → Type} [Monad m] [LawfulMonad m] [Storage m] (paths : Paths) (echo : Option Sink),
      Generation.unreported <$> (generate .informationElements t' paths echo : m Generation) =
        Generation.unreported <$> generate .informationElements t paths echo
  /-- Otherwise the line that fails is the same, and its error is moved by the lines added in front
  of it. -/
  fails : ∀ error, InformationElement.load t = .error error →
    ∃ earlier failed later, body = earlier ++ failed :: later ∧ failed.added = false ∧
      FailsFirstAt InformationElement.ofRow (rows t) (keptLines earlier).length error ∧
      Refused t error ∧ Refused t' (error.shift (addedSize earlier))

/-- The row of a line that is written for the marker is passed over. -/
theorem InformationElement.ofRow_of_markerLine (number place : Nat) {line : Text}
    (h : MarkerLine line) : ofRow (Row.ofLine number place line) = .ok none := by
  have hcontent := (markerLine_iff line).1 h
  have hline : line.isEmpty = false := by
    cases line with
    | nil => cases hcontent
    | cons c cs => rfl
  have hopens : (Row.ofLine number place line).opensWith skipMark = true := by
    rw [Row.ofLine, hline, if_neg Bool.false_ne_true, cellsOf]
    show ((firstPiece line).content == skipMark) = true
    rw [hcontent]
    rfl
  rw [ofRow, if_pos hopens]

/-- The rows of a table stand on the lines behind its header. -/
theorem Table.rows_of_madeOf {t header : Text} {lines : List Text}
    (h : MadeOf t (header :: lines)) : rows t = rowsFrom 2 (byteSize header + 1) lines := by
  rw [rows, (madeOf_iff t _).1 h, rowsFrom, List.drop_one, List.tail_cons, Nat.zero_add]

/-- **Lines that are passed over change nothing but places.** Whatever the header and the lines of a
table body, and wherever lines for the marker are added among them. -/
theorem load_added {t t' header : Text} {body : List BodyLine}
    (h : MadeOf t (header :: keptLines body)) (h' : MadeOf t' (header :: body.map BodyLine.text)) :
    SameElements t t' body := by
  have hload := InformationElement.rowLoader.byRows
  obtain ⟨hitems, herror⟩ := passesOver_rowsFrom InformationElement.readsInPlace_ofRow
    (fun number place _ => InformationElement.ofRow_of_markerLine number place) body 2
    (byteSize header + 1) 0 0
  simp only [Nat.add_zero, Nat.zero_add, ← rows_of_madeOf h, ← rows_of_madeOf h', ← hload]
    at hitems herror
  refine ⟨fun elements => ⟨fun hnew => ?_, hitems elements⟩, fun elements hold _ _ _ _ => ?_,
    fun error hold => ?_⟩
  · cases hold : InformationElement.load t with
    | ok others => rw [← hnew, hitems others hold]
    | error error =>
      obtain ⟨_, _, _, -, -, -, hmoved⟩ := herror error hold
      rw [hnew] at hmoved
      cases hmoved
  · have hrecords : ∀ table, InformationElement.load table = .ok elements →
        Generator.informationElements.load table = .ok (elements.map (·.expose)) := by
      intro table htable
      rw [Generator.load, htable]
      rfl
    exact generate_unreported (hrecords t hold) (hrecords t' (hitems elements hold))
  · obtain ⟨earlier, failed, later, hbody, hkept, hfirst, hmoved⟩ := herror error hold
    exact ⟨earlier, failed, later, hbody, hkept, hfirst, refused_of_load hold,
      refused_of_load hmoved⟩

/-- A body of two rows, of which the second one has a bad type code, with lines added around them:
one with an open quote behind the marker, one with a carriage return, and one whose marker has an
open quote in front. -/
def bodyWithMarkers : List BodyLine := [
  ⟨"x\t\"".toList, true, fun _ => .inl ((markerLine_iff _).2 (by decide))⟩,
  ⟨"\t7\tm\ts\t\t\t\t\t\t\t\t\t\t\t\t\t".toList, false, nofun⟩,
  ⟨"\"\"x\r".toList, true, fun _ => .inr ((markerLine_iff _).2 (by decide))⟩,
  ⟨"\t9z\tm\ts\t\t\t\t\t\t\t\t\t\t\t\t\t".toList, false, nofun⟩,
  ⟨"\"x".toList, true, fun _ => .inl ((markerLine_iff _).2 (by decide))⟩]

/-- A table of the two rows; the last one has no line feed. -/
def tableOfTwoRows : Text :=
  "h\n\t7\tm\ts\t\t\t\t\t\t\t\t\t\t\t\t\t\n\t9z\tm\ts\t\t\t\t\t\t\t\t\t\t\t\t\t".toList

/-- The table with the lines added, of which the last one has no line feed. -/
def tableWithMarkers : Text :=
  "h\nx\t\"\n\t7\tm\ts\t\t\t\t\t\t\t\t\t\t\t\t\t\n\"\"x\r\n".toList ++
    "\t9z\tm\ts\t\t\t\t\t\t\t\t\t\t\t\t\t\n\"x".toList

/-- The nine bytes of the two lines in front of the bad type code are what its error is moved by. -/
theorem load_added_bodyWithMarkers :
    MadeOf tableOfTwoRows (['h'] :: keptLines bodyWithMarkers) ∧
      MadeOf tableWithMarkers (['h'] :: bodyWithMarkers.map BodyLine.text) ∧
      SameElements tableOfTwoRows tableWithMarkers bodyWithMarkers ∧
      InformationElement.load tableOfTwoRows =
        .error ⟨⟨23, 25⟩, .invalidTypeCode "9z".toList⟩ ∧
      InformationElement.load tableWithMarkers =
        .error ⟨⟨32, 34⟩, .invalidTypeCode "9z".toList⟩ := by
  have hold : MadeOf tableOfTwoRows (['h'] :: keptLines bodyWithMarkers) :=
    (madeOf_iff _ _).2 (by decide)
  have hnew : MadeOf tableWithMarkers (['h'] :: bodyWithMarkers.map BodyLine.text) :=
    (madeOf_iff _ _).2 (by decide)
  exact ⟨hold, hnew, load_added hold hnew, by decide +kernel, by decide +kernel⟩

end TableCodegen
