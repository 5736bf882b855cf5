import Mathlib.Data.List.Basic
import TableCodegen.Java.ByteArray
import TableCodegen.Proofs.HexDigits

/-!
# How the values of a byte array are laid out

The declaration is written value by value, and what stands around a value is told by its index. Read
as a whole it is simpler: the values are cut into lines of eight, a line is its values between
commas and spaces, and the lines stand between commas and line feeds.

| part | between parts | at the end |
| --- | --- | --- |
| value | `, ` | nothing |
| line | `,` and a line feed | the terminator and a line feed |

`declareHex_exact` says that both are the same, and that the values are read off it (`valuesIn`).
-/

namespace TableCodegen
namespace Java

open Text

section Chunks

variable {α : Type*}

/-- A chunk is filled before the next one is begun. -/
theorem toChunks_go_append (n : Nat) (line rest : List α) :
    ∀ (chunk : Array α) (chunks : Array (List α)), chunk.size + line.length ≤ n →
      List.toChunks.go n (line ++ rest) chunk chunks =
        List.toChunks.go n rest (chunk ++ line.toArray) chunks := by
  induction line with
  | nil => simp
  | cons x xs ih =>
    intro chunk chunks hsize
    rw [List.length_cons] at hsize
    have hroom : (chunk.size == n) = false := by
      rw [beq_eq_false_iff_ne]
      omega
    rw [List.cons_append, List.toChunks.go, hroom, if_neg Bool.false_ne_true,
      ih _ _ (by rw [Array.size_push]; omega)]
    simp

/-- The finished chunks are put in front. -/
theorem toChunks_go_chunks (n : Nat) (xs : List α) :
    ∀ (chunk : Array α) (chunks : Array (List α)),
      List.toChunks.go n xs chunk chunks = chunks.toList ++ List.toChunks.go n xs chunk #[] := by
  induction xs with
  | nil => simp [List.toChunks.go]
  | cons x xs ih =>
    intro chunk chunks
    rw [List.toChunks.go, List.toChunks.go]
    split
    · rw [ih, ih _ (#[].push chunk.toList)]
      simp
    · rw [ih]

/-- The library cuts a list with an accumulator. From the second item on it goes through the same
loop, so this is where an induction on the list starts. -/
theorem toChunks_cons {n : Nat} (hn : 0 < n) (x : α) (xs : List α) :
    (x :: xs).toChunks n = List.toChunks.go n xs #[x] #[] := by
  obtain ⟨m, rfl⟩ := Nat.exists_eq_add_one_of_ne_zero (Nat.ne_of_gt hn)
  rfl

/-- What is not longer than a chunk is one. -/
theorem toChunks_of_length_le {n : Nat} {line : List α} (hne : line ≠ [])
    (hlength : line.length ≤ n) : line.toChunks n = [line] := by
  obtain ⟨x, xs, rfl⟩ := List.exists_cons_of_ne_nil hne
  rw [List.length_cons] at hlength
  have hfill := toChunks_go_append n xs [] #[x] #[] (by simpa [Nat.add_comm] using hlength)
  rw [toChunks_cons (by omega), ← List.append_nil xs, hfill]
  simp [List.toChunks.go]

/-- A full chunk is cut off. -/
theorem toChunks_append {n : Nat} {line rest : List α} (hline : line ≠ [])
    (hlength : line.length = n) (hrest : rest ≠ []) :
    (line ++ rest).toChunks n = line :: rest.toChunks n := by
  obtain ⟨x, xs, rfl⟩ := List.exists_cons_of_ne_nil hline
  obtain ⟨y, ys, rfl⟩ := List.exists_cons_of_ne_nil hrest
  rw [List.length_cons] at hlength
  have hfill := toChunks_go_append n xs (y :: ys) #[x] #[] (by
    simpa [Nat.add_comm] using Nat.le_of_eq hlength)
  have hfull : ((#[x] ++ xs.toArray).size == n) = true := by
    simpa [Nat.add_comm] using hlength
  rw [List.cons_append, toChunks_cons (by omega), hfill, List.toChunks.go, hfull, if_pos rfl,
    toChunks_go_chunks, toChunks_cons (by omega)]
  simp

/-- **The cases of a list by its chunks:** there is none, there is one that may be shorter than the
others, or a full one stands in front of more. -/
theorem chunk_cases {n : Nat} (hn : 0 < n) (xs : List α) :
    xs = [] ∨ (xs ≠ [] ∧ xs.length ≤ n) ∨
      ∃ line rest, xs = line ++ rest ∧ line ≠ [] ∧ line.length = n ∧ rest ≠ [] := by
  by_cases hne : xs = []
  · exact .inl hne
  by_cases hshort : xs.length ≤ n
  · exact .inr (.inl ⟨hne, hshort⟩)
  · have hfull : (xs.take n).length = n := by
      rw [List.length_take]
      omega
    have hline : xs.take n ≠ [] := List.ne_nil_of_length_pos (by omega)
    have hrest : xs.drop n ≠ [] := List.ne_nil_of_length_pos (by rw [List.length_drop]; omega)
    exact .inr (.inr ⟨xs.take n, xs.drop n, (List.take_append_drop n xs).symm, hline, hfull, hrest⟩)

/-- **A list is a chain of chunks:** the last one, which may be shorter, or a full one in front of
more. -/
@[elab_as_elim]
theorem chunkInduction {n : Nat} (hn : 0 < n) {motive : List α → Prop} (nil : motive [])
    (last : ∀ line, line ≠ [] → line.length ≤ n → motive line)
    (full : ∀ line rest, line ≠ [] → line.length = n → rest ≠ [] → motive rest →
      motive (line ++ rest))
    (xs : List α) : motive xs := by
  obtain hnil | ⟨hne, hshort⟩ | ⟨line, rest, hxs, hline, hfull, hrest⟩ := chunk_cases hn xs
  · rwa [hnil]
  · exact last xs hne hshort
  · have hmore := full line rest hline hfull hrest (chunkInduction hn nil last full rest)
    rwa [hxs]
termination_by xs.length
decreasing_by
  rw [hxs, List.length_append]
  omega

/-- What is not empty has a chunk. -/
theorem toChunks_ne_nil {n : Nat} (hn : 0 < n) {xs : List α} (hne : xs ≠ []) :
    xs.toChunks n ≠ [] := by
  obtain hnil | ⟨-, hshort⟩ | ⟨line, rest, rfl, hline, hfull, hrest⟩ := chunk_cases hn xs
  · exact absurd hnil hne
  · rw [toChunks_of_length_le hne hshort]
    exact List.cons_ne_nil _ _
  · rw [toChunks_append hline hfull hrest]
    exact List.cons_ne_nil _ _

end Chunks

/-! ### The layout -/

/-- A line of values. -/
def lineOf (values : Bytes) : Text := "    ".toList ++ joinWith ", ".toList (values.map byteToken)

/-- What stands behind the opening brace: the values line by line, and the terminator. -/
def linesOf (values : Bytes) : Text :=
  if values = [] then "\x7d;\n".toList
  else '\n' :: joinWith ",\n".toList ((values.toChunks valuesPerLine).map lineOf) ++
    "\x7d;\n".toList

/-- What stands in front of a value. -/
def indent (index : Nat) : Text := if index % valuesPerLine = 0 then "    ".toList else [' ']

/-- The comma or the terminator behind a value. -/
def mark (terminator index : Nat) : Text := if index = terminator then "\x7d;".toList else [',']

/-- A value with what stands around it, in the four parts that the lemmas below are about. -/
theorem byteItem_eq (terminator count index : Nat) (b : UInt8) :
    byteItem terminator count index b = indent index ++ byteToken b ++ mark terminator index ++
      if (index + 1) % valuesPerLine = 0 ∨ index + 1 = count then ['\n'] else [] := rfl

/-- A value that does not start a line has one space in front of it. -/
theorem indent_of_ne {index : Nat} (h : index % valuesPerLine ≠ 0) : indent index = [' '] :=
  if_neg h

/-- There are only spaces in front of a value. -/
theorem not_mem_indent {c : Char} (h : c ≠ ' ') (index : Nat) : c ∉ indent index := by
  unfold indent
  split <;> simp [h]

/-- A comma follows every value but the one that the terminator follows. -/
theorem mark_of_ne {terminator index : Nat} (h : index ≠ terminator) :
    mark terminator index = [','] := if_neg h

/-- Between the first part and the others there is a separator if there are others. -/
theorem joinWith_cons {separator part : Text} {parts : List Text} (h : parts ≠ []) :
    joinWith separator (part :: parts) = part ++ separator ++ joinWith separator parts :=
  List.intercalate_cons_of_ne_nil h

/-- **A line is written value by value.** The line ends where it is full or the last value is
written, and no value in front of its last one has the terminator behind it. -/
theorem byteItems_line (terminator count : Nat) : ∀ (index : Nat) (line : Bytes), line ≠ [] →
    index % valuesPerLine + line.length ≤ valuesPerLine → index + line.length ≤ count →
    (index % valuesPerLine + line.length = valuesPerLine ∨ index + line.length = count) →
    index + line.length ≤ terminator + 1 →
      byteItems terminator count index line =
        indent index ++ joinWith ", ".toList (line.map byteToken) ++
          mark terminator (index + line.length - 1) ++ ['\n']
  | index, [b], _, _, _, hends, _ => by
    have hbreak : (index + 1) % valuesPerLine = 0 ∨ index + 1 = count := by
      refine hends.imp_left fun hfull => ?_
      rw [List.length_singleton] at hfull
      unfold valuesPerLine at *
      omega
    rw [byteItems, byteItems, byteItem_eq, if_pos hbreak]
    simp [joinWith]
  | index, b :: c :: line, _, hroom, hcount, hends, hterminator => by
    rw [List.length_cons] at *
    have hnext : (index + 1) % valuesPerLine = index % valuesPerLine + 1 := by
      rw [List.length_cons] at hroom
      unfold valuesPerLine at *
      omega
    have hinside : (index + 1) % valuesPerLine ≠ 0 := by omega
    have hinner : ¬ ((index + 1) % valuesPerLine = 0 ∨ index + 1 = count) := by
      rw [List.length_cons] at hcount
      omega
    have hcomma : index ≠ terminator := by
      rw [List.length_cons] at hterminator
      omega
    have hline := byteItems_line terminator count (index + 1) (c :: line) (by simp) (by omega)
      (by omega) (by omega) (by omega)
    have hlast : index + 1 + (c :: line).length - 1 = index + ((c :: line).length + 1) - 1 := by
      omega
    have hvalues : joinWith ", ".toList ((b :: c :: line).map byteToken) =
        byteToken b ++ ", ".toList ++ joinWith ", ".toList ((c :: line).map byteToken) :=
      joinWith_cons (List.cons_ne_nil _ _)
    rw [byteItems, hline, hlast, byteItem_eq, if_neg hinner, mark_of_ne hcomma,
      indent_of_ne hinside, hvalues]
    simp

/-- Behind some values the layout goes on with the next index. -/
theorem byteItems_append (terminator count : Nat) (xs ys : Bytes) : ∀ (index : Nat),
    byteItems terminator count index (xs ++ ys) =
      byteItems terminator count index xs ++
        byteItems terminator count (index + xs.length) ys := by
  induction xs with
  | nil => intro index; rfl
  | cons x xs ih =>
    intro index
    rw [List.cons_append, byteItems, ih, byteItems, List.length_cons, List.append_assoc,
      Nat.add_assoc, Nat.add_comm 1]

/-- **The values are written line by line,** from the start of a line on, if the terminator stands
behind the last one. -/
theorem byteItems_lines {values : Bytes} (hne : values ≠ []) :
    ∀ (index : Nat), index % valuesPerLine = 0 →
      byteItems (index + values.length - 1) (index + values.length) index values =
        joinWith ",\n".toList ((values.toChunks valuesPerLine).map lineOf) ++
          "\x7d;\n".toList := by
  have hpositive : 0 < valuesPerLine := by decide
  induction values using chunkInduction hpositive with
  | nil => exact absurd rfl hne
  | last line hline hshort =>
    intro index hstart
    have hpos : 0 < line.length := List.length_pos_iff.2 hline
    rw [toChunks_of_length_le hline hshort, byteItems_line _ _ _ _ hline (by omega) (by omega)
      (by omega) (by omega), indent, if_pos hstart, mark, if_pos rfl]
    simp [joinWith, lineOf]
  | full line rest hline hlength hrest ih =>
    intro index hstart
    have hpos : 0 < line.length := List.length_pos_iff.2 hline
    have hrestpos : 0 < rest.length := List.length_pos_iff.2 hrest
    have hnext : (index + line.length) % valuesPerLine = 0 := by
      rw [hlength, Nat.add_mod_right, hstart]
    have hcount : index + (line ++ rest).length = index + line.length + rest.length := by
      rw [List.length_append, Nat.add_assoc]
    have hcomma : index + line.length - 1 ≠ index + line.length + rest.length - 1 := by omega
    have hlines : (rest.toChunks valuesPerLine).map lineOf ≠ [] :=
      mt List.map_eq_nil_iff.1 (toChunks_ne_nil hpositive hrest)
    rw [byteItems_append, hcount, ih hrest _ hnext, byteItems_line _ _ _ _ hline (by omega)
      (by omega) (by omega) (by omega), indent, if_pos hstart, mark_of_ne hcomma,
      toChunks_append hline hlength hrest, List.map_cons, joinWith_cons hlines]
    simp [lineOf]

/-- The opening of a declaration, up to the brace. -/
def opening (name : Text) : Text := "byte[] ".toList ++ name ++ " = \x7b".toList

/-- The opening ends its line if there are values, and each value is written with its index counted
from zero. -/
theorem declareBytes_eq (name : Text) (boundary : Boundary) {values : Bytes} (hne : values ≠ []) :
    declareBytes name boundary values = opening name ++ '\n' ::
      byteItems (boundary.terminatorIndex values.length) values.length 0 values := by
  have hsome : values.isEmpty = false := List.isEmpty_eq_false_iff.2 hne
  unfold declareBytes opening
  simp only [hsome, Bool.false_eq_true, if_false]

/-- Without values the terminator follows the opening on the same line. -/
theorem declareBytes_nil (name : Text) (boundary : Boundary) :
    declareBytes name boundary [] = opening name ++ "\x7d;\n".toList := rfl

/-- **With the terminator behind the last value the values are written line by line.** -/
theorem linesOf_eq {values : Bytes} (hne : values ≠ []) :
    linesOf values = '\n' :: byteItems (values.length - 1) values.length 0 values := by
  have hlines := byteItems_lines hne 0 (Nat.zero_mod _)
  rw [Nat.zero_add] at hlines
  rw [linesOf, if_neg hne, hlines]
  rfl

/-- **Under the exact rule a declaration is its values cut into lines.** The indices that the items
are told by are gone on the right hand side. -/
theorem declareBytes_exact (name : Text) (values : Bytes) :
    declareBytes name .exact values = opening name ++ linesOf values := by
  by_cases hne : values = []
  · subst hne
    exact declareBytes_nil name .exact
  · rw [declareBytes_eq name .exact hne, linesOf_eq hne]
    rfl

/-! ### Reading the values back -/

/-- The values in a text: what two digits behind `(byte) 0x` stand for, wherever that is. -/
def valuesIn : Text → Bytes
  | [] => []
  | c :: cs =>
    match after? "(byte) 0x".toList (c :: cs) with
    | some (high :: low :: _) =>
      match Hex.decode [high, low] with
      | .ok values => values ++ valuesIn cs
      | .error _ => valuesIn cs
    | _ => valuesIn cs

/-- The values of a text start at its opening parentheses, so text without one holds none. -/
theorem valuesIn_append {t : Text} (h : '(' ∉ t) (rest : Text) :
    valuesIn (t ++ rest) = valuesIn rest := by
  induction t with
  | nil => rfl
  | cons c cs ih =>
    obtain ⟨hc, hcs⟩ := not_or.1 (mt List.mem_cons.2 h)
    have hnone : after? "(byte) 0x".toList (c :: (cs ++ rest)) = none := if_neg hc
    rw [List.cons_append, valuesIn, hnone, ih hcs]

/-- A value that is written is read back, and reading goes on right behind it. -/
theorem valuesIn_byteToken (b : UInt8) (rest : Text) :
    valuesIn (byteToken b ++ rest) = b :: valuesIn rest := by
  have hfront : '(' ∉ "byte) 0x".toList := by decide
  have hclean : '(' ∉ "byte) 0x".toList ++ Hex.encodeByte b :=
    mt List.mem_append.1 (not_or.2 ⟨hfront, Hex.not_mem_encodeByte (by decide) b⟩)
  have hread : Hex.decode (Hex.encodeByte b) = .ok [b] := Hex.decode_encode [b]
  show valuesIn ('(' :: ("byte) 0x".toList ++ Hex.encodeByte b ++ rest)) = _
  have hafter : after? "(byte) 0x".toList ('(' :: ("byte) 0x".toList ++ Hex.encodeByte b ++ rest)) =
      some (Hex.encodeByte b ++ rest) := rfl
  rw [valuesIn, hafter, valuesIn_append hclean]
  show (match Hex.decode (Hex.encodeByte b) with
    | .ok values => values ++ valuesIn rest
    | .error _ => valuesIn rest) = b :: valuesIn rest
  rw [hread]
  rfl

/-- What stands around a value holds no parenthesis, so an item holds its value and nothing else.
Where the terminator stands makes no difference. -/
theorem valuesIn_byteItem (terminator count index : Nat) (b : UInt8) (rest : Text) :
    valuesIn (byteItem terminator count index b ++ rest) = b :: valuesIn rest := by
  have hend : '(' ∉ mark terminator index ++
      if (index + 1) % valuesPerLine = 0 ∨ index + 1 = count then ['\n'] else [] := by
    unfold mark
    split <;> split <;> decide
  rw [byteItem_eq, List.append_assoc, List.append_assoc, List.append_assoc,
    valuesIn_append (not_mem_indent (by decide) index), valuesIn_byteToken, ← List.append_assoc,
    valuesIn_append hend]

/-- **The values are read back,** wherever the terminator stands. -/
theorem valuesIn_byteItems (terminator count : Nat) (values : Bytes) (rest : Text) :
    ∀ (index : Nat), valuesIn (byteItems terminator count index values ++ rest) =
      values ++ valuesIn rest := by
  induction values with
  | nil => intro index; rfl
  | cons b values ih =>
    intro index
    rw [byteItems, List.append_assoc, valuesIn_byteItem, ih, List.cons_append]

/-- All values come back in their order, under any rule for the terminator. -/
theorem valuesIn_byteItems_eq (terminator count index : Nat) (values : Bytes) :
    valuesIn (byteItems terminator count index values) = values := by
  have hread := valuesIn_byteItems terminator count values [] index
  rwa [List.append_nil, valuesIn, List.append_nil] at hread

/-- All values come back from the lines, since the lines are items under the exact rule. -/
theorem valuesIn_linesOf (values : Bytes) : valuesIn (linesOf values) = values := by
  by_cases hne : values = []
  · subst hne
    rfl
  · have hbreak : '(' ∉ ['\n'] := by decide
    rw [linesOf_eq hne, ← List.singleton_append, valuesIn_append hbreak, valuesIn_byteItems_eq]

/-! ### Declarations of hexadecimal strings -/

/-- A declaration fails exactly as reading its digits does. Neither the name nor the rule can make
it fail. -/
theorem declareHex_eq_error_iff {hex name : Text} {boundary : Boundary} {error : Hex.Error} :
    declareHex hex name boundary = .error error ↔ Hex.decode hex = .error error := by
  unfold declareHex
  cases Hex.decode hex with
  | error cause => simp only [Except.map, Except.error.injEq]
  | ok values => simp only [Except.map, reduceCtorEq]

/-- A declaration of a hexadecimal string is the declaration of the bytes that the string stands
for. -/
theorem declareHex_eq_ok_iff {hex name : Text} {boundary : Boundary} {literal : Text} :
    declareHex hex name boundary = .ok literal ↔
      ∃ values, Hex.decode hex = .ok values ∧ literal = declareBytes name boundary values := by
  unfold declareHex
  cases Hex.decode hex with
  | error cause => simp only [Except.map, reduceCtorEq, false_and, exists_false]
  | ok values => simp only [Except.map, Except.ok.injEq, exists_eq_left', eq_comm]

/-- **A declaration is the layout of the bytes that the digits stand for,** line by line, and these
bytes are read off it. It fails where the digits stand for nothing, and the case of letters makes no
difference. -/
theorem declareHex_exact (hex name : Text) :
    ((∃ error, declareHex hex name .exact = .error error) ↔
      (utf8 hex).length % 2 = 1 ∨ ∃ b ∈ utf8 hex, ¬ Hex.IsDigit b) ∧
    (∀ error, declareHex hex name .exact = .error error ↔ Hex.Decoding hex (.error error)) ∧
    (∀ literal, declareHex hex name .exact = .ok literal ↔ ∃ values,
      Hex.Decoding hex (.ok values) ∧ literal = opening name ++ linesOf values ∧
        valuesIn (linesOf values) = values) ∧
    (∀ other literal, other.map Char.toLower = hex.map Char.toLower →
      declareHex hex name .exact = .ok literal → declareHex other name .exact = .ok literal) := by
  refine ⟨?_, fun error => ?_, fun literal => ?_, fun other literal hcase hliteral => ?_⟩
  · simp only [declareHex_eq_error_iff]
    exact Hex.exists_error_iff hex
  · rw [declareHex_eq_error_iff, Hex.decode_eq_iff]
  · simp only [declareHex_eq_ok_iff, Hex.decode_eq_iff, declareBytes_exact, valuesIn_linesOf,
      and_true]
  · obtain ⟨values, hdecode, rfl⟩ := declareHex_eq_ok_iff.1 hliteral
    exact declareHex_eq_ok_iff.2 ⟨values, Hex.decode_of_toLower_eq hcase.symm hdecode, rfl⟩

/-- Nine bytes are two lines. -/
theorem declareHex_exact_twoLines :
    "0102030405060708AF".toList.map Char.toLower = "0102030405060708aF".toList.map Char.toLower ∧
      declareHex "0102030405060708aF".toList ['b'] .exact = .ok
        "byte[] b = \x7b
    (byte) 0x01, (byte) 0x02, (byte) 0x03, (byte) 0x04, (byte) 0x05, (byte) 0x06, (byte) 0x07, (byte) 0x08,
    (byte) 0xaf\x7d;
".toList ∧
      declareHex "0102030405060708AF".toList ['b'] .exact =
        declareHex "0102030405060708aF".toList ['b'] .exact := by
  have hcase : "0102030405060708AF".toList.map Char.toLower =
      "0102030405060708aF".toList.map Char.toLower := by decide
  have hliteral : declareHex "0102030405060708aF".toList ['b'] .exact = .ok
      "byte[] b = \x7b
    (byte) 0x01, (byte) 0x02, (byte) 0x03, (byte) 0x04, (byte) 0x05, (byte) 0x06, (byte) 0x07, (byte) 0x08,
    (byte) 0xaf\x7d;
".toList := by
    decide +kernel
  exact ⟨hcase, hliteral,
    ((declareHex_exact "0102030405060708aF".toList ['b']).2.2.2 _ _ hcase hliteral).trans
      hliteral.symm⟩

end Java
end TableCodegen
