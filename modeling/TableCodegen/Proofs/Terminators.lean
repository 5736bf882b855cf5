import Mathlib.Data.List.Infix
import TableCodegen.Proofs.ByteLines

/-!
# How the two boundary rules differ

The rules tell the index of the value that the terminator follows, and no other character of a
declaration depends on that index. Where they tell the same index, the declarations are the same.
Else the legacy rule tells the last but one: then the comma behind that value and the terminator
behind the last value change places (`Swapped`).

| values | legacy index | exact index |
| --- | --- | --- |
| a multiple of eight, or one | last | last |
| any other number | last but one | last |

In both declarations there is one terminator, and the same values are read off them.
-/

namespace TableCodegen
namespace Java

open Text

/-- What ends a declaration. -/
def terminator : Text := ['\x7d', ';']

/-- How often a pattern stands in a text. -/
def occurrences (pattern t : Text) : Nat := t.tails.countP pattern.isPrefixOf

/-- Two layouts of values that are the same up to the value before the last. One has a comma there
and the terminator behind the last value, and the other has them the other way round. -/
inductive Swapped : Bytes → Text → Text → Prop where
  | intro (b c : UInt8) {values : Bytes} {front gap : Text} (hfront : valuesIn front = values)
      (hgap : gap = [' '] ∨ gap = "\n    ".toList) :
      Swapped (values ++ [b, c])
        (front ++ byteToken b ++ [','] ++ gap ++ byteToken c ++ terminator ++ ['\n'])
        (front ++ byteToken b ++ terminator ++ gap ++ byteToken c ++ [','] ++ ['\n'])

/-! ### Terminators in a layout -/

/-- Occurrences may overlap, so one is counted at every place where the pattern starts. -/
theorem occurrences_cons (pattern : Text) (c : Char) (cs : Text) :
    occurrences pattern (c :: cs) =
      occurrences pattern cs + if pattern.isPrefixOf (c :: cs) then 1 else 0 := by
  rw [occurrences, List.tails_cons, List.countP_cons, occurrences]

/-- No terminator starts where no brace is. -/
theorem occurrences_append {t : Text} (h : '\x7d' ∉ t) (rest : Text) :
    occurrences terminator (t ++ rest) = occurrences terminator rest := by
  induction t with
  | nil => rfl
  | cons c cs ih =>
    obtain ⟨hc, hcs⟩ := not_or.1 (mt List.mem_cons.2 h)
    have hother : terminator.isPrefixOf (c :: (cs ++ rest)) = false :=
      Bool.and_eq_false_imp.2 fun heq => absurd (eq_of_beq heq) hc
    rw [List.cons_append, occurrences_cons, ih hcs, hother]
    rfl

/-- The closing brace is not its own continuation, so a terminator in front adds one occurrence and
makes no other. -/
theorem occurrences_terminator (rest : Text) :
    occurrences terminator (terminator ++ rest) = occurrences terminator rest + 1 := by
  have hsecond : '\x7d' ∉ [';'] := by decide
  have hhere : terminator.isPrefixOf (terminator ++ rest) = true :=
    List.isPrefixOf_iff_prefix.2 (List.prefix_append _ _)
  show occurrences terminator ('\x7d' :: ([';'] ++ rest)) = _
  rw [occurrences_cons, occurrences_append hsecond]
  exact congrArg _ (if_pos hhere)

/-- A value holds no closing brace, so the only terminator of a layout is the mark. -/
theorem not_mem_byteToken (b : UInt8) : '\x7d' ∉ byteToken b := by
  have hfront : '\x7d' ∉ "(byte) 0x".toList := by decide
  unfold byteToken
  exact mt List.mem_append.1 (not_or.2 ⟨hfront, Hex.not_mem_encodeByte (by decide) b⟩)

/-- Behind a value there is a terminator if its index is the one that the rule tells. -/
theorem occurrences_byteItem (last count index : Nat) (b : UInt8) (rest : Text) :
    occurrences terminator (byteItem last count index b ++ rest) =
      occurrences terminator rest + if index = last then 1 else 0 := by
  have hend : '\x7d' ∉
      if (index + 1) % valuesPerLine = 0 ∨ index + 1 = count then ['\n'] else [] := by
    split <;> decide
  have hcomma : '\x7d' ∉ [','] := by decide
  rw [byteItem_eq, List.append_assoc, List.append_assoc, List.append_assoc,
    occurrences_append (not_mem_indent (by decide) index),
    occurrences_append (not_mem_byteToken b), mark]
  split
  · exact (occurrences_terminator _).trans (congrArg (· + 1) (occurrences_append hend rest))
  · rw [occurrences_append hcomma, occurrences_append hend, Nat.add_zero]

/-- **One of the values has a terminator behind it,** if the index that the rule tells is among
theirs. -/
theorem occurrences_byteItems (last count : Nat) (values : Bytes) (rest : Text) : ∀ (index : Nat),
    occurrences terminator (byteItems last count index values ++ rest) =
      occurrences terminator rest +
        if index ≤ last ∧ last < index + values.length then 1 else 0 := by
  induction values with
  | nil =>
    intro index
    rw [if_neg (by rw [List.length_nil]; omega)]
    rfl
  | cons b values ih =>
    intro index
    rw [byteItems, List.append_assoc, occurrences_byteItem, ih, List.length_cons]
    split_ifs <;> omega

/-! ### Where the terminator stands -/

/-- In front of the terminator a layout does not depend on it. -/
theorem byteItems_congr {last last' : Nat} (count : Nat) (values : Bytes) : ∀ (index : Nat),
    index + values.length ≤ last → index + values.length ≤ last' →
      byteItems last count index values = byteItems last' count index values := by
  induction values with
  | nil => intro index _ _; rfl
  | cons b values ih =>
    intro index hlast hlast'
    rw [List.length_cons] at hlast hlast'
    rw [byteItems, byteItems, ih (index + 1) (by omega) (by omega), byteItem_eq, byteItem_eq,
      mark_of_ne (by omega), mark_of_ne (by omega)]

/-- The last two values of a layout, with what stands behind each of them. -/
theorem byteItems_lastTwo (last : Nat) (values : Bytes) (b c : UInt8)
    (hlast : values.length ≤ last) :
    byteItems last (values.length + 2) 0 (values ++ [b, c]) =
      byteItems values.length (values.length + 2) 0 values ++ indent values.length ++ byteToken b ++
        mark last values.length ++
        (if (values.length + 1) % valuesPerLine = 0 then "\n    ".toList else [' ']) ++
        byteToken c ++ mark last (values.length + 1) ++ ['\n'] := by
  have hfront : byteItems last (values.length + 2) 0 values =
      byteItems values.length (values.length + 2) 0 values :=
    byteItems_congr _ values 0 (by omega) (by omega)
  have hinside : ¬ values.length + 1 = values.length + 2 := by omega
  rw [byteItems_append, hfront, Nat.zero_add, byteItems, byteItems, byteItems, byteItem_eq,
    byteItem_eq, if_pos (Or.inr rfl : _ ∨ values.length + 1 + 1 = values.length + 2)]
  simp only [indent.eq_def (values.length + 1), hinside, or_false]
  split <;> simp

/-- The body of a declaration: what stands behind the brace and its line break. -/
def body (boundary : Boundary) (values : Bytes) : Text :=
  if values = [] then terminator ++ ['\n']
  else byteItems (boundary.terminatorIndex values.length) values.length 0 values

/-- **The rule is seen in the body alone.** The opening and the end of its line depend on the name
and on whether there are values. -/
theorem declareBytes_eq_body (name : Text) (boundary : Boundary) (values : Bytes) :
    declareBytes name boundary values =
      opening name ++ (if values = [] then [] else ['\n']) ++ body boundary values := by
  by_cases hne : values = []
  · subst hne
    rw [declareBytes_nil, List.append_assoc]
    rfl
  · rw [declareBytes_eq name boundary hne, body, if_neg hne, if_neg hne, List.append_assoc]
    rfl

/-- Both rules tell the index of a value, so exactly one value has the terminator behind it. -/
theorem terminatorIndex_lt (boundary : Boundary) {count : Nat} (h : 0 < count) :
    boundary.terminatorIndex count < count := by
  cases boundary with
  | exact => exact Nat.sub_lt h Nat.one_pos
  | legacy =>
    rw [Boundary.terminatorIndex]
    split <;> omega

/-- **There is one terminator**, behind one of the values or, if there are none, behind the
opening. -/
theorem occurrences_body (boundary : Boundary) (values : Bytes) :
    occurrences terminator (body boundary values) = 1 := by
  by_cases hne : values = []
  · subst hne
    rfl
  · have hindex := terminatorIndex_lt boundary (List.length_pos_iff.2 hne)
    have honce := occurrences_byteItems (boundary.terminatorIndex values.length) values.length
      values [] 0
    rw [List.append_nil, if_pos (by omega)] at honce
    rw [body, if_neg hne, honce]
    rfl

/-- The same values come back under both rules, whether there are any or not. -/
theorem valuesIn_body (boundary : Boundary) (values : Bytes) :
    valuesIn (body boundary values) = values := by
  by_cases hne : values = []
  · subst hne
    rfl
  · rw [body, if_neg hne, valuesIn_byteItems_eq]

/-- Where the two rules tell the same index, the bodies are the same. -/
theorem body_legacy_eq {values : Bytes} (h : values.length % 8 = 0 ∨ values.length = 1) :
    body .legacy values = body .exact values := by
  have hindex : Boundary.legacy.terminatorIndex values.length =
      Boundary.exact.terminatorIndex values.length := by
    rw [Boundary.terminatorIndex, Boundary.terminatorIndex, valuesPerLine]
    split <;> omega
  rw [body, body, hindex]

/-- With two values or more there are a last one and a last but one, and these are the two whose
marks change places. -/
theorem exists_lastTwo {values : Bytes} (h : 2 ≤ values.length) :
    ∃ front b c, values = front ++ [b, c] := by
  obtain ⟨b, c, htail⟩ := List.length_eq_two.1
    (show (values.drop (values.length - 2)).length = 2 by rw [List.length_drop]; omega)
  exact ⟨values.take (values.length - 2), b, c, by rw [← htail, List.take_append_drop]⟩

/-- **Where the two rules tell different indices,** only what stands behind the last two values is
not the same. -/
theorem swapped_body {values : Bytes} (h : ¬ (values.length % 8 = 0 ∨ values.length = 1)) :
    Swapped values (body .exact values) (body .legacy values) := by
  have htwo : 2 ≤ values.length := by omega
  obtain ⟨front, b, c, rfl⟩ := exists_lastTwo htwo
  have hlength : (front ++ [b, c]).length = front.length + 2 := List.length_append
  have hne : front ++ [b, c] ≠ [] := List.append_ne_nil_of_right_ne_nil _ (List.cons_ne_nil _ _)
  have hexact : Boundary.exact.terminatorIndex (front.length + 2) = front.length + 1 := rfl
  have hlegacy : Boundary.legacy.terminatorIndex (front.length + 2) = front.length := by
    rw [hlength] at h
    rw [Boundary.terminatorIndex, valuesPerLine, if_neg (mt .inl h)]
    rfl
  have hread : valuesIn (byteItems front.length (front.length + 2) 0 front ++ indent front.length) =
      front := by
    have hindent := valuesIn_append (not_mem_indent (by decide) front.length) []
    rw [List.append_nil] at hindent
    rw [valuesIn_byteItems, hindent, valuesIn, List.append_nil]
  have hbody := Swapped.intro b c hread (ite_eq_or_eq ((front.length + 1) % valuesPerLine = 0)
    "\n    ".toList [' ']).symm
  rw [body, body, if_neg hne, if_neg hne, hlength, hexact, hlegacy,
    byteItems_lastTwo _ _ _ _ (Nat.le_succ _), byteItems_lastTwo _ _ _ _ (Nat.le_refl _),
    mark_of_ne (Nat.succ_ne_self _).symm, mark_of_ne (Nat.succ_ne_self _), mark, if_pos rfl, mark,
    if_pos rfl]
  exact hbody

/-- A swap is seen. -/
theorem Swapped.ne {values : Bytes} {exact legacy : Text} (h : Swapped values exact legacy) :
    legacy ≠ exact := by
  cases h with
  | intro b c hfront hgap =>
    intro heq
    simp only [List.append_assoc, List.append_cancel_left_eq] at heq
    exact absurd (List.head_eq_of_cons_eq heq) (by decide)

/-- **The boundary rules differ in the place of the terminator alone.** They fail on the same
strings with the same error. Their declarations are the same where the number of values is a
multiple of eight, or one; else the comma behind the last value but one and the terminator behind
the last one change places. Each has one terminator, and the values in their order. -/
theorem declareHex_boundaries (hex name : Text) :
    (∀ error, declareHex hex name .legacy = .error error ↔
      declareHex hex name .exact = .error error) ∧
    ∀ values, Hex.decode hex = .ok values →
      (declareHex hex name .legacy = declareHex hex name .exact ↔
        values.length % 8 = 0 ∨ values.length = 1) ∧
      ∃ exact legacy,
        declareHex hex name .exact =
          .ok (opening name ++ (if values = [] then [] else ['\n']) ++ exact) ∧
        declareHex hex name .legacy =
          .ok (opening name ++ (if values = [] then [] else ['\n']) ++ legacy) ∧
        (¬ (values.length % 8 = 0 ∨ values.length = 1) → Swapped values exact legacy) ∧
        ∀ layout ∈ [exact, legacy],
          occurrences terminator layout = 1 ∧ valuesIn layout = values := by
  refine ⟨fun error => ?_, fun values hdecode => ?_⟩
  · rw [declareHex_eq_error_iff, declareHex_eq_error_iff]
  have hdeclare : ∀ boundary, declareHex hex name boundary =
      .ok (opening name ++ (if values = [] then [] else ['\n']) ++ body boundary values) :=
    fun boundary => declareHex_eq_ok_iff.2 ⟨values, hdecode, (declareBytes_eq_body ..).symm⟩
  refine ⟨?_, body .exact values, body .legacy values, hdeclare _, hdeclare _, swapped_body,
    fun layout hlayout => ?_⟩
  · rw [hdeclare, hdeclare, Except.ok.injEq, List.append_cancel_left_eq]
    exact ⟨fun heq => by_contra fun hother => (swapped_body hother).ne heq, body_legacy_eq⟩
  · obtain rfl | rfl := List.mem_pair.1 hlayout
    · exact ⟨occurrences_body _ values, valuesIn_body _ values⟩
    · exact ⟨occurrences_body _ values, valuesIn_body _ values⟩

/-- The ninth of nine values stands alone on its line. -/
theorem declareHex_boundaries_secondLine :
    Hex.decode "010203040506070809".toList = .ok [1, 2, 3, 4, 5, 6, 7, 8, 9] ∧
      declareHex "010203040506070809".toList ['b'] .legacy ≠
        declareHex "010203040506070809".toList ['b'] .exact ∧
      ∃ exact legacy, Swapped [1, 2, 3, 4, 5, 6, 7, 8, 9] exact legacy ∧
        declareHex "010203040506070809".toList ['b'] .legacy =
          .ok (opening ['b'] ++ ['\n'] ++ legacy) := by
  have hdecode : Hex.decode "010203040506070809".toList = .ok [1, 2, 3, 4, 5, 6, 7, 8, 9] := by
    decide +kernel
  obtain ⟨hsame, exact, legacy, -, hlegacy, hswapped, -⟩ :=
    (declareHex_boundaries "010203040506070809".toList ['b']).2 _ hdecode
  exact ⟨hdecode, mt hsame.1 (by decide), exact, legacy, hswapped (by decide), hlegacy⟩

end Java
end TableCodegen
