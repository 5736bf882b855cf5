import Mathlib.Data.List.Forall2
import Mathlib.Data.List.Infix
import TableCodegen.ReferencePoint

/-!
# Words taken out of references

A references cell is cut at its spaces, the tokens `TS` go, and from every other token `TS` is taken
out in one pass from the left. What stood on both sides of an occurrence are neighbours afterwards,
and together they may spell the word anew.

| token | reference |
| --- | --- |
| `36.300` | `36.300` |
| `TS36.300` | `36.300` |
| `TTSS36.300` | `TS36.300` |
| `TTSTSS` | `TS` |

So there is a reference for each token, in their order, and it is what stands between the
occurrences of the word in its token. It holds the word exactly if in the token a `T`, the word once
or several times, and an `S` follow one another (`references_hold_word`).
-/

namespace TableCodegen
namespace Text

/-! ### Parts between the occurrences of a pattern -/

section Patterns

variable {p : Char} {ps : Text}

/-- **The cases of a text by a pattern:** there is none, the pattern stands in front, or it does not
and a character does. -/
@[elab_as_elim]
theorem patternInduction (p : Char) (ps : Text) {motive : Text → Prop} (nil : motive [])
    (pattern : ∀ t, motive t → motive (p :: ps ++ t))
    (other : ∀ c t, ¬ p :: ps <+: c :: t → motive t → motive (c :: t)) (t : Text) : motive t := by
  match t with
  | [] => exact nil
  | c :: cs =>
    by_cases h : p :: ps <+: c :: cs
    · obtain ⟨rest, hrest⟩ := h
      have hlength : rest.length < (c :: cs).length := by
        rw [← hrest, List.length_append, List.length_cons]
        omega
      rw [← hrest]
      exact pattern rest (patternInduction p ps nil pattern other rest)
    · exact other c cs h (patternInduction p ps nil pattern other cs)
termination_by t.length
decreasing_by
  · exact hlength
  · exact Nat.lt_succ_self _

/-- Characters that are to be skipped are skipped, whatever they are. -/
theorem splitFrom_append (s t : Text) :
    splitFrom p ps s.length (s ++ t) = splitFrom p ps 0 t := by
  induction s with
  | nil => rfl
  | cons c cs ih => rw [List.length_cons, List.cons_append, splitFrom, ih]

/-- An occurrence at the front ends an empty part, and splitting starts anew behind it. -/
theorem splitOnText_pattern (t : Text) :
    splitOnText (p :: ps) (p :: ps ++ t) = [] :: splitOnText (p :: ps) t := by
  have hopens : (p :: ps).isPrefixOf (p :: (ps ++ t)) = true :=
    List.isPrefixOf_iff_prefix.2 (List.prefix_append (p :: ps) t)
  rw [splitOnText, List.cons_append, splitFrom, if_pos hopens, splitFrom_append, splitOnText]

/-- Without an occurrence at the front the first character belongs to the first part. -/
theorem splitOnText_other {c : Char} {t : Text} (h : ¬ p :: ps <+: c :: t) :
    splitOnText (p :: ps) (c :: t) = consHead c (splitOnText (p :: ps) t) := by
  rw [splitOnText, splitFrom, if_neg fun hopens => h (List.isPrefixOf_iff_prefix.1 hopens),
    splitOnText]

/-- A character in front of the first part leaves a list that has one. -/
theorem consHead_ne_nil (c : Char) (parts : List Text) : consHead c parts ≠ [] := by
  cases parts <;> exact List.cons_ne_nil _ _

/-- There is always a part, if only an empty one. -/
theorem splitOnText_ne_nil (t : Text) : splitOnText (p :: ps) t ≠ [] := by
  cases t with
  | nil => exact List.cons_ne_nil _ _
  | cons c cs =>
    rw [splitOnText, splitFrom]
    split
    · exact List.cons_ne_nil _ _
    · exact consHead_ne_nil _ _

/-- A character in front of the first part is in front of all of them joined. -/
theorem joinWith_consHead {separator : Text} (c : Char) {parts : List Text} (h : parts ≠ []) :
    joinWith separator (consHead c parts) = c :: joinWith separator parts := by
  match parts, h with
  | [part], _ => simp only [consHead, joinWith, List.intercalate_singleton]
  | part :: other :: others, _ =>
    have hothers : other :: others ≠ [] := List.cons_ne_nil _ _
    simp only [consHead, joinWith, List.intercalate_cons_of_ne_nil hothers, List.cons_append]

/-- Put together again, the parts of a text and the pattern between them are the text. -/
theorem joinWith_splitOnText (t : Text) : joinWith (p :: ps) (splitOnText (p :: ps) t) = t := by
  induction t using patternInduction p ps with
  | nil => rfl
  | pattern t ih =>
    rw [splitOnText_pattern, joinWith, List.intercalate_cons_of_ne_nil (splitOnText_ne_nil t),
      List.nil_append]
    exact congrArg (p :: ps ++ ·) ih
  | other c t h ih => rw [splitOnText_other h, joinWith_consHead c (splitOnText_ne_nil t), ih]

/-- Joined parts start with the first of them. -/
theorem prefix_joinWith {separator first : Text} {others : List Text} :
    first <+: joinWith separator (first :: others) := by
  by_cases h : others = []
  · rw [h, joinWith, List.intercalate_singleton]
  · rw [joinWith, List.intercalate_cons_of_ne_nil h, List.append_assoc]
    exact List.prefix_append _ _

/-- No part holds the pattern. Splitting takes the first occurrence each time, so one inside a part
would have been taken before the part ended. -/
theorem not_infix_of_mem_splitOnText {t part : Text} (hpart : part ∈ splitOnText (p :: ps) t) :
    ¬ p :: ps <:+: part := by
  have hnil : ¬ p :: ps <:+: ([] : Text) := fun h => List.cons_ne_nil _ _ (List.infix_nil.1 h)
  induction t using patternInduction p ps generalizing part with
  | nil =>
    obtain rfl := List.mem_singleton.1 hpart
    exact hnil
  | pattern t ih =>
    rw [splitOnText_pattern] at hpart
    obtain rfl | hpart := List.mem_cons.1 hpart
    · exact hnil
    · exact ih hpart
  | other c t h ih =>
    have hjoin : joinWith (p :: ps) (splitOnText (p :: ps) t) = t := joinWith_splitOnText t
    rw [splitOnText_other h] at hpart
    cases hparts : splitOnText (p :: ps) t with
    | nil => exact absurd hparts (splitOnText_ne_nil t)
    | cons first others =>
      rw [hparts] at hpart hjoin ih
      obtain rfl | hpart := List.mem_cons.1 hpart
      · -- The part grows by a character at which the pattern does not stand.
        rw [List.infix_cons_iff]
        rintro (hopens | hinside)
        · refine h (hopens.trans (List.cons_prefix_cons.2 ⟨rfl, ?_⟩))
          rw [← hjoin]
          exact prefix_joinWith
        · exact ih List.mem_cons_self hinside
      · exact ih (List.mem_cons_of_mem _ hpart)

/-- Nothing is left of nothing. -/
theorem replaceAll_nil : replaceAll (p :: ps) [] [] = [] := rfl

/-- Joined with nothing between them, parts are just concatenated. A replacement by nothing does
this. -/
theorem joinWith_nil (parts : List Text) : joinWith [] parts = parts.flatten := by
  induction parts with
  | nil => rfl
  | cons first others ih =>
    cases others with
    | nil => simp [joinWith]
    | cons other others =>
      rw [joinWith, List.intercalate_cons_of_ne_nil (List.cons_ne_nil _ _), List.append_nil]
      exact congrArg (first ++ ·) ih

/-- An occurrence at the front is taken out, and the pass goes on behind it. It does not look at
what stood in front, which is why the word may arise anew. -/
theorem replaceAll_pattern (t : Text) :
    replaceAll (p :: ps) [] (p :: ps ++ t) = replaceAll (p :: ps) [] t := by
  rw [replaceAll, splitOnText_pattern, joinWith_nil, List.flatten_cons, List.nil_append,
    ← joinWith_nil, replaceAll]

/-- Without an occurrence at the front the first character stays. -/
theorem replaceAll_other {c : Char} {t : Text} (h : ¬ p :: ps <+: c :: t) :
    replaceAll (p :: ps) [] (c :: t) = c :: replaceAll (p :: ps) [] t := by
  rw [replaceAll, splitOnText_other h, joinWith_consHead c (splitOnText_ne_nil t), replaceAll]

end Patterns

/-- What is left of a text without a word: the parts of the text between the occurrences of the
word, put together. -/
def LeftWithout (word t left : Text) : Prop :=
  ∃ parts, (∀ part ∈ parts, ¬ word <:+: part) ∧ t = joinWith word parts ∧ left = parts.flatten

/-- **What a pass leaves is what `LeftWithout` says.** The parts are those that the text is split
into at the word: none holds it, and put together without it they are what is left. -/
theorem leftWithout_replaceAll (p : Char) (ps t : Text) :
    LeftWithout (p :: ps) t (replaceAll (p :: ps) [] t) :=
  ⟨splitOnText (p :: ps) t, fun _ => not_infix_of_mem_splitOnText, (joinWith_splitOnText t).symm,
    joinWith_nil _⟩

end Text

namespace ReferencePoint

open Text

/-! ### The word in what is left -/

/-- A `T`, the word so many times, and an `S`. -/
def nestedWord (count : Nat) : Text :=
  'T' :: ((List.replicate count specificationWord).flatten ++ ['S'])

/-- The word as its two characters, the form in which the pattern lemmas apply to it. -/
theorem specificationWord_eq : specificationWord = ['T', 'S'] := rfl

/-- Words in front of a text are prefixes of it one by one. -/
theorem words_prefix_word (count : Nat) (t : Text) :
    (List.replicate count specificationWord).flatten ++ ['S'] <+: 'T' :: 'S' :: t ↔
      ∃ fewer, count = fewer + 1 ∧
        (List.replicate fewer specificationWord).flatten ++ ['S'] <+: t := by
  cases count with
  | zero => simp
  | succ count =>
    simp [List.replicate_succ, specificationWord_eq, List.cons_prefix_cons]

/-- What is left begins with an `S` if an `S` stands behind words at the start. The words in front
are taken out one after the other, so it is the first letter to stay. -/
theorem head?_replaceAll (t : Text) :
    (replaceAll specificationWord [] t).head? = some 'S' ↔
      ∃ count, (List.replicate count specificationWord).flatten ++ ['S'] <+: t := by
  induction t using patternInduction 'T' ['S'] with
  | nil => simp [specificationWord_eq, replaceAll_nil]
  | pattern t ih =>
    have hstep : (∃ count, (List.replicate count specificationWord).flatten ++ ['S'] <+:
        'T' :: 'S' :: t) ↔
        ∃ count, (List.replicate count specificationWord).flatten ++ ['S'] <+: t := by
      simp only [words_prefix_word]
      constructor
      · rintro ⟨_, fewer, -, hfewer⟩
        exact ⟨fewer, hfewer⟩
      · rintro ⟨fewer, hfewer⟩
        exact ⟨fewer + 1, fewer, rfl, hfewer⟩
    rw [specificationWord_eq, replaceAll_pattern, ← specificationWord_eq]
    exact ih.trans hstep.symm
  | other c t h _ =>
    rw [specificationWord_eq, replaceAll_other h, ← specificationWord_eq, List.head?_cons,
      Option.some.injEq]
    constructor
    · rintro rfl
      exact ⟨0, by simp⟩
    · rintro ⟨count, hcount⟩
      cases count with
      | zero => exact (List.cons_prefix_cons.1 hcount).1.symm
      | succ count =>
        refine absurd (List.IsPrefix.trans ?_ hcount) h
        rw [List.replicate_succ, List.flatten_cons, List.append_assoc]
        exact List.prefix_append _ _

/-- **What is left holds the word** exactly if words stand between a `T` and an `S`. One pass takes
out the inner words and lets the outer letters meet. -/
theorem word_infix_replaceAll (t : Text) :
    specificationWord <:+: replaceAll specificationWord [] t ↔
      ∃ count, nestedWord (count + 1) <:+: t := by
  induction t using patternInduction 'T' ['S'] with
  | nil => simp [specificationWord_eq, replaceAll_nil, nestedWord]
  | pattern t ih =>
    have hstep : ∀ count, nestedWord (count + 1) <:+: specificationWord ++ t ↔
        nestedWord (count + 1) <:+: t := by
      intro count
      simp [List.infix_cons_iff, nestedWord, List.replicate_succ, specificationWord_eq,
        List.cons_prefix_cons]
    rw [specificationWord_eq, replaceAll_pattern, ← specificationWord_eq, ih]
    exact exists_congr fun count => (hstep count).symm
  | other c t h ih =>
    have hopens : specificationWord <+: c :: replaceAll specificationWord [] t ↔
        ∃ count, nestedWord (count + 1) <+: c :: t := by
      have hhead : specificationWord <+: c :: replaceAll specificationWord [] t ↔
          'T' = c ∧ (replaceAll specificationWord [] t).head? = some 'S' := by
        rw [specificationWord_eq, List.cons_prefix_cons]
        cases replaceAll ['T', 'S'] [] t <;> simp [List.cons_prefix_cons, eq_comm]
      rw [hhead, head?_replaceAll]
      constructor
      · rintro ⟨rfl, count, hcount⟩
        cases count with
        | zero => exact absurd (List.cons_prefix_cons.2 ⟨rfl, hcount⟩) h
        | succ count => exact ⟨count, List.cons_prefix_cons.2 ⟨rfl, hcount⟩⟩
      · rintro ⟨count, hcount⟩
        obtain ⟨hc, hcount⟩ := List.cons_prefix_cons.1 hcount
        exact ⟨hc, count + 1, hcount⟩
    rw [specificationWord_eq, replaceAll_other h, ← specificationWord_eq, List.infix_cons_iff,
      hopens, ih]
    simp only [List.infix_cons_iff, exists_or]

/-- **What becomes of the word in references.** Each token of a cell other than the word gives one
reference, in their order: what is left of the token without the word. The reference holds the word
exactly if in the token the word stands, once or several times in a row, between a `T` and an
`S`. -/
theorem references_hold_word (cell : Text) :
    List.Forall₂ (fun token reference =>
        LeftWithout specificationWord token reference ∧
        (specificationWord <:+: reference ↔ ∃ count, nestedWord (count + 1) <:+: token))
      ((cell.splitOn ' ').filter (· ≠ specificationWord)) (referenceItems cell) := by
  rw [referenceItems, List.forall₂_map_right_iff, List.forall₂_same]
  exact fun token _ => ⟨leftWithout_replaceAll _ _ token, word_infix_replaceAll token⟩

/-- A word inside another leaves a word, which its own token does not. -/
example : referenceItems "TS TTSS36.300 TS23.401".toList =
    ["TS36.300".toList, "23.401".toList] := by decide

end ReferencePoint
end TableCodegen
