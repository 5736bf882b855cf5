import TableCodegen.Proofs.TemplateReading

/-!
# Runs of name characters in a tag

The reader of a tag looks for literals first, and a literal ends where its form ends. So a run of
name characters need not be one name:

| run | parameters |
| --- | --- |
| `table` | the variable `table` |
| `nilable` | the literal `nil`, the variable `able` |
| `truefalse` | the literals `true` and `false` |
| `a-1` | the variable `a-1` |
| `-1a` | the number `-1`, the variable `a` |

A run is read as parameters from its start to its end (`exists_runTokens`), whatever it is made of.
-/

namespace TableCodegen
namespace Liquid

open Text

/-- What is read at the start of a run, and the run that is left. -/
inductive RunStep : Text → Operand → Text → Prop where
  /-- No word of the language opens the run. -/
  | name {s : Text} (h : ∀ word ∈ words, ¬ word.1 <+: s) : RunStep s (.named s) []
  | word {word : Text × Value} (s : Text) (h : word ∈ words) :
    RunStep (word.1 ++ s) (.literal word.2) s
  | number {c : Char} (cs s : Text) (n : Int) (h : c = '-' ∨ isDigit c = true) :
    RunStep (c :: (cs ++ s)) (.literal (.int n)) s

/-- The parameters that a run is read as. -/
inductive RunTokens : Text → List Token → Prop where
  | done : RunTokens [] []
  | step {s rest : Text} {operand : Operand} {tokens : List Token} (hs : s ≠ [])
    (hstep : RunStep s operand rest) (hrest : RunTokens rest tokens) :
    RunTokens s (.chain ⟨operand, []⟩ :: tokens)

/-- What is left of a run is its end, so the reader goes on inside the run. -/
theorem RunStep.isSuffix {s rest : Text} {operand : Operand} (h : RunStep s operand rest) :
    rest <:+ s := by
  cases h with
  | name _ => exact List.nil_suffix
  | word _ _ => exact List.suffix_append _ _
  | number cs _ _ _ => exact (List.suffix_append cs _).trans (List.suffix_cons _ _)

/-- No word of the language is empty. -/
theorem ne_nil_of_mem_words : ∀ word ∈ words, word.1 ≠ [] := by decide

/-- A step takes one character at least. The closure of steps is found by induction on the length,
with this. -/
theorem RunStep.length_lt {s rest : Text} {operand : Operand} (h : RunStep s operand rest)
    (hs : s ≠ []) : rest.length < s.length := by
  cases h with
  | name _ => exact List.length_pos_iff.2 hs
  | word _ hword =>
    have hpos := List.length_pos_iff.2 (ne_nil_of_mem_words _ hword)
    rw [List.length_append]
    omega
  | number _ _ _ _ =>
    rw [List.length_cons, List.length_append]
    omega

/-! ### What stands at the start of a run -/

/-- If no word is read, then none opens the run, for the words are looked for in front of all
else. -/
theorem not_isPrefix_of_readWord {s t : Text} (h : readWord (s ++ t) = none) :
    ∀ word ∈ words, ¬ word.1 <+: s := by
  rintro word hword ⟨more, rfl⟩
  have hnone := List.findSome?_eq_none_iff.1 h word hword
  rw [List.append_assoc, after?_append] at hnone
  cases hnone

/-- The digits at the start of a run end in it, as a blank follows. -/
theorem takeWhile_isDigit_run (u rest : Text) :
    (u ++ ' ' :: rest).takeWhile isDigit = u.takeWhile isDigit := by
  induction u with
  | nil => rfl
  | cons c cs ih => rw [List.cons_append, List.takeWhile_cons, List.takeWhile_cons, ih]

/-- Behind the digits of a run is the rest of it. -/
theorem drop_takeWhile_isDigit (u rest : Text) :
    (u ++ rest).drop (u.takeWhile isDigit).length = u.dropWhile isDigit ++ rest :=
  calc (u ++ rest).drop (u.takeWhile isDigit).length
    _ = (u.takeWhile isDigit ++ u.dropWhile isDigit ++ rest).drop (u.takeWhile isDigit).length := by
      rw [List.takeWhile_append_dropWhile]
    _ = u.dropWhile isDigit ++ rest := by rw [List.append_assoc, List.drop_left]

/-- A number in a run is whole, as no point follows its digits. There are no digits and no number is
read, or the digits are an integer and the run goes on behind them. -/
theorem readNumber_run {t u rest : Text} {negative : Bool} (hu : u.all isNameChar = true)
    (hsplit : Decimal.splitSign t = (negative, u ++ ' ' :: rest)) :
    (u.takeWhile isDigit = [] ∧ readNumber t = none) ∨
    (u.takeWhile isDigit ≠ [] ∧
      ∃ n, readNumber t = some (.int n, u.dropWhile isDigit ++ ' ' :: rest)) := by
  have hpoint : ∀ cs, u.dropWhile isDigit ++ ' ' :: rest ≠ '.' :: cs := by
    intro cs heq
    cases hbehind : u.dropWhile isDigit with
    | nil =>
      rw [hbehind] at heq
      exact absurd (List.cons.inj heq).1 (by decide)
    | cons d ds =>
      rw [hbehind] at heq
      have hmem : d ∈ u := List.dropWhile_subset isDigit (hbehind ▸ List.mem_cons_self)
      have hd := List.all_eq_true.1 hu d hmem
      rw [(List.cons.inj heq).1, not_isNameChar.2.1] at hd
      cases hd
  unfold readNumber
  rw [hsplit]
  simp only [takeWhile_isDigit_run, drop_takeWhile_isDigit]
  by_cases hdigits : u.takeWhile isDigit = []
  · exact .inl ⟨hdigits, by rw [hdigits]; rfl⟩
  · rw [if_neg (by simpa using hdigits)]
    exact .inr ⟨hdigits, _, rfl⟩

/-- Digits are those of the library. -/
theorem isDigit_eq (c : Char) : isDigit c = c.isDigit := by
  simp [isDigit, Char.isDigit, Char.le_def]

/-- A run begins with a number or with an identifier. It is a number if digits are in front, behind
a hyphen or not, while a name may have both further on. -/
theorem number_or_identifier {s : Text} (hs : s ≠ []) (hchars : s.all isNameChar = true)
    (rest : Text) :
    (∃ n left, RunStep s (.literal (.int n)) left ∧
      readNumber (s ++ ' ' :: rest) = some (.int n, left ++ ' ' :: rest)) ∨
    (isIdentifier s = true ∧ readNumber (s ++ ' ' :: rest) = none) := by
  obtain ⟨c, cs, rfl⟩ := List.exists_cons_of_ne_nil hs
  have hsplit : ∀ u : Text, u.takeWhile isDigit ++ u.dropWhile isDigit = u := fun u =>
    List.takeWhile_append_dropWhile
  have hchars' := hchars
  rw [List.all_cons, Bool.and_eq_true] at hchars'
  obtain ⟨hc, hcs⟩ := hchars'
  by_cases hminus : c = '-'
  · subst hminus
    rcases readNumber_run (t := '-' :: cs ++ ' ' :: rest) hcs rfl with ⟨-, hnone⟩ | ⟨-, n, hread⟩
    · exact .inr ⟨by rw [isIdentifier, hcs]; rfl, hnone⟩
    · have hstep := RunStep.number (cs.takeWhile isDigit) (cs.dropWhile isDigit) n
        (.inl rfl : '-' = '-' ∨ _)
      rw [hsplit] at hstep
      exact .inl ⟨n, _, hstep, hread⟩
  · have hplus : c ≠ '+' := by
      rintro rfl
      exact absurd hc (by decide)
    rcases readNumber_run hchars (splitSign_of_ne hminus hplus _) with
      ⟨hnil, hnone⟩ | ⟨hdigits, n, hread⟩
    · have hdigit : isDigit c = false := by
        cases hdigit : isDigit c with
        | false => rfl
        | true =>
          rw [List.takeWhile_cons_of_pos hdigit] at hnil
          cases hnil
      rw [isNameChar, ← isDigit_eq, hdigit, Bool.or_false] at hc
      exact .inr ⟨by rw [isIdentifier, hc, hcs]; rfl, hnone⟩
    · have hdigit : isDigit c = true := by
        cases hdigit : isDigit c with
        | true => rfl
        | false =>
          rw [List.takeWhile_cons_of_neg (by simp [hdigit])] at hdigits
          exact absurd rfl hdigits
      have hstep := RunStep.number (cs.takeWhile isDigit) (cs.dropWhile isDigit) n
        (.inr hdigit : c = '-' ∨ _)
      rw [hsplit] at hstep
      rw [List.dropWhile_cons_of_pos hdigit] at hread
      exact .inl ⟨n, _, hstep, hread⟩

/-- **A run that is not empty is read by a step,** from the name or the literal at its start. The
reader tries a word first and a number next, and takes all that is left as a name otherwise. -/
theorem exists_runStep {s : Text} (hs : s ≠ []) (hchars : s.all isNameChar = true) (rest : Text) :
    ∃ operand left, RunStep s operand left ∧
      ∀ bound, readOperand (bound + 1) (s ++ ' ' :: rest) =
        some (operand, left ++ ' ' :: rest) := by
  have hends : endsName (' ' :: rest) = true := rfl
  have hliteral : readLiteral (s ++ ' ' :: rest) =
      (readWord (s ++ ' ' :: rest)).or (readNumber (s ++ ' ' :: rest)) := by
    obtain ⟨c, cs, rfl⟩ := List.exists_cons_of_ne_nil hs
    have hc := List.all_eq_true.1 hchars c List.mem_cons_self
    refine readLiteral_of_ne ?_ ?_ <;>
      · rintro rfl
        exact absurd hc (by decide)
  cases hword : readWord (s ++ ' ' :: rest) with
  | some read =>
    obtain ⟨value, behind⟩ := read
    obtain ⟨word, hmem, more, rfl, rfl, rfl⟩ := exists_of_readWord hends hword
    refine ⟨.literal word.2, more, .word more hmem, fun bound => ?_⟩
    rw [readOperand, hliteral, hword]
    rfl
  | none =>
    rcases number_or_identifier hs hchars rest with ⟨n, left, hstep, hread⟩ | ⟨hname, hnone⟩
    · refine ⟨_, left, hstep, fun bound => ?_⟩
      rw [readOperand, hliteral, hword, hread]
      rfl
    · refine ⟨_, [], .name (not_isPrefix_of_readWord hword), fun bound => ?_⟩
      rw [readOperand, hliteral, hword, hnone, Option.none_or]
      simp only [readName_append hname hends]
      cases bound <;> rfl

/-! ### Runs as parameters -/

/-- No blanks stand in front of a run that is not empty. -/
theorem skipBlanks_run {s : Text} (hs : s ≠ []) (hchars : s.all isNameChar = true) (t : Text) :
    skipBlanks (s ++ t) = s ++ t := by
  obtain ⟨c, cs, rfl⟩ := List.exists_cons_of_ne_nil hs
  have hc := List.all_eq_true.1 hchars c List.mem_cons_self
  rw [List.cons_append, skipBlanks_of_ne (not_isBlank_of_isNameChar hc).1]

/-- No filter is called behind a run or a part of one. -/
theorem readCalls_run {s : Text} (hchars : s.all isNameChar = true) (bound : Nat) (rest : Text) :
    readCalls bound (s ++ ' ' :: '%' :: '\x7d' :: rest) =
      ([], s ++ ' ' :: '%' :: '\x7d' :: rest) := by
  refine readCalls_of_no_bar ?_ bound
  by_cases hs : s = []
  · rw [hs, List.nil_append, skipBlanks_blank, skipBlanks_of_ne (by decide)]
    simp
  · rw [skipBlanks_run hs hchars]
    obtain ⟨c, cs, rfl⟩ := List.exists_cons_of_ne_nil hs
    have hc := List.all_eq_true.1 hchars c List.mem_cons_self
    simpa using (not_isBlank_of_isNameChar hc).2.1

/-- A step at the start of a run is a parameter. -/
theorem exists_readToken_run {s : Text} (hs : s ≠ []) (hchars : s.all isNameChar = true)
    (rest : Text) :
    ∃ operand left, RunStep s operand left ∧ ∀ bound,
      readToken (bound + 1) (s ++ ' ' :: '%' :: '\x7d' :: rest) =
        some (.chain ⟨operand, []⟩, left ++ ' ' :: '%' :: '\x7d' :: rest) := by
  obtain ⟨operand, left, hstep, hread⟩ := exists_runStep hs hchars ('%' :: '\x7d' :: rest)
  refine ⟨operand, left, hstep, fun bound => ?_⟩
  have hleft : left.all isNameChar = true := List.all_eq_true.2 fun c hc =>
    List.all_eq_true.1 hchars c (hstep.isSuffix.subset hc)
  have hrange : readRange (bound + 1) (s ++ ' ' :: '%' :: '\x7d' :: rest) = none := by
    obtain ⟨c, cs, rfl⟩ := List.exists_cons_of_ne_nil hs
    have hc := List.all_eq_true.1 hchars c List.mem_cons_self
    exact Word.readRange_of_ne (not_isBlank_of_isNameChar hc).2.2 _ _
  simp only [readToken, hrange, readChain, hread, readCalls_run hleft]

/-- **A run is read as parameters** up to the end of the tag. Each step leaves a shorter run, so a
bound of the length and two is enough to reach the end. -/
theorem exists_runTokens {s : Text} (hchars : s.all isNameChar = true) (rest : Text) :
    ∃ tokens, RunTokens s tokens ∧ ∀ bound, s.length + 2 ≤ bound →
      readTokens bound (s ++ ' ' :: '%' :: '\x7d' :: rest) =
        (tokens, ' ' :: '%' :: '\x7d' :: rest) := by
  induction hlength : s.length using Nat.strongRecOn generalizing s with
  | ind length ih =>
    by_cases hs : s = []
    · refine ⟨[], hs ▸ .done, fun bound hbound => ?_⟩
      rw [hs, List.nil_append]
      have hnone : ∀ word ∈ ([] : List Word), word.isProper = true := nofun
      exact Word.readTokens_writeAll hnone rest bound (by simp; omega)
    · obtain ⟨operand, left, hstep, hread⟩ := exists_readToken_run hs hchars rest
      have hlt := hstep.length_lt hs
      have hleft : left.all isNameChar = true := List.all_eq_true.2 fun c hc =>
        List.all_eq_true.1 hchars c (hstep.isSuffix.subset hc)
      obtain ⟨tokens, htokens, hmore⟩ := ih left.length (by omega) hleft rfl
      refine ⟨_, .step hs hstep htokens, fun bound hbound => ?_⟩
      obtain ⟨bound, rfl⟩ : ∃ k, bound = k + 1 := ⟨bound - 1, by omega⟩
      rw [readTokens, skipBlanks_run hs hchars, hread]
      simp only [hmore bound (by omega)]

/-- A blank in front of parameters does not matter. -/
theorem readTokens_blank {bound : Nat} {t rest : Text} {tokens : List Token}
    (h : readTokens bound t = (tokens, rest)) (htokens : tokens ≠ []) :
    readTokens bound (' ' :: t) = (tokens, rest) := by
  cases bound with
  | zero => exact absurd (Prod.mk.inj h).1.symm htokens
  | succ bound =>
    rw [readTokens] at h ⊢
    rw [skipBlanks_blank]
    cases hread : readToken (bound + 1) (skipBlanks t) with
    | none =>
      rw [hread] at h
      exact absurd (Prod.mk.inj h).1.symm htokens
    | some read =>
      rw [hread] at h
      exact h

end Liquid
end TableCodegen
