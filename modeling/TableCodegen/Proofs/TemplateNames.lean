import TableCodegen.Liquid.Element

/-!
# Reading names in a template

A name written in a template is read as itself when a blank or a point follows. Whether it stands
for a variable hangs on how it begins: the reader looks for literals first, so no variable begins
with one of the words of the language.
-/

namespace TableCodegen
namespace Liquid

open Text

/-- Whether a character may stand in an identifier. -/
def isNameChar (c : Char) : Bool := isNameStart c || c.isDigit

/-- Whether a text is an identifier. -/
def isIdentifier : Text → Bool
  | [] => false
  | c :: cs => isNameStart c && cs.all isNameChar

/-- Whether a text is an identifier that stands for a variable: it does not begin with a hyphen or
with a word of the language. -/
def isVariable (t : Text) : Bool :=
  isIdentifier t && t.head? != some '-' && words.all fun word => !word.1.isPrefixOf t

/-- What may follow a name: a blank, or the point of an accessor. -/
def endsName (rest : Text) : Bool := rest.head? == some ' ' || rest.head? == some '.'

/-- A name ends in front of a blank or a point, so what follows it begins with one. -/
theorem exists_of_endsName {rest : Text} (h : endsName rest = true) :
    ∃ c cs, rest = c :: cs ∧ (c = ' ' ∨ c = '.') := by
  cases rest with
  | nil => cases h
  | cons c cs =>
    refine ⟨c, cs, rfl, ?_⟩
    simpa [endsName] using h

/-- Of the characters of the delimiters none stands in a name. -/
theorem not_isNameChar : isNameChar ' ' = false ∧ isNameChar '.' = false ∧
    isNameChar '\x7d' = false ∧ isNameChar '%' = false := by decide

/-- No delimiter stands where a name goes on or has ended. A delimiter opens with a brace or a
percent sign. Neither stands in a name, and a name ends in front of a blank or a point. -/
theorem startsWithStop_name {cs rest : Text} (hcs : cs.all isNameChar = true)
    (hrest : endsName rest = true) : startsWithStop (cs ++ rest) = false := by
  have hstop : ∀ c t, c ≠ '\x7d' → c ≠ '%' → startsWithStop (c :: t) = false := by
    intro c t hbrace hpercent
    simp [startsWithStop, outputStop, tagStop, List.isPrefixOf, Ne.symm hbrace, Ne.symm hpercent]
  cases cs with
  | nil =>
    obtain ⟨c, cs, rfl, rfl | rfl⟩ := exists_of_endsName hrest
    · exact hstop _ _ (by decide) (by decide)
    · exact hstop _ _ (by decide) (by decide)
  | cons c cs =>
    obtain ⟨-, -, hbrace, hpercent⟩ := not_isNameChar
    have hc : isNameChar c = true := by
      rw [List.all_cons, Bool.and_eq_true] at hcs
      exact hcs.1
    refine hstop _ _ ?_ ?_
    · rintro rfl
      exact absurd hc (by rw [hbrace]; exact Bool.false_ne_true)
    · rintro rfl
      exact absurd hc (by rw [hpercent]; exact Bool.false_ne_true)

/-- All characters of a name are read, and nothing behind them. -/
theorem nameTail_append {cs rest : Text} (hcs : cs.all isNameChar = true)
    (hrest : endsName rest = true) : nameTail (cs ++ rest) = (cs, rest) := by
  induction cs with
  | nil =>
    obtain ⟨hblank, hpoint, -⟩ := not_isNameChar
    rw [isNameChar] at hblank hpoint
    obtain ⟨c, cs, rfl, rfl | rfl⟩ := exists_of_endsName hrest
    · rw [List.nil_append, nameTail, hblank]
      rfl
    · rw [List.nil_append, nameTail, hpoint]
      rfl
  | cons c cs ih =>
    rw [List.all_cons, Bool.and_eq_true, isNameChar] at hcs
    rw [List.cons_append, nameTail, hcs.1, startsWithStop_name hcs.2 hrest, Bool.and_false,
      Bool.not_false, Bool.and_true, if_pos rfl, ih hcs.2]

/-- **A written identifier is read as itself.** -/
theorem readName_append {name rest : Text} (hname : isIdentifier name = true)
    (hrest : endsName rest = true) : readName (name ++ rest) = some (name, rest) := by
  cases name with
  | nil => cases hname
  | cons c cs =>
    rw [isIdentifier, Bool.and_eq_true] at hname
    rw [List.cons_append, readName, hname.1, startsWithStop_name hname.2 hrest, Bool.and_false,
      Bool.not_false, Bool.and_true, if_pos rfl, nameTail_append hname.2 hrest]

/-! ### Names and literals -/

/-- The first character of a variable is a letter or an underscore. -/
theorem exists_of_isVariable {name : Text} (h : isVariable name = true) :
    ∃ c cs, name = c :: cs ∧ isNameStart c = true ∧ c ≠ '-' := by
  cases name with
  | nil => cases h
  | cons c cs =>
    simp only [isVariable, isIdentifier, Bool.and_eq_true, List.head?_cons, bne_iff_ne, ne_eq,
      Option.some.injEq] at h
    exact ⟨c, cs, rfl, h.1.1.1, h.1.2⟩

/-- A variable is an identifier that no word of the language opens. -/
theorem isIdentifier_of_isVariable {name : Text} (h : isVariable name = true) :
    isIdentifier name = true := by
  rw [isVariable, Bool.and_eq_true, Bool.and_eq_true] at h
  exact h.1.1

/-- A letter or an underscore is neither a quote nor a digit nor a sign. The readers of texts and
numbers look at these characters, so they refuse a name at once. -/
theorem isNameStart_excludes {c : Char} (h : isNameStart c = true) (hhyphen : c ≠ '-') :
    c ≠ '"' ∧ c ≠ '\x27' ∧ c ≠ '+' ∧ isDigit c = false := by
  have hletter : c.isAlpha = true ∨ c = '_' := by simpa [isNameStart, hhyphen] using h
  refine ⟨?_, ?_, ?_, ?_⟩
  · rintro rfl
    exact absurd hletter (by decide)
  · rintro rfl
    exact absurd hletter (by decide)
  · rintro rfl
    exact absurd hletter (by decide)
  · rcases hletter with hletter | rfl
    · have hranges : c.isAlpha = (decide (c.val ≥ 'A'.val ∧ c.val ≤ 'Z'.val) ||
          (decide (c.val ≥ 'a'.val) && decide (c.val ≤ 'z'.val))) := rfl
      simp only [hranges, Bool.or_eq_true, Bool.and_eq_true, decide_eq_true_eq,
        UInt32.le_iff_toNat_le, ge_iff_le] at hletter
      simp only [isDigit, Bool.and_eq_false_iff, decide_eq_false_iff_not, Char.le_def,
        UInt32.le_iff_toNat_le]
      right
      rcases hletter with hletter | hletter
      · exact Nat.not_le.2 (Nat.lt_of_lt_of_le (by decide) hletter.1)
      · exact Nat.not_le.2 (Nat.lt_of_lt_of_le (by decide) hletter.1)
    · decide

/-- No word of the language holds a blank or a point. -/
theorem isNameChar_of_mem_words : ∀ word ∈ words, word.1.all isNameChar = true := by decide

/-- A word that is read where a name stands is the start of the name. The reader does not ask for an
end of the word, so the rest of the name is left to be read. -/
theorem exists_of_readWord {name rest behind : Text} {value : Value} (hrest : endsName rest = true)
    (hread : readWord (name ++ rest) = some (value, behind)) :
    ∃ word ∈ words, ∃ more, name = word.1 ++ more ∧ value = word.2 ∧ behind = more ++ rest := by
  obtain ⟨word, hword, hafter⟩ := List.exists_of_findSome?_eq_some hread
  obtain ⟨left, hleft, heq⟩ := Option.map_eq_some_iff.1 hafter
  obtain ⟨rfl, rfl⟩ := Prod.mk.inj heq
  rcases List.append_eq_append_iff.1 (eq_append_of_after? hleft) with
    ⟨more, hmore, hrest'⟩ | ⟨more, hmore, hleft'⟩
  · cases more with
    | nil =>
      rw [List.append_nil] at hmore
      exact ⟨word, hword, [], by rw [hmore, List.append_nil], rfl, hrest'.symm⟩
    | cons d ds =>
      -- The word would go on where the name has ended.
      obtain ⟨c, cs, rfl, hc⟩ := exists_of_endsName hrest
      obtain ⟨rfl, -⟩ := List.cons.inj hrest'
      have hd := List.all_eq_true.1 (isNameChar_of_mem_words word hword) c (by simp [hmore])
      obtain ⟨hblank, hpoint, -⟩ := not_isNameChar
      rcases hc with rfl | rfl
      · exact absurd hd (by rw [hblank]; exact Bool.false_ne_true)
      · exact absurd hd (by rw [hpoint]; exact Bool.false_ne_true)
  · exact ⟨word, hword, more, hmore, rfl, hleft'⟩

/-- No word is read where a name stands that does not begin with one. -/
theorem readWord_variable {name rest : Text} (hname : isVariable name = true)
    (hrest : endsName rest = true) : readWord (name ++ rest) = none := by
  rw [isVariable, Bool.and_eq_true, List.all_eq_true] at hname
  cases hread : readWord (name ++ rest) with
  | none => rfl
  | some read =>
    obtain ⟨word, hword, more, rfl, -⟩ := exists_of_readWord hrest hread
    have hno := hname.2 word hword
    rw [List.isPrefixOf_iff_prefix.2 (List.prefix_append word.1 more)] at hno
    cases hno

/-- Without a sign in front there is none to split off. -/
theorem splitSign_of_ne {c : Char} (hminus : c ≠ '-') (hplus : c ≠ '+') (cs : Text) :
    Decimal.splitSign (c :: cs) = (false, c :: cs) := by
  unfold Decimal.splitSign
  split
  · rename_i heq
    exact absurd (List.cons.inj heq).1 hminus
  · rename_i heq
    exact absurd (List.cons.inj heq).1 hplus
  · rfl

/-- A number begins with a digit or a sign, and nothing else does. -/
theorem readNumber_of_ne {c : Char} {cs : Text} (hminus : c ≠ '-') (hplus : c ≠ '+')
    (hdigit : isDigit c = false) : readNumber (c :: cs) = none := by
  unfold readNumber
  rw [splitSign_of_ne hminus hplus]
  simp [hdigit]

/-- Without a quote in front a literal is a word or a number, and words are looked for first. -/
theorem readLiteral_of_ne {c : Char} {cs : Text} (hdouble : c ≠ '"') (hsingle : c ≠ '\x27') :
    readLiteral (c :: cs) = (readWord (c :: cs)).or (readNumber (c :: cs)) := by
  unfold readLiteral
  split
  · rename_i heq
    exact absurd (List.cons.inj heq).1 hdouble
  · rename_i heq
    exact absurd (List.cons.inj heq).1 hsingle
  · cases readWord (c :: cs) <;> rfl

/-- **No literal is read where a variable stands.** -/
theorem readLiteral_variable {name rest : Text} (hname : isVariable name = true)
    (hrest : endsName rest = true) : readLiteral (name ++ rest) = none := by
  have hword := readWord_variable hname hrest
  obtain ⟨c, cs, rfl, hstart, hhyphen⟩ := exists_of_isVariable hname
  obtain ⟨hdouble, hsingle, hplus, hdigit⟩ := isNameStart_excludes hstart hhyphen
  rw [List.cons_append] at hword ⊢
  rw [readLiteral_of_ne hdouble hsingle, hword, Option.none_or,
    readNumber_of_ne hhyphen hplus hdigit]

end Liquid
end TableCodegen
