import Mathlib.Data.List.Basic
import Mathlib.Data.List.Forall2
import TableCodegen.ReferencePoint

/-!
# Names that share an identifier

A name becomes an identifier in two steps: one prime mark at its end is spelled out, and then every
hyphen becomes an underscore. Of several marks only the last one goes, and what stands in front of
it is rewritten as ever.

| name | identifier | stem |
| --- | --- | --- |
| `X2-C` | `X2_C` | |
| `S1’` | `S1Prime` | `S1` |
| `S1Prime` | `S1Prime` | `S1` |
| `a-′` | `a_Prime` | `a-` |
| `S’’` | `S’Prime` | `S’` |

An identifier is its own identifier, so every name belongs to the class of one identifier. What
stands in front of a mark or of the word `Prime` at the end of a name is its stem. Two names are of
one class exactly if both have a stem or neither has, and their stems, or the names themselves,
differ in hyphens against underscores alone (`identifierOf_eq_iff`).
-/

namespace TableCodegen
namespace ReferencePoint

/-- A name that ends in a prime mark. -/
def EndsMarked (name : Text) : Prop :=
  name.getLast? = some '\u2019' ∨ name.getLast? = some '\u2032'

/-- The word that spells a prime mark. -/
def primeWord : Text := "Prime".toList

/-- What a character becomes: a hyphen an underscore, and all else stays. -/
def Respelled (c d : Char) : Prop := c = '-' ∧ d = '_' ∨ c ≠ '-' ∧ d = c

/-- **A name and its identifier.** -/
inductive Spells : Text → Text → Prop where
  /-- One mark at the end is spelled out. -/
  | marked {stem body : Text} {mark : Char} (hmark : mark = '\u2019' ∨ mark = '\u2032')
    (hbody : List.Forall₂ Respelled stem body) : Spells (stem ++ [mark]) (body ++ primeWord)
  | unmarked {name body : Text} (hend : ¬ EndsMarked name)
    (hbody : List.Forall₂ Respelled name body) : Spells name body

/-- The endings of a name that has a stem. -/
def primeEndings : List Text := [['\u2019'], ['\u2032'], primeWord]

/-- What stands in front of the ending of a name, if it has one. -/
def stem? (name : Text) : Option Text := primeEndings.findSome? name.dropSuffix?

/-- Characters that become the same: they are the same, or a hyphen and an underscore. -/
def SameButHyphen (c d : Char) : Prop := c = d ∨ c = '-' ∧ d = '_' ∨ c = '_' ∧ d = '-'

/-! ### Hyphens -/

/-- A text with underscores for its hyphens. -/
def underscored (t : Text) : Text := t.map fun c => if c = '-' then '_' else c

/-- Hyphens are replaced one by one, so a name can be rewritten part by part. -/
@[simp] theorem underscored_append (s t : Text) :
    underscored (s ++ t) = underscored s ++ underscored t := List.map_append

/-- The word that stands for a mark holds no hyphen. -/
theorem underscored_primeWord : underscored primeWord = primeWord := by decide

/-- Rewriting hyphens as a relation between characters is the same as doing it. The classes of names
are told by the relation. -/
theorem forall₂_respelled_iff {t body : Text} :
    List.Forall₂ Respelled t body ↔ underscored t = body := by
  have hrespelled : Respelled = fun c d => (if c = '-' then '_' else c) = d := by
    funext c d
    by_cases hc : c = '-'
    · simp [Respelled, hc, eq_comm]
    · simp [Respelled, hc, eq_comm]
  rw [underscored, hrespelled, ← List.forall₂_eq_eq_eq, List.forall₂_map_left_iff]

/-- No hyphen is left. -/
theorem hyphen_notMem_underscored (t : Text) : '-' ∉ underscored t := by
  intro h
  obtain ⟨c, -, hc⟩ := List.mem_map.1 h
  split at hc
  · cases hc
  · contradiction

/-- A text without hyphens is left as it is, so replacing them twice is replacing them once. -/
theorem underscored_of_notMem {t : Text} (h : '-' ∉ t) : underscored t = t := by
  refine (List.map_congr_left fun c hc => ?_).trans (List.map_id t)
  have hne : c ≠ '-' := by
    rintro rfl
    exact h hc
  exact if_neg hne

/-- What becomes a text without underscores is that text. -/
theorem eq_of_underscored_eq {s t : Text} (h : underscored s = t) (hclean : '_' ∉ t) : s = t := by
  have hhyphen : '-' ∉ s := by
    intro hmem
    refine hclean ?_
    rw [← h]
    exact List.mem_map.2 ⟨'-', hmem, rfl⟩
  rw [← h, underscored_of_notMem hhyphen]

/-- Texts become the same if they differ in hyphens against underscores alone. -/
theorem underscored_eq_iff {s t : Text} :
    underscored s = underscored t ↔ List.Forall₂ SameButHyphen s t := by
  have hchar : ∀ c d : Char, (if c = '-' then '_' else c) = (if d = '-' then '_' else d) ↔
      SameButHyphen c d := by
    intro c d
    by_cases hc : c = '-'
    · by_cases hd : d = '-'
      · simp [SameButHyphen, hc, hd]
      · simp [SameButHyphen, hc, hd, Ne.symm hd, eq_comm]
    · by_cases hd : d = '-'
      · simp [SameButHyphen, hc, hd]
      · simp [SameButHyphen, hc, hd]
  rw [underscored, underscored, ← List.forall₂_eq_eq_eq, List.forall₂_map_left_iff,
    List.forall₂_map_right_iff]
  simp only [hchar]

/-- The last character is a mark as before. -/
theorem endsMarked_underscored (t : Text) : EndsMarked (underscored t) ↔ EndsMarked t := by
  rw [EndsMarked, EndsMarked, underscored, List.getLast?_map]
  cases t.getLast? with
  | none => simp
  | some c =>
    by_cases hc : c = '-'
    · simp [hc]
    · simp [hc]

/-- So is the word at the end, which holds no underscore. -/
theorem primeWord_suffix_underscored (t : Text) :
    primeWord <:+ underscored t ↔ primeWord <:+ t := by
  constructor
  · rintro ⟨front, hfront⟩
    obtain ⟨stem, word, rfl, -, hword⟩ := List.map_eq_append_iff.1 hfront.symm
    obtain rfl : word = primeWord := eq_of_underscored_eq hword (by decide)
    exact List.suffix_append _ _
  · rintro ⟨stem, rfl⟩
    rw [underscored_append, underscored_primeWord]
    exact List.suffix_append _ _

/-! ### Marks -/

/-- The two marks of the program: the right single quotation mark and the prime. -/
theorem isPrimeMark_iff (c : Char) : isPrimeMark c = true ↔ c = '\u2019' ∨ c = '\u2032' := by
  simp [isPrimeMark]

/-- Whether a name ends in a mark is told by its last character. -/
theorem endsMarked_concat (stem : Text) (c : Char) :
    EndsMarked (stem ++ [c]) ↔ c = '\u2019' ∨ c = '\u2032' := by
  simp [EndsMarked]

/-- The last character is spelled out if it is a mark, and nothing in front of it is looked at. -/
theorem spellPrime_concat (stem : Text) (c : Char) :
    spellPrime (stem ++ [c]) = stem ++ if isPrimeMark c then primeWord else [c] := by
  induction stem with
  | nil => rfl
  | cons d ds ih =>
    rw [List.cons_append, spellPrime, ih, List.cons_append]
    intro hnil
    exact List.append_ne_nil_of_right_ne_nil ds (List.cons_ne_nil c []) hnil

/-- A name that does not end in a mark is left as it is, the empty name too. -/
theorem spellPrime_of_unmarked {name : Text} (h : ¬ EndsMarked name) : spellPrime name = name := by
  obtain rfl | ⟨stem, c, rfl⟩ := name.eq_nil_or_concat'
  · rfl
  · rw [endsMarked_concat, ← isPrimeMark_iff] at h
    rw [spellPrime_concat, if_neg h]

/-- An identifier is made in two steps, and the mark goes first. -/
theorem identifierOf_eq (name : Text) : identifierOf name = underscored (spellPrime name) := rfl

/-- A marked name is its stem without hyphens and the word for the mark. -/
theorem identifierOf_marked (stem : Text) {mark : Char} (h : mark = '\u2019' ∨ mark = '\u2032') :
    identifierOf (stem ++ [mark]) = underscored stem ++ primeWord := by
  rw [identifierOf_eq, spellPrime_concat, if_pos ((isPrimeMark_iff mark).2 h), underscored_append,
    underscored_primeWord]

/-- Any other name only loses its hyphens. -/
theorem identifierOf_unmarked {name : Text} (h : ¬ EndsMarked name) :
    identifierOf name = underscored name := by
  rw [identifierOf_eq, spellPrime_of_unmarked h]

/-- A name that ends in the word for the mark does not end in a mark. So one mark at most is ever
spelled out. -/
theorem not_endsMarked_primeWord (t : Text) : ¬ EndsMarked (t ++ primeWord) := by
  simp [EndsMarked, primeWord]

/-- A name does not end in a mark, or it is a stem with one mark behind it. -/
theorem endsMarked_cases (name : Text) :
    ¬ EndsMarked name ∨
      ∃ stem mark, (mark = '\u2019' ∨ mark = '\u2032') ∧ name = stem ++ [mark] := by
  obtain rfl | ⟨stem, mark, rfl⟩ := name.eq_nil_or_concat'
  · exact .inl (by simp [EndsMarked])
  · by_cases hmark : mark = '\u2019' ∨ mark = '\u2032'
    · exact .inr ⟨stem, mark, hmark, rfl⟩
    · exact .inl (mt (endsMarked_concat stem mark).1 hmark)

/-! ### Identifiers -/

/-- **A name has the identifier that it spells,** and no other. -/
theorem identifierOf_eq_iff_spells {name identifier : Text} :
    identifierOf name = identifier ↔ Spells name identifier := by
  constructor
  · rintro rfl
    obtain hend | ⟨stem, mark, hmark, rfl⟩ := endsMarked_cases name
    · rw [identifierOf_unmarked hend]
      exact .unmarked hend (forall₂_respelled_iff.2 rfl)
    · rw [identifierOf_marked stem hmark]
      exact .marked hmark (forall₂_respelled_iff.2 rfl)
  · intro h
    cases h with
    | marked hmark hbody => rw [identifierOf_marked _ hmark, forall₂_respelled_iff.1 hbody]
    | unmarked hend hbody => rw [identifierOf_unmarked hend, forall₂_respelled_iff.1 hbody]

/-- No identifier holds a hyphen, whatever the name holds. -/
theorem hyphen_notMem_identifierOf (name : Text) : '-' ∉ identifierOf name :=
  hyphen_notMem_underscored _

/-- No identifier ends in a mark. One further in front may be left, as in `S’’`. -/
theorem not_endsMarked_identifierOf (name : Text) : ¬ EndsMarked (identifierOf name) := by
  obtain hend | ⟨stem, mark, hmark, rfl⟩ := endsMarked_cases name
  · rw [identifierOf_unmarked hend, endsMarked_underscored]
    exact hend
  · rw [identifierOf_marked stem hmark]
    exact not_endsMarked_primeWord _

/-- **Identifiers are the names without hyphens and without a mark at the end.** -/
theorem identifierOf_eq_self_iff (name : Text) :
    identifierOf name = name ↔ '-' ∉ name ∧ ¬ EndsMarked name := by
  constructor
  · intro h
    rw [← h]
    exact ⟨hyphen_notMem_identifierOf name, not_endsMarked_identifierOf name⟩
  · rintro ⟨hhyphen, hend⟩
    rw [identifierOf_unmarked hend, underscored_of_notMem hhyphen]

/-- **Identifiers are their own identifiers.** Neither step finds anything in them to rewrite. -/
theorem identifierOf_identifierOf (name : Text) :
    identifierOf (identifierOf name) = identifierOf name :=
  (identifierOf_eq_self_iff _).2
    ⟨hyphen_notMem_identifierOf name, not_endsMarked_identifierOf name⟩

/-! ### Classes of names -/

/-- Whatever the ending is, the identifier has the word for it. -/
theorem identifierOf_ending (stem : Text) {ending : Text} (h : ending ∈ primeEndings) :
    identifierOf (stem ++ ending) = underscored stem ++ primeWord := by
  simp only [primeEndings, List.mem_cons, List.not_mem_nil, or_false] at h
  obtain rfl | rfl | rfl := h
  · exact identifierOf_marked stem (.inl rfl)
  · exact identifierOf_marked stem (.inr rfl)
  · rw [identifierOf_unmarked (not_endsMarked_primeWord stem), underscored_append,
      underscored_primeWord]

/-- A name with a stem has the identifier of its stem behind a mark, whether the mark is there or
already spelled out. -/
theorem identifierOf_of_stem {name stem : Text} (h : stem? name = some stem) :
    identifierOf name = underscored stem ++ primeWord := by
  obtain ⟨ending, hending, hdrop⟩ := List.exists_of_findSome?_eq_some h
  obtain ⟨ending', rfl, hsame⟩ := List.dropSuffix?_eq_some_iff.1 hdrop
  rw [eq_of_beq hsame]
  exact identifierOf_ending stem hending

/-- Without a stem there is neither a mark nor the word at the end. -/
theorem identifierOf_of_no_stem {name : Text} (h : stem? name = none) :
    identifierOf name = underscored name ∧ ¬ primeWord <:+ identifierOf name := by
  have hnone : ∀ ending ∈ primeEndings, ∀ stem, name ≠ stem ++ ending := by
    rintro ending hending stem rfl
    have hdrop := List.findSome?_eq_none_iff.1 h ending hending
    rw [List.dropSuffix?_eq_some_iff.2 ⟨ending, rfl, beq_self_eq_true ending⟩] at hdrop
    cases hdrop
  have hend : ¬ EndsMarked name := by
    obtain hend | ⟨stem, mark, rfl | rfl, hname⟩ := endsMarked_cases name
    · exact hend
    · exact absurd hname (hnone _ (by simp [primeEndings]) stem)
    · exact absurd hname (hnone _ (by simp [primeEndings]) stem)
  rw [identifierOf_unmarked hend]
  refine ⟨rfl, fun hword => ?_⟩
  obtain ⟨stem, hname⟩ := (primeWord_suffix_underscored name).1 hword
  exact hnone _ (by simp [primeEndings]) stem hname.symm

/-- **Which names share an identifier:** both or none end in a prime mark, and what stands before
the mark is the same but for hyphens and underscores. -/
theorem identifierOf_eq_iff (name other : Text) :
    identifierOf name = identifierOf other ↔ (stem? name).isSome = (stem? other).isSome ∧
      List.Forall₂ SameButHyphen ((stem? name).getD name) ((stem? other).getD other) := by
  cases hname : stem? name with
  | none =>
    obtain ⟨hidentifier, hword⟩ := identifierOf_of_no_stem hname
    cases hother : stem? other with
    | none =>
      rw [hidentifier, (identifierOf_of_no_stem hother).1, underscored_eq_iff]
      simp
    | some stem =>
      refine iff_of_false (fun heq => hword ?_) (by simp)
      rw [heq, identifierOf_of_stem hother]
      exact List.suffix_append _ _
  | some stem =>
    cases hother : stem? other with
    | none =>
      refine iff_of_false (fun heq => (identifierOf_of_no_stem hother).2 ?_) (by simp)
      rw [← heq, identifierOf_of_stem hname]
      exact List.suffix_append _ _
    | some stem' =>
      rw [identifierOf_of_stem hname, identifierOf_of_stem hother, List.append_cancel_right_eq,
        underscored_eq_iff]
      simp

/-- **Identifiers are a projection of names.** A name spells its identifier, which has no hyphen and
no mark at the end and is its own identifier; a name without those is one already. Two names share
an identifier exactly if both have a stem or neither has, and what is left of them has the same
length and differs at most where one has a hyphen and the other an underscore. -/
theorem identifierOf_projects (name : Text) :
    (∀ identifier, identifierOf name = identifier ↔ Spells name identifier) ∧
      '-' ∉ identifierOf name ∧ ¬ EndsMarked (identifierOf name) ∧
      identifierOf (identifierOf name) = identifierOf name ∧
      (identifierOf name = name ↔ '-' ∉ name ∧ ¬ EndsMarked name) ∧
      ∀ other, identifierOf name = identifierOf other ↔
        (stem? name).isSome = (stem? other).isSome ∧
          List.Forall₂ SameButHyphen ((stem? name).getD name) ((stem? other).getD other) :=
  ⟨fun _ => identifierOf_eq_iff_spells, hyphen_notMem_identifierOf name,
    not_endsMarked_identifierOf name, identifierOf_identifierOf name, identifierOf_eq_self_iff name,
    identifierOf_eq_iff name⟩

/-- Two names of one class, with different endings. -/
example : identifierOf "X2-C\u2019".toList = identifierOf "X2_CPrime".toList := by decide

end ReferencePoint
end TableCodegen
