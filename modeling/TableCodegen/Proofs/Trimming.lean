import Mathlib.Data.List.DropRight
import TableCodegen.Text.Blank

/-!
# What trimming takes away

Trimming cuts off the characters of a class, as many as there are, and nothing else: a text is what
is left of it between two texts of the class, and what is left neither starts nor ends with the
class.
-/

namespace TableCodegen
namespace Text

variable {p : Char → Bool}

/-- What is cut off an end belongs to the class. -/
theorem exists_trimEnd_append (p : Char → Bool) (t : Text) :
    ∃ tail, t = trimEnd p t ++ tail ∧ ∀ c ∈ tail, p c = true :=
  ⟨t.rtakeWhile p, (List.rdropWhile_append_rtakeWhile ..).symm, fun _ => List.mem_rtakeWhile_imp⟩

/-- A tail of the class is cut off, and then the rest is trimmed. -/
theorem trimEnd_append (t : Text) {tail : Text} (h : ∀ c ∈ tail, p c = true) :
    trimEnd p (t ++ tail) = trimEnd p t := by
  have hnil : tail.reverse.dropWhile p = [] :=
    List.dropWhile_eq_nil_iff.2 fun c hc => h c (List.mem_reverse.1 hc)
  rw [trimEnd, trimEnd, List.reverse_append, List.dropWhile_append, hnil, List.isEmpty_nil,
    if_pos rfl]

/-- What ends outside the class stays. -/
theorem trimEnd_eq_self {t : Text} (h : ∀ c ∈ t.getLast?, p c = false) : trimEnd p t = t := by
  refine List.rdropWhile_eq_self_iff.2 fun hne => ?_
  rw [h _ (List.getLast?_eq_some_getLast hne)]
  exact Bool.false_ne_true

/-- What is left ends outside the class. -/
theorem of_mem_getLast?_trimEnd {t : Text} {c : Char} (h : c ∈ (trimEnd p t).getLast?) :
    p c = false := by
  have hne : t.rdropWhile p ≠ [] := by
    intro hnil
    rw [show trimEnd p t = t.rdropWhile p from rfl, hnil] at h
    cases h
  obtain rfl : (t.rdropWhile p).getLast hne = c :=
    Option.some.inj ((List.getLast?_eq_some_getLast hne).symm.trans h)
  exact Bool.eq_false_iff.2 (List.rdropWhile_last_not p t hne)

/-- **A text is what trimming leaves, between two texts of the class.** -/
theorem exists_append_trim (p : Char → Bool) (t : Text) :
    ∃ head tail, t = head ++ trim p t ++ tail ∧ (∀ c ∈ head, p c = true) ∧
      ∀ c ∈ tail, p c = true := by
  obtain ⟨tail, htail, hclass⟩ := exists_trimEnd_append p (t.dropWhile p)
  refine ⟨t.takeWhile p, tail, ?_, fun c hc => List.mem_takeWhile_imp hc, hclass⟩
  rw [List.append_assoc, trim, ← htail, List.takeWhile_append_dropWhile]

/-- **Trimming leaves what stands between two texts of the class,** if it starts and ends
outside. -/
theorem trim_append {head core tail : Text} (hhead : ∀ c ∈ head, p c = true)
    (hfirst : ∀ c ∈ core.head?, p c = false) (hlast : ∀ c ∈ core.getLast?, p c = false)
    (htail : ∀ c ∈ tail, p c = true) : trim p (head ++ core ++ tail) = core := by
  cases core with
  | nil =>
    have hall : ∀ c ∈ head ++ [] ++ tail, p c = true := by
      simpa [or_imp, forall_and] using And.intro hhead htail
    rw [trim, List.dropWhile_eq_nil_iff.2 hall]
    rfl
  | cons first others =>
    have hdrop : (head ++ (first :: others) ++ tail).dropWhile p = first :: others ++ tail := by
      rw [List.append_assoc, List.dropWhile_append_of_pos hhead, List.cons_append,
        List.dropWhile_cons_of_neg (by rw [hfirst first rfl]; exact Bool.false_ne_true)]
    rw [trim, hdrop, trimEnd_append _ htail, trimEnd_eq_self hlast]

end Text
end TableCodegen
