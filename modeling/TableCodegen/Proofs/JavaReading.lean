import TableCodegen.Hex
import TableCodegen.Java.Literal

/-!
# How Java reads a string literal

A source is read in two steps. First the Unicode escapes are translated: a backslash with an even
number of backslashes right in front of it, one `u` or more and four hexadecimal digits are one
UTF-16 code unit (`translate`). Then the code units between two quotes are read (`readBody`):

| unit | meaning |
| --- | --- |
| quote | the end |
| line feed, carriage return | no literal: a line ends there |
| backslash | an escape: `b s t n f r " ' \`, or one to three octal digits |
| any other | itself |

`literalValue?` is the value of a text that is one string literal and nothing else. What `quote`
writes is one, with the quoted text for its value, unless the text holds the end of a line
(`literalValue?_quote`).
-/

namespace TableCodegen
namespace Java

/-- The UTF-16 code units of a character. -/
def charUnits (c : Char) : List Nat :=
  if c.toNat < 0x10000 then [c.toNat]
  else [0xD800 + (c.toNat - 0x10000) / 0x400, 0xDC00 + (c.toNat - 0x10000) % 0x400]

/-- The UTF-16 code units of a text. -/
def units (t : Text) : List Nat := t.flatMap charUnits

/-- How far the translation is in a Unicode escape. -/
inductive Progress where
  | outside
  /-- Behind a backslash that may begin an escape. -/
  | backslash
  /-- Behind a mark `u`. -/
  | marked

/-- The value of a hexadecimal digit. -/
def hexDigit? (c : Char) : Option Nat :=
  if c.toNat < 0x80 then (Hex.digitValue? (UInt8.ofNat c.toNat)).map (·.toNat) else none

/-- The code units of a source with its Unicode escapes translated. -/
def translate : Progress → Text → Option (List Nat)
  | .outside, [] => some []
  | .outside, c :: cs =>
    if c = '\\' then translate .backslash cs
    else (translate .outside cs).map (charUnits c ++ ·)
  | .backslash, [] => some [0x5C]
  | .backslash, c :: cs =>
    if c = 'u' then translate .marked cs
    else (translate .outside cs).map (0x5C :: charUnits c ++ ·)
  | .marked, a :: b :: c :: d :: cs =>
    if a = 'u' then translate .marked (b :: c :: d :: cs)
    else do
      let digits ← [a, b, c, d].mapM hexDigit?
      let translated ← translate .outside cs
      return digits.foldl (fun value digit => 16 * value + digit) 0 :: translated
  | .marked, _ => none

/-- The escapes that are one character behind the backslash. -/
def namedEscapes : List (Nat × Nat) := [
  (0x62, 0x08), (0x73, 0x20), (0x74, 0x09), (0x6E, 0x0A), (0x66, 0x0C), (0x72, 0x0D),
  (0x22, 0x22), (0x27, 0x27), (0x5C, 0x5C)]

/-- The octal digits that an escape takes: up to three, but two when three would be too much. -/
def octalDigits : List Nat → List Nat
  | [] => []
  | u :: us => ((u :: us).take (if u ≤ 0x33 then 3 else 2)).takeWhile fun u => 0x30 ≤ u && u ≤ 0x37

/-- The code unit that an escape stands for and what is left behind it. -/
def readEscape : List Nat → Option (Nat × List Nat)
  | [] => none
  | u :: us =>
    match namedEscapes.lookup u with
    | some value => some (value, us)
    | none =>
      if octalDigits (u :: us) = [] then none
      else some ((octalDigits (u :: us)).foldl (fun value digit => 8 * value + (digit - 0x30)) 0,
        (u :: us).drop (octalDigits (u :: us)).length)

/-- An escape takes at least one code unit. -/
theorem length_lt_of_readEscape {us rest : List Nat} {value : Nat}
    (h : readEscape us = some (value, rest)) : rest.length < us.length := by
  cases us with
  | nil => cases h
  | cons u us =>
    rw [readEscape] at h
    split at h
    · cases h
      exact Nat.lt_succ_self _
    · split at h
      · cases h
      · rename_i hdigits
        have hpos := List.length_pos_iff.2 hdigits
        cases h
        simp only [List.length_drop, List.length_cons]
        omega

/-- The value of a literal from behind its opening quote, and what is left behind its closing
one. -/
def readBody : List Nat → Option (List Nat × List Nat)
  | [] => none
  | u :: us =>
    if u = 0x22 then some ([], us)
    else if u = 0x0A ∨ u = 0x0D then none
    else if u = 0x5C then
      match _h : readEscape us with
      | none => none
      | some (value, rest) => (readBody rest).map fun body => (value :: body.1, body.2)
    else (readBody us).map fun body => (u :: body.1, body.2)
termination_by us => us.length
decreasing_by
  · have := length_lt_of_readEscape ‹_›
    simp only [List.length_cons]
    omega
  · exact Nat.lt_succ_self _

/-- The value of a text that is a string literal. -/
def literalValue? (t : Text) : Option (List Nat) :=
  match translate .outside t with
  | some (0x22 :: us) =>
    match readBody us with
    | some (value, []) => some value
    | _ => none
  | _ => none

/-- A Unicode escape, an octal escape and an escaped quote. -/
example : literalValue? "\"\\uu0041\\101\\\"\"".toList = some (units "AA\"".toList) := by cbv

/-! ### What `quote` writes -/

@[simp] theorem units_nil : units [] = [] := rfl

/-- A text is as code units the units of its characters in a row. A character outside the first
plane is two of them. -/
@[simp] theorem units_cons (c : Char) (cs : Text) : units (c :: cs) = charUnits c ++ units cs := rfl

/-- A character of the first plane is one code unit. All characters that a literal treats in a
special way are of this kind. -/
theorem charUnits_of_lt {c : Char} (h : c.toNat < 0x10000) : charUnits c = [c.toNat] := if_pos h

/-- A character is one code unit that is no surrogate, or two surrogates. -/
theorem charUnits_eq (c : Char) :
    (charUnits c = [c.toNat] ∧ (c.toNat < 0xD800 ∨ 0xDFFF < c.toNat)) ∨
      ∃ high low, charUnits c = [0xD800 + high, 0xDC00 + low] ∧ high < 0x400 ∧ low < 0x400 ∧
        c.toNat = 0x10000 + 0x400 * high + low := by
  have hvalid : c.toNat < 0xD800 ∨ 0xDFFF < c.toNat ∧ c.toNat < 0x110000 := c.valid
  by_cases h : c.toNat < 0x10000
  · exact .inl ⟨charUnits_of_lt h, by omega⟩
  · exact .inr ⟨(c.toNat - 0x10000) / 0x400, (c.toNat - 0x10000) % 0x400, if_neg h, by omega,
      by omega, by omega⟩

/-- **The code units tell the text.** A unit of a character outside the first plane is never the
unit of one inside, so the characters are read off from the left. -/
theorem units_injective {s t : Text} (h : units s = units t) : s = t := by
  induction s generalizing t with
  | nil =>
    cases t with
    | nil => rfl
    | cons d ds =>
      obtain ⟨hd, -⟩ | ⟨_, _, hd, -⟩ := charUnits_eq d <;> rw [units_cons, hd] at h <;> cases h
  | cons c cs ih =>
    cases t with
    | nil =>
      obtain ⟨hc, -⟩ | ⟨_, _, hc, -⟩ := charUnits_eq c <;> rw [units_cons, hc] at h <;> cases h
    | cons d ds =>
      have hboth : c.toNat = d.toNat ∧ units cs = units ds := by
        rw [units_cons, units_cons] at h
        obtain ⟨hc, hc'⟩ | ⟨_, _, hc, hc'⟩ := charUnits_eq c <;>
          obtain ⟨hd, hd'⟩ | ⟨_, _, hd, hd'⟩ := charUnits_eq d <;>
            rw [hc, hd] at h <;> injection h with h₁ h₂
        · exact ⟨h₁, h₂⟩
        -- A code unit on its own is no surrogate.
        · omega
        · omega
        · injection h₂ with h₂ h₃
          exact ⟨by omega, h₃⟩
      rw [Char.toNat_inj.1 hboth.1, ih hboth.2]

/-- **No Unicode escape is read into an escaped text,** since no backslash in it that may begin one
has a `u` behind it. -/
theorem translate_escape (s rest : Text) :
    translate .outside (escape s ++ rest) =
      (translate .outside rest).map (units (escape s) ++ ·) := by
  induction s with
  | nil => simp [escape]
  | cons c cs ih =>
    by_cases h : c = '"' ∨ c = '\\'
    · have hmark : c ≠ 'u' := by rintro rfl; revert h; decide
      have hslash : charUnits '\\' = [0x5C] := rfl
      rw [escape, if_pos h, List.cons_append, translate, if_pos rfl, List.cons_append, translate,
        if_neg hmark, ih, Option.map_map, units_cons, units_cons, hslash]
      simp [Function.comp_def]
    · rw [escape, if_neg h, List.cons_append, translate, if_neg (not_or.1 h).2, ih, Option.map_map,
        units_cons]
      simp [Function.comp_def]

/-- A code unit that is none of the four the reader asks for is itself. -/
theorem readBody_unit {u : Nat} (us : List Nat) (h : u ∉ [0x22, 0x0A, 0x0D, 0x5C]) :
    readBody (u :: us) = (readBody us).map fun body => (u :: body.1, body.2) := by
  simp only [List.mem_cons, List.not_mem_nil, or_false, not_or] at h
  obtain ⟨hquote, hfeed, hreturn, hslash⟩ := h
  rw [readBody, if_neg hquote, if_neg (not_or.2 ⟨hfeed, hreturn⟩), if_neg hslash]

/-- A backslash opens an escape, and the escape alone tells where the body goes on. -/
theorem readBody_backslash {us rest : List Nat} {value : Nat}
    (h : readEscape us = some (value, rest)) :
    readBody (0x5C :: us) = (readBody rest).map fun body => (value :: body.1, body.2) := by
  rw [readBody, if_neg (by decide), if_neg (by decide), if_pos rfl]
  split <;> simp_all

/-- No other character is cut by the reader, whether it is one code unit or two. -/
theorem readBody_charUnits {c : Char} (us : List Nat) (h : c ∉ ['"', '\n', '\r', '\\']) :
    readBody (charUnits c ++ us) =
      (readBody us).map fun body => (charUnits c ++ body.1, body.2) := by
  obtain ⟨hc, -⟩ | ⟨high, low, hc, -⟩ := charUnits_eq c
  · rw [hc]
    refine readBody_unit us fun hmem => h ?_
    simpa [← Char.toNat_inj] using hmem
  · have hboth : 0xD800 + high ∉ [0x22, 0x0A, 0x0D, 0x5C] ∧
        0xDC00 + low ∉ [0x22, 0x0A, 0x0D, 0x5C] := by
      simp only [List.mem_cons, List.not_mem_nil, or_false]
      omega
    rw [hc, List.cons_append, List.cons_append, List.nil_append, readBody_unit _ hboth.1,
      readBody_unit _ hboth.2, Option.map_map]
    rfl

/-- An escaped character means itself. -/
theorem readBody_escaped {c : Char} (us : List Nat) (h : c = '"' ∨ c = '\\') :
    readBody (0x5C :: (charUnits c ++ us)) =
      (readBody us).map fun body => (charUnits c ++ body.1, body.2) := by
  have hnamed : namedEscapes.lookup c.toNat = some c.toNat ∧ charUnits c = [c.toNat] := by
    obtain rfl | rfl := h <;> exact ⟨rfl, rfl⟩
  have hread : readEscape (charUnits c ++ us) = some (c.toNat, us) := by
    rw [hnamed.2, List.singleton_append, readEscape, hnamed.1]
  rw [readBody_backslash hread, hnamed.2]
  rfl

/-- **A line that ends inside a literal makes it none.** So a text with a line feed or a carriage
return in it is not read back, whatever follows. -/
theorem readBody_lineEnd {c : Char} (us : List Nat) (h : c = '\n' ∨ c = '\r') :
    readBody (charUnits c ++ us) = none := by
  have hunits : charUnits c = [c.toNat] := by obtain rfl | rfl := h <;> rfl
  rw [hunits, List.singleton_append, readBody]
  obtain rfl | rfl := h <;> simp

/-- Escaped or not, a character that ends no line is read back. -/
theorem readBody_escape_cons {c : Char} (cs : Text) (us : List Nat) (h : c ≠ '\n' ∧ c ≠ '\r') :
    readBody (units (escape (c :: cs)) ++ us) =
      (readBody (units (escape cs) ++ us)).map fun body => (charUnits c ++ body.1, body.2) := by
  by_cases hescaped : c = '"' ∨ c = '\\'
  · have hslash : charUnits '\\' = [0x5C] := rfl
    rw [escape, if_pos hescaped, units_cons, units_cons, hslash, List.append_assoc,
      List.append_assoc, List.singleton_append, readBody_escaped _ hescaped]
  · have hplain : c ∉ ['"', '\n', '\r', '\\'] := by
      obtain ⟨hquote, hslash⟩ := not_or.1 hescaped
      simp [hquote, hslash, h]
    rw [escape, if_neg hescaped, units_cons, List.append_assoc, readBody_charUnits _ hplain]

/-- **An escaped text is read up to the quote behind it,** unless a line ends before. -/
theorem readBody_escape (s : Text) (rest : List Nat) :
    readBody (units (escape s) ++ 0x22 :: rest) =
      if '\n' ∈ s ∨ '\r' ∈ s then none else some (units s, rest) := by
  induction s with
  | nil => simp [escape, readBody]
  | cons c cs ih =>
    by_cases hend : c = '\n' ∨ c = '\r'
    · have hplain : ¬ (c = '"' ∨ c = '\\') := by obtain rfl | rfl := hend <;> decide
      have hmem : '\n' ∈ c :: cs ∨ '\r' ∈ c :: cs := by obtain rfl | rfl := hend <;> simp
      rw [escape, if_neg hplain, units_cons, List.append_assoc, readBody_lineEnd _ hend,
        if_pos hmem]
    · obtain ⟨hfeed, hreturn⟩ := not_or.1 hend
      have hmem : ('\n' ∈ c :: cs ∨ '\r' ∈ c :: cs) ↔ ('\n' ∈ cs ∨ '\r' ∈ cs) := by
        simp [Ne.symm hfeed, Ne.symm hreturn]
      rw [readBody_escape_cons _ _ ⟨hfeed, hreturn⟩, ih, units_cons]
      simp only [hmem]
      split <;> rfl

/-- **A quoted text is a literal for it,** unless a line ends in it. -/
theorem literalValue?_quote (s : Text) :
    literalValue? (quote s) = if '\n' ∈ s ∨ '\r' ∈ s then none else some (units s) := by
  have hquote : charUnits '"' = [0x22] := rfl
  have hopen : translate .outside (quote s) = some (0x22 :: (units (escape s) ++ [0x22])) := by
    rw [quote, List.cons_append, translate, if_neg (by decide), translate_escape]
    simp [translate, hquote]
  simp only [literalValue?, hopen, readBody_escape]
  by_cases h : '\n' ∈ s ∨ '\r' ∈ s
  · simp only [if_pos h]
  · simp only [if_neg h]

end Java
end TableCodegen
