import TableCodegen.Toml.Document

/-!
# Text and keys as they are written

A text stands between quotes, and a key stands between quotes or as it is. Between quotes a
character may be written in more than one way:

| character | written as |
| --- | --- |
| plain, neither quote nor backslash | itself |
| with a short escape | `\b`, `\t`, `\n`, `\f`, `\r`, `\"`, `\\` |
| any | `\u` and four digits, or `\U` and eight, with letters of either case |

Whichever way is taken, the text that is read is the text that was written (`readValue_written`,
`readKey?_written`).
-/

namespace TableCodegen
namespace Toml

/-- Hexadecimal digits of a number. -/
inductive HexDigits : Nat → Text → Prop where
  | nil : HexDigits 0 []
  | snoc {n v : Nat} {digits : Text} {d : Char} (h : HexDigits n digits) (hv : v < 16)
    (hd : d = Nat.digitChar v ∨ d = (Nat.digitChar v).toUpper) :
    HexDigits (n * 16 + v) (digits ++ [d])

/-- The letters of the short escapes, and what each stands for. -/
def shortEscapes : List (Char × Char) :=
  [('b', '\x08'), ('t', '\t'), ('n', '\n'), ('f', '\x0c'), ('r', '\r'), ('"', '"'), ('\\', '\\')]

/-- The ways to write a character between quotes. -/
inductive WrittenChar (c : Char) : Text → Prop where
  | plain (hplain : isPlain c = true) (hquote : c ≠ '"') (hbackslash : c ≠ '\\') :
    WrittenChar c [c]
  | short {letter : Char} (h : (letter, c) ∈ shortEscapes) : WrittenChar c ['\\', letter]
  | fourDigits {digits : Text} (hlength : digits.length = 4) (h : HexDigits c.toNat digits) :
    WrittenChar c ('\\' :: 'u' :: digits)
  | eightDigits {digits : Text} (hlength : digits.length = 8) (h : HexDigits c.toNat digits) :
    WrittenChar c ('\\' :: 'U' :: digits)

/-- The ways to write a text between quotes, character by character. -/
inductive WrittenText : Text → Text → Prop where
  | nil : WrittenText [] []
  | cons {c : Char} {t form forms : Text} (hchar : WrittenChar c form)
    (htext : WrittenText t forms) : WrittenText (c :: t) (form ++ forms)

/-- The ways to write a key of one part. -/
inductive WrittenKey : Text → Text → Prop where
  | bare {key : Text} (hne : key ≠ []) (hkey : ∀ c ∈ key, isBareKeyChar c = true) :
    WrittenKey key key
  | quoted {key form : Text} (htext : WrittenText key form) :
    WrittenKey key ('"' :: (form ++ ['"']))

/-! ### Digits -/

/-- A digit is a figure, a small letter or a capital, and its place among them tells its value. -/
theorem digit_cases {v : Nat} (hv : v < 16) {d : Char}
    (hd : d = Nat.digitChar v ∨ d = (Nat.digitChar v).toUpper) :
    (Text.isDigit d = true ∧ d.toNat - '0'.toNat = v) ∨
      (Text.isDigit d = false ∧ ('a' ≤ d && d ≤ 'f') = true ∧ d.toNat - 'a'.toNat + 10 = v) ∨
      (Text.isDigit d = false ∧ ('a' ≤ d && d ≤ 'f') = false ∧ ('A' ≤ d && d ≤ 'F') = true ∧
        d.toNat - 'A'.toNat + 10 = v) := by
  rcases hd with rfl | rfl
  · revert v
    decide
  · revert v
    decide

/-- What a digit adds to the number before it. -/
theorem hexValue?_append {n v : Nat} {digits : Text} {d : Char} (h : hexValue? digits = some n)
    (hv : v < 16) (hd : d = Nat.digitChar v ∨ d = (Nat.digitChar v).toUpper) :
    hexValue? (digits ++ [d]) = some (n * 16 + v) := by
  unfold hexValue? at h ⊢
  rw [List.foldl_append, h, List.foldl_cons, List.foldl_nil, Option.bind_some]
  rcases digit_cases hv hd with
    ⟨hdigit, rfl⟩ | ⟨hdigit, hsmall, rfl⟩ | ⟨hdigit, hsmall, hcapital, rfl⟩
  · rw [if_pos hdigit]
  · rw [hdigit, if_neg Bool.false_ne_true, if_pos hsmall]
  · rw [hdigit, if_neg Bool.false_ne_true, hsmall, if_neg Bool.false_ne_true, if_pos hcapital]

/-- Digits in any mixture of cases are read as their number, by induction from the first digit on,
as the reader goes. -/
theorem HexDigits.hexValue? {n : Nat} {digits : Text} (h : HexDigits n digits) :
    hexValue? digits = some n := by
  induction h with
  | nil => rfl
  | snoc _ hv hd ih => exact hexValue?_append ih hv hd

/-- The digits of a character are read as the character. -/
theorem readCodePoint_append {c : Char} {digits : Text} (h : HexDigits c.toNat digits)
    (rest : Text) : readCodePoint digits.length (digits ++ rest) = some (c, rest) := by
  unfold readCodePoint
  rw [List.take_left, if_pos rfl, h.hexValue?, List.drop_left]
  show (if c.toNat.isValidChar then some (Char.ofNat c.toNat, rest) else none) = some (c, rest)
  rw [if_pos (show c.toNat.isValidChar from c.valid), Char.ofNat_toNat]

/-! ### Text between quotes -/

/-- Each short escape is read as its character, and one letter of the text is taken for it. -/
theorem readEscape_short : ∀ escape ∈ shortEscapes, ∀ rest,
    readEscape (escape.1 :: rest) = some (escape.2, rest) := by
  simp [shortEscapes, readEscape]

/-- **Each way to write a character is read as the character,** in one step. So the reader's bound
counts characters of the text and not of its written form, and a text may be written in any mixture
of ways. -/
theorem WrittenChar.readBasic_append {c : Char} {form : Text} (h : WrittenChar c form)
    (bound : Nat) (rest : Text) :
    readBasic (bound + 1) (form ++ rest) = pushChar c (readBasic bound rest) := by
  cases h with
  | plain hplain hquote hbackslash =>
    rw [List.singleton_append, readBasic, if_pos hplain]
    · exact hquote
    · exact hbackslash
  | short hletter =>
    rw [List.cons_append, List.singleton_append, readBasic, readEscape_short _ hletter]
  | fourDigits hlength hdigits =>
    have hread := readCodePoint_append hdigits rest
    rw [hlength] at hread
    rw [List.cons_append, List.cons_append, readBasic, readEscape, hread]
  | eightDigits hlength hdigits =>
    have hread := readCodePoint_append hdigits rest
    rw [hlength] at hread
    rw [List.cons_append, List.cons_append, readBasic, readEscape, hread]

/-- A character takes up room in every way of writing it. -/
theorem WrittenChar.ne_nil {c : Char} {form : Text} (h : WrittenChar c form) : form ≠ [] := by
  cases h <;> exact List.cons_ne_nil _ _

/-- So the length of a written text bounds the number of its characters, and with it the steps of
the reader. -/
theorem WrittenText.length_le {t form : Text} (h : WrittenText t form) :
    t.length ≤ form.length := by
  induction h with
  | nil => exact Nat.le_refl _
  | cons hchar _ ih =>
    have := List.length_pos_iff.2 hchar.ne_nil
    rw [List.length_cons, List.length_append]
    omega

/-- A written text is read up to its closing quote. -/
theorem WrittenText.readBasic_append {t form : Text} (h : WrittenText t form) {bound : Nat}
    (hbound : t.length < bound) (rest : Text) :
    readBasic bound (form ++ '"' :: rest) = some (t, rest) := by
  obtain ⟨bound, rfl⟩ := Nat.exists_eq_add_one_of_ne_zero (Nat.ne_of_gt (Nat.zero_lt_of_lt hbound))
  induction h generalizing bound with
  | nil => rfl
  | cons hchar _ ih =>
    rw [List.length_cons] at hbound
    obtain ⟨bound, rfl⟩ := Nat.exists_eq_add_one_of_ne_zero (show bound ≠ 0 by omega)
    rw [List.append_assoc, hchar.readBasic_append, ih bound (by omega), pushChar]

/-- The quote that closes a text is the first that stands there as itself. -/
theorem WrittenText.head?_ne_quote {t form : Text} (h : WrittenText t form) :
    form.head? ≠ some '"' := by
  cases h with
  | nil => exact nofun
  | cons hchar _ =>
    cases hchar with
    | plain _ hquote _ => exact fun heq => hquote (Option.some.inj heq)
    | _ => exact nofun

/-- A text between quotes is read as itself. What follows it must not begin with a quote: behind an
empty text that would make three of them, which open a text over several lines. -/
theorem WrittenText.readScalar_written {t form : Text} (h : WrittenText t form) {rest : Text}
    (hrest : rest.head? ≠ some '"') :
    readScalar ('"' :: (form ++ '"' :: rest)) = some (.text t, rest) := by
  have hlength := h.length_le
  have hread : readBasic ((form ++ '"' :: rest).length + 1) (form ++ '"' :: rest) =
      some (t, rest) := by
    refine h.readBasic_append ?_ rest
    rw [List.length_append]
    omega
  have htext : readText ('"' :: (form ++ '"' :: rest)) = some (t, rest) := by
    unfold readText
    split
    · rename_i cs heq
      obtain ⟨-, hform⟩ := List.cons.inj heq
      cases form with
      | nil =>
        obtain ⟨-, hcs⟩ := List.cons.inj hform
        rw [hcs] at hrest
        exact absurd rfl hrest
      | cons c form =>
        obtain ⟨rfl, -⟩ := List.cons.inj hform
        exact absurd rfl h.head?_ne_quote
    · rename_i heq
      cases (List.cons.inj heq).1
    · rename_i heq
      obtain ⟨-, rfl⟩ := List.cons.inj heq
      exact hread
    · rename_i heq
      cases (List.cons.inj heq).1
    · rename_i heq _
      exact absurd rfl (heq _)
  unfold readScalar
  rw [htext]

/-- **A text between quotes is read as a value.** -/
theorem WrittenText.readValue_written {t form : Text} (h : WrittenText t form) {rest : Text}
    (hrest : rest.head? ≠ some '"') (bound depth : Nat) :
    readValue (bound + 1) depth ('"' :: (form ++ '"' :: rest)) = some (.text t, rest) := by
  rw [readValue, h.readScalar_written hrest]
  · exact nofun
  · exact nofun
  · exact nofun
  · exact nofun

/-- Controls are below 128, so four digits write them. -/
theorem hexDigits_of_not_isPlain {c : Char} (h : isPlain c = false) :
    ∃ digits, digits.length = 4 ∧ HexDigits c.toNat digits := by
  have hsmall : c.toNat / 16 < 16 := by
    simp [isPlain] at h
    omega
  have hhigh := ((HexDigits.nil.snoc (show 0 < 16 by decide) (.inl rfl)).snoc
    (show 0 < 16 by decide) (.inl rfl)).snoc hsmall (.inl rfl)
  have hdigits := hhigh.snoc (Nat.mod_lt c.toNat (show 16 > 0 by decide)) (.inl rfl)
  have hvalue : (((0 * 16 + 0) * 16 + 0) * 16 + c.toNat / 16) * 16 + c.toNat % 16 = c.toNat := by
    omega
  exact ⟨_, rfl, hvalue ▸ hdigits⟩

/-- Every character can be written, with eight digits if in no other way. -/
theorem exists_writtenChar (c : Char) : ∃ form, WrittenChar c form := by
  by_cases hquote : c = '"'
  · exact ⟨_, .short (show ('"', c) ∈ shortEscapes by rw [hquote]; decide)⟩
  by_cases hbackslash : c = '\\'
  · exact ⟨_, .short (show ('\\', c) ∈ shortEscapes by rw [hbackslash]; decide)⟩
  cases hplain : isPlain c with
  | true => exact ⟨_, .plain hplain hquote hbackslash⟩
  | false =>
    obtain ⟨digits, hlength, hdigits⟩ := hexDigits_of_not_isPlain hplain
    exact ⟨_, .fourDigits hlength hdigits⟩

/-- **Every text can be written between quotes.** -/
theorem exists_writtenText (t : Text) : ∃ form, WrittenText t form := by
  induction t with
  | nil => exact ⟨[], .nil⟩
  | cons c t ih =>
    obtain ⟨form, hform⟩ := exists_writtenChar c
    obtain ⟨forms, hforms⟩ := ih
    exact ⟨form ++ forms, .cons hform hforms⟩

/-! ### Blanks -/

/-- Spaces and tabs. -/
def Blanks (s : Text) : Prop := ∀ c ∈ s, c = ' ' ∨ c = '\t'

/-- Blanks are skipped, and what follows them is skipped as if they were not there. -/
theorem Blanks.skipBlanks_append {s : Text} (h : Blanks s) (t : Text) :
    skipBlanks (s ++ t) = skipBlanks t := by
  refine List.dropWhile_append_of_pos fun c hc => ?_
  rcases h c hc with rfl | rfl <;> rfl

/-- A text with blanks in front starts with a blank or as it is. -/
theorem Blanks.head?_append_ne {s t : Text} (h : Blanks s) {c : Char} (hspace : c ≠ ' ')
    (htab : c ≠ '\t') (ht : t.head? ≠ some c) : (s ++ t).head? ≠ some c := by
  cases s with
  | nil => exact ht
  | cons b s =>
    intro heq
    obtain rfl := Option.some.inj heq
    rcases h _ List.mem_cons_self with heq | heq
    · exact hspace heq
    · exact htab heq

/-- Nothing is skipped in front of a character that is no blank. -/
theorem skipBlanks_cons {c : Char} (h : (c == ' ' || c == '\t') = false) (t : Text) :
    skipBlanks (c :: t) = c :: t := by
  rw [skipBlanks, List.dropWhile_cons, h]
  rfl

/-! ### Keys -/

/-- A character of a bare key is none of those that mean something to the reader. -/
theorem isBareKeyChar_ne {c d : Char} (hc : isBareKeyChar c = true)
    (hd : isBareKeyChar d = false) : c ≠ d := by
  rintro rfl
  rw [hc] at hd
  cases hd

/-- A key without quotes or the quote in front of one. -/
theorem WrittenKey.exists_cons {key form : Text} (h : WrittenKey key form) :
    ∃ c cs, form = c :: cs ∧ (c = '"' ∨ isBareKeyChar c = true) := by
  cases h with
  | quoted => exact ⟨_, _, rfl, .inl rfl⟩
  | bare hne hkey =>
    cases key with
    | nil => contradiction
    | cons c key => exact ⟨c, key, rfl, .inr (hkey c List.mem_cons_self)⟩

/-- A key begins with a quote or with a character of a bare key. -/
theorem WrittenKey.head?_append_ne {key form : Text} (h : WrittenKey key form) {c : Char}
    (hquote : c ≠ '"') (hkey : isBareKeyChar c = false) (rest : Text) :
    (form ++ rest).head? ≠ some c := by
  obtain ⟨d, cs, rfl, hd⟩ := h.exists_cons
  intro heq
  obtain rfl := Option.some.inj heq
  rcases hd with rfl | hd
  · exact hquote rfl
  · exact isBareKeyChar_ne hd hkey rfl

/-- A key does not begin with a blank. -/
theorem WrittenKey.skipBlanks_append {key form : Text} (h : WrittenKey key form) (rest : Text) :
    skipBlanks (form ++ rest) = form ++ rest := by
  have hspace := h.head?_append_ne (show ' ' ≠ '"' by decide) rfl rest
  have htab := h.head?_append_ne (show '\t' ≠ '"' by decide) rfl rest
  obtain ⟨c, cs, rfl, -⟩ := h.exists_cons
  refine skipBlanks_cons (Bool.eq_false_iff.2 fun hblank => ?_) (cs ++ rest)
  rcases Bool.or_eq_true_iff.1 hblank with heq | heq
  · exact hspace (congrArg some (beq_iff_eq.1 heq))
  · exact htab (congrArg some (beq_iff_eq.1 heq))

/-- A key is one part up to a character that no key without quotes holds. For a key between quotes
any character may follow. -/
theorem WrittenKey.readKeyPart_append {key form : Text} (h : WrittenKey key form) {rest : Text}
    (hrest : ∀ c ∈ rest.head?, isBareKeyChar c = false) :
    readKeyPart (form ++ rest) = some (key, rest) := by
  cases h with
  | quoted htext =>
    have hlength := htext.length_le
    rw [List.cons_append, List.append_assoc, List.singleton_append, readKeyPart]
    refine htext.readBasic_append ?_ rest
    rw [List.length_append]
    omega
  | bare hne hkey =>
    have htake : (key ++ rest).takeWhile isBareKeyChar = key := by
      rw [List.takeWhile_append_of_pos hkey]
      cases rest with
      | nil => exact List.append_nil key
      | cons c rest =>
        rw [List.takeWhile_cons, hrest c rfl]
        exact List.append_nil key
    cases key with
    | nil => contradiction
    | cons c key =>
      have hc := hkey c List.mem_cons_self
      unfold readKeyPart
      split
      · rename_i heq
        exact absurd (List.cons.inj heq).1 (isBareKeyChar_ne hc rfl)
      · rename_i heq
        exact absurd (List.cons.inj heq).1 (isBareKeyChar_ne hc rfl)
      · rw [htake]
        exact congrArg (fun behind => some (c :: key, behind)) List.drop_left

/-- **A key of one part is read up to the sign behind it,** with blanks on both sides. The sign is
the bracket of a header or the equals sign of a pair, and neither goes on with the key as a point
would. -/
theorem WrittenKey.readKey?_written {key form : Text} (h : WrittenKey key form)
    {before behind : Text} (hbefore : Blanks before) (hbehind : Blanks behind) {sign : Char}
    (hsign : sign = ']' ∨ sign = '=') (rest : Text) :
    readKey? (before ++ (form ++ (behind ++ sign :: rest))) = some ([], key, sign :: rest) := by
  have hpart : readKeyPart (form ++ (behind ++ sign :: rest)) =
      some (key, behind ++ sign :: rest) := by
    refine h.readKeyPart_append fun c hc => ?_
    cases behind with
    | nil =>
      obtain rfl := Option.some.inj hc
      rcases hsign with rfl | rfl <;> rfl
    | cons b behind =>
      obtain rfl := Option.some.inj hc
      rcases hbehind b List.mem_cons_self with rfl | rfl <;> rfl
  have hskip : skipBlanks (sign :: rest) = sign :: rest := by
    rcases hsign with rfl | rfl <;> rfl
  rw [readKey?, nestingLimit, readKey, hbefore.skipBlanks_append, h.skipBlanks_append, hpart]
  simp only [hbehind.skipBlanks_append, hskip]
  rcases hsign with rfl | rfl <;> rfl

end Toml
end TableCodegen
