import Mathlib.Data.List.Basic
import Mathlib.Tactic.SplitIfs
import TableCodegen.Proofs.Generation
import TableCodegen.Proofs.JsonReading

/-!
# Dumps are read back

A dump is JSON, and what it says is the list of its records: an array with an object for each, in
their order, whose members are the exposed fields in their order. A text is a string with the same
characters, a number a number without a fraction, a flag a word.

The outermost bracket tells where a dump ends, whatever stands behind it. So two dumps with
something behind them are the same text only if they are dumps of the same records, and in an echo
the dump, the line feed and the source can be told apart (`parse_dump`).
-/

namespace TableCodegen

open Text

namespace Json

/-! ### Strings -/

/-- The digits of an escape are read as what they were written for. -/
theorem hexDigit?_digitChar : ∀ n < 16, Java.hexDigit? (Nat.digitChar n) = some n := by decide

/-- A control is its code point in four digits. -/
theorem readUnicode_control {c : Char} (h : c.toNat < 0x20) (rest : Text) :
    readUnicode
        ('0' :: '0' :: Nat.digitChar (c.toNat / 16) :: Nat.digitChar (c.toNat % 16) :: rest) =
      some (c, rest) := by
  have hzero : Java.hexDigit? '0' = some 0 := hexDigit?_digitChar 0 (by omega)
  have hhigh := hexDigit?_digitChar (c.toNat / 16) (by omega)
  have hlow := hexDigit?_digitChar (c.toNat % 16) (by omega)
  have hvalue : 16 * (c.toNat / 16) + c.toNat % 16 = c.toNat := Nat.div_add_mod _ _
  have hunit : readUnit ('0' :: '0' :: Nat.digitChar (c.toNat / 16) ::
      Nat.digitChar (c.toNat % 16) :: rest) = some (c.toNat, rest) := by
    simp [readUnit, hzero, hhigh, hlow, hvalue]
  rw [readUnicode, hunit]
  simp only [bind, Option.bind, Char.ofNat_toNat]
  rw [if_pos (.inl (by omega))]
  rfl

/-- An escape is one character of the string. -/
theorem readString_escape {t rest : Text} {c : Char} (h : readEscape t = some (c, rest)) :
    readString ('\\' :: t) = (readString rest).map fun read => (c :: read.1, read.2) := by
  rw [readString, if_neg (by decide), if_neg (by decide), if_pos rfl]
  split
  · rename_i heq
    rw [h] at heq
    cases heq
  · rename_i heq
    rw [h] at heq
    cases heq
    rfl

/-- A character that needs no escape is read as itself. These are the characters that the writer
leaves as they are. -/
theorem readString_plain {c : Char} (cs : Text) (hquote : c ≠ '"') (hslash : c ≠ '\\')
    (hcontrol : ¬ c.toNat < 0x20) :
    readString (c :: cs) = (readString cs).map fun read => (c :: read.1, read.2) := by
  rw [readString, if_neg hquote, if_neg hcontrol, if_neg hslash]

/-- **A character is read back in each of its written forms:** two characters for those with an
escape of their own, six for the other controls, and one for all the rest. -/
theorem readString_escapeChar (c : Char) (cs : Text) :
    readString (Dump.escapeChar c ++ cs) =
      (readString cs).map fun read => (c :: read.1, read.2) := by
  unfold Dump.escapeChar
  split_ifs with hquote hslash hback hfeed hline hreturn htab hcontrol
  · obtain rfl := hquote
    exact readString_escape rfl
  · obtain rfl := hslash
    exact readString_escape rfl
  · obtain rfl := hback
    exact readString_escape rfl
  · obtain rfl := hfeed
    exact readString_escape rfl
  · obtain rfl := hline
    exact readString_escape rfl
  · obtain rfl := hreturn
    exact readString_escape rfl
  · obtain rfl := htab
    exact readString_escape rfl
  · have hescape : readEscape ('u' :: '0' :: '0' :: Nat.digitChar (c.toNat / 16) ::
        Nat.digitChar (c.toNat % 16) :: cs) = some (c, cs) := readUnicode_control hcontrol cs
    exact readString_escape hescape
  · exact readString_plain cs hquote hslash hcontrol

/-- **An escaped text is read up to the quote behind it.** -/
theorem readString_escaped (t rest : Text) :
    readString (t.flatMap Dump.escapeChar ++ '"' :: rest) = some (t, rest) := by
  induction t with
  | nil =>
    rw [List.flatMap_nil, List.nil_append, readString, if_pos rfl]
  | cons c cs ih =>
    rw [List.flatMap_cons, List.append_assoc, readString_escapeChar, ih]
    rfl

/-! ### Numbers -/

/-- The digits of a number have it as their value. -/
theorem digitsValue_decimal (n : Nat) : digitsValue (decimal n) = n := by
  have hfold : digitsValue (decimal n) = Nat.ofDigitChars 10 (decimal n) 0 := by
    rw [Nat.ofDigitChars_eq_foldl, digitsValue]
    simp only [Nat.mul_comm]
  rw [hfold, decimal, Nat.ofDigitChars_ten_toDigits]

/-- A number is written with digits and nothing else, so the first character that is none ends
it. -/
theorem isDigit_of_mem_decimal {n : Nat} {c : Char} (h : c ∈ decimal n) : isDigit c = true := by
  have hdigit := Nat.isDigit_of_mem_toDigits (by decide) (by decide) h
  simpa [Char.isDigit, isDigit, Char.le_def] using hdigit

/-- A number other than zero has no zero in front. By induction on the number, since its first digit
is that of the number without its last digit. -/
theorem head?_decimal {n : Nat} (h : (decimal n).head? = some '0') : decimal n = ['0'] := by
  induction n using Nat.strongRecOn with
  | ind n ih =>
    rw [decimal, Nat.toDigits_eq_if (by decide)] at h ⊢
    split at h
    · rename_i hsmall
      rw [if_pos hsmall]
      exact congrArg (fun c => [c]) (Option.some.inj h)
    · rename_i hlarge
      have hfewer : (decimal (n / 10)).head? = some '0' := by
        cases hdigits : decimal (n / 10) with
        | nil => exact absurd hdigits Nat.toDigits_ne_nil
        | cons c cs =>
          rw [decimal] at hdigits
          rwa [hdigits] at h
      have hzero := congrArg digitsValue (ih (n / 10) (by omega) hfewer)
      rw [digitsValue_decimal] at hzero
      change n / 10 = 0 at hzero
      omega

/-- What may follow a value in a dump: a comma, or the end of the line. -/
def endsValue (rest : Text) : Bool := rest.head? == some ',' || rest.head? == some '\n'

/-- What stands behind a value begins with one of two characters, and neither of them could go on
with a number. -/
theorem exists_of_endsValue {rest : Text} (h : endsValue rest = true) :
    ∃ c cs, rest = c :: cs ∧ (c = ',' ∨ c = '\n') := by
  cases rest with
  | nil => cases h
  | cons c cs => exact ⟨c, cs, rfl, by simpa [endsValue] using h⟩

/-- All digits of a written number are read, and nothing behind them. -/
theorem readDigits_decimal (n : Nat) {rest : Text} (hrest : endsValue rest = true) :
    readDigits (decimal n ++ rest) = some (decimal n, rest) := by
  obtain ⟨c, cs, rfl, hc⟩ := exists_of_endsValue hrest
  have hstop : isDigit c = false := by
    rcases hc with rfl | rfl <;> decide
  have htake : (decimal n ++ c :: cs).takeWhile isDigit = decimal n := by
    rw [List.takeWhile_append_of_pos fun d hd => isDigit_of_mem_decimal hd,
      List.takeWhile_cons_of_neg (by simp [hstop]), List.append_nil]
  rw [readDigits, htake]
  split
  · rename_i hnil
    exact absurd hnil Nat.toDigits_ne_nil
  · rw [List.drop_left]

/-- **A written number is read back.** It has no sign, no fraction and no exponent, and no zero in
front that JSON would refuse. -/
theorem readNumber_decimal (n : Nat) {rest : Text} (hrest : endsValue rest = true) :
    readNumber (decimal n ++ rest) = some (⟨false, n, 0⟩, rest) := by
  have hunsigned : readUnsigned false (decimal n ++ rest) = some (⟨false, n, 0⟩, rest) := by
    have hzero : ¬ ((decimal n).head? = some '0' ∧ decimal n ≠ ['0']) := fun h =>
      h.2 (head?_decimal h.1)
    have hfraction : readFraction rest = some ([], rest) := by
      obtain ⟨c, cs, rfl, rfl | rfl⟩ := exists_of_endsValue hrest <;> rfl
    have hexponent : readExponent rest = some (0, rest) := by
      obtain ⟨c, cs, rfl, rfl | rfl⟩ := exists_of_endsValue hrest <;> rfl
    rw [readUnsigned, readDigits_decimal n hrest]
    simp only [bind, Option.bind, if_neg hzero, hfraction, hexponent, List.append_nil,
      digitsValue_decimal]
    rfl
  rw [readNumber.eq_def]
  split
  · rename_i cs heq
    have hmem : '-' ∈ decimal n := by
      cases hdigits : decimal n with
      | nil => exact absurd hdigits Nat.toDigits_ne_nil
      | cons d ds =>
        rw [hdigits] at heq
        exact (List.cons.inj heq).1 ▸ List.mem_cons_self
    exact absurd (isDigit_of_mem_decimal hmem) (by decide)
  · exact hunsigned

/-! ### Brackets -/

/-- The start of a line is white space, whatever its level. -/
theorem skipSpace_lineStart (level : Nat) (t : Text) :
    skipSpace (Dump.lineStart level ++ t) = skipSpace t := by
  have hblanks : ∀ count, skipSpace (List.replicate count ' ' ++ t) = skipSpace t := by
    intro count
    induction count with
    | zero => rfl
    | succ count ih => exact ih
  exact hblanks (2 * level)

/-- A character that white space does not hold. -/
def isSolid (c : Char) : Bool := !(c == ' ' || c == '\t' || c == '\n' || c == '\r')

/-- No white space is skipped where there is none. -/
theorem skipSpace_solid {c : Char} (h : isSolid c = true) (cs : Text) :
    skipSpace (c :: cs) = c :: cs := by
  rw [skipSpace, List.dropWhile_cons_of_neg]
  simpa [isSolid] using h

/-- Items that are written one to a line are read back by a reader of items, which stops at a comma
and at the end of the line. No item begins with white space or with the closing bracket. -/
structure ReadBack {α β : Type} (readItem : Text → Option (α × Text)) (closing : Char) (level : Nat)
    (written : β → Text) (read : β → α) (items : List β) : Prop where
  opens : ∀ item ∈ items, ∃ c cs, written item = c :: cs ∧ isSolid c = true ∧ c ≠ closing
  reads : ∀ item ∈ items, ∀ rest, endsValue rest = true →
    readItem (Dump.lineStart level ++ (written item ++ rest)) = some (read item, rest)

section Brackets

variable {α β : Type} {readItem : Text → Option (α × Text)} {closing : Char}
  {written : β → Text} {read : β → α} {level : Nat}

/-- What is read back item by item is read back without the first item too. -/
theorem ReadBack.tail {item : β} {items : List β}
    (h : ReadBack readItem closing level written read (item :: items)) :
    ReadBack readItem closing level written read items :=
  ⟨(List.forall_mem_cons.1 h.opens).2, (List.forall_mem_cons.1 h.reads).2⟩

/-- Written items with commas between them. -/
def itemLines (written : β → Text) (level : Nat) (items : List β) : Text :=
  joinWith [','] (items.map fun item => Dump.lineStart level ++ written item)

/-- The last item has no comma behind it. -/
theorem itemLines_singleton (item : β) (rest : Text) :
    itemLines written level [item] ++ rest = Dump.lineStart level ++ (written item ++ rest) := by
  rw [itemLines, List.map_singleton, joinWith, List.intercalate_singleton, List.append_assoc]

/-- Every other item has a comma behind it, and the next item starts on a new line. -/
theorem itemLines_cons (item : β) {items : List β} (h : items ≠ []) (rest : Text) :
    itemLines written level (item :: items) ++ rest =
      Dump.lineStart level ++ (written item ++ ',' :: (itemLines written level items ++ rest)) := by
  have hmap : items.map (fun item => Dump.lineStart level ++ written item) ≠ [] := fun hnil =>
    h (List.map_eq_nil_iff.1 hnil)
  rw [itemLines, List.map_cons, joinWith, List.intercalate_cons_of_ne_nil hmap, ← joinWith,
    ← itemLines]
  simp only [List.append_assoc, List.cons_append, List.nil_append]

/-- Items start with a first one, which the reader of a bracket uses to tell them from an empty
bracket. -/
theorem exists_itemLines (written : β → Text) (level : Nat) {items : List β} (h : items ≠ [])
    (rest : Text) :
    ∃ item ∈ items, ∃ more, itemLines written level items ++ rest =
      Dump.lineStart level ++ (written item ++ more) := by
  match items, h with
  | [item], _ => exact ⟨item, List.mem_cons_self, _, itemLines_singleton item rest⟩
  | item :: next :: items, _ =>
    exact ⟨item, List.mem_cons_self, _, itemLines_cons item (List.cons_ne_nil _ _) rest⟩

/-- Each item takes a character at least. So the length of the text is a bound that is large enough
for the number of items. -/
theorem length_le_length_itemLines (items : List β) (rest : Text) :
    items.length ≤ (itemLines written level items ++ rest).length := by
  have hstart : 1 ≤ (Dump.lineStart level).length := Nat.le_add_left _ _
  induction items with
  | nil => exact Nat.zero_le _
  | cons item items ih =>
    by_cases hnil : items = []
    · rw [hnil, itemLines_singleton, List.length_append, List.length_singleton]
      omega
    · rw [itemLines_cons item hnil, List.length_append, List.length_append, List.length_cons,
        List.length_cons]
      omega

/-- **Items are read one by one up to the closing bracket.** The induction is on the items; what
stands behind an item is a comma for all but the last one. -/
theorem ReadBack.readItems_itemLines (hclosing : isSolid closing = true ∧ closing ≠ ',')
    {items : List β} (hitems : items ≠ [])
    (h : ReadBack readItem closing (level + 1) written read items) (rest : Text) :
    ∀ bound, items.length ≤ bound →
      readItems readItem closing bound
          (itemLines written (level + 1) items ++ (Dump.lineStart level ++ closing :: rest)) =
        some (items.map read, rest) := by
  induction items with
  | nil => exact absurd rfl hitems
  | cons item items ih =>
    intro bound hbound
    rw [List.length_cons] at hbound
    obtain ⟨bound, rfl⟩ : ∃ k, bound = k + 1 := ⟨bound - 1, by omega⟩
    have hitem := h.reads item List.mem_cons_self
    by_cases hnil : items = []
    · have hread := hitem (Dump.lineStart level ++ closing :: rest) rfl
      rw [hnil, itemLines_singleton, readItems, hread]
      simp only [skipSpace_lineStart, skipSpace_solid hclosing.1, if_pos, List.map_singleton]
    · have hmore := ih hnil h.tail bound (by omega)
      have hcomma : isSolid ',' = true := rfl
      rw [itemLines_cons item hnil, readItems, hitem _ rfl]
      simp only [skipSpace_solid hcomma, if_neg hclosing.2.symm, if_pos, hmore, Option.map_some,
        List.map_cons]

/-- **A bracket of the dump is read item by item,** if each item is. The records of the dump and the
members of a record are written in the same way, so this is used for both, one level apart. -/
theorem ReadBack.readBracket_bracketed (opening : Char)
    (hclosing : isSolid closing = true ∧ closing ≠ ',') {items : List β}
    (h : ReadBack readItem closing (level + 1) written read items) (rest : Text) : ∃ inner,
      Dump.bracketed opening closing level (items.map written) ++ rest = opening :: inner ∧
      readBracket readItem closing inner = some (items.map read, rest) := by
  by_cases hnil : items = []
  · refine ⟨closing :: rest, by rw [hnil]; rfl, ?_⟩
    rw [readBracket, skipSpace_solid hclosing.1, hnil]
    exact if_pos rfl
  · have hbracket : Dump.bracketed opening closing level (items.map written) ++ rest = opening ::
        (itemLines written (level + 1) items ++ (Dump.lineStart level ++ closing :: rest)) := by
      rw [Dump.bracketed]
      · simp only [itemLines, List.map_map, Function.comp_def, List.cons_append,
          List.append_assoc, List.nil_append]
      · exact fun hmap => hnil (List.map_eq_nil_iff.1 hmap)
    refine ⟨_, hbracket, ?_⟩
    -- The first item begins with another character than the closing bracket.
    obtain ⟨first, hfirst, more, hmore⟩ :=
      exists_itemLines written (level + 1) hnil (Dump.lineStart level ++ closing :: rest)
    obtain ⟨c, cs, hwritten, hsolid, hne⟩ := h.opens first hfirst
    have hskip : skipSpace
        (itemLines written (level + 1) items ++ (Dump.lineStart level ++ closing :: rest)) =
          c :: (cs ++ more) := by
      rw [hmore, skipSpace_lineStart, hwritten, List.cons_append, skipSpace_solid hsolid]
    rw [readBracket, hskip]
    simp only [if_neg hne]
    exact h.readItems_itemLines hclosing hnil rest _ (length_le_length_itemLines items _)

end Brackets

/-! ### Records -/

/-- What a field's content is in JSON. -/
def ofContent : Content → Json
  | .text t => .string t
  | .number n => .number ⟨false, n, 0⟩
  | .flag b => .boolean b

/-- What a record is in JSON. -/
def ofRecord (record : Record) : Json :=
  .object (record.map fun field => (field.1, ofContent field.2))

/-- Contents that are the same in JSON are the same. -/
theorem ofContent_injective : Function.Injective ofContent := by
  intro a b h
  cases a <;> cases b <;> simp_all [ofContent]

/-- Records that are the same in JSON are the same, in their names, their contents and the order of
their fields. -/
theorem ofRecord_injective : Function.Injective ofRecord := by
  intro r s h
  refine List.map_injective_iff.2 ?_ (Json.object.inj h)
  rintro ⟨name, content⟩ ⟨name', content'⟩ hfield
  obtain ⟨hname, hcontent⟩ := Prod.mk.inj hfield
  exact Prod.ext hname (ofContent_injective hcontent)

/-- A text is read back as a string. -/
theorem readValue_quoted (levels : Nat) (t rest : Text) :
    readValue (levels + 1) (Dump.quoted t ++ rest) = some (.string t, rest) := by
  have htext : Dump.quoted t ++ rest = '"' :: (t.flatMap Dump.escapeChar ++ '"' :: rest) := by
    simp [Dump.quoted]
  have hquote : isSolid '"' = true := rfl
  rw [htext, readValue, skipSpace_solid hquote]
  simp only [readString_escaped, Option.map_some]

/-- A number is read back. It begins with a digit, so it is none of the other kinds of value, each
of which has first characters of its own. -/
theorem readValue_decimal (levels n : Nat) {rest : Text} (hrest : endsValue rest = true) :
    readValue (levels + 1) (decimal n ++ rest) = some (.number ⟨false, n, 0⟩, rest) := by
  have hnumber := readNumber_decimal n hrest
  obtain ⟨d, ds, hdigits⟩ := List.exists_cons_of_ne_nil (l := decimal n) Nat.toDigits_ne_nil
  have hdigit : isDigit d = true := isDigit_of_mem_decimal (hdigits ▸ List.mem_cons_self)
  have hne : ∀ c, isDigit c = false → d ≠ c := by
    rintro c hc rfl
    exact absurd hdigit (by simp [hc])
  have hsolid : isSolid d = true := by
    simp [isSolid, hne ' ' rfl, hne '\t' rfl, hne '\n' rfl, hne '\r' rfl]
  have hword : readWord (d :: (ds ++ rest)) = none := by
    have hnull : after? "null".toList (d :: (ds ++ rest)) = none :=
      after?_of_ne (hne 'n' rfl).symm _ _
    have htrue : after? "true".toList (d :: (ds ++ rest)) = none :=
      after?_of_ne (hne 't' rfl).symm _ _
    have hfalse : after? "false".toList (d :: (ds ++ rest)) = none :=
      after?_of_ne (hne 'f' rfl).symm _ _
    rw [readWord, words, List.findSome?_cons, hnull, Option.map_none, List.findSome?_cons, htrue,
      Option.map_none, List.findSome?_cons, hfalse]
    rfl
  rw [hdigits, List.cons_append] at hnumber ⊢
  rw [readValue, skipSpace_solid hsolid]
  split
  · rename_i heq
    exact absurd (List.cons.inj heq).1 (hne '"' rfl)
  · rename_i heq
    exact absurd (List.cons.inj heq).1 (hne '[' rfl)
  · rename_i heq
    exact absurd (List.cons.inj heq).1 (hne '\x7b' rfl)
  · rw [hword, hnumber]
    rfl

/-- A content is read as itself. -/
theorem readValue_content (levels : Nat) (content : Content) {rest : Text}
    (hrest : endsValue rest = true) :
    readValue (levels + 1) (Dump.content content ++ rest) = some (ofContent content, rest) := by
  cases content with
  | text t => exact readValue_quoted levels t rest
  | number n => exact readValue_decimal levels n hrest
  | flag b => cases b <;> rfl

/-- A member of an object is its name in quotes, a colon, a blank and its content, and is read as
that name and that content. -/
theorem readMember_member (levels : Nat) (field : Text × Content) {rest : Text}
    (hrest : endsValue rest = true) :
    readMember (readValue (levels + 1)) (Dump.lineStart 2 ++ (Dump.member field ++ rest)) =
      some ((field.1, ofContent field.2), rest) := by
  have htext : Dump.member field ++ rest = '"' :: (field.1.flatMap Dump.escapeChar ++
      '"' :: ':' :: ' ' :: (Dump.content field.2 ++ rest)) := by
    simp [Dump.member, Dump.quoted]
  have hquote : isSolid '"' = true := rfl
  have hblank : readValue (levels + 1) (' ' :: (Dump.content field.2 ++ rest)) =
      readValue (levels + 1) (Dump.content field.2 ++ rest) := rfl
  have hcolon : after? [':'] (skipSpace (':' :: ' ' :: (Dump.content field.2 ++ rest))) =
      some (' ' :: (Dump.content field.2 ++ rest)) := rfl
  rw [htext, readMember, skipSpace_lineStart, skipSpace_solid hquote]
  simp only [bind, Option.bind, readString_escaped, hcolon, hblank,
    readValue_content levels field.2 hrest]
  rfl

/-- The members of a record are read back. -/
theorem readBack_members (levels : Nat) (record : Record) :
    ReadBack (readMember (readValue (levels + 1))) '\x7d' 2 Dump.member
      (fun field => (field.1, ofContent field.2)) record where
  opens _ _ := ⟨'"', _, rfl, rfl, by decide⟩
  reads field _ _ hrest := readMember_member levels field hrest

/-- A bracket begins with its opening character, whether there are items or not. -/
theorem exists_bracketed (opening closing : Char) (level : Nat) (items : List Text) :
    ∃ cs, Dump.bracketed opening closing level items = opening :: cs := by
  cases items with
  | nil => exact ⟨_, rfl⟩
  | cons item items => exact ⟨_, rfl⟩

/-- **A record is read as an object with its fields in order,** whatever stands behind it. -/
theorem readValue_record (levels : Nat) (record : Record) (rest : Text) :
    readValue (levels + 2) (Dump.lineStart 1 ++ (Dump.record record ++ rest)) =
      some (ofRecord record, rest) := by
  obtain ⟨inner, hinner, hread⟩ :=
    (readBack_members levels record).readBracket_bracketed '\x7b' ⟨rfl, by decide⟩ rest
  have hbrace : isSolid '\x7b' = true := rfl
  rw [Dump.record, hinner, readValue, skipSpace_lineStart, skipSpace_solid hbrace]
  simp only [hread, Option.map_some]
  rfl

/-- The records of a dump are read back. -/
theorem readBack_records (levels : Nat) (records : List Record) :
    ReadBack (readValue (levels + 2)) ']' 1 Dump.record ofRecord records where
  opens record _ := by
    obtain ⟨cs, hcs⟩ := exists_bracketed '\x7b' '\x7d' 1 (record.map Dump.member)
    exact ⟨'\x7b', cs, hcs, rfl, by decide⟩
  reads record _ rest _ := readValue_record levels record rest

/-- **A dump is read as the array of its records,** whatever stands behind it. -/
theorem readValue_records (levels : Nat) (records : List Record) (rest : Text) :
    readValue (levels + 3) (Dump.records records ++ rest) =
      some (.array (records.map ofRecord), rest) := by
  obtain ⟨inner, hinner, hread⟩ :=
    (readBack_records levels records).readBracket_bracketed '[' ⟨rfl, by decide⟩ rest
  have hbracket : isSolid '[' = true := rfl
  rw [Dump.records, hinner, readValue, skipSpace_solid hbracket]
  simp only [hread, Option.map_some]

/-- **A dump is a JSON text, and says the list of its records.** The reader takes the length of the
text as the bound for its levels, and a dump needs three of them. -/
theorem parse?_records (records : List Record) :
    parse? (Dump.records records) = some (.array (records.map ofRecord)) := by
  obtain ⟨cs, hcs⟩ := exists_bracketed '[' ']' 0 (records.map Dump.record)
  -- Both brackets of the dump are in it, so there are levels enough.
  have hlength : 2 ≤ (Dump.records records).length := by
    cases records with
    | nil => exact Nat.le_refl _
    | cons record records =>
      rw [Dump.records, List.map_cons, Dump.bracketed]
      · simp only [List.cons_append, List.length_cons, List.length_append]
        omega
      · exact List.cons_ne_nil _ _
  obtain ⟨levels, hlevels⟩ : ∃ k, (Dump.records records).length + 1 = k + 3 :=
    ⟨(Dump.records records).length - 2, by omega⟩
  have hread := readValue_records levels records []
  rw [List.append_nil] at hread
  rw [parse?, hlevels, hread]
  rfl

/-- **Dumps with something behind them are told apart** by their records and by what is behind. -/
theorem records_append_inj {records records' : List Record} {rest rest' : Text}
    (h : Dump.records records ++ rest = Dump.records records' ++ rest') :
    records = records' ∧ rest = rest' := by
  have hread := readValue_records 0 records rest
  rw [h, readValue_records 0 records' rest'] at hread
  obtain ⟨hvalue, hrest⟩ := Prod.mk.inj (Option.some.inj hread)
  exact ⟨(List.map_injective_iff.2 ofRecord_injective (Json.array.inj hvalue)).symm, hrest.symm⟩

end Json

/-- A reference point as JSON. -/
def ReferencePoint.json (point : ReferencePoint) : Json := .object [
  ("name".toList, .string point.name),
  ("protocol".toList, .string (Java.arrayOf point.protocol)),
  ("elements".toList, .string (Java.arrayOf point.elements)),
  ("description".toList, .string (Java.quote point.description)),
  ("references".toList, .string (Java.arrayOf point.references))]

/-- An information element as JSON. -/
def InformationElement.json (element : InformationElement) : Json := .object [
  ("type".toList, .number ⟨false, element.typeCode.toNat, 0⟩),
  ("message".toList, .string element.message),
  ("specification".toList, .string (Java.quote element.specification)),
  ("section".toList, .string (Java.quote element.sectionText)),
  ("initial".toList, .boolean element.initial),
  ("triggered".toList, .boolean element.triggered),
  ("interfaces".toList, .string element.interfaceNames)]

/-- An echo without a limit receives the dump, a line feed and the source, or nothing behind the
line feed if there is no source. Whether the output could then be written makes no difference to
it. -/
theorem run_generate_echo {generator : Generator} {table : Text} {records : List Record}
    (hload : generator.load table = .ok records) (paths : Paths) (tree : FileTree) :
    ((generate generator table paths (some Sink.unlimited) :
        StateM FileTree Generation).run tree).1.echo =
      some ⟨none, utf8 (Dump.records records ++
        '\n' :: ((tree.rendering generator paths records).toOption.getD []))⟩ := by
  obtain ⟨run, received, after, hrun, hecho, hechoed, -⟩ :=
    generate_cases generator table paths tree (some none)
  have hsink : (some none : Option (Option Nat)).map (Sink.filled · []) = some Sink.unlimited := rfl
  rw [hsink] at hrun
  rw [hrun]
  refine hecho.trans (congrArg (fun received => some (⟨none, received⟩ : Sink)) ?_)
  -- Only the outcome of the run matters from here on.
  generalize run.outcome = outcome at hechoed
  cases hechoed with
  | notLoaded hload' =>
    rw [hload] at hload'
    cases hload'
  | inDump _ hlimit => cases hlimit
  | behindDump _ hlimit => cases hlimit
  | inSource _ _ hlimit => cases hlimit
  | notRendered hload' _ hrender =>
    rw [hload] at hload'
    cases hload'
    rw [hrender]
    simp [utf8, Except.toOption]
  | whole hload' hrender _ =>
    rw [hload] at hload'
    cases hload'
    rw [hrender]
    simp [utf8, Except.toOption]

/-- **A dump says what the records are.** Read as JSON, it is the array of the records of either
table, in their order, with their exposed fields. Dumps are the same only for the same records, also
with a line feed and a source behind them, and this is what an echo receives. -/
theorem parse_dump :
    (∀ points : List ReferencePoint,
      Json.parse? (Dump.records (points.map ReferencePoint.expose)) =
        some (.array (points.map ReferencePoint.json))) ∧
    (∀ elements : List InformationElement,
      Json.parse? (Dump.records (elements.map InformationElement.expose)) =
        some (.array (elements.map InformationElement.json))) ∧
    (∀ records records' : List Record,
      Dump.records records = Dump.records records' ↔ records = records') ∧
    (∀ (records records' : List Record) (source source' : Text),
      Dump.records records ++ '\n' :: source = Dump.records records' ++ '\n' :: source' ↔
        records = records' ∧ source = source') ∧
    (∀ (generator : Generator) (table : Text) (records : List Record) (paths : Paths)
      (tree : FileTree), generator.load table = .ok records →
        ((generate generator table paths (some Sink.unlimited) :
            StateM FileTree Generation).run tree).1.echo =
          some ⟨none, utf8 (Dump.records records ++
            '\n' :: ((tree.rendering generator paths records).toOption.getD []))⟩) := by
  refine ⟨fun points => ?_, fun elements => ?_, fun records records' => ?_,
    fun records records' source source' => ?_, fun _ _ _ paths tree hload =>
      run_generate_echo hload paths tree⟩
  · rw [Json.parse?_records, List.map_map]
    rfl
  · rw [Json.parse?_records, List.map_map]
    rfl
  · refine ⟨fun h => ?_, fun h => h ▸ rfl⟩
    have hbehind : Dump.records records ++ [] = Dump.records records' ++ [] := by rw [h]
    exact (Json.records_append_inj hbehind).1
  · refine ⟨fun h => ?_, ?_⟩
    · obtain ⟨hrecords, hsource⟩ := Json.records_append_inj h
      exact ⟨hrecords, (List.cons.inj hsource).2⟩
    · rintro ⟨rfl, rfl⟩
      rfl

/-- A table with one row, and the echo of a run on it. The lone quote of the description is escaped
as a literal and then as a string of the dump. -/
theorem parse_dump_loneQuote :
    Generator.referencePoints.load "h\nUu\tp\te\td\"\tr\n".toList =
        .ok [ReferencePoint.expose ⟨"Uu".toList, [['p']], [['e']], "d\"".toList, [['r']]⟩] ∧
      ((generate .referencePoints "h\nUu\tp\te\td\"\tr\n".toList ⟨[], ['t'], ['o']⟩
          (some Sink.unlimited) : StateM FileTree Generation).run
        ⟨[(["home".toList], .directory), (["home".toList, "work".toList], .directory),
          (["home".toList, "work".toList, ['t']], .file (utf8 ['x']))]⟩).1.echo =
        some ⟨none, utf8 (Dump.records
          [ReferencePoint.expose ⟨"Uu".toList, [['p']], [['e']], "d\"".toList, [['r']]⟩] ++
            "\nx".toList)⟩ := by
  have hload : Generator.referencePoints.load "h\nUu\tp\te\td\"\tr\n".toList =
      .ok [ReferencePoint.expose ⟨"Uu".toList, [['p']], [['e']], "d\"".toList, [['r']]⟩] := by
    decide +kernel
  refine ⟨hload, (parse_dump.2.2.2.2 _ _ _ _ _ hload).trans ?_⟩
  decide +kernel

end TableCodegen
