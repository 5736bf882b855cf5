import TableCodegen.Proofs.BasicStrings

/-!
# Documents as they are written, line by line

Of all documents these hold text only, under keys of one part:

| line | form |
| --- | --- |
| header | `[`, the key, `]` |
| pair | the key, `=`, the text between quotes |
| empty | nothing |

Blanks may stand at the start of a line and around its parts, and a comment at its end. A line break
is a line feed, with or without a carriage return before it, and the last line may go without.

Reading such a document adds what its lines say, one after the other
(`WrittenDocument.parse?_eq`), and lines in front of any text are added before the rest is read
(`readLines_wholeLines`).
-/

namespace TableCodegen
namespace Toml

/-- What a line that is not empty says. -/
inductive Item where
  | header (name : Text)
  | pair (key t : Text)
  deriving DecidableEq, Repr

/-- A document after a line that says something. -/
def Item.addTo (c : Construction) : Item → Option Construction
  | header name => c.openTable [] name
  | pair key t => c.insert [] key (.text t)

/-- A document after several lines. -/
def addItems (c : Construction) (items : List Item) : Option Construction :=
  items.foldlM Item.addTo c

/-- The forms of a header and of a pair. -/
inductive WrittenItem : Item → Text → Prop where
  | header {name form before behind : Text} (hname : WrittenKey name form)
    (hbefore : Blanks before) (hbehind : Blanks behind) :
    WrittenItem (.header name) ('[' :: (before ++ (form ++ (behind ++ [']']))))
  | pair {key keyForm t form before behind : Text} (hkey : WrittenKey key keyForm)
    (hbefore : Blanks before) (hbehind : Blanks behind) (htext : WrittenText t form) :
    WrittenItem (.pair key t) (keyForm ++ (before ++ '=' :: (behind ++ '"' :: (form ++ ['"']))))

/-- What may stand at the end of a line: blanks and a comment. -/
inductive Trailer : Text → Prop where
  | blanks {s : Text} (h : Blanks s) : Trailer s
  | comment {s words : Text} (h : Blanks s) (hwords : ∀ c ∈ words, isPlain c = true) :
    Trailer (s ++ '#' :: words)

/-- The forms of a line without its line break, with what it says if it is not empty. -/
inductive WrittenLine : List Item → Text → Prop where
  | empty {s : Text} (h : Trailer s) : WrittenLine [] s
  | item {item : Item} {before form behind : Text} (hbefore : Blanks before)
    (hitem : WrittenItem item form) (hbehind : Trailer behind) :
    WrittenLine [item] (before ++ (form ++ behind))

/-- The forms of a line break. -/
def lineBreaks : List Text := [['\n'], ['\r', '\n']]

/-- Lines with their line breaks, and what they say. -/
inductive WholeLines : List Item → Text → Prop where
  | nil : WholeLines [] []
  | cons {first items : List Item} {line lineBreak s : Text} (hline : WrittenLine first line)
    (hbreak : lineBreak ∈ lineBreaks) (hlines : WholeLines items s) :
    WholeLines (first ++ items) (line ++ (lineBreak ++ s))

/-- The forms of a document: whole lines, and a last one without its line break. -/
inductive WrittenDocument : List Item → Text → Prop where
  | intro {items last : List Item} {s line : Text} (hlines : WholeLines items s)
    (hlast : WrittenLine last line) : WrittenDocument (items ++ last) (s ++ line)

/-- There may be no blanks. -/
theorem blanks_nil : Blanks [] := List.forall_mem_nil _

/-- A line with nothing around what it says. -/
theorem WholeLines.cons_item {item : Item} {items : List Item} {form s : Text}
    (hitem : WrittenItem item form) (hlines : WholeLines items s) :
    WholeLines (item :: items) (form ++ '\n' :: s) := by
  have hline := WholeLines.cons (.item blanks_nil hitem (.blanks blanks_nil))
    (show ['\n'] ∈ lineBreaks by decide) hlines
  rwa [List.nil_append, List.append_nil] at hline

/-! ### The end of a line -/

/-- What stands at the end of a line and what is left behind it: nothing at the end of the text. -/
inductive Ending : Text → Text → Prop where
  | last : Ending [] []
  | lineFeed (next : Text) : Ending ('\n' :: next) next
  | carriageReturn (next : Text) : Ending ('\r' :: '\n' :: next) next

/-- A line break ends a line, and what follows it is the next line. -/
theorem ending_of_mem {lineBreak : Text} (h : lineBreak ∈ lineBreaks) (next : Text) :
    Ending (lineBreak ++ next) next := by
  rcases List.mem_cons.1 h with rfl | h
  · exact .lineFeed next
  · obtain rfl := List.mem_singleton.1 h
    exact .carriageReturn next

/-- What ends a line is read to its end, blanks and a comment included. -/
theorem afterLine?_trailer {s e next : Text} (hs : Trailer s) (he : Ending e next) :
    afterLine? (s ++ e) = some next := by
  have hrest : skipComment (skipBlanks (s ++ e)) = e := by
    cases hs with
    | blanks h =>
      rw [h.skipBlanks_append]
      cases he <;> rfl
    | comment h hwords =>
      rw [List.append_assoc, h.skipBlanks_append]
      show ((_ ++ e).dropWhile isPlain) = e
      rw [List.dropWhile_append_of_pos hwords]
      cases he <;> rfl
  rw [afterLine?, hrest]
  cases he <;> rfl

/-- What ends a line begins with a blank, a tab or the sign of a comment, or is empty. So the reader
of a value does not take it for more of the value. -/
theorem Trailer.head?_append_ne {s t : Text} (h : Trailer s) {c : Char} (hspace : c ≠ ' ')
    (htab : c ≠ '\t') (hcomment : c ≠ '#') (ht : t.head? ≠ some c) :
    (s ++ t).head? ≠ some c := by
  cases h with
  | blanks h => exact h.head?_append_ne hspace htab ht
  | comment h _ =>
    rw [List.append_assoc]
    exact h.head?_append_ne hspace htab fun heq => hcomment (Option.some.inj heq).symm

/-- A text behind a line starts with a line break. -/
theorem Ending.head?_ne {e next : Text} (h : Ending e next) {c : Char} (hlineFeed : c ≠ '\n')
    (hreturn : c ≠ '\r') : e.head? ≠ some c := by
  cases h with
  | last => exact nofun
  | lineFeed => exact fun heq => hlineFeed (Option.some.inj heq).symm
  | carriageReturn => exact fun heq => hreturn (Option.some.inj heq).symm

/-! ### Lines -/

/-- A line without an item changes nothing. It may have blanks and a comment, and both are dropped
with the end of the line. -/
theorem readLine_trailer (c : Construction) {s e next : Text} (hs : Trailer s)
    (he : Ending e next) : readLine c (s ++ e) = some (c, next) := by
  -- Behind the blanks there is a comment or the end of the line.
  have hline : ∃ line, skipBlanks (s ++ e) = line ∧ line.head? ≠ some '[' ∧
      afterLine? line = some next := by
    cases hs with
    | blanks h =>
      refine ⟨e, ?_, ?_, afterLine?_trailer (.blanks blanks_nil) he⟩
      · rw [h.skipBlanks_append]
        cases he <;> rfl
      · cases he <;> exact nofun
    | comment h hwords =>
      refine ⟨_, ?_, ?_, afterLine?_trailer (.comment blanks_nil hwords) he⟩
      · rw [List.append_assoc, h.skipBlanks_append]
        rfl
      · exact nofun
  obtain ⟨line, hskip, hhead, hafter⟩ := hline
  rw [readLine, hskip]
  split
  · exact absurd rfl hhead
  · exact absurd rfl hhead
  · rw [hafter]

/-- **A written header opens its table.** Whether anything but blanks and a comment stands behind it
is left open, as this decides only if reading goes on. -/
theorem readLine_header (c : Construction) {name form before behind : Text}
    (hname : WrittenKey name form) (hbefore : Blanks before) (hbehind : Blanks behind)
    (rest : Text) :
    readLine c ('[' :: (before ++ (form ++ (behind ++ ']' :: rest)))) =
      (c.openTable [] name).bind fun c => (afterLine? rest).map fun next => (c, next) := by
  have hkey := hname.readKey?_written hbefore hbehind (.inl rfl) rest
  have hhead : ∀ cs, before ++ (form ++ (behind ++ ']' :: rest)) ≠ '[' :: cs := by
    intro cs heq
    exact hbefore.head?_append_ne (by decide) (by decide)
      (hname.head?_append_ne (by decide) rfl _) (congrArg List.head? heq)
  rw [readLine, skipBlanks_cons rfl]
  split
  · rename_i cs heq
    exact absurd (List.cons.inj heq).2 (hhead cs)
  · rename_i heq
    obtain ⟨-, rfl⟩ := List.cons.inj heq
    cases hopened : c.openTable [] name <;> cases hnext : afterLine? rest <;>
      simp only [hkey, hopened, hnext] <;> rfl
  · rename_i hopen
    exact absurd rfl (hopen _)

/-- A line with a key in front says something. -/
theorem afterLine?_key {key form : Text} (h : WrittenKey key form) (rest : Text) :
    afterLine? (form ++ rest) = none := by
  have hcomment := h.head?_append_ne (show '#' ≠ '"' by decide) rfl rest
  have hlineFeed := h.head?_append_ne (show '\n' ≠ '"' by decide) rfl rest
  have hreturn := h.head?_append_ne (show '\r' ≠ '"' by decide) rfl rest
  have hskip : skipComment (skipBlanks (form ++ rest)) = form ++ rest := by
    rw [h.skipBlanks_append, skipComment]
    exact fun cs heq => hcomment (congrArg List.head? heq)
  obtain ⟨c, cs, rfl, -⟩ := h.exists_cons
  rw [afterLine?, hskip]
  show afterBreak? (c :: (cs ++ rest)) = none
  rw [afterBreak?]
  · rintro rest' heq
    exact hlineFeed (congrArg List.head? heq)
  · rintro rest' heq
    exact hreturn (congrArg List.head? heq)

/-- **A written pair is inserted into the table that is open.** Blanks around the equals sign and
what trails the value make no difference, and a key that is there already refuses the document. -/
theorem readLine_pair (c : Construction) {key keyForm t form before behind s e next : Text}
    (hkey : WrittenKey key keyForm) (hbefore : Blanks before) (hbehind : Blanks behind)
    (htext : WrittenText t form) (hs : Trailer s) (he : Ending e next) :
    readLine c (keyForm ++ (before ++ '=' :: (behind ++ '"' :: (form ++ '"' :: (s ++ e))))) =
      (c.insert [] key (.text t)).map fun c => (c, next) := by
  have hread := hkey.readKey?_written blanks_nil hbefore (.inr rfl)
    (behind ++ '"' :: (form ++ '"' :: (s ++ e)))
  rw [List.nil_append] at hread
  have hquote : (s ++ e).head? ≠ some '"' :=
    hs.head?_append_ne (by decide) (by decide) (by decide) (he.head?_ne (by decide) (by decide))
  have hvalue := htext.readValue_written hquote
    (behind ++ '"' :: (form ++ '"' :: (s ++ e))).length (nestingLimit - 1)
  have hskip : skipBlanks ('"' :: (form ++ '"' :: (s ++ e))) = '"' :: (form ++ '"' :: (s ++ e)) :=
    skipBlanks_cons rfl _
  have hopen : ∀ cs, keyForm ++ (before ++ '=' :: (behind ++ '"' :: (form ++ '"' :: (s ++ e)))) ≠
      '[' :: cs := by
    intro cs heq
    exact hkey.head?_append_ne (by decide) rfl _ (congrArg List.head? heq)
  rw [readLine, hkey.skipBlanks_append]
  split
  · rename_i heq
    exact absurd heq (hopen _)
  · rename_i heq
    exact absurd heq (hopen _)
  · rw [afterLine?_key hkey, hread]
    simp only [hbehind.skipBlanks_append, hskip, hvalue, afterLine?_trailer hs he]
    cases c.insert [] key (.text t) <;> rfl

/-- **A line adds what it says:** nothing, a pair or a header. What it adds does not depend on the
way it is written, and neither does whether it is refused. -/
theorem readLine_written (c : Construction) {items : List Item} {line e next : Text}
    (hline : WrittenLine items line) (he : Ending e next) :
    readLine c (line ++ e) = (addItems c items).map fun c => (c, next) := by
  cases hline with
  | empty h => exact readLine_trailer c h he
  | item hbefore hitem hbehind =>
    rename_i item before form behind
    have hblanks : readLine c (before ++ (form ++ behind) ++ e) =
        readLine c (form ++ (behind ++ e)) := by
      rw [List.append_assoc, List.append_assoc, readLine, hbefore.skipBlanks_append, readLine]
    have hone : addItems c [item] = item.addTo c := by simp [addItems]
    rw [hblanks, hone]
    cases hitem with
    | header hname hbefore hbehind' =>
      simp only [List.cons_append, List.append_assoc, List.nil_append]
      rw [readLine_header c hname hbefore hbehind', afterLine?_trailer hbehind he, Item.addTo]
      cases c.openTable [] _ <;> rfl
    | pair hkey hbefore hbehind' htext =>
      simp only [List.cons_append, List.append_assoc, List.nil_append]
      exact readLine_pair c hkey hbefore hbehind' htext hbehind he

/-! ### Documents -/

/-- Items are added one after the other, so a document can be taken apart at any line. -/
theorem addItems_append (c : Construction) (items items' : List Item) :
    addItems c (items ++ items') = (addItems c items).bind fun c => addItems c items' :=
  List.foldlM_append

/-- A text is read line by line when its bound is as long as it is. -/
theorem readLines_cons {c : Construction} {t : Text} (ht : t ≠ []) {bound : Nat}
    (hbound : t.length ≤ bound) :
    ∃ bound', bound = bound' + 1 ∧
      readLines bound c t = (readLine c t).bind fun read => readLines bound' read.1 read.2 := by
  cases t with
  | nil => contradiction
  | cons ch t =>
    cases bound with
    | zero => exact absurd hbound (Nat.not_succ_le_zero _)
    | succ bound =>
      refine ⟨bound, rfl, ?_⟩
      rw [readLines]
      · cases readLine c (ch :: t) <;> rfl
      · exact nofun

/-- **Whole lines in front of a text are added before the rest is read.** A line takes one step of
the bound and has at least one character, so the bound that is left is enough for the rest. -/
theorem readLines_wholeLines {items : List Item} {s : Text} (h : WholeLines items s)
    (c : Construction) (rest : Text) {bound : Nat} (hbound : (s ++ rest).length ≤ bound) :
    ∃ bound', rest.length ≤ bound' ∧
      readLines bound c (s ++ rest) = (addItems c items).bind fun c => readLines bound' c rest := by
  induction h generalizing c bound with
  | nil => exact ⟨bound, hbound, rfl⟩
  | cons hline hbreak _ ih =>
    rename_i first items line lineBreak s _
    have hne : lineBreak ≠ [] := by
      rintro rfl
      exact absurd hbreak (by decide)
    have hread := readLine_written c hline (ending_of_mem hbreak (s ++ rest))
    simp only [List.append_assoc] at hbound ⊢
    obtain ⟨bound, rfl, hcons⟩ := readLines_cons (c := c)
      (show line ++ (lineBreak ++ (s ++ rest)) ≠ [] by simp [hne]) hbound
    have hshort : (s ++ rest).length ≤ bound := by
      have := List.length_pos_iff.2 hne
      simp only [List.length_append] at hbound ⊢
      omega
    rw [hcons, hread, addItems_append]
    cases addItems c first with
    | none => exact ⟨rest.length, Nat.le_refl _, rfl⟩
    | some c => exact ih c hshort

/-- The last line is read like every other. It has no line feed, and the document is finished behind
it. -/
theorem readLines_last {items : List Item} {line : Text} (h : WrittenLine items line)
    (c : Construction) {bound : Nat} (hbound : line.length ≤ bound) :
    readLines bound c line = (addItems c items).bind Construction.finish := by
  have hread := readLine_written c h .last
  rw [List.append_nil] at hread
  cases line with
  | nil =>
    have hempty : readLine c [] = some (c, []) := rfl
    obtain ⟨c', hadd, heq⟩ := Option.map_eq_some_iff.1 (hread.symm.trans hempty)
    obtain rfl := (Prod.mk.inj heq).1
    rw [readLines, hadd, Option.bind_some]
  | cons ch line =>
    obtain ⟨bound, rfl, hcons⟩ := readLines_cons (c := c) (List.cons_ne_nil ch line) hbound
    rw [hcons, hread]
    cases addItems c items with
    | none => rfl
    | some c =>
      show readLines bound c [] = c.finish
      rw [readLines]

/-- An item begins with a bracket, a quote or a character of a key. So it does not begin with a byte
order mark, which the reader would drop. -/
theorem WrittenItem.head?_append_ne {item : Item} {form : Text} (h : WrittenItem item form)
    {c : Char} (hbracket : c ≠ '[') (hquote : c ≠ '"') (hkey : isBareKeyChar c = false)
    (rest : Text) : (form ++ rest).head? ≠ some c := by
  cases h with
  | header => exact fun heq => hbracket (Option.some.inj heq).symm
  | pair hwritten =>
    rw [List.append_assoc]
    exact hwritten.head?_append_ne hquote hkey _

/-- No line starts with a byte order mark. -/
theorem WrittenLine.head?_append_ne {items : List Item} {line : Text} (h : WrittenLine items line)
    {rest : Text} (hrest : rest.head? ≠ some '\ufeff') :
    (line ++ rest).head? ≠ some '\ufeff' := by
  cases h with
  | empty h => exact h.head?_append_ne (by decide) (by decide) (by decide) hrest
  | item hbefore hitem _ =>
    rw [List.append_assoc]
    refine hbefore.head?_append_ne (by decide) (by decide) ?_
    rw [List.append_assoc]
    exact hitem.head?_append_ne (by decide) (by decide) (by decide) _

/-- Whole lines put no byte order mark in front of a document. -/
theorem WholeLines.head?_append_ne {items : List Item} {s : Text} (h : WholeLines items s)
    {rest : Text} (hrest : rest.head? ≠ some '\ufeff') : (s ++ rest).head? ≠ some '\ufeff' := by
  cases h with
  | nil => exact hrest
  | cons hline hbreak _ =>
    simp only [List.append_assoc]
    exact hline.head?_append_ne ((ending_of_mem hbreak _).head?_ne (by decide) (by decide))

/-- Without a byte order mark a document is read from its first character on. -/
theorem parse?_of_head?_ne {t : Text} (h : t.head? ≠ some '\ufeff') :
    parse? t = readLines t.length .start t := by
  unfold parse?
  split
  · exact absurd rfl h
  · rfl

/-- **A document is read as what its lines say.** -/
theorem WrittenDocument.parse?_eq {items : List Item} {t : Text} (h : WrittenDocument items t) :
    parse? t = (addItems .start items).bind Construction.finish := by
  obtain ⟨hlines, hlast⟩ := h
  have hhead := hlast.head?_append_ne (show ([] : Text).head? ≠ some '\ufeff' from nofun)
  rw [List.append_nil] at hhead
  rw [parse?_of_head?_ne (hlines.head?_append_ne hhead)]
  obtain ⟨bound, hbound, hread⟩ := readLines_wholeLines hlines .start _ (Nat.le_refl _)
  rw [hread, addItems_append, Option.bind_assoc]
  exact Option.bind_congr fun c _ => readLines_last hlast c hbound

end Toml
end TableCodegen
