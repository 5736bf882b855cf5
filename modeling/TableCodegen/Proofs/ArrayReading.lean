import TableCodegen.Java.Literal

/-!
# Array initializers are read back

A constant of the generated enum has several array initializers and literals one behind the other on
its line. So an initializer has to tell by itself where it ends, whatever its items hold and
whatever stands behind it.

The reader below takes the opening `new String[]` and brace, then literals with a comma in front of
each but the first, up to the closing brace. In a literal a backslash makes the next character
content, and the first quote without one ends it.

| behind the opening brace or a literal | what is read |
| --- | --- |
| closing brace | the end |
| literal, only behind the opening brace | the first item |
| comma and literal, only behind a literal | a further item |
| anything else | no initializer |

`readArray_arrayOf` says that the reader gets the items back and leaves what stands behind.
-/

namespace TableCodegen
namespace Java

open Text

/-- What a literal holds, from behind its opening quote on, and what is left behind its closing
one. -/
def readContent : Text → Option (Text × Text)
  | [] => none
  | '\\' :: c :: cs => (readContent cs).map fun read => (c :: read.1, read.2)
  | c :: cs =>
    if c = '"' then some ([], cs)
    else if c = '\\' then none
    else (readContent cs).map fun read => (c :: read.1, read.2)

/-- The literal at the start of a text, and what is left behind it. -/
def readLiteral : Text → Option (Text × Text)
  | [] => none
  | c :: cs => if c = '"' then readContent cs else none

/-- The closing quote at least is read, so what is left is shorter. The reader of an initializer
ends by this. -/
theorem length_lt_of_readContent {t item rest : Text} (h : readContent t = some (item, rest)) :
    rest.length < t.length := by
  fun_induction readContent t generalizing item with
  | case1 => cases h
  | case2 c cs ih =>
    obtain ⟨⟨content, left⟩, hread, heq⟩ := Option.map_eq_some_iff.1 h
    obtain ⟨-, rfl⟩ := Prod.mk.inj heq
    have hlt : left.length < cs.length := ih hread
    simp only [List.length_cons]
    omega
  | case3 c cs =>
    cases h
    exact Nat.lt_succ_self _
  | case4 => cases h
  | case5 c cs _ _ _ ih =>
    obtain ⟨⟨content, left⟩, hread, heq⟩ := Option.map_eq_some_iff.1 h
    obtain ⟨-, rfl⟩ := Prod.mk.inj heq
    have hlt : left.length < cs.length := ih hread
    simp only [List.length_cons]
    omega

/-- A literal takes at least its quote. -/
theorem length_lt_of_readLiteral {t item rest : Text} (h : readLiteral t = some (item, rest)) :
    rest.length < t.length := by
  cases t with
  | nil => cases h
  | cons c cs =>
    rw [readLiteral] at h
    split at h
    · exact Nat.lt_succ_of_lt (length_lt_of_readContent h)
    · cases h

/-- The items behind a literal, up to the closing brace, and what is left behind it. -/
def readFurther : Text → Option (List Text × Text)
  | [] => none
  | c :: cs =>
    if c = '\x7d' then some ([], cs)
    else if c = ',' then
      match _h : readLiteral cs with
      | none => none
      | some (item, rest) => (readFurther rest).map fun read => (item :: read.1, read.2)
    else none
termination_by t => t.length
decreasing_by
  have hlt := length_lt_of_readLiteral _h
  exact Nat.lt_succ_of_lt hlt

/-- The items of an initializer, from behind its opening brace on, and what is left behind its
closing one. -/
def readItems (t : Text) : Option (List Text × Text) :=
  if t.head? = some '\x7d' then some ([], t.drop 1)
  else do
    let (item, rest) ← readLiteral t
    let (items, rest) ← readFurther rest
    return (item :: items, rest)

/-- The items of the initializer at the start of a text, and what is left behind it. -/
def readArray (t : Text) : Option (List Text × Text) :=
  (after? "new String[]\x7b".toList t).bind readItems

/-! ### Literals -/

/-- A character behind a backslash is content, a quote or a second backslash too. -/
theorem readContent_escaped (c : Char) (cs : Text) :
    readContent ('\\' :: c :: cs) = (readContent cs).map fun read => (c :: read.1, read.2) := by
  rw [readContent]

/-- Any other character stands for itself. -/
theorem readContent_plain {c : Char} (cs : Text) (hquote : c ≠ '"') (hslash : c ≠ '\\') :
    readContent (c :: cs) = (readContent cs).map fun read => (c :: read.1, read.2) := by
  rw [readContent, if_neg hquote, if_neg hslash]
  rintro _ _ rfl
  exact absurd rfl hslash

/-- A quote without a backslash in front of it ends the content. -/
theorem readContent_quote (cs : Text) : readContent ('"' :: cs) = some ([], cs) := by
  rw [readContent, if_pos rfl]
  rintro _ _ ⟨⟩

/-- **Escaped text is read up to the quote behind it.** No quote in it ends the literal, since the
backslash in front of it is read with it. -/
theorem readContent_escape (item rest : Text) :
    readContent (escape item ++ '"' :: rest) = some (item, rest) := by
  induction item with
  | nil => exact readContent_quote rest
  | cons c cs ih =>
    by_cases hc : c = '"' ∨ c = '\\'
    · rw [escape, if_pos hc, List.cons_append, List.cons_append, readContent_escaped, ih]
      rfl
    · obtain ⟨hquote, hslash⟩ := not_or.1 hc
      rw [escape, if_neg hc, List.cons_append, readContent_plain _ hquote hslash, ih]
      rfl

/-- **A quoted item is read back from any text that goes on behind it.** This is what makes
initializers readable one behind the other. -/
theorem readLiteral_quote (item rest : Text) :
    readLiteral (quote item ++ rest) = some (item, rest) := by
  have hquote : quote item ++ rest = '"' :: (escape item ++ '"' :: rest) := by simp [quote]
  rw [hquote, readLiteral, if_pos rfl, readContent_escape]

/-- A quote and a backslash at the end of an item, in front of another literal. -/
example : readLiteral (quote ['"', '\\'] ++ [',', '"']) = some (['"', '\\'], [',', '"']) := by
  decide

/-! ### Initializers -/

/-- The items behind the first one as they are written, each with a comma in front. -/
def furtherItems (items : List Text) : Text := items.flatMap fun item => ',' :: quote item

/-- The items between commas are the first one and then each further one behind its comma, which is
how the reader sees them. -/
theorem joinWith_quote (item : Text) (items : List Text) :
    joinWith [','] ((item :: items).map quote) = quote item ++ furtherItems items := by
  induction items generalizing item with
  | nil => simp [joinWith, furtherItems]
  | cons next items ih =>
    have hjoin : joinWith [','] ((item :: next :: items).map quote) =
        quote item ++ ',' :: joinWith [','] ((next :: items).map quote) := by
      simp [joinWith, List.intercalate]
    rw [hjoin, ih, furtherItems, furtherItems, List.flatMap_cons, List.cons_append]

/-- **Further items are read up to the brace behind them.** The induction is on the items, with any
text behind the brace: it is what a following initializer on the same line is read from. -/
theorem readFurther_furtherItems (items : List Text) (rest : Text) :
    readFurther (furtherItems items ++ '\x7d' :: rest) = some (items, rest) := by
  induction items with
  | nil => rw [furtherItems, List.flatMap_nil, List.nil_append, readFurther, if_pos rfl]
  | cons item items ih =>
    have htext : furtherItems (item :: items) ++ '\x7d' :: rest =
        ',' :: (quote item ++ (furtherItems items ++ '\x7d' :: rest)) := by
      simp [furtherItems]
    rw [htext, readFurther, if_neg (by decide), if_pos rfl]
    split
    · rename_i hread
      rw [readLiteral_quote] at hread
      cases hread
    · rename_i hread
      rw [readLiteral_quote] at hread
      cases hread
      rw [ih]
      rfl

/-- **An initializer is read back,** whatever its items hold and whatever stands behind it. -/
theorem readItems_items (items : List Text) (rest : Text) :
    readItems (joinWith [','] (items.map quote) ++ '\x7d' :: rest) = some (items, rest) := by
  cases items with
  | nil => rfl
  | cons item items =>
    have hhead : (quote item ++ furtherItems items ++ '\x7d' :: rest).head? ≠ some '\x7d' := by
      simp [quote]
    rw [joinWith_quote, readItems, if_neg hhead, List.append_assoc, readLiteral_quote]
    simp only [Option.bind_eq_bind, Option.bind_some, readFurther_furtherItems]
    rfl

/-- An initializer and what stands behind it, cut where the reader cuts. -/
theorem arrayOf_append (items : List Text) (rest : Text) : arrayOf items ++ rest =
    "new String[]\x7b".toList ++ (joinWith [','] (items.map quote) ++ '\x7d' :: rest) := by
  have hparts : ∀ opening middle : Text,
      opening ++ middle ++ ['\x7d'] ++ rest = opening ++ (middle ++ '\x7d' :: rest) := by simp
  exact hparts _ _

/-- **Array initializers delimit themselves and lose nothing.** Reading one gives back its items and
leaves what stands behind it. So two texts that begin with an initializer are equal only if the
items and what is left are. -/
theorem readArray_arrayOf (items : List Text) (rest : Text) :
    readArray (arrayOf items ++ rest) = some (items, rest) ∧
      ∀ (others : List Text) (rest' : Text),
        arrayOf items ++ rest = arrayOf others ++ rest' ↔ items = others ∧ rest = rest' := by
  have hread : ∀ (items : List Text) (rest : Text),
      readArray (arrayOf items ++ rest) = some (items, rest) := by
    intro items rest
    rw [arrayOf_append, readArray, after?_append, Option.bind_some, readItems_items]
  refine ⟨hread items rest, fun others rest' => ⟨fun heq => ?_, ?_⟩⟩
  · have hboth := hread others rest'
    rw [← heq, hread items rest, Option.some.injEq] at hboth
    exact Prod.mk.inj hboth
  · rintro ⟨rfl, rfl⟩
    rfl

end Java
end TableCodegen
