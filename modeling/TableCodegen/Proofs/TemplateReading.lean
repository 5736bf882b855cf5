import TableCodegen.Proofs.TemplateNames

/-!
# Reading a written template

A template can be written from pieces: text in which no delimiter opens, outputs of a variable or of
a member of one, and tags with some words between their name and their end. `Markup.write` writes
them with one blank where the reader wants one, and `elements_write` says that reading gives back
the pieces, whatever stands in the texts. Texts without anything between them become one text.
-/

namespace TableCodegen
namespace Liquid

open Text

/-! ### Blanks -/

/-- A blank at the front is skipped. -/
theorem skipBlanks_blank (t : Text) : skipBlanks (' ' :: t) = skipBlanks t := rfl

/-- Nothing is skipped in front of a character that is no blank. -/
theorem skipBlanks_of_ne {c : Char} (h : isBlank c = false) (t : Text) :
    skipBlanks (c :: t) = c :: t := by
  rw [skipBlanks, List.dropWhile_cons_of_neg (by simp [h])]

/-- A character of a name is no blank and opens neither a filter nor a range. So a name that is
written where an operand is expected is read as one. -/
theorem not_isBlank_of_isNameChar {c : Char} (h : isNameChar c = true) :
    isBlank c = false ∧ c ≠ '|' ∧ c ≠ '(' := by
  refine ⟨?_, ?_, ?_⟩
  · cases hblank : isBlank c with
    | false => rfl
    | true =>
      have hc : (c = ' ' ∨ c = '\r') ∨ c = '\n' := by simpa [isBlank] using hblank
      rcases hc with (rfl | rfl) | rfl
      · exact absurd h (by decide)
      · exact absurd h (by decide)
      · exact absurd h (by decide)
  · rintro rfl
    exact absurd h (by decide)
  · rintro rfl
    exact absurd h (by decide)

/-- The same holds of the first character of a name, which may not be a digit or a hyphen. -/
theorem not_isBlank_of_isNameStart {c : Char} (h : isNameStart c = true) :
    isBlank c = false ∧ c ≠ '|' ∧ c ≠ '(' :=
  not_isBlank_of_isNameChar (by rw [isNameChar, h, Bool.true_or])

/-! ### Variables and their members -/

/-- A variable as it is written, alone or with one of its members. -/
structure Path where
  name : Text
  member : Option Text

namespace Path

/-- The member behind its point, if there is one. -/
def accessor (path : Path) : Text :=
  match path.member with
  | none => []
  | some member => '.' :: member

/-- The written form of a path. -/
def spelling (path : Path) : Text := path.name ++ path.accessor

/-- What a path stands for. -/
def operand (path : Path) : Operand :=
  match path.member with
  | none => .named path.name
  | some member => .member (.named path.name) (.literal (.text member))

/-- Whether a path is made of a variable and an identifier. -/
def isProper (path : Path) : Bool := isVariable path.name && path.member.all isIdentifier

/-- **A written path is read as its operand,** up to the blank behind it. The name may not be a word
of the language, which is what being a variable says. -/
theorem readOperand_spelling {path : Path} (h : path.isProper = true) (bound : Nat) (rest : Text) :
    readOperand (bound + 2) (path.spelling ++ ' ' :: rest) = some (path.operand, ' ' :: rest) := by
  obtain ⟨name, member⟩ := path
  rw [isProper, Bool.and_eq_true] at h
  obtain ⟨hname, hmember⟩ := h
  cases member with
  | none =>
    have hends : endsName (' ' :: rest) = true := rfl
    rw [spelling, accessor, List.append_nil, readOperand, readLiteral_variable hname hends]
    simp only [readName_append (isIdentifier_of_isVariable hname) hends]
    rfl
  | some member =>
    have hends : endsName ('.' :: (member ++ ' ' :: rest)) = true := rfl
    have hread : readName (member ++ ' ' :: rest) = some (member, ' ' :: rest) :=
      readName_append (by simpa using hmember) rfl
    rw [spelling, accessor, List.append_assoc, List.cons_append, readOperand,
      readLiteral_variable hname hends]
    simp only [readName_append (isIdentifier_of_isVariable hname) hends, readAccessors, hread]
    cases bound <;> rfl

/-- A written path begins with a character that no reader takes for something else. -/
theorem exists_spelling {path : Path} (h : path.isProper = true) :
    ∃ c cs, path.spelling = c :: cs ∧ isBlank c = false ∧ c ≠ '|' ∧ c ≠ '(' := by
  rw [isProper, Bool.and_eq_true] at h
  obtain ⟨c, cs, hname, hstart, -⟩ := exists_of_isVariable h.1
  exact ⟨c, cs ++ path.accessor, by rw [spelling, hname]; rfl, not_isBlank_of_isNameStart hstart⟩

end Path

/-- Without a bar there are no filters to read. -/
theorem readCalls_of_no_bar {t : Text} (h : (skipBlanks t).head? ≠ some '|') (bound : Nat) :
    readCalls bound t = ([], t) := by
  cases bound with
  | zero => rfl
  | succ bound =>
    rw [readCalls]
    split
    · rename_i heq
      rw [heq] at h
      exact absurd rfl h
    · rfl

/-- A path without a filter behind it is a chain of its own. -/
theorem readChain_path {path : Path} (h : path.isProper = true) (bound : Nat) {rest : Text}
    (hrest : (skipBlanks rest).head? ≠ some '|') :
    readChain (bound + 2) (path.spelling ++ ' ' :: rest) =
      some (⟨path.operand, []⟩, ' ' :: rest) := by
  simp only [readChain, path.readOperand_spelling h bound rest,
    readCalls_of_no_bar (t := ' ' :: rest) hrest]

/-! ### The words of a tag -/

/-- A word of a tag: a path, the sign of equality, or zero. -/
inductive Word where
  | named (path : Path)
  | equal
  | zero

namespace Word

/-- The written form of a word. -/
def spelling : Word → Text
  | .named path => path.spelling
  | .equal => ['=', '=']
  | .zero => ['0']

/-- The parameter that a word is. -/
def token : Word → Token
  | .named path => .chain ⟨path.operand, []⟩
  | .equal => .symbol (.comparison .equal)
  | .zero => .chain ⟨.literal (.int 0), []⟩

/-- Whether the path of a word is made of a variable and an identifier. -/
def isProper : Word → Bool
  | .named path => path.isProper
  | _ => true

/-- A written word begins with a character that no reader takes for a blank, a filter or a range. -/
theorem exists_spelling {word : Word} (h : word.isProper = true) :
    ∃ c cs, word.spelling = c :: cs ∧ isBlank c = false ∧ c ≠ '|' ∧ c ≠ '(' := by
  cases word with
  | named path => exact path.exists_spelling h
  | equal => exact ⟨'=', ['='], rfl, rfl, by decide, by decide⟩
  | zero => exact ⟨'0', [], rfl, rfl, by decide, by decide⟩

/-- A range begins with a parenthesis and nothing else does. -/
theorem readRange_of_ne {c : Char} (h : c ≠ '(') (bound : Nat) (t : Text) :
    readRange bound (c :: t) = none := by
  unfold readRange
  split
  · rename_i heq
    exact absurd (List.cons.inj heq).1 h
  · rfl

/-- **A written word is read as its parameter.** -/
theorem readToken_spelling {word : Word} (h : word.isProper = true) (bound : Nat) {rest : Text}
    (hrest : (skipBlanks rest).head? ≠ some '|') :
    readToken (bound + 2) (word.spelling ++ ' ' :: rest) = some (word.token, ' ' :: rest) := by
  obtain ⟨c, cs, hspelling, -, -, hparenthesis⟩ := exists_spelling h
  have hrange : readRange (bound + 2) (word.spelling ++ ' ' :: rest) = none := by
    rw [hspelling, List.cons_append, readRange_of_ne hparenthesis]
  rw [readToken, hrange]
  cases word with
  | named path => simp only [spelling, token, readChain_path h bound hrest]
  | equal => rfl
  | zero =>
    have hoperand : readOperand (bound + 2) ('0' :: ' ' :: rest) =
        some (.literal (.int 0), ' ' :: rest) := rfl
    simp only [spelling, token, List.cons_append, List.nil_append, readChain, hoperand,
      readCalls_of_no_bar (t := ' ' :: rest) hrest]

/-- Words as they are written in a tag, each behind a blank. -/
def writeAll (words : List Word) : Text := words.flatMap fun word => ' ' :: word.spelling

/-- What follows a word in a tag is another word or the end of the tag. -/
theorem exists_writeAll {words : List Word} (h : ∀ word ∈ words, word.isProper = true)
    (rest : Text) : ∃ t, writeAll words ++ ' ' :: '%' :: '\x7d' :: rest = ' ' :: t ∧
      (skipBlanks t).head? ≠ some '|' := by
  cases words with
  | nil =>
    refine ⟨'%' :: '\x7d' :: rest, rfl, ?_⟩
    rw [skipBlanks_of_ne (by decide)]
    simp
  | cons word words =>
    obtain ⟨c, cs, hspelling, hblank, hbar, -⟩ := exists_spelling (h word List.mem_cons_self)
    refine ⟨c :: (cs ++ (writeAll words ++ ' ' :: '%' :: '\x7d' :: rest)), ?_, ?_⟩
    · simp only [writeAll, List.flatMap_cons, hspelling, List.cons_append, List.append_assoc]
    · rw [skipBlanks_of_ne hblank]
      simpa using hbar

/-- Each word takes a character at least, so the length of the text bounds the number of words that
are to be read. -/
theorem length_le_length_writeAll (words : List Word) : words.length ≤ (writeAll words).length := by
  induction words with
  | nil => exact Nat.le_refl _
  | cons word words ih =>
    rw [writeAll, List.flatMap_cons, List.length_append, List.length_cons]
    rw [writeAll] at ih
    simp only [List.length_cons]
    omega

/-- A word is read in front of further parameters. -/
theorem readTokens_cons {word : Word} (hword : word.isProper = true) {bound : Nat} {t rest : Text}
    {tokens : List Token} (hbar : (skipBlanks t).head? ≠ some '|')
    (hmore : readTokens (bound + 1) (' ' :: t) = (tokens, rest)) :
    readTokens (bound + 2) (' ' :: (word.spelling ++ ' ' :: t)) = (word.token :: tokens, rest) := by
  obtain ⟨c, cs, hspelling, hblank, -⟩ := exists_spelling hword
  have hskip : skipBlanks (' ' :: (word.spelling ++ ' ' :: t)) = word.spelling ++ ' ' :: t := by
    rw [skipBlanks_blank, hspelling, List.cons_append, skipBlanks_of_ne hblank]
  rw [readTokens, hskip, readToken_spelling hword bound hbar]
  simp only [hmore]

/-- **The words of a tag are read one by one,** up to its end. A bound of the number of words and
two is enough, as each word takes one step. -/
theorem readTokens_writeAll {words : List Word} (h : ∀ word ∈ words, word.isProper = true)
    (rest : Text) : ∀ bound, words.length + 2 ≤ bound →
      readTokens bound (writeAll words ++ ' ' :: '%' :: '\x7d' :: rest) =
        (words.map token, ' ' :: '%' :: '\x7d' :: rest) := by
  induction words with
  | nil =>
    intro bound hbound
    obtain ⟨bound, rfl⟩ : ∃ k, bound = k + 2 := ⟨bound - 2, by simp at hbound; omega⟩
    rfl
  | cons word words ih =>
    intro bound hbound
    obtain ⟨hword, hwords⟩ := List.forall_mem_cons.1 h
    obtain ⟨bound, rfl⟩ : ∃ k, bound = k + 2 := ⟨bound - 2, by simp at hbound; omega⟩
    obtain ⟨t, ht, hbar⟩ := exists_writeAll hwords rest
    have hmore := ih hwords (bound + 1) (by simp at hbound; omega)
    have htext : writeAll (word :: words) ++ ' ' :: '%' :: '\x7d' :: rest =
        ' ' :: (word.spelling ++ ' ' :: t) := by
      rw [← ht, writeAll, List.flatMap_cons, List.append_assoc, List.cons_append]
      rfl
    rw [ht] at hmore
    rw [htext, readTokens_cons hword hbar hmore, List.map_cons]

end Word

/-! ### Pieces of a template -/

/-- A piece of a template as it is written. -/
inductive Markup where
  | text (t : Text)
  | output (path : Path)
  | tag (name : Text) (words : List Word)

/-- Whether no delimiter opens in a text, whatever follows it. -/
def isQuiet : Text → Bool
  | [] => true
  | [c] => c != '\x7b'
  | c :: d :: cs => (c != '\x7b' || (d != '\x7b' && d != '%')) && isQuiet (d :: cs)

namespace Markup

/-- The written form of a piece. -/
def source : Markup → Text
  | .text t => t
  | .output path => '\x7b' :: '\x7b' :: ' ' :: (path.spelling ++ [' ', '\x7d', '\x7d'])
  | .tag name words => '\x7b' :: '%' :: ' ' :: (name ++ (Word.writeAll words ++ [' ', '%', '\x7d']))

/-- Pieces as they are written. -/
def write (pieces : List Markup) : Text := pieces.flatMap source

/-- The elements that pieces are read as; a text joins one that follows it. -/
def elementsOf : List Markup → List Element
  | [] => [.finish]
  | .text t :: pieces => t.foldr pushChar (elementsOf pieces)
  | .output path :: pieces =>
    .output (source (.output path)) ⟨path.operand, []⟩ :: elementsOf pieces
  | .tag name words :: pieces =>
    .tag (source (.tag name words)) name (words.map Word.token) :: elementsOf pieces

/-- Whether a piece can be read: no delimiter opens in its text, and its names are identifiers. -/
def isProper : Markup → Bool
  | .text t => isQuiet t
  | .output path => path.isProper
  | .tag name words => isIdentifier name && words.all Word.isProper

end Markup

/-- What follows the first character of a quiet text is quiet. -/
theorem isQuiet_of_cons {c : Char} {cs : Text} (h : isQuiet (c :: cs) = true) :
    isQuiet cs = true := by
  cases cs with
  | nil => rfl
  | cons d ds =>
    rw [isQuiet, Bool.and_eq_true] at h
    exact h.2

/-- Quiet texts are quiet one behind the other: a brace at the end of the first would not be quiet
there. -/
theorem isQuiet_append {s t : Text} (hs : isQuiet s = true) (ht : isQuiet t = true) :
    isQuiet (s ++ t) = true := by
  induction s with
  | nil => exact ht
  | cons c cs ih =>
    have hmore := ih (isQuiet_of_cons hs)
    cases cs with
    | nil =>
      have hc : c ≠ '\x7b' := by simpa [isQuiet] using hs
      cases t with
      | nil => exact hs
      | cons d ds => simpa [isQuiet, hc] using ht
    | cons d ds =>
      rw [isQuiet, Bool.and_eq_true] at hs
      rw [List.cons_append, List.cons_append, isQuiet, hs.1, Bool.true_and]
      exact hmore

/-- No delimiter is at the start of a quiet text. -/
theorem after?_of_isQuiet {c : Char} {cs : Text} (h : isQuiet (c :: cs) = true) (rest more : Text) :
    after? ('\x7b' :: '\x7b' :: more) (c :: cs ++ rest) = none ∧
      after? ('\x7b' :: '%' :: more) (c :: cs ++ rest) = none := by
  by_cases hc : c = '\x7b'
  · subst hc
    cases cs with
    | nil => exact absurd h (by decide)
    | cons d ds =>
      have hd : d ≠ '\x7b' ∧ d ≠ '%' := by
        rw [isQuiet, Bool.and_eq_true] at h
        simpa using h.1
      simp [after?, Ne.symm hd.1, Ne.symm hd.2]
  · exact ⟨after?_of_ne (Ne.symm hc) _ _, after?_of_ne (Ne.symm hc) _ _⟩

/-- A text does not open with a delimiter that takes away blanks, even behind blanks. -/
def KeepsBlanks (t : Text) : Prop :=
  after? (outputStart ++ ['-']) (skipBlanks t) = none ∧
    after? (tagStart ++ ['-']) (skipBlanks t) = none

/-- Quiet text in front takes no blanks away. It may be all blanks, and then what follows it
decides; this is why the property looks behind blanks. -/
theorem keepsBlanks_append {t rest : Text} (ht : isQuiet t = true) (hrest : KeepsBlanks rest) :
    KeepsBlanks (t ++ rest) := by
  induction t with
  | nil => exact hrest
  | cons c cs ih =>
    cases hblank : isBlank c with
    | true =>
      have hskip : skipBlanks (c :: cs ++ rest) = skipBlanks (cs ++ rest) := by
        rw [skipBlanks, List.cons_append, List.dropWhile_cons_of_pos hblank]
        rfl
      rw [KeepsBlanks, hskip]
      exact ih (isQuiet_of_cons ht)
    | false =>
      rw [KeepsBlanks, List.cons_append, skipBlanks_of_ne hblank, ← List.cons_append]
      exact after?_of_isQuiet ht rest ['-']

/-- No written piece takes away blanks in front of it, as none is written with a hyphen. -/
theorem Markup.keepsBlanks_write {pieces : List Markup}
    (h : ∀ piece ∈ pieces, piece.isProper = true) : KeepsBlanks (write pieces) := by
  induction pieces with
  | nil => exact ⟨rfl, rfl⟩
  | cons piece pieces ih =>
    obtain ⟨hpiece, hpieces⟩ := List.forall_mem_cons.1 h
    rw [write, List.flatMap_cons]
    cases piece with
    | text t => exact keepsBlanks_append hpiece (ih hpieces)
    | output path => exact ⟨rfl, rfl⟩
    | tag name words => exact ⟨rfl, rfl⟩

/-- At a character of a quiet text no element starts, so the character is text. -/
theorem startsElement_of_isQuiet {c : Char} {cs rest : Text} (h : isQuiet (c :: cs) = true)
    (hrest : KeepsBlanks rest) : startsElement (c :: cs ++ rest) = false := by
  obtain ⟨houtput, htag⟩ := keepsBlanks_append h hrest
  obtain ⟨houtput', htag'⟩ := after?_of_isQuiet h rest []
  rw [startsElement, afterStart?, afterStart?, houtput, htag]
  simp only [outputStart, tagStart, houtput', htag']
  rfl

/-! ### Reading the pieces -/

/-- The part that has been read is what stands in front of the rest. -/
theorem readPart_append (t rest : Text) : readPart (t ++ rest) rest = t := by
  rw [readPart, List.length_append, Nat.add_sub_cancel, List.take_left]

/-- **A written output is read as itself,** with the text it was read from. The text is kept for a
raw block, which writes it as it stands. -/
theorem readOutput_source {path : Path} (h : path.isProper = true) (bound : Nat) (rest : Text) :
    readOutput (bound + 2) (Markup.source (.output path) ++ rest) =
      some (.output (Markup.source (.output path)) ⟨path.operand, []⟩, rest) := by
  obtain ⟨c, cs, hspelling, hblank, -⟩ := path.exists_spelling h
  have htext : Markup.source (.output path) ++ rest =
      '\x7b' :: '\x7b' :: ' ' :: (path.spelling ++ ' ' :: '\x7d' :: '\x7d' :: rest) := by
    simp [Markup.source]
  have hstart : afterStart? outputStart (Markup.source (.output path) ++ rest) =
      some (' ' :: (path.spelling ++ ' ' :: '\x7d' :: '\x7d' :: rest)) := by
    rw [htext]
    rfl
  have hskip : skipBlanks (' ' :: (path.spelling ++ ' ' :: '\x7d' :: '\x7d' :: rest)) =
      path.spelling ++ ' ' :: '\x7d' :: '\x7d' :: rest := by
    rw [skipBlanks_blank, hspelling, List.cons_append, skipBlanks_of_ne hblank]
  have hstop : afterStop? outputStop (skipBlanks (' ' :: '\x7d' :: '\x7d' :: rest)) = some rest :=
    rfl
  have hbar : (skipBlanks ('\x7d' :: '\x7d' :: rest)).head? ≠ some '|' := by
    rw [skipBlanks_of_ne (by decide)]
    simp
  have hchain := readChain_path h bound hbar
  simp only [readOutput, hstart, hskip, hchain, hstop, Option.map_some, readPart_append]

/-- A tag with its parameters as they are written. -/
def tagText (name parameters : Text) : Text :=
  '\x7b' :: '%' :: ' ' :: (name ++ (parameters ++ [' ', '%', '\x7d']))

/-- A tag is read if its parameters are, up to its end. Its name is taken off first, and the
parameters must not run into the name. -/
theorem readTag_tagText {name parameters rest : Text} {tokens : List Token} {bound : Nat}
    (hname : isIdentifier name = true)
    (hends : endsName (parameters ++ ' ' :: '%' :: '\x7d' :: rest) = true)
    (htokens : readTokens bound (parameters ++ ' ' :: '%' :: '\x7d' :: rest) =
      (tokens, ' ' :: '%' :: '\x7d' :: rest)) :
    readTag bound (tagText name parameters ++ rest) =
      some (.tag (tagText name parameters) name tokens, rest) := by
  have htext : tagText name parameters ++ rest =
      '\x7b' :: '%' :: ' ' :: (name ++ (parameters ++ ' ' :: '%' :: '\x7d' :: rest)) := by
    simp [tagText]
  have hstart : afterStart? tagStart (tagText name parameters ++ rest) =
      some (' ' :: (name ++ (parameters ++ ' ' :: '%' :: '\x7d' :: rest))) := by
    rw [htext]
    rfl
  have hskip : ∀ t, skipBlanks (' ' :: (name ++ t)) = name ++ t := by
    intro t
    cases name with
    | nil => cases hname
    | cons c cs =>
      rw [isIdentifier, Bool.and_eq_true] at hname
      rw [skipBlanks_blank, List.cons_append,
        skipBlanks_of_ne (not_isBlank_of_isNameStart hname.1).1]
  have hstop : afterStop? tagStop (skipBlanks (' ' :: '%' :: '\x7d' :: rest)) = some rest := rfl
  simp only [readTag, hstart, hskip, readName_append hname hends, htokens, hstop, Option.map_some,
    readPart_append]

/-- The name of a tag ends at a blank, in front of its first word or of its end. -/
theorem Word.endsName_writeAll {words : List Word} (h : ∀ word ∈ words, word.isProper = true)
    (rest : Text) : endsName (writeAll words ++ ' ' :: '%' :: '\x7d' :: rest) = true := by
  obtain ⟨t, ht, -⟩ := exists_writeAll h rest
  rw [ht]
  rfl

/-- A text is read as some elements, with any bound that its length allows. -/
def ReadsAs (t : Text) (parts : List Element) : Prop :=
  ∀ bound, t.length ≤ bound → readElements bound t = parts

/-- The reader is given the length of the text as its bound, which is enough. -/
theorem ReadsAs.elements {t : Text} {parts : List Element} (h : ReadsAs t parts) :
    elements t = parts := h _ (Nat.le_refl _)

/-- The end of a text is read as the end of the template. -/
theorem readsAs_nil : ReadsAs [] [.finish] := fun bound _ => by rw [readElements]

/-- Quiet text is read character by character, and joins text behind it. The induction goes from its
first character on, since what matters at each is all that follows. -/
theorem ReadsAs.text {t rest : Text} {parts : List Element} (ht : isQuiet t = true)
    (hkeeps : KeepsBlanks rest) (hrest : ReadsAs rest parts) :
    ReadsAs (t ++ rest) (t.foldr pushChar parts) := by
  induction t with
  | nil => exact hrest
  | cons c cs ih =>
    intro bound hbound
    obtain ⟨bound, rfl⟩ : ∃ k, bound = k + 1 := ⟨bound - 1, by simp at hbound; omega⟩
    have hstarts := startsElement_of_isQuiet ht hkeeps
    rw [List.cons_append] at hstarts hbound ⊢
    rw [readElements, if_neg (by simp [hstarts]), List.foldr_cons,
      ih (isQuiet_of_cons ht) bound (by simpa using hbound)]

/-- An output in front of what can be read can be read. -/
theorem ReadsAs.output {path : Path} (h : path.isProper = true) {rest : Text}
    {parts : List Element} (hrest : ReadsAs rest parts) :
    ReadsAs (Markup.source (.output path) ++ rest)
      (.output (Markup.source (.output path)) ⟨path.operand, []⟩ :: parts) := by
  intro bound hbound
  have hlength : (Markup.source (.output path)).length = path.spelling.length + 6 := by
    simp [Markup.source]
  rw [List.length_append, hlength] at hbound
  obtain ⟨bound, rfl⟩ : ∃ k, bound = k + 2 := ⟨bound - 2, by omega⟩
  have hread := readOutput_source h bound rest
  have hstarts : startsElement (Markup.source (.output path) ++ rest) = true := rfl
  rw [Markup.source, List.cons_append] at hread hstarts ⊢
  rw [readElements, if_pos hstarts, hread, Option.some_or]
  simp only [hrest (bound + 1) (by omega)]

/-- A tag in front of what can be read can be read, if its parameters can. They may be other words
than those of `Word`, as in the head of a loop. -/
theorem ReadsAs.tagText {name parameters rest : Text} {tokens : List Token} {parts : List Element}
    (hname : isIdentifier name = true)
    (hends : endsName (parameters ++ ' ' :: '%' :: '\x7d' :: rest) = true)
    (htokens : ∀ bound, parameters.length + 2 ≤ bound →
      readTokens bound (parameters ++ ' ' :: '%' :: '\x7d' :: rest) =
        (tokens, ' ' :: '%' :: '\x7d' :: rest))
    (hrest : ReadsAs rest parts) :
    ReadsAs (Liquid.tagText name parameters ++ rest)
      (.tag (Liquid.tagText name parameters) name tokens :: parts) := by
  intro bound hbound
  have hlength : (Liquid.tagText name parameters).length =
      name.length + parameters.length + 6 := by
    simp [Liquid.tagText]
    omega
  rw [List.length_append, hlength] at hbound
  obtain ⟨bound, rfl⟩ : ∃ k, bound = k + 1 := ⟨bound - 1, by omega⟩
  have hread := readTag_tagText hname hends (htokens (bound + 1) (by omega))
  have hstarts : startsElement (Liquid.tagText name parameters ++ rest) = true := rfl
  have houtput : readOutput (bound + 1) (Liquid.tagText name parameters ++ rest) = none := rfl
  rw [Liquid.tagText, List.cons_append] at hread hstarts houtput ⊢
  rw [readElements, if_pos hstarts, houtput, Option.none_or, hread]
  simp only [hrest bound (by omega)]

/-- A tag with words for its parameters can be read. -/
theorem ReadsAs.tag {name : Text} {words : List Word} (hname : isIdentifier name = true)
    (hwords : ∀ word ∈ words, word.isProper = true) {rest : Text} {parts : List Element}
    (hrest : ReadsAs rest parts) :
    ReadsAs (Markup.source (.tag name words) ++ rest)
      (.tag (Markup.source (.tag name words)) name (words.map Word.token) :: parts) :=
  .tagText hname (Word.endsName_writeAll hwords rest)
    (fun bound hbound => Word.readTokens_writeAll hwords rest bound
      (Nat.le_trans (Nat.add_le_add_right (Word.length_le_length_writeAll words) 2) hbound)) hrest

/-- **Reading gives back the written pieces.** -/
theorem Markup.readsAs_write {pieces : List Markup}
    (h : ∀ piece ∈ pieces, piece.isProper = true) : ReadsAs (write pieces) (elementsOf pieces) := by
  induction pieces with
  | nil => exact readsAs_nil
  | cons piece pieces ih =>
    obtain ⟨hpiece, hpieces⟩ := List.forall_mem_cons.1 h
    have hrest := ih hpieces
    rw [write, List.flatMap_cons]
    cases piece with
    | text t => exact hrest.text hpiece (keepsBlanks_write hpieces)
    | output path => exact hrest.output hpiece
    | tag name words =>
      rw [isProper, Bool.and_eq_true, List.all_eq_true] at hpiece
      exact hrest.tag hpiece.1 hpiece.2

/-- **Reading gives back the written pieces,** with the bound that the reader itself takes. -/
theorem Markup.elements_write {pieces : List Markup}
    (h : ∀ piece ∈ pieces, piece.isProper = true) : elements (write pieces) = elementsOf pieces :=
  (readsAs_write h).elements

end Liquid
end TableCodegen
