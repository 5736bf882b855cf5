import Mathlib.Tactic.SplitIfs
import TableCodegen.Proofs.NameRuns
import TableCodegen.Proofs.TemplateRendering

/-!
# Templates with one loop

A template with a loop over a name, which shows a field of each item, has texts in front of the
loop, behind it and in its body. How the name is read tells what the loop runs over:

| name | loop |
| --- | --- |
| no word of the language opens it | over the variable |
| a word and `reversed` behind it | over the value of the word |
| a word and something else behind it | none, the tag is at fault |

The texts may be empty, and nothing is read into them as long as no brace opens in them.
-/

namespace TableCodegen
namespace Liquid

open Text

/-! ### The head of a loop over a name -/

/-- Whether a text is an ordinary name: a letter or an underscore, then letters, digits, underscores
and hyphens, and no word of the language. -/
def isOrdinary (t : Text) : Bool :=
  isIdentifier t && t.head? != some '-' && words.all fun word => word.1 != t

/-- An ordinary name is an identifier. -/
theorem isIdentifier_of_isOrdinary {t : Text} (h : isOrdinary t = true) :
    isIdentifier t = true := by
  rw [isOrdinary, Bool.and_eq_true, Bool.and_eq_true] at h
  exact h.1.1

/-- An identifier is made of characters of names, its first character included. -/
theorem all_isNameChar {t : Text} (h : isIdentifier t = true) : t.all isNameChar = true := by
  cases t with
  | nil => cases h
  | cons c cs =>
    rw [isIdentifier, Bool.and_eq_true] at h
    rw [List.all_cons, isNameChar, h.1, h.2]
    rfl

/-- An identifier has a first character. -/
theorem ne_nil_of_isIdentifier {t : Text} (h : isIdentifier t = true) : t ≠ [] := by
  rintro rfl
  cases h

/-- The head of a loop over an operand, with nothing behind it in its tag. -/
def operandLoop (item : Text) (operand : Operand) : LoopHead :=
  ⟨item, .items operand, none, none, false⟩

/-- The parameters of a loop, from those of its source on. -/
def loopTokens (item : Text) (source : List Token) : List Token :=
  .chain ⟨.named item, []⟩ :: .chain ⟨.named ['i', 'n'], []⟩ :: source

section Parameters

variable {α β : Type} {tokens more : List Token}

/-- A reader of parameters goes on with what the one in front of it left. -/
theorem run_bind {reader : ParameterReader α} {next : α → ParameterReader β} {a : α}
    (h : reader.run tokens = .ok (a, more)) : (reader >>= next).run tokens = (next a).run more := by
  rw [StateT.run_bind, h]
  rfl

/-- One operand is the whole source of a loop. A range would be a parameter of its own kind. -/
theorem run_readSource {operand : Operand} (h : operand.checked = .ok operand) :
    LoopHead.readSource.run (.chain ⟨operand, []⟩ :: more) = .ok (.items operand, more) := by
  have hnext : ParameterReader.next.run (.chain ⟨operand, []⟩ :: more) =
      .ok (.chain ⟨operand, []⟩, more) := rfl
  have hoperand : (Token.chain ⟨operand, []⟩).operand = .ok operand := h
  rw [LoopHead.readSource, run_bind hnext]
  simp only [hoperand]
  rfl

/-- The head of a loop is its item and its source, and what is read behind them. -/
theorem run_read (item : Text) {operand : Operand} (h : operand.checked = .ok operand) :
    LoopHead.read.run (loopTokens item (.chain ⟨operand, []⟩ :: more)) =
      (LoopHead.readAttributes (more.length + 3) (operandLoop item operand)).run more := by
  have hget : (get : ParameterReader _).run (loopTokens item (.chain ⟨operand, []⟩ :: more)) =
      .ok (loopTokens item (.chain ⟨operand, []⟩ :: more), _) := rfl
  have hname : ParameterReader.identifier.run (loopTokens item (.chain ⟨operand, []⟩ :: more)) =
      .ok (item, .chain ⟨.named ['i', 'n'], []⟩ :: .chain ⟨operand, []⟩ :: more) := rfl
  have hin : (ParameterReader.nextIsWord "in").run
      (.chain ⟨.named ['i', 'n'], []⟩ :: .chain ⟨operand, []⟩ :: more) =
        .ok (true, .chain ⟨operand, []⟩ :: more) := rfl
  rw [LoopHead.read, run_bind hget, run_bind hname, run_bind hin, if_pos rfl,
    run_bind (run_readSource h)]
  rfl

/-- Alone behind the source, `reversed` turns the loop round. -/
theorem run_readAttributes_reversed (bound : Nat) (head : LoopHead) :
    (LoopHead.readAttributes (bound + 2) head).run [.chain ⟨.named "reversed".toList, []⟩] =
      .ok ({ head with reversed := true }, []) := rfl

/-- Of the names that may stand behind the source, only `reversed` can stand alone. -/
theorem run_readAttributes_named (bound : Nat) (head : LoopHead) {name : Text}
    (hname : name ≠ "reversed".toList) : ∃ error, error.isFatal = false ∧
      (LoopHead.readAttributes (bound + 1) head).run [.chain ⟨.named name, []⟩] = .error error := by
  have hnext : ParameterReader.next?.run [.chain ⟨.named name, []⟩] =
      .ok (some (Token.chain ⟨.named name, []⟩), []) := rfl
  have hword : ∀ word : String, (Token.chain ⟨.named name, []⟩).isWord word =
      (name == word.toList) := fun _ => rfl
  rw [LoopHead.readAttributes, run_bind hnext]
  simp only [hword, beq_iff_eq, hname, if_false]
  split_ifs with hlimit hoffset
  · exact ⟨.missingParameter, rfl, rfl⟩
  · exact ⟨.missingParameter, rfl, rfl⟩
  · exact ⟨.unexpectedParameter, rfl, rfl⟩

/-- No literal stands behind the source. -/
theorem run_readAttributes_literal (bound : Nat) (head : LoopHead) (value : Value) :
    (LoopHead.readAttributes (bound + 1) head).run (.chain ⟨.literal value, []⟩ :: more) =
      .error .unexpectedParameter := by
  have hnext : ParameterReader.next?.run (.chain ⟨.literal value, []⟩ :: more) =
      .ok (some (Token.chain ⟨.literal value, []⟩), more) := rfl
  have hword : ∀ word : String, (Token.chain ⟨.literal value, []⟩).isWord word = false :=
    fun _ => rfl
  rw [LoopHead.readAttributes, run_bind hnext]
  simp only [hword, Bool.false_eq_true, if_false]
  rfl

end Parameters

/-- The values of words hold no number, so none of them is refused. -/
theorem checked_word : ∀ word ∈ words,
    (Operand.literal word.2).checked = .ok (.literal word.2) := by
  simp only [words, List.forall_mem_cons]
  exact ⟨rfl, rfl, rfl, rfl, rfl, rfl, List.forall_mem_nil _⟩

/-- What the tag of a loop over an ordinary name is read as. -/
inductive LoopOver (item name : Text) : Except Error LoopHead → Prop where
  | named (h : ∀ word ∈ words, ¬ word.1 <+: name) :
    LoopOver item name (.ok (loopHead item name))
  | reversed {word : Text × Value} (hword : word ∈ words) (h : name = word.1 ++ "reversed".toList) :
    LoopOver item name (.ok { operandLoop item (.literal word.2) with reversed := true })
  | fault {word : Text × Value} (hword : word ∈ words) {more : Text}
    (hmore : more ≠ "reversed".toList) (h : name = word.1 ++ more) {error : Error}
    (herror : error.isFatal = false) : LoopOver item name (.error error)

/-- The tag `for` is read as a loop head. -/
theorem readNamed_for :
    Head.readNamed forTag = LoopHead.read >>= fun head => pure (.loop head) := rfl

/-- The tag is the head of a loop if its parameters can be read as one. Attributes are read up to
the last parameter, so there is nothing left to look at. -/
theorem ofTag_of_read {parameters left : List Token} {head : LoopHead}
    (h : LoopHead.read.run parameters = .ok (head, left)) :
    Head.ofTag forTag parameters = .ok (.loop head) := by
  rw [Head.ofTag, readNamed_for, StateT.run'_eq, run_bind h]
  rfl

/-- The tag is at fault if its parameters are. -/
theorem ofTag_of_fault {parameters : List Token} {error : Error}
    (h : LoopHead.read.run parameters = .error error) :
    Head.ofTag forTag parameters = .error error := by
  rw [Head.ofTag, readNamed_for, StateT.run'_eq, StateT.run_bind, h]
  rfl

/-- A run does not read as `reversed` in parts. -/
theorem RunStep.ne_reversed {s rest : Text} {value : Value}
    (h : RunStep s (.literal value) rest) : s ≠ "reversed".toList := by
  cases h with
  | word _ hword =>
    have hnone : ∀ word ∈ words, ¬ word.1 <+: "reversed".toList := by decide
    exact fun hs => hnone _ hword (hs ▸ List.prefix_append _ _)
  | number _ _ n hstart =>
    intro hs
    rw [(List.cons.inj hs).1] at hstart
    exact absurd hstart (by decide)

/-- What is behind the word that opens an ordinary name decides. The word itself is what the loop
goes over, and the rest can be read as `reversed`, or else is a fault. -/
theorem exists_loopOver_word {item : Text} {word : Text × Value} (hword : word ∈ words)
    {rest : Text} (hrest : rest ≠ []) {tokens : List Token} (h : RunTokens rest tokens) :
    ∃ read, LoopOver item (word.1 ++ rest) read ∧
      Head.ofTag forTag (loopTokens item (.chain ⟨.literal word.2, []⟩ :: tokens)) =
        read.map Head.loop := by
  have hchecked := checked_word word hword
  cases h with
  | done => exact absurd rfl hrest
  | @step _ _ operand more hs hstep hmore =>
    -- A name takes all that is left, so it is the only parameter; a value may have more behind it.
    cases operand with
    | named name =>
      cases hstep
      cases hmore with
      | step hs _ _ => exact absurd rfl hs
      | done =>
        by_cases hreversed : rest = "reversed".toList
        · subst hreversed
          exact ⟨_, .reversed hword rfl,
            ofTag_of_read ((run_read item hchecked).trans (run_readAttributes_reversed _ _))⟩
        · obtain ⟨error, herror, hfault⟩ := run_readAttributes_named _ _ hreversed
          exact ⟨.error error, .fault hword hreversed rfl herror,
            ofTag_of_fault ((run_read item hchecked).trans hfault)⟩
    | literal value =>
      exact ⟨.error _, .fault hword hstep.ne_reversed rfl rfl,
        ofTag_of_fault ((run_read item hchecked).trans (run_readAttributes_literal _ _ value))⟩
    | member _ _ => cases hstep

/-- **The tag of a loop over an ordinary name** is one of three things: a loop over the variable of
that name, a reversed loop over a literal, or a fault that is not fatal. A word of the language at
the start of the name tells them apart. -/
theorem exists_loopOver {name : Text} (hname : isOrdinary name = true) {tokens : List Token}
    (h : RunTokens name tokens) (item : Text) :
    ∃ read, LoopOver item name read ∧
      Head.ofTag forTag (loopTokens item tokens) = read.map Head.loop := by
  rw [isOrdinary, Bool.and_eq_true, Bool.and_eq_true, List.all_eq_true] at hname
  obtain ⟨⟨hidentifier, hhyphen⟩, hnoWord⟩ := hname
  cases h with
  | done => cases hidentifier
  | step hs hstep hrest =>
    cases hstep with
    | name hnone =>
      cases hrest with
      | done => exact ⟨_, .named hnone, ofTag_for item name⟩
      | step hs _ _ => exact absurd rfl hs
    | number _ _ n hstart =>
      -- An ordinary name begins neither with a hyphen nor with a digit.
      rw [isIdentifier, Bool.and_eq_true] at hidentifier
      rcases hstart with rfl | hdigit
      · cases hhyphen
      · have hexcludes := isNameStart_excludes hidentifier.1 (by simpa using hhyphen)
        rw [hexcludes.2.2.2] at hdigit
        cases hdigit
    | @word word s hword =>
      refine exists_loopOver_word hword ?_ hrest
      rintro rfl
      have hne := hnoWord word hword
      rw [List.append_nil, bne_self_eq_false] at hne
      cases hne

/-! ### Texts that may be empty -/

/-- A text in front of a script, if there is any. -/
def Script.behindText (t : Text) (next : Script) : Script := if t = [] then next else .text t next

/-- A text in front of a template, if there is any. -/
def Template.behindText (t : Text) (next : Template) : Template :=
  if t = [] then next else .text t next

/-- The template of a script behind a text is its template behind the text: an empty text is no
piece on either side. -/
theorem Script.template_behindText (t : Text) (next : Script) :
    (behindText t next).template = next.template.behindText t := by
  unfold behindText Template.behindText
  split_ifs
  · rfl
  · rfl

/-- A text in front is written in front, also if it is empty. -/
theorem Script.write_behindText (t : Text) (next : Script) (pieces : List Markup) :
    Markup.write ((behindText t next).markup ++ pieces) =
      t ++ Markup.write (next.markup ++ pieces) := by
  unfold behindText
  split_ifs with ht
  · rw [ht, List.nil_append]
  · rfl

/-- A script behind a text without delimiters can be read, if it can be read and does not begin with
text itself. -/
theorem Script.isProper_behindText {t : Text} {next : Script} (ht : isQuiet t = true)
    (hnext : next.isProper = true) (hstarts : next.startsWithText = false) :
    (behindText t next).isProper = true := by
  unfold behindText
  split_ifs with hnil
  · exact hnext
  · simp [isProper, ht, hnext, hstarts, hnil]

/-- No delimiter opens in a text without a brace. -/
theorem isQuiet_of_not_mem {t : Text} (h : '\x7b' ∉ t) : isQuiet t = true := by
  induction t with
  | nil => rfl
  | cons c cs ih =>
    obtain ⟨hc, hcs⟩ := not_or.1 (mt List.mem_cons.2 h)
    cases cs with
    | nil => simpa [isQuiet] using Ne.symm hc
    | cons d ds => rw [isQuiet, ih hcs, Bool.and_true]; simp [Ne.symm hc]

/-! ### The written template -/

/-- The texts around and inside a loop. -/
structure LoopTexts where
  head : Text
  front : Text
  back : Text
  tail : Text

namespace LoopTexts

/-- No brace opens in any of the texts. -/
structure IsPlain (texts : LoopTexts) : Prop where
  head : '\x7b' ∉ texts.head
  front : '\x7b' ∉ texts.front
  back : '\x7b' ∉ texts.back
  tail : '\x7b' ∉ texts.tail

/-- The text of a template with a loop over a name, which shows a field of each item. -/
def source (texts : LoopTexts) (name field : Text) : Text :=
  texts.head ++ "\x7b% for i in ".toList ++ name ++ " %\x7d".toList ++
    texts.front ++ "\x7b\x7b i.".toList ++ field ++ " \x7d\x7d".toList ++ texts.back ++
    "\x7b% endfor %\x7d".toList ++ texts.tail

/-- The body of the loop. -/
def body (texts : LoopTexts) (field : Text) : Script :=
  .behindText texts.front (.output ⟨['i'], some field⟩ (.behindText texts.back .done))

/-- The pieces behind the tag of the loop. -/
def following (texts : LoopTexts) (field : Text) : List Markup :=
  (texts.body field).markup ++
    .tag (endTag forTag) [] :: (Script.behindText texts.tail .done).markup

/-- The parameters of the loop as they are written. -/
def parameters (name : Text) : Text := [' ', 'i', ' ', 'i', 'n', ' '] ++ name

/-- **The template's text is made of the written forms of its pieces.** The name stands in a tag
that is written with its parameters as they are, since it need not be read as one word. -/
theorem source_eq (texts : LoopTexts) (name field : Text) :
    texts.source name field =
      texts.head ++ (tagText forTag (parameters name) ++ Markup.write (texts.following field)) := by
  have hfollowing : Markup.write (texts.following field) =
      texts.front ++ ("\x7b\x7b i.".toList ++ field ++ " \x7d\x7d".toList ++
        (texts.back ++ ("\x7b% endfor %\x7d".toList ++ texts.tail))) := by
    have htail : Markup.write (Script.behindText texts.tail .done).markup = texts.tail := by
      have hwrite := Script.write_behindText texts.tail .done []
      have hnil : Markup.write (Script.done.markup ++ []) = [] := rfl
      rwa [List.append_nil, hnil, List.append_nil] at hwrite
    have hend : Markup.write (.tag (endTag forTag) [] ::
        (Script.behindText texts.tail .done).markup) =
          "\x7b% endfor %\x7d".toList ++ texts.tail := by
      rw [Markup.write, List.flatMap_cons, ← Markup.write, htail]
      rfl
    rw [following, body, Script.write_behindText, Script.markup, List.cons_append, Markup.write,
      List.flatMap_cons, ← Markup.write, Script.write_behindText, Script.markup, List.nil_append,
      hend]
    simp [Markup.source, Path.spelling, Path.accessor]
  rw [hfollowing]
  simp [source, tagText, parameters]

/-- The pieces behind the tag of the loop can be read. -/
theorem isProper_following {texts : LoopTexts} (htexts : texts.IsPlain) {field : Text}
    (hfield : isIdentifier field = true) : (texts.body field).isProper = true ∧
      (Script.behindText texts.tail .done).isProper = true := by
  have hquiet := @isQuiet_of_not_mem
  have hpath : (⟨['i'], some field⟩ : Path).isProper = true := by
    rw [Path.isProper, Option.all_some, hfield]
    rfl
  have hback : (Script.behindText texts.back .done).isProper = true :=
    Script.isProper_behindText (hquiet htexts.back) rfl rfl
  refine ⟨Script.isProper_behindText (hquiet htexts.front) ?_ rfl,
    Script.isProper_behindText (hquiet htexts.tail) rfl rfl⟩
  rw [Script.isProper, hpath, hback]
  rfl

/-- What the template is read as, around the tag of its loop. -/
def elements (texts : LoopTexts) (name field : Text) (tokens : List Token) : List Element :=
  texts.head.foldr pushChar
    (.tag (tagText forTag (parameters name)) forTag (loopTokens ['i'] tokens) ::
      Markup.elementsOf (texts.following field))

/-- A name is read behind the first two words of a loop, `i` and `in`. They take two steps of the
reader, and the name is read with what is left of the bound. -/
theorem readTokens_parameters {name rest left : Text} {tokens : List Token} {bound : Nat}
    (hname : isIdentifier name = true)
    (h : readTokens (bound + 1) (name ++ rest) = (tokens, left)) (htokens : tokens ≠ []) :
    readTokens (bound + 3) (parameters name ++ rest) = (loopTokens ['i'] tokens, left) := by
  have hitem : (Word.named ⟨['i'], none⟩).isProper = true := by decide
  have hin : (Word.named ⟨['i', 'n'], none⟩).isProper = true := by decide
  have hbar : (skipBlanks (name ++ rest)).head? ≠ some '|' := by
    rw [skipBlanks_run (ne_nil_of_isIdentifier hname) (all_isNameChar hname)]
    cases name with
    | nil => cases hname
    | cons c cs =>
      rw [isIdentifier, Bool.and_eq_true] at hname
      simpa using (not_isBlank_of_isNameStart hname.1).2.1
  have hbarIn : (skipBlanks (['i', 'n'] ++ ' ' :: (name ++ rest))).head? ≠ some '|' := by
    rw [List.cons_append, skipBlanks_of_ne (by decide)]
    simp
  have hinRead := Word.readTokens_cons hin hbar (readTokens_blank h htokens)
  exact Word.readTokens_cons hitem hbarIn hinRead

/-- **The elements of the template** hold the parameters that the name is read as. Only these depend
on the name: the texts, the output and the other tag are read the same for all names. -/
theorem exists_elements {texts : LoopTexts} (htexts : texts.IsPlain) {name field : Text}
    (hname : isIdentifier name = true) (hfield : isIdentifier field = true) :
    ∃ tokens, RunTokens name tokens ∧
      Liquid.elements (texts.source name field) = texts.elements name field tokens := by
  obtain ⟨hbody, htail⟩ := isProper_following htexts hfield
  have hpieces : ∀ piece ∈ texts.following field, piece.isProper = true := by
    refine List.forall_mem_append.2 ⟨Script.isProper_markup hbody, List.forall_mem_cons.2
      ⟨by decide, Script.isProper_markup htail⟩⟩
  obtain ⟨tokens, hrun, hread⟩ :=
    exists_runTokens (all_isNameChar hname) (Markup.write (texts.following field))
  have htokens : tokens ≠ [] := by
    rintro rfl
    cases hrun
    cases hname
  have htag : ReadsAs (tagText forTag (parameters name) ++ Markup.write (texts.following field))
      (.tag (tagText forTag (parameters name)) forTag (loopTokens ['i'] tokens) ::
        Markup.elementsOf (texts.following field)) := by
    refine .tagText (by decide) rfl (fun bound hbound => ?_) (Markup.readsAs_write hpieces)
    have hlength : (parameters name).length = name.length + 6 := rfl
    obtain ⟨bound, rfl⟩ : ∃ k, bound = k + 3 := ⟨bound - 3, by omega⟩
    exact readTokens_parameters hname (hread _ (by omega)) htokens
  have hkeeps : KeepsBlanks
      (tagText forTag (parameters name) ++ Markup.write (texts.following field)) := ⟨rfl, rfl⟩
  refine ⟨tokens, hrun, ?_⟩
  rw [source_eq]
  exact (htag.text (isQuiet_of_not_mem htexts.head) hkeeps).elements

/-- The template with a given loop head. -/
def template (texts : LoopTexts) (head : LoopHead) (field : Text) : Template :=
  .behindText texts.head (.loop head (texts.body field).template .done
    (.behindText texts.tail .done))

end LoopTexts

/-! ### Faults in a template -/

/-- A reader that fails on some elements. -/
def Fails {α : Type} (reader : ElementReader α) (es : List Element) (error : Error) : Prop :=
  (reader.run.run es).1 = .error error

/-- A check that fails is a reader that fails. -/
theorem Fails.ofExcept {α : Type} {result : Except Error α} {error : Error}
    (h : result = .error error) (es : List Element) :
    Fails (liftM result : ElementReader α) es error := by
  subst h
  rfl

/-- A reader that fails keeps what is behind it from being run. -/
theorem Fails.bind {α β : Type} {reader : ElementReader α} {es : List Element} {error : Error}
    (h : Fails reader es error) (more : α → ElementReader β) :
    Fails (reader >>= more) es error := by
  rw [Fails] at h
  rw [Fails, run_bind_reader]
  cases hrun : reader.run.run es with
  | mk result mid =>
    rw [hrun] at h
    obtain rfl : result = .error error := h
    rfl

/-- A reader fails behind one that does not. -/
theorem Reads.bindFails {α β : Type} {reader : ElementReader α} {more : α → ElementReader β}
    {es mid : List Element} {a : α} {error : Error} (h : Reads reader es mid a)
    (hmore : Fails (more a) mid error) : Fails (reader >>= more) es error := by
  rw [Fails, run_bind_reader, h]
  exact hmore

/-- What reading up to the end fails with, with any bound that the number of elements allows. -/
def FailsTemplate (whole : Text) (es : List Element) (error : Error) : Prop :=
  ∀ bound, 2 * es.length ≤ bound → Fails (ElementReader.template whole bound) es error

/-- A tag at fault fails the template, whatever stands behind it. -/
theorem FailsTemplate.tag {name : Text} {parameters : List Token} {error : Error}
    (h : Head.ofTag name parameters = .error error) (whole source : Text) (es : List Element) :
    FailsTemplate whole (.tag source name parameters :: es) error := by
  intro bound hbound
  obtain ⟨bound, rfl⟩ : ∃ k, bound = k + 2 := ⟨bound - 2, by simp at hbound; omega⟩
  have hnext : Reads ElementReader.next (.tag source name parameters :: es) es
    (.tag source name parameters) := rfl
  have hpiece : Fails (ElementReader.piece whole (bound + 1) (.tag source name parameters)) es
      error := by
    rw [ElementReader.piece]
    exact (Fails.ofExcept h es).bind _
  rw [ElementReader.template]
  exact hnext.bindFails (hpiece.bind _)

/-- A text in front of a fault does not keep it from being found. -/
theorem FailsTemplate.text {whole : Text} {es : List Element} {error : Error}
    (h : FailsTemplate whole es error) (t : Text) : FailsTemplate whole (.text t :: es) error := by
  intro bound hbound
  rw [List.length_cons] at hbound
  obtain ⟨bound, rfl⟩ : ∃ k, bound = k + 1 := ⟨bound - 1, by omega⟩
  have hnext : Reads ElementReader.next (.text t :: es) es (.text t) := rfl
  have hpiece := (ReadsPiece.text whole t es).reads bound (by omega)
  rw [ElementReader.template]
  exact hnext.bindFails (hpiece.bindFails ((h bound (by omega)).bind _))

namespace LoopTexts

/-- The tag of the loop, and the text in front of it if there is any. -/
theorem elements_eq (texts : LoopTexts) (name field : Text) (tokens : List Token) :
    texts.elements name field tokens =
      (if texts.head = [] then [] else [.text texts.head]) ++
        .tag (tagText forTag (parameters name)) forTag (loopTokens ['i'] tokens) ::
          Markup.elementsOf (texts.following field) := by
  unfold elements
  split_ifs with hhead
  · rw [hhead]
    rfl
  · exact foldr_pushChar hhead rfl

/-- The template is read if the tag of its loop says what to loop over. Its body ends at the closing
tag, and nothing but text stands behind that. -/
theorem parse_of_ofTag {texts : LoopTexts} (htexts : texts.IsPlain) {name field : Text}
    (hfield : isIdentifier field = true) {tokens : List Token} {head : LoopHead}
    (helements : Liquid.elements (texts.source name field) = texts.elements name field tokens)
    (hhead : Head.ofTag forTag (loopTokens ['i'] tokens) = .ok (.loop head)) :
    Template.parse (texts.source name field) = .ok (texts.template head field) := by
  obtain ⟨hbody, htail⟩ := isProper_following htexts hfield
  have hpiece : ReadsPiece (texts.source name field)
      (.tag (tagText forTag (parameters name)) forTag (loopTokens ['i'] tokens))
      (Markup.elementsOf (texts.following field))
      (Markup.elementsOf (Script.behindText texts.tail .done).markup)
      (.loop head (texts.body field).template .done) :=
    .ofBlock hhead nofun
      (Script.readsInside hbody rfl (Script.readsBlock_end _ forTag .loop _)) _
  have hloop := (Script.readsTemplate htail).push (Element.isInner_tag (.inl rfl) _ _) hpiece
  rw [Script.template_behindText] at hloop
  have hwhole : ReadsTemplate (texts.source name field) (texts.elements name field tokens)
      (texts.template head field) := by
    rw [elements_eq, template, Template.behindText]
    split_ifs
    · exact hloop
    · exact hloop.push (Element.isInner_text _) (.text _ _ _)
  rw [Template.parse, helements]
  exact hwhole _ (Nat.le_add_right _ _)

/-- A fault in the tag of the loop is the fault of the template. -/
theorem parse_of_fault {texts : LoopTexts} {name field : Text} {tokens : List Token}
    {error : Error}
    (helements : Liquid.elements (texts.source name field) = texts.elements name field tokens)
    (hhead : Head.ofTag forTag (loopTokens ['i'] tokens) = .error error) :
    Template.parse (texts.source name field) = .error error := by
  have htag := FailsTemplate.tag hhead (texts.source name field)
    (tagText forTag (parameters name)) (Markup.elementsOf (texts.following field))
  have hwhole : FailsTemplate (texts.source name field) (texts.elements name field tokens)
      error := by
    rw [elements_eq]
    split_ifs
    · exact htag
    · exact htag.text texts.head
  rw [Template.parse, helements]
  exact hwhole _ (Nat.le_add_right _ _)

/-- **A template with a loop over an ordinary name** is read as its name decides. -/
theorem exists_parse {texts : LoopTexts} (htexts : texts.IsPlain) {name field : Text}
    (hname : isOrdinary name = true) (hfield : isIdentifier field = true) :
    ∃ read, LoopOver ['i'] name read ∧
      Template.parse (texts.source name field) = read.map (texts.template · field) := by
  obtain ⟨tokens, hrun, helements⟩ :=
    exists_elements htexts (isIdentifier_of_isOrdinary hname) hfield
  obtain ⟨read, hover, hhead⟩ := exists_loopOver hname hrun ['i']
  refine ⟨read, hover, ?_⟩
  cases read with
  | ok head => exact parse_of_ofTag htexts hfield helements hhead
  | error error => exact parse_of_fault helements hhead

end LoopTexts

end Liquid
end TableCodegen
