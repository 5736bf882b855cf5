import TableCodegen.Liquid.Block
import TableCodegen.Proofs.TemplateReading

/-!
# Reading a written script

A script is a template made of texts, outputs, loops over a variable and branches. Written out and
read again it is the template that it stands for (`Script.parse_write`), as long as its names are
variables and no delimiter opens in its texts. A script is read piece by piece, in a block as well
as at the top, so the induction is on the script with anything that may follow it.
-/

namespace TableCodegen
namespace Liquid

/-! ### Readers of elements -/

/-- A reader that does not fail, what it leaves of some elements, and what it reads. -/
def Reads {α : Type} (reader : ElementReader α) (es rest : List Element) (value : α) : Prop :=
  reader.run.run es = (.ok value, rest)

/-- A reader that only gives a value reads nothing. -/
theorem Reads.pure {α : Type} (value : α) (es : List Element) :
    Reads (Pure.pure value : ElementReader α) es es value := rfl

/-- A check that succeeds is a reader that reads nothing. -/
theorem Reads.ofExcept {α : Type} {result : Except Error α} {value : α} (h : result = .ok value)
    (es : List Element) : Reads (liftM result : ElementReader α) es es value := by
  subst h
  rfl

/-- Of two readers one behind the other, the second one goes on with what the first one left, and is
not run if the first one fails. The elements that a failed reader left are kept, as the state
outlives the failure. -/
theorem run_bind_reader {α β : Type} (reader : ElementReader α) (more : α → ElementReader β)
    (es : List Element) : (reader >>= more).run.run es =
      match reader.run.run es with
      | (.ok a, mid) => (more a).run.run mid
      | (.error error, mid) => (.error error, mid) := by
  rw [ExceptT.run_bind, StateT.run_bind]
  cases reader.run.run es with
  | mk result mid => cases result <;> rfl

/-- **Readers that do not fail are put one behind the other.** Reading a piece, a block or a
template is a chain of such steps, and this lemma takes it apart. -/
theorem Reads.bind {α β : Type} {reader : ElementReader α} {more : α → ElementReader β}
    {es mid rest : List Element} {a : α} {b : β} (h : Reads reader es mid a)
    (hmore : Reads (more a) mid rest b) : Reads (reader >>= more) es rest b := by
  rw [Reads, run_bind_reader, h]
  exact hmore

/-! ### Tests, loops and their heads -/

/-- A test of a template: whether a path counts as true, or is zero. -/
inductive Test where
  | holds (path : Path)
  | isZero (path : Path)

namespace Test

/-- The words of a test in a tag. -/
def words : Test → List Word
  | .holds path => [.named path]
  | .isZero path => [.named path, .equal, .zero]

/-- The condition that a test is. -/
def condition : Test → Condition
  | .holds path => .present path.operand
  | .isZero path => .compare .equal path.operand (.literal (.int 0))

/-- Whether the path of a test is made of a variable and an identifier. -/
def isProper : Test → Bool
  | .holds path => path.isProper
  | .isZero path => path.isProper

/-- The words of a test can be read if its path can. -/
theorem isProper_words {test : Test} (h : test.isProper = true) :
    ∀ word ∈ test.words, word.isProper = true := by
  cases test with
  | holds path =>
    rintro word (_ | ⟨_, hmem⟩)
    · exact h
    · cases hmem
  | isZero path =>
    rintro word (_ | ⟨_, _ | ⟨_, _ | ⟨_, hmem⟩⟩⟩)
    · exact h
    · rfl
    · rfl
    · cases hmem

end Test

/-- A path holds no whole number, and of an operand only those are checked. -/
theorem Path.checked_operand (path : Path) : path.operand.checked = .ok path.operand := by
  obtain ⟨name, member⟩ := path
  cases member with
  | none => rfl
  | some member => rfl

/-- A path without filters is an expression of its own. -/
theorem Path.expression_operand (path : Path) :
    Chain.expression ⟨path.operand, []⟩ = .ok ⟨path.operand, []⟩ := by
  rw [Chain.expression, path.checked_operand]
  rfl

/-- The name of a tag, by the word that it is. -/
abbrev forTag : Text := ['f', 'o', 'r']
@[inherit_doc forTag] abbrev ifTag : Text := ['i', 'f']
@[inherit_doc forTag] abbrev elseTag : Text := ['e', 'l', 's', 'e']

/-- The tag that ends a block. -/
def endTag (block : Text) : Text := ['e', 'n', 'd'] ++ block

/-- The words of a loop over the items of a variable. -/
def loopWords (item items : Text) : List Word :=
  [.named ⟨item, none⟩, .named ⟨['i', 'n'], none⟩, .named ⟨items, none⟩]

/-- The head of a loop over the items of a variable. -/
def loopHead (item items : Text) : LoopHead := ⟨item, .items (.named items), none, none, false⟩

/-- A tag is the head that is read for its name. -/
theorem ofTag_for (item items : Text) :
    Head.ofTag forTag ((loopWords item items).map Word.token) =
      .ok (.loop (loopHead item items)) := by
  rfl

/-- The tag of a branch is the condition that its test stands for. -/
theorem ofTag_if (test : Test) :
    Head.ofTag ifTag (test.words.map Word.token) = .ok (.conditional test.condition) := by
  obtain ⟨⟨name, member⟩⟩ | ⟨⟨name, member⟩⟩ := test
  · cases member <;> rfl
  · cases member <;> rfl

/-! ### Pieces and blocks -/

/-- Whether an element stands inside every block: it neither ends nor divides one. -/
structure Element.IsInner (element : Element) : Prop where
  notFinish : element ≠ .finish
  notEnd : ∀ block, ElementReader.endsBlock block element = false
  notDivider : ∀ division, Divider.ofElement? division element = none

/-- Text belongs to the block that it stands in. -/
theorem Element.isInner_text (t : Text) : (Element.text t).IsInner where
  notFinish := nofun
  notEnd _ := rfl
  notDivider _ := rfl

/-- An output belongs to the block that it stands in. -/
theorem Element.isInner_output (source : Text) (chain : Chain) :
    (Element.output source chain).IsInner where
  notFinish := nofun
  notEnd _ := rfl
  notDivider _ := rfl

/-- A loop and a branch start a block, so their tags neither end nor divide another. -/
theorem Element.isInner_tag {name : Text} (h : name = forTag ∨ name = ifTag) (source : Text)
    (parameters : List Token) : (Element.tag source name parameters).IsInner := by
  rcases h with rfl | rfl
  · refine ⟨nofun, fun block => rfl, fun division => ?_⟩
    cases division <;> rfl
  · refine ⟨nofun, fun block => rfl, fun division => ?_⟩
    cases division <;> rfl

/-- What an element and the block that belongs to it are read as, with any bound that allows for the
number of elements behind it. -/
structure ReadsPiece (whole : Text) (element : Element) (es rest : List Element) (piece : Piece) :
    Prop where
  le : rest.length ≤ es.length
  reads : ∀ bound, 2 * es.length + 1 ≤ bound →
    Reads (ElementReader.piece whole bound element) es rest piece

/-- What a block is read as, with any bound that allows for the number of its elements. -/
structure ReadsBlock (whole block : Text) (division : Division) (es rest : List Element)
    (parts : Parts) : Prop where
  lt : rest.length < es.length
  reads : ∀ bound, 2 * es.length ≤ bound →
    Reads (ElementReader.blockParts whole bound block division) es rest parts

section Blocks

variable {whole block : Text} {division : Division} {element : Element}
  {es mid rest : List Element} {parts : Parts} {piece : Piece}

/-- A text is a piece by itself, and nothing behind it is read. -/
theorem ReadsPiece.text (whole t : Text) (es : List Element) :
    ReadsPiece whole (.text t) es es (.text t) := by
  refine ⟨Nat.le_refl _, fun bound hbound => ?_⟩
  obtain ⟨bound, rfl⟩ : ∃ k, bound = k + 1 := ⟨bound - 1, by omega⟩
  rw [ElementReader.piece]
  exact Reads.pure _ _

/-- An output is a piece by itself, and nothing behind it is read. -/
theorem ReadsPiece.output (whole source : Text) (path : Path) (es : List Element) :
    ReadsPiece whole (.output source ⟨path.operand, []⟩) es es (.output ⟨path.operand, []⟩) := by
  refine ⟨Nat.le_refl _, fun bound hbound => ?_⟩
  obtain ⟨bound, rfl⟩ : ∃ k, bound = k + 1 := ⟨bound - 1, by omega⟩
  rw [ElementReader.piece]
  exact (Reads.ofExcept path.expression_operand es).bind (Reads.pure _ _)

/-- A tag whose block can be divided is read together with its block. -/
theorem ReadsPiece.ofBlock {name : Text} {parameters : List Token} {head : Head}
    (hhead : Head.ofTag name parameters = .ok head) (hdivision : head.division ≠ .whole)
    (h : ReadsBlock whole name head.division es rest parts) (source : Text) :
    ReadsPiece whole (.tag source name parameters) es rest (parts.toPiece head) := by
  refine ⟨Nat.le_of_lt h.lt, fun bound hbound => ?_⟩
  obtain ⟨bound, rfl⟩ : ∃ k, bound = k + 1 := ⟨bound - 1, by omega⟩
  have hparts := h.reads bound (by omega)
  rw [ElementReader.piece]
  refine (Reads.ofExcept hhead es).bind ?_
  cases head with
  | conditional condition => exact hparts.bind (Reads.pure _ _)
  | negated condition => exact hparts.bind (Reads.pure _ _)
  | choice operand => exact hparts.bind (Reads.pure _ _)
  | loop head => exact hparts.bind (Reads.pure _ _)
  | _ => exact absurd rfl hdivision

/-- The next element of a block is taken as one of its pieces, unless it ends or divides the
block. -/
theorem reads_nextIn (h : element.IsInner) (block : Text) (es : List Element) :
    Reads (ElementReader.nextIn block) (element :: es) es (some element) := by
  have hnext : Reads ElementReader.next (element :: es) es element := rfl
  refine hnext.bind ?_
  obtain ⟨hfinish, hend, -⟩ := h
  cases element with
  | finish => exact absurd rfl hfinish
  | _ =>
    simp only [hend block]
    rfl

/-- The end tag of a block ends it. -/
theorem ReadsBlock.stop (whole block source : Text) (division : Division) (es : List Element) :
    ReadsBlock whole block division (.tag source (endTag block) [] :: es) es ⟨.done, []⟩ := by
  refine ⟨Nat.lt_succ_self _, fun bound hbound => ?_⟩
  obtain ⟨bound, rfl⟩ : ∃ k, bound = k + 1 := ⟨bound - 1, by simp at hbound; omega⟩
  have hstop :
      Reads (ElementReader.nextIn block) (.tag source (endTag block) [] :: es) es none := by
    have hnext : Reads ElementReader.next (.tag source (endTag block) [] :: es) es
      (.tag source (endTag block) []) := rfl
    have hends : ElementReader.endsBlock block (.tag source (endTag block) []) = true :=
      decide_eq_true rfl
    refine hnext.bind ?_
    simp only [hends]
    rfl
  rw [ElementReader.blockParts]
  exact hstop.bind (Reads.pure _ _)

/-- A piece stands in front of what is read behind it. -/
theorem ReadsBlock.push (hinner : element.IsInner) (hpiece : ReadsPiece whole element es mid piece)
    (h : ReadsBlock whole block division mid rest parts) :
    ReadsBlock whole block division (element :: es) rest (parts.push piece) := by
  have hle := hpiece.le
  have hlt := h.lt
  refine ⟨by rw [List.length_cons]; omega, fun bound hbound => ?_⟩
  rw [List.length_cons] at hbound
  obtain ⟨bound, rfl⟩ : ∃ k, bound = k + 1 := ⟨bound - 1, by omega⟩
  rw [ElementReader.blockParts]
  refine (reads_nextIn hinner block es).bind ?_
  simp only [hinner.notDivider division]
  refine (hpiece.reads bound (by omega)).bind ?_
  exact (h.reads bound (by omega)).bind (Reads.pure _ _)

/-- An `else` divides the block of a branch, once. -/
theorem ReadsBlock.otherwise (h : ReadsBlock whole ifTag .whole es rest parts) (source : Text) :
    ReadsBlock whole ifTag .conditional (.tag source elseTag [] :: es) rest
      (parts.divide .otherwise) := by
  have hlt := h.lt
  refine ⟨by rw [List.length_cons]; omega, fun bound hbound => ?_⟩
  rw [List.length_cons] at hbound
  obtain ⟨bound, rfl⟩ : ∃ k, bound = k + 1 := ⟨bound - 1, by omega⟩
  have hnext : Reads (ElementReader.nextIn ifTag) (.tag source elseTag [] :: es) es
      (some (.tag source elseTag [])) := rfl
  have hdivider :
      Divider.ofElement? .conditional (.tag source elseTag []) = some (.ok .otherwise) := rfl
  rw [ElementReader.blockParts]
  refine hnext.bind ?_
  simp only [hdivider]
  have hok : (.ok .otherwise : Except Error Divider) = .ok .otherwise := rfl
  refine (Reads.ofExcept hok es).bind ?_
  exact (h.reads bound (by omega)).bind (Reads.pure _ _)

end Blocks

/-! ### Scripts -/

/-- A template made of texts, outputs, loops over a variable and branches. -/
inductive Script where
  | done
  | text (t : Text) (next : Script)
  | output (path : Path) (next : Script)
  | loop (item items : Text) (body next : Script)
  /-- A branch without `else`. -/
  | when (test : Test) (yes next : Script)
  | choose (test : Test) (yes no next : Script)

namespace Script

/-- The pieces of a script as it is written. -/
def markup : Script → List Markup
  | .done => []
  | .text t next => .text t :: next.markup
  | .output path next => .output path :: next.markup
  | .loop item items body next =>
    .tag forTag (loopWords item items) ::
      (body.markup ++ .tag (endTag forTag) [] :: next.markup)
  | .when test yes next =>
    .tag ifTag test.words :: (yes.markup ++ .tag (endTag ifTag) [] :: next.markup)
  | .choose test yes no next =>
    .tag ifTag test.words :: (yes.markup ++ .tag elseTag [] ::
      (no.markup ++ .tag (endTag ifTag) [] :: next.markup))

/-- A template behind the template that a script stands for. -/
def before : Script → Template → Template
  | .done, rest => rest
  | .text t next, rest => .text t (next.before rest)
  | .output path next, rest => .output ⟨path.operand, []⟩ (next.before rest)
  | .loop item items body next, rest =>
    .loop (loopHead item items) (body.before .done) .done (next.before rest)
  | .when test yes next, rest =>
    .branch test.condition (yes.before .done) .done (next.before rest)
  | .choose test yes no next, rest =>
    .branch test.condition (yes.before .done) (no.before .done) (next.before rest)

/-- The template that a script stands for. -/
def template (script : Script) : Template := script.before .done

/-- Whether a script begins with text. -/
def startsWithText : Script → Bool
  | .text _ _ => true
  | _ => false

/-- Whether a script can be read: its names are identifiers, no text is empty or next to another,
and no delimiter opens in a text. -/
def isProper : Script → Bool
  | .done => true
  | .text t next => isQuiet t && !t.isEmpty && !next.startsWithText && next.isProper
  | .output path next => path.isProper && next.isProper
  | .loop item items body next =>
    isVariable item && isVariable items && body.isProper && next.isProper
  | .when test yes next => test.isProper && yes.isProper && next.isProper
  | .choose test yes no next => test.isProper && yes.isProper && no.isProper && next.isProper

end Script

/-- Whether elements begin with text. -/
def opensWithText : List Element → Bool
  | .text _ :: _ => true
  | _ => false

/-- The characters of a text in front of what is no text are one element. -/
theorem foldr_pushChar {t : Text} {es : List Element} (ht : t ≠ []) (h : opensWithText es = false) :
    t.foldr pushChar es = .text t :: es := by
  induction t with
  | nil => exact absurd rfl ht
  | cons c cs ih =>
    cases cs with
    | nil =>
      rw [List.foldr_cons, List.foldr_nil]
      cases es with
      | nil => rfl
      | cons e es =>
        cases e with
        | text t => cases h
        | _ => rfl
    | cons d ds => rw [List.foldr_cons, ih (List.cons_ne_nil d ds), pushChar]

namespace Script

open Markup

/-- A script that does not begin with text does so in front of no text either. An empty script is
the case to look at: what follows it is then at the front. -/
theorem opensWithText_elementsOf {script : Script} (h : script.startsWithText = false)
    {pieces : List Markup} (hpieces : opensWithText (elementsOf pieces) = false) :
    opensWithText (elementsOf (script.markup ++ pieces)) = false := by
  cases script with
  | done => exact hpieces
  | text t next => cases h
  | _ => rfl

/-- The text that a script begins with is an element of its own. -/
theorem elementsOf_text {t : Text} {next : Script} (h : (Script.text t next).isProper = true)
    {pieces : List Markup} (hpieces : opensWithText (elementsOf pieces) = false) :
    elementsOf ((Script.text t next).markup ++ pieces) =
      .text t :: elementsOf (next.markup ++ pieces) := by
  simp only [isProper, Bool.and_eq_true, Bool.not_eq_true', List.isEmpty_eq_false_iff] at h
  exact foldr_pushChar h.1.1.2 (opensWithText_elementsOf h.1.2 hpieces)

/-- The parts of a script that begins with text can be read. -/
theorem isProper_of_text {t : Text} {next : Script} (h : (Script.text t next).isProper = true) :
    isQuiet t = true ∧ next.isProper = true := by
  simp only [isProper, Bool.and_eq_true] at h
  exact ⟨h.1.1.1, h.2⟩

/-- A script is read in every block, as the pieces in front of what follows it. -/
def ReadsInside (whole : Text) (script : Script) : Prop :=
  ∀ {block division rest parts pieces}, opensWithText (elementsOf pieces) = false →
    ReadsBlock whole block division (elementsOf pieces) rest parts →
      ReadsBlock whole block division (elementsOf (script.markup ++ pieces)) rest
        (parts.push script.before)

/-- A block that is nothing but its end tag is empty. -/
theorem readsBlock_end (whole block : Text) (division : Division) (pieces : List Markup) :
    ReadsBlock whole block division (elementsOf (.tag (endTag block) [] :: pieces))
      (elementsOf pieces) ⟨.done, []⟩ :=
  .stop whole block _ division _

/-- A loop is read as one piece, its body being read up to its end tag. -/
theorem readsPiece_loop {whole : Text} {body : Script} (hbody : body.ReadsInside whole)
    (item items : Text) (pieces : List Markup) :
    ReadsPiece whole (.tag (source (.tag forTag (loopWords item items))) forTag
        ((loopWords item items).map Word.token))
      (elementsOf (body.markup ++ .tag (endTag forTag) [] :: pieces)) (elementsOf pieces)
      (.loop (loopHead item items) body.template .done) :=
  .ofBlock (ofTag_for item items) nofun (hbody rfl (readsBlock_end whole forTag .loop pieces)) _

/-- A branch without `else` is read as one piece that shows nothing if its test fails. -/
theorem readsPiece_when {whole : Text} {yes : Script} (hyes : yes.ReadsInside whole) (test : Test)
    (pieces : List Markup) :
    ReadsPiece whole (.tag (source (.tag ifTag test.words)) ifTag (test.words.map Word.token))
      (elementsOf (yes.markup ++ .tag (endTag ifTag) [] :: pieces)) (elementsOf pieces)
      (.branch test.condition yes.template .done) :=
  .ofBlock (ofTag_if test) nofun (hyes rfl (readsBlock_end whole ifTag .conditional pieces)) _

/-- A branch with `else` is read as one piece. What stands behind the `else` is a block of the same
tag that may not be divided again. -/
theorem readsPiece_choose {whole : Text} {yes no : Script} (hyes : yes.ReadsInside whole)
    (hno : no.ReadsInside whole) (test : Test) (pieces : List Markup) :
    ReadsPiece whole (.tag (source (.tag ifTag test.words)) ifTag (test.words.map Word.token))
      (elementsOf (yes.markup ++ .tag elseTag [] ::
        (no.markup ++ .tag (endTag ifTag) [] :: pieces))) (elementsOf pieces)
      (.branch test.condition yes.template no.template) := by
  have hotherwise := hno rfl (readsBlock_end whole ifTag .whole pieces)
  have helse : ReadsBlock whole ifTag .conditional
      (elementsOf (.tag elseTag [] :: (no.markup ++ .tag (endTag ifTag) [] :: pieces)))
      (elementsOf pieces) _ := hotherwise.otherwise _
  exact .ofBlock (ofTag_if test) nofun (hyes rfl helse) _

/-- **A script is read in a block.** The block and the tag that divides it are open here, as the
body of a loop and a branch of a condition end in different ways. -/
theorem readsInside {whole : Text} {script : Script} (hproper : script.isProper = true) :
    script.ReadsInside whole := by
  -- Every case but the first puts a piece in front of what the rest of the script is read as. The
  -- bodies of loops and branches are scripts as well, each up to the tag that ends or divides it.
  induction script with
  | done => exact fun _ h => h
  | text t next ih =>
    intro block division rest parts pieces htext h
    have hnext := ih (isProper_of_text hproper).2 htext h
    have hpush := hnext.push (Element.isInner_text t) (.text whole t _)
    rw [elementsOf_text hproper htext]
    exact hpush
  | output path next ih =>
    intro block division rest parts pieces htext h
    rw [isProper, Bool.and_eq_true] at hproper
    have hnext := ih hproper.2 htext h
    have hpush := hnext.push (Element.isInner_output (source (.output path)) _)
      (.output whole _ path _)
    exact hpush
  | loop item items body next ihbody ihnext =>
    intro block division rest parts pieces htext h
    simp only [isProper, Bool.and_eq_true] at hproper
    have hnext := ihnext hproper.2 htext h
    have hpush := hnext.push (Element.isInner_tag (.inl rfl) _ _)
      (readsPiece_loop (ihbody hproper.1.2) item items (next.markup ++ pieces))
    rw [markup, List.cons_append, List.append_assoc, List.cons_append]
    exact hpush
  | when test yes next ihyes ihnext =>
    intro block division rest parts pieces htext h
    simp only [isProper, Bool.and_eq_true] at hproper
    have hnext := ihnext hproper.2 htext h
    have hpush := hnext.push (Element.isInner_tag (.inr rfl) _ _)
      (readsPiece_when (ihyes hproper.1.2) test (next.markup ++ pieces))
    rw [markup, List.cons_append, List.append_assoc, List.cons_append]
    exact hpush
  | choose test yes no next ihyes ihno ihnext =>
    intro block division rest parts pieces htext h
    simp only [isProper, Bool.and_eq_true] at hproper
    have hnext := ihnext hproper.2 htext h
    have hpush := hnext.push (Element.isInner_tag (.inr rfl) _ _)
      (readsPiece_choose (ihyes hproper.1.1.2) (ihno hproper.1.2) test (next.markup ++ pieces))
    rw [markup, List.cons_append, List.append_assoc, List.cons_append, List.append_assoc,
      List.cons_append]
    exact hpush

end Script

/-! ### The top of a template -/

/-- What elements are read as up to the end, with any bound that their number allows. -/
def ReadsTemplate (whole : Text) (es : List Element) (template : Template) : Prop :=
  ∀ bound, 2 * es.length ≤ bound →
    ((ElementReader.template whole bound).run.run es).1 = .ok template

/-- The end of the elements is the end of the template. -/
theorem ReadsTemplate.finish (whole : Text) : ReadsTemplate whole [.finish] .done := by
  intro bound hbound
  obtain ⟨bound, rfl⟩ : ∃ k, bound = k + 1 := ⟨bound - 1, by simp at hbound; omega⟩
  rfl

/-- A piece stands in front of the template behind it. The bound goes down by one with every
element, and twice their number is enough, for the pieces and for the blocks in them. -/
theorem ReadsTemplate.push {whole : Text} {element : Element} {es mid : List Element}
    {piece : Piece} {template : Template} (hinner : element.IsInner)
    (hpiece : ReadsPiece whole element es mid piece) (h : ReadsTemplate whole mid template) :
    ReadsTemplate whole (element :: es) (piece template) := by
  have hle := hpiece.le
  intro bound hbound
  rw [List.length_cons] at hbound
  obtain ⟨bound, rfl⟩ : ∃ k, bound = k + 1 := ⟨bound - 1, by omega⟩
  obtain ⟨rest, hrest⟩ : ∃ rest, Reads (ElementReader.template whole bound) mid rest template :=
    ⟨_, Prod.ext (h bound (by omega)) rfl⟩
  have hnext : Reads ElementReader.next (element :: es) es element := rfl
  have hreads : Reads (ElementReader.template whole (bound + 1)) (element :: es) rest
      (piece template) := by
    rw [ElementReader.template]
    refine hnext.bind ?_
    obtain ⟨hfinish, -, -⟩ := hinner
    cases element with
    | finish => exact absurd rfl hfinish
    | _ => exact (hpiece.reads bound (by omega)).bind (hrest.bind (Reads.pure _ _))
  rw [hreads]

namespace Script

open Markup

/-- **A script is read at the top of a template.** Its loops and conditions are read as blocks, and
the script itself ends with the text. -/
theorem readsTemplate {whole : Text} {script : Script} (hproper : script.isProper = true) :
    ReadsTemplate whole (elementsOf script.markup) script.template := by
  -- At the top there is no tag to stop at; below it, `readsInside` has been shown for all blocks.
  induction script with
  | done => exact .finish whole
  | text t next ih =>
    have htext : elementsOf ((Script.text t next).markup ++ []) = _ := elementsOf_text hproper rfl
    have hpush := (ih (isProper_of_text hproper).2).push (Element.isInner_text t) (.text whole t _)
    rw [List.append_nil, List.append_nil] at htext
    rw [htext]
    exact hpush
  | output path next ih =>
    rw [isProper, Bool.and_eq_true] at hproper
    have hpush := (ih hproper.2).push (Element.isInner_output (source (.output path)) _)
      (.output whole _ path _)
    exact hpush
  | loop item items body next _ ihnext =>
    simp only [isProper, Bool.and_eq_true] at hproper
    have hpush := (ihnext hproper.2).push (Element.isInner_tag (.inl rfl) _ _)
      (readsPiece_loop (readsInside hproper.1.2) item items next.markup)
    exact hpush
  | when test yes next _ ihnext =>
    simp only [isProper, Bool.and_eq_true] at hproper
    have hpush := (ihnext hproper.2).push (Element.isInner_tag (.inr rfl) _ _)
      (readsPiece_when (readsInside hproper.1.2) test next.markup)
    exact hpush
  | choose test yes no next _ _ ihnext =>
    simp only [isProper, Bool.and_eq_true] at hproper
    have hpush := (ihnext hproper.2).push (Element.isInner_tag (.inr rfl) _ _)
      (readsPiece_choose (readsInside hproper.1.1.2) (readsInside hproper.1.2) test next.markup)
    exact hpush

/-- The names in the tag of a loop are identifiers. -/
theorem isProper_loopWords {item items : Text} (hitem : isVariable item = true)
    (hitems : isVariable items = true) : (loopWords item items).all Word.isProper = true := by
  simp only [loopWords, List.all_cons, List.all_nil, Word.isProper, Path.isProper, hitem, hitems]
  decide

/-- The pieces of a script can be read one by one. What a script asks of each piece of its markup is
just that, put together along the script. -/
theorem isProper_markup {script : Script} (h : script.isProper = true) :
    ∀ piece ∈ script.markup, piece.isProper = true := by
  have hend : ∀ block, isIdentifier (endTag block) = true →
      (Markup.tag (endTag block) []).isProper = true := fun block hblock => by
    rw [Markup.isProper, hblock]
    rfl
  have htest : ∀ test : Test, test.isProper = true →
      (Markup.tag ifTag test.words).isProper = true := fun test hproper =>
    List.all_eq_true.2 (Test.isProper_words hproper)
  rw [← List.all_eq_true]
  induction script with
  | done => rfl
  | text t next ih =>
    obtain ⟨hquiet, hnext⟩ := isProper_of_text h
    rw [markup, List.all_cons, ih hnext, Bool.and_true]
    exact hquiet
  | output path next ih =>
    rw [isProper, Bool.and_eq_true] at h
    rw [markup, List.all_cons, ih h.2, Bool.and_true]
    exact h.1
  | loop item items body next ihbody ihnext =>
    simp only [isProper, Bool.and_eq_true] at h
    obtain ⟨⟨⟨hitem, hitems⟩, hbody⟩, hnext⟩ := h
    have hfor : (Markup.tag forTag (loopWords item items)).isProper = true :=
      isProper_loopWords hitem hitems
    rw [markup, List.all_cons, List.all_append, List.all_cons, ihbody hbody, ihnext hnext,
      hend forTag (by decide), hfor]
    rfl
  | when test yes next ihyes ihnext =>
    simp only [isProper, Bool.and_eq_true] at h
    obtain ⟨⟨hproper, hyes⟩, hnext⟩ := h
    rw [markup, List.all_cons, List.all_append, List.all_cons, ihyes hyes, ihnext hnext,
      hend ifTag (by decide), htest test hproper]
    rfl
  | choose test yes no next ihyes ihno ihnext =>
    simp only [isProper, Bool.and_eq_true] at h
    obtain ⟨⟨⟨hproper, hyes⟩, hno⟩, hnext⟩ := h
    have helse : (Markup.tag elseTag []).isProper = true := by decide
    rw [markup, List.all_cons, List.all_append, List.all_cons, List.all_append, List.all_cons,
      ihyes hyes, ihno hno, ihnext hnext, hend ifTag (by decide), htest test hproper, helse]
    rfl

/-- **Reading a written script gives the template that it stands for.** -/
theorem parse_write {script : Script} (h : script.isProper = true) :
    Template.parse (write script.markup) = .ok script.template := by
  rw [Template.parse, elements_write (isProper_markup h)]
  exact readsTemplate h _ (Nat.le_add_right _ _)

end Script

end Liquid
end TableCodegen
