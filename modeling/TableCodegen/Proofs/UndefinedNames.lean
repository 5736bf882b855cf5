import Mathlib.Data.List.Basic
import TableCodegen.Proofs.Generation
import TableCodegen.Proofs.LoopTemplates
import TableCodegen.Proofs.StockTemplates

/-!
# Undefined names in a template

A template that loops over a name and shows a field of each item fails where it comes to a name that
is not defined, and a run that fails leaves the files as they are.

| name | field | table | run |
| --- | --- | --- | --- |
| the generator's variable | exposed | any | a line for each record |
| the generator's variable | not exposed | with records | fails |
| the generator's variable | not exposed | without records | the texts around the loop |
| another one | any | any | fails |

Four other names do not fail (`silentNames`): they read as a word without items and `reversed`, and
the loop is passed over.
-/

namespace TableCodegen

open Text

namespace Liquid

/-! ### What a loop renders -/

/-- A template fails in a scope. -/
def Breaks (scope : Scope) (template : Template) (error : Error) : Prop :=
  template.renderIn scope.globals scope.loops scope.assigned = .error error

section Pieces

variable {scope : Scope} {next : Template} {t : Text} {error : Error}

/-- A text in front of a template is rendered in front. -/
theorem Renders.behindText {s : Text} (h : Renders scope next s) (t : Text) :
    Renders scope (next.behindText t) (t ++ s) := by
  unfold Template.behindText
  split_ifs with ht
  · rwa [ht, List.nil_append]
  · exact h.text t

/-- A template that fails does so behind a text too, and what has been rendered by then is lost. -/
theorem Breaks.behindText (h : Breaks scope next error) (t : Text) :
    Breaks scope (next.behindText t) error := by
  unfold Template.behindText
  split_ifs
  · exact h
  · rw [Breaks] at h
    simp only [Breaks, Template.renderIn, Rendered.andThen, h]
    rfl

/-- An output of a variable that is not there fails, whatever stands behind it. -/
theorem breaks_output {operand : Operand} (h : operand.value? scope = none) (next : Template) :
    Breaks scope (.output ⟨operand, []⟩ next) .unknownVariable := by
  have hvalue : Expression.value scope ⟨operand, []⟩ = .error .unknownVariable := by
    rw [Expression.value, Operand.value, h]
    rfl
  rw [Breaks, Template.renderIn, hvalue]
  rfl

/-- A loop without anything to run over fails before its body is looked at. -/
theorem breaks_loop_of_items {head : LoopHead} (h : head.items scope = .error error)
    (body otherwise next : Template) : Breaks scope (.loop head body otherwise next) error := by
  rw [Breaks, Template.renderIn, h]
  rfl

/-- A loop fails with its body for the first item. -/
theorem breaks_loop_of_body {name itemsName : Text} {item : Value} {items : List Value}
    {body : Template} (hitems : scope.lookup itemsName = some (.array (item :: items)))
    (h : Breaks (scope.inLoop name (items.length + 1) 0 item) body error) (next : Template) :
    Breaks scope (.loop (loopHead name itemsName) body .done next) error := by
  have hbody : body.renderIn scope.globals (loopBindings name ((scope.lookup loopName).getD .nil)
      (items.length + 1) 0 item :: scope.loops) scope.assigned = .error error := h
  have hname : (loopHead name itemsName).name = name := rfl
  rw [Breaks, Template.renderIn, items_loopHead hitems]
  simp only [bind, Except.bind, List.isEmpty_cons, Bool.false_eq_true, if_false, hname, renderItems,
    List.length_cons, hbody]

/-- A loop over nothing is passed over. -/
theorem renders_loop_nil {head : LoopHead} (h : head.items scope = .ok []) (body : Template)
    (hnext : Renders scope next t) : Renders scope (.loop head body .done next) t := by
  rw [Renders, Template.renderIn, h]
  exact hnext.andThen []

end Pieces

open Layout

/-- A template that is read and renders gives its text. Its scope holds the records under the name
of the generator's variable and nothing else. -/
theorem renderText_of_renders {source name t : Text} {items : List Value} {template : Template}
    (hparse : Template.parse source = .ok template) (h : Renders (scopeOf name items) template t) :
    renderText source name items = .ok t := by
  have hrender : template.renderIn [(name, .array items)] [] [] = .ok ⟨t, [], none⟩ := h
  rw [renderText, hparse]
  simp only [bind, Except.bind, Template.render, hrender, Except.map]

/-- A template that is read and fails in rendering gives the fault. -/
theorem renderText_of_breaks {source name : Text} {items : List Value} {template : Template}
    {error : Error} (hparse : Template.parse source = .ok template)
    (h : Breaks (scopeOf name items) template error) :
    renderText source name items = .error error := by
  have hrender : template.renderIn [(name, .array items)] [] [] = .error error := h
  rw [renderText, hparse]
  simp only [bind, Except.bind, Template.render, hrender, Except.map]

/-- Only one name is defined at the top of a template. -/
theorem lookup_scopeOf_of_ne {name other : Text} (h : other ≠ name) (items : List Value) :
    (scopeOf name items).lookup other = none := by
  simp [Scope.lookup, Scope.lookupIn, scopeOf, List.lookup_cons, beq_eq_false_iff_ne.2 h]

/-- A loop over a variable that is not defined has no items to run over. -/
theorem items_undefined {scope : Scope} {name : Text} (h : scope.lookup name = none) (item : Text) :
    (loopHead item name).items scope = .error .unknownVariable := by
  have hall : LoopHead.allItems scope (.items (.named name)) = .error .unknownVariable := by
    rw [LoopHead.allItems, Operand.value, Operand.value?, h]
    rfl
  simp only [LoopHead.items, loopHead, hall]
  rfl

namespace LoopTexts

/-- The operand that the body of the loop shows. -/
def shown (field : Text) : Operand := .member (.named ['i']) (.literal (.text field))

/-- The body of the loop shows the field between two texts. -/
theorem template_body (texts : LoopTexts) (field : Text) :
    (texts.body field).template = Template.behindText texts.front
      (.output ⟨shown field, []⟩ (.behindText texts.back .done)) := by
  have hback := Script.template_behindText texts.back .done
  have houtput : ∀ next : Script, (Script.output ⟨['i'], some field⟩ next).template =
      .output ⟨shown field, []⟩ next.template := fun _ => rfl
  rw [body, Script.template_behindText, houtput, hback]
  rfl

variable (texts : LoopTexts) {scope : Scope} {name field : Text} {head : LoopHead} {error : Error}

/-- A line of the output, with what is shown of an item. -/
def line (t : Text) : Text := texts.front ++ t ++ texts.back

/-- Inside the loop the operand is the field of the item. -/
theorem value?_shown (scope : Scope) (count index : Nat) (item : Value) (field : Text) :
    (shown field).value? (scope.inLoop ['i'] count index item) = item.member? (.text field) := by
  have hitem := lookup_inLoop scope ['i'] count index item
  simp only [shown, Operand.value?, hitem]

/-- An item that has the field is rendered as a line. -/
theorem renders_body {count index : Nat} {item value : Value}
    (h : item.member? (.text field) = some value) :
    Renders (scope.inLoop ['i'] count index item) (texts.body field).template
      (texts.line value.display) := by
  have hvalue := (value?_shown scope count index item field).trans h
  have hback := (renders_done (scope.inLoop ['i'] count index item)).behindText texts.back
  rw [List.append_nil] at hback
  rw [template_body, line, List.append_assoc]
  exact (hback.output hvalue).behindText texts.front

/-- An item without the field fails, so there is no text for it that could be taken for an empty
field. -/
theorem breaks_body {count index : Nat} {item : Value} (h : item.member? (.text field) = none) :
    Breaks (scope.inLoop ['i'] count index item) (texts.body field).template .unknownVariable := by
  have hvalue := (value?_shown scope count index item field).trans h
  rw [template_body]
  exact (breaks_output hvalue _).behindText texts.front

/-- Behind the loop there is its text. -/
theorem renders_tail (scope : Scope) :
    Renders scope (Template.behindText texts.tail .done) texts.tail := by
  have htail := (renders_done scope).behindText texts.tail
  rwa [List.append_nil] at htail

/-- A line is written for each item that has the field, between the head and the tail. What is shown
of an item is the text of the field alone. -/
theorem renders_template {items : List Value} {shownOf : Value → Text}
    (hitems : scope.lookup name = some (.array items))
    (h : ∀ item ∈ items, ∃ value, item.member? (.text field) = some value ∧
      value.display = shownOf item) :
    Renders scope (texts.template (loopHead ['i'] name) field)
      (texts.head ++ (items.flatMap (fun item => texts.line (shownOf item)) ++ texts.tail)) := by
  have hbody : ∀ index item, items[index]? = some item →
      Renders (scope.inLoop ['i'] items.length index item) (texts.body field).template
        (texts.line (shownOf item)) := by
    intro index item hitem
    obtain ⟨value, hvalue, hdisplay⟩ := h item (List.mem_of_getElem? hitem)
    exact hdisplay ▸ texts.renders_body hvalue
  have hloop := (texts.renders_tail scope).loop hitems hbody
  have hlines : (items.mapIdx fun _ item => texts.line (shownOf item)).flatten =
      items.flatMap fun item => texts.line (shownOf item) := by
    rw [List.flatMap_def]
    refine congrArg List.flatten (List.ext_getElem? fun index => ?_)
    rw [List.getElem?_mapIdx, List.getElem?_map]
  rw [hlines] at hloop
  exact hloop.behindText texts.head

/-- The first item without the field is the end of the rendering. -/
theorem breaks_template {item : Value} {items : List Value}
    (hitems : scope.lookup name = some (.array (item :: items)))
    (h : item.member? (.text field) = none) :
    Breaks scope (texts.template (loopHead ['i'] name) field) .unknownVariable :=
  (breaks_loop_of_body hitems (texts.breaks_body h) _).behindText texts.head

/-- The text in front of a loop that fails is not rendered either. -/
theorem breaks_template_of_items (h : head.items scope = .error error) (field : Text) :
    Breaks scope (texts.template head field) error :=
  (breaks_loop_of_items h _ _ _).behindText texts.head

/-- Around a loop over nothing there are the texts. -/
theorem renders_template_nil (h : head.items scope = .ok []) (field : Text) :
    Renders scope (texts.template head field) (texts.head ++ texts.tail) :=
  (renders_loop_nil h _ (texts.renders_tail scope)).behindText texts.head

end LoopTexts

/-! ### Loops over undefined names -/

/-- The names that read as a word without items and `reversed`. -/
def silentNames : List Text :=
  ["nilreversed".toList, "nullreversed".toList, "emptyreversed".toList, "blankreversed".toList]

/-- The four names are ordinary: nothing in their letters sets them apart from the name of a
variable. -/
theorem isOrdinary_of_mem_silentNames : ∀ name ∈ silentNames, isOrdinary name = true := by
  decide

/-- A silent name reads as a word and `reversed` only. -/
theorem eq_reversed_of_silentName : ∀ name ∈ silentNames, ∃ word ∈ words, word.1 <+: name ∧
    ∀ other ∈ words, other.1 <+: name → name.drop other.1.length = "reversed".toList := by
  decide

/-- The values of the words that open a silent name have no items, and those of the others are of
the wrong kind. -/
theorem items_word (scope : Scope) (item : Text) : ∀ word ∈ words,
    word.1 ++ "reversed".toList ∈ silentNames ∧
        LoopHead.items scope { operandLoop item (.literal word.2) with reversed := true } = .ok [] ∨
      word.1 ++ "reversed".toList ∉ silentNames ∧
        LoopHead.items scope { operandLoop item (.literal word.2) with reversed := true } =
          .error .unexpectedKind := by
  simp only [words, List.forall_mem_cons]
  exact ⟨.inl ⟨by decide, rfl⟩, .inl ⟨by decide, rfl⟩, .inl ⟨by decide, rfl⟩,
    .inl ⟨by decide, rfl⟩, .inr ⟨by decide, rfl⟩, .inr ⟨by decide, rfl⟩, List.forall_mem_nil _⟩

section Undefined

variable {texts : LoopTexts} (htexts : texts.IsPlain) {name field : Text}
  (hfield : isIdentifier field = true)

include htexts hfield

/-- **A loop over a name that is not defined fails,** unless the name is silent. The fault is not
fatal: the run reports it and ends with status 1. -/
theorem renderText_undefined (hname : isOrdinary name = true) (hsilent : name ∉ silentNames)
    {variableName : Text} (hne : name ≠ variableName) (items : List Value) :
    ∃ error, renderText (texts.source name field) variableName items = .error error ∧
      error.isFatal = false := by
  -- The name is read as a variable that is not there, as a word whose value has no items to run
  -- over, or as a fault in the tag. A silent name would be of the second kind.
  obtain ⟨read, hover, hparse⟩ := texts.exists_parse htexts hname hfield
  cases hover with
  | named _ =>
    have hitems := items_undefined (lookup_scopeOf_of_ne hne items) ['i']
    exact ⟨_, renderText_of_breaks hparse (texts.breaks_template_of_items hitems field), rfl⟩
  | reversed hword hreversed =>
    rcases items_word (scopeOf variableName items) ['i'] _ hword with ⟨hmem, -⟩ | ⟨-, hitems⟩
    · exact absurd (hreversed ▸ hmem) hsilent
    · exact ⟨_, renderText_of_breaks hparse (texts.breaks_template_of_items hitems field), rfl⟩
  | @fault _ _ _ _ _ error herror =>
    refine ⟨error, ?_, herror⟩
    rw [renderText, hparse]
    rfl

/-- **A loop over a silent name is passed over.** -/
theorem renderText_silent (hname : name ∈ silentNames) (variableName : Text)
    (items : List Value) :
    renderText (texts.source name field) variableName items = .ok (texts.head ++ texts.tail) := by
  obtain ⟨read, hover, hparse⟩ :=
    texts.exists_parse htexts (isOrdinary_of_mem_silentNames name hname) hfield
  obtain ⟨word, hmem, hopens, hrest⟩ := eq_reversed_of_silentName name hname
  cases hover with
  | named hnone => exact absurd hopens (hnone word hmem)
  | reversed hword hreversed =>
    rcases items_word (scopeOf variableName items) ['i'] _ hword with ⟨-, hitems⟩ | ⟨hno, -⟩
    · exact renderText_of_renders hparse (texts.renders_template_nil hitems field)
    · exact absurd (hreversed ▸ hname) hno
  | fault hword hmore heq _ =>
    have hdrop := hrest _ hword (heq ▸ List.prefix_append _ _)
    rw [heq, List.drop_left] at hdrop
    exact absurd hdrop hmore

end Undefined

end Liquid

open Liquid

/-! ### Fields of records -/

/-- The names of the fields that a generator exposes. -/
def Generator.fieldNames : Generator → List Text
  | .referencePoints => ["name".toList, "protocol".toList, "elements".toList,
    "description".toList, "references".toList]
  | .informationElements => ["type".toList, "message".toList, "specification".toList,
    "section".toList, "initial".toList, "triggered".toList, "interfaces".toList]

/-- The records of a table have the fields of its generator, all of them and in the order in which
they are exposed. -/
theorem Generator.names_of_load {generator : Generator} {table : Text} {records : List Record}
    (h : generator.load table = .ok records) :
    ∀ record ∈ records, record.map Prod.fst = generator.fieldNames := by
  intro record hrecord
  cases generator with
  | referencePoints =>
    rw [Generator.load] at h
    cases hload : ReferencePoint.load table with
    | error error =>
      rw [hload] at h
      cases h
    | ok points =>
      rw [hload] at h
      obtain rfl := Except.ok.inj h
      obtain ⟨point, -, rfl⟩ := List.mem_map.1 hrecord
      rfl
  | informationElements =>
    rw [Generator.load] at h
    cases hload : InformationElement.load table with
    | error error =>
      rw [hload] at h
      cases h
    | ok elements =>
      rw [hload] at h
      obtain rfl := Except.ok.inj h
      obtain ⟨element, -, rfl⟩ := List.mem_map.1 hrecord
      rfl

/-- A content as a template shows it. -/
def Content.shown : Content → Text
  | .text t => t
  | .number n => decimal n
  | .flag b => flagText b

/-- A content is shown as its text, its digits, or the word for its flag. -/
theorem display_ofContent (content : Content) :
    (Value.ofContent content).display = content.shown := by
  cases content with
  | text t => rfl
  | number n => rfl
  | flag b => exact display_flag b

/-- A field of a record as a template shows it. -/
def shownField (field : Text) (record : Record) : Text :=
  ((record.lookup field).map Content.shown).getD []

/-- Every field that a record has can be looked up. -/
theorem exists_lookup {record : Record} {field : Text} (h : field ∈ record.map Prod.fst) :
    ∃ content, record.lookup field = some content := by
  obtain ⟨entry, hentry, rfl⟩ := List.mem_map.1 h
  exact Option.isSome_iff_exists.1 (List.lookup_isSome_iff.2 ⟨entry, hentry, beq_self_eq_true _⟩)

/-- A record holds nothing under a name that is none of its fields; `size` is their number. -/
theorem member?_ofRecord_eq_none {record : Record} {field : Text}
    (h : field ∉ record.map Prod.fst) (hsize : field ≠ "size".toList) :
    (Value.ofRecord record).member? (.text field) = none := by
  have hlookup : (record.map fun entry => (entry.1, Value.ofContent entry.2)).lookup field =
      none := by
    refine List.lookup_eq_none_iff.2 fun entry hentry => ?_
    obtain ⟨entry, hmem, rfl⟩ := List.mem_map.1 hentry
    exact bne_iff_ne.2 fun heq => h (List.mem_map.2 ⟨entry, hmem, heq.symm⟩)
  simp only [Value.ofRecord, Value.member?, Value.scalar?, hlookup, if_neg hsize]

/-! ### Runs -/

/-- A run that fails in its template and leaves the files as they are. -/
def FailsInTemplate (tree : FileTree) (run : Generation × FileTree) : Prop :=
  ∃ error, run.1.outcome = .error (.template error) ∧ error.isFatal = false ∧ run.2 = tree

/-- A run that succeeds and writes a source. -/
structure WritesSource (tree : FileTree) (paths : Paths) (count : Nat) (source : Text)
    (run : Generation × FileTree) : Prop where
  outcome : run.1.outcome = .ok count
  written : FileTree.Written tree paths.output (utf8 source) run.2

section Runs

variable {generator : Generator} {table : Text} {records : List Record} {paths : Paths}
  {tree : FileTree} {source : Text} (hload : generator.load table = .ok records)

include hload

/-- A run without an echo comes to the stages behind the dump. -/
theorem run_generate_silently (paths : Paths) (tree : FileTree) :
    (generate generator table paths none : StateM FileTree Generation).run tree =
      (emitSource generator records paths none (generator.loadEvents table) :
        StateM FileTree Generation).run tree := by
  unfold generate
  rw [hload]
  rfl

/-- A run fails in its template if the rendering of its records does. The output is written behind
the rendering, so no file is touched. -/
theorem failsInTemplate_of_render (htemplate : tree.textOf paths.template = .ok source)
    {error : Error} (hrender : renderRecords generator source records = .error error)
    (herror : error.isFatal = false) :
    FailsInTemplate tree
      ((generate generator table paths none : StateM FileTree Generation).run tree) := by
  have hrendering := FileTree.rendering_of_textOf htemplate generator records
  rw [hrender] at hrendering
  refine ⟨error, ?_, herror, ?_⟩ <;>
    · rw [run_generate_silently hload, run_emitSource, hrendering]
      rfl

/-- A run writes what its rendering gives, and nothing else changes. -/
theorem writesSource_of_render (htemplate : tree.textOf paths.template = .ok source) {text : Text}
    (hrender : renderRecords generator source records = .ok text)
    (hwritable : ∃ location, tree.target paths.output = .ok location) :
    WritesSource tree paths records.length text
      ((generate generator table paths none : StateM FileTree Generation).run tree) := by
  have hrendering := FileTree.rendering_of_textOf htemplate generator records
  rw [hrender] at hrendering
  have hmapped : Except.mapError Failure.template (.ok text : Except Error Text) = .ok text := rfl
  obtain ⟨location, hlocation⟩ := hwritable
  have hwrite : tree.write paths.output (utf8 text) =
      .ok (tree.put location (.file (utf8 text))) := by
    rw [FileTree.write, hlocation]
    rfl
  have hsink : Sink.writeTo none text = (none, true) := rfl
  rw [run_generate_silently hload, run_emitSource, hrendering]
  simp only [hmapped, hsink, hwrite]
  exact ⟨rfl, FileTree.written_of_write hwrite⟩

end Runs

/-- The variable of each generator is an ordinary name. -/
theorem Generator.isOrdinary_templateVariable (generator : Generator) :
    isOrdinary generator.templateVariable = true := by
  cases generator <;> decide

/-- No word opens the variable of a generator, so a loop over it runs over the records. -/
theorem Generator.parse_source {texts : LoopTexts} (htexts : texts.IsPlain) {field : Text}
    (hfield : isIdentifier field = true) (generator : Generator) :
    Template.parse (texts.source generator.templateVariable field) =
      .ok (texts.template (loopHead ['i'] generator.templateVariable) field) := by
  have hnone : ∀ word ∈ words, ¬ word.1 <+: generator.templateVariable := by
    cases generator <;> decide
  obtain ⟨read, hover, hparse⟩ :=
    texts.exists_parse htexts generator.isOrdinary_templateVariable hfield
  cases hover with
  | named _ => exact hparse
  | reversed hword heq => exact absurd (heq ▸ List.prefix_append _ _) (hnone _ hword)
  | fault hword _ heq _ => exact absurd (heq ▸ List.prefix_append _ _) (hnone _ hword)

section Records

variable {texts : LoopTexts} (htexts : texts.IsPlain) {field : Text}
  (hfield : isIdentifier field = true) (generator : Generator) {records : List Record}

include htexts hfield

/-- A line is rendered for each record that has the field. The loop is over the variable of the
generator, so the rendering cannot fail at the tag. -/
theorem renderRecords_exposed (h : ∀ record ∈ records, field ∈ record.map Prod.fst) :
    renderRecords generator (texts.source generator.templateVariable field) records =
      .ok (texts.head ++
        (records.flatMap (fun record => texts.line (shownField field record)) ++ texts.tail)) := by
  have hmembers : ∀ item ∈ records.map Value.ofRecord, ∃ value,
      item.member? (.text field) = some value ∧
        value.display = ((item.member? (.text field)).map Value.display).getD [] := by
    intro item hitem
    obtain ⟨record, hrecord, rfl⟩ := List.mem_map.1 hitem
    obtain ⟨content, hcontent⟩ := exists_lookup (h record hrecord)
    exact ⟨_, member?_ofRecord hcontent, (getD_member? hcontent).symm⟩
  have hlines : (records.map Value.ofRecord).flatMap (fun item =>
      texts.line (((item.member? (.text field)).map Value.display).getD [])) =
        records.flatMap fun record => texts.line (shownField field record) := by
    rw [List.flatMap_map, List.flatMap_def, List.flatMap_def]
    refine congrArg List.flatten (List.map_congr_left fun record hrecord => ?_)
    obtain ⟨content, hcontent⟩ := exists_lookup (h record hrecord)
    rw [getD_member? hcontent, display_ofContent, shownField, hcontent]
    rfl
  have hrenders := texts.renders_template (Layout.lookup_scopeOf generator.templateVariable _)
    hmembers
  rw [hlines] at hrenders
  exact renderText_of_renders (generator.parse_source htexts hfield) hrenders

/-- The first record without the field is the end of the rendering. -/
theorem renderRecords_hidden {record : Record} (h : field ∉ record.map Prod.fst)
    (hsize : field ≠ "size".toList) (records : List Record) :
    renderRecords generator (texts.source generator.templateVariable field) (record :: records) =
      .error .unknownVariable :=
  renderText_of_breaks (generator.parse_source htexts hfield)
    (texts.breaks_template (Layout.lookup_scopeOf generator.templateVariable _)
      (member?_ofRecord_eq_none h hsize))

end Records

/-- **A run fails where it comes to an undefined name,** and then leaves the files as they are. The
template loops over a name and shows a field of each item.

* For the generator's variable and a field of its records, a line is written for each record.
* For another field the run fails with the first record, and without records there is no line.
* For another variable the run fails, with records or without.
* A silent name does not fail: there is no line, with records or without. -/
theorem generate_loop {generator : Generator} {table : Text} {records : List Record}
    (hload : generator.load table = .ok records) {texts : LoopTexts} (htexts : texts.IsPlain)
    {name field : Text} (hname : isOrdinary name = true) (hfield : isIdentifier field = true)
    {paths : Paths} {tree : FileTree}
    (htemplate : tree.textOf paths.template = .ok (texts.source name field))
    (hwritable : ∃ location, tree.target paths.output = .ok location) :
    let run := (generate generator table paths none : StateM FileTree Generation).run tree
    (name = generator.templateVariable → field ∈ generator.fieldNames →
      WritesSource tree paths records.length (texts.head ++
        (records.flatMap (fun record => texts.line (shownField field record)) ++ texts.tail)) run) ∧
    (name = generator.templateVariable → field ∉ generator.fieldNames → field ≠ "size".toList →
      (records ≠ [] → FailsInTemplate tree run) ∧
      (records = [] → WritesSource tree paths 0 (texts.head ++ texts.tail) run)) ∧
    (name ≠ generator.templateVariable → name ∉ silentNames → FailsInTemplate tree run) ∧
    (name ∈ silentNames →
      WritesSource tree paths records.length (texts.head ++ texts.tail) run) := by
  have hnames := generator.names_of_load hload
  refine ⟨?_, ?_, fun hne hsilent => ?_, fun hsilent => ?_⟩
  · rintro rfl hexposed
    have hrender := renderRecords_exposed htexts hfield generator
      fun record hrecord => (hnames record hrecord).symm ▸ hexposed
    exact writesSource_of_render hload htemplate hrender hwritable
  · rintro rfl hhidden hsize
    cases records with
    | nil =>
      have hnone : ∀ record ∈ ([] : List Record), field ∈ record.map Prod.fst := nofun
      have hrender := renderRecords_exposed htexts hfield generator hnone
      exact ⟨fun h => absurd rfl h, fun _ =>
        writesSource_of_render hload htemplate hrender hwritable⟩
    | cons record records =>
      have hfirst := hnames record List.mem_cons_self
      have hrender := renderRecords_hidden htexts hfield generator (hfirst ▸ hhidden) hsize records
      exact ⟨fun _ => failsInTemplate_of_render hload htemplate hrender rfl, nofun⟩
  · obtain ⟨error, hrender, herror⟩ := renderText_undefined htexts hfield hname hsilent hne
      (records.map Value.ofRecord)
    exact failsInTemplate_of_render hload htemplate hrender herror
  · have hrender := renderText_silent htexts hfield hsilent generator.templateVariable
      (records.map Value.ofRecord)
    exact writesSource_of_render hload htemplate hrender hwritable

/-- A working directory with a template of one loop. -/
def filesWithLoop (name field : Text) : FileTree := ⟨[
  (["home".toList], .directory),
  (["home".toList, "work".toList], .directory),
  (["home".toList, "work".toList, ['t']],
    .file (utf8 (LoopTexts.source ⟨['P'], ['A'], ['B'], ['Q']⟩ name field)))]⟩

/-- A field that records do not have fails the run on a table with a record. -/
theorem generate_loop_nofield :
    FailsInTemplate (filesWithLoop "interfaces".toList "nofield".toList)
      ((generate .referencePoints "h\nUu\tp\te\td\tr\n".toList ⟨[], ['t'], ['o']⟩ none :
          StateM FileTree Generation).run
        (filesWithLoop "interfaces".toList "nofield".toList)) := by
  have hload : Generator.referencePoints.load "h\nUu\tp\te\td\tr\n".toList =
      .ok [ReferencePoint.expose ⟨"Uu".toList, [['p']], [['e']], ['d'], [['r']]⟩] := by
    decide +kernel
  have hplain : LoopTexts.IsPlain ⟨['P'], ['A'], ['B'], ['Q']⟩ :=
    ⟨by decide, by decide, by decide, by decide⟩
  have htemplate : (filesWithLoop "interfaces".toList "nofield".toList).textOf
      (⟨[], ['t'], ['o']⟩ : Paths).template =
        .ok (LoopTexts.source ⟨['P'], ['A'], ['B'], ['Q']⟩ "interfaces".toList "nofield".toList) := by
    decide +kernel
  have hrun := generate_loop hload hplain (by decide) (by decide) htemplate
    ⟨["home".toList, "work".toList, ['o']], by decide +kernel⟩
  exact (hrun.2.1 rfl (by decide) (by decide)).1 (List.cons_ne_nil _ _)

/-- The word `nil` is read off the name `nilreversed`, and what is left reverses the loop. -/
theorem generate_nilreversed :
    isOrdinary "nilreversed".toList = true ∧
      "nilreversed".toList ≠ Generator.referencePoints.templateVariable ∧
      ((generate .referencePoints "h\nUu\tp\te\td\tr\n".toList ⟨[], ['t'], ['o']⟩ none :
          StateM FileTree Generation).run
        (filesWithLoop "nilreversed".toList "nofield".toList)).1.outcome = .ok 1 ∧
      ((generate .referencePoints "h\nUu\tp\te\td\tr\n".toList ⟨[], ['t'], ['o']⟩ none :
          StateM FileTree Generation).run
        (filesWithLoop "nilreversed".toList "nofield".toList)).2.textOf ['o'] =
          .ok "PQ".toList := by
  decide +kernel

end TableCodegen
