import TableCodegen.Liquid.Render
import TableCodegen.Proofs.TemplateScripts

/-!
# Rendering scripts

What each form of a script adds to the output, given what it needs from the scope. A loop over an
array writes its body once for each item, in their order; `forloop.last` holds for the last item
alone (`value?_last`).
-/

namespace TableCodegen
namespace Liquid

/-- A template is rendered in a scope to a text, without an assignment or an interrupt. -/
def Renders (scope : Scope) (template : Template) (t : Text) : Prop :=
  template.renderIn scope.globals scope.loops scope.assigned = .ok ⟨t, scope.assigned, none⟩

/-- A scope inside a loop at item `index` of `count`. -/
def Scope.inLoop (scope : Scope) (name : Text) (count index : Nat) (item : Value) : Scope :=
  { scope with
    loops := loopBindings name ((scope.lookup loopName).getD .nil) count index item :: scope.loops }

section Pieces

variable {scope : Scope} {next : Template} {s t : Text}

/-- The end of a template adds nothing. -/
theorem renders_done (scope : Scope) : Renders scope .done [] := rfl

/-- Text in front of what is rendered, with the variables as they were. -/
theorem Renders.andThen (h : Renders scope next t) (s : Text) :
    Rendered.andThen ⟨s, scope.assigned, none⟩ (next.renderIn scope.globals scope.loops) =
      .ok ⟨s ++ t, scope.assigned, none⟩ := by
  rw [Renders] at h
  simp only [Rendered.andThen, h]
  rfl

/-- A text is rendered as itself. -/
theorem Renders.text (h : Renders scope next t) (s : Text) :
    Renders scope (.text s next) (s ++ t) := by
  rw [Renders, Template.renderIn]
  exact h.andThen s

/-- An output is rendered as its value is displayed. -/
theorem Renders.output (h : Renders scope next t) {operand : Operand} {value : Value}
    (hvalue : operand.value? scope = some value) :
    Renders scope (.output ⟨operand, []⟩ next) (value.display ++ t) := by
  have hexpression : Expression.value scope ⟨operand, []⟩ = .ok value := by
    rw [Expression.value, Operand.value, hvalue]
    rfl
  rw [Renders, Template.renderIn, hexpression]
  exact h.andThen value.display

/-- **A branch is rendered as the part that its condition chooses.** -/
theorem Renders.branch (h : Renders scope next t) {condition : Condition} {yes no : Template}
    {b : Bool} (hcondition : condition.holds scope = .ok b)
    (hpart : Renders scope (if b then yes else no) s) :
    Renders scope (.branch condition yes no next) (s ++ t) := by
  rw [Renders, Template.renderIn, hcondition]
  cases b with
  | true =>
    have hyes : yes.renderIn scope.globals scope.loops scope.assigned = _ := hpart
    simp only [bind, Except.bind, if_true, hyes]
    exact h.andThen s
  | false =>
    have hno : no.renderIn scope.globals scope.loops scope.assigned = _ := hpart
    simp only [bind, Except.bind, Bool.false_eq_true, if_false, hno]
    exact h.andThen s

/-- A body that leaves the assigned variables alone is rendered for one item after the other. It
neither breaks nor goes on early, so the loop writes what all its rounds write. -/
theorem renderItems_eq (body : Nat → Value → Bindings → Except Error Rendered)
    (line : Nat → Value → Text) {assigned : Bindings} {items : List Value} {first : Nat}
    (h : ∀ index item, items[index]? = some item →
      body (first + index) item assigned = .ok ⟨line (first + index) item, assigned, none⟩) :
    renderItems body first items assigned =
      .ok ⟨(items.mapIdx fun index item => line (first + index) item).flatten, assigned, none⟩ := by
  induction items generalizing first with
  | nil => rfl
  | cons item items ih =>
    have hfirst := h 0 item rfl
    have hmore : ∀ index item, items[index]? = some item →
        body (first + 1 + index) item assigned =
          .ok ⟨line (first + 1 + index) item, assigned, none⟩ := by
      intro index item hitem
      rw [Nat.add_assoc, Nat.add_comm 1]
      exact h (index + 1) item hitem
    have hrest := ih hmore
    rw [Nat.add_zero] at hfirst
    simp only [Nat.add_assoc, Nat.add_comm 1] at hrest
    rw [renderItems, hfirst]
    simp only [bind, Except.bind, hrest, List.mapIdx_cons, List.flatten_cons, Nat.add_zero]
    rfl

/-- A loop without limit and offset takes all items. -/
theorem resize_length (items : List Value) : LoopHead.resize items.length items = items := by
  rw [LoopHead.resize, List.take_length, Nat.sub_self, List.replicate_zero, List.append_nil]

/-- A loop over an array runs over its items. -/
theorem items_loopHead {name itemsName : Text} {items : List Value}
    (h : scope.lookup itemsName = some (.array items)) :
    LoopHead.items scope (loopHead name itemsName) = .ok items := by
  have hall : LoopHead.allItems scope (.items (.named itemsName)) = .ok items := by
    rw [LoopHead.allItems, Operand.value, Operand.value?, h]
    rfl
  simp only [LoopHead.items, loopHead, hall]
  exact congrArg Except.ok (resize_length items)

/-- **A loop over an array** writes its body for each item, in a scope in which the item and the
loop have their names, and then what is behind the loop. -/
theorem Renders.loop (h : Renders scope next t) {name itemsName : Text} {items : List Value}
    {body : Template} {line : Nat → Value → Text}
    (hitems : scope.lookup itemsName = some (.array items))
    (hbody : ∀ index item, items[index]? = some item →
      Renders (scope.inLoop name items.length index item) body (line index item)) :
    Renders scope (.loop (loopHead name itemsName) body .done next)
      ((items.mapIdx line).flatten ++ t) := by
  have hlines : ∀ index item, items[index]? = some item →
      body.renderIn scope.globals (loopBindings name ((scope.lookup loopName).getD .nil)
        items.length (0 + index) item :: scope.loops) scope.assigned =
      .ok ⟨line (0 + index) item, scope.assigned, none⟩ := by
    intro index item hitem
    rw [Nat.zero_add]
    exact hbody index item hitem
  have hrun := renderItems_eq (fun index item => body.renderIn scope.globals
    (loopBindings name ((scope.lookup loopName).getD .nil) items.length index item ::
      scope.loops)) line hlines
  simp only [Nat.zero_add] at hrun
  rw [Renders, Template.renderIn, items_loopHead hitems]
  cases items with
  | nil => exact h.andThen []
  | cons item items =>
    simp only [bind, Except.bind, List.isEmpty_cons, Bool.false_eq_true, if_false]
    rw [show (loopHead name itemsName).name = name from rfl, hrun]
    exact h.andThen _

end Pieces

/-! ### Enumerations -/

/-- The member of a loop's facts that tells the last item. -/
def lastName : Text := ['l', 'a', 's', 't']

/-- The member of an array that tells the number of its items. -/
def sizeName : Text := ['s', 'i', 'z', 'e']

/-- `forloop.last` holds for the last item and for no other. -/
theorem value?_last {name : Text} (hname : name ≠ loopName) (scope : Scope) (count index : Nat)
    (item : Value) :
    (Operand.member (.named loopName) (.literal (.text lastName))).value?
        (scope.inLoop name count index item) = some (.bool (index + 1 == count)) := by
  have hfacts : (scope.inLoop name count index item).lookup loopName =
      some (loopFacts ((scope.lookup loopName).getD .nil) count index) := by
    rw [Scope.lookup, Scope.inLoop, List.cons_append, Scope.lookupIn, loopBindings]
    simp [List.lookup_cons, beq_eq_false_iff_ne.2 hname.symm]
  simp only [Operand.value?, hfacts]
  rfl

/-- The innermost loop has its item under the name that it gives it, whatever names there are
outside. -/
theorem lookup_inLoop (scope : Scope) (name : Text) (count index : Nat) (item : Value) :
    (scope.inLoop name count index item).lookup name = some item := by
  simp [Scope.lookup, Scope.inLoop, Scope.lookupIn, loopBindings]

/-- Whole numbers are the same as values if they are the same. -/
theorem same_int (m n : Int) : Value.same (.int m) (.int n) = (m == n) := by
  simp [Value.same, Value.sameScalar]

/-- An array has the size zero when it is empty. -/
theorem holds_isZero_size {scope : Scope} {itemsName : Text} {items : List Value}
    (h : scope.lookup itemsName = some (.array items)) :
    (Test.isZero ⟨itemsName, some sizeName⟩).condition.holds scope = .ok items.isEmpty := by
  have hsize : (Operand.member (.named itemsName) (.literal (.text sizeName))).value? scope =
      some (.int items.length) := by
    simp only [Operand.value?, h]
    rfl
  have hsame : Value.same (.int items.length) (.int 0) = items.isEmpty := by
    cases items with
    | nil => rfl
    | cons item items =>
      rw [same_int, List.isEmpty_cons, beq_eq_false_iff_ne, List.length_cons]
      omega
  have hleft : Operand.value scope (.member (.named itemsName) (.literal (.text sizeName))) =
      .ok (.int items.length) := by rw [Operand.value, hsize]
  rw [← hsame, Test.condition, Path.operand, Condition.holds, hleft]
  rfl

/-- A line of an enumeration: an item's fields with texts in front of them, and a closing text. -/
structure Layout where
  item : Text
  items : Text
  fields : List (Text × Text)
  closing : Text

namespace Layout

/-- The separator behind a constant and the end of its line. -/
def separator : Script :=
  .choose (.holds ⟨loopName, some lastName⟩) (.text [';'] .done) (.text [','] .done)
    (.text ['\n'] .done)

/-- The fields of a loop item, then a closing text and what follows. -/
def fieldsBefore (item closing : Text) (next : Script) : List (Text × Text) → Script
  | [] => .text closing next
  | (front, field) :: fields =>
    .text front (.output ⟨item, some field⟩ (fieldsBefore item closing next fields))

/-- The part of the script from its first tag to its last. -/
def core (layout : Layout) : Script :=
  .loop layout.item layout.items
    (fieldsBefore layout.item layout.closing separator layout.fields)
    (.when (.isZero ⟨layout.items, some sizeName⟩) (.text "    ;\n".toList .done) .done)

/-- A script that writes one line for each item between a head and a tail. -/
def script (layout : Layout) (head tail : Text) : Script :=
  .text head (.loop layout.item layout.items
    (fieldsBefore layout.item layout.closing separator layout.fields)
    (.when (.isZero ⟨layout.items, some sizeName⟩) (.text "    ;\n".toList .done)
      (.text tail .done)))

/-- The constant that an item becomes. -/
def constant (layout : Layout) (item : Value) : Text :=
  (layout.fields.flatMap fun field =>
    field.1 ++ ((item.member? (.text field.2)).map Value.display).getD []) ++ layout.closing

end Layout

/-- Lines of an enumeration: each constant is ended by a comma, the last one by a semicolon. -/
def constantLines (constants : List Text) : Text :=
  (constants.mapIdx fun index constant =>
    constant ++ (if index + 1 = constants.length then [';'] else [',']) ++ ['\n']).flatten

/-- The body of an enumeration, which has a semicolon without constants too. -/
def enumBody (constants : List Text) : Text :=
  constantLines constants ++ if constants = [] then "    ;\n".toList else []

namespace Layout

/-- The written form of a layout is its head, what depends on the layout, and its tail. -/
theorem write_script (layout : Layout) (head tail : Text) :
    Markup.write (layout.script head tail).markup =
      head ++ (Markup.write layout.core.markup ++ tail) := by
  simp only [script, core, Script.markup, Markup.write, Markup.source, List.flatMap_cons,
    List.flatMap_append, List.flatMap_nil, List.append_assoc, List.append_nil]

/-- The first tag of the script starts a loop, and the last one ends a branch. -/
theorem exists_core (layout : Layout) : ∃ inner, Markup.write layout.core.markup =
    tagStart ++ [' '] ++ forTag ++ inner ++
      (tagStart ++ [' '] ++ endTag ifTag ++ [' '] ++ tagStop) := by
  refine ⟨Word.writeAll (loopWords layout.item layout.items) ++ [' '] ++ tagStop ++
    (Markup.write (fieldsBefore layout.item layout.closing separator layout.fields).markup ++
      (Markup.source (.tag (endTag forTag) []) ++
        (Markup.source (.tag ifTag (Test.isZero ⟨layout.items, some sizeName⟩).words) ++
          "    ;\n".toList))), ?_⟩
  simp only [core, Script.markup, Markup.write, Markup.source, tagStart, tagStop,
    Word.writeAll, List.flatMap_cons, List.flatMap_append, List.flatMap_nil, List.append_assoc,
    List.append_nil, List.cons_append, List.nil_append]

/-- The script can be read if its parts can. -/
theorem isProper_script {layout : Layout} (hcore : layout.core.isProper = true) {head tail : Text}
    (hhead : isQuiet head = true ∧ head ≠ []) (htail : isQuiet tail = true ∧ tail ≠ []) :
    (layout.script head tail).isProper = true := by
  simp only [core, Script.isProper, Bool.and_eq_true] at hcore
  simp only [script, Script.isProper, Bool.and_eq_true, hhead, htail, hcore]
  simp [Script.startsWithText, hhead.2, htail.2]

/-- What stands behind an item: a comma, or a semicolon behind the last one, and the end of the
line. -/
theorem renders_separator {name : Text} (hname : name ≠ loopName) (scope : Scope)
    (count index : Nat) (item : Value) :
    Renders (scope.inLoop name count index item) separator.template
      ((if index + 1 = count then [';'] else [',']) ++ ['\n']) := by
  have hlast := value?_last hname scope count index item
  have hcondition : (Test.holds ⟨loopName, some lastName⟩).condition.holds
      (scope.inLoop name count index item) = .ok (index + 1 == count) := by
    rw [Test.condition, Path.operand, Condition.holds, hlast]
    rfl
  have hend : Renders (scope.inLoop name count index item) (.text ['\n'] .done) ['\n'] :=
    (renders_done _).text ['\n']
  refine hend.branch hcondition ?_
  by_cases hindex : index + 1 = count
  · rw [if_pos hindex, if_pos (beq_iff_eq.2 hindex)]
    exact (renders_done _).text [';']
  · rw [if_neg hindex, if_neg (by simpa using hindex)]
    exact (renders_done _).text [',']

/-- The fields of an item are written one after the other, each behind the text in front of it. None
of them may be missing, as an output of a missing field fails. -/
theorem renders_fieldsBefore {scope : Scope} {itemName closing : Text} {item : Value}
    (hitem : scope.lookup itemName = some item) {next : Script} {t : Text}
    (hnext : Renders scope next.template t) {fields : List (Text × Text)}
    (hfields : ∀ field ∈ fields, (item.member? (.text field.2)).isSome = true) :
    Renders scope (fieldsBefore itemName closing next fields).template
      ((constant ⟨itemName, [], fields, closing⟩ item) ++ t) := by
  induction fields with
  | nil => exact hnext.text closing
  | cons field fields ih =>
    obtain ⟨hfield, hfields⟩ := List.forall_mem_cons.1 hfields
    obtain ⟨value, hvalue⟩ := Option.isSome_iff_exists.1 hfield
    have hoperand : (Operand.member (.named itemName) (.literal (.text field.2))).value? scope =
        some value := by
      simp only [Operand.value?, hitem, hvalue]
    have hrest := ((ih hfields).output hoperand).text field.1
    simp only [constant, List.flatMap_cons, hvalue, Option.map_some, Option.getD_some,
      List.append_assoc] at hrest ⊢
    exact hrest

/-- The lines written in a loop are those of the constants. -/
theorem flatten_mapIdx_constant (layout : Layout) (items : List Value) :
    (items.mapIdx fun index item => layout.constant item ++
      ((if index + 1 = items.length then [';'] else [',']) ++ ['\n'])).flatten =
      constantLines (items.map layout.constant) := by
  rw [constantLines]
  congr 1
  refine List.ext_getElem? fun index => ?_
  simp only [List.getElem?_mapIdx, List.getElem?_map, List.length_map, Option.map_map,
    Function.comp_def, List.append_assoc]

/-- A scope with an array under one name and nothing else. -/
def scopeOf (name : Text) (items : List Value) : Scope := ⟨[], [], [(name, .array items)]⟩

/-- The records are defined under the name of the generator's variable. -/
theorem lookup_scopeOf (name : Text) (items : List Value) :
    (scopeOf name items).lookup name = some (.array items) := by
  simp [Scope.lookup, Scope.lookupIn, scopeOf]

/-- The line for an enumeration without constants is written when there are no items. -/
theorem renders_emptyLine (itemsName tail : Text) (items : List Value) :
    Renders (scopeOf itemsName items)
      (Script.when (.isZero ⟨itemsName, some sizeName⟩) (.text "    ;\n".toList .done)
        (.text tail .done)).template
      ((if items = [] then "    ;\n".toList else []) ++ tail) := by
  have hitems := lookup_scopeOf itemsName items
  have htail := (renders_done (scopeOf itemsName items)).text tail
  rw [List.append_nil] at htail
  refine htail.branch (holds_isZero_size hitems) ?_
  cases items with
  | nil => exact (renders_done _).text _
  | cons item items => exact renders_done _

/-- **A table becomes an enumeration:** the head, the constants, each on its line, and the tail. The
item must not have the name of the loop, which it would hide from the layout. -/
theorem renderText_script {layout : Layout} {head tail : Text}
    (hproper : (layout.script head tail).isProper = true) (hname : layout.item ≠ loopName)
    {items : List Value} (hfields : ∀ item ∈ items, ∀ field ∈ layout.fields,
      (item.member? (.text field.2)).isSome = true) :
    renderText (Markup.write (layout.script head tail).markup) layout.items items =
      .ok (head ++ enumBody (items.map layout.constant) ++ tail) := by
  have hitems := lookup_scopeOf layout.items items
  have hbody : ∀ index item, items[index]? = some item →
      Renders ((scopeOf layout.items items).inLoop layout.item items.length index item)
        (fieldsBefore layout.item layout.closing separator layout.fields).template
        (layout.constant item ++
          ((if index + 1 = items.length then [';'] else [',']) ++ ['\n'])) := by
    intro index item hitem
    exact renders_fieldsBefore (lookup_inLoop _ _ _ _ _) (renders_separator hname _ _ _ _)
      (hfields item (List.mem_of_getElem? hitem))
  have hlines := (renders_emptyLine layout.items tail items).loop hitems hbody
  have hrender : (layout.script head tail).template.renderIn [(layout.items, .array items)] [] [] =
      .ok ⟨_, [], none⟩ := hlines.text head
  have hnil : items.map layout.constant = [] ↔ items = [] := List.map_eq_nil_iff
  rw [renderText, Script.parse_write hproper]
  simp only [bind, Except.bind, Template.render, hrender, Except.map, flatten_mapIdx_constant,
    enumBody, hnil, List.append_assoc]

end Layout

end Liquid
end TableCodegen
