import TableCodegen.Generate
import TableCodegen.StockTemplate
import TableCodegen.Proofs.TemplateRendering

/-!
# What the stock templates render

The stock template of a generator is a written script: a head, a loop with one line for each record,
a line for the table without records, and a tail. So it renders every list of records, whatever
their fields hold, to an enumeration with one constant for each record.
-/

namespace TableCodegen

open Liquid

namespace Text

/-- No tag opens in a quiet text. -/
theorem occursIn_tagStart {t : Text} (h : isQuiet t = true) : occursIn tagStart t = false := by
  induction t with
  | nil => rfl
  | cons c cs ih =>
    have hopens : tagStart.isPrefixOf (c :: cs) = false := by
      cases cs with
      | nil => exact Bool.and_false _
      | cons d ds =>
        rw [isQuiet, Bool.and_eq_true] at h
        have hd : c ≠ '\x7b' ∨ d ≠ '\x7b' ∧ d ≠ '%' := by simpa using h.1
        rcases hd with hc | ⟨-, hd⟩
        · simp [tagStart, List.isPrefixOf, Ne.symm hc]
        · simp [tagStart, List.isPrefixOf, Ne.symm hd]
    rw [occursIn, hopens, ih (isQuiet_of_cons h)]
    rfl

end Text

namespace StockTemplate

/-- The lines of a generator's template. -/
def lines : Generator → List String
  | .referencePoints => referencePointLines
  | .informationElements => informationElementLines

/-- The number of lines in front of the loop. -/
def loopLine : Generator → Nat
  | .referencePoints => 10
  | .informationElements => 9

/-- The layout of the constants of reference points. -/
def referencePointLayout : Layout where
  item := ['i']
  items := "interfaces".toList
  fields := [
    ("    ".toList, "name".toList),
    ("(".toList, "protocol".toList),
    (", ".toList, "elements".toList),
    (", ".toList, "description".toList),
    (", ".toList, "references".toList)]
  closing := ")".toList

/-- The layout of the constants of information elements. -/
def informationElementLayout : Layout where
  item := ['e']
  items := "elements".toList
  fields := [
    ("    ".toList, "message".toList),
    ("(".toList, "type".toList),
    (", ".toList, "specification".toList),
    (", ".toList, "section".toList),
    (", ".toList, "initial".toList),
    (", ".toList, "triggered".toList),
    (", \"".toList, "interfaces".toList)]
  closing := "\")".toList

/-- How a record is written as a constant. -/
def layout : Generator → Layout
  | .referencePoints => referencePointLayout
  | .informationElements => informationElementLayout

/-- The text in front of the loop. -/
def head (generator : Generator) : Text := ofLines ((lines generator).take (loopLine generator))

/-- The text behind the last tag. -/
def tail (generator : Generator) : Text :=
  '\n' :: ofLines ((lines generator).drop (loopLine generator + 3))

/-- The text of some lines and further lines is the text of the one in front of the text of the
others. -/
theorem ofLines_append (before behind : List String) :
    ofLines (before ++ behind) = ofLines before ++ ofLines behind := by
  rw [ofLines, ofLines, ofLines, List.flatMap_append]

/-- Lines are quiet when each of them is. -/
theorem isQuiet_ofLines {lines : List String}
    (h : ∀ line ∈ lines, isQuiet (line.toList.map brace ++ ['\n']) = true) :
    isQuiet (ofLines lines) = true := by
  induction lines with
  | nil => rfl
  | cons line lines ih =>
    obtain ⟨hline, hlines⟩ := List.forall_mem_cons.1 h
    rw [ofLines, List.flatMap_cons]
    exact isQuiet_append hline (ih hlines)

/-- No delimiter opens outside the three lines of the loop. -/
theorem isQuiet_line (generator : Generator) :
    ∀ line ∈ (lines generator).take (loopLine generator) ++
      (lines generator).drop (loopLine generator + 3),
        isQuiet (line.toList.map brace ++ ['\n']) = true := by
  cases generator with
  | referencePoints =>
    simp only [lines, loopLine, referencePointLines, List.take_succ_cons, List.take_zero,
      List.drop_succ_cons, List.drop_zero, List.cons_append, List.nil_append,
      List.forall_mem_cons]
    and_intros
    all_goals first | rw [String.toList_ofList]; rfl | exact nofun
  | informationElements =>
    simp only [lines, loopLine, informationElementLines, List.take_succ_cons, List.take_zero,
      List.drop_succ_cons, List.drop_zero, List.cons_append, List.nil_append,
      List.forall_mem_cons]
    and_intros
    all_goals first | rw [String.toList_ofList]; rfl | exact nofun

/-- No delimiter opens in the head of either template. It is Java source, with single braces. -/
theorem isQuiet_head (generator : Generator) : isQuiet (head generator) = true :=
  isQuiet_ofLines fun line hline => isQuiet_line generator line (List.mem_append_left _ hline)

/-- No delimiter opens in the tail either. -/
theorem isQuiet_tail (generator : Generator) : isQuiet (tail generator) = true := by
  rw [tail, ← List.singleton_append]
  exact isQuiet_append rfl (isQuiet_ofLines fun line hline =>
    isQuiet_line generator line (List.mem_append_right _ hline))

/-- Both templates have something in front of their loop. -/
theorem head_ne_nil (generator : Generator) : head generator ≠ [] := by
  cases generator with
  | referencePoints => simp [head, lines, loopLine, referencePointLines, ofLines]
  | informationElements => simp [head, lines, loopLine, informationElementLines, ofLines]

/-- The three lines from the loop on are the written form of the layout. -/
theorem ofLines_core (generator : Generator) :
    ofLines (((lines generator).drop (loopLine generator)).take 3) =
      Markup.write (layout generator).core.markup ++ ['\n'] := by
  cases generator with
  | referencePoints =>
    simp only [lines, loopLine, referencePointLines, List.drop_succ_cons, List.drop_zero,
      List.take_succ_cons, List.take_zero, ofLines, List.flatMap_cons, List.flatMap_nil]
    repeat rw [String.toList_ofList]
    decide +kernel
  | informationElements =>
    simp only [lines, loopLine, informationElementLines, List.drop_succ_cons, List.drop_zero,
      List.take_succ_cons, List.take_zero, ofLines, List.flatMap_cons, List.flatMap_nil]
    repeat rw [String.toList_ofList]
    decide +kernel

/-- **A stock template is a written script.** -/
theorem stockTemplate_eq (generator : Generator) :
    generator.stockTemplate =
      Markup.write ((layout generator).script (head generator) (tail generator)).markup := by
  have hlines : generator.stockTemplate = ofLines (lines generator) := by
    cases generator <;> rfl
  have hsplit : lines generator = (lines generator).take (loopLine generator) ++
      (((lines generator).drop (loopLine generator)).take 3 ++
        (lines generator).drop (loopLine generator + 3)) := by
    rw [← List.drop_drop, List.take_append_drop, List.take_append_drop]
  rw [hlines, hsplit, ofLines_append, ofLines_append, ofLines_core, Layout.write_script,
    List.append_assoc]
  rfl

/-- **The stock templates are written scripts,** so that reading them is settled by what has been
shown of scripts. -/
theorem isProper_script (generator : Generator) :
    ((layout generator).script (head generator) (tail generator)).isProper = true := by
  have hcore : (layout generator).core.isProper = true := by
    cases generator <;> decide +kernel
  exact Layout.isProper_script hcore ⟨isQuiet_head generator, head_ne_nil generator⟩
    ⟨isQuiet_tail generator, List.cons_ne_nil _ _⟩

/-- A generator's variable is the one that its layout runs over. -/
theorem templateVariable_eq (generator : Generator) :
    generator.templateVariable = (layout generator).items := by
  cases generator with
  | referencePoints =>
    unfold Generator.templateVariable layout referencePointLayout
    exact Eq.refl _
  | informationElements =>
    unfold Generator.templateVariable layout informationElementLayout
    exact Eq.refl _

end StockTemplate

/-- A reference point as a constant of the enumeration. -/
def ReferencePoint.constant (point : ReferencePoint) : Text :=
  "    ".toList ++ point.name ++ "(".toList ++ Java.arrayOf point.protocol ++ ", ".toList ++
    Java.arrayOf point.elements ++ ", ".toList ++ Java.quote point.description ++ ", ".toList ++
    Java.arrayOf point.references ++ ")".toList

/-- A flag as it is written in the source. -/
def flagText (flag : Bool) : Text := if flag then "true".toList else "false".toList

/-- An information element as a constant of the enumeration. -/
def InformationElement.constant (element : InformationElement) : Text :=
  "    ".toList ++ element.message ++ "(".toList ++ Text.decimal element.typeCode.toNat ++
    ", ".toList ++ Java.quote element.specification ++ ", ".toList ++
    Java.quote element.sectionText ++ ", ".toList ++ flagText element.initial ++ ", ".toList ++
    flagText element.triggered ++ ", \"".toList ++ element.interfaceNames ++ "\")".toList

/-- The member of a record under the name of a field is the content of the field. Records become
objects, and an object is looked up by the text of its key. -/
theorem member?_ofRecord {record : Record} {name : Text} {content : Content}
    (h : record.lookup name = some content) :
    (Value.ofRecord record).member? (.text name) = some (.ofContent content) := by
  have hlookup : (record.map fun field => (field.1, Value.ofContent field.2)).lookup name =
      some (.ofContent content) := by
    induction record with
    | nil => cases h
    | cons field record ih =>
      obtain ⟨fieldName, fieldContent⟩ := field
      rw [List.lookup_cons] at h
      rw [List.map_cons, List.lookup_cons]
      split at h
      · rename_i heq
        obtain rfl := Option.some.inj h
        rw [heq]
      · rename_i heq
        rw [heq]
        exact ih h
  simp only [Value.ofRecord, Value.member?, Value.scalar?, hlookup]

/-- The exposed fields of a reference point. Lists and free text are Java already, and only the name
stands as it is, since it is an identifier. -/
theorem ReferencePoint.lookup_expose (point : ReferencePoint) :
    point.expose.lookup "name".toList = some (.text point.name) ∧
    point.expose.lookup "protocol".toList = some (.text (Java.arrayOf point.protocol)) ∧
    point.expose.lookup "elements".toList = some (.text (Java.arrayOf point.elements)) ∧
    point.expose.lookup "description".toList = some (.text (Java.quote point.description)) ∧
    point.expose.lookup "references".toList = some (.text (Java.arrayOf point.references)) := by
  simp [ReferencePoint.expose, List.lookup_cons]

/-- The exposed fields of an information element. The message stands as it is, in the name of a
constant. -/
theorem InformationElement.lookup_expose (element : InformationElement) :
    element.expose.lookup "message".toList = some (.text element.message) ∧
    element.expose.lookup "type".toList = some (.number element.typeCode.toNat) ∧
    element.expose.lookup "specification".toList =
      some (.text (Java.quote element.specification)) ∧
    element.expose.lookup "section".toList = some (.text (Java.quote element.sectionText)) ∧
    element.expose.lookup "initial".toList = some (.flag element.initial) ∧
    element.expose.lookup "triggered".toList = some (.flag element.triggered) ∧
    element.expose.lookup "interfaces".toList = some (.text element.interfaceNames) := by
  simp [InformationElement.expose, List.lookup_cons]

/-- The member that a layout asks for is written as the field's content. -/
theorem getD_member? {record : Record} {name : Text} {content : Content}
    (h : record.lookup name = some content) :
    (((Value.ofRecord record).member? (.text name)).map Value.display).getD [] =
      (Value.ofContent content).display := by
  rw [member?_ofRecord h]
  rfl

/-- The line of the template for a reference point is its constant. -/
theorem ReferencePoint.layout_constant (point : ReferencePoint) :
    StockTemplate.referencePointLayout.constant (.ofRecord point.expose) = point.constant := by
  obtain ⟨hname, hprotocol, helements, hdescription, hreferences⟩ := point.lookup_expose
  unfold Layout.constant StockTemplate.referencePointLayout ReferencePoint.constant
  simp only [List.flatMap_cons, List.flatMap_nil]
  rw [getD_member? hname, getD_member? hprotocol, getD_member? helements,
    getD_member? hdescription, getD_member? hreferences]
  simp only [Value.ofContent, Value.display, List.append_assoc, List.nil_append]

/-- A flag is shown as its word. -/
theorem display_flag (flag : Bool) : (Value.ofContent (.flag flag)).display = flagText flag := by
  cases flag with
  | true => rfl
  | false => rfl

/-- The line of the template for an information element is its constant. -/
theorem InformationElement.layout_constant (element : InformationElement) :
    StockTemplate.informationElementLayout.constant (.ofRecord element.expose) =
      element.constant := by
  obtain ⟨hmessage, htype, hspecification, hsection, hinitial, htriggered, hinterfaces⟩ :=
    element.lookup_expose
  unfold Layout.constant StockTemplate.informationElementLayout InformationElement.constant
  simp only [List.flatMap_cons, List.flatMap_nil]
  rw [getD_member? hmessage, getD_member? htype, getD_member? hspecification,
    getD_member? hsection, getD_member? hinitial, getD_member? htriggered,
    getD_member? hinterfaces, display_flag, display_flag]
  simp only [Value.ofContent, Value.display, Text.decimalInt, List.append_assoc, List.nil_append]

/-- The fields that a layout asks for are those of every exposed record. -/
theorem ReferencePoint.isSome_member? (point : ReferencePoint) :
    ∀ field ∈ StockTemplate.referencePointLayout.fields,
      ((Value.ofRecord point.expose).member? (.text field.2)).isSome = true := by
  obtain ⟨hname, hprotocol, helements, hdescription, hreferences⟩ := point.lookup_expose
  unfold StockTemplate.referencePointLayout
  simp only [List.forall_mem_cons, member?_ofRecord hname, member?_ofRecord hprotocol,
    member?_ofRecord helements, member?_ofRecord hdescription, member?_ofRecord hreferences,
    Option.isSome_some, true_and]
  exact nofun

/-- The template asks for no field that an element does not have, so its rendering cannot fail. -/
theorem InformationElement.isSome_member? (element : InformationElement) :
    ∀ field ∈ StockTemplate.informationElementLayout.fields,
      ((Value.ofRecord element.expose).member? (.text field.2)).isSome = true := by
  obtain ⟨hmessage, htype, hspecification, hsection, hinitial, htriggered, hinterfaces⟩ :=
    element.lookup_expose
  unfold StockTemplate.informationElementLayout
  simp only [List.forall_mem_cons, member?_ofRecord hmessage, member?_ofRecord htype,
    member?_ofRecord hspecification, member?_ofRecord hsection, member?_ofRecord hinitial,
    member?_ofRecord htriggered, member?_ofRecord hinterfaces, Option.isSome_some, true_and]
  exact nofun

/-- The stock template of a generator has a loop behind its head and a branch before its tail, no
tag in either, and renders every list of records to the head, the enumeration of their constants and
the tail. -/
def Generator.RendersEnumeration {α : Type} (generator : Generator) (expose : α → Record)
    (constant : α → Text) : Prop :=
  ∃ head inner tail,
    generator.stockTemplate =
      head ++ ("\x7b% for".toList ++ inner ++ "\x7b% endif %\x7d".toList) ++ tail ∧
    Text.occursIn tagStart head = false ∧ Text.occursIn tagStart tail = false ∧
    ∀ records : List α,
      renderRecords generator generator.stockTemplate (records.map expose) =
        .ok (head ++ enumBody (records.map constant) ++ tail)

/-- A stock template renders an enumeration if its layout writes the constants and each record has
the fields that the layout names. The head and the tail are the texts around the layout, and no tag
opens in them. -/
theorem Generator.rendersEnumeration {α : Type} {generator : Generator} {expose : α → Record}
    {constant : α → Text}
    (hconstant : ∀ record, (StockTemplate.layout generator).constant (.ofRecord (expose record)) =
      constant record)
    (hfields : ∀ record, ∀ field ∈ (StockTemplate.layout generator).fields,
      ((Value.ofRecord (expose record)).member? (.text field.2)).isSome = true) :
    generator.RendersEnumeration expose constant := by
  obtain ⟨inner, hinner⟩ := (StockTemplate.layout generator).exists_core
  refine ⟨StockTemplate.head generator, inner, StockTemplate.tail generator, ?_,
    Text.occursIn_tagStart (StockTemplate.isQuiet_head generator),
    Text.occursIn_tagStart (StockTemplate.isQuiet_tail generator), fun records => ?_⟩
  · have hfor : "\x7b% for".toList = tagStart ++ [' '] ++ forTag := by decide
    have hend : "\x7b% endif %\x7d".toList =
        tagStart ++ [' '] ++ endTag ifTag ++ [' '] ++ tagStop := by decide
    rw [StockTemplate.stockTemplate_eq, Layout.write_script, hinner, hfor, hend]
    simp only [List.append_assoc]
  · have hvalues : ((records.map expose).map Value.ofRecord).map
        (StockTemplate.layout generator).constant = records.map constant := by
      rw [List.map_map, List.map_map]
      exact List.map_congr_left fun record _ => hconstant record
    rw [← hvalues, renderRecords, StockTemplate.templateVariable_eq,
      StockTemplate.stockTemplate_eq]
    refine Layout.renderText_script (StockTemplate.isProper_script generator) ?_ ?_
    · cases generator <;> decide
    · intro item hitem
      obtain ⟨record, hrecord, rfl⟩ := List.mem_map.1 hitem
      obtain ⟨record, -, rfl⟩ := List.mem_map.1 hrecord
      exact hfields record

/-- **The stock templates write well-separated enumerations,** whatever the fields of the records
hold. -/
theorem render_stockTemplate :
    Generator.referencePoints.RendersEnumeration ReferencePoint.expose ReferencePoint.constant ∧
    Generator.informationElements.RendersEnumeration InformationElement.expose
      InformationElement.constant :=
  ⟨Generator.rendersEnumeration ReferencePoint.layout_constant ReferencePoint.isSome_member?,
    Generator.rendersEnumeration InformationElement.layout_constant
      InformationElement.isSome_member?⟩

end TableCodegen
