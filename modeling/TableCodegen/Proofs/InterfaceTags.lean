import Mathlib.Data.List.DropRight
import Mathlib.Data.List.Nodup
import TableCodegen.Proofs.ElementRows
import TableCodegen.Proofs.Fields
import TableCodegen.Proofs.JavaReading

/-!
# Interface tags on their way

The tags of an element start as marks in ten columns and end as a string array in the generated
class:

| stage | what there is |
| --- | --- |
| row | a mark in the column of each tag |
| element | the tags, in the order of their columns |
| field | their names between commas |
| source | a string literal, the field between two quotes |
| class | the parts of the literal's value between commas |

`MarkedTags` says what the first step does, and `partsBetweenCommas` what the constructor of the
generated class does in the last one. `tags_arrive` says that the names of the tags come out of it,
whatever the tags are, and that no other list of tags has the same field.
-/

namespace TableCodegen

/-- The parts of a text between its commas, as a reader has them that asks for the empty text first:
that one has no part. -/
def Text.partsBetweenCommas (t : Text) : List Text := if t = [] then [] else t.splitOn ','

namespace Java

/-- Nothing is escaped where there is nothing to escape. -/
theorem escape_of_notMem {t : Text} (hquote : '"' ∉ t) (hslash : '\\' ∉ t) : escape t = t := by
  induction t with
  | nil => rfl
  | cons c cs ih =>
    obtain ⟨hc, hcs⟩ := not_or.1 (mt List.mem_cons.2 hquote)
    obtain ⟨hc', hcs'⟩ := not_or.1 (mt List.mem_cons.2 hslash)
    rw [escape, if_neg (not_or.2 ⟨Ne.symm hc, Ne.symm hc'⟩), ih hcs hcs']

end Java

namespace Interface

/-- The ten names differ, so a tag can be told from its name. -/
theorem name_injective : Function.Injective name := by
  intro tag other h
  have hname := ofName?_name tag
  rw [h, ofName?_name] at hname
  exact (Option.some.inj hname).symm

/-- A name holds neither a comma nor anything else but these letters and digits. -/
theorem name_subset (tag : Interface) : tag.name ⊆ "NSab0123456789".toList := by
  cases tag <;> decide

/-- No tag has the empty name. An empty field thus belongs to no list of tags but the empty one. -/
theorem name_ne_nil (tag : Interface) : tag.name ≠ [] := by
  cases tag <;> exact List.cons_ne_nil _ _

/-- No name holds the separator of the field, so the field can be cut back into names. -/
theorem comma_notMem_name (tag : Interface) : ',' ∉ tag.name :=
  fun h => absurd (tag.name_subset h) (by decide)

/-- Each tag has one column, so no row gives a tag twice. -/
theorem nodup_columns : (columns.map (·.2)).Nodup := by decide

end Interface

namespace InformationElement

open Text

/-! ### From the marks to the element -/

/-- The tags of a row: those whose column holds a mark, in the order of the columns, each once. -/
structure MarkedTags (row : Table.Row) (tags : List Interface) : Prop where
  marked : ∀ column tag, (column, tag) ∈ Interface.columns →
    (tag ∈ tags ↔ ∃ cell, row.cells[column]? = some cell ∧ (cell.text = ['x'] ∨ cell.text = ['X']))
  ordered : tags.Sublist (Interface.columns.map (·.2))
  once : tags.Nodup

/-- **The tags of an element are those of the marked columns, in their order.** A column that the
row does not reach counts as one without a mark. -/
theorem markedTags_of_ofRow {row : Table.Row} {element : InformationElement}
    (h : ofRow row = .ok (some element)) : MarkedTags row element.interfaces := by
  obtain ⟨_, _, _, _, _, _, _, _, -, -, -, -, -, -, -, hinterfaces⟩ := ofRow_eq_some h
  have hordered : element.interfaces.Sublist (Interface.columns.map (·.2)) := by
    rw [hinterfaces]
    exact List.filter_sublist.map _
  refine ⟨fun column tag hcolumn => ?_, hordered, hordered.nodup Interface.nodup_columns⟩
  have hmark : (row.cells[column]?.any fun cell => isMark cell.text) = true ↔
      ∃ cell, row.cells[column]? = some cell ∧ (cell.text = ['x'] ∨ cell.text = ['X']) := by
    simp only [Option.any_eq_true, isMark_iff]
  rw [hinterfaces, ← hmark, List.mem_map]
  constructor
  · rintro ⟨⟨column', tag'⟩, hmem, rfl⟩
    obtain ⟨hcolumn', hmarked⟩ := List.mem_filter.1 hmem
    -- A tag has no second column.
    have hsame : (column', tag') = (column, tag') :=
      List.inj_on_of_nodup_map Interface.nodup_columns hcolumn' hcolumn rfl
    cases hsame
    exact hmarked
  · exact fun hmarked => ⟨(column, tag), List.mem_filter.2 ⟨hcolumn, hmarked⟩, rfl⟩

/-! ### From the element to the class -/

/-- The field holds the characters of the names, and commas. -/
theorem interfaceNames_subset (element : InformationElement) :
    element.interfaceNames ⊆ ",NSab0123456789".toList := by
  refine joinWith_subset (by decide) fun name hname => ?_
  obtain ⟨tag, -, rfl⟩ := List.mem_map.1 hname
  exact List.Subset.trans tag.name_subset (by decide)

/-- Between two quotes the field is a literal for itself. -/
theorem literalValue?_interfaceNames (element : InformationElement) :
    Java.literalValue? ('"' :: element.interfaceNames ++ ['"']) =
      some (Java.units element.interfaceNames) := by
  have hnone : ∀ c ∉ ",NSab0123456789".toList, c ∉ element.interfaceNames :=
    fun c hc hmem => hc (element.interfaceNames_subset hmem)
  have hquote : Java.quote element.interfaceNames = '"' :: element.interfaceNames ++ ['"'] := by
    rw [Java.quote, Java.escape_of_notMem (hnone _ (by decide)) (hnone _ (by decide))]
  rw [← hquote, Java.literalValue?_quote,
    if_neg (not_or.2 ⟨hnone _ (by decide), hnone _ (by decide)⟩)]

/-- The field is empty exactly if there are no tags. The generated class has to tell this case, as
splitting an empty text gives one part. -/
theorem interfaceNames_eq_nil_iff (element : InformationElement) :
    element.interfaceNames = [] ↔ element.interfaces = [] := by
  rw [interfaceNames]
  cases element.interfaces with
  | nil => exact iff_of_true rfl rfl
  | cons tag tags =>
    refine iff_of_false ?_ (List.cons_ne_nil tag tags)
    obtain ⟨c, cs, hname⟩ := List.exists_cons_of_ne_nil tag.name_ne_nil
    cases tags <;> simp [joinWith, List.intercalate, hname]

/-- **The names come out of the field.** -/
theorem partsBetweenCommas_interfaceNames (element : InformationElement) :
    partsBetweenCommas element.interfaceNames = element.interfaces.map Interface.name := by
  rw [partsBetweenCommas]
  split
  · rename_i hnil
    rw [element.interfaceNames_eq_nil_iff.1 hnil, List.map_nil]
  · rename_i hne
    refine List.splitOn_intercalate ',' ?_ fun hnil =>
      hne (element.interfaceNames_eq_nil_iff.2 (List.map_eq_nil_iff.1 hnil))
    intro name hname
    obtain ⟨tag, -, rfl⟩ := List.mem_map.1 hname
    exact tag.comma_notMem_name

/-- No part is empty, so none is lost where empty parts at the end are dropped. -/
theorem rdropWhile_names (tags : List Interface) :
    (tags.map Interface.name).rdropWhile List.isEmpty = tags.map Interface.name := by
  refine List.rdropWhile_eq_self_iff.2 fun hne hempty => ?_
  obtain ⟨tag, -, hname⟩ := List.mem_map.1 (List.getLast_mem hne)
  exact tag.name_ne_nil (hname.trans (List.isEmpty_iff.1 hempty))

/-- **Tags arrive.** Those of an element are the marked ones of its row, in column order. Its field
is the value of the literal that the source has for it; the constructor takes the names of the tags
out of that, whether or not it drops empty parts at the end; and the field tells the tags. -/
theorem tags_arrive :
    (∀ {row : Table.Row} {element : InformationElement}, ofRow row = .ok (some element) →
      MarkedTags row element.interfaces) ∧
    ∀ element : InformationElement,
      element.expose.lookup "interfaces".toList = some (.text element.interfaceNames) ∧
      Java.literalValue? ('"' :: element.interfaceNames ++ ['"']) =
        some (Java.units element.interfaceNames) ∧
      partsBetweenCommas element.interfaceNames = element.interfaces.map Interface.name ∧
      (partsBetweenCommas element.interfaceNames).rdropWhile List.isEmpty =
        element.interfaces.map Interface.name ∧
      ∀ other : InformationElement,
        element.interfaceNames = other.interfaceNames ↔ element.interfaces = other.interfaces := by
  refine ⟨markedTags_of_ofRow, fun element => ⟨rfl, element.literalValue?_interfaceNames,
    element.partsBetweenCommas_interfaceNames, ?_, fun other => ⟨fun h => ?_, fun h => ?_⟩⟩⟩
  · rw [partsBetweenCommas_interfaceNames, rdropWhile_names]
  · have hparts := congrArg partsBetweenCommas h
    rw [partsBetweenCommas_interfaceNames, partsBetweenCommas_interfaceNames] at hparts
    exact Interface.name_injective.list_map hparts
  · rw [interfaceNames, interfaceNames, h]

/-- The row of an element with two marks, of which the later one is a capital, and cells that are no
marks. -/
def rowWithMarks : Table.Row where
  line := 2
  span := ⟨2, 23⟩
  cells := ["", "7", "m", "s", "", "", "", "", " x", "", "x", "xx", "", "", "X", "", ""].map
    fun text => ⟨text.toList, 2, 2⟩

/-- A row with marks for two interfaces: both names come out of its field. -/
theorem tags_arrive_rowWithMarks :
    ofRow rowWithMarks =
        .ok (some ⟨7, ['m'], ['s'], [], false, false, [.n26, .s8]⟩) ∧
      MarkedTags rowWithMarks [.n26, .s8] ∧
      partsBetweenCommas "N26,S8".toList = ["N26".toList, "S8".toList] := by
  have hrow : ofRow rowWithMarks =
      .ok (some ⟨7, ['m'], ['s'], [], false, false, [.n26, .s8]⟩) := by cbv
  exact ⟨hrow, tags_arrive.1 hrow, (tags_arrive.2 ⟨7, ['m'], ['s'], [], false, false,
    [.n26, .s8]⟩).2.2.1⟩

end InformationElement
end TableCodegen
