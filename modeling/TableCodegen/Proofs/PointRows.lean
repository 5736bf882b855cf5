import TableCodegen.Proofs.Fields
import TableCodegen.Proofs.PointNames
import TableCodegen.Proofs.RowOutcomes

/-!
# What a reference point row comes to

A row has one of two outcomes: with fewer than five cells the fifth is missing, and with five or
more there is a reference point, whatever the cells hold.

| cell | field |
| --- | --- |
| name | the identifier that it spells |
| protocols, elements | the parts between its commas |
| description | the cell |
| references | the words between its spaces, without the words `TS` and without `TS` in the others |

`PartsOf` says what the parts of a cell are: no part holds the separator, and joined with separators
between them they are the cell, so an empty part counts and none is lost. `RowOutcome` says which
row has which outcome, and `ofRow_keeps_cells` that reading a row comes to that outcome and no
other. Two cells with a separator between them have the parts of the one and then those of the
other.
-/

namespace TableCodegen

/-- The parts of a text between its separators. -/
structure Text.PartsOf (separator : Char) (t : Text) (parts : List Text) : Prop where
  joined : joinWith [separator] parts = t
  apart : ∀ part ∈ parts, separator ∉ part
  ne_nil : parts ≠ []

namespace Text

/-- A part does not hold the separator that it was cut out at. -/
theorem notMem_of_mem_splitOn {separator : Char} {t part : Text} (h : part ∈ t.splitOn separator) :
    separator ∉ part := by
  by_cases hmem : separator ∈ t
  · obtain ⟨first, rest, ht, hfirst⟩ := List.eq_append_cons_of_mem hmem
    rw [ht, List.splitOn_append_cons_self_of_not_mem hfirst] at h
    obtain rfl | h := List.mem_cons.1 h
    · exact hfirst
    · exact notMem_of_mem_splitOn h
  · rw [List.splitOn_eq_singleton hmem] at h
    obtain rfl := List.mem_singleton.1 h
    exact hmem
termination_by t.length
decreasing_by
  rw [ht, List.length_append, List.length_cons]
  omega

/-- **Splitting finds the parts,** and there are no others. -/
theorem splitOn_eq_iff {separator : Char} {t : Text} {parts : List Text} :
    t.splitOn separator = parts ↔ PartsOf separator t parts := by
  constructor
  · rintro rfl
    exact ⟨List.intercalate_splitOn separator, fun _ => notMem_of_mem_splitOn,
      List.splitOn_ne_nil separator t⟩
  · rintro ⟨rfl, hapart, hne⟩
    exact List.splitOn_intercalate separator hapart hne

end Text

namespace ReferencePoint

open Text

/-- What a row comes to: the outcome and when it is that. -/
inductive RowOutcome (row : Table.Row) : Except Table.Error ReferencePoint → Prop where
  | tooShort (hshort : row.cells.length < 5) :
      RowOutcome row (.error ⟨row.span, .missingColumn 4 row.cells.length⟩)
  | point {name protocol elements description references : Table.Cell} {more : List Table.Cell}
      {point : ReferencePoint}
      (hcells : row.cells = name :: protocol :: elements :: description :: references :: more)
      (hname : Spells name.text point.name) (hprotocol : PartsOf ',' protocol.text point.protocol)
      (helements : PartsOf ',' elements.text point.elements)
      (hdescription : point.description = description.text)
      (hreferences : point.references = referenceItems references.text)
      (hspaces : ∀ reference ∈ point.references, ' ' ∉ reference) : RowOutcome row (.ok point)

/-! ### Lists in cells -/

/-- A reference holds no space: it comes from one token, and taking out the word brings nothing
in. -/
theorem space_notMem_referenceItems {cell reference : Text}
    (h : reference ∈ referenceItems cell) : ' ' ∉ reference := by
  obtain ⟨word, hword, rfl⟩ := List.mem_map.1 h
  have hclean : ' ' ∉ word := notMem_of_mem_splitOn (List.mem_filter.1 hword).1
  exact fun hspace => hclean (replaceAll_nil_subset _ _ word hspace)

/-- **The items of two cells with a comma between them** are those of the one and of the other. -/
theorem listItems_append (cell other : Text) :
    listItems (cell ++ ',' :: other) = listItems cell ++ listItems other :=
  List.splitOn_append_cons_self cell other

/-- **The references of two cells with a space between them** are those of the one and of the
other. -/
theorem referenceItems_append (cell other : Text) :
    referenceItems (cell ++ ' ' :: other) = referenceItems cell ++ referenceItems other := by
  rw [referenceItems, List.splitOn_append_cons_self, List.filter_append, List.map_append]
  rfl

/-! ### Rows -/

/-- **A row that meets the conditions of an outcome comes to it.** -/
theorem RowOutcome.ofRow_eq {row : Table.Row} {result : Except Table.Error ReferencePoint}
    (h : RowOutcome row result) : ofRow row = result := by
  cases h with
  | tooShort hshort => exact ofRow_of_short hshort
  | point hcells hname hprotocol helements hdescription hreferences hspaces =>
    rw [ofRow_of_cells hcells, identifierOf_eq_iff_spells.2 hname, ← hdescription, ← hreferences]
    simp only [listItems, splitOn_eq_iff.2 hprotocol, splitOn_eq_iff.2 helements]

/-- The outcome whose conditions a row meets. -/
theorem exists_rowOutcome (row : Table.Row) : ∃ result, RowOutcome row result := by
  by_cases hshort : row.cells.length < 5
  · exact ⟨_, .tooShort hshort⟩
  · obtain ⟨name, protocol, elements, description, references, more, hcells⟩ :=
      exists_cells (Nat.le_of_not_lt hshort)
    have hpoint : RowOutcome row (.ok {
        name := identifierOf name.text
        protocol := listItems protocol.text
        elements := listItems elements.text
        description := description.text
        references := referenceItems references.text }) :=
      .point hcells (identifierOf_eq_iff_spells.1 rfl) (splitOn_eq_iff.1 rfl)
        (splitOn_eq_iff.1 rfl) rfl rfl fun _ => space_notMem_referenceItems
    exact ⟨_, hpoint⟩

/-- **What stands behind the fifth cell makes no difference.** -/
theorem RowOutcome.take {row : Table.Row} {result : Except Table.Error ReferencePoint}
    (h : RowOutcome row result) : RowOutcome { row with cells := row.cells.take 5 } result := by
  cases h with
  | tooShort hshort =>
    rw [List.take_of_length_le (Nat.le_of_lt hshort)]
    exact .tooShort hshort
  | @point name protocol elements description references more _ hcells hname hprotocol helements
      hdescription hreferences hspaces =>
    have htake : row.cells.take 5 = [name, protocol, elements, description, references] := by
      rw [hcells]
      rfl
    exact .point htake hname hprotocol helements hdescription hreferences hspaces

/-- A row fails exactly if it has fewer than five cells. No content of a cell can make it fail. -/
theorem RowOutcome.exists_error_iff {row : Table.Row} {result : Except Table.Error ReferencePoint}
    (h : RowOutcome row result) :
    (∃ error, result = .error error) ↔ row.cells.length < 5 := by
  cases h with
  | tooShort hshort => exact iff_of_true ⟨_, rfl⟩ hshort
  | point hcells => simp [hcells]

/-- **A row comes to the outcome whose conditions it meets,** and to no other: it fails exactly if
it has fewer than five cells. The cells behind the fifth make no difference, and two list cells with
a separator between them have the items of both. -/
theorem ofRow_keeps_cells (row : Table.Row) :
    (∀ result, ofRow row = result ↔ RowOutcome row result) ∧
      ((∃ error, ofRow row = .error error) ↔ row.cells.length < 5) ∧
      ofRow { row with cells := row.cells.take 5 } = ofRow row ∧
      ∀ cell other : Text,
        listItems (cell ++ ',' :: other) = listItems cell ++ listItems other ∧
        referenceItems (cell ++ ' ' :: other) = referenceItems cell ++ referenceItems other := by
  obtain ⟨result, houtcome⟩ := exists_rowOutcome row
  refine ⟨fun other => ⟨fun h => ?_, RowOutcome.ofRow_eq⟩, ?_, ?_, fun cell other =>
    ⟨listItems_append cell other, referenceItems_append cell other⟩⟩
  · rwa [← h, houtcome.ofRow_eq]
  · rw [houtcome.ofRow_eq]
    exact houtcome.exists_error_iff
  · rw [houtcome.ofRow_eq, houtcome.take.ofRow_eq]

/-- Empty items count, wherever they stand. -/
example : listItems ",UE,,".toList = [[], "UE".toList, [], []] := by decide

end ReferencePoint
end TableCodegen
