import Mathlib.Data.Nat.Digits.Defs
import TableCodegen.Proofs.RowOutcomes
import TableCodegen.Proofs.Trimming

/-!
# What an information element row comes to

A row has one of four outcomes, and the first that applies is the one it has:

| the row | outcome |
| --- | --- |
| opens with the skip marker | passed over, however many cells it has |
| has fewer than seventeen cells | the seventeenth is missing |
| has a second cell that is no number up to 255 | the cell is reported as it stands |
| any other | an element, field by field |

`Numeral` says which texts are numbers, and `RowOutcome` which row has which outcome.
`ofRow_eq_iff` says that reading a row comes to that outcome and no other, and that what stands
behind the seventeenth cell makes no difference.
-/

namespace TableCodegen
namespace InformationElement

open Text

/-- A number in decimal digits, with or without one plus in front, and white space around it. -/
inductive Numeral : Text → Nat → Prop where
  | intro {left sign digits right : Text} (hleft : ∀ c ∈ left, isBlank c = true)
      (hsign : sign = [] ∨ sign = ['+']) (hne : digits ≠ [])
      (hdigits : ∀ c ∈ digits, '0' ≤ c ∧ c ≤ '9') (hright : ∀ c ∈ right, isBlank c = true) :
      Numeral (left ++ (sign ++ digits) ++ right)
        (Nat.ofDigits 10 (digits.reverse.map fun c => c.toNat - '0'.toNat))

/-- What a row comes to: the outcome and when it is that. -/
inductive RowOutcome (row : Table.Row) : Except Table.Error (Option InformationElement) → Prop where
  | skipped {first : Table.Cell} {others : List Table.Cell} (hcells : row.cells = first :: others)
      (hfirst : first.text = ['x']) : RowOutcome row (.ok none)
  | tooShort (hfirst : ∀ first ∈ row.cells.head?, first.text ≠ ['x'])
      (hshort : row.cells.length < 17) :
      RowOutcome row (.error ⟨row.span, .missingColumn 16 row.cells.length⟩)
  | badTypeCode {first code : Table.Cell} {others : List Table.Cell}
      (hcells : row.cells = first :: code :: others) (hfirst : first.text ≠ ['x'])
      (hlong : 17 ≤ row.cells.length) (hcode : ∀ n, Numeral code.text n → 255 < n) :
      RowOutcome row (.error ⟨code.span, .invalidTypeCode code.text⟩)
  | element {first code message specification sectionCell initial triggered : Table.Cell}
      {marks : List Table.Cell} {element : InformationElement}
      (hcells : row.cells =
        first :: code :: message :: specification :: sectionCell :: initial :: triggered :: marks)
      (hfirst : first.text ≠ ['x']) (hlong : 17 ≤ row.cells.length)
      (hcode : Numeral code.text element.typeCode.toNat)
      (hmessage : element.message = message.text.map fun c => if c = ' ' then '_' else c)
      (hspecification : element.specification = specification.text)
      (hsection : element.sectionText = [] ∧ (∀ c ∈ sectionCell.text, isBlank c = true) ∨
        element.sectionText = sectionCell.text ∧ ∃ c ∈ sectionCell.text, isBlank c = false)
      (hinitial : element.initial = true ↔ initial.text = ['x'] ∨ initial.text = ['X'])
      (htriggered : element.triggered = true ↔ triggered.text = ['x'] ∨ triggered.text = ['X'])
      (hinterfaces : element.interfaces = (Interface.columns.filter fun mark =>
        row.cells[mark.1]?.any fun cell => cell.text = ['x'] ∨ cell.text = ['X']).map (·.2)) :
      RowOutcome row (.ok (some element))

/-! ### Type codes -/

/-- The digits count, the last of them least. -/
theorem digitsValue_eq (t : Text) :
    digitsValue t = Nat.ofDigits 10 (t.reverse.map fun c => c.toNat - '0'.toNat) := by
  induction t using List.reverseRecOn with
  | nil => rfl
  | append_singleton t c ih =>
    have hlast : digitsValue (t ++ [c]) = digitsValue t * 10 + (c.toNat - '0'.toNat) :=
      List.foldl_concat ..
    rw [hlast, ih, List.reverse_concat, List.map_cons, Nat.ofDigits_cons, Nat.add_comm,
      Nat.mul_comm]

/-- Digits are a range of characters. -/
theorem isDigit_iff (c : Char) : isDigit c = true ↔ '0' ≤ c ∧ c ≤ '9' := by
  simp [isDigit]

/-- No digit is white space. -/
theorem isBlank_of_digit {c : Char} (h : '0' ≤ c ∧ c ≤ '9') : isBlank c = false := by
  have hlow : 48 ≤ c.toNat := UInt32.le_iff_toNat_le.1 h.1
  have hhigh : c.toNat ≤ 57 := UInt32.le_iff_toNat_le.1 h.2
  simp only [isBlank, Bool.or_eq_false_iff, Bool.and_eq_false_iff, decide_eq_false_iff_not,
    beq_eq_false_iff_ne]
  omega

/-- One plus is passed over. -/
theorem exists_afterPlus (t : Text) :
    ∃ sign, (sign = [] ∨ sign = ['+']) ∧ t = sign ++ afterPlus t := by
  unfold afterPlus
  split
  · exact ⟨['+'], .inr rfl, rfl⟩
  · exact ⟨[], .inl rfl, rfl⟩

/-- One sign of plus in front of digits is dropped; digits begin with none themselves. -/
theorem afterPlus_append {sign digits : Text} (hsign : sign = [] ∨ sign = ['+'])
    (hdigits : ∀ c ∈ digits, '0' ≤ c ∧ c ≤ '9') : afterPlus (sign ++ digits) = digits := by
  obtain rfl | rfl := hsign
  · cases digits with
    | nil => rfl
    | cons c cs =>
      have hplus : c ≠ '+' := by
        rintro rfl
        exact absurd (hdigits '+' List.mem_cons_self) (by decide)
      unfold afterPlus
      split
      · next heq => exact absurd (List.head_eq_of_cons_eq heq) hplus
      · rfl
  · rfl

/-- **The white space around a number is all that is cut off.** -/
theorem trimBlank_numeral {left sign digits right : Text} (hleft : ∀ c ∈ left, isBlank c = true)
    (hsign : sign = [] ∨ sign = ['+']) (hdigits : ∀ c ∈ digits, '0' ≤ c ∧ c ≤ '9')
    (hright : ∀ c ∈ right, isBlank c = true) :
    trimBlank (left ++ (sign ++ digits) ++ right) = sign ++ digits := by
  have hcore : ∀ c ∈ sign ++ digits, isBlank c = false := by
    intro c hc
    obtain hc | hc := List.mem_append.1 hc
    · obtain rfl | rfl := hsign
      · cases hc
      · obtain rfl := List.mem_singleton.1 hc
        rfl
    · exact isBlank_of_digit (hdigits c hc)
  exact trim_append hleft (fun c hc => hcore c (List.mem_of_mem_head? hc))
    (fun c hc => hcore c (List.mem_of_mem_getLast? hc)) hright

/-- **A number is the type code** if it fits into a byte. -/
theorem Numeral.typeCode?_eq {cell : Text} {n : Nat} (h : Numeral cell n) :
    typeCode? cell = if n < 256 then some (UInt8.ofNat n) else none := by
  cases h with
  | @intro left sign digits right hleft hsign hne hdigits hright =>
    have hall : digits.all isDigit = true :=
      List.all_eq_true.2 fun c hc => (isDigit_iff c).2 (hdigits c hc)
    simp only [typeCode?, trimBlank_numeral hleft hsign hdigits hright,
      afterPlus_append hsign hdigits, ← digitsValue_eq, hall, hne, ne_eq, not_false_eq_true,
      true_and]

/-- **A code that is read is a numeral of its value.** Blanks around it and one sign of plus in
front of it are not part of the value, and zeros in front of the digits do not change it. -/
theorem numeral_of_typeCode? {cell : Text} {code : UInt8} (h : typeCode? cell = some code) :
    Numeral cell code.toNat := by
  obtain ⟨left, right, hcell, hleft, hright⟩ := exists_append_trim isBlank cell
  obtain ⟨sign, hsign, hcore⟩ := exists_afterPlus (trimBlank cell)
  rw [show trim isBlank cell = trimBlank cell from rfl] at hcell
  simp only [typeCode?, Option.ite_none_right_eq_some, Option.some.injEq] at h
  obtain ⟨⟨hne, hall, hvalue⟩, rfl⟩ := h
  have hdigits : ∀ c ∈ afterPlus (trimBlank cell), '0' ≤ c ∧ c ≤ '9' :=
    fun c hc => (isDigit_iff c).1 (List.all_eq_true.1 hall c hc)
  have hnumeral := Numeral.intro hleft hsign hne hdigits hright
  rw [← hcore, ← hcell, ← digitsValue_eq] at hnumeral
  rwa [UInt8.toNat_ofNat_of_lt' hvalue]

/-- **A cell holds a type code when it is a number that fits,** and the code is its value. -/
theorem typeCode?_eq_some_iff {cell : Text} {code : UInt8} :
    typeCode? cell = some code ↔ Numeral cell code.toNat := by
  refine ⟨numeral_of_typeCode?, fun h => ?_⟩
  rw [h.typeCode?_eq, if_pos code.toNat_lt, UInt8.ofNat_toNat]

/-- A cell holds no type code when it is no number, or one that is too large. -/
theorem typeCode?_eq_none_iff {cell : Text} :
    typeCode? cell = none ↔ ∀ n, Numeral cell n → 255 < n := by
  constructor
  · intro h n hnumeral
    by_contra hsmall
    rw [hnumeral.typeCode?_eq, if_pos (by omega)] at h
    cases h
  · intro h
    cases hcode : typeCode? cell with
    | none => rfl
    | some code =>
      have hlarge := h _ (numeral_of_typeCode? hcode)
      have hsmall := code.toNat_lt
      omega

/-! ### Rows -/

/-- A mark is one letter in either case, and nothing around it. -/
theorem isMark_iff (t : Text) : isMark t = true ↔ t = ['x'] ∨ t = ['X'] := by
  simp [isMark]

/-- The test for a mark, decided by its two forms. -/
theorem isMark_eq (t : Text) : isMark t = decide (t = ['x'] ∨ t = ['X']) :=
  Bool.eq_iff_iff.2 ((isMark_iff t).trans decide_eq_true_iff.symm)

/-- A row that does not open with the skip marker. -/
theorem ofRow_of_ne {row : Table.Row} (h : ∀ first ∈ row.cells.head?, first.text ≠ ['x']) :
    ofRow row = (ofData row).map some := by
  have hopens : row.opensWith skipMark = false := by
    unfold Table.Row.opensWith
    split
    · rfl
    · next first others hcells =>
      exact beq_eq_false_iff_ne.2 (h first (by rw [hcells]; rfl))
  rw [ofRow, hopens]
  rfl

/-- A row that does not open with the skip marker is read for its data. -/
theorem ofRow_of_cons_ne {row : Table.Row} {first : Table.Cell} {others : List Table.Cell}
    (hcells : row.cells = first :: others) (h : first.text ≠ ['x']) :
    ofRow row = (ofData row).map some := by
  refine ofRow_of_ne fun cell hcell => ?_
  rw [hcells] at hcell
  obtain rfl := Option.some.inj hcell
  exact h

/-- A section is kept as it is written, or it is empty because nothing but white space is. -/
theorem sectionText_eq_iff {written kept : Text} :
    (if allBlank written then [] else written) = kept ↔
      kept = [] ∧ (∀ c ∈ written, isBlank c = true) ∨
        kept = written ∧ ∃ c ∈ written, isBlank c = false := by
  by_cases hblank : allBlank written = true
  · have hall := List.all_eq_true.1 hblank
    have hnone : ¬ ∃ c ∈ written, isBlank c = false := by
      rintro ⟨c, hc, hother⟩
      rw [hall c hc] at hother
      cases hother
    rw [if_pos hblank, and_iff_left hall, eq_comm]
    simp only [hnone, and_false, or_false]
  · obtain ⟨c, hc, hother⟩ := List.all_eq_false.1 (Bool.eq_false_iff.2 hblank)
    have hsome : ∃ c ∈ written, isBlank c = false := ⟨c, hc, Bool.eq_false_iff.2 hother⟩
    have hnot : ¬ ∀ c ∈ written, isBlank c = true := fun hall => hother (hall c hc)
    rw [if_neg hblank, and_iff_left hsome, eq_comm]
    simp only [hnot, and_false, false_or]

/-- **A row that meets the conditions of an outcome comes to it.** The conditions of an outcome deny
those in front of it, so the reader passes the tests for them. -/
theorem RowOutcome.ofRow_eq {row : Table.Row}
    {result : Except Table.Error (Option InformationElement)} (h : RowOutcome row result) :
    ofRow row = result := by
  cases h with
  | skipped hcells hfirst =>
    have hopens : row.opensWith skipMark = true := by
      rw [Table.Row.opensWith, hcells]
      exact beq_iff_eq.2 hfirst
    rw [ofRow, if_pos hopens]
  | tooShort hfirst hshort =>
    rw [ofRow_of_ne hfirst, ofData_of_short hshort]
    rfl
  | badTypeCode hcells hfirst hlong hcode =>
    obtain ⟨skip, code, message, specification, sectionCell, initial, triggered, marks, hall⟩ :=
      exists_cells hlong
    obtain ⟨rfl, rfl, -⟩ : _ = skip ∧ _ = code ∧ _ := by simpa using hcells.symm.trans hall
    rw [ofRow_of_cons_ne hcells hfirst, ofData_of_cells hlong hall, typeCode?_eq_none_iff.2 hcode]
    rfl
  | element hcells hfirst hlong hcode hmessage hspecification hsection hinitial htriggered
      hinterfaces =>
    have hinitial := Bool.eq_iff_iff.2 ((isMark_iff _).trans hinitial.symm)
    have htriggered := Bool.eq_iff_iff.2 ((isMark_iff _).trans htriggered.symm)
    rw [ofRow_of_cons_ne hcells hfirst, ofData_of_cells hlong hcells,
      typeCode?_eq_some_iff.2 hcode]
    simp only [sectionText_eq_iff.2 hsection, hinitial, htriggered, ← hmessage, ← hspecification,
      isMark_eq, ← hinterfaces]
    rfl

/-- **Every row has an outcome:** that of the first condition that it meets, in the order in which
the reader asks. -/
theorem exists_rowOutcome (row : Table.Row) : ∃ result, RowOutcome row result := by
  by_cases hmark : ∃ first ∈ row.cells.head?, first.text = ['x']
  · obtain ⟨first, hfirst, htext⟩ := hmark
    obtain ⟨others, hcells⟩ := List.head?_eq_some_iff.1 hfirst
    exact ⟨_, .skipped hcells htext⟩
  have hother : ∀ first ∈ row.cells.head?, first.text ≠ ['x'] :=
    fun first hfirst htext => hmark ⟨first, hfirst, htext⟩
  by_cases hshort : row.cells.length < 17
  · exact ⟨_, .tooShort hother hshort⟩
  have hlong := Nat.le_of_not_lt hshort
  obtain ⟨first, code, message, specification, sectionCell, initial, triggered, marks, hcells⟩ :=
    exists_cells hlong
  have hfirst : first.text ≠ ['x'] := hother first (by rw [hcells]; rfl)
  cases hcode : typeCode? code.text with
  | none => exact ⟨_, .badTypeCode hcells hfirst hlong (typeCode?_eq_none_iff.1 hcode)⟩
  | some typeCode =>
    have helement : RowOutcome row (.ok (some {
        typeCode := typeCode
        message := message.text.map fun c => if c = ' ' then '_' else c
        specification := specification.text
        sectionText := if allBlank sectionCell.text then [] else sectionCell.text
        initial := isMark initial.text
        triggered := isMark triggered.text
        interfaces := (Interface.columns.filter fun mark => row.cells[mark.1]?.any fun cell =>
          cell.text = ['x'] ∨ cell.text = ['X']).map (·.2) })) :=
      .element hcells hfirst hlong (typeCode?_eq_some_iff.1 hcode) rfl rfl
        (sectionText_eq_iff.1 rfl) (isMark_iff _) (isMark_iff _) rfl
    exact ⟨_, helement⟩

/-- **What stands behind the seventeenth cell makes no difference.** The last column that is looked
at is the seventeenth, so a row and its first seventeen cells meet the same conditions. -/
theorem RowOutcome.take {row : Table.Row} {result : Except Table.Error (Option InformationElement)}
    (h : RowOutcome row result) : RowOutcome { row with cells := row.cells.take 17 } result := by
  cases h with
  | @skipped first others hcells hfirst =>
    have hcells : row.cells.take 17 = first :: others.take 16 := by rw [hcells]; rfl
    exact .skipped hcells hfirst
  | tooShort hfirst hshort =>
    rw [List.take_of_length_le hshort.le]
    exact .tooShort hfirst hshort
  | @badTypeCode first code others hcells hfirst hlong hcode =>
    have hlength : 17 ≤ (row.cells.take 17).length := by simpa using hlong
    have hcells : row.cells.take 17 = first :: code :: others.take 15 := by rw [hcells]; rfl
    exact .badTypeCode hcells hfirst hlength hcode
  | @element first code message specification sectionCell initial triggered marks _ hcells hfirst
      hlong hcode hmessage hspecification hsection hinitial htriggered hinterfaces =>
    have hlength : 17 ≤ (row.cells.take 17).length := by simpa using hlong
    have htake : row.cells.take 17 = first :: code :: message :: specification :: sectionCell ::
        initial :: triggered :: marks.take 10 := by rw [hcells]; rfl
    have hmarks : ∀ mark ∈ Interface.columns,
        (row.cells.take 17)[mark.1]? = row.cells[mark.1]? := by
      have hcolumns : ∀ mark ∈ Interface.columns, mark.1 < 17 := by decide
      exact fun mark hmark => List.getElem?_take_of_lt (hcolumns mark hmark)
    refine .element htake hfirst hlength hcode hmessage hspecification hsection hinitial
      htriggered ?_
    rw [hinterfaces]
    exact congrArg _ (List.filter_congr fun mark hmark => by rw [hmarks mark hmark])

/-- **A row comes to the outcome whose conditions it meets,** and to no other. The cells behind the
seventeenth make no difference. -/
theorem ofRow_eq_iff (row : Table.Row) :
    (∀ result, ofRow row = result ↔ RowOutcome row result) ∧
      ofRow { row with cells := row.cells.take 17 } = ofRow row := by
  obtain ⟨result, houtcome⟩ := exists_rowOutcome row
  refine ⟨fun other => ⟨fun h => ?_, RowOutcome.ofRow_eq⟩, ?_⟩
  · rwa [← h, houtcome.ofRow_eq]
  · rw [houtcome.ofRow_eq, houtcome.take.ofRow_eq]

end InformationElement
end TableCodegen
