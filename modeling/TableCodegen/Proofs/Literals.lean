import Mathlib.Data.List.Forall2
import TableCodegen.Proofs.Fields
import TableCodegen.Proofs.JavaReading

/-!
# The literals of a loaded record

The fields that templates see as Java are string literals, alone or as the items of an array
initializer. Of the characters that may not stand in a literal as they are, the quote and the
backslash are escaped and the line feed cannot reach a field. Nothing is done about the carriage
return: only the last one of a line is dropped, and any other ends the literal it stands in.

`LiteralOf field literal` says when a literal is one, and `literals_of_load` says it of every field
of every record.
-/

namespace TableCodegen
namespace Java

/-- A literal for a field. Java takes it unless the field holds a carriage return, and then its
value is the field. -/
structure LiteralOf (field literal : Text) : Prop where
  legal : (literalValue? literal).isSome ↔ '\r' ∉ field
  value : ∀ t, literalValue? literal = some (units t) ↔ '\r' ∉ field ∧ t = field

/-- A field without line feeds is a literal for Java exactly if it holds no carriage return: of the
two ends of a line, the only one that is left. -/
theorem literalOf_quote {field : Text} (h : '\n' ∉ field) : LiteralOf field (quote field) := by
  by_cases hreturn : '\r' ∈ field
  · have hnone : literalValue? (quote field) = none := by
      rw [literalValue?_quote, if_pos (.inr hreturn)]
    exact ⟨by simp [hnone, hreturn], fun t => by simp [hnone, hreturn]⟩
  · have hsome : literalValue? (quote field) = some (units field) := by
      rw [literalValue?_quote, if_neg (not_or.2 ⟨h, hreturn⟩)]
    refine ⟨by simp [hsome, hreturn], fun t => ⟨fun ht => ⟨hreturn, ?_⟩, ?_⟩⟩
    · rw [hsome] at ht
      exact (units_injective (Option.some.inj ht)).symm
    · rintro ⟨-, rfl⟩
      exact hsome

/-- Item by item the same holds of a list of fields, as the generated arrays have them. -/
theorem forall₂_literalOf {items : List Text} (h : ∀ item ∈ items, '\n' ∉ item) :
    List.Forall₂ LiteralOf items (items.map quote) :=
  List.forall₂_map_right_iff.2
    (List.forall₂_same.2 fun item hitem => literalOf_quote (h item hitem))

end Java

/-- A record exposes some fields as string literals and some as array initializers of them. -/
structure ExposesLiterals (record : Record) (texts : List (Text × Text))
    (lists : List (Text × List Text)) : Prop where
  text : ∀ field ∈ texts, ∃ literal,
    record.lookup field.1 = some (.text literal) ∧ Java.LiteralOf field.2 literal
  list : ∀ field ∈ lists, ∃ literals,
    record.lookup field.1 = some (.text ("new String[]\x7b".toList ++ Text.joinWith [','] literals
      ++ ['\x7d'])) ∧ List.Forall₂ Java.LiteralOf field.2 literals

/-- **Every literal is legal and means its field, if no carriage return stands in it.** For every
table that loads, and every record loaded from it. -/
theorem literals_of_load (table : Text) :
    (∀ points, ReferencePoint.load table = .ok points → ∀ point ∈ points,
      ExposesLiterals point.expose [("description".toList, point.description)]
        [("protocol".toList, point.protocol), ("elements".toList, point.elements),
          ("references".toList, point.references)]) ∧
    (∀ elements, InformationElement.load table = .ok elements → ∀ element ∈ elements,
      ExposesLiterals element.expose
        [("specification".toList, element.specification), ("section".toList, element.sectionText)]
        []) := by
  constructor
  · intro points h point hpoint
    have hclean := ReferencePoint.lineFeed_notMem_fields h hpoint
    simp only [ReferencePoint.fields, List.mem_cons, List.mem_append] at hclean
    constructor
    · intro field hfield
      obtain rfl := List.mem_singleton.1 hfield
      exact ⟨_, rfl, Java.literalOf_quote (hclean _ (.inl rfl))⟩
    · intro field hfield
      simp only [List.mem_cons, List.not_mem_nil, or_false] at hfield
      obtain rfl | rfl | rfl := hfield
      · exact ⟨_, rfl, Java.forall₂_literalOf fun item hitem =>
          hclean item (.inr (.inl (.inl hitem)))⟩
      · exact ⟨_, rfl, Java.forall₂_literalOf fun item hitem =>
          hclean item (.inr (.inl (.inr hitem)))⟩
      · exact ⟨_, rfl, Java.forall₂_literalOf fun item hitem => hclean item (.inr (.inr hitem))⟩
  · intro elements h element helement
    obtain ⟨hspecification, hsection⟩ := InformationElement.lineFeed_notMem_fields h helement
    constructor
    · intro field hfield
      simp only [List.mem_cons, List.not_mem_nil, or_false] at hfield
      obtain rfl | rfl := hfield
      · exact ⟨_, rfl, Java.literalOf_quote hspecification⟩
      · exact ⟨_, rfl, Java.literalOf_quote hsection⟩
    · exact fun field hfield => absurd hfield List.not_mem_nil

/-- A return in the middle of a cell makes its literal illegal. -/
theorem literals_of_inner_return :
    ReferencePoint.load "h\nUu\tp\te\ta\rb\tr\n".toList =
        .ok [⟨"Uu".toList, [['p']], [['e']], "a\rb".toList, [['r']]⟩] ∧
      ∃ literal,
        (ReferencePoint.expose ⟨"Uu".toList, [['p']], [['e']], "a\rb".toList, [['r']]⟩).lookup
            "description".toList = some (.text literal) ∧
          (Java.literalValue? literal).isSome = false := by
  have hload : ReferencePoint.load "h\nUu\tp\te\ta\rb\tr\n".toList =
      .ok [⟨"Uu".toList, [['p']], [['e']], "a\rb".toList, [['r']]⟩] := by decide +kernel
  have hpoint := (literals_of_load _).1 _ hload _ List.mem_cons_self
  obtain ⟨literal, hliteral, hfor⟩ := hpoint.text _ List.mem_cons_self
  refine ⟨hload, literal, hliteral, Bool.eq_false_iff.2 fun hlegal => hfor.legal.1 hlegal ?_⟩
  decide

end TableCodegen
