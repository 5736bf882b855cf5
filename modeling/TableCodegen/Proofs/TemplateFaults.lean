import TableCodegen.Liquid.Render

/-!
# Faults of rendering

The fatal faults are all found while a template is read. What rendering can fail with is a variable
that is not there or a value of the wrong kind, so a template that has been read renders or fails in
the ordinary way (`Template.harmless_render`).
-/

namespace TableCodegen
namespace Liquid

/-- A result that is no fatal fault. -/
def Harmless {α : Type} (result : Except Error α) : Prop :=
  ∀ error, result = .error error → error.isFatal = false

section Results

variable {α β : Type}

/-- A value is no fault. -/
theorem harmless_ok (a : α) : Harmless (.ok a : Except Error α) := nofun

/-- An ordinary fault is harmless. -/
theorem harmless_error {error : Error} (h : error.isFatal = false) :
    Harmless (.error error : Except Error α) := by
  rintro _ ⟨⟩
  exact h

/-- **A step behind another is harmless if both are.** Rendering is a chain of steps, so every lemma
below goes through its chain with this one. -/
theorem Harmless.bind {result : Except Error α} {next : α → Except Error β}
    (h : Harmless result) (hnext : ∀ a, Harmless (next a)) : Harmless (result >>= next) := by
  cases result with
  | error error => exact harmless_error (h error rfl)
  | ok a => exact hnext a

/-- What is done with the value of a harmless result leaves it harmless. -/
theorem Harmless.map {result : Except Error α} (h : Harmless result) (f : α → β) :
    Harmless (result.map f) := by
  cases result with
  | error error => exact harmless_error (h error rfl)
  | ok a => exact harmless_ok (f a)

end Results

/-! ### Operands, filters and conditions -/

/-- A variable that is not there is an ordinary fault. -/
theorem Operand.harmless_value (scope : Scope) (operand : Operand) :
    Harmless (operand.value scope) := by
  unfold Operand.value
  split
  · exact harmless_ok _
  · exact harmless_error rfl

/-- Showing a value cannot fail. -/
theorem Operand.harmless_shown (scope : Scope) (operand : Operand) :
    Harmless (operand.shown scope) :=
  (operand.harmless_value scope).map _

/-- A value that is no number is an ordinary fault. The numbers that are too large have been refused
while the template was read. -/
theorem Operand.harmless_intValue (scope : Scope) (operand : Operand) :
    Harmless (operand.intValue scope) := by
  refine (operand.harmless_value scope).bind fun value => ?_
  cases value.int? with
  | none => exact harmless_error rfl
  | some n => exact harmless_ok n

/-- The first or last of something without ends is an ordinary fault. -/
theorem Filter.harmless_endOf (ofText : Text → Option Char) (ofItems : List Value → Option Value)
    (input : Value) : Harmless (endOf ofText ofItems input) := by
  unfold endOf
  split
  · exact harmless_ok _
  · split
    · exact harmless_ok _
    · exact harmless_error rfl

/-- Sums and differences of whole numbers wrap round, so the only faults are operands that are no
numbers. -/
theorem Filter.harmless_combine (whole : Int → Int → Int) (real : Float → Float → Float)
    (scope : Scope) (input : Value) (operand : Operand) :
    Harmless (do
      match input.combine? whole real (← operand.value scope) with
      | some result => return result
      | none => throw .unexpectedKind) := by
  refine (operand.harmless_value scope).bind fun value => ?_
  cases input.combine? whole real value with
  | none => exact harmless_error rfl
  | some result => exact harmless_ok result

/-- **No filter fails with a fatal fault,** whatever its input. A filter may refuse a value or an
argument, and that is a fault which the run reports. -/
theorem Filter.harmless_apply (scope : Scope) (input : Value) (filter : Filter) :
    Harmless (filter.apply scope input) := by
  cases filter with
  | upcase => exact harmless_ok _
  | downcase => exact harmless_ok _
  | append tail => exact (tail.harmless_shown scope).bind fun _ => harmless_ok _
  | prepend head => exact (head.harmless_shown scope).bind fun _ => harmless_ok _
  | replace pattern replacement =>
    refine (pattern.harmless_shown scope).bind fun _ => ?_
    cases replacement with
    | none => exact harmless_ok _
    | some operand => exact (operand.harmless_shown scope).bind fun _ => harmless_ok _
  | remove pattern => exact (pattern.harmless_shown scope).bind fun _ => harmless_ok _
  | split separator => exact (separator.harmless_shown scope).bind fun _ => harmless_ok _
  | join separator =>
    -- The separator is looked at first, also for an input that cannot be joined.
    cases input with
    | array items =>
      cases separator with
      | none => exact harmless_ok _
      | some operand => exact (operand.harmless_shown scope).bind fun _ => harmless_ok _
    | _ =>
      cases separator with
      | none => exact harmless_error rfl
      | some operand => exact (operand.harmless_shown scope).bind fun _ => harmless_error rfl
  | first => exact harmless_endOf _ _ input
  | last => exact harmless_endOf _ _ input
  | plus summand => exact harmless_combine _ _ scope input summand
  | minus subtrahend => exact harmless_combine _ _ scope input subtrahend
  | strip => exact harmless_ok _
  | orElse replacement => exact (replacement.harmless_value scope).bind fun _ => harmless_ok _
  | size => exact harmless_ok _

/-- Filters one behind the other fail as the first of them that fails. -/
theorem Filter.harmless_applyAll (scope : Scope) (filters : List Filter) (input : Value) :
    Harmless (applyAll scope filters input) := by
  induction filters generalizing input with
  | nil => exact harmless_ok input
  | cons filter filters ih => exact (filter.harmless_apply scope input).bind ih

/-- An expression is an operand with filters behind it. -/
theorem Expression.harmless_value (scope : Scope) (expression : Expression) :
    Harmless (expression.value scope) :=
  (expression.operand.harmless_value scope).bind (Filter.harmless_applyAll scope _)

/-- To look for something in a value that holds nothing is an ordinary fault. -/
theorem Comparison.harmless_containsValue (container value : Value) :
    Harmless (containsValue container value) := by
  unfold containsValue
  split
  · exact harmless_ok _
  · exact harmless_ok _
  · split
    · exact harmless_ok _
    · exact harmless_error rfl

/-- Of the comparisons only `contains` can fail; the others give an answer for values of any
kinds. -/
theorem Comparison.harmless_holds (left right : Value) (comparison : Comparison) :
    Harmless (comparison.holds left right) := by
  cases comparison with
  | contains => exact harmless_containsValue left right
  | _ => exact harmless_ok _

/-- The candidates of a choice are looked at one by one, up to the first that is equal. -/
theorem Condition.harmless_isAmong (scope : Scope) (value : Value) (candidates : List Operand) :
    Harmless (isAmong scope value candidates) := by
  induction candidates with
  | nil => exact harmless_ok false
  | cons candidate candidates ih =>
    refine (candidate.harmless_value scope).bind fun other => ?_
    split
    · exact harmless_ok true
    · exact ih

/-- **No condition fails with a fatal fault.** The right side of `and` and `or` is looked at only
where the left side does not decide. -/
theorem Condition.harmless_holds (scope : Scope) (condition : Condition) :
    Harmless (condition.holds scope) := by
  induction condition with
  | present operand => exact harmless_ok _
  | compare comparison left right =>
    exact (left.harmless_value scope).bind fun _ =>
      (right.harmless_value scope).bind fun _ => comparison.harmless_holds _ _
  | among operand candidates =>
    exact (operand.harmless_value scope).bind fun _ => harmless_isAmong scope _ candidates
  | and left right ihleft ihright =>
    refine ihleft.bind fun holds => ?_
    cases holds with
    | true => exact ihright
    | false => exact harmless_ok false
  | or left right ihleft ihright =>
    refine ihleft.bind fun holds => ?_
    cases holds with
    | true => exact harmless_ok true
    | false => exact ihright

/-! ### Loops and templates -/

/-- What a loop runs over is a range of numbers or the items of a value; a value without items is an
ordinary fault. -/
theorem LoopHead.harmless_allItems (scope : Scope) (source : LoopSource) :
    Harmless (allItems scope source) := by
  cases source with
  | range first last =>
    exact (first.harmless_intValue scope).bind fun _ =>
      (last.harmless_intValue scope).bind fun _ => harmless_ok _
  | items operand =>
    refine (operand.harmless_value scope).bind fun value => ?_
    cases value with
    | array items => exact harmless_ok _
    | object members => exact harmless_ok _
    | nil => exact harmless_ok _
    | empty => exact harmless_ok _
    | blank => exact harmless_ok _
    | _ => exact harmless_error rfl

/-- A limit or an offset that is no number is an ordinary fault. -/
theorem LoopHead.harmless_mapM_bounded (scope : Scope) (count : Nat) (operand? : Option Operand) :
    Harmless (operand?.mapM (bounded scope count)) := by
  cases operand? with
  | none => exact harmless_ok none
  | some operand =>
    have hbounded : Harmless (bounded scope count operand) :=
      (operand.harmless_intValue scope).map _
    exact hbounded.bind fun _ => harmless_ok _

/-- The items of a loop are found in three steps: all items, the limit and the offset. -/
theorem LoopHead.harmless_items (scope : Scope) (head : LoopHead) :
    Harmless (head.items scope) :=
  (harmless_allItems scope _).bind fun _ => (harmless_mapM_bounded scope _ _).bind fun _ =>
    (harmless_mapM_bounded scope _ _).bind fun _ => harmless_ok _

/-- What follows is rendered with the variables assigned so far, or not at all behind an
interruption. -/
theorem Rendered.harmless_andThen (before : Rendered) {next : Bindings → Except Error Rendered}
    (h : ∀ assigned, Harmless (next assigned)) : Harmless (before.andThen next) := by
  unfold Rendered.andThen
  split
  · exact harmless_ok _
  · exact (h _).bind fun _ => harmless_ok _

/-- A loop does what its body does. -/
theorem harmless_renderItems {body : Nat → Value → Bindings → Except Error Rendered}
    (h : ∀ index item assigned, Harmless (body index item assigned)) (items : List Value)
    (index : Nat) (assigned : Bindings) : Harmless (renderItems body index items assigned) := by
  induction items generalizing index assigned with
  | nil => exact harmless_ok _
  | cons item items ih =>
    refine (h index item assigned).bind fun this => ?_
    split
    · exact harmless_ok _
    · exact (ih _ _).bind fun _ => harmless_ok _

/-- No piece of a template fails with a fatal fault. Fatal faults are those of the reader, and all
of the template has been read when rendering begins. -/
theorem Template.harmless_renderIn (globals : Bindings) (template : Template)
    (loops : List Bindings) (assigned : Bindings) :
    Harmless (template.renderIn globals loops assigned) := by
  -- A template is a piece with the rest behind it, and the rest is rendered with what the piece has
  -- assigned. So the induction is for all assignments, and for all loops that it may stand in.
  induction template generalizing loops assigned with
  | done => exact harmless_ok _
  | text t next ih => exact Rendered.harmless_andThen _ (ih loops)
  | output expression next ih =>
    exact (expression.harmless_value _).bind fun _ => Rendered.harmless_andThen _ (ih loops)
  | assign name expression next ih =>
    exact (expression.harmless_value _).bind fun _ => ih loops _
  | capture name body next ihbody ihnext =>
    exact (ihbody loops assigned).bind fun _ => Rendered.harmless_andThen _ (ihnext loops)
  | branch condition yes no next ihyes ihno ihnext =>
    refine (condition.harmless_holds _).bind fun holds => ?_
    cases holds with
    | true => exact (ihyes loops assigned).bind fun _ => Rendered.harmless_andThen _ (ihnext loops)
    | false => exact (ihno loops assigned).bind fun _ => Rendered.harmless_andThen _ (ihnext loops)
  | loop head body otherwise next ihbody ihotherwise ihnext =>
    refine (head.harmless_items _).bind fun items => ?_
    cases items with
    | nil =>
      exact (ihotherwise loops assigned).bind fun _ => Rendered.harmless_andThen _ (ihnext loops)
    | cons item items =>
      exact (harmless_renderItems (fun _ _ _ => ihbody _ _) (item :: items) 0 assigned).bind
        fun _ => Rendered.harmless_andThen _ (ihnext loops)
  | interrupt kind next ih => exact harmless_ok _

/-- **Rendering never fails with a fatal fault.** -/
theorem Template.harmless_render (template : Template) (globals : Bindings) :
    Harmless (template.render globals) :=
  (template.harmless_renderIn globals [] []).map _

end Liquid
end TableCodegen
