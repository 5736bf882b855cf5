import TableCodegen.Liquid.Block
import TableCodegen.Text.Blank
import TableCodegen.Text.Case

/-!
# Rendering

A name is looked up in the loops around it, the innermost first, then among the variables that the
template has assigned, and then among the globals. Assigned variables last to the end of the
rendering, loop variables to the end of their loop.

An operand that does not exist is an error in an output, a filter, a comparison or a loop. On its
own in a condition it does not hold.

A loop begins behind its offset and runs so many times as its limit says, but neither counts for
more than there are items; a negative one counts as too large. Where the items end before the limit,
nil takes their place.

A loop offers `forloop` to its body: `length`, `parentloop`, `index0`, `index`, `rindex0`, `rindex`,
`first` and `last`, where `parentloop` is what `forloop` stands for around the loop. `break` and
`continue` stop the parts around them up to the loop; outside of a loop they end the rendering, and
what has been written stays.
-/

namespace TableCodegen
namespace Liquid

/-- Names and their values. -/
abbrev Bindings := List (Text × Value)

/-- Where names are looked up; the loops stand with the innermost first. -/
structure Scope where
  loops : List Bindings
  assigned : Bindings
  globals : Bindings
  deriving Repr

namespace Scope

/-- The value of a name in the first of several bindings that has it. -/
def lookupIn (name : Text) : List Bindings → Option Value
  | [] => none
  | bindings :: outer =>
    match bindings.lookup name with
    | some value => some value
    | none => lookupIn name outer

/-- The value of a name. -/
def lookup (scope : Scope) (name : Text) : Option Value :=
  lookupIn name (scope.loops ++ [scope.assigned, scope.globals])

/-- A scope in which a variable has been assigned. -/
def assign (scope : Scope) (name : Text) (value : Value) : Scope :=
  { scope with assigned := (name, value) :: scope.assigned }

end Scope

namespace Operand

/-- The value of an operand, if it exists. -/
def value? (scope : Scope) : Operand → Option Value
  | .literal value => some value
  | .named name => scope.lookup name
  | .member container key =>
    match container.value? scope, key.value? scope with
    | some value, some index => value.member? index
    | _, _ => none

/-- The value of an operand that has to exist. -/
def value (scope : Scope) (operand : Operand) : Except Error Value :=
  match operand.value? scope with
  | some value => .ok value
  | none => .error .unknownVariable

/-- The shown text of an operand that has to exist. -/
def shown (scope : Scope) (operand : Operand) : Except Error Text :=
  (operand.value scope).map Value.display

/-- The whole number of an operand that has to be one or the text of one. -/
def intValue (scope : Scope) (operand : Operand) : Except Error Int := do
  match (← operand.value scope).int? with
  | some n => return n
  | none => throw .unexpectedKind

end Operand

namespace Filter

/-- The first or last part of a value: a character of a text, an item of an array. -/
def endOf (ofText : Text → Option Char) (ofItems : List Value → Option Value) (input : Value) :
    Except Error Value :=
  match input with
  | .array items => .ok ((ofItems items).getD .nil)
  | other =>
    match other.scalar? with
    | some t => .ok (.text (ofText t).toList)
    | none => .error .unexpectedKind

/-- The parts of a text at a separator; the empty text has none. -/
def splitText (separator t : Text) : List Value :=
  if t.isEmpty then [] else (Text.splitOnText separator t).map .text

/-- What a filter makes of a value. -/
def apply (scope : Scope) (input : Value) : Filter → Except Error Value
  | .upcase => .ok (.text (Text.upcase input.display))
  | .downcase => .ok (.text (Text.downcase input.display))
  | .append tail => do return .text (input.display ++ (← tail.shown scope))
  | .prepend head => do return .text ((← head.shown scope) ++ input.display)
  | .replace pattern replacement => do
    let pattern ← pattern.shown scope
    let replacement ← match replacement with
      | some operand => operand.shown scope
      | none => .ok []
    return .text (Text.replaceAll pattern replacement input.display)
  | .remove pattern => do
    return .text (Text.replaceAll (← pattern.shown scope) [] input.display)
  | .split separator => do
    return .array (splitText (← separator.shown scope) input.display)
  | .join separator => do
    let separator ← match separator with
      | some operand => operand.shown scope
      | none => .ok [' ']
    match input with
    | .array items => return .text (Text.joinWith separator (items.map Value.display))
    | _ => throw .unexpectedKind
  | .first => endOf List.head? List.head? input
  | .last => endOf List.getLast? List.getLast? input
  | .plus summand => do
    match input.combine? (· + ·) (· + ·) (← summand.value scope) with
    | some sum => return sum
    | none => throw .unexpectedKind
  | .minus subtrahend => do
    match input.combine? (· - ·) (· - ·) (← subtrahend.value scope) with
    | some difference => return difference
    | none => throw .unexpectedKind
  | .strip => .ok (.text (Text.trimBlank input.display))
  | .orElse replacement => do
    let value ← replacement.value scope
    return if input.isDefault then value else input
  | .size =>
    .ok (.int (match input with
      | .array items => items.length
      | .object members => members.length
      | other => (other.scalar?.map Text.byteSize).getD 0))

/-- What filters make of a value, one after the other. -/
def applyAll (scope : Scope) : List Filter → Value → Except Error Value
  | [], input => .ok input
  | filter :: filters, input => do applyAll scope filters (← filter.apply scope input)

end Filter

/-- The value of an expression. -/
def Expression.value (scope : Scope) (expression : Expression) : Except Error Value := do
  Filter.applyAll scope expression.filters (← expression.operand.value scope)

namespace Comparison

/-- Whether one value contains another: a text in the shown text of a boolean, number or text, the
name of a member, an equal item. -/
def containsValue (container value : Value) : Except Error Bool :=
  match container with
  | .array items => .ok (items.any fun item => item.same value)
  | .object members =>
    .ok (match value.scalar? with
      | some name => (members.lookup name).isSome
      | none => false)
  | other =>
    match other.scalar? with
    | some shown => .ok (Text.occursIn value.display shown)
    | none => .error .unexpectedKind

/-- Whether a comparison holds of two values. -/
def holds (left right : Value) : Comparison → Except Error Bool
  | .equal => .ok (left.same right)
  | .unequal => .ok !(left.same right)
  | .less => .ok (left.order? right == some .lt)
  | .greater => .ok (left.order? right == some .gt)
  | .lessOrEqual => .ok (left.order? right == some .lt || left.order? right == some .eq)
  | .greaterOrEqual => .ok (left.order? right == some .gt || left.order? right == some .eq)
  | .contains => containsValue left right

end Comparison

namespace Condition

/-- Whether a value equals one of several operands, which are looked at up to the first. -/
def isAmong (scope : Scope) (value : Value) : List Operand → Except Error Bool
  | [] => .ok false
  | candidate :: candidates => do
    if (← candidate.value scope).same value then return true
    else isAmong scope value candidates

/-- Whether a condition holds; the right side of a connective is looked at only if it decides. -/
def holds (scope : Scope) : Condition → Except Error Bool
  | .present operand => .ok ((operand.value? scope).any Value.isTruthy)
  | .compare comparison left right => do
    comparison.holds (← left.value scope) (← right.value scope)
  | .among operand candidates => do isAmong scope (← operand.value scope) candidates
  | .and left right => do if ← left.holds scope then right.holds scope else return false
  | .or left right => do if ← left.holds scope then return true else right.holds scope

end Condition

namespace LoopHead

/-- The numbers between two bounds, both included. -/
def numbersFrom (first last : Int) : List Value :=
  (List.range (last + 1 - first).toNat).map fun i : Nat => .int (first + i)

/-- All that a loop may run over. -/
def allItems (scope : Scope) : LoopSource → Except Error (List Value)
  | .range first last => do
    let low ← first.intValue scope
    let high ← last.intValue scope
    return numbersFrom low high
  | .items operand => do
    match ← operand.value scope with
    | .array items => return items
    | .object members => return members.map fun field => .array [.text field.1, field.2]
    | .nil | .empty | .blank => return []
    | _ => throw .unexpectedKind

/-- The value of an attribute, reduced to the number of items there are. -/
def bounded (scope : Scope) (count : Nat) (operand : Operand) : Except Error Nat :=
  (operand.intValue scope).map fun n => if n < 0 then count else min n.toNat count

/-- Items made so many: cut off, or followed by nil. -/
def resize (count : Nat) (items : List Value) : List Value :=
  items.take count ++ List.replicate (count - items.length) .nil

/-- The items that a loop runs over, in the order of its runs. -/
def items (scope : Scope) (head : LoopHead) : Except Error (List Value) := do
  let all ← allItems scope head.source
  let limit? ← head.limit.mapM (bounded scope all.length)
  let offset? ← head.offset.mapM (bounded scope all.length)
  let offset := offset?.getD 0
  let chosen := resize (limit?.getD (all.length - offset)) (all.drop offset)
  return if head.reversed then chosen.reverse else chosen

end LoopHead

/-- What a loop says of itself at item `index` of `count`, inside another loop or nil. -/
def loopFacts (outer : Value) (count index : Nat) : Value :=
  .object [
    ("length".toList, .int count),
    ("parentloop".toList, outer),
    ("index0".toList, .int index),
    ("index".toList, .int (index + 1)),
    ("rindex0".toList, .int (count - index - 1)),
    ("rindex".toList, .int (count - index)),
    ("first".toList, .bool (index == 0)),
    ("last".toList, .bool (index + 1 == count))]

/-- The name under which a loop offers its facts. -/
def loopName : Text := "forloop".toList

/-- What a loop binds for item `index` of `count`. -/
def loopBindings (name : Text) (outer : Value) (count index : Nat) (item : Value) : Bindings :=
  [(name, item), (loopName, loopFacts outer count index)]

/-- What has been rendered: the output, the variables assigned so far, and the interrupt that ended
it, if one did. -/
structure Rendered where
  output : Text
  assigned : Bindings
  interrupt : Option Interrupt
  deriving Repr

namespace Rendered

/-- Renders what comes next, unless an interrupt is under way. -/
def andThen (before : Rendered) (next : Bindings → Except Error Rendered) :
    Except Error Rendered :=
  match before.interrupt with
  | some _ => .ok before
  | none => do
    let after ← next before.assigned
    return { after with output := before.output ++ after.output }

end Rendered

/-- Renders a body for items from an index on. -/
def renderItems (body : Nat → Value → Bindings → Except Error Rendered) :
    (index : Nat) → List Value → Bindings → Except Error Rendered
  | _, [], assigned => .ok ⟨[], assigned, none⟩
  | index, item :: items, assigned => do
    let this ← body index item assigned
    match this.interrupt with
    | some .leaveLoop => return { this with interrupt := none }
    | _ =>
      let rest ← renderItems body (index + 1) items this.assigned
      return { rest with output := this.output ++ rest.output }

namespace Template

/-- Renders a template inside loops, with the variables assigned so far. -/
def renderIn (globals : Bindings) :
    Template → (loops : List Bindings) → Bindings → Except Error Rendered
  | .done, _, assigned => .ok ⟨[], assigned, none⟩
  | .text t next, loops, assigned =>
    Rendered.andThen ⟨t, assigned, none⟩ (renderIn globals next loops)
  | .output expression next, loops, assigned => do
    let value ← expression.value ⟨loops, assigned, globals⟩
    Rendered.andThen ⟨value.display, assigned, none⟩ (renderIn globals next loops)
  | .assign name expression next, loops, assigned => do
    let value ← expression.value ⟨loops, assigned, globals⟩
    renderIn globals next loops ((name, value) :: assigned)
  | .capture name body next, loops, assigned => do
    let inner ← renderIn globals body loops assigned
    Rendered.andThen ⟨[], (name, .text inner.output) :: inner.assigned, inner.interrupt⟩
      (renderIn globals next loops)
  | .branch condition yes no next, loops, assigned => do
    let inner ←
      if ← condition.holds ⟨loops, assigned, globals⟩ then renderIn globals yes loops assigned
      else renderIn globals no loops assigned
    inner.andThen (renderIn globals next loops)
  | .loop head body otherwise next, loops, assigned => do
    let scope : Scope := ⟨loops, assigned, globals⟩
    let items ← head.items scope
    let outer := (scope.lookup loopName).getD .nil
    let inner ←
      if items.isEmpty then renderIn globals otherwise loops assigned
      else
        renderItems (fun index item =>
          renderIn globals body (loopBindings head.name outer items.length index item :: loops))
          0 items assigned
    inner.andThen (renderIn globals next loops)
  | .interrupt kind _, _, assigned => .ok ⟨[], assigned, some kind⟩

/-- The output of a template. -/
def render (template : Template) (globals : Bindings) : Except Error Text :=
  (template.renderIn globals [] []).map Rendered.output

end Template

/-- The output of a template text for a list of items under one variable. -/
def renderText (source : Text) (name : Text) (items : List Value) : Except Error Text := do
  (← Template.parse source).render [(name, .array items)]

end Liquid
end TableCodegen
