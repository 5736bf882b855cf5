import TableCodegen.Liquid.Element
import TableCodegen.Liquid.Error

/-!
# Tags and their parameters

The parameters of a tag are read from the left, one after the other. What a tag says with them is
its head:

| tag | parameters |
| --- | --- |
| `assign` | `identifier = expression` |
| `break`, `continue`, `raw`, `comment` | none |
| `capture` | an identifier |
| `if`, `unless` | a condition |
| `case` | an operand |
| `for` | `identifier in` and an operand or a range, then `limit:operand`, `offset:operand` and `reversed` in any order; the last of a kind counts |

A whole number in a parameter or filter must have 64 bits. This is looked at when the parameter is
used, so another fault further left is found first.
-/

namespace TableCodegen
namespace Liquid

namespace Operand

/-- The first whole number in an operand that does not have 64 bits. -/
def hugeNumber? : Operand → Option Int
  | .literal (.int n) => if Text.fits64 n then none else some n
  | .literal _ => none
  | .named _ => none
  | .member container key => container.hugeNumber?.or key.hugeNumber?

/-- An operand, if its whole numbers have 64 bits. -/
def checked (operand : Operand) : Except Error Operand :=
  match operand.hugeNumber? with
  | some n => .error (.hugeNumber n)
  | none => .ok operand

end Operand

namespace Filter

/-- The filter of a name with its arguments, if it takes them. -/
def ofArguments (name : Text) (arguments : List Operand) : Except Error Filter :=
  let called (word : String) : Bool := name = word.toList
  let plain (filter : Filter) : Except Error Filter :=
    match arguments with
    | [] => .ok filter
    | _ => .error (.badFilter name)
  let single (filter : Operand → Filter) : Except Error Filter :=
    match arguments with
    | [argument] => .ok (filter argument)
    | _ => .error (.badFilter name)
  if called "upcase" then plain .upcase
  else if called "downcase" then plain .downcase
  else if called "append" then single .append
  else if called "prepend" then single .prepend
  else if called "replace" then
    match arguments with
    | [pattern] => .ok (.replace pattern none)
    | [pattern, replacement] => .ok (.replace pattern (some replacement))
    | _ => .error (.badFilter name)
  else if called "remove" then single .remove
  else if called "split" then single .split
  else if called "join" then
    match arguments with
    | [] => .ok (.join none)
    | [separator] => .ok (.join (some separator))
    | _ => .error (.badFilter name)
  else if called "first" then plain .first
  else if called "last" then plain .last
  else if called "plus" then single .plus
  else if called "minus" then single .minus
  else if called "strip" then plain .strip
  else if called "default" then single .orElse
  else if called "size" then plain .size
  else .error (.unknownFilter name)

/-- The filter that a call stands for. No filter takes arguments with names. -/
def ofCall (call : Call) : Except Error Filter := do
  let arguments ← call.arguments.mapM fun argument => argument.value.checked
  let filter ← ofArguments call.name arguments
  if call.arguments.any fun argument => argument.name.isSome then throw (.badFilter call.name)
  return filter

end Filter

/-- The expression that a chain stands for. -/
def Chain.expression (chain : Chain) : Except Error Expression := do
  let operand ← chain.operand.checked
  let filters ← chain.calls.mapM Filter.ofCall
  return ⟨operand, filters⟩

namespace Token

/-- The operand that a parameter is, if it is one without filters. -/
def operand? : Token → Option Operand
  | .chain ⟨operand, []⟩ => some operand
  | _ => none

/-- The identifier that a parameter is, if it is one. -/
def name? : Token → Option Text
  | .chain ⟨.named name, []⟩ => some name
  | _ => none

/-- Whether a parameter is a given word. -/
def isWord (token : Token) (word : String) : Bool := token.name? == some word.toList

/-- The comparison that a parameter stands for. -/
def comparison? (token : Token) : Option Comparison :=
  match token with
  | .symbol (.comparison comparison) => some comparison
  | _ => if token.isWord "contains" then some .contains else none

/-- The operand that a parameter has to be. -/
def operand (token : Token) : Except Error Operand :=
  match token.operand? with
  | some operand => operand.checked
  | none => .error .unexpectedParameter

end Token

/-- Reads parameters from the left, and leaves those behind what it has read. -/
abbrev ParameterReader := StateT (List Token) (Except Error)

namespace ParameterReader

/-- The next parameter, if there is one. -/
def next? : ParameterReader (Option Token) := do
  match ← get with
  | [] => return none
  | token :: more => do
    set more
    return some token

/-- The next parameter. -/
def next : ParameterReader Token := do
  match ← next? with
  | some token => return token
  | none => throw .missingParameter

/-- The next parameter if it is of a given form, which is then read. -/
def nextIf {α : Type} (form : Token → Option α) : ParameterReader (Option α) := do
  match (← get).head?.bind form with
  | some value => do
    let _ ← next?
    return some value
  | none => return none

/-- Whether the next parameter is a given word, which is then read. -/
def nextIsWord (word : String) : ParameterReader Bool := do
  return (← nextIf fun token => if token.isWord word then some () else none).isSome

/-- The next parameter, an operand. -/
def operand : ParameterReader Operand := do (← next).operand

/-- The next parameter, an identifier. -/
def identifier : ParameterReader Text := do
  match (← next).name? with
  | some name => return name
  | none => throw .unexpectedParameter

/-- The next parameter, a given symbol. -/
def expect (symbol : Symbol) : ParameterReader Unit := do
  match ← next with
  | .symbol found => if found = symbol then return () else throw .unexpectedParameter
  | _ => throw .unexpectedParameter

/-- Nothing may be left. -/
def finish : ParameterReader Unit := do
  match ← next? with
  | none => return ()
  | some _ => throw .unexpectedParameter

end ParameterReader

namespace Condition

open ParameterReader

/-- A condition without connectives. -/
def readAtom : ParameterReader Condition := do
  let left ← operand
  match ← nextIf Token.comparison? with
  | some comparison => return .compare comparison left (← operand)
  | none => return .present left

/-- A condition and those that follow with `and` between them. -/
def readConjunction : (bound : Nat) → Condition → ParameterReader Condition
  | 0, left => return left
  | bound + 1, left => do
    if ← nextIsWord "and" then readConjunction bound (.and left (← readAtom))
    else return left

/-- A condition and those that follow with `or` between them, up to the last parameter. -/
def readDisjunction : (bound : Nat) → Condition → ParameterReader Condition
  | 0, left => return left
  | bound + 1, left => do
    match ← next? with
    | none => return left
    | some token =>
      if token.isWord "or" then
        readDisjunction bound (.or left (← readConjunction bound (← readAtom)))
      else throw .unexpectedParameter

/-- A condition; `and` binds tighter than `or`. -/
def read : ParameterReader Condition := do
  let bound := (← get).length + 1
  readDisjunction bound (← readConjunction bound (← readAtom))

end Condition

namespace LoopHead

open ParameterReader

/-- The operand of an attribute, behind its name. -/
def readAttribute : ParameterReader Operand := do
  expect .colon
  operand

/-- A loop head with the attributes that follow. -/
def readAttributes : (bound : Nat) → LoopHead → ParameterReader LoopHead
  | 0, head => return head
  | bound + 1, head => do
    match ← next? with
    | none => return head
    | some token =>
      if token.isWord "limit" then
        readAttributes bound { head with limit := some (← readAttribute) }
      else if token.isWord "offset" then
        readAttributes bound { head with offset := some (← readAttribute) }
      else if token.isWord "reversed" then readAttributes bound { head with reversed := true }
      else throw .unexpectedParameter

/-- What a loop runs over. -/
def readSource : ParameterReader LoopSource := do
  match ← next with
  | .range first last => return .range (← first.checked) (← last.checked)
  | token => return .items (← token.operand)

/-- A loop head. -/
def read : ParameterReader LoopHead := do
  let bound := (← get).length
  let name ← identifier
  if ← nextIsWord "in" then
    readAttributes bound ⟨name, ← readSource, none, none, false⟩
  else throw .unexpectedParameter

end LoopHead

/-- What a tag says with its parameters. -/
inductive Head where
  | assign (name : Text) (expression : Expression)
  | interrupt (kind : Interrupt)
  | raw
  | comment
  | capture (name : Text)
  | conditional (condition : Condition)
  | negated (condition : Condition)
  | choice (operand : Operand)
  | loop (head : LoopHead)
  deriving Repr

namespace Head

open ParameterReader

/-- The name and the expression of an assignment. -/
def readAssignment : ParameterReader Head := do
  let name ← identifier
  expect .assign
  match ← next with
  | .chain chain => do
    let expression ← chain.expression
    finish
    return .assign name expression
  | _ => throw .unexpectedParameter

/-- The head of a tag of the given name. -/
def readNamed (tagName : Text) : ParameterReader Head :=
  let called (word : String) : Bool := tagName = word.toList
  if called "assign" then readAssignment
  else if called "break" then do
    finish
    return .interrupt .leaveLoop
  else if called "continue" then do
    finish
    return .interrupt .nextItem
  else if called "raw" then do
    finish
    return .raw
  else if called "comment" then do
    finish
    return .comment
  else if called "capture" then do
    let variableName ← identifier
    finish
    return .capture variableName
  else if called "if" then return .conditional (← Condition.read)
  else if called "unless" then return .negated (← Condition.read)
  else if called "case" then do
    let operand ← operand
    finish
    return .choice operand
  else if called "for" then return .loop (← LoopHead.read)
  else throw (.unknownTag tagName)

/-- The head of a tag. -/
def ofTag (name : Text) (parameters : List Token) : Except Error Head :=
  (readNamed name).run' parameters

end Head

/-- The values of a `when` tag, between commas or the word `or`, behind the first. -/
def readCandidates : (bound : Nat) → ParameterReader (List Operand)
  | 0 => return []
  | bound + 1 => do
    match ← ParameterReader.next? with
    | none => return []
    | some separator =>
      if separator.isWord "or" ∨ separator matches .symbol .comma then
        return (← ParameterReader.operand) :: (← readCandidates bound)
      else throw .unexpectedParameter

/-- The values of a `when` tag. -/
def candidates (parameters : List Token) : Except Error (List Operand) :=
  StateT.run' (s := parameters) do
    return (← ParameterReader.operand) :: (← readCandidates parameters.length)

end Liquid
end TableCodegen
