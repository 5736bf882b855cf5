import TableCodegen.Liquid.Value

/-!
# Templates

A template is a sequence of pieces: text, output of an expression, and tags. Each piece knows what
comes after it, so that a template is a chain that ends in `done`.

An operand is a literal or a variable with accessors; an expression sends an operand through
filters. Filters are not allowed in conditions.
-/

namespace TableCodegen
namespace Liquid

/-- A literal or a variable. -/
inductive Operand where
  | literal (value : Value)
  | named (name : Text)
  /-- What a variable holds under a name or index. -/
  | member (container key : Operand)
  deriving Repr

/-- A filter with its arguments. -/
inductive Filter where
  | upcase
  | downcase
  | append (tail : Operand)
  | prepend (head : Operand)
  | replace (pattern : Operand) (replacement : Option Operand)
  | remove (pattern : Operand)
  | split (separator : Operand)
  | join (separator : Option Operand)
  | first
  | last
  | plus (summand : Operand)
  | minus (subtrahend : Operand)
  | strip
  | orElse (replacement : Operand)
  | size
  deriving Repr

/-- An operand and the filters it is sent through. -/
structure Expression where
  operand : Operand
  filters : List Filter
  deriving Repr

/-- A comparison of two operands. -/
inductive Comparison where
  | equal
  | unequal
  | less
  | greater
  | lessOrEqual
  | greaterOrEqual
  | contains
  deriving DecidableEq, Repr

/-- The condition of a branch. -/
inductive Condition where
  /-- The operand exists and counts as true. -/
  | present (operand : Operand)
  | compare (comparison : Comparison) (left right : Operand)
  /-- The first operand equals one of the others. -/
  | among (operand : Operand) (candidates : List Operand)
  | and (left right : Condition)
  | or (left right : Condition)
  deriving Repr

/-- What a loop runs over. -/
inductive LoopSource where
  | items (operand : Operand)
  /-- The numbers between two bounds, both included. -/
  | range (first last : Operand)
  deriving Repr

/-- The head of a loop. -/
structure LoopHead where
  name : Text
  source : LoopSource
  limit : Option Operand
  offset : Option Operand
  reversed : Bool
  deriving Repr

/-- How a loop body can be left early. -/
inductive Interrupt where
  | leaveLoop
  | nextItem
  deriving DecidableEq, Repr

/-- A template. -/
inductive Template where
  | done
  | text (t : Text) (next : Template)
  | output (expression : Expression) (next : Template)
  | assign (name : Text) (expression : Expression) (next : Template)
  | capture (name : Text) (body next : Template)
  | branch (condition : Condition) (yes no next : Template)
  /-- `otherwise` takes the place of a loop without items. -/
  | loop (head : LoopHead) (body otherwise next : Template)
  | interrupt (kind : Interrupt) (next : Template)
  deriving Repr

end Liquid
end TableCodegen
