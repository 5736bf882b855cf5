import TableCodegen.Liquid.Tag

/-!
# From elements to a template

Elements are read one after the other. A tag that starts a block is followed by the elements of the
block up to its end tag; some tags divide a block into parts.

| block | divided by | meaning |
| --- | --- | --- |
| `if` | `elsif` in any number, then `else` | the first part whose condition holds |
| `unless` | `else` | the body if the condition does not hold |
| `case` | `when` in any number, then `else` | the first part with a value that equals the operand |
| `for` | `else` | the body for each item, or the other part when there is none |
| `capture` | | the output of the body becomes a variable |
| `raw` | | all source up to the end tag is text |
| `comment` | | nothing |

The part of a case before its first `when` is dropped. The parameters of an `else` in `if` and
`unless` do not count; behind `else` no tag divides the block any more. An end tag takes no
parameters, but in raw text one that has some is text as well.

In a comment the tags are read as anywhere else, so blocks in it have to be complete. A fault in
such a tag is forgiven unless it is fatal, and the comment goes on where the fault was found.
Outputs and malformed text in a comment do not count.

A reader fails where the fault is found, and what it has read until then stays read: malformed text
inside a block takes all that follows with it, up to and including the end of the text.
-/

namespace TableCodegen
namespace Liquid

/-- Reads elements, and leaves those behind what it has read, also when it fails. -/
abbrev ElementReader := ExceptT Error (StateM (List Element))

namespace ElementReader

/-- The next element. -/
def next : ElementReader Element := do
  match ← get with
  | [] => throw .pastEnd
  | element :: elements => do
    set elements
    return element

/-- Whether an element is the tag that ends a block, whatever its parameters. -/
def endsBlock (block : Text) : Element → Bool
  | .tag _ name _ => name = "end".toList ++ block
  | _ => false

/-- Whether an element is a tag without parameters. -/
def isBare : Element → Bool
  | .tag _ _ parameters => parameters.isEmpty
  | _ => false

/-- The next element of a block, or nothing where its end tag is. -/
def nextIn (block : Text) : ElementReader (Option Element) := do
  match ← next with
  | .finish => throw .unclosedBlock
  | element =>
    if endsBlock block element then
      if isBare element then return none else throw .unexpectedParameter
    else return some element

/-- The source up to the end tag of raw text. -/
def raw : (bound : Nat) → ElementReader Text
  | 0 => throw .unclosedBlock
  | bound + 1 => do
    match ← next with
    | .finish => throw .unclosedBlock
    | element =>
      if endsBlock "raw".toList element && isBare element then return []
      else return element.source ++ (← raw bound)

end ElementReader

/-- Which tags divide a block. -/
inductive Division where
  /-- None. -/
  | whole
  | conditional
  | negated
  | choice
  | loop
  deriving DecidableEq, Repr

/-- What divides two parts of a block. -/
inductive Divider where
  | otherwise
  | elsif (condition : Condition)
  | among (candidates : List Operand)
  deriving Repr

namespace Divider

/-- The `else` of a block that does not let it have parameters. -/
def bareOtherwise (parameters : List Token) : Except Error Divider :=
  if parameters.isEmpty then .ok .otherwise else .error .unexpectedParameter

/-- The divider that an element is, if it divides the block. -/
def ofElement? (division : Division) (element : Element) : Option (Except Error Divider) :=
  match element with
  | .tag _ name parameters =>
    let isElse : Bool := name = "else".toList
    match division with
    | .whole => none
    | .conditional =>
      if isElse then some (.ok .otherwise)
      else if name = "elsif".toList then
        some ((Condition.read.run' parameters).map .elsif)
      else none
    | .negated => if isElse then some (.ok .otherwise) else none
    | .choice =>
      if isElse then some (bareOtherwise parameters)
      else if name = "when".toList then some ((candidates parameters).map .among)
      else none
    | .loop => if isElse then some (bareOtherwise parameters) else none
  | _ => none

/-- The tags that divide what follows a divider. -/
def following (division : Division) : Divider → Division
  | .otherwise => .whole
  | _ => division

end Divider

/-- A piece of a template, put in front of what comes next. -/
abbrev Piece := Template → Template

/-- The parts of a block: the first, and the others each behind its divider. -/
structure Parts where
  first : Template
  others : List (Divider × Template)
  deriving Repr

namespace Parts

/-- A piece in front of the first part. -/
def push (piece : Piece) (parts : Parts) : Parts := { parts with first := piece parts.first }

/-- A divider in front of the first part, behind an empty one. -/
def divide (divider : Divider) (parts : Parts) : Parts :=
  ⟨.done, (divider, parts.first) :: parts.others⟩

/-- The first of several parts whose divider lets it in, for an operand that decides. -/
def choose (operand : Option Operand) : List (Divider × Template) → Template
  | [] => .done
  | (.otherwise, part) :: _ => part
  | (.elsif condition, part) :: others => .branch condition part (choose operand others) .done
  | (.among candidates, part) :: others =>
    match operand with
    | some operand => .branch (.among operand candidates) part (choose (some operand) others) .done
    | none => choose none others

/-- What a tag and the parts of its block make. A case without a fitting part still looks at its
operand. -/
def toPiece (head : Head) (parts : Parts) : Piece :=
  match head with
  | .assign name expression => .assign name expression
  | .interrupt kind => .interrupt kind
  | .raw | .comment => id
  | .capture name => .capture name parts.first
  | .conditional condition => .branch condition parts.first (choose none parts.others)
  | .negated condition => .branch condition (choose none parts.others) parts.first
  | .choice operand => .branch (.among operand []) .done (choose (some operand) parts.others)
  | .loop head => .loop head parts.first (choose none parts.others)

end Parts

/-- The tags that divide the block of a tag. -/
def Head.division : Head → Division
  | .conditional _ => .conditional
  | .negated _ => .negated
  | .choice _ => .choice
  | .loop _ => .loop
  | _ => .whole

/-- The fault of malformed text at a character of `whole` that so many others follow. It is reported
with its line, which is cut in front of the fault at as many bytes as there are characters, and
then read again: where the cut falls inside a character or the second reading finds no fault, the
line cannot be told. -/
def faultAt (whole : Text) (c : Char) (following : Text) : Error :=
  let before := whole.take (whole.length - following.length - 1)
  let line := (before.reverse.takeWhile (· ≠ '\n')).reverse
  match Text.splitAtByte? line.length line with
  | some (shown, _) =>
    if (elements (shown ++ c :: following)).any Element.isInvalid then .malformed [c]
    else .untoldLine
  | none => .untoldLine

namespace ElementReader

mutual

/-- The piece that an element starts, with the block that belongs to it. -/
def piece (whole : Text) : (bound : Nat) → Element → ElementReader Piece
  | 0, _ => throw .pastEnd
  | bound + 1, element => do
    match element with
    | .finish => return id
    | .text t => return .text t
    | .output _ chain => do
      let expression ← (chain.expression : Except Error Expression)
      return .output expression
    | .invalid c following => do
      set ([] : List Element)
      throw (faultAt whole c following)
    | .tag _ name parameters => do
      match ← (Head.ofTag name parameters : Except Error Head) with
      | .assign target expression => return .assign target expression
      | .interrupt kind => return .interrupt kind
      | .raw => do
        let t ← raw (bound + 1)
        return .text t
      | .comment => do
        skipComment whole bound
        return id
      | head => do
        let parts ← blockParts whole bound name head.division
        return parts.toPiece head

/-- The parts of a block, up to its end tag. -/
def blockParts (whole : Text) : (bound : Nat) → (block : Text) → Division → ElementReader Parts
  | 0, _, _ => throw .pastEnd
  | bound + 1, block, division => do
    match ← nextIn block with
    | none => return ⟨.done, []⟩
    | some element =>
      match Divider.ofElement? division element with
      | some divider => do
        let divider ← (divider : Except Error Divider)
        let parts ← blockParts whole bound block (divider.following division)
        return parts.divide divider
      | none => do
        let piece ← piece whole bound element
        let parts ← blockParts whole bound block division
        return parts.push piece

/-- Passes over a comment, up to its end tag. -/
def skipComment (whole : Text) : (bound : Nat) → ElementReader Unit
  | 0 => throw .pastEnd
  | bound + 1 => do
    match ← nextIn "comment".toList with
    | none => return ()
    | some element => do
      match element with
      | .tag _ _ _ =>
        try
          let _ ← piece whole bound element
        catch error =>
          if error.isFatal then throw error
      | _ => pure ()
      skipComment whole bound

end

/-- The template of all elements up to the end. -/
def template (whole : Text) : (bound : Nat) → ElementReader Template
  | 0 => throw .pastEnd
  | bound + 1 => do
    match ← next with
    | .finish => return .done
    | element => do
      let piece ← piece whole bound element
      let rest ← template whole bound
      return piece rest

end ElementReader

/-- The template of a text. Every element is asked for once, and starts one block at most. -/
def Template.parse (t : Text) : Except Error Template :=
  let elements := elements t
  ((ElementReader.template t (2 * elements.length + 2)).run.run elements).1

end Liquid
end TableCodegen
