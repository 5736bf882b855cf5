import TableCodegen.Liquid.Template

/-!
# The elements of a template text

A template text is a sequence of elements: outputs between `{{` and `}}`, tags between `{%` and
`%}`, and the text around them; its end is the last element. A hyphen inside a delimiter takes away
the blanks outside it. The blanks of the language are space, carriage return and line feed.

| part | form |
| --- | --- |
| identifier | a letter, `_` or `-`, then also digits; a hyphen before `}}` or `%}` is not part of it |
| number | digits with at most one sign; a float has a point between digits |
| text | between quotes of one kind, without escapes |
| word | `nil`, `null`, `empty`, `blank`, `true`, `false` |
| accessor | `.identifier` or `[operand]`, without blanks before it |
| filter | `| identifier`, then `: argument, argument …` if it has arguments |
| argument | an operand, or `identifier: operand` |
| range | `(operand..operand)` |

A literal ends where its form ends, whatever follows, so no variable begins with one of the words.

Each reader gives back what it has read and the rest of the text; what cannot be read as the whole
form is read as the longest part that can. Readers that call each other are bounded by the length
of the text: each step takes at least one character.
-/

namespace TableCodegen
namespace Liquid

/-- Whether a character is a blank. -/
def isBlank (c : Char) : Bool := c == ' ' || c == '\r' || c == '\n'

/-- A text without the blanks at its start. -/
def skipBlanks (t : Text) : Text := t.dropWhile isBlank

/-- The delimiters, without their hyphens. -/
def outputStart : Text := ['\x7b', '\x7b']
@[inherit_doc outputStart] def outputStop : Text := ['\x7d', '\x7d']
@[inherit_doc outputStart] def tagStart : Text := ['\x7b', '%']
@[inherit_doc outputStart] def tagStop : Text := ['%', '\x7d']

/-- Whether a text starts with a delimiter that ends an output or a tag. -/
def startsWithStop (t : Text) : Bool := outputStop.isPrefixOf t || tagStop.isPrefixOf t

/-- Whether a character may start an identifier. -/
def isNameStart (c : Char) : Bool := c.isAlpha || c == '_' || c == '-'

/-- The part of a text that continues an identifier, and the rest. -/
def nameTail : Text → Text × Text
  | [] => ([], [])
  | c :: cs =>
    if (isNameStart c || c.isDigit) && !(c == '-' && startsWithStop cs) then
      match nameTail cs with
      | (name, rest) => (c :: name, rest)
    else ([], c :: cs)

/-- An identifier at the start of a text, and the rest. -/
def readName (t : Text) : Option (Text × Text) :=
  match t with
  | c :: cs =>
    if isNameStart c && !(c == '-' && startsWithStop cs) then
      match nameTail cs with
      | (name, rest) => some (c :: name, rest)
    else none
  | [] => none

/-- The words of the language and their values. -/
def words : List (Text × Value) := [
  ("nil".toList, .nil),
  ("null".toList, .nil),
  ("empty".toList, .empty),
  ("blank".toList, .blank),
  ("true".toList, .bool true),
  ("false".toList, .bool false)]

/-- A word at the start of a text, and the rest. -/
def readWord (t : Text) : Option (Value × Text) :=
  words.findSome? fun word => (Text.after? word.1 t).map fun rest => (word.2, rest)

/-- A text between quotes, given behind the first, and the rest. -/
def readQuoted (quote : Char) (t : Text) : Option (Value × Text) :=
  match t.dropWhile (· ≠ quote) with
  | _ :: rest => some (.text (t.takeWhile (· ≠ quote)), rest)
  | [] => none

/-- A number, and the rest. -/
def readNumber (t : Text) : Option (Value × Text) :=
  match Decimal.splitSign t with
  | (negative, unsigned) =>
    let whole := unsigned.takeWhile Text.isDigit
    let behind := unsigned.drop whole.length
    let fraction := match behind with
      | '.' :: cs => cs.takeWhile Text.isDigit
      | _ => []
    let size : Int := Text.digitsValue whole
    if whole.isEmpty then none
    else if fraction.isEmpty then some (.int (if negative then -size else size), behind)
    else
      let number : Decimal := ⟨negative, Text.digitsValue (whole ++ fraction), -fraction.length⟩
      some (.float number.toFloat, behind.drop (fraction.length + 1))

/-- A literal at the start of a text, and the rest. -/
def readLiteral (t : Text) : Option (Value × Text) :=
  match t with
  | '"' :: cs => readQuoted '"' cs
  | '\x27' :: cs => readQuoted '\x27' cs
  | cs =>
    match readWord cs with
    | some read => some read
    | none => readNumber cs

mutual

/-- An operand at the start of a text, and the rest. -/
def readOperand : (bound : Nat) → Text → Option (Operand × Text)
  | 0, _ => none
  | bound + 1, t =>
    match readLiteral t with
    | some (value, rest) => some (.literal value, rest)
    | none =>
      match readName t with
      | none => none
      | some (name, rest) => some (readAccessors bound (.named name) rest)

/-- The accessors behind an operand, applied to it, and the rest. -/
def readAccessors : (bound : Nat) → Operand → Text → Operand × Text
  | 0, operand, t => (operand, t)
  | bound + 1, operand, t =>
    match t with
    | '.' :: cs =>
      match readName cs with
      | some (name, rest) => readAccessors bound (.member operand (.literal (.text name))) rest
      | none => (operand, t)
    | '[' :: cs =>
      match readOperand bound (skipBlanks cs) with
      | some (key, rest) =>
        match skipBlanks rest with
        | ']' :: rest => readAccessors bound (.member operand key) rest
        | _ => (operand, t)
      | none => (operand, t)
    | _ => (operand, t)

end

/-- An argument of a filter. -/
structure Argument where
  name : Option Text
  value : Operand
  deriving Repr

/-- An argument with a name, and the rest. -/
def readNamed (bound : Nat) (t : Text) : Option (Argument × Text) :=
  match readName t with
  | none => none
  | some (name, rest) =>
    match skipBlanks rest with
    | ':' :: cs =>
      (readOperand bound (skipBlanks cs)).map fun read => (⟨some name, read.1⟩, read.2)
    | _ => none

/-- An argument, and the rest. -/
def readArgument (bound : Nat) (t : Text) : Option (Argument × Text) :=
  match readNamed bound t with
  | some read => some read
  | none => (readOperand bound t).map fun read => (⟨none, read.1⟩, read.2)

/-- The call of a filter: its name and its arguments. -/
structure Call where
  name : Text
  arguments : List Argument
  deriving Repr

/-- Further arguments of a filter, each behind a comma, and the rest. -/
def readArguments : (bound : Nat) → Text → List Argument × Text
  | 0, t => ([], t)
  | bound + 1, t =>
    match skipBlanks t with
    | ',' :: cs =>
      match readArgument (bound + 1) (skipBlanks cs) with
      | some (argument, rest) =>
        match readArguments bound rest with
        | (arguments, rest) => (argument :: arguments, rest)
      | none => ([], t)
    | _ => ([], t)

/-- The call of a filter, and the rest. -/
def readCall (bound : Nat) (t : Text) : Option (Call × Text) :=
  match readName t with
  | none => none
  | some (name, rest) =>
    match skipBlanks rest with
    | ':' :: cs =>
      match readArgument bound (skipBlanks cs) with
      | some (argument, rest) =>
        match readArguments bound rest with
        | (arguments, rest) => some (⟨name, argument :: arguments⟩, rest)
      | none => some (⟨name, []⟩, rest)
    | _ => some (⟨name, []⟩, rest)

/-- Calls of filters, each behind a bar, and the rest. -/
def readCalls : (bound : Nat) → Text → List Call × Text
  | 0, t => ([], t)
  | bound + 1, t =>
    match skipBlanks t with
    | '|' :: cs =>
      match readCall (bound + 1) (skipBlanks cs) with
      | some (call, rest) =>
        match readCalls bound rest with
        | (calls, rest) => (call :: calls, rest)
      | none => ([], t)
    | _ => ([], t)

/-- An operand with the filters called on it. -/
structure Chain where
  operand : Operand
  calls : List Call
  deriving Repr

/-- An operand with its filter calls, and the rest. -/
def readChain (bound : Nat) (t : Text) : Option (Chain × Text) :=
  match readOperand bound t with
  | none => none
  | some (operand, rest) =>
    match readCalls bound rest with
    | (calls, rest) => some (⟨operand, calls⟩, rest)

/-- A range between parentheses, and the rest. -/
def readRange (bound : Nat) (t : Text) : Option ((Operand × Operand) × Text) :=
  match t with
  | '(' :: cs =>
    match readOperand bound (skipBlanks cs) with
    | none => none
    | some (first, rest) =>
      match skipBlanks rest with
      | '.' :: '.' :: cs =>
        match readOperand bound (skipBlanks cs) with
        | none => none
        | some (last, rest) =>
          match skipBlanks rest with
          | ')' :: rest => some ((first, last), rest)
          | _ => none
      | _ => none
  | _ => none

/-- A symbol inside a tag. -/
inductive Symbol where
  | comparison (comparison : Comparison)
  | assign
  | colon
  | comma
  deriving DecidableEq, Repr

/-- A symbol at the start of a text, and the rest. -/
def readSymbol : Text → Option (Symbol × Text)
  | '=' :: '=' :: cs => some (.comparison .equal, cs)
  | '!' :: '=' :: cs => some (.comparison .unequal, cs)
  | '<' :: '>' :: cs => some (.comparison .unequal, cs)
  | '<' :: '=' :: cs => some (.comparison .lessOrEqual, cs)
  | '>' :: '=' :: cs => some (.comparison .greaterOrEqual, cs)
  | '<' :: cs => some (.comparison .less, cs)
  | '>' :: cs => some (.comparison .greater, cs)
  | '=' :: cs => some (.assign, cs)
  | ':' :: cs => some (.colon, cs)
  | ',' :: cs => some (.comma, cs)
  | _ => none

/-- A parameter of a tag. -/
inductive Token where
  | range (first last : Operand)
  | chain (chain : Chain)
  | symbol (symbol : Symbol)
  deriving Repr

/-- A parameter of a tag, and the rest. -/
def readToken (bound : Nat) (t : Text) : Option (Token × Text) :=
  match readRange bound t with
  | some ((first, last), rest) => some (.range first last, rest)
  | none =>
    match readChain bound t with
    | some (chain, rest) => some (.chain chain, rest)
    | none => (readSymbol t).map fun read => (.symbol read.1, read.2)

/-- The parameters of a tag, and the rest. -/
def readTokens : (bound : Nat) → Text → List Token × Text
  | 0, t => ([], t)
  | bound + 1, t =>
    match readToken (bound + 1) (skipBlanks t) with
    | some (token, rest) =>
      match readTokens bound rest with
      | (tokens, rest) => (token :: tokens, rest)
    | none => ([], t)

/-- What follows an opening delimiter: blanks before its form with a hyphen belong to it. -/
def afterStart? (delimiter t : Text) : Option Text :=
  match Text.after? (delimiter ++ ['-']) (skipBlanks t) with
  | some rest => some rest
  | none => Text.after? delimiter t

/-- What follows a closing delimiter: blanks behind its form with a hyphen belong to it. -/
def afterStop? (delimiter t : Text) : Option Text :=
  match Text.after? ('-' :: delimiter) t with
  | some rest => some (skipBlanks rest)
  | none => Text.after? delimiter t

/-- A part of a template text. -/
inductive Element where
  | text (t : Text)
  | output (source : Text) (chain : Chain)
  | tag (source : Text) (name : Text) (parameters : List Token)
  /-- A character where an output or a tag opens and is not complete, with all that follows. -/
  | invalid (c : Char) (following : Text)
  /-- The end of the text. -/
  | finish
  deriving Repr

/-- The text that an element was read from. -/
def Element.source : Element → Text
  | .text t => t
  | .output source _ => source
  | .tag source _ _ => source
  | .invalid c _ => [c]
  | .finish => []

/-- Whether an element is malformed. -/
def Element.isInvalid : Element → Bool
  | .invalid _ _ => true
  | _ => false

/-- The part of a text that has been read when `rest` is left. -/
def readPart (t rest : Text) : Text := t.take (t.length - rest.length)

/-- An output at the start of a text, and the rest. -/
def readOutput (bound : Nat) (t : Text) : Option (Element × Text) :=
  match afterStart? outputStart t with
  | none => none
  | some inner =>
    match readChain bound (skipBlanks inner) with
    | none => none
    | some (chain, rest) =>
      (afterStop? outputStop (skipBlanks rest)).map fun rest =>
        (.output (readPart t rest) chain, rest)

/-- A tag at the start of a text, and the rest. -/
def readTag (bound : Nat) (t : Text) : Option (Element × Text) :=
  match afterStart? tagStart t with
  | none => none
  | some inner =>
    match readName (skipBlanks inner) with
    | none => none
    | some (name, rest) =>
      match readTokens bound rest with
      | (tokens, rest) =>
        (afterStop? tagStop (skipBlanks rest)).map fun rest =>
          (.tag (readPart t rest) name tokens, rest)

/-- Whether a text starts with an opening delimiter. -/
def startsElement (t : Text) : Bool :=
  (afterStart? outputStart t).isSome || (afterStart? tagStart t).isSome

/-- A character in front of elements: it joins the text that they start with. -/
def pushChar (c : Char) : List Element → List Element
  | .text t :: elements => .text (c :: t) :: elements
  | elements => .text [c] :: elements

/-- The elements of a text and its end, where each step takes a character at least. -/
def readElements : (bound : Nat) → Text → List Element
  | _, [] => [.finish]
  | 0, _ => [.finish]
  | bound + 1, c :: cs =>
    if startsElement (c :: cs) then
      match (readOutput (bound + 1) (c :: cs)).or (readTag (bound + 1) (c :: cs)) with
      | some (element, rest) => element :: readElements bound rest
      | none => .invalid c cs :: readElements bound cs
    else pushChar c (readElements bound cs)

/-- The elements of a template text. -/
def elements (t : Text) : List Element := readElements t.length t

end Liquid
end TableCodegen
