import TableCodegen.Text

/-!
# Arguments as switches and operands

An argument that starts with a hyphen holds switches, unless the hyphen is all of it; any other is
an operand. A switch is a *flag* or takes a value:

| written | meaning |
| --- | --- |
| `--name` | a flag, or a switch whose value is the next argument |
| `--name=value` | a switch and its value, which may be empty |
| `-abc` | the flags `a`, `b` and `c`, or `a` with the value `bc` |
| `-a=value` | a switch and its value, which may be empty |
| `--` | all arguments behind it are operands |

A value that is an argument of its own does not start with a hyphen, unless the hyphen is all of
it. What cannot be read is a fault; what stands before it still counts.
-/

namespace TableCodegen
namespace CommandLine

/-- A switch that a command knows under a key: its names and whether it takes a value. -/
structure Switch (κ : Type) where
  key : κ
  long : Text
  short : Option Char
  takesValue : Bool
  deriving Repr

/-- What an argument says. -/
inductive Item (κ : Type) where
  | flag (key : κ)
  | setting (key : κ) (value : Text)
  /-- An operand that may name a command, with the arguments behind it. -/
  | operand (t : Text) (following : List Text)
  /-- An operand behind `--`. -/
  | plainOperand (t : Text)
  | fault
  deriving DecidableEq, Repr

/-- What an argument says, when the next argument does not matter. -/
structure Reading (κ : Type) where
  items : List (Item κ)
  /-- The switch that takes the next argument as its value. -/
  awaiting : Option κ
  deriving Repr

/-- The parts of a text before and after the first equals sign. -/
def splitEquals (t : Text) : Text × Option Text :=
  match t.dropWhile (· ≠ '=') with
  | [] => (t, none)
  | _ :: value => (t.takeWhile (· ≠ '='), some value)

/-- Whether an argument holds switches. -/
def holdsSwitches (argument : Text) : Bool := argument.head? == some '-' && argument ≠ ['-']

variable {κ : Type}

/-- What a switch in its long form says, given without its two hyphens. -/
def readLong (switches : List (Switch κ)) (body : Text) : Reading κ :=
  let (name, value?) := splitEquals body
  match switches.find? (·.long == name), value? with
  | none, _ => ⟨[.fault], none⟩
  | some switch, none =>
    if switch.takesValue then ⟨[], some switch.key⟩ else ⟨[.flag switch.key], none⟩
  | some switch, some value =>
    if switch.takesValue then ⟨[.setting switch.key value], none⟩ else ⟨[.fault], none⟩

/-- A value without the equals sign in front of it. -/
def afterEquals : Text → Text
  | '=' :: value => value
  | value => value

/-- What switches in their short forms say, given without the hyphen. -/
def readShort (switches : List (Switch κ)) : Text → Reading κ
  | [] => ⟨[], none⟩
  | c :: cs =>
    match switches.find? (·.short == some c) with
    | none => ⟨[.fault], none⟩
    | some switch =>
      if switch.takesValue then
        if cs.isEmpty then ⟨[], some switch.key⟩
        else ⟨[.setting switch.key (afterEquals cs)], none⟩
      else
        let reading := readShort switches cs
        ⟨.flag switch.key :: reading.items, reading.awaiting⟩

/-- What arguments say; `awaiting` is the switch that takes the first one as its value. -/
def readItems (switches : List (Switch κ)) : (awaiting : Option κ) → List Text → List (Item κ)
  | none, [] => []
  | some _, [] => [.fault]
  | some key, argument :: rest =>
    if holdsSwitches argument then [.fault]
    else .setting key argument :: readItems switches none rest
  | none, argument :: rest =>
    match argument with
    | ['-', '-'] => rest.map .plainOperand
    | '-' :: '-' :: body =>
      let reading := readLong switches body
      reading.items ++ readItems switches reading.awaiting rest
    | '-' :: c :: body =>
      let reading := readShort switches (c :: body)
      reading.items ++ readItems switches reading.awaiting rest
    | _ => .operand argument rest :: readItems switches none rest

end CommandLine
end TableCodegen
