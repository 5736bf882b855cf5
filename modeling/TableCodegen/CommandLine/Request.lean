import TableCodegen.CommandLine.Argument
import TableCodegen.Generator
import TableCodegen.Java.ByteArray

/-!
# Requests

A command line starts with the switches for all commands, then names a command, and goes on with
the switches and operands of that command:

| command | switches | operands |
| --- | --- | --- |
| `reference-points`, `gtpv2-ies` | `-i`/`--table`, `-t`/`--template`, `-o`/`--output` | none |
| `byte-literal` | `--legacy-boundary` | digits and name |

For all commands there are `-c`/`--config`, `-q`/`--quiet` and `-V`/`--version`. Every command
knows `-h`/`--help`. No switch may be given twice and no path may be empty. The arguments are taken
from the left, so a fault behind `--version` does not matter.
-/

namespace TableCodegen
namespace CommandLine

/-- Paths that take the place of those in the settings. -/
structure Overrides where
  table : Option Text
  template : Option Text
  output : Option Text
  deriving DecidableEq, Repr

/-- What is to be done. -/
inductive Task where
  | generate (generator : Generator) (overrides : Overrides)
  | byteLiteral (hex name : Text) (boundary : Java.Boundary)
  deriving DecidableEq, Repr

/-- What a command line asks for. -/
inductive Request where
  | version
  | help
  | run (settingsFile : Option Text) (quiet : Bool) (task : Task)
  deriving DecidableEq, Repr

/-- The switches for all commands. -/
inductive GlobalKey where
  | config
  | quiet
  | version
  | help
  deriving DecidableEq, Repr

/-- The switches of a generator command. -/
inductive PathKey where
  | table
  | template
  | output
  | help
  deriving DecidableEq, Repr

/-- The switches of the byte literal command. -/
inductive LiteralKey where
  | legacyBoundary
  | help
  deriving DecidableEq, Repr

/-- The names of the switches for all commands. -/
def globalSwitches : List (Switch GlobalKey) := [
  ⟨.config, "config".toList, some 'c', true⟩,
  ⟨.quiet, "quiet".toList, some 'q', false⟩,
  ⟨.version, "version".toList, some 'V', false⟩,
  ⟨.help, "help".toList, some 'h', false⟩]

/-- The names of the switches of a generator command. -/
def pathSwitches : List (Switch PathKey) := [
  ⟨.table, "table".toList, some 'i', true⟩,
  ⟨.template, "template".toList, some 't', true⟩,
  ⟨.output, "output".toList, some 'o', true⟩,
  ⟨.help, "help".toList, some 'h', false⟩]

/-- The names of the switches of the byte literal command. -/
def literalSwitches : List (Switch LiteralKey) := [
  ⟨.legacyBoundary, "legacy-boundary".toList, none, false⟩,
  ⟨.help, "help".toList, some 'h', false⟩]

/-- The task of a command, or its help. -/
inductive Goal where
  | help
  | task (task : Task)
  deriving DecidableEq, Repr

/-- A value given for the first time; it must not be empty. -/
def once (before : Option Text) (value : Text) : Option (Option Text) :=
  if before.isNone ∧ value ≠ [] then some (some value) else none

/-- The goal of a generator command after the overrides read before. -/
def generatorGoal (generator : Generator) (before : Overrides) :
    List (Item PathKey) → Option Goal
  | [] => some (.task (.generate generator before))
  | .flag .help :: _ => some .help
  | .setting .table value :: items => do
    generatorGoal generator { before with table := ← once before.table value } items
  | .setting .template value :: items => do
    generatorGoal generator { before with template := ← once before.template value } items
  | .setting .output value :: items => do
    generatorGoal generator { before with output := ← once before.output value } items
  | _ => none

/-- The goal of the byte literal command after the operands and the flag read before. -/
def literalGoal (operands : List Text) (legacy : Bool) : List (Item LiteralKey) → Option Goal
  | [] =>
    match operands with
    | [hex, name] => some (.task (.byteLiteral hex name (if legacy then .legacy else .exact)))
    | _ => none
  | .flag .help :: _ => some .help
  | .flag .legacyBoundary :: items => if legacy then none else literalGoal operands true items
  | .operand t _ :: items | .plainOperand t :: items =>
    if operands.length < 2 then literalGoal (operands ++ [t]) legacy items else none
  | _ => none

/-- The goal of a command given by its name, with the arguments behind it. -/
def commandGoal (name : Text) (arguments : List Text) : Option Goal :=
  if name = "reference-points".toList then
    generatorGoal .referencePoints ⟨none, none, none⟩ (readItems pathSwitches none arguments)
  else if name = "gtpv2-ies".toList then
    generatorGoal .informationElements ⟨none, none, none⟩ (readItems pathSwitches none arguments)
  else if name = "byte-literal".toList then
    literalGoal [] false (readItems literalSwitches none arguments)
  else if name = "help".toList then some .help
  else none

/-- The request after the switches read before. -/
def requestOf (settingsFile : Option Text) (quiet : Bool) :
    List (Item GlobalKey) → Option Request
  | .flag .version :: _ => some .version
  | .flag .help :: _ => some .help
  | .flag .quiet :: items => if quiet then none else requestOf settingsFile true items
  | .setting .config value :: items => do
    requestOf (← once settingsFile value) quiet items
  | .operand name following :: _ =>
    (commandGoal name following).map fun
      | .help => .help
      | .task task => .run settingsFile quiet task
  | _ => none

/-- The request that arguments make, if they make one. -/
def Request.ofArguments? (arguments : List Text) : Option Request :=
  requestOf none false (readItems globalSwitches none arguments)

end CommandLine
end TableCodegen
