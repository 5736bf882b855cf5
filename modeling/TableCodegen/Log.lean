import TableCodegen.Text

/-!
# Log events

What a run reports on its way. A threshold lets through the events of its level and above. It is
named by a filter:

| filter | lets through |
| --- | --- |
| `off`, `error`, `warn` | nothing, as no event is of their levels |
| `info` | what is done |
| `debug`, `trace` | what is done, and the single rows |

In front of the level `pkts_codegen=` may stand, and the level may be in letters of either case or
the number of its place in `off`, `error`, `warn`, `info`, `debug`, `trace`, counted from zero. Of
filters no more is read: lists of directives between commas, other targets than the whole program,
and conditions on spans and fields name no threshold.

The message of an information element is no field with a name, so its controls that a terminal may
act on are written as escapes. The values of fields are written as they are.
-/

namespace TableCodegen
namespace Log

/-- The weight of an event. -/
inductive Level where
  | debug
  | info
  deriving DecidableEq, Repr

/-- What is let through. -/
inductive Threshold where
  | debug
  | info
  | warn
  deriving DecidableEq, Repr

/-- Whether events of a level pass a threshold. -/
def Threshold.admits : Threshold → Level → Bool
  | .debug, _ => true
  | .info, level => level == .info
  | .warn, _ => false

/-- The threshold of a level. -/
def Threshold.ofLevel? (level : Text) : Option Threshold :=
  match String.ofList (level.map Char.toLower) with
  | "off" | "error" | "warn" | "0" | "1" | "2" => some .warn
  | "info" | "3" => some .info
  | "debug" | "trace" | "4" | "5" => some .debug
  | _ => none

/-- The threshold of a filter, which is a level for the whole program. -/
def Threshold.ofFilter? (filter : Text) : Option Threshold :=
  ofLevel? ((Text.after? "pkts_codegen=".toList filter).getD filter)

example : Threshold.ofFilter? "pkts_codegen=DEBUG".toList = some .debug := by decide

/-- Something that happened in a run. -/
inductive Event where
  /-- There is no configuration file of the default name. -/
  | noSettings
  | settingsLoaded (path : Text)
  | referencePoint (line : Nat) (name : Text)
  | informationElement (line : Nat) (message : Text)
  | rowSkipped (line : Nat)
  | referencePointsLoaded (count : Nat)
  | informationElementsLoaded (count : Nat)
  | sourceWritten (path : Text) (bytes : Nat)
  | generationDone (count : Nat) (output : Text)
  deriving DecidableEq, Repr

/-- The name of the configuration file that is looked for in the working directory. -/
def defaultSettingsFile : Text := "codegen.toml".toList

/-- A character of a message: a control that a terminal may act on is written as an escape. -/
def messageChar (c : Char) : Text :=
  let n := c.toNat
  let digits : Text := [Nat.digitChar (n / 16), Nat.digitChar (n % 16)]
  if n = 0x07 ∨ n = 0x08 ∨ n = 0x0C ∨ n = 0x1B ∨ n = 0x7F then '\\' :: 'x' :: digits
  else if 0x80 ≤ n ∧ n ≤ 0x9F then '\\' :: 'u' :: '\x7b' :: digits ++ ['\x7d']
  else [c]

namespace Event

/-- The level of an event. -/
def level : Event → Level
  | .noSettings | .settingsLoaded _ | .referencePoint _ _ | .informationElement _ _
  | .rowSkipped _ => .debug
  | .referencePointsLoaded _ | .informationElementsLoaded _ | .sourceWritten _ _
  | .generationDone _ _ => .info

/-- The event in words. -/
def words : Event → Text
  | .noSettings => "no ".toList ++ defaultSettingsFile ++ " found, using defaults".toList
  | .settingsLoaded path => "loaded configuration path=".toList ++ path
  | .referencePoint line name =>
    "reference point line=".toList ++ Text.decimal line ++ " name=".toList ++ name
  | .informationElement line message =>
    "information element line=".toList ++ Text.decimal line ++ ' ' :: message.flatMap messageChar
  | .rowSkipped line => "skipping marked row line=".toList ++ Text.decimal line
  | .referencePointsLoaded count =>
    "loaded reference point table count=".toList ++ Text.decimal count
  | .informationElementsLoaded count =>
    "loaded information element table count=".toList ++ Text.decimal count
  | .sourceWritten path bytes =>
    "wrote generated source path=".toList ++ path ++ " bytes=".toList ++ Text.decimal bytes
  | .generationDone count output =>
    "generation done count=".toList ++ Text.decimal count ++ " output=".toList ++ output

/-- The log line of an event. -/
def line (event : Event) : Text :=
  (match event.level with
    | .debug => "DEBUG ".toList
    | .info => "INFO ".toList) ++ event.words

end Event

/-- The log lines of the events that pass a threshold. -/
def lines (threshold : Threshold) (events : List Event) : List Text :=
  (events.filter fun event => threshold.admits event.level).map Event.line

end Log
end TableCodegen
