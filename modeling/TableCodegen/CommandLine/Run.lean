import TableCodegen.CommandLine.Request
import TableCodegen.Generate

/-!
# Running a request

| outcome | status |
| --- | ---: |
| done | 0 |
| a failure, reported on the error stream | 1 |
| the arguments make no request | 2 |
| a fatal failure, told without a report | 101 |

A generator command loads the settings first and then the table. Without a settings file given, the
one of the default name is read if it is there, and else the defaults hold. The byte literal command
touches no files. The output stream receives what a run echoes, unless it is to be quiet.
-/

namespace TableCodegen
namespace CommandLine

/-- The result of a command line: the exit status, both streams and the reported events. -/
structure Outcome where
  status : Nat
  stdout : Bytes
  stderr : Text
  events : List Log.Event
  deriving DecidableEq, Repr

/-- The name and version of the program. -/
def versionLine : Text := "pkts-codegen 0.1.0\n".toList

/-- What the program can be asked for. -/
def usage : Text := Text.joinWith ['\n'] [
  "Generate the pkts-3gppitu java sources".toList,
  [],
  "Usage: pkts-codegen [-c FILE] [-q] COMMAND".toList,
  [],
  "Commands:".toList,
  "  reference-points [-i TABLE] [-t TEMPLATE] [-o OUTPUT]".toList,
  "  gtpv2-ies [-i TABLE] [-t TEMPLATE] [-o OUTPUT]".toList,
  "  byte-literal [--legacy-boundary] HEX NAME".toList,
  []]

/-- Paths with the overrides in their places. -/
def Overrides.applyTo (overrides : Overrides) (paths : Paths) : Paths where
  table := overrides.table.getD paths.table
  template := overrides.template.getD paths.template
  output := overrides.output.getD paths.output

/-- The outcome of a run that ends with a message below the line `error`. -/
def failed (message : Text) (stdout : Bytes) (events : List Log.Event) : Outcome :=
  ⟨1, stdout, "error\n".toList ++ message ++ ['\n'], events⟩

/-- The report of a failure; without an excerpt where its span has none. -/
def reportOf (table : Document) (failure : Failure) : Text :=
  match failure.report table with
  | .ok report => report
  | .error _ => failure.message ++ ['\n']

section Files

variable {m : Type → Type} [Monad m] [Storage m]

/-- The settings of a file. -/
def readSettings (path : Text) : m (Except Failure Settings × List Log.Event) := do
  match ← Storage.readText path with
  | .error reason => return (.error (.io path reason), [])
  | .ok text =>
    match Settings.parse text with
    | .error error => return (.error (.settings error), [])
    | .ok settings => return (.ok settings, [.settingsLoaded path])

/-- The settings of a run, and what is reported while they are loaded. -/
def loadSettings (settingsFile : Option Text) :
    m (Except Failure Settings × List Log.Event) := do
  match settingsFile with
  | some path => readSettings path
  | none =>
    if ← Storage.pathExists Log.defaultSettingsFile then readSettings Log.defaultSettingsFile
    else return (.ok .defaults, [.noSettings])

/-- Runs a generator on the table that the paths name. -/
def runOnTable (generator : Generator) (paths : Paths) (quiet : Bool)
    (before : List Log.Event) : m Outcome := do
  match ← Storage.readText paths.table with
  | .error reason => return failed (paths.table ++ ": ".toList ++ reason.tableMessage) [] before
  | .ok text =>
    let run ← generate generator text paths (if quiet then none else some Sink.unlimited)
    let stdout := (run.echo.map Sink.received).getD []
    match run.outcome with
    | .error failure =>
      let events := before ++ run.events
      if failure.isFatal then return ⟨101, stdout, failure.message ++ ['\n'], events⟩
      else return ⟨1, stdout, reportOf ⟨paths.table, text⟩ failure, events⟩
    | .ok count =>
      return ⟨0, stdout, [], before ++ run.events ++ [.generationDone count paths.output]⟩

/-- Carries out a task. -/
def perform (settingsFile : Option Text) (quiet : Bool) : Task → m Outcome
  | .byteLiteral hex name boundary =>
    match Java.declareHex hex name boundary with
    | .ok literal => return ⟨0, Text.utf8 literal, [], []⟩
    | .error error => return failed (Failure.hex error).message [] []
  | .generate generator overrides => do
    match ← loadSettings settingsFile with
    | (.error failure, events) => return failed failure.message [] events
    | (.ok settings, events) =>
      runOnTable generator (overrides.applyTo (settings.paths generator)) quiet events

/-- Carries out what the arguments ask for. -/
def run (arguments : List Text) : m Outcome :=
  match Request.ofArguments? arguments with
  | none => return ⟨2, [], usage, []⟩
  | some .version => return ⟨0, Text.utf8 versionLine, [], []⟩
  | some .help => return ⟨0, Text.utf8 usage, [], []⟩
  | some (.run settingsFile quiet task) => perform settingsFile quiet task

end Files
end CommandLine
end TableCodegen
