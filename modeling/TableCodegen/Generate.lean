import TableCodegen.Failure
import TableCodegen.Liquid.Render
import TableCodegen.Sink
import TableCodegen.Storage

/-!
# Generating a source

A run loads the records of a table, renders them through a template and writes the output file. An
echo receives the dump of the records, a line feed and the rendered source on the way:

1. the table is loaded;
2. the dump and the line feed are echoed;
3. the template is read, parsed and rendered;
4. the source is echoed;
5. the output file is written.

The first stage that fails ends the run, so a run that fails has not written the output.
-/

namespace TableCodegen

/-- How a run ended, what its echo has received, and what it reported. -/
structure Generation where
  outcome : Except Failure Nat
  echo : Option Sink
  events : List Log.Event

/-- The name under which failures of the echo are reported. -/
def echoPath : Text := "<stdout>".toList

/-- The source that a template text makes of records. -/
def renderRecords (generator : Generator) (source : Text) (records : List Record) :
    Except Liquid.Error Text :=
  Liquid.renderText source generator.templateVariable (records.map Liquid.Value.ofRecord)

/-- Stages 3 to 5, for records that are loaded and echoed. -/
def emitSource {m : Type → Type} [Monad m] [Storage m] (generator : Generator)
    (records : List Record) (paths : Paths) (echo : Option Sink) (events : List Log.Event) :
    m Generation := do
  match ← Storage.readText paths.template with
  | .error reason => return ⟨.error (.io paths.template reason), echo, events⟩
  | .ok source =>
    match renderRecords generator source records with
    | .error error => return ⟨.error (.template error), echo, events⟩
    | .ok text =>
      match Sink.writeTo echo text with
      | (echo, false) => return ⟨.error (.io echoPath Sink.full), echo, events⟩
      | (echo, true) =>
        match ← Storage.writeText paths.output text with
        | .error reason => return ⟨.error (.io paths.output reason), echo, events⟩
        | .ok () =>
          return ⟨.ok records.length, echo,
            events ++ [.sourceWritten paths.output (Text.byteSize text)]⟩

/-- Runs a generator on a table text. -/
def generate {m : Type → Type} [Monad m] [Storage m] (generator : Generator) (table : Text)
    (paths : Paths) (echo : Option Sink) : m Generation := do
  let events := generator.loadEvents table
  match generator.load table with
  | .error error => return ⟨.error (.table error), echo, events⟩
  | .ok records =>
    match Sink.writeTo echo (Dump.records records) with
    | (echo, false) => return ⟨.error (.dump Sink.full), echo, events⟩
    | (echo, true) =>
      match Sink.writeTo echo ['\n'] with
      | (echo, false) => return ⟨.error (.io echoPath Sink.full), echo, events⟩
      | (echo, true) => emitSource generator records paths echo events

end TableCodegen
