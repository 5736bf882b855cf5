import TableCodegen.CommandLine.Run

/-!
# The program

The command line over the real file system. Reported events go to the error stream in front of the
report of a failure. The environment variable `RUST_LOG` holds the filter for them (`Log`): if it is
not set the threshold is `info`, and under a filter that names no threshold nothing is reported.
-/

namespace TableCodegen

/-- An error of the operating system. Some accesses give its number with the sign changed. -/
def IoError.ofSystem : IO.Error → IoError
  | .noFileOrDirectory _ _ _ => .notFound
  | .inappropriateType _ number _ =>
    if number = 20 ∨ number = -20 then .notDirectory else .isDirectory
  | reason => .other reason.toString.toList

/-- Runs an access to the file system. -/
def attempt {α : Type} (access : IO α) : IO (Except IoError α) := do
  try return .ok (← access)
  catch reason => return .error (.ofSystem reason)

/-- The files of the operating system. -/
instance : Storage IO where
  readBytes path := attempt do
    return (← IO.FS.readBinFile (String.ofList path)).toList
  writeBytes path content := attempt do
    IO.FS.writeBinFile (String.ofList path) ⟨content.toArray⟩
  pathExists path := do
    match ← attempt (IO.FS.readBinFile (String.ofList path)) with
    | .error .notFound | .error .notDirectory => return false
    | _ => return true

/-- The threshold of a filter that may not be there. -/
def thresholdOf (filter : Option String) : Option Log.Threshold :=
  match filter with
  | none => some .info
  | some filter => Log.Threshold.ofFilter? filter.toList

/-- Runs the arguments, writes both streams and gives the status. -/
def runProgram (arguments : List String) : IO UInt32 := do
  let outcome : CommandLine.Outcome ← CommandLine.run (arguments.map String.toList)
  let stdout ← IO.getStdout
  let stderr ← IO.getStderr
  stdout.write ⟨outcome.stdout.toArray⟩
  stdout.flush
  match thresholdOf (← IO.getEnv "RUST_LOG") with
  | none => pure ()
  | some threshold =>
    for line in Log.lines threshold outcome.events do
      stderr.putStr (String.ofList (line ++ ['\n']))
  stderr.putStr (String.ofList outcome.stderr)
  return UInt32.ofNat outcome.status

end TableCodegen

/-- The program. -/
def main (arguments : List String) : IO UInt32 := TableCodegen.runProgram arguments
