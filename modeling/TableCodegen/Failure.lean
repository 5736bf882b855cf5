import TableCodegen.Document.Excerpt
import TableCodegen.IoError
import TableCodegen.Hex
import TableCodegen.Liquid.Error
import TableCodegen.Settings

/-!
# Failures

Every stage of a run has its own kind of error; a failure is any of them. Its report has a summary
line, for a table error the excerpt that it points at, and a line that says what is wrong.
-/

namespace TableCodegen

/-- Why a run fails. -/
inductive Failure where
  | io (path : Text) (reason : IoError)
  | table (error : Table.Error)
  | template (error : Liquid.Error)
  | settings (error : Settings.Error)
  | hex (error : Hex.Error)
  | dump (reason : IoError)
  deriving DecidableEq, Repr

namespace Failure

/-- Whether a failure ends the program on the spot. -/
def isFatal : Failure → Bool
  | .template error => error.isFatal
  | _ => false

/-- What is wrong, in words. -/
def message : Failure → Text
  | .io path reason => path ++ ": ".toList ++ reason.message
  | .table error => error.cause.message
  | .template error => "template error: ".toList ++ error.message
  | .settings error => "config error: ".toList ++ error.message
  | .hex error => "invalid hex string: ".toList ++ error.message
  | .dump reason => "json error: ".toList ++ reason.message

/-- The summary line with its line feed, and the excerpt of a table error. -/
def summary (table : Document) : Failure → Except SpanFault Text
  | .table error => (table.excerpt error.span).map ("table error\n".toList ++ ·)
  | .template _ => .ok "template error\n".toList
  | _ => .ok "error\n".toList

/-- The report of a failure in a run on a table. -/
def report (table : Document) (failure : Failure) : Except SpanFault Text :=
  (failure.summary table).map fun summary => summary ++ failure.message ++ ['\n']

end Failure

/-- What is wrong when a table cannot be read, in words. -/
def IoError.tableMessage (reason : IoError) : Text := "file io error: ".toList ++ reason.message

end TableCodegen
