import TableCodegen.Text

/-!
# Input and output errors
-/

namespace TableCodegen

/-- Why a file or a stream cannot be read or written. -/
inductive IoError where
  | notFound
  | isDirectory
  | notDirectory
  /-- The content is no UTF-8 text. -/
  | notUtf8
  /-- Any other reason, in words. -/
  | other (reason : Text)
  deriving DecidableEq, Repr

/-- The reason in words, with the number of the system error where it is one. -/
def IoError.message : IoError → Text
  | .notFound => "No such file or directory (os error 2)".toList
  | .isDirectory => "Is a directory (os error 21)".toList
  | .notDirectory => "Not a directory (os error 20)".toList
  | .notUtf8 => "stream did not contain valid UTF-8".toList
  | .other reason => reason

end TableCodegen
