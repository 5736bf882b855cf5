import TableCodegen.IoError

/-!
# Access to files

What the program needs of a file system: reading a whole file, replacing a whole file, and asking
whether a path leads anywhere. A relative path starts at the working directory.
-/

namespace TableCodegen

/-- A place where files are kept. -/
class Storage (m : Type → Type) where
  /-- The content of a file. -/
  readBytes : (path : Text) → m (Except IoError Bytes)
  /-- Makes a file hold exactly the given bytes; it is created if need be. -/
  writeBytes : (path : Text) → Bytes → m (Except IoError Unit)
  /-- Whether a path leads to a file or directory. -/
  pathExists : (path : Text) → m Bool

namespace Storage

/-- The content of a file as text. -/
def readText {m : Type → Type} [Monad m] [Storage m] (path : Text) :
    m (Except IoError Text) := do
  match ← readBytes path with
  | .error reason => return .error reason
  | .ok bytes =>
    match Text.ofUtf8? bytes with
    | some t => return .ok t
    | none => return .error .notUtf8

/-- Makes a file hold exactly the given text. -/
def writeText {m : Type → Type} [Storage m] (path t : Text) : m (Except IoError Unit) :=
  writeBytes path (Text.utf8 t)

end Storage
end TableCodegen
