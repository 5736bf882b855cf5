import TableCodegen.Storage

/-!
# File trees

A file tree says for each place below the root whether there is a file or a directory. A path is
walked name by name from the root or the working directory: every place that a further name follows
has to be a directory, an empty name and `.` stay there and `..` goes up.

| access | outcome where it is no plain file |
| --- | --- |
| reading | not found; is a directory |
| writing | a new file; is a directory, also when the path ends in a slash |
| on the way | not found; not a directory |

The empty path leads nowhere.
-/

namespace TableCodegen

/-- The names from the root to a place. -/
abbrev Location := List Text

/-- What is at a place. -/
inductive Entry where
  | directory
  | file (content : Bytes)
  deriving DecidableEq, Repr

/-- Files and directories below the root. -/
structure FileTree where
  entries : List (Location × Entry)
  deriving DecidableEq, Repr

namespace FileTree

/-- Where relative paths start. -/
def workingDirectory : Location := ["home".toList, "work".toList]

/-- A tree in which the working directory is empty. -/
def fresh : FileTree := ⟨[(["home".toList], .directory), (workingDirectory, .directory)]⟩

/-- What is at a place; the root is a directory. -/
def lookup (tree : FileTree) (location : Location) : Option Entry :=
  if location = [] then some .directory else tree.entries.lookup location

/-- The tree with something else at a place. -/
def put (tree : FileTree) (location : Location) (entry : Entry) : FileTree :=
  ⟨(location, entry) :: tree.entries.filter (·.1 ≠ location)⟩

/-- The tree with nothing at a place. -/
def erase (tree : FileTree) (location : Location) : FileTree :=
  ⟨tree.entries.filter (·.1 ≠ location)⟩

/-- The place where a name leads from a directory. -/
def stepTo (location : Location) (name : Text) : Location :=
  if name = [] ∨ name = ['.'] then location
  else if name = ['.', '.'] then location.dropLast
  else location ++ [name]

/-- The place that names lead to; there need not be anything. -/
def walk (tree : FileTree) (location : Location) : List Text → Except IoError Location
  | [] => .ok location
  | name :: names =>
    match tree.lookup location with
    | none => .error .notFound
    | some (.file _) => .error .notDirectory
    | some .directory => walk tree (stepTo location name) names

/-- Where the names of a path start. -/
def base (path : Text) : Location := if path.head? = some '/' then [] else workingDirectory

/-- The names of a path. -/
def names (path : Text) : List Text := path.splitOn '/'

/-- The place that a path leads to; there need not be anything. -/
def locate (tree : FileTree) (path : Text) : Except IoError Location :=
  if path = [] then .error .notFound else tree.walk (base path) (names path)

/-- The content of a file. -/
def read (tree : FileTree) (path : Text) : Except IoError Bytes := do
  match tree.lookup (← tree.locate path) with
  | none => throw .notFound
  | some .directory => throw .isDirectory
  | some (.file content) => return content

/-- The place of a file to be written. A path that ends in a slash names a directory. -/
def target (tree : FileTree) (path : Text) : Except IoError Location := do
  if path.getLast? = some '/' then
    let parts := (names path).filter (· ≠ [])
    let _ ← tree.walk (base path) (parts.dropLast ++ [[]])
    throw .isDirectory
  else
    let location ← tree.locate path
    match tree.lookup location with
    | some .directory => throw .isDirectory
    | _ => return location

/-- Writes a file. -/
def write (tree : FileTree) (path : Text) (content : Bytes) : Except IoError FileTree :=
  (tree.target path).map fun location => tree.put location (.file content)

/-- Whether a path leads to a file or directory. -/
def pathExists (tree : FileTree) (path : Text) : Bool :=
  match tree.locate path with
  | .ok location => (tree.lookup location).isSome
  | .error _ => false

/-- Whether a path leads to a directory. -/
def isDirectory (tree : FileTree) (path : Text) : Bool :=
  match tree.locate path with
  | .ok location => tree.lookup location = some .directory
  | .error _ => false

/-- What becomes of one directory that is to be made. -/
inductive Making where
  | made (tree : FileTree)
  /-- The place for it is not there. -/
  | missing
  /-- Its name is taken, or `.` or `..`, or there is a file on the way. -/
  | refused

/-- Makes the directory that the last name of a path stands for, and none on the way to it. -/
def makeLast (tree : FileTree) (path : Text) : Making :=
  let parts := ((names path).reverse.dropWhile (· = [])).reverse
  match parts.getLast? with
  | none => .refused
  | some last =>
    match tree.walk (base path) parts.dropLast with
    | .error .notFound => .missing
    | .error _ => .refused
    | .ok location =>
      match tree.lookup location with
      | none => .missing
      | some (.file _) => .refused
      | some .directory =>
        if last = ['.'] ∨ last = ['.', '.'] ∨ (tree.lookup (location ++ [last])).isSome then
          .refused
        else .made (tree.put (location ++ [last]) .directory)

/-- The names of a path that lead on: empty names do not, and `.` only at the very start. -/
def components (path : Text) : List Text :=
  match names path with
  | [] => []
  | first :: others =>
    (if first = [] then [] else [first]) ++ others.filter fun name => name ≠ [] ∧ name ≠ ['.']

/-- The path without its last component; the root and the empty path have none. -/
def parent? (path : Text) : Option Text :=
  match components path with
  | [] => none
  | parts =>
    some ((if path.head? = some '/' then ['/'] else []) ++ Text.joinWith ['/'] parts.dropLast)

/-- Makes a directory and those on the way to it, at most `bound` of them. A directory that is
there already is as good as a new one. -/
def makeUpTo : (bound : Nat) → FileTree → (path : Text) → Bool × FileTree
  | 0, tree, _ => (false, tree)
  | bound + 1, tree, path =>
    if path = [] then (true, tree)
    else
      match tree.makeLast path with
      | .made tree => (true, tree)
      | .refused => (tree.isDirectory path, tree)
      | .missing =>
        match parent? path with
        | none => (false, tree)
        | some parent =>
          match makeUpTo bound tree parent with
          | (false, tree) => (false, tree)
          | (true, tree) =>
            match tree.makeLast path with
            | .made tree => (true, tree)
            | _ => (tree.isDirectory path, tree)

/-- Makes a directory and those on the way to it: whether it is there afterwards, and the tree. -/
def makeDirectory (tree : FileTree) (path : Text) : Bool × FileTree :=
  makeUpTo ((components path).length + 1) tree path

/-- Removes a file. -/
def removeFile (tree : FileTree) (path : Text) : Except IoError FileTree := do
  let location ← tree.locate path
  match tree.lookup location with
  | none => throw .notFound
  | some .directory => throw .isDirectory
  | some (.file _) => return tree.erase location

/-- A file tree is a place where files are kept. -/
instance : Storage (StateM FileTree) where
  readBytes path := do return (← get).read path
  writeBytes path content := do
    match (← get).write path content with
    | .ok tree => set tree; return .ok ()
    | .error reason => return .error reason
  pathExists path := do return (← get).pathExists path

end FileTree
end TableCodegen
