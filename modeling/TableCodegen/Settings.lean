import TableCodegen.Generator
import TableCodegen.Toml.Document

/-!
# Settings

The settings name for each generator the table, the template and the output. In a TOML document a
section of the generator's name holds them, as a table with these three keys or as an array of
three paths. A section that is left out keeps its defaults as a whole, and one that is there has to
be complete. Other keys of a section and further items of the array are ignored, other sections are
errors. Of several errors the first in the document counts.
-/

namespace TableCodegen

/-- The paths that one generator works with. -/
structure Paths where
  table : Text
  template : Text
  output : Text
  deriving DecidableEq, Repr

/-- The paths of both generators. -/
structure Settings where
  referencePoints : Paths
  informationElements : Paths
  deriving DecidableEq, Repr

namespace Settings

/-- What was expected where something else was found. -/
inductive Expected where
  | path
  | paths
  deriving DecidableEq, Repr

/-- What was found where something else was expected. -/
inductive Found where
  | integer (n : Int)
  | boolean (b : Bool)
  | text (t : Text)
  | sequence
  | map
  | float (x : Float)
  deriving DecidableEq, Repr

/-- Why a text does not hold settings. -/
inductive Error where
  | notToml
  | unknownSection (name : Text)
  | missingField (name : Text)
  | wrongKind (found : Found) (expected : Expected)
  /-- A section given as an array has too few items. -/
  | tooShort (length : Nat)
  deriving DecidableEq, Repr

/-- A name between backticks. -/
def ticked (t : Text) : Text := '\x60' :: t ++ ['\x60']

/-- What was expected, in words. -/
def Expected.words : Expected → Text
  | .path => "path string".toList
  | .paths => "struct GeneratorConfig".toList

/-- A float with a point, which is added to one that is finite and has none. -/
def pointed (x : Float) : Text :=
  let shown := Decimal.showFloat x
  if x.isFinite && !shown.contains '.' then shown ++ ['.', '0'] else shown

/-- What was found, in words. -/
def Found.words : Found → Text
  | .integer n => "integer ".toList ++ ticked (Text.decimalInt n)
  | .boolean true => "boolean ".toList ++ ticked "true".toList
  | .boolean false => "boolean ".toList ++ ticked "false".toList
  | .text t => "string ".toList ++ Text.escaped t
  | .sequence => "sequence".toList
  | .map => "map".toList
  | .float x => "floating point ".toList ++ ticked (pointed x)

/-- The name of a generator's section. -/
def sectionName : Generator → Text
  | .referencePoints => "reference_points".toList
  | .informationElements => "gtpv2_information_elements".toList

/-- The error in words. -/
def Error.message : Error → Text
  | .notToml => "invalid TOML document".toList
  | .unknownSection name =>
    "unknown field ".toList ++ ticked name ++ ", expected ".toList
      ++ ticked (sectionName .referencePoints) ++ " or ".toList
      ++ ticked (sectionName .informationElements)
  | .missingField name => "missing field ".toList ++ ticked name
  | .wrongKind found expected =>
    "invalid type: ".toList ++ found.words ++ ", expected ".toList ++ expected.words
  | .tooShort length =>
    "invalid length ".toList ++ Text.decimal length ++ ", expected ".toList
      ++ Expected.paths.words ++ " with 3 elements".toList

/-- The paths that a generator works with if nothing else is said. -/
def defaultPaths : Generator → Paths
  | .referencePoints => {
      table := "3gpp_itu_interfaces.tsv".toList
      template := "templates/reference_points.liquid".toList
      output := "../pkts-3gppitu/src/main/java/io/pkts/tgpp/ReferencePoint.java".toList }
  | .informationElements => {
      table := "GTPv2_Information_Elements.tsv".toList
      template := "templates/gtpv2_information_elements.liquid".toList
      output := "../pkts-3gppitu/src/main/java/io/pkts/tgpp/Gtp2InformationElements.java".toList }

/-- The settings if nothing else is said. -/
def defaults : Settings := ⟨defaultPaths .referencePoints, defaultPaths .informationElements⟩

/-- The paths of a generator. -/
def paths (settings : Settings) : Generator → Paths
  | .referencePoints => settings.referencePoints
  | .informationElements => settings.informationElements

/-- Settings with other paths for a generator. -/
def withPaths (settings : Settings) (paths : Paths) : Generator → Settings
  | .referencePoints => { settings with referencePoints := paths }
  | .informationElements => { settings with informationElements := paths }

/-- What a value is found to be. -/
def found : Toml.Value → Found
  | .text t => .text t
  | .integer n => .integer n
  | .boolean b => .boolean b
  | .float x => .float x
  | .dateTime => .map
  | .array _ => .sequence
  | .table _ _ => .map
  | .tables _ => .sequence

/-- The path that a value is. -/
def pathOf : Toml.Value → Except Error Text
  | .text t => .ok t
  | value => .error (.wrongKind (found value) .path)

/-- The paths read so far from a section. -/
structure PartialPaths where
  table : Option Text
  template : Option Text
  output : Option Text

/-- The paths that the entries of a section add to those read before. -/
def readEntries (before : PartialPaths) : Toml.Entries → Except Error PartialPaths
  | [] => .ok before
  | (key, value) :: entries => do
    if key = "table".toList then
      readEntries { before with table := some (← pathOf value) } entries
    else if key = "template".toList then
      readEntries { before with template := some (← pathOf value) } entries
    else if key = "output".toList then
      readEntries { before with output := some (← pathOf value) } entries
    else readEntries before entries

/-- The paths of a section that is a table. -/
def pathsOfEntries (entries : Toml.Entries) : Except Error Paths := do
  let read ← readEntries ⟨none, none, none⟩ entries
  match read.table, read.template, read.output with
  | none, _, _ => throw (.missingField "table".toList)
  | some _, none, _ => throw (.missingField "template".toList)
  | some _, some _, none => throw (.missingField "output".toList)
  | some table, some template, some output => return ⟨table, template, output⟩

/-- The paths of a section that is an array. -/
def pathsOfItems (items : List Toml.Value) : Except Error Paths := do
  match ← (items.take 3).mapM pathOf with
  | [table, template, output] => return ⟨table, template, output⟩
  | short => throw (.tooShort short.length)

/-- The paths of a section. -/
def pathsOf : Toml.Value → Except Error Paths
  | .table _ entries => pathsOfEntries entries
  | .array items => pathsOfItems items
  | .tables items => pathsOfItems (items.map (.table .header))
  | .dateTime => .error (.missingField "table".toList)
  | value => .error (.wrongKind (found value) .paths)

/-- The settings that the entries of a document add to those read before. -/
def ofEntries (before : Settings) : Toml.Entries → Except Error Settings
  | [] => .ok before
  | (key, value) :: entries => do
    if key = sectionName .referencePoints then
      ofEntries (before.withPaths (← pathsOf value) .referencePoints) entries
    else if key = sectionName .informationElements then
      ofEntries (before.withPaths (← pathsOf value) .informationElements) entries
    else throw (.unknownSection key)

/-- The settings that a text holds. -/
def parse (t : Text) : Except Error Settings :=
  match Toml.parse? t with
  | some entries => ofEntries defaults entries
  | none => .error .notToml

end Settings
end TableCodegen
