import TableCodegen.ReferencePoint
import TableCodegen.InformationElement
import TableCodegen.Log

/-!
# The two generators

A generator reads one kind of table and hands its records to a template under one variable.

| generator | template variable |
| --- | --- |
| `referencePoints` | `interfaces` |
| `informationElements` | `elements` |
-/

namespace TableCodegen

/-- The kinds of tables that sources are generated from. -/
inductive Generator where
  | referencePoints
  | informationElements
  deriving DecidableEq, Repr

namespace Generator

/-- The template variable that holds the records. -/
def templateVariable : Generator → Text
  | .referencePoints => "interfaces".toList
  | .informationElements => "elements".toList

/-- The exposed record of a row; none for a row to be passed over. -/
def recordOfRow (generator : Generator) (row : Table.Row) :
    Except Table.Error (Option Record) :=
  match generator with
  | .referencePoints => (ReferencePoint.ofRow row).map fun point => some point.expose
  | .informationElements =>
    (InformationElement.ofRow row).map fun element? => element?.map (·.expose)

/-- The exposed records of a table. -/
def load (generator : Generator) (table : Text) : Except Table.Error (List Record) :=
  match generator with
  | .referencePoints => (ReferencePoint.load table).map (·.map (·.expose))
  | .informationElements => (InformationElement.load table).map (·.map (·.expose))

/-- What is reported of a row when it has been read. -/
def rowEvent (generator : Generator) (row : Table.Row) : Except Table.Error Log.Event :=
  match generator with
  | .referencePoints =>
    (ReferencePoint.ofRow row).map fun point => .referencePoint row.line point.name
  | .informationElements =>
    (InformationElement.ofRow row).map fun
      | some element => .informationElement row.line element.message
      | none => .rowSkipped row.line

/-- What is reported when `count` records have been loaded. -/
def loadedEvent (generator : Generator) (count : Nat) : Log.Event :=
  match generator with
  | .referencePoints => .referencePointsLoaded count
  | .informationElements => .informationElementsLoaded count

/-- What is reported of rows read one after the other, up to the first that fails. -/
def rowEvents (generator : Generator) : List Table.Row → List Log.Event
  | [] => []
  | row :: rows =>
    match generator.rowEvent row with
    | .ok event => event :: rowEvents generator rows
    | .error _ => []

/-- What is reported while a table is loaded. -/
def loadEvents (generator : Generator) (table : Text) : List Log.Event :=
  generator.rowEvents (Table.rows table) ++
    match generator.load table with
    | .ok records => [generator.loadedEvent records.length]
    | .error _ => []

end Generator
end TableCodegen
