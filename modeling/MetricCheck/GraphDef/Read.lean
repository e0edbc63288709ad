-- Reading graph definitions from JSON. The document is an object with a map of
-- graphs; a graph is an object with a unit and a list of metrics, each an object
-- with a name. Only the name must be there; fields of other names are skipped.
import MetricCheck.GraphDef.Basic
import MetricCheck.Json.Reader

namespace MetricCheck

open Json

namespace GraphDefs

/-- A metric of a graph, of which only the name counts. -/
def nameReader : Reader String :=
  .record "struct GraphDefMetric"
    [⟨"name", Option.isSome, fun _ => Reader.string.map some⟩]
    none
    (fun name => match name with
      | some name => .ok name
      | none => .error (.missingField "name"))
    (fun name => match name with
      | some name => .ok name
      | none => .error (.invalidLength 0 "struct GraphDefMetric with 1 element"))

/-- The fields of a graph that have been read. -/
structure GraphParts where
  unit : Option String := none
  names : Option (List String) := none

/-- An absent unit is empty, and absent metrics are none. -/
def GraphParts.graph (parts : GraphParts) : Graph :=
  ⟨parts.unit.getD "", parts.names.getD []⟩

def graphReader : Reader Graph :=
  .record "struct GraphDef"
    [⟨"unit", fun parts => parts.unit.isSome,
        fun parts => Reader.string.map fun unit => { parts with unit := some unit }⟩,
      ⟨"metrics", fun parts => parts.names.isSome,
        fun parts => (Reader.list nameReader).map fun names => { parts with names := some names }⟩]
    ({} : GraphParts)
    (fun parts => .ok parts.graph)
    (fun parts => .ok parts.graph)

/-- The map of graphs; a key that comes again replaces its graph. -/
def graphsReader : Reader GraphDefs :=
  .object (fun defs key => graphReader.map fun graph => defs.insert key graph) ∅

def reader : Reader GraphDefs :=
  .record "struct GraphDefs"
    [⟨"graphs", Option.isSome, fun _ => graphsReader.map some⟩]
    none
    (fun defs => .ok (defs.getD ∅))
    (fun defs => .ok (defs.getD ∅))

end GraphDefs

/-- The graph definitions of a document. -/
def readGraphDefs (document : ByteArray) : Except Json.Defect GraphDefs :=
  GraphDefs.reader.document document.data.toList

end MetricCheck
