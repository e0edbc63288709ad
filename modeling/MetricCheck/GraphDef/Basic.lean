-- Graph definitions: metric names grouped under the key of a graph. Every name
-- becomes a rule for the path of key and name, and the graph's unit says how its
-- values are bounded.
import Std.Data.TreeMap.Basic
import MetricCheck.Rule.Basic

namespace MetricCheck

/-- A graph: the unit of its values and the names of its metrics. -/
structure Graph where
  unit : String
  names : List String
deriving DecidableEq

/-- Graphs by their keys, in the order of the keys' code points. -/
abbrev GraphDefs := Std.TreeMap String Graph

namespace GraphDefs

/-- The graphs of a list; of several with one key the last stays. -/
def ofEntries (entries : List (String × Graph)) : GraphDefs :=
  entries.foldl (fun defs entry => defs.insert entry.1 entry.2) ∅

end GraphDefs

namespace Graph

/-- At least zero, and for percentages at most a hundred. -/
def bounds (g : Graph) : List Constraint :=
  ⟨.greaterEqual, .zero false⟩ ::
    (if g.unit = "percentage" then [⟨.lessEqual, .ofRatio false 100 1⟩] else [])

/-- The rules of a graph with a key: a required one for each name. -/
def rules (key : String) (g : Graph) : List Rule :=
  g.names.map fun name => { path := key ++ "." ++ name, required := true, constraints := g.bounds }

end Graph

/-- The rules of all graphs, in the order of their keys. -/
def generateRules (defs : GraphDefs) : List Rule :=
  defs.toList.flatMap fun (key, graph) => graph.rules key

end MetricCheck
