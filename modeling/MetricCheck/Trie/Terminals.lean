-- The terminal nodes of a trie in their canonical order: a node before those
-- below it, literal stems by code points, the wildcard last.
import MetricCheck.Trie.Basic

namespace MetricCheck

namespace Trie

/-- A traversal under way: the nodes still to visit, the next one first, and the
terminal nodes found so far. -/
structure Traversal where
  pending : List NodeId
  found : Array NodeId

namespace Traversal

def start : Traversal := ⟨[root], #[]⟩

/-- Visits the next node and puts its children before the other pending nodes. -/
def step (t : Trie) : Traversal → Traversal
  | ⟨[], found⟩ => ⟨[], found⟩
  | ⟨id :: pending, found⟩ =>
    match t.node? id with
    | none => ⟨pending, found⟩
    | some n => ⟨n.children ++ pending, if n.isTerminal then found.push id else found⟩

/-- Makes a number of visits. -/
def steps (t : Trie) : Nat → Traversal → Traversal
  | 0, walk => walk
  | count + 1, walk => steps t count (step t walk)

end Traversal

/-- The terminal nodes. One visit for each node is enough, since a node is the
child of no more than one other. -/
def terminals (t : Trie) : List NodeId :=
  (Traversal.steps t t.size .start).found.toList

end Trie

end MetricCheck
