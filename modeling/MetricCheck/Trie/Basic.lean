-- The trie of rule patterns. Nodes stand in an array in the order in which they
-- were made and name their children by place; the first is the root. Each rule
-- is attached to the node that the last stem of its pattern leads to.
import Std.Data.TreeMap.Basic
import MetricCheck.Rule.Basic

namespace MetricCheck

/-- The place of a node in the trie. -/
abbrev NodeId := Nat

/-- The place of a rule in the list that the trie was built from. -/
abbrev RuleId := Nat

structure Node where
  /-- The children along literal stems, in the order of their code points. -/
  literals : Std.TreeMap String NodeId
  wildcard : Option NodeId
  /-- The rules whose pattern ends here, in the order of the list. -/
  rules : Array RuleId
  /-- Whether one of these rules is required. -/
  required : Bool

namespace Node

/-- A node without children and rules. -/
def bare : Node := ⟨∅, none, #[], false⟩

/-- Some pattern ends here. -/
def isTerminal (n : Node) : Bool := !n.rules.isEmpty

/-- The child along a stem of a pattern. -/
def child? (n : Node) : Stem → Option NodeId
  | .literal text => n.literals[text]?
  | .wildcard => n.wildcard

/-- The child that a stem of a metric's path leads to: the literal one, and only
without it the wildcard. -/
def step? (n : Node) (stem : String) : Option NodeId :=
  (n.child? (.literal stem)).or (n.child? .wildcard)

/-- All children, literal ones first. -/
def children (n : Node) : List NodeId := n.literals.values ++ n.wildcard.toList

/-- Adds a child along a stem. -/
def link (n : Node) (stem : Stem) (child : NodeId) : Node :=
  match stem with
  | .literal text => { n with literals := n.literals.insert text child }
  | .wildcard => { n with wildcard := some child }

/-- Attaches a rule. -/
def attach (n : Node) (id : RuleId) (required : Bool) : Node :=
  { n with rules := n.rules.push id, required := n.required || required }

/-- The child of a node along a stem, made if there is none. -/
def childOrNew (nodes : Array Node) (id : NodeId) (stem : Stem) : Array Node × NodeId :=
  match nodes[id]?.bind fun n => n.child? stem with
  | some child => (nodes, child)
  | none =>
    let child := nodes.size
    ((nodes.push .bare).modify id fun n => n.link stem child, child)

/-- The node that stems lead to from a node, with the nodes made on the way. -/
def extend (nodes : Array Node) (id : NodeId) : List Stem → Array Node × NodeId
  | [] => (nodes, id)
  | stem :: stems =>
    let (nodes, child) := childOrNew nodes id stem
    extend nodes child stems

end Node

structure Trie where
  nodes : Array Node
  /-- The node that each rule is attached to. -/
  homes : Array NodeId

namespace Trie

def root : NodeId := 0

/-- The root alone. -/
def empty : Trie := ⟨#[.bare], #[]⟩

/-- The number of nodes, the root included. -/
def size (t : Trie) : Nat := t.nodes.size

def node? (t : Trie) (id : NodeId) : Option Node := t.nodes[id]?

/-- Adds the next rule of the list. -/
def insert (t : Trie) (rule : Rule) : Trie :=
  match t with
  | ⟨nodes, homes⟩ =>
    let (nodes, home) := Node.extend nodes root rule.pattern
    let id := homes.size
    ⟨nodes.modify home fun n => n.attach id rule.required, homes.push home⟩

/-- The trie of a list of rules. -/
def ofRules (rules : List Rule) : Trie := rules.foldl insert empty

/-- The node that a metric's stems lead to from a node. There is no way back: a
stem that fits nowhere ends the walk. -/
def walk (t : Trie) (id : NodeId) : List String → Option NodeId
  | [] => some id
  | stem :: stems =>
    match (t.node? id).bind fun n => n.step? stem with
    | some child => t.walk child stems
    | none => none

/-- The node that a metric's path ends on. -/
def lookup (t : Trie) (path : String) : Option NodeId := t.walk root (pathStems path)

end Trie

end MetricCheck
