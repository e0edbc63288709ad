-- Checking metrics against rules. Every metric gets a verdict of its own; after
-- all of them, the required patterns that no metric met are reported.
import MetricCheck.Trie.Terminals
import MetricCheck.Violation

namespace MetricCheck

/-- Rules made ready for checking. -/
structure Matcher where
  rules : Array Rule
  trie : Trie

/-- What the rules say of one metric. The node is where its path ends. -/
inductive Verdict where
  /-- No rule has a pattern that the path ends on. -/
  | uncovered
  /-- Some rule there accepts the value. -/
  | accepted (node : NodeId)
  /-- Every rule there, of which these are all, refuses the value. -/
  | rejected (node : NodeId) (rules : List Rule)

namespace Verdict

/-- The node that the verdict counts for. -/
def node? : Verdict → Option NodeId
  | .uncovered => none
  | .accepted node => some node
  | .rejected node _ => some node

/-- The violations of the reported kinds: one for each rule that refuses. -/
def violations (kinds : ViolationKinds) (metric : Metric) : Verdict → List Violation
  | .uncovered => if kinds.unexpected then [.unexpected metric] else []
  | .accepted _ => []
  | .rejected _ rules =>
    if kinds.outOfRange then rules.map fun rule => .outOfRange rule metric else []

end Verdict

/-- A finished check. -/
structure MatchRun where
  matcher : Matcher
  /-- Every metric with its verdict, in order. -/
  verdicts : List (Metric × Verdict)
  /-- How many metrics ended on each node that covers them. -/
  hits : Array Nat
  /-- The rules at nodes that have a required rule and no hit. -/
  unmet : List Rule

namespace Matcher

def ofRules (rules : List Rule) : Matcher := ⟨rules.toArray, Trie.ofRules rules⟩

/-- The rules attached to a node. -/
def rulesOf (m : Matcher) (n : Node) : List Rule :=
  n.rules.toList.filterMap fun id => m.rules[id]?

/-- The verdict on a metric. -/
def judge (m : Matcher) (metric : Metric) : Verdict :=
  match m.trie.lookup metric.path with
  | none => .uncovered
  | some id =>
    match m.trie.node? id with
    | none => .uncovered
    | some n =>
      if n.isTerminal then
        let rules := m.rulesOf n
        if rules.any fun rule => rule.accepts metric.value then .accepted id
        else .rejected id rules
      else .uncovered

/-- The hits of each node. -/
def countHits (m : Matcher) (verdicts : List Verdict) : Array Nat :=
  verdicts.foldl
    (fun hits verdict =>
      match verdict.node? with
      | none => hits
      | some id => hits.modify id (· + 1))
    (Array.replicate m.trie.size 0)

/-- The rules of a terminal node, if one of them is required and nothing hit it. -/
def unmetAt (m : Matcher) (hits : Array Nat) (id : NodeId) : List Rule :=
  match m.trie.node? id with
  | none => []
  | some n => if n.required && hits[id]?.getD 0 == 0 then m.rulesOf n else []

/-- Checks metrics in order. -/
def run (m : Matcher) (metrics : List Metric) : MatchRun :=
  let verdicts := metrics.map fun metric => (metric, m.judge metric)
  let hits := m.countHits (verdicts.map Prod.snd)
  { matcher := m, verdicts, hits, unmet := m.trie.terminals.flatMap (m.unmetAt hits) }

end Matcher

namespace MatchRun

/-- The violations of the reported kinds: those of each metric in order, then
the missing rules. -/
def violations (run : MatchRun) (kinds : ViolationKinds) : List Violation :=
  (run.verdicts.flatMap fun (metric, verdict) => verdict.violations kinds metric) ++
    (if kinds.missing then run.unmet.map .missing else [])

/-- Each rule, in order, with the hits of its node. -/
def coverage (run : MatchRun) : List (Rule × Nat) :=
  (run.matcher.rules.zipWith (fun rule home => (rule, run.hits[home]?.getD 0))
    run.matcher.trie.homes).toList

/-- The size of the trie. -/
def nodes (run : MatchRun) : Nat := run.matcher.trie.size

end MatchRun

/-! ## Checks of whole lists -/

/-- Violations with the figures of the check they come from. -/
structure Inspection where
  violations : List Violation
  coverage : List (Rule × Nat)
  nodes : Nat

namespace Inspection

/-- How many violations there are of a kind. -/
def countOf (i : Inspection) (kind : ViolationKind) : Nat :=
  i.violations.countP fun v => v.kind = kind

/-- How many rules have a hit. -/
def matchedRules (i : Inspection) : Nat := i.coverage.countP fun covered => covered.2 ≠ 0

end Inspection

/-- The violations of the reported kinds with the figures of a check. -/
def MatchRun.inspection (run : MatchRun) (kinds : ViolationKinds) : Inspection :=
  ⟨run.violations kinds, run.coverage, run.nodes⟩

/-- Checks metrics against rules. -/
def matchRules (rules : List Rule) (metrics : List Metric) : MatchRun :=
  (Matcher.ofRules rules).run metrics

/-- Checks metrics and reports violations of the given kinds, with figures. -/
def inspect (kinds : ViolationKinds) (rules : List Rule) (metrics : List Metric) : Inspection :=
  (matchRules rules metrics).inspection kinds

/-- The violations of the given kinds. -/
def violationsAmong (kinds : ViolationKinds) (rules : List Rule) (metrics : List Metric) :
    List Violation :=
  (matchRules rules metrics).violations kinds

/-- All violations. -/
def findViolations (rules : List Rule) (metrics : List Metric) : List Violation :=
  violationsAmong .all rules metrics

end MetricCheck
