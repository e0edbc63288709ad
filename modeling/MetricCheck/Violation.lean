-- What a check finds: values out of range, rules of required patterns that no metric
-- met, and metrics that no rule covers. Reports may be restricted to some kinds.
import MetricCheck.Rule.Basic
import MetricCheck.Metric.Basic

namespace MetricCheck

inductive ViolationKind where
  | outOfRange
  | missing
  | unexpected
deriving DecidableEq

namespace ViolationKind

def all : List ViolationKind := [.outOfRange, .missing, .unexpected]

/-- The name of a kind in reports. -/
def name : ViolationKind → String
  | .outOfRange => "OUT_OF_RANGE"
  | .missing => "MISSING"
  | .unexpected => "UNEXPECTED"

end ViolationKind

/-- A set of kinds: the ones to report. -/
structure ViolationKinds where
  outOfRange : Bool
  missing : Bool
  unexpected : Bool
deriving DecidableEq

namespace ViolationKinds

def all : ViolationKinds := ⟨true, true, true⟩

def contains (kinds : ViolationKinds) : ViolationKind → Bool
  | .outOfRange => kinds.outOfRange
  | .missing => kinds.missing
  | .unexpected => kinds.unexpected

/-- The set of the kinds in a list. -/
def ofList (kinds : List ViolationKind) : ViolationKinds :=
  ⟨kinds.contains .outOfRange, kinds.contains .missing, kinds.contains .unexpected⟩

/-- The kinds of a set, in a fixed order. -/
def toList (kinds : ViolationKinds) : List ViolationKind :=
  ViolationKind.all.filter kinds.contains

end ViolationKinds

/-- A disagreement between rules and metrics. -/
inductive Violation where
  /-- The rule's pattern fits the metric but no rule of that pattern accepts the value. -/
  | outOfRange (rule : Rule) (metric : Metric)
  /-- No metric ended on the rule's pattern, and a rule with that pattern is required: this
  one or another. -/
  | missing (rule : Rule)
  /-- No rule covers the metric. -/
  | unexpected (metric : Metric)
deriving DecidableEq

namespace Violation

def kind : Violation → ViolationKind
  | .outOfRange _ _ => .outOfRange
  | .missing _ => .missing
  | .unexpected _ => .unexpected

def rule? : Violation → Option Rule
  | .outOfRange rule _ => some rule
  | .missing rule => some rule
  | .unexpected _ => none

def metric? : Violation → Option Metric
  | .outOfRange _ metric => some metric
  | .missing _ => none
  | .unexpected metric => some metric

/-- The violation as one sentence. -/
def text : Violation → String
  | .outOfRange rule metric =>
    "metric " ++ metric.text ++ " is out of range for rule " ++ rule.text
  | .missing rule => "rule " ++ rule.text ++ " did not match any metric"
  | .unexpected metric => "found unexpected metric " ++ metric.text

end Violation

end MetricCheck
