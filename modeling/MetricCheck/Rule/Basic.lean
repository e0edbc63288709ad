-- Rules and their patterns. A rule names a path, says whether some metric must
-- have that path, and puts constraints on its value. The path is a pattern: a
-- stem that is a lone star or number sign stands for any stem.
import MetricCheck.Rule.Operator
import MetricCheck.Text.Split

namespace MetricCheck

/-- The parts of a path between its dots; a path has one more stem than dots. -/
def pathStems (path : String) : List String :=
  (Text.splitBy (· == '.') path.toList).map String.ofList

/-- A stem of a pattern. -/
inductive Stem where
  | literal (text : String)
  | wildcard
deriving DecidableEq

namespace Stem

/-- Both spellings of the wildcard are one stem. -/
def ofText (text : String) : Stem :=
  if text = "*" ∨ text = "#" then .wildcard else .literal text

/-- A literal as it is, the wildcard as a star. -/
def text : Stem → String
  | .literal text => text
  | .wildcard => "*"

end Stem

/-- A path pattern with constraints that must all hold for its values. -/
structure Rule where
  path : String
  /-- Whether some metric must have the path. -/
  required : Bool
  constraints : List Constraint
deriving DecidableEq

namespace Rule

/-- What the path says stem by stem. -/
def pattern (r : Rule) : List Stem := (pathStems r.path).map Stem.ofText

/-- Every constraint holds; a rule without constraints accepts every value. -/
def accepts (r : Rule) (value : Binary64) : Bool :=
  r.constraints.all fun c => c.holds value

/-- The mark of an optional rule. -/
def mark (r : Rule) : String := if r.required then "" else "~"

/-- The rule in reports: mark, path, and the constraints in brackets. -/
def text (r : Rule) : String :=
  r.mark ++ r.path ++ "[" ++ ",".intercalate (r.constraints.map Constraint.text) ++ "]"

/-- The rule as a line of rule text. -/
def line (r : Rule) : String :=
  if r.constraints.isEmpty then r.mark ++ r.path
  else r.mark ++ r.path ++ "\t" ++ ", ".intercalate (r.constraints.map Constraint.text)

/-- Equal field by field, bounds compared as numbers. -/
def same (a b : Rule) : Bool :=
  a.path = b.path && a.required = b.required && a.constraints.isEqv b.constraints Constraint.same

end Rule

/-- Rules as rule text, a line for each. -/
def renderRules (rules : List Rule) : String :=
  String.join (rules.map fun r => r.line ++ "\n")

/-- The same rules in the same order. -/
def sameRules (a b : List Rule) : Bool := a.isEqv b Rule.same

end MetricCheck
