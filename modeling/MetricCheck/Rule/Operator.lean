-- Comparison operators and the constraints made of them: a value satisfies a
-- constraint when it stands in the operator's relation to the bound.
import MetricCheck.Binary64.Text

namespace MetricCheck

inductive Operator where
  | lessThan
  | lessEqual
  | greaterThan
  | greaterEqual
deriving DecidableEq

namespace Operator

/-- The operator as rule text spells it. -/
def text : Operator → String
  | .lessThan => "<"
  | .lessEqual => "<="
  | .greaterThan => ">"
  | .greaterEqual => ">="

/-- The operator with exactly this spelling. -/
def ofText? : String → Option Operator
  | "<" => some .lessThan
  | "<=" => some .lessEqual
  | ">" => some .greaterThan
  | ">=" => some .greaterEqual
  | _ => none

/-- The relation between two numbers; no NaN stands in any of the four. -/
def holds : Operator → Binary64 → Binary64 → Bool
  | .lessThan, a, b => a.lt b
  | .lessEqual, a, b => a.le b
  | .greaterThan, a, b => b.lt a
  | .greaterEqual, a, b => b.le a

theorem ofText?_text (op : Operator) : ofText? op.text = some op := by
  cases op <;> rfl

end Operator

/-- One condition on a value, such as `<=100`. -/
structure Constraint where
  op : Operator
  bound : Binary64
deriving DecidableEq

namespace Constraint

def holds (c : Constraint) (value : Binary64) : Bool := c.op.holds value c.bound

def text (c : Constraint) : String := c.op.text ++ c.bound.text

/-- The same operator and the same number. -/
def same (a b : Constraint) : Bool := a.op = b.op && a.bound.sameNumber b.bound

end Constraint

end MetricCheck
