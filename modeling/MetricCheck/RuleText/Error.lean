-- What can be wrong with rule text: a line and a cause. Tokens that should not
-- be there are named by their description.
import MetricCheck.Rule.Operator

namespace MetricCheck

namespace ParseError

/-- What rule text must continue with at some point. -/
inductive Wanted where
  | path
  | operator
  | number
  | comma
deriving DecidableEq

def Wanted.text : Wanted → String
  | .path => "a path"
  | .operator => "an operator"
  | .number => "a number"
  | .comma => "','"

inductive Cause where
  /-- Something else stands there, described by `found`. -/
  | expected (wanted : Wanted) (found : String)
  /-- The text ends there. -/
  | unexpectedEnd (wanted : Wanted)
  /-- The characters of a number form none. -/
  | invalidNumber (text : String)
  /-- A slash that begins no comment. -/
  | loneSlash
  /-- A second rule where one alone is read. -/
  | trailingRule
deriving DecidableEq

def Cause.message : Cause → String
  | .expected wanted found => "expected " ++ wanted.text ++ ", but got " ++ found
  | .unexpectedEnd wanted => "unexpected end of input, expected " ++ wanted.text
  | .invalidNumber text => "cannot convert '" ++ text ++ "' to a number"
  | .loneSlash => "unexpected '/'"
  | .trailingRule => "expected a single rule, but got more"

end ParseError

/-- Rule text that could not be read: the line of the rule at fault, counted from
1, and what is wrong with it. -/
structure ParseError where
  line : Nat
  cause : ParseError.Cause
deriving DecidableEq

def ParseError.message (e : ParseError) : String :=
  "parse error on line " ++ toString e.line ++ ": " ++ e.cause.message

/-- Reads a text that is an operator and nothing else. -/
def Operator.parse (text : String) : Except ParseError.Cause Operator :=
  match Operator.ofText? text with
  | some op => .ok op
  | none => .error (.expected .operator text)

end MetricCheck
