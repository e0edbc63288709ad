-- What can be wrong with metric text: a line and a cause.
namespace MetricCheck

namespace DecodeError

inductive Cause where
  /-- A record has three fields; this line has another number of them. -/
  | fieldCount (count : Nat)
  | invalidValue (text : String)
  /-- No whole number of seconds, or one out of the range of times. -/
  | invalidTimestamp (text : String)
deriving DecidableEq

def Cause.message : Cause → String
  | .fieldCount count =>
    "expected 3 fields (path value timestamp), but got " ++ toString count
  | .invalidValue text => "invalid value '" ++ text ++ "'"
  | .invalidTimestamp text => "invalid timestamp '" ++ text ++ "'"

end DecodeError

/-- Metric text that could not be decoded: the line at fault, counted from 1, and
what is wrong with it. -/
structure DecodeError where
  line : Nat
  cause : DecodeError.Cause
deriving DecidableEq

def DecodeError.message (e : DecodeError) : String :=
  "decode error on line " ++ toString e.line ++ ": " ++ e.cause.message

end MetricCheck
