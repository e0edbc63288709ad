-- Log records: what the program says of its work, beside its results.
namespace MetricCheck.Log

/-- How important a record is, from errors down to traces. -/
inductive Level where
  | error
  | warn
  | info
  | debug
  | trace
deriving DecidableEq

namespace Level

/-- Greater for the levels that say more. -/
def verbosity : Level → Nat
  | .error => 1
  | .warn => 2
  | .info => 3
  | .debug => 4
  | .trace => 5

/-- The name in capitals. -/
def name : Level → String
  | .error => "ERROR"
  | .warn => "WARN"
  | .info => "INFO"
  | .debug => "DEBUG"
  | .trace => "TRACE"

/-- The name filled up with blanks to the width of the longest. -/
def column (level : Level) : String :=
  level.name ++ String.ofList (List.replicate (5 - level.name.length) ' ')

end Level

/-- A message, with the part of the program that it comes from. -/
structure Record where
  level : Level
  target : String
  message : String
deriving DecidableEq

/-- Later lines of a message are set in by four blanks. -/
def setIn (message : String) : String :=
  String.ofList (message.toList.flatMap fun c => if c = '\n' then "\n    ".toList else [c])

/-- The line of a record, with its target or without. -/
def Record.line (withTarget : Bool) (r : Record) : String :=
  "[" ++ r.level.column ++ (if withTarget then " " ++ r.target else "") ++ "] " ++
    setIn r.message ++ "\n"

end MetricCheck.Log
