-- What a run of the program has to say, in order and before it is text: each event
-- goes to the standard output or to the standard error.
import MetricCheck.Failure
import MetricCheck.Log.Record
import MetricCheck.Matching

namespace MetricCheck.Cli

inductive Event where
  | log (record : Log.Record)
  /-- An input gave nothing. -/
  | failed (source : String) (why : Failure)
  /-- A violation that a check of the input reports. -/
  | found (source : String) (violation : Violation)
  /-- The figures of a finished check, and the place of its input among the inputs. -/
  | summary (place : Nat) (source : String) (inspection : Inspection)
  /-- Rules to be written as rule text. -/
  | rules (rules : List Rule)

end MetricCheck.Cli
