-- Reading metric text. Each line is blank or one record of three fields: path,
-- value and time. A defect in any line is the result for the whole text.
import MetricCheck.MetricText.Error
import MetricCheck.Metric.Basic
import MetricCheck.Text.Runs
import MetricCheck.Text.Split

namespace MetricCheck

open Text

/-- The shape of a record: three fields with blanks between them, and perhaps more blanks
around them. -/
def recordShape : List Run :=
  [.blanks 0, .field, .blanks 1, .field, .blanks 1, .field, .blanks 0]

/-- The metric that a line records. A line of another shape is one with too few or too many
fields. -/
def decodeLine (line : List Char) : Except DecodeError.Cause Metric :=
  match captures recordShape line with
  | some [path, value, seconds] =>
    match Binary64.read value with
    | none => .error (.invalidValue (String.ofList value))
    | some number =>
      match (readInt seconds).bind Timestamp.ofSeconds? with
      | none => .error (.invalidTimestamp (String.ofList seconds))
      | some time => .ok ⟨String.ofList path, number, time⟩
  | _ => .error (.fieldCount (fields line).length)

/-- The metrics of lines that are numbered from `number` on. Blank lines record
nothing but have a number. -/
def decodeLines (number : Nat) : List (List Char) → Except DecodeError (List Metric)
  | [] => .ok []
  | line :: more =>
    if line.all isBlank then decodeLines (number + 1) more
    else
      match decodeLine line with
      | .error cause => .error ⟨number, cause⟩
      | .ok metric =>
        match decodeLines (number + 1) more with
        | .error e => .error e
        | .ok metrics => .ok (metric :: metrics)

/-- The metrics of a text in order, or the first defect. -/
def parseMetrics (text : String) : Except DecodeError (List Metric) :=
  decodeLines 1 (lines text.toList)

end MetricCheck
