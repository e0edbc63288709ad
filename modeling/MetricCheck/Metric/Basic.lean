-- Metrics: a path, the value observed there, and when. The time plays no part
-- in checking.
import MetricCheck.Binary64.Text
import MetricCheck.Text.Digits

namespace MetricCheck

/-- A time in whole seconds since 1970, within the years -262143 to 262142. -/
structure Timestamp where
  seconds : Int
  least_le : -8334601228800 ≤ seconds
  le_greatest : seconds ≤ 8210266876799
deriving DecidableEq

/-- The time with this many seconds, when it lies within the range. -/
def Timestamp.ofSeconds? (seconds : Int) : Option Timestamp :=
  if h : -8334601228800 ≤ seconds ∧ seconds ≤ 8210266876799 then
    some ⟨seconds, h.1, h.2⟩
  else none

/-- An observed value. -/
structure Metric where
  path : String
  value : Binary64
  timestamp : Timestamp
deriving DecidableEq

/-- The metric as a record of metric text. -/
def Metric.text (m : Metric) : String :=
  m.path ++ " " ++ m.value.text ++ " " ++ String.ofList (Text.writeInt m.timestamp.seconds)

/-- Metrics as metric text, a record for each. -/
def renderMetrics (metrics : List Metric) : String :=
  String.join (metrics.map fun m => m.text ++ "\n")

end MetricCheck
