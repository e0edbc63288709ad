-- A session holds rules, metrics and the kinds to report, and goes through steps
-- that change or check them. A step that fails changes nothing.
import MetricCheck.Input
import MetricCheck.Matching

namespace MetricCheck

/-- Rules or metrics as they come into a session: as text or as values. -/
inductive Given (α : Type) where
  | text (text : String)
  | values (values : List α)

def Given.rules : Given Rule → Except Failure (List Rule)
  | .text written => (parseRules written).mapError .rules
  | .values known => .ok known

def Given.metrics : Given Metric → Except Failure (List Metric)
  | .text written => (parseMetrics written).mapError .metrics
  | .values known => .ok known

structure Session where
  rules : List Rule
  metrics : List Metric
  kinds : ViolationKinds

namespace Session

def start : Session := ⟨[], [], .all⟩

inductive Step where
  | loadRules (rules : Given Rule)
  | appendRules (rules : Given Rule)
  /-- Appends the one rule of a text. -/
  | addRule (text : String)
  | loadGraphDefs (document : ByteArray)
  /-- Removes the rule at a place, if there is one. -/
  | removeRule (index : Nat)
  | reverseRules
  | loadMetrics (metrics : Given Metric)
  | appendMetrics (metrics : Given Metric)
  | reverseMetrics
  | clearMetrics
  | report (kinds : ViolationKinds)
  /-- Checks the metrics against the rules. -/
  | check
  /-- Writes the rules as text. -/
  | render
  /-- Writes the rules as text and reads them back. -/
  | reload
  /-- Writes the metrics as text and reads them back. -/
  | redecode

/-- What a step answers. -/
inductive Answer where
  | done
  | inspection (found : Inspection)
  | rendered (text : String)

/-- The session with the rules that were read. -/
def withRules (s : Session) (rules : Except Failure (List Rule)) :
    Except Failure (Answer × Session) :=
  rules.map fun rules => (.done, { s with rules })

/-- The session with the metrics that were read. -/
def withMetrics (s : Session) (metrics : Except Failure (List Metric)) :
    Except Failure (Answer × Session) :=
  metrics.map fun metrics => (.done, { s with metrics })

/-- A step, if it succeeds: its answer and the session after it. -/
def attempt (s : Session) : Step → Except Failure (Answer × Session)
  | .loadRules rules => s.withRules rules.rules
  | .appendRules rules => s.withRules (rules.rules.map (s.rules ++ ·))
  | .addRule text =>
    s.withRules (((parseRule text).mapError .rules).map fun rule => s.rules ++ [rule])
  | .loadGraphDefs document => s.withRules (readGraphRules document)
  | .removeRule index => .ok (.done, { s with rules := s.rules.eraseIdx index })
  | .reverseRules => .ok (.done, { s with rules := s.rules.reverse })
  | .loadMetrics metrics => s.withMetrics metrics.metrics
  | .appendMetrics metrics => s.withMetrics (metrics.metrics.map (s.metrics ++ ·))
  | .reverseMetrics => .ok (.done, { s with metrics := s.metrics.reverse })
  | .clearMetrics => .ok (.done, { s with metrics := [] })
  | .report kinds => .ok (.done, { s with kinds })
  | .check => .ok (.inspection (inspect s.kinds s.rules s.metrics), s)
  | .render => .ok (.rendered (renderRules s.rules), s)
  | .reload => s.withRules ((parseRules (renderRules s.rules)).mapError .rules)
  | .redecode => s.withMetrics ((parseMetrics (renderMetrics s.metrics)).mapError .metrics)

/-- A step: its answer or failure, and the session after it. -/
def step (s : Session) (next : Step) : Except Failure Answer × Session :=
  match s.attempt next with
  | .error failure => (.error failure, s)
  | .ok (answer, s') => (.ok answer, s')

/-- The answers of steps one after the other, each with the session after it. -/
def run (s : Session) : List Step → List (Except Failure Answer × Session)
  | [] => []
  | next :: steps =>
    let (answer, s') := s.step next
    (answer, s') :: s'.run steps

end Session

end MetricCheck
