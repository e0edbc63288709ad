-- Events as text, with colours or without. Violations, summaries and rules go to
-- the standard output, failures and log records to the standard error.
import MetricCheck.Cli.Event
import MetricCheck.Log.Filter
import MetricCheck.Log.Plain

namespace MetricCheck.Cli

/-! ## Colours -/

/-- The renditions of a terminal that reports use. -/
inductive Style where
  | bold
  | dim
  | red
  | green
  | yellow
  | cyan
  | gray
deriving DecidableEq

/-- The number that selects a rendition. -/
def Style.code : Style → Nat
  | .bold => 1
  | .dim => 2
  | .red => 31
  | .green => 32
  | .yellow => 33
  | .cyan => 36
  | .gray => 90

/-- The sequence that selects a rendition; number 0 selects the plain one. -/
def selectRendition (code : Nat) : String := "\x1b[" ++ toString code ++ "m"

/-- Text in a style, or plain where colours are off. -/
def paint (colors : Bool) (style : Style) (text : String) : String :=
  if colors then selectRendition style.code ++ text ++ selectRendition 0 else text

/-! ## Events -/

/-- The texts of the times that the check of an input took. -/
structure Timings where
  total : String
  build : String
  evaluate : String
  complete : String

def violationStyle : ViolationKind → Style
  | .outOfRange => .red
  | .missing => .yellow
  | .unexpected => .cyan

/-- A line that begins with the name of an input. -/
def sourceLine (colors : Bool) (source : String) (style : Style) (text : String) : String :=
  paint colors .bold source ++ ": " ++ paint colors style text ++ "\n"

/-- A number of violations; none is nothing to look at. -/
def countText (colors : Bool) (count : Nat) : String :=
  if count = 0 then paint colors .dim "0" else paint colors .red (toString count)

/-- The parts of a line of a summary, with bars between them. -/
def summaryLine (parts : List String) : String := "  " ++ "  │  ".intercalate parts ++ "\n"

/-- The block of figures for an input. -/
def summaryText (colors : Bool) (timings : Timings) (source : String) (i : Inspection) : String :=
  let count := fun label kind =>
    paint colors .dim label ++ " " ++ countText colors (i.countOf kind)
  "\n" ++ paint colors .gray ("━━━ " ++ source ++ " ━━━") ++ "\n" ++
  summaryLine [count "out of range:" .outOfRange, count "missing:" .missing,
    count "unexpected:" .unexpected] ++
  summaryLine
    [paint colors .dim "rules matched:" ++ " " ++
        paint colors .green (toString i.matchedRules) ++ "/" ++
        toString i.coverage.length,
      paint colors .dim "trie nodes:" ++ " " ++ toString i.nodes] ++
  summaryLine ["Total: " ++ paint colors .green timings.total,
    "Build: " ++ paint colors .dim timings.build,
    "Evaluate: " ++ paint colors .cyan timings.evaluate,
    "Complete: " ++ paint colors .dim timings.complete]

namespace Event

/-- What an event writes to the standard output. Each input has times of its own, by its
place. -/
def stdout (colors : Bool) (timings : Nat → Timings) : Event → String
  | .found source violation =>
    sourceLine colors source (violationStyle violation.kind) violation.text
  | .summary place source inspection => summaryText colors (timings place) source inspection
  | .rules generated => renderRules generated
  | .log _ | .failed _ _ => ""

/-- What an event writes to the standard error. -/
def stderr (colors : Bool) (words : Json.Wording) (filter : Log.Filter) (logTargets : Bool) :
    Event → String
  | .log record => if filter.shows record then Log.plain (record.line logTargets) else ""
  | .failed source why => sourceLine colors source .red (why.message words)
  | .found _ _ | .summary _ _ _ | .rules _ => ""

end Event

end MetricCheck.Cli
