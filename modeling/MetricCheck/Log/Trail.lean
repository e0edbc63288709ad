-- The log records that each piece of work leaves, told from its result.
import MetricCheck.Log.Record
import MetricCheck.GraphDef.Basic
import MetricCheck.Matching
import MetricCheck.RuleText.Read

namespace MetricCheck

open Log

/-- Every rule that was read, and at the end of the text their number. -/
def RuleReading.records (reading : RuleReading) : List Record :=
  reading.found.map (fun located =>
    ⟨.trace, "parser", "line " ++ toString located.line ++ ": " ++ located.rule.text⟩) ++
  match reading.ending with
  | .error _ => []
  | .ok lines =>
    [⟨.debug, "parser", "parsed " ++ toString reading.found.length ++ " rules from " ++
      toString lines ++ " lines"⟩]

/-- A metric that no rule covers or all its rules refuse. -/
def Verdict.records (metric : Metric) : Verdict → List Record
  | .uncovered => [⟨.trace, "matcher", "no rule covers " ++ metric.path⟩]
  | .accepted _ => []
  | .rejected _ rules =>
    [⟨.trace, "matcher",
      metric.text ++ " rejected by " ++ toString rules.length ++ " rule(s)"⟩]

/-- The trie, then what was found, whether it is reported or not, then the number
of reported violations. -/
def MatchRun.records (run : MatchRun) (kinds : ViolationKinds) : List Record :=
  let rules := toString run.matcher.rules.size ++ " rules"
  [⟨.debug, "trie", "built trie with " ++ toString run.nodes ++ " nodes from " ++ rules⟩] ++
  (run.verdicts.flatMap fun (metric, verdict) => verdict.records metric) ++
  run.unmet.map (fun rule =>
    ⟨.trace, "matcher", "required rule " ++ rule.text ++ " never matched"⟩) ++
  [⟨.debug, "matcher", toString run.verdicts.length ++ " metrics against " ++ rules ++ ": " ++
    toString (run.violations kinds).length ++ " violations"⟩]

/-- The number of rules that graph definitions gave. -/
def GraphDefs.records (defs : GraphDefs) : List Record :=
  [⟨.debug, "graphdef", "generated " ++ toString (generateRules defs).length ++ " rules from " ++
    toString defs.size ++ " graphs"⟩]

end MetricCheck
