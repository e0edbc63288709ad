-- The figures that a check prints for an input agree with the lines before them. The counts are
-- those of the lines of each kind; and what the rules are counted by is where the paths of the
-- metrics end, so that it is the same whatever is reported.
import MetricCheck.Proofs.Cli.Diagnostics
import MetricCheck.Proofs.Coverage

namespace MetricCheck

/-! ## Rules that metrics end on -/

/-- The path of a metric ends on the home of the rule. -/
def IsMet (rules : List Rule) (metrics : List Metric) (id : RuleId) : Prop :=
  ∃ m ∈ metrics, (Trie.ofRules rules).lookup m.path = (Trie.ofRules rules).homes[id]?

instance (rules : List Rule) (metrics : List Metric) (id : RuleId) :
    Decidable (IsMet rules metrics id) :=
  inferInstanceAs (Decidable (∃ m ∈ metrics, _))

/-- The number of rules that metrics end on. -/
def metRules (rules : List Rule) (metrics : List Metric) : Nat :=
  (List.range rules.length).countP fun id => IsMet rules metrics id

section Met

variable {rules : List Rule} {metrics : List Metric}

theorem isMet_iff {id : RuleId} {r : Rule} (hr : rules[id]? = some r) :
    IsMet rules metrics id ↔ ∃ m ∈ metrics, resolve rules m.path = some r.pattern := by
  obtain ⟨home, -, hhome, -, -, hlookup⟩ := exists_home hr
  simp only [IsMet, hhome, hlookup]

/-- To count the places of elements is to count the elements. -/
theorem countP_range_length {α : Type} {p : Nat → Bool} {q : α → Bool} {xs : List α}
    (h : ∀ i x, xs[i]? = some x → p i = q x) :
    (List.range xs.length).countP p = xs.countP q := by
  induction xs using List.reverseRecOn with
  | nil => rfl
  | append_singleton xs x ih =>
    have hlast : p xs.length = q x := h xs.length x (by simp)
    have hbefore : ∀ i y, xs[i]? = some y → p i = q y := by
      intro i y hy
      apply h
      rwa [List.getElem?_append_left (List.getElem?_eq_some_iff.1 hy).1]
    rw [List.length_append, List.length_singleton, List.range_succ, List.countP_append,
      List.countP_append, ih hbefore, List.countP_singleton, List.countP_singleton, hlast]

theorem metRules_eq (rules : List Rule) (metrics : List Metric) :
    metRules rules metrics =
      rules.countP fun r => ∃ m ∈ metrics, resolve rules m.path = some r.pattern :=
  countP_range_length fun _ _ hr => decide_eq_decide.2 (isMet_iff hr)

/-- The rules with hits are those that metrics end on. -/
theorem matchedRules_inspect (kinds : ViolationKinds) (rules : List Rule) (metrics : List Metric) :
    (inspect kinds rules metrics).matchedRules = metRules rules metrics := by
  rw [metRules_eq, Inspection.matchedRules, coverage_inspect, List.countP_map]
  refine List.countP_congr fun r _ => ?_
  simp [List.countP_eq_zero]

variable {kinds : ViolationKinds}

theorem countOf_missing (h : kinds.missing = true) (rules : List Rule) (metrics : List Metric) :
    (inspect kinds rules metrics).countOf .missing =
      rules.countP fun r => IsUnmet rules metrics r.pattern := by
  have hmissing : (inspect kinds rules metrics).countOf .missing =
      (inspect kinds rules metrics).missing.length := List.countP_eq_length_filter
  rw [hmissing, missing_inspect, reportedMissing, if_pos h, List.length_map,
    (unmet_perm rules metrics).length_eq, List.countP_eq_length_filter]

/-- Whatever has not one property has the other or neither. -/
theorem length_eq_countP_add {α : Type} (p q : α → Prop) [DecidablePred p] [DecidablePred q]
    (xs : List α) :
    xs.length = xs.countP (fun x => p x) + xs.countP (fun x => q x ∧ ¬ p x) +
      xs.countP fun x => ¬ p x ∧ ¬ q x := by
  induction xs with
  | nil => rfl
  | cons x xs ih =>
    by_cases hp : p x <;> by_cases hq : q x <;> simp [hp, hq, ih] <;> omega

/-- A rule is met, or it is missing, or no rule with its pattern is required. -/
theorem length_eq_metRules_add (h : kinds.missing = true) (rules : List Rule)
    (metrics : List Metric) :
    rules.length = metRules rules metrics + (inspect kinds rules metrics).countOf .missing +
      rules.countP fun r : Rule =>
        (¬ ∃ m ∈ metrics, resolve rules m.path = some r.pattern) ∧
          ¬ IsRequired rules r.pattern := by
  have hunmet : ∀ r : Rule, IsUnmet rules metrics r.pattern ↔
      IsRequired rules r.pattern ∧ ¬ ∃ m ∈ metrics, resolve rules m.path = some r.pattern := by
    intro r
    simp [IsUnmet, IsRequired]
  rw [metRules_eq, countOf_missing h]
  simp only [hunmet]
  exact length_eq_countP_add _ (fun r : Rule => IsRequired rules r.pattern) rules

/-- The missing rules are among those that are not met, and are all of them when each of those
has a required pattern. -/
theorem countOf_missing_le (h : kinds.missing = true) (rules : List Rule) (metrics : List Metric) :
    (inspect kinds rules metrics).countOf .missing ≤ rules.length - metRules rules metrics ∧
    ((inspect kinds rules metrics).countOf .missing = rules.length - metRules rules metrics ↔
      ∀ id r, rules[id]? = some r → ¬ IsMet rules metrics id → IsRequired rules r.pattern) := by
  have hlength := length_eq_metRules_add h rules metrics
  refine ⟨by omega, ?_⟩
  have hnone : (inspect kinds rules metrics).countOf .missing =
      rules.length - metRules rules metrics ↔
      (rules.countP fun r : Rule => (¬ ∃ m ∈ metrics, resolve rules m.path = some r.pattern) ∧
        ¬ IsRequired rules r.pattern) = 0 := by omega
  rw [hnone, List.countP_eq_zero]
  constructor
  · intro hall id r hr hmet
    rw [isMet_iff hr] at hmet
    have hr := hall r (List.mem_of_getElem? hr)
    rw [decide_eq_true_eq, not_and, not_not] at hr
    exact hr hmet
  · intro hall r hr
    obtain ⟨id, hid⟩ := List.mem_iff_getElem?.1 hr
    have hr := hall id r hid
    rw [isMet_iff hid] at hr
    rw [decide_eq_true_eq, not_and, not_not]
    exact hr

end Met

namespace Cli

/-! ## Lines of a kind -/

/-- What the text of a violation of a kind begins with. -/
def firstWord : ViolationKind → String
  | .outOfRange => "metric "
  | .missing => "rule "
  | .unexpected => "found "

/-- What a line for a violation of a kind has after the name of the input. -/
def kindMark (colors : Bool) (kind : ViolationKind) : String :=
  (if colors then selectRendition (violationStyle kind).code else "") ++ firstWord kind

/-- Whether a line tells of an input that it has a violation of a kind. -/
def isLineOf (colors : Bool) (source : String) (kind : ViolationKind) (line : String) : Bool :=
  (paint colors .bold source ++ ": " ++ kindMark colors kind).toList.isPrefixOf line.toList

theorem exists_text_eq (v : Violation) : ∃ rest, v.text = firstWord v.kind ++ rest := by
  cases v with
  | outOfRange r m =>
    have htext : (Violation.outOfRange r m).text =
        "metric " ++ m.text ++ " is out of range for rule " ++ r.text := rfl
    refine ⟨m.text ++ (" is out of range for rule " ++ r.text), ?_⟩
    rw [htext, String.append_assoc, String.append_assoc]
    rfl
  | missing r =>
    have htext : (Violation.missing r).text =
        "rule " ++ r.text ++ " did not match any metric" := rfl
    refine ⟨r.text ++ " did not match any metric", ?_⟩
    rw [htext, String.append_assoc]
    rfl
  | unexpected m =>
    have htext : (Violation.unexpected m).text = "found " ++ "unexpected metric " ++ m.text := rfl
    refine ⟨"unexpected metric " ++ m.text, ?_⟩
    rw [htext, String.append_assoc]
    rfl

theorem exists_reportLine_eq (colors : Bool) (source : String) (v : Violation) :
    ∃ rest, reportLine colors (source, v) =
      paint colors .bold source ++ ": " ++ kindMark colors v.kind ++ rest := by
  obtain ⟨rest, htext⟩ := exists_text_eq v
  unfold reportLine sourceLine kindMark
  cases colors with
  | false =>
    refine ⟨rest ++ "\n", ?_⟩
    simp [paint, htext, String.append_assoc]
  | true =>
    refine ⟨rest ++ selectRendition 0 ++ "\n", ?_⟩
    simp [paint, htext, String.append_assoc]

theorem kind_eq_of_kindMark (colors : Bool) {kind kind' : ViolationKind}
    (h : (kindMark colors kind).toList <+: (kindMark colors kind').toList) : kind = kind' := by
  revert h
  cases colors <;> cases kind <;> cases kind' <;> decide +kernel

/-- The line of a violation is one of its kind and of no other. -/
theorem isLineOf_reportLine (colors : Bool) (source : String) (kind : ViolationKind)
    (v : Violation) : isLineOf colors source kind (reportLine colors (source, v)) = true ↔
      v.kind = kind := by
  obtain ⟨rest, hline⟩ := exists_reportLine_eq colors source v
  simp only [isLineOf, hline, List.isPrefixOf_iff_prefix, String.toList_append, List.append_assoc,
    List.prefix_append_right_inj]
  constructor
  · intro h
    -- two marks at one place, of which the shorter begins the longer
    rcases List.prefix_or_prefix_of_prefix h (List.prefix_append _ _) with h | h
    · exact (kind_eq_of_kindMark colors h).symm
    · exact kind_eq_of_kindMark colors h
  · rintro rfl
    exact List.prefix_append _ _

/-! ## The block of figures -/

/-- The block of figures with its numbers. -/
def figuresText (colors : Bool) (timings : Timings) (source : String)
    (count : ViolationKind → Nat) (matched rules nodes : Nat) : String :=
  let counted := fun label kind => paint colors .dim label ++ " " ++ countText colors (count kind)
  "\n" ++ paint colors .gray ("━━━ " ++ source ++ " ━━━") ++ "\n" ++
  summaryLine [counted "out of range:" .outOfRange, counted "missing:" .missing,
    counted "unexpected:" .unexpected] ++
  summaryLine
    [paint colors .dim "rules matched:" ++ " " ++ paint colors .green (toString matched) ++ "/" ++
        toString rules,
      paint colors .dim "trie nodes:" ++ " " ++ toString nodes] ++
  summaryLine ["Total: " ++ paint colors .green timings.total,
    "Build: " ++ paint colors .dim timings.build,
    "Evaluate: " ++ paint colors .cyan timings.evaluate,
    "Complete: " ++ paint colors .dim timings.complete]

theorem summaryText_eq (colors : Bool) (timings : Timings) (source : String) (i : Inspection) :
    summaryText colors timings source i =
      figuresText colors timings source i.countOf i.matchedRules i.coverage.length i.nodes := rfl

/-- How many lines tell of an input that it has a violation of a kind. -/
def lineCount (colors : Bool) (source : String) (lines : List String) (kind : ViolationKind) :
    Nat :=
  lines.countP (isLineOf colors source kind)

theorem lineCount_map_reportLine (colors : Bool) (source : String) (found : List Violation)
    (kind : ViolationKind) :
    lineCount colors source (found.map fun v => reportLine colors (source, v)) kind =
      found.countP fun v => v.kind = kind := by
  rw [lineCount, List.countP_map]
  refine List.countP_congr fun v _ => ?_
  rw [Function.comp_apply, isLineOf_reportLine, decide_eq_true_eq]

/-- Each violation is of one of the three kinds. -/
theorem countP_kinds (found : List Violation) :
    found.countP (fun v => v.kind = .outOfRange) + found.countP (fun v => v.kind = .missing) +
      found.countP (fun v => v.kind = .unexpected) = found.length := by
  induction found with
  | nil => rfl
  | cons v found ih =>
    simp only [List.countP_cons, List.length_cons, ← ih]
    cases v <;> simp [Violation.kind] <;> omega

/-! ## The law -/

/-- A check with figures, whatever it reports and whatever it is given. For each input that can be
read it prints the lines of what it found and then a block, with the times of that input: the
counts in it are those of the lines of each kind, and add up to the lines; of the rules as many are
matched as have a metric whose path ends on their home, whatever is reported. If missing rules are
reported, they are at most the rest of the rules; and they are that rest exactly when each rule in
it has the pattern of a required one. -/
theorem figures_agree_with_the_lines (env : Environment) (args : List String) (request : Request)
    (o : CheckOptions) (timings : Nat → Timings) (rules : List Rule)
    (hargs : readRequest args = .ok request) (hcommand : request.command = .check o)
    (hsummary : o.summary = true) (hrules : env.rules o.rules = .ok rules) :
    let colors := o.color.enabled env.onTerminal
    let lines := fun (source : Source) metrics =>
      (violationsAmong o.kinds rules metrics).map fun v => reportLine colors (source.name, v)
    (run env timings args).stdout = String.join ((sources o.files).mapIdx fun place source =>
      match env.metrics source with
      | .error _ => []
      | .ok metrics => lines source metrics ++
        [figuresText colors (timings place) source.name
          (lineCount colors source.name (lines source metrics)) (metRules rules metrics)
          rules.length (Trie.ofRules rules).size]).flatten ∧
    ∀ source metrics, env.metrics source = .ok metrics →
      let count := lineCount colors source.name (lines source metrics)
      (∀ kind, count kind = (violationsAmong o.kinds rules metrics).countP fun v => v.kind = kind) ∧
      count .outOfRange + count .missing + count .unexpected = (lines source metrics).length ∧
      (o.kinds.missing = true → count .missing ≤ rules.length - metRules rules metrics ∧
        (count .missing = rules.length - metRules rules metrics ↔
          ∀ id r, rules[id]? = some r → ¬ IsMet rules metrics id →
            ∃ r' ∈ rules, r'.pattern = r.pattern ∧ r'.required = true)) := by
  intro colors lines
  refine ⟨?_, ?_⟩
  · rw [stdout_run_check hargs hcommand timings]
    refine congrArg (fun printed => String.join ((sources o.files).mapIdx printed).flatten) ?_
    funext place source
    unfold reportLines figures reportedOf inspectionOf
    rw [hrules, if_pos hsummary]
    cases hmetrics : env.metrics source with
    | error why => rfl
    | ok metrics =>
      have hcount : (inspect o.kinds rules metrics).countOf =
          lineCount colors source.name (lines source metrics) :=
        funext fun kind => (lineCount_map_reportLine colors source.name _ kind).symm
      have hlength : (inspect o.kinds rules metrics).coverage.length = rules.length := by
        rw [coverage_inspect, List.length_map]
      simp only [Option.elim_some, Option.toList_some, List.map_singleton, summaryText_eq, hcount,
        hlength, matchedRules_inspect]
      rfl
  · intro source metrics hmetrics count
    have hcount : ∀ kind, count kind =
        (violationsAmong o.kinds rules metrics).countP fun v => v.kind = kind :=
      lineCount_map_reportLine colors source.name _
    refine ⟨hcount, ?_, fun hmissing => ?_⟩
    · rw [hcount, hcount, hcount, countP_kinds, List.length_map]
    · rw [hcount]
      exact countOf_missing_le hmissing rules metrics

/-- For instance, a required rule and an optional one with one pattern, which are both missing,
beside a rule that is met and an optional one that is not. The input is given twice, and takes
longer the second time. -/
theorem figures_agree_with_the_lines_of_two_missing_rules :
    let rules : List Rule :=
      [⟨"cpu.*", true, []⟩, ⟨"disk", false, []⟩, ⟨"net", true, []⟩, ⟨"net", false, []⟩]
    let metrics : List Metric := [⟨"cpu.idle", .ofRatio false 1 1, ⟨0, by decide, by decide⟩⟩]
    let env : Environment :=
      { file := fun name =>
          if name = "rules" then .ok "cpu.*\n~disk\nnet\n~net".toUTF8
          else if name = "metrics" then .ok "cpu.idle 1 0".toUTF8
          else .error .notFound
        stdin := .empty
        logSpec := none
        onTerminal := false
        jsonWords := fun _ _ => "" }
    let timings := fun place =>
      if place = 0 then Timings.mk "4ns" "1ns" "1ns" "2ns" else ⟨"7ns", "1ns", "3ns", "3ns"⟩
    let printed :=
      "metrics: rule net[] did not match any metric\n" ++
      "metrics: rule ~net[] did not match any metric\n" ++
      "\n━━━ metrics ━━━\n" ++
      "  out of range: 0  │  missing: 2  │  unexpected: 0\n" ++
      "  rules matched: 1/4  │  trie nodes: 5\n"
    (run env timings ["check", "--summary", "-f", "rules", "metrics", "metrics"]).stdout =
      printed ++ "  Total: 4ns  │  Build: 1ns  │  Evaluate: 1ns  │  Complete: 2ns\n" ++
      printed ++ "  Total: 7ns  │  Build: 1ns  │  Evaluate: 3ns  │  Complete: 3ns\n" ∧
    lineCount false "metrics" ((violationsAmong .all rules metrics).map fun v =>
      reportLine false ("metrics", v)) .missing ≤ rules.length - metRules rules metrics := by
  intro rules metrics env timings printed
  let o : CheckOptions := ⟨"rules", ["metrics", "metrics"], .all, true, .auto⟩
  have hrules : env.rules o.rules = .ok rules := by
    have hparse : parseRules "cpu.*\n~disk\nnet\n~net" = .ok rules := by decide +kernel
    exact Environment.rules_of_text rfl hparse
  have hmetrics : env.metrics (.file "metrics") = .ok metrics := by
    have hparse : parseMetrics "cpu.idle 1 0" = .ok metrics := by decide +kernel
    exact Environment.metrics_of_text rfl hparse
  have hsources : sources o.files = [.file "metrics", .file "metrics"] := rfl
  obtain ⟨hprinted, hinput⟩ := figures_agree_with_the_lines env
    ["check", "--summary", "-f", "rules", "metrics", "metrics"] ⟨none, .check o⟩ o timings
    rules rfl rfl rfl hrules
  obtain ⟨-, -, hmissing⟩ := hinput _ metrics hmetrics
  refine ⟨?_, (hmissing rfl).1⟩
  rw [hprinted, hsources]
  simp only [List.mapIdx_cons, List.mapIdx_nil, hmetrics]
  decide +kernel

end Cli

end MetricCheck
