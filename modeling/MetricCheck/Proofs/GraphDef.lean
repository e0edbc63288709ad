-- Rules made from graph definitions, written to a file and used. Where keys and names can
-- stand in rule text, the file is read as the rules that were made, and a check of metrics
-- that have the rules' own paths has nothing to say.
import MetricCheck.Proofs.Cli.Check
import MetricCheck.Proofs.OwnPath
import MetricCheck.Proofs.RuleText.RoundTrip

namespace MetricCheck

open Cli

/-! ## Generated rules -/

/-- Key and names make paths that can be ones in rule text. -/
structure Graph.IsWritable (key : String) (g : Graph) : Prop where
  key_blank : ∀ c ∈ key.toList, Text.isBlank c = false
  key_mark : ∀ c ∈ key.toList.head?, c ∉ pathMarks
  names : ∀ name ∈ g.names, ∀ c ∈ name.toList, Text.isBlank c = false

instance (key : String) (g : Graph) : Decidable (g.IsWritable key) :=
  decidable_of_iff
    ((key.toList.all fun c => !Text.isBlank c) = true ∧
      (key.toList.head?.toList.all fun c => !pathMarks.contains c) = true ∧
      (g.names.all fun name => name.toList.all fun c => !Text.isBlank c) = true) <| by
    constructor
    · rintro ⟨hblank, hmark, hnames⟩
      exact ⟨by simpa using hblank, by simpa using hmark, by simpa using hnames⟩
    · rintro ⟨hblank, hmark, hnames⟩
      exact ⟨by simpa using hblank, by simpa using hmark, by simpa using hnames⟩

/-- So do those of every graph that has metrics. -/
def GraphDefs.IsWritable (defs : GraphDefs) : Prop :=
  ∀ entry ∈ defs.toList, entry.2.names ≠ [] → entry.2.IsWritable entry.1

instance (defs : GraphDefs) : Decidable defs.IsWritable :=
  inferInstanceAs (Decidable (∀ entry ∈ defs.toList, _))

/-- A value from 0 to 100. -/
def Binary64.isPercentage (value : Binary64) : Bool :=
  (zero false).le value && value.le (ofRatio false 100 1)

theorem mem_generateRules {defs : GraphDefs} {r : Rule} :
    r ∈ generateRules defs ↔ ∃ entry ∈ defs.toList, ∃ name ∈ entry.2.names,
      r = ⟨entry.1 ++ "." ++ name, true, entry.2.bounds⟩ := by
  simp only [generateRules, Graph.rules, List.mem_flatMap, List.mem_map, eq_comm]

theorem Graph.mem_bounds {g : Graph} {c : Constraint} (h : c ∈ g.bounds) :
    c = ⟨.greaterEqual, .zero false⟩ ∨ c = ⟨.lessEqual, .ofRatio false 100 1⟩ := by
  unfold bounds at h
  rcases List.mem_cons.1 h with rfl | h
  · exact .inl rfl
  · split at h
    · exact .inr (List.mem_singleton.1 h)
    · cases h

theorem Graph.isFinite_of_mem_bounds {g : Graph} : ∀ c ∈ g.bounds, c.bound.isFinite = true := by
  intro c hc
  rcases mem_bounds hc with rfl | rfl
  · rfl
  · decide +kernel

/-- All generated rules accept the values from 0 to 100. -/
theorem accepts_of_mem_generateRules {defs : GraphDefs} {r : Rule} (hr : r ∈ generateRules defs)
    {value : Binary64} (h : value.isPercentage = true) : r.accepts value = true := by
  obtain ⟨⟨key, g⟩, -, name, -, rfl⟩ := mem_generateRules.1 hr
  rw [Binary64.isPercentage, Bool.and_eq_true] at h
  refine List.all_eq_true.2 fun c hc => ?_
  have hc : c ∈ g.bounds := hc
  rcases Graph.mem_bounds hc with rfl | rfl
  · simp only [Constraint.holds, Operator.holds, h.1]
  · simp only [Constraint.holds, Operator.holds, h.2]

theorem Graph.IsWritable.isPath {key name : String} {g : Graph} (h : g.IsWritable key)
    (hname : name ∈ g.names) : IsPath (key ++ "." ++ name).toList := by
  have htoList : (key ++ "." ++ name).toList = key.toList ++ '.' :: name.toList := by simp
  rw [htoList]
  refine ⟨by simp, ?_, ?_⟩
  · intro c hc
    rcases List.mem_append.1 hc with hc | hc
    · exact h.key_blank c hc
    · rcases List.mem_cons.1 hc with rfl | hc
      · decide
      · exact h.names name hname c hc
  · -- an empty key leaves the dot in front
    cases hkey : key.toList with
    | nil =>
      intro c hc
      obtain rfl := Option.some.inj hc
      decide
    | cons d cs =>
      have hmark := h.key_mark
      rw [hkey] at hmark
      exact hmark

theorem GraphDefs.IsWritable.isWritable_of_mem {defs : GraphDefs} (h : defs.IsWritable) :
    ∀ r ∈ generateRules defs, r.IsWritable := by
  intro r hr
  obtain ⟨⟨key, g⟩, hentry, name, hname, rfl⟩ := mem_generateRules.1 hr
  have hg := h (key, g) hentry (List.ne_nil_of_mem hname)
  exact ⟨hg.isPath hname, Graph.isFinite_of_mem_bounds⟩

/-- The text of generated rules is read as those rules. -/
theorem GraphDefs.IsWritable.parseRules {defs : GraphDefs} (h : defs.IsWritable) :
    parseRules (renderRules (generateRules defs)) = .ok (generateRules defs) :=
  parseRules_renderRules h.isWritable_of_mem

/-! ## Their own metrics -/

/-- Each metric has the path of a rule and a value from 0 to 100, and the path of each rule
is there. -/
structure OwnMetrics (rules : List Rule) (metrics : List Metric) : Prop where
  path : ∀ m ∈ metrics, ∃ r ∈ rules, m.path = r.path
  value : ∀ m ∈ metrics, m.value.isPercentage = true
  complete : ∀ r ∈ rules, ∃ m ∈ metrics, m.path = r.path

theorem OwnMetrics.violationsAmong {defs : GraphDefs} {metrics : List Metric}
    (h : OwnMetrics (generateRules defs) metrics) (kinds : ViolationKinds) :
    violationsAmong kinds (generateRules defs) metrics = [] := by
  apply violationsAmong_eq_nil
  · intro m hm
    obtain ⟨r, hr, hpath⟩ := h.path m hm
    exact ⟨r, hr, hpath, accepts_of_mem_generateRules hr (h.value m hm)⟩
  · intro r hr _
    exact h.complete r hr

/-! ## The law -/

/-- Where keys and names can stand in rule text, the text of the rules of graph definitions is
read as these rules. They have nothing to say of their own metrics, and a check of such metrics
against a file with that text succeeds and writes nothing. -/
theorem generated_rules_accept_their_own_metrics (defs : GraphDefs) (hdefs : defs.IsWritable) :
    parseRules (renderRules (generateRules defs)) = .ok (generateRules defs) ∧
    (∀ metrics, OwnMetrics (generateRules defs) metrics →
      findViolations (generateRules defs) metrics = []) ∧
    ∀ env timings args o, IsSilentCheck env args o → o.summary = false →
      env.file o.rules = .ok (renderRules (generateRules defs)).toUTF8 →
      (∀ source ∈ sources o.files, ∃ text metrics, env.content source = .ok text.toUTF8 ∧
        parseMetrics text = .ok metrics ∧ OwnMetrics (generateRules defs) metrics) →
      run env timings args = ⟨0, "", ""⟩ := by
  refine ⟨hdefs.parseRules, fun metrics h => h.violationsAmong .all, ?_⟩
  intro env timings args o hcheck hsummary hfile hinputs
  have hrules : env.rules o.rules = .ok (generateRules defs) :=
    Environment.rules_of_text hfile hdefs.parseRules
  rw [run_check_of_ok hcheck hsummary timings hrules]
  apply Outcome.inTurn_eq_nothing
  intro outcome houtcome
  obtain ⟨source, hsource, rfl⟩ := List.mem_map.1 houtcome
  obtain ⟨text, metrics, hcontent, hparse, hown⟩ := hinputs source hsource
  have hmetrics : env.metrics source = .ok metrics := Environment.metrics_of_text hcontent hparse
  exact inputOutcome_eq_nothing hmetrics (hown.violationsAmong o.kinds)

/-- For instance, with wildcards in keys and names, an empty name, two graphs with a path in
common, and paths that begin with others. -/
theorem generated_rules_accept_their_own_metrics_with_wildcards :
    let defs := GraphDefs.ofEntries [("cpu.#", ⟨"percentage", ["*", ""]⟩),
      ("cpu", ⟨"", ["#.*", "#"]⟩), ("/ ", ⟨"", []⟩)]
    let text := "cpu.#.* 100 0\ncpu.# 1 0\ncpu.#. 0 0\n"
    let env : Environment :=
      { file := fun name =>
          if name = "metricrules" then .ok (renderRules (generateRules defs)).toUTF8
          else .error .notFound
        stdin := text.toUTF8
        logSpec := none
        onTerminal := true
        jsonWords := fun _ _ => "" }
    defs.IsWritable ∧
      (∃ metrics, parseMetrics text = .ok metrics ∧ OwnMetrics (generateRules defs) metrics ∧
        findViolations (generateRules defs) metrics = []) ∧
      run env (fun _ => ⟨"1ns", "-", "-", "-"⟩) ["check"] = ⟨0, "", ""⟩ := by
  intro defs text env
  have hdefs : defs.IsWritable := by decide +kernel
  let o : CheckOptions := ⟨"metricrules", [], .all, false, .auto⟩
  have hcheck : IsSilentCheck env ["check"] o := isSilentCheck_of_no_level rfl rfl
  have hmetrics : ∃ metrics, parseMetrics text = .ok metrics ∧
      OwnMetrics (generateRules defs) metrics := by
    refine ⟨[⟨"cpu.#.*", .ofRatio false 100 1, ⟨0, by decide, by decide⟩⟩,
      ⟨"cpu.#", .ofRatio false 1 1, ⟨0, by decide, by decide⟩⟩,
      ⟨"cpu.#.", .zero false, ⟨0, by decide, by decide⟩⟩], by decide +kernel, ?_, ?_, ?_⟩
    · decide +kernel
    · decide +kernel
    · decide +kernel
  obtain ⟨metrics, hparse, hown⟩ := hmetrics
  obtain ⟨-, hfind, hrun⟩ := generated_rules_accept_their_own_metrics defs hdefs
  refine ⟨hdefs, ⟨metrics, hparse, hown, hfind metrics hown⟩, ?_⟩
  apply hrun env _ _ o hcheck rfl rfl
  intro source hsource
  obtain rfl := List.mem_singleton.1 hsource
  exact ⟨text, metrics, rfl, hparse, hown⟩

end MetricCheck
