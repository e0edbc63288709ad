-- Checking batches of metrics. What is said of one metric depends on no other, so two
-- batches checked as one are reported one after the other. The coverages add up, and a
-- rule is missing from both together when it is missing from each.
import MetricCheck.Proofs.Matching

namespace MetricCheck

/-! ## The parts of a report -/

namespace Inspection

/-- The violations of single metrics: those out of range and the unexpected ones. -/
def ofMetrics (i : Inspection) : List Violation := i.violations.filter fun v => v.kind ≠ .missing

/-- The violations of rules that no metric met. -/
def missing (i : Inspection) : List Violation := i.violations.filter fun v => v.kind = .missing

end Inspection

section Parts

variable (kinds : ViolationKinds) (rules : List Rule) (metrics : List Metric)

/-- The violations of single metrics that are reported. -/
def reportedOfMetrics : List Violation :=
  (metrics.flatMap (violationsOf rules)).filter fun v => kinds.contains v.kind

/-- The violations of missing rules that are reported. -/
def reportedMissing : List Violation :=
  if kinds.missing then (matchRules rules metrics).unmet.map .missing else []

theorem kind_ne_missing_of_reportedOfMetrics :
    ∀ v ∈ reportedOfMetrics kinds rules metrics, v.kind ≠ .missing := by
  intro v hv
  obtain ⟨m, -, hm⟩ := List.mem_flatMap.1 (List.mem_of_mem_filter hv)
  exact kind_ne_missing_of_mem_violationsOf hm

theorem kind_eq_missing_of_reportedMissing :
    ∀ v ∈ reportedMissing kinds rules metrics, v.kind = .missing := by
  intro v hv
  unfold reportedMissing at hv
  split at hv
  · obtain ⟨r, -, rfl⟩ := List.mem_map.1 hv
    rfl
  · cases hv

theorem violations_inspect :
    (inspect kinds rules metrics).violations =
      reportedOfMetrics kinds rules metrics ++ reportedMissing kinds rules metrics :=
  violationsAmong_eq kinds rules metrics

theorem ofMetrics_inspect :
    (inspect kinds rules metrics).ofMetrics = reportedOfMetrics kinds rules metrics := by
  have hofMetrics : (reportedOfMetrics kinds rules metrics).filter (fun v => v.kind ≠ .missing) =
      reportedOfMetrics kinds rules metrics :=
    List.filter_eq_self.2 fun v hv =>
      decide_eq_true (kind_ne_missing_of_reportedOfMetrics kinds rules metrics v hv)
  have hmissing : (reportedMissing kinds rules metrics).filter (fun v => v.kind ≠ .missing) = [] :=
    List.filter_eq_nil_iff.2 fun v hv => by
      simpa using kind_eq_missing_of_reportedMissing kinds rules metrics v hv
  rw [Inspection.ofMetrics, violations_inspect, List.filter_append, hofMetrics, hmissing,
    List.append_nil]

theorem missing_inspect :
    (inspect kinds rules metrics).missing = reportedMissing kinds rules metrics := by
  have hofMetrics : (reportedOfMetrics kinds rules metrics).filter (fun v => v.kind = .missing) =
      [] :=
    List.filter_eq_nil_iff.2 fun v hv => by
      simpa using kind_ne_missing_of_reportedOfMetrics kinds rules metrics v hv
  have hmissing : (reportedMissing kinds rules metrics).filter (fun v => v.kind = .missing) =
      reportedMissing kinds rules metrics :=
    List.filter_eq_self.2 fun v hv =>
      decide_eq_true (kind_eq_missing_of_reportedMissing kinds rules metrics v hv)
  rw [Inspection.missing, violations_inspect, List.filter_append, hofMetrics, hmissing,
    List.nil_append]

theorem coverage_inspect :
    (inspect kinds rules metrics).coverage =
      rules.map fun r => (r, metrics.countP fun m => resolve rules m.path = some r.pattern) :=
  coverage_eq rules metrics

end Parts

/-! ## Missing rules -/

theorem isUnmet_append {rules : List Rule} {first second : List Metric} {p : List Stem} :
    IsUnmet rules (first ++ second) p ↔ IsUnmet rules first p ∧ IsUnmet rules second p := by
  simp only [IsUnmet, List.forall_mem_append]
  tauto

theorem mem_unmet {rules : List Rule} {metrics : List Metric} {r : Rule} :
    r ∈ (matchRules rules metrics).unmet ↔ r ∈ rules ∧ IsUnmet rules metrics r.pattern := by
  rw [(unmet_perm rules metrics).mem_iff, List.mem_filter, decide_eq_true_eq]

/-- Whatever metrics are checked, the missing rules are picked out of one and the same list. -/
theorem exists_unmet_eq_filter (rules : List Rule) :
    ∃ inOrder : List Rule, ∀ metrics, (matchRules rules metrics).unmet =
      inOrder.filter fun r => IsUnmet rules metrics r.pattern := by
  obtain ⟨spelled, h⟩ := represents_ofRules rules
  refine ⟨((Trie.ofRules rules).terminals.map (stemsAt spelled)).flatMap (rulesWith rules),
    fun metrics => ?_⟩
  rw [unmet_eq_flatMap h, List.filter_flatMap, ← flatMap_ite_nil]
  refine List.flatMap_congr fun p _ => ?_
  -- the rules gone through together have one pattern
  have hpattern : ∀ r ∈ rulesWith rules p, r.pattern = p := fun r hr => (mem_rulesWith.1 hr).2
  by_cases hp : IsUnmet rules metrics p
  · rw [if_pos hp, List.filter_eq_self.2]
    intro r hr
    rw [hpattern r hr]
    exact decide_eq_true hp
  · rw [if_neg hp, List.filter_eq_nil_iff.2]
    intro r hr
    rw [hpattern r hr]
    simpa using hp

/-- The rules missing from two batches as one are those missing from each, in the same
order. -/
theorem unmet_append (rules : List Rule) (first second : List Metric) :
    (matchRules rules (first ++ second)).unmet =
      (matchRules rules first).unmet.filter fun r => r ∈ (matchRules rules second).unmet := by
  obtain ⟨inOrder, h⟩ := exists_unmet_eq_filter rules
  have hmem : ∀ r ∈ (matchRules rules first).unmet,
      decide (IsUnmet rules second r.pattern) = decide (r ∈ (matchRules rules second).unmet) := by
    intro r hr
    have hrule := (mem_unmet.1 hr).1
    simp [mem_unmet, hrule]
  rw [← List.filter_congr hmem, h (first ++ second), h first, List.filter_filter]
  refine List.filter_congr fun r _ => ?_
  rw [← Bool.decide_and]
  exact decide_eq_decide.2 (isUnmet_append.trans and_comm)

/-- Which rules are missing depends only on which metrics there are. -/
theorem unmet_congr {rules : List Rule} {metrics metrics' : List Metric}
    (hmem : ∀ m, m ∈ metrics ↔ m ∈ metrics') :
    (matchRules rules metrics).unmet = (matchRules rules metrics').unmet := by
  obtain ⟨inOrder, h⟩ := exists_unmet_eq_filter rules
  rw [h, h]
  refine List.filter_congr fun r _ => decide_eq_decide.2 ?_
  simp only [IsUnmet, hmem]

/-! ## Two batches as one -/

section Append

variable (kinds : ViolationKinds) (rules : List Rule) (first second : List Metric)

theorem reportedOfMetrics_append :
    reportedOfMetrics kinds rules (first ++ second) =
      reportedOfMetrics kinds rules first ++ reportedOfMetrics kinds rules second := by
  unfold reportedOfMetrics
  rw [List.flatMap_append, List.filter_append]

theorem reportedMissing_append :
    reportedMissing kinds rules (first ++ second) =
      (reportedMissing kinds rules first).filter
        fun v => v ∈ reportedMissing kinds rules second := by
  unfold reportedMissing
  cases kinds.missing with
  | false => rfl
  | true =>
    rw [if_pos rfl, if_pos rfl, if_pos rfl, unmet_append, List.filter_map]
    refine congrArg _ (List.filter_congr fun r _ => decide_eq_decide.2 ?_)
    simp

/-- The number of metrics that resolve to a pattern is that of the first batch and that of the
second. -/
theorem coverage_append :
    (inspect kinds rules (first ++ second)).coverage =
      List.zipWith (fun a b => (a.1, a.2 + b.2)) (inspect kinds rules first).coverage
        (inspect kinds rules second).coverage := by
  rw [coverage_inspect, coverage_inspect, coverage_inspect, List.zipWith_map, List.zipWith_self]
  refine List.map_congr_left fun r _ => ?_
  rw [List.countP_append]

end Append

/-! ## Metrics in another order -/

section Perm

variable (kinds : ViolationKinds) (rules : List Rule) {metrics metrics' : List Metric}

theorem reportedOfMetrics_perm (h : metrics.Perm metrics') :
    (reportedOfMetrics kinds rules metrics).Perm (reportedOfMetrics kinds rules metrics') :=
  (h.flatMap_right _).filter _

theorem reportedMissing_perm (h : metrics.Perm metrics') :
    reportedMissing kinds rules metrics = reportedMissing kinds rules metrics' := by
  unfold reportedMissing
  rw [unmet_congr fun m => h.mem_iff]

theorem coverage_perm (h : metrics.Perm metrics') :
    (inspect kinds rules metrics).coverage = (inspect kinds rules metrics').coverage := by
  rw [coverage_inspect, coverage_inspect]
  refine List.map_congr_left fun r _ => ?_
  rw [h.countP_eq]

end Perm

/-! ## The law -/

/-- Of two batches checked as one, single metrics are reported as those of the first and then
those of the second, the missing rules are those of the first that are missing from the second
too, and the coverages, which have every rule in order, are added up. Metrics in another order
give the same violations in another order, with the same missing rules in the same order, and
the same coverage. -/
theorem batches_are_checked_metric_by_metric (kinds : ViolationKinds) (rules : List Rule) :
    (∀ first second : List Metric,
      (inspect kinds rules (first ++ second)).ofMetrics =
        (inspect kinds rules first).ofMetrics ++ (inspect kinds rules second).ofMetrics ∧
      (inspect kinds rules (first ++ second)).missing =
        (inspect kinds rules first).missing.filter
          (fun v => v ∈ (inspect kinds rules second).missing) ∧
      (inspect kinds rules (first ++ second)).coverage =
        List.zipWith (fun a b => (a.1, a.2 + b.2)) (inspect kinds rules first).coverage
          (inspect kinds rules second).coverage) ∧
    (∀ metrics : List Metric, (inspect kinds rules metrics).coverage.map Prod.fst = rules) ∧
    ∀ metrics metrics' : List Metric, metrics.Perm metrics' →
      (inspect kinds rules metrics).violations.Perm (inspect kinds rules metrics').violations ∧
      (inspect kinds rules metrics).missing = (inspect kinds rules metrics').missing ∧
      (inspect kinds rules metrics).coverage = (inspect kinds rules metrics').coverage := by
  refine ⟨?_, ?_, ?_⟩
  · intro first second
    simp only [ofMetrics_inspect, missing_inspect]
    exact ⟨reportedOfMetrics_append kinds rules first second,
      reportedMissing_append kinds rules first second, coverage_append kinds rules first second⟩
  · intro metrics
    rw [coverage_inspect, List.map_map]
    exact List.map_id' rules
  · intro metrics metrics' h
    have hmissing := reportedMissing_perm kinds rules h
    refine ⟨?_, ?_, coverage_perm kinds rules h⟩
    · rw [violations_inspect, violations_inspect, hmissing]
      exact (reportedOfMetrics_perm kinds rules h).append_right _
    · rw [missing_inspect, missing_inspect, hmissing]

/-- For instance, an unexpected metric before a rejected one and after it. -/
theorem batches_are_checked_metric_by_metric_with_two_metrics :
    let rules : List Rule :=
      [⟨"cpu.*", true, [⟨.lessEqual, .zero false⟩]⟩, ⟨"cpu.user", true, []⟩, ⟨"disk", true, []⟩]
    let rejected : Metric := ⟨"cpu.idle", .infinite false, ⟨0, by decide, by decide⟩⟩
    let unexpected : Metric := ⟨"net", .nan, ⟨1, by decide, by decide⟩⟩
    [rejected, unexpected].Perm [unexpected, rejected] ∧
      (inspect .all rules [rejected, unexpected]).violations.Perm
        (inspect .all rules [unexpected, rejected]).violations ∧
      (inspect .all rules [rejected, unexpected]).missing =
        (inspect .all rules [unexpected, rejected]).missing ∧
      (inspect .all rules [rejected, unexpected]).coverage =
        (inspect .all rules [unexpected, rejected]).coverage := by
  intro rules rejected unexpected
  have hperm : [rejected, unexpected].Perm [unexpected, rejected] := .swap unexpected rejected []
  exact ⟨hperm, (batches_are_checked_metric_by_metric .all rules).2.2 _ _ hperm⟩

end MetricCheck
