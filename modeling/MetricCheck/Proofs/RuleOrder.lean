-- The order of the rules. A check asks the list of rules for nothing but the rules with a
-- pattern, so another order of the list can change at most the order in which rules of one
-- pattern are reported, and where no two rules share a pattern it changes nothing.
import MetricCheck.Proofs.Batches
import MetricCheck.Proofs.Completion
import MetricCheck.Proofs.Shadowing
import MetricCheck.Proofs.Trie.Invariant

namespace MetricCheck

/-- The violations of metrics that no rule covers. -/
def Inspection.unexpected (i : Inspection) : List Violation :=
  i.violations.filter fun v => v.kind = .unexpected

theorem unexpected_inspect (kinds : ViolationKinds) (rules : List Rule) (metrics : List Metric) :
    (inspect kinds rules metrics).unexpected =
      (metrics.flatMap fun m => (violationsOf rules m).filter fun v => v.kind = .unexpected).filter
        fun v => kinds.contains v.kind := by
  have hmissing : (reportedMissing kinds rules metrics).filter (fun v => v.kind = .unexpected) =
      [] := by
    refine List.filter_eq_nil_iff.2 fun v hv => ?_
    rw [kind_eq_missing_of_reportedMissing kinds rules metrics v hv]
    simp
  rw [Inspection.unexpected, violations_inspect, List.filter_append, hmissing, List.append_nil,
    reportedOfMetrics, ← List.filter_flatMap, List.filter_filter, List.filter_filter]
  simp only [Bool.and_comm]

variable {rules rules' : List Rule}

/-! ## The same rules in any order -/

section SameRules

variable (h : ∀ r, r ∈ rules ↔ r ∈ rules')
include h

theorem beginsPattern_congr (stems : List Stem) :
    BeginsPattern rules stems ↔ BeginsPattern rules' stems :=
  exists_congr fun r => and_congr_left fun _ => h r

theorem resolveFrom_congr (stems : List String) (found : List Stem) :
    resolveFrom rules found stems = resolveFrom rules' found stems := by
  induction stems generalizing found with
  | nil => rfl
  | cons stem stems ih => simp only [resolveFrom, beginsPattern_congr h, ih]

theorem resolve_congr (path : String) : resolve rules path = resolve rules' path :=
  resolveFrom_congr h (pathStems path) []

theorem isUnmet_congr (metrics : List Metric) (p : List Stem) :
    IsUnmet rules metrics p ↔ IsUnmet rules' metrics p := by
  simp only [IsUnmet, h, resolve_congr h]

theorem patternPrefixes_congr : patternPrefixes rules = patternPrefixes rules' := by
  ext p
  rw [mem_patternPrefixes, mem_patternPrefixes, beginsPattern_congr h]

/-- The size of the trie depends only on which rules there are. -/
theorem nodes_inspect_congr (kinds : ViolationKinds) (metrics : List Metric) :
    (inspect kinds rules metrics).nodes = (inspect kinds rules' metrics).nodes := by
  calc (inspect kinds rules metrics).nodes
      = ((patternPrefixes rules).erase []).card + 1 := (isTrieOf_ofRules rules).size
    _ = ((patternPrefixes rules').erase []).card + 1 := by rw [patternPrefixes_congr h]
    _ = (inspect kinds rules' metrics).nodes := (isTrieOf_ofRules rules').size.symm

/-- A rule has the same coverage wherever it stands. -/
theorem coverage_inspect_congr (kinds : ViolationKinds) (metrics : List Metric) {i j : RuleId}
    {r : Rule} (hi : rules[i]? = some r) (hj : rules'[j]? = some r) :
    ∃ matched, (inspect kinds rules metrics).coverage[i]? = some (r, matched) ∧
      (inspect kinds rules' metrics).coverage[j]? = some (r, matched) := by
  refine ⟨metrics.countP fun m => resolve rules' m.path = some r.pattern, ?_, ?_⟩
  · simp only [coverage_inspect, List.getElem?_map, hi, Option.map_some, resolve_congr h]
  · simp only [coverage_inspect, List.getElem?_map, hj, Option.map_some]

end SameRules

/-! ## The same rules of each pattern, in the same order -/

section SameAtEachPattern

variable (h : ∀ p, rulesWith rules p = rulesWith rules' p)
include h

theorem mem_iff_of_rulesWith_eq (r : Rule) : r ∈ rules ↔ r ∈ rules' := by
  have hmem : r ∈ rulesWith rules r.pattern ↔ r ∈ rules ∧ r.pattern = r.pattern := mem_rulesWith
  rw [h r.pattern, mem_rulesWith] at hmem
  simpa using hmem.symm

theorem violationsOf_eq_of_rulesWith_eq (m : Metric) :
    violationsOf rules m = violationsOf rules' m :=
  violationsOf_congr (resolve_congr (mem_iff_of_rulesWith_eq h) m.path) fun p _ => h p

/-- The missing rules are sorted by their patterns, and at each pattern they are the same. -/
theorem unmet_eq_of_rulesWith_eq (metrics : List Metric) :
    (matchRules rules metrics).unmet = (matchRules rules' metrics).unmet := by
  rw [unmet_eq_mergeSort, unmet_eq_mergeSort]
  refine eq_of_filter_key_eq Rule.pattern (pairwise_key_mergeSort _ _)
    (pairwise_key_mergeSort _ _) fun p => ?_
  rw [filter_key_mergeSort, filter_key_mergeSort,
    filter_filter_pattern rules fun q => IsUnmet rules metrics q,
    filter_filter_pattern rules' fun q => IsUnmet rules' metrics q, h p]
  exact ite_congr (propext (isUnmet_congr (mem_iff_of_rulesWith_eq h) metrics p))
    (fun _ => rfl) fun _ => rfl

/-- A report depends only on the rules of each pattern and their order among themselves. -/
theorem violations_inspect_eq_of_rulesWith_eq (kinds : ViolationKinds) (metrics : List Metric) :
    (inspect kinds rules metrics).violations = (inspect kinds rules' metrics).violations := by
  have hsingle : metrics.flatMap (violationsOf rules) = metrics.flatMap (violationsOf rules') :=
    List.flatMap_congr fun m _ => violationsOf_eq_of_rulesWith_eq h m
  rw [violations_inspect, violations_inspect, reportedOfMetrics, reportedOfMetrics,
    reportedMissing, reportedMissing, hsingle, unmet_eq_of_rulesWith_eq h]

end SameAtEachPattern

/-- Where no two rules share a pattern there is nothing to put in another order. -/
theorem rulesWith_eq_of_nodup (h : rules.Perm rules') (hnodup : (rules.map Rule.pattern).Nodup)
    (p : List Stem) : rulesWith rules p = rulesWith rules' p := by
  have hperm : (rulesWith rules p).Perm (rulesWith rules' p) := h.filter _
  have hlength : (rulesWith rules p).length ≤ 1 := by
    have hcount := List.nodup_iff_count_le_one.1 hnodup p
    rw [List.count, List.countP_map, List.countP_eq_length_filter] at hcount
    refine le_of_eq_of_le (congrArg List.length (List.filter_congr fun r _ => ?_)) hcount
    exact (beq_eq_decide r.pattern p).symm
  cases hthere : rulesWith rules p with
  | nil =>
    rw [hthere] at hperm
    exact hperm.nil_eq
  | cons r there =>
    rw [hthere, List.length_cons] at hlength
    obtain rfl : there = [] := List.length_eq_zero_iff.1 (by omega)
    rw [hthere] at hperm
    exact hperm.singleton_eq

/-! ## Rules in another order -/

section Perm

variable (kinds : ViolationKinds) (h : rules.Perm rules') (metrics : List Metric)
include h

theorem violationsOf_perm (m : Metric) : (violationsOf rules m).Perm (violationsOf rules' m) := by
  have hresolve := resolve_congr (fun r => h.mem_iff) m.path
  cases hp : resolve rules' m.path with
  | none => rw [violationsOf_of_eq_none hp, violationsOf_of_eq_none (hresolve.trans hp)]
  | some p =>
    have hthere : (rulesWith rules p).Perm (rulesWith rules' p) := h.filter _
    rw [violationsOf_of_eq_some hp, violationsOf_of_eq_some (hresolve.trans hp), hthere.any_eq]
    by_cases hnil : rulesWith rules' p = []
    · rw [hnil] at hthere
      rw [if_pos hnil, if_pos hthere.eq_nil]
    · have hne : rulesWith rules p ≠ [] := fun heq => hnil (heq ▸ hthere).nil_eq.symm
      rw [if_neg hnil, if_neg hne]
      split
      · exact .refl _
      · exact hthere.map _

theorem reportedOfMetrics_rules_perm :
    (reportedOfMetrics kinds rules metrics).Perm (reportedOfMetrics kinds rules' metrics) :=
  (List.Perm.flatMap_left metrics fun m _ => violationsOf_perm h m).filter _

theorem reportedMissing_rules_perm :
    (reportedMissing kinds rules metrics).Perm (reportedMissing kinds rules' metrics) := by
  have hsame : (fun r : Rule => decide (IsUnmet rules metrics r.pattern)) =
      fun r => decide (IsUnmet rules' metrics r.pattern) :=
    funext fun r => decide_eq_decide.2 (isUnmet_congr (fun _ => h.mem_iff) metrics r.pattern)
  have hunmet : (matchRules rules metrics).unmet.Perm (matchRules rules' metrics).unmet := by
    refine (unmet_perm rules metrics).trans (.trans ?_ (unmet_perm rules' metrics).symm)
    rw [hsame]
    exact h.filter _
  unfold reportedMissing
  split
  · exact hunmet.map _
  · exact .refl _

/-- A metric is reported as unexpected once at most, so there is nothing to put in another
order either. -/
theorem filter_unexpected_violationsOf (m : Metric) :
    (violationsOf rules m).filter (fun v => v.kind = .unexpected) =
      (violationsOf rules' m).filter fun v => v.kind = .unexpected := by
  have hall : ∀ v ∈ (violationsOf rules m).filter (fun v => v.kind = .unexpected),
      v = .unexpected m := by
    intro v hv
    obtain ⟨hmem, hkind⟩ := List.mem_filter.1 hv
    cases v with
    | unexpected m' => rw [(unexpected_mem_violationsOf_iff.1 hmem).1]
    | outOfRange | missing => cases of_decide_eq_true hkind
  have hperm := (violationsOf_perm h m).filter fun v => v.kind = .unexpected
  rw [List.eq_replicate_of_mem hall] at hperm ⊢
  exact (List.perm_replicate.1 hperm.symm).symm

theorem unexpected_inspect_eq :
    (inspect kinds rules metrics).unexpected = (inspect kinds rules' metrics).unexpected := by
  rw [unexpected_inspect, unexpected_inspect,
    List.flatMap_congr fun m _ => filter_unexpected_violationsOf h m]

theorem coverage_inspect_perm :
    (inspect kinds rules metrics).coverage.Perm (inspect kinds rules' metrics).coverage := by
  simp only [coverage_inspect, resolve_congr fun r => h.mem_iff]
  exact h.map _

end Perm

/-! ## The law -/

/-- Rules in another order give the same violations in another order, with the unexpected
metrics in the same order; each rule keeps its coverage, wherever it stands, and the trie
its size. Where no two rules share a pattern the violations are the same, one by one. -/
theorem rule_order_does_not_change_the_verdict (kinds : ViolationKinds) {rules rules' : List Rule}
    (h : rules.Perm rules') (metrics : List Metric) :
    (inspect kinds rules metrics).violations.Perm (inspect kinds rules' metrics).violations ∧
    (inspect kinds rules metrics).unexpected = (inspect kinds rules' metrics).unexpected ∧
    (inspect kinds rules metrics).coverage.Perm (inspect kinds rules' metrics).coverage ∧
    (∀ (i j : RuleId) (r : Rule), rules[i]? = some r → rules'[j]? = some r →
      ∃ matched, (inspect kinds rules metrics).coverage[i]? = some (r, matched) ∧
        (inspect kinds rules' metrics).coverage[j]? = some (r, matched)) ∧
    (inspect kinds rules metrics).nodes = (inspect kinds rules' metrics).nodes ∧
    ((rules.map Rule.pattern).Nodup →
      (inspect kinds rules metrics).violations = (inspect kinds rules' metrics).violations) := by
  have hmem : ∀ r, r ∈ rules ↔ r ∈ rules' := fun r => h.mem_iff
  refine ⟨?_, unexpected_inspect_eq kinds h metrics, coverage_inspect_perm kinds h metrics, ?_,
    nodes_inspect_congr hmem kinds metrics, ?_⟩
  · rw [violations_inspect, violations_inspect]
    exact (reportedOfMetrics_rules_perm kinds h metrics).append
      (reportedMissing_rules_perm kinds h metrics)
  · intro i j r hi hj
    exact coverage_inspect_congr hmem kinds metrics hi hj
  · intro hnodup
    exact violations_inspect_eq_of_rulesWith_eq (rulesWith_eq_of_nodup h hnodup) kinds metrics

/-- For instance, a wildcard beside a literal that shadows it, put after the literal. -/
theorem rule_order_does_not_change_the_verdict_beside_a_wildcard :
    let rules : List Rule := [⟨"cpu.*", true, [⟨.lessEqual, .zero false⟩]⟩, ⟨"cpu.user", true, []⟩]
    let swapped : List Rule := [⟨"cpu.user", true, []⟩, ⟨"cpu.*", true, [⟨.lessEqual, .zero false⟩]⟩]
    let metrics : List Metric :=
      [⟨"cpu.idle", .infinite false, ⟨0, by decide, by decide⟩⟩,
        ⟨"disk", .nan, ⟨1, by decide, by decide⟩⟩]
    rules.Perm swapped ∧
      (inspect .all rules metrics).violations.Perm (inspect .all swapped metrics).violations ∧
      (inspect .all rules metrics).unexpected = (inspect .all swapped metrics).unexpected ∧
      (inspect .all rules metrics).coverage.Perm (inspect .all swapped metrics).coverage ∧
      (∃ matched, (inspect .all rules metrics).coverage[1]? = some (⟨"cpu.user", true, []⟩, matched) ∧
        (inspect .all swapped metrics).coverage[0]? = some (⟨"cpu.user", true, []⟩, matched)) ∧
      (inspect .all rules metrics).nodes = (inspect .all swapped metrics).nodes ∧
      (rules.map Rule.pattern).Nodup ∧
      (inspect .all rules metrics).violations = (inspect .all swapped metrics).violations := by
  intro rules swapped metrics
  have hperm : rules.Perm swapped := .swap ..
  have hnodup : (rules.map Rule.pattern).Nodup := by decide
  obtain ⟨hviolations, hunexpected, hcoverage, hrule, hnodes, hsame⟩ :=
    rule_order_does_not_change_the_verdict .all hperm metrics
  exact ⟨hperm, hviolations, hunexpected, hcoverage, hrule 1 0 _ rfl rfl, hnodes, hnodup,
    hsame hnodup⟩

end MetricCheck
