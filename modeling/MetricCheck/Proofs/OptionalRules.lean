-- Optional rules. None should ever be missing, and none is while the rules of each pattern
-- are all required or all optional. But the check keeps with a pattern that it is required
-- and not with a rule: where one rule with an unmet pattern is required, the optional ones
-- with that pattern are reported missing too.
import MetricCheck.Proofs.Batches

namespace MetricCheck

/-- A rule with this pattern is required. -/
def IsRequired (rules : List Rule) (pattern : List Stem) : Prop :=
  ∃ r ∈ rules, r.pattern = pattern ∧ r.required = true

instance (rules : List Rule) (pattern : List Stem) : Decidable (IsRequired rules pattern) :=
  inferInstanceAs (Decidable (∃ r ∈ rules, r.pattern = pattern ∧ r.required = true))

/-- Rules with one pattern are all required or all optional. -/
def AgreeOnRequired (rules : List Rule) : Prop :=
  ∀ r ∈ rules, ∀ r' ∈ rules, r.pattern = r'.pattern → r.required = r'.required

instance (rules : List Rule) : Decidable (AgreeOnRequired rules) :=
  inferInstanceAs (Decidable (∀ r ∈ rules, ∀ r' ∈ rules, r.pattern = r'.pattern → _))

variable {kinds : ViolationKinds} {rules : List Rule} {metrics : List Metric} {r : Rule}

/-! ## Which rules are missing -/

theorem isRequired_of_mem (hr : r ∈ rules) (h : r.required = true) : IsRequired rules r.pattern :=
  ⟨r, hr, rfl, h⟩

/-- Without metrics every required pattern is unmet. -/
theorem isUnmet_nil {p : List Stem} : IsUnmet rules [] p ↔ IsRequired rules p := by
  simp [IsUnmet, IsRequired]

theorem missing_mem_inspect_iff :
    .missing r ∈ (inspect kinds rules metrics).violations ↔
      kinds.missing = true ∧ r ∈ rules ∧ IsUnmet rules metrics r.pattern := by
  have hnot : .missing r ∉ reportedOfMetrics kinds rules metrics := fun hmem =>
    kind_ne_missing_of_reportedOfMetrics kinds rules metrics _ hmem rfl
  rw [violations_inspect, List.mem_append, or_iff_right hnot, ← mem_unmet, reportedMissing]
  split
  · rename_i hkind
    simp [hkind]
  · rename_i hkind
    simp [hkind]

theorem isRequired_of_missing (h : .missing r ∈ (inspect kinds rules metrics).violations) :
    r ∈ rules ∧ IsRequired rules r.pattern := by
  obtain ⟨-, hr, hrequired, -⟩ := missing_mem_inspect_iff.1 h
  exact ⟨hr, hrequired⟩

theorem findViolations_nil_perm (rules : List Rule) :
    (findViolations rules []).Perm
      ((rules.filter fun r => IsRequired rules r.pattern).map .missing) := by
  rw [findViolations_eq, List.flatMap_nil, List.nil_append]
  refine ((unmet_perm rules []).trans (.of_eq ?_)).map _
  exact List.filter_congr fun r _ => decide_eq_decide.2 isUnmet_nil

/-! ## Rules that agree -/

theorem AgreeOnRequired.required (h : AgreeOnRequired rules) (hr : r ∈ rules)
    (hrequired : IsRequired rules r.pattern) : r.required = true := by
  obtain ⟨r', hr', hpattern, hyes⟩ := hrequired
  rw [h r hr r' hr' hpattern.symm, hyes]

/-- An optional rule with a required pattern is what stands in the way of agreement. -/
theorem agreeOnRequired_of_required
    (h : ∀ r ∈ rules, IsRequired rules r.pattern → r.required = true) : AgreeOnRequired rules := by
  intro r hr r' hr' hpattern
  rw [Bool.eq_iff_iff]
  constructor
  · intro hyes
    exact h r' hr' (hpattern ▸ isRequired_of_mem hr hyes)
  · intro hyes
    exact h r hr (hpattern ▸ isRequired_of_mem hr' hyes)

theorem AgreeOnRequired.filter_isRequired (h : AgreeOnRequired rules) :
    (rules.filter fun r => IsRequired rules r.pattern) = rules.filter Rule.required := by
  refine List.filter_congr fun r hr => ?_
  rw [Bool.eq_iff_iff, decide_eq_true_eq]
  exact ⟨h.required hr, isRequired_of_mem hr⟩

/-! ## The law -/

/-- Every missing rule has the pattern of a required rule. Without metrics the violations are
one missing rule for each rule with such a pattern. Only required rules are ever missing, and
without metrics each of them is and nothing else, exactly when the rules with one pattern are
all required or all optional. -/
theorem missing_rules_have_required_patterns (rules : List Rule) :
    (∀ kinds metrics r, .missing r ∈ (inspect kinds rules metrics).violations →
      r ∈ rules ∧ IsRequired rules r.pattern) ∧
    (findViolations rules []).Perm
      ((rules.filter fun r => IsRequired rules r.pattern).map .missing) ∧
    (AgreeOnRequired rules ↔ ∀ kinds metrics r,
      .missing r ∈ (inspect kinds rules metrics).violations → r.required = true) ∧
    (AgreeOnRequired rules ↔
      (findViolations rules []).Perm ((rules.filter Rule.required).map .missing)) := by
  have hall : ∀ r ∈ rules, IsRequired rules r.pattern → .missing r ∈ findViolations rules [] :=
    fun r hr hrequired => missing_mem_inspect_iff.2 ⟨rfl, hr, isUnmet_nil.2 hrequired⟩
  refine ⟨fun kinds metrics r => isRequired_of_missing, findViolations_nil_perm rules, ⟨?_, ?_⟩,
    ⟨?_, ?_⟩⟩
  · intro hagree kinds metrics r hmissing
    obtain ⟨hr, hrequired⟩ := isRequired_of_missing hmissing
    exact hagree.required hr hrequired
  · intro hmissing
    refine agreeOnRequired_of_required fun r hr hrequired => ?_
    exact hmissing .all [] r (hall r hr hrequired)
  · intro hagree
    rw [← hagree.filter_isRequired]
    exact findViolations_nil_perm rules
  · intro hperm
    refine agreeOnRequired_of_required fun r hr hrequired => ?_
    obtain ⟨r', hr', heq⟩ := List.mem_map.1 (hperm.mem_iff.1 (hall r hr hrequired))
    cases heq
    exact (List.mem_filter.1 hr').2

/-- For instance, optional and required rules with patterns of their own. -/
theorem missing_rules_have_required_patterns_apart :
    let rules : List Rule := [⟨"cpu.*", true, []⟩, ⟨"disk", false, []⟩, ⟨"cpu.user", true, []⟩]
    (⟨"cpu.user", true, []⟩ ∈ rules ∧ IsRequired rules (Rule.mk "cpu.user" true []).pattern) ∧
    (findViolations rules []).Perm
      ((rules.filter fun r => IsRequired rules r.pattern).map .missing) ∧
    AgreeOnRequired rules ∧
    (∀ kinds metrics r, .missing r ∈ (inspect kinds rules metrics).violations →
      r.required = true) ∧
    (findViolations rules []).Perm ((rules.filter Rule.required).map .missing) := by
  intro rules
  obtain ⟨hpattern, hperm, honly, hexactly⟩ := missing_rules_have_required_patterns rules
  have hmissing : .missing ⟨"cpu.user", true, []⟩ ∈ (inspect .all rules []).violations :=
    missing_mem_inspect_iff.2 ⟨rfl, by decide, by decide⟩
  have hagree : AgreeOnRequired rules := by decide
  exact ⟨hpattern .all [] _ hmissing, hperm, hagree, honly.1 hagree, hexactly.1 hagree⟩

/-- An optional rule beside a required one with the same pattern is missing together with it,
although the wildcard is spelled in two ways. -/
theorem optional_rule_is_missing_beside_a_required_one :
    let required : Rule := ⟨"cpu.*", true, []⟩
    let optional : Rule := ⟨"cpu.#", false, []⟩
    (findViolations [required, optional] []).Perm [.missing required, .missing optional] ∧
      ¬ (∀ kinds metrics r,
        .missing r ∈ (inspect kinds [required, optional] metrics).violations →
          r.required = true) ∧
      ¬ (findViolations [required, optional] []).Perm
        (([required, optional].filter Rule.required).map .missing) := by
  intro required optional
  have hfilter : ([required, optional].filter fun r =>
      IsRequired [required, optional] r.pattern) = [required, optional] := by decide
  have hboth := findViolations_nil_perm [required, optional]
  rw [hfilter, List.map_cons, List.map_singleton] at hboth
  have hmissing := hboth.mem_iff.2 (List.mem_cons_of_mem _ (List.mem_singleton_self _))
  refine ⟨hboth, fun honly => ?_, fun hperm => ?_⟩
  · cases honly .all [] optional hmissing
  · have hlength := (hboth.symm.trans hperm).length_eq
    cases hlength

end MetricCheck
