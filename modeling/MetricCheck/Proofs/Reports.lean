-- What stands in a report. The kinds to report leave violations out and change nothing
-- else, and the patterns alone tell which violations of a kind there are.
import MetricCheck.Proofs.OptionalRules
import MetricCheck.Proofs.Shadowing

namespace MetricCheck

/-! ## The kinds to report -/

theorem violationsAmong_eq_filter (kinds : ViolationKinds) (rules : List Rule)
    (metrics : List Metric) :
    violationsAmong kinds rules metrics =
      (findViolations rules metrics).filter fun v => kinds.contains v.kind := by
  rw [violationsAmong_eq, findViolations_eq, List.filter_append]
  apply congrArg
  -- the missing rules are all of one kind
  cases hk : kinds.missing with
  | true =>
    rw [if_pos rfl, List.filter_eq_self.2]
    intro v hv
    obtain ⟨r, -, rfl⟩ := List.mem_map.1 hv
    exact hk
  | false =>
    rw [if_neg Bool.false_ne_true, List.filter_eq_nil_iff.2]
    intro v hv hyes
    obtain ⟨r, -, rfl⟩ := List.mem_map.1 hv
    exact Bool.false_ne_true (hk.symm.trans hyes)

variable {kinds : ViolationKinds} {rules : List Rule} {metrics : List Metric} {m : Metric}
  {r : Rule}

theorem mem_inspect_iff {v : Violation} :
    v ∈ (inspect kinds rules metrics).violations ↔
      kinds.contains v.kind = true ∧ v ∈ findViolations rules metrics := by
  have hinspect : (inspect kinds rules metrics).violations = violationsAmong kinds rules metrics :=
    rfl
  rw [hinspect, violationsAmong_eq_filter, List.mem_filter, and_comm]

/-! ## The violations of a kind -/

theorem unexpected_mem_inspect_iff :
    .unexpected m ∈ (inspect kinds rules metrics).violations ↔
      kinds.unexpected = true ∧ m ∈ metrics ∧
        ∀ p, resolve rules m.path = some p → rulesWith rules p = [] := by
  rw [mem_inspect_iff, unexpected_mem_findViolations_iff]
  rfl

/-- A value is out of range for a rule when the path resolves to the rule's pattern and every
rule with the pattern refuses the value. -/
theorem outOfRange_mem_violationsOf_iff {m' : Metric} :
    .outOfRange r m ∈ violationsOf rules m' ↔
      m = m' ∧ r ∈ rules ∧ resolve rules m.path = some r.pattern ∧
        ∀ r' ∈ rules, r'.pattern = r.pattern → r'.accepts m.value = false := by
  constructor
  · intro h
    rcases violationsOf_cases rules m' with ⟨-, hv⟩ | ⟨p, hp, -, hv⟩
    · rw [hv] at h
      cases List.mem_singleton.1 h
    · rw [hv] at h
      split at h
      · cases h
      · rename_i hrefused
        obtain ⟨r', hr', heq⟩ := List.mem_map.1 h
        cases heq
        obtain ⟨hr, rfl⟩ := mem_rulesWith.1 hr'
        refine ⟨rfl, hr, hp, fun r' hr' hpattern => ?_⟩
        rw [Bool.eq_false_iff]
        intro haccepts
        exact hrefused (List.any_eq_true.2 ⟨r', mem_rulesWith.2 ⟨hr', hpattern⟩, haccepts⟩)
  · rintro ⟨rfl, hr, hp, hrefuse⟩
    have hany : ¬ (rulesWith rules r.pattern).any (fun r => r.accepts m.value) = true := by
      intro hany
      obtain ⟨r', hr', haccepts⟩ := List.any_eq_true.1 hany
      obtain ⟨hmem, hpattern⟩ := mem_rulesWith.1 hr'
      rw [hrefuse r' hmem hpattern] at haccepts
      cases haccepts
    rw [violationsOf_of_eq_some hp, if_neg (rulesWith_ne_nil hr), if_neg hany]
    exact List.mem_map_of_mem (mem_rulesWith.2 ⟨hr, rfl⟩)

theorem outOfRange_mem_inspect_iff :
    .outOfRange r m ∈ (inspect kinds rules metrics).violations ↔
      kinds.outOfRange = true ∧ m ∈ metrics ∧ r ∈ rules ∧
        resolve rules m.path = some r.pattern ∧
        ∀ r' ∈ rules, r'.pattern = r.pattern → r'.accepts m.value = false := by
  rw [mem_inspect_iff, findViolations_eq, List.mem_append, List.mem_flatMap]
  refine and_congr_right fun _ => ⟨?_, ?_⟩
  · rintro (⟨m', hm', hv⟩ | hmissing)
    · obtain ⟨rfl, hrest⟩ := outOfRange_mem_violationsOf_iff.1 hv
      exact ⟨hm', hrest⟩
    · obtain ⟨r', -, heq⟩ := List.mem_map.1 hmissing
      cases heq
  · rintro ⟨hm, hrest⟩
    exact .inl ⟨m, hm, outOfRange_mem_violationsOf_iff.2 ⟨rfl, hrest⟩⟩

/-- A violation has a rule of the rules and a metric of the metrics, as far as it has any. -/
theorem parts_of_mem_inspect {v : Violation} (h : v ∈ (inspect kinds rules metrics).violations) :
    (∀ r ∈ v.rule?, r ∈ rules) ∧ ∀ m ∈ v.metric?, m ∈ metrics := by
  cases v with
  | outOfRange r m =>
    obtain ⟨-, hm, hr, -⟩ := outOfRange_mem_inspect_iff.1 h
    exact ⟨fun r' hr' => Option.some.inj hr' ▸ hr, fun m' hm' => Option.some.inj hm' ▸ hm⟩
  | missing r =>
    obtain ⟨-, hr, -⟩ := missing_mem_inspect_iff.1 h
    exact ⟨fun r' hr' => Option.some.inj hr' ▸ hr, fun m' hm' => nomatch hm'⟩
  | unexpected m =>
    obtain ⟨-, hm, -⟩ := unexpected_mem_inspect_iff.1 h
    exact ⟨fun r' hr' => (nomatch hr'), fun m' hm' => Option.some.inj hm' ▸ hm⟩

end MetricCheck
