-- Every metric is counted once. It ends on the node of one pattern and counts for the
-- rules with that pattern, or it is unexpected and counts for none; what becomes of its
-- value there makes no difference.
import Mathlib.Algebra.BigOperators.Option
import Mathlib.Algebra.GroupWithZero.Nat
import MetricCheck.Proofs.Reports
import MetricCheck.Proofs.Trie.Invariant

namespace MetricCheck

/-- The patterns with the number of their hits, each pattern once. -/
def Inspection.patternHits (i : Inspection) : List (List Stem × Nat) :=
  (i.coverage.map fun covered => (covered.1.pattern, covered.2)).dedup

/-- The pattern that a path resolves to, where some rule has it. -/
def metPattern (rules : List Rule) (path : String) : Option (List Stem) :=
  (resolve rules path).filter fun p => rulesWith rules p ≠ []

/-! ## Lookups -/

namespace Represents

variable {t : Trie} {rules : List Rule} {spelled : List (List Stem)}

/-- A path ends on a node when it resolves to what the node spells. -/
theorem lookup_eq_some_iff (h : Represents t rules spelled) {i : NodeId} {p : List Stem}
    (hp : spelled[i]? = some p) (path : String) :
    t.lookup path = some i ↔ resolve rules path = some p := by
  unfold Trie.lookup
  rw [h.walk_root, Option.bind_eq_some_iff]
  constructor
  · rintro ⟨q, hq, hnode⟩
    have hspelled := h.spells.nodeAt_eq_some_iff.1 hnode
    obtain rfl := Option.some.inj (hp.symm.trans hspelled)
    exact hq
  · intro hresolve
    exact ⟨p, hresolve, h.spells.nodeAt_eq_some_iff.2 hp⟩

end Represents

/-- A path ends on the home of a rule when it resolves to the rule's pattern. -/
theorem exists_home {rules : List Rule} {id : RuleId} {r : Rule} (hr : rules[id]? = some r) :
    ∃ home n, (Trie.ofRules rules).homes[id]? = some home ∧
      (Trie.ofRules rules).node? home = some n ∧ id ∈ n.rules ∧
      ∀ path, (Trie.ofRules rules).lookup path = some home ↔
        resolve rules path = some r.pattern := by
  obtain ⟨spelled, h⟩ := represents_ofRules rules
  obtain ⟨home, hhome, hnode⟩ := h.home hr
  have hspelled := h.spells.nodeAt_eq_some_iff.1 hnode
  obtain ⟨n, hn⟩ := h.spells.exists_node hspelled
  exact ⟨home, n, hhome, hn, (h.mem_rules_iff hn id).2 hhome, h.lookup_eq_some_iff hspelled⟩

/-! ## The pattern that a metric meets -/

section MetPattern

variable {rules : List Rule} {path : String} {p : List Stem}

theorem metPattern_eq_some_iff :
    metPattern rules path = some p ↔ resolve rules path = some p ∧ rulesWith rules p ≠ [] := by
  simp [metPattern, Option.filter_eq_some_iff]

theorem metPattern_eq_none_iff :
    metPattern rules path = none ↔ ∀ p, resolve rules path = some p → rulesWith rules p = [] := by
  simp [metPattern, Option.filter_eq_none_iff]

/-- The pattern of a rule is met by the paths that resolve to it. -/
theorem metPattern_eq_pattern_iff {r : Rule} (hr : r ∈ rules) :
    metPattern rules path = some r.pattern ↔ resolve rules path = some r.pattern := by
  rw [metPattern_eq_some_iff, and_iff_left (rulesWith_ne_nil hr)]

theorem mem_of_metPattern (h : metPattern rules path = some p) :
    p ∈ (rules.map Rule.pattern).dedup := by
  obtain ⟨-, hne⟩ := metPattern_eq_some_iff.1 h
  obtain ⟨r, hr⟩ := List.exists_mem_of_ne_nil _ hne
  obtain ⟨hmem, rfl⟩ := mem_rulesWith.1 hr
  exact List.mem_dedup.2 (List.mem_map_of_mem hmem)

end MetPattern

/-! ## Counting -/

/-- What has a key is counted at that key, and at no other. -/
theorem sum_countP_add_countP_none {α κ : Type} [DecidableEq κ] (key : α → Option κ)
    {keys : List κ} (hkeys : keys.Nodup) {xs : List α}
    (h : ∀ x ∈ xs, ∀ k, key x = some k → k ∈ keys) :
    (keys.map fun k => xs.countP fun x => key x = some k).sum +
      xs.countP (fun x => key x = none) = xs.length := by
  -- the keys of the list are counted over all that there may be, none included
  have hmem : ∀ a ∈ Multiset.map key xs, a ∈ Finset.insertNone keys.toFinset := by
    intro a ha
    obtain ⟨x, hx, rfl⟩ := Multiset.mem_map.1 ha
    exact Finset.mem_insertNone.2 fun k hk => List.mem_toFinset.2 (h x hx k hk)
  have hcount : ∀ a, Multiset.count a (Multiset.map key xs) = xs.countP fun x => key x = a := by
    intro a
    rw [Multiset.count_map, Multiset.filter_coe, Multiset.coe_card, List.countP_eq_length_filter]
    simp only [eq_comm]
  have hcard := Multiset.sum_count_eq_card hmem
  rw [Finset.sum_insertNone, List.sum_toFinset _ hkeys, Multiset.card_map] at hcard
  simp only [hcount, Multiset.coe_card] at hcard
  rw [Nat.add_comm]
  exact hcard

section Counting

variable (rules : List Rule) (metrics : List Metric)

theorem countP_unexpected_violationsOf (m : Metric) :
    (violationsOf rules m).countP (fun v => v.kind = .unexpected) =
      if metPattern rules m.path = none then 1 else 0 := by
  rcases violationsOf_cases rules m with ⟨hnone, hv⟩ | ⟨p, hp, hne, hv⟩
  · rw [hv, if_pos (metPattern_eq_none_iff.2 hnone)]
    rfl
  · have hsome : metPattern rules m.path = some p := metPattern_eq_some_iff.2 ⟨hp, hne⟩
    rw [hv, hsome, if_neg (Option.some_ne_none p)]
    split
    · rfl
    · simp [List.countP_map, Violation.kind, Function.comp_def]

theorem countP_unexpected_flatMap :
    (metrics.flatMap (violationsOf rules)).countP (fun v => v.kind = .unexpected) =
      metrics.countP fun m => metPattern rules m.path = none := by
  induction metrics with
  | nil => rfl
  | cons m metrics ih =>
    rw [List.flatMap_cons, List.countP_append, ih, countP_unexpected_violationsOf,
      List.countP_cons, Nat.add_comm]
    simp only [decide_eq_true_eq]

/-- The unexpected violations are as many as the metrics that meet no pattern. -/
theorem countOf_unexpected :
    (inspect .all rules metrics).countOf .unexpected =
      metrics.countP fun m => metPattern rules m.path = none := by
  have hall : (inspect .all rules metrics).violations = findViolations rules metrics := rfl
  have hmissing : ((matchRules rules metrics).unmet.map Violation.missing).countP
      (fun v => v.kind = .unexpected) = 0 := by
    simp [List.countP_map, Violation.kind, Function.comp_def]
  unfold Inspection.countOf
  rw [hall, findViolations_eq, List.countP_append, hmissing, Nat.add_zero,
    countP_unexpected_flatMap]

variable (kinds : ViolationKinds)

theorem patternHits_inspect :
    (inspect kinds rules metrics).patternHits =
      (rules.map Rule.pattern).dedup.map fun p =>
        (p, metrics.countP fun m => resolve rules m.path = some p) := by
  have hinjective : Function.Injective fun p : List Stem =>
      (p, metrics.countP fun m => resolve rules m.path = some p) :=
    fun p q heq => congrArg Prod.fst heq
  rw [← List.dedup_map_of_injective hinjective, Inspection.patternHits, coverage_inspect,
    List.map_map, List.map_map]
  rfl

/-- The hits of the patterns and the unexpected violations are the metrics. -/
theorem sum_patternHits_add_countOf_unexpected :
    ((inspect kinds rules metrics).patternHits.map Prod.snd).sum +
      (inspect .all rules metrics).countOf .unexpected = metrics.length := by
  have hhits : (inspect kinds rules metrics).patternHits.map Prod.snd =
      (rules.map Rule.pattern).dedup.map fun p =>
        metrics.countP fun m => metPattern rules m.path = some p := by
    rw [patternHits_inspect, List.map_map]
    refine List.map_congr_left fun p hp => ?_
    obtain ⟨r, hr, rfl⟩ := List.mem_map.1 (List.mem_dedup.1 hp)
    simp only [Function.comp_apply, metPattern_eq_pattern_iff hr]
  rw [hhits, countOf_unexpected]
  exact sum_countP_add_countP_none (fun m : Metric => metPattern rules m.path)
    (List.nodup_dedup _) fun m _ p hp => mem_of_metPattern hp

/-! ## Coverage and violations -/

variable {rules metrics} {r : Rule}

theorem getElem?_coverage {id : RuleId} (hr : rules[id]? = some r) :
    (inspect kinds rules metrics).coverage[id]? =
      some (r, metrics.countP fun m => resolve rules m.path = some r.pattern) := by
  rw [coverage_inspect, List.getElem?_map, hr, Option.map_some]

theorem mem_coverage_iff {matched : Nat} :
    (r, matched) ∈ (inspect kinds rules metrics).coverage ↔
      r ∈ rules ∧ metrics.countP (fun m => resolve rules m.path = some r.pattern) = matched := by
  rw [coverage_inspect, List.mem_map]
  constructor
  · rintro ⟨r, hr, heq⟩
    cases heq
    exact ⟨hr, rfl⟩
  · rintro ⟨hr, rfl⟩
    exact ⟨r, hr, rfl⟩

/-- Of a value out of range there is a metric that counts for the rule. -/
theorem covered_of_outOfRange {m : Metric}
    (h : .outOfRange r m ∈ (inspect kinds rules metrics).violations) :
    r ∈ rules ∧ ∀ matched, (r, matched) ∈ (inspect kinds rules metrics).coverage → 0 < matched := by
  obtain ⟨-, hm, hr, hresolve, -⟩ := outOfRange_mem_inspect_iff.1 h
  refine ⟨hr, fun matched hmatched => ?_⟩
  obtain ⟨-, rfl⟩ := (mem_coverage_iff kinds).1 hmatched
  exact List.countP_pos_iff.2 ⟨m, hm, decide_eq_true hresolve⟩

/-- A rule that is missing has no metric that counts for it. -/
theorem uncovered_of_missing (h : .missing r ∈ (inspect kinds rules metrics).violations) :
    r ∈ rules ∧ ∀ matched, (r, matched) ∈ (inspect kinds rules metrics).coverage → matched = 0 := by
  obtain ⟨-, hr, -, hunmet⟩ := missing_mem_inspect_iff.1 h
  refine ⟨hr, fun matched hmatched => ?_⟩
  obtain ⟨-, rfl⟩ := (mem_coverage_iff kinds).1 hmatched
  rw [List.countP_eq_zero]
  intro m hm hresolve
  exact hunmet m hm (of_decide_eq_true hresolve)

end Counting

/-! ## The law -/

/-- The coverage has every rule once, in order, with the number of metrics whose paths end on
the rule's home, whatever their values are. Rules with one pattern have one coverage, and the
coverages of the patterns, each counted once, and the unexpected violations add up to the
metrics. A rule that a value is out of range for is covered, and one that is missing is not. -/
theorem every_metric_is_counted_once (kinds : ViolationKinds) (rules : List Rule)
    (metrics : List Metric) :
    (inspect kinds rules metrics).coverage.map Prod.fst = rules ∧
    (∀ (id : RuleId) (r : Rule), rules[id]? = some r →
      ∃ home, (Trie.ofRules rules).homes[id]? = some home ∧
        (inspect kinds rules metrics).coverage[id]? =
          some (r, metrics.countP fun m => (Trie.ofRules rules).lookup m.path = some home)) ∧
    (∀ r matched r' matched', (r, matched) ∈ (inspect kinds rules metrics).coverage →
      (r', matched') ∈ (inspect kinds rules metrics).coverage →
      r.pattern = r'.pattern → matched = matched') ∧
    (inspect kinds rules metrics).patternHits.map Prod.fst = (rules.map Rule.pattern).dedup ∧
    ((inspect kinds rules metrics).patternHits.map Prod.snd).sum +
      (inspect .all rules metrics).countOf .unexpected = metrics.length ∧
    (∀ r m, .outOfRange r m ∈ (inspect kinds rules metrics).violations → r ∈ rules ∧
      ∀ matched, (r, matched) ∈ (inspect kinds rules metrics).coverage → 0 < matched) ∧
    ∀ r, .missing r ∈ (inspect kinds rules metrics).violations → r ∈ rules ∧
      ∀ matched, (r, matched) ∈ (inspect kinds rules metrics).coverage → matched = 0 := by
  refine ⟨?_, ?_, ?_, ?_, sum_patternHits_add_countOf_unexpected rules metrics kinds,
    fun r m => covered_of_outOfRange kinds, fun r => uncovered_of_missing kinds⟩
  · rw [coverage_inspect, List.map_map]
    exact List.map_id' rules
  · intro id r hr
    obtain ⟨home, -, hhome, -, -, hlookup⟩ := exists_home hr
    refine ⟨home, hhome, ?_⟩
    simp only [getElem?_coverage kinds hr, hlookup]
  · intro r matched r' matched' hr hr' hpattern
    obtain ⟨-, rfl⟩ := (mem_coverage_iff kinds).1 hr
    obtain ⟨-, rfl⟩ := (mem_coverage_iff kinds).1 hr'
    rw [hpattern]
  · rw [patternHits_inspect, List.map_map]
    exact List.map_id' (rules.map Rule.pattern).dedup

/-- For instance, two spellings of one pattern with a metric that both of them refuse, beside a
rule that is missing and a metric that is unexpected. -/
theorem every_metric_is_counted_once_with_two_spellings :
    let star : Rule := ⟨"cpu.*", true, [⟨.lessEqual, .zero false⟩]⟩
    let number : Rule := ⟨"cpu.#", false, [⟨.lessThan, .zero false⟩]⟩
    let disk : Rule := ⟨"disk", true, []⟩
    let rules : List Rule := [star, number, disk]
    let refused : Metric := ⟨"cpu.idle", .infinite false, ⟨0, by decide, by decide⟩⟩
    let metrics : List Metric := [refused, ⟨"net", .nan, ⟨1, by decide, by decide⟩⟩]
    (∃ home, (Trie.ofRules rules).homes[1]? = some home ∧
      (inspect .all rules metrics).coverage[1]? =
        some (number, metrics.countP fun m => (Trie.ofRules rules).lookup m.path = some home)) ∧
    ((star, 1) ∈ (inspect .all rules metrics).coverage ∧ star.pattern = number.pattern ∧
      ∀ matched, (number, matched) ∈ (inspect .all rules metrics).coverage → matched = 1) ∧
    (.outOfRange star refused ∈ (inspect .all rules metrics).violations ∧
      ∀ matched, (star, matched) ∈ (inspect .all rules metrics).coverage → 0 < matched) ∧
    .missing disk ∈ (inspect .all rules metrics).violations ∧
      ∀ matched, (disk, matched) ∈ (inspect .all rules metrics).coverage → matched = 0 := by
  intro star number disk rules refused metrics
  have hresolve : resolve rules refused.path = some star.pattern := by decide
  have hpattern : star.pattern = number.pattern := by decide
  have hstar : (star, 1) ∈ (inspect .all rules metrics).coverage :=
    (mem_coverage_iff .all).2 ⟨by decide, by decide⟩
  have hrefused : .outOfRange star refused ∈ (inspect .all rules metrics).violations :=
    outOfRange_mem_inspect_iff.2 ⟨rfl, by decide, by decide, hresolve, by decide⟩
  have hdisk : .missing disk ∈ (inspect .all rules metrics).violations :=
    missing_mem_inspect_iff.2 ⟨rfl, by decide, by decide⟩
  obtain ⟨-, hhomes, hsame, -, -, hrange, hmissing⟩ :=
    every_metric_is_counted_once .all rules metrics
  refine ⟨hhomes 1 number rfl, ⟨hstar, hpattern, fun matched hmatched => ?_⟩,
    ⟨hrefused, (hrange star refused hrefused).2⟩, ⟨hdisk, (hmissing disk hdisk).2⟩⟩
  exact (hsame star 1 number matched hstar hmatched hpattern).symm

end MetricCheck
