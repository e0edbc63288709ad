-- Checking through the trie says of every list of metrics what the patterns say by
-- themselves: the walk of a path ends on the node of the pattern that the path
-- resolves to, and the node has the rules with that pattern.
import MetricCheck.Matching
import MetricCheck.Proofs.Trie.Traversal

namespace MetricCheck

namespace Represents

variable {t : Trie} {rules : List Rule} {spelled : List (List Stem)}

/-! ## The walk of a path -/

/-- There is a child along a stem where a pattern goes on with that stem. -/
theorem child?_eq_none_iff (h : Represents t rules spelled) {i : NodeId} {p : List Stem} {n : Node}
    (hp : spelled[i]? = some p) (hn : t.node? i = some n) (s : Stem) :
    n.child? s = none ↔ ¬ BeginsPattern rules (p ++ [s]) := by
  have hmem : p ++ [s] ∈ spelled ↔ BeginsPattern rules (p ++ [s]) := by
    rw [h.mem]
    simp
  rw [← hmem]
  constructor
  · exact h.spells.not_mem_of_child hp hn
  · intro hnot
    cases hc : n.child? s with
    | none => rfl
    | some c => exact absurd (h.spells.mem_of_child hp hn hc) hnot

/-- One step of a walk is one step of the resolution. -/
theorem step? (h : Represents t rules spelled) {i : NodeId} {p : List Stem} {n : Node}
    (hp : spelled[i]? = some p) (hn : t.node? i = some n) (stem : String) :
    (n.step? stem).map (spelled[·]?) =
      if BeginsPattern rules (p ++ [.literal stem]) then some (some (p ++ [.literal stem]))
      else if BeginsPattern rules (p ++ [.wildcard]) then some (some (p ++ [.wildcard]))
      else none := by
  have hnone := h.child?_eq_none_iff hp hn
  have hsome := h.spells.child hp hn
  unfold Node.step?
  cases hl : n.child? (.literal stem) with
  | some c =>
    have hb : BeginsPattern rules (p ++ [.literal stem]) := by
      by_contra hb
      rw [(hnone _).2 hb] at hl
      cases hl
    rw [if_pos hb, Option.some_or, Option.map_some, (hsome _ c).1 hl]
  | none =>
    rw [if_neg ((hnone _).1 hl), Option.none_or]
    cases hw : n.child? .wildcard with
    | some c =>
      have hb : BeginsPattern rules (p ++ [.wildcard]) := by
        by_contra hb
        rw [(hnone _).2 hb] at hw
        cases hw
      rw [if_pos hb, Option.map_some, (hsome _ c).1 hw]
    | none =>
      rw [if_neg ((hnone _).1 hw)]
      rfl

/-- A walk ends on the node that spells what its stems resolve to. -/
theorem walk (h : Represents t rules spelled) (stems : List String) {i : NodeId}
    {p : List Stem} (hp : spelled[i]? = some p) :
    (t.walk i stems).map (spelled[·]?) = (resolveFrom rules p stems).map some := by
  induction stems generalizing i p with
  | nil => rw [Trie.walk, resolveFrom, Option.map_some, Option.map_some, hp]
  | cons stem stems ih =>
    obtain ⟨n, hn⟩ := h.spells.exists_node hp
    have hnode : t.node? i = some n := hn
    have hstep := h.step? hp hn stem
    rw [Trie.walk, resolveFrom, hnode, Option.bind_some]
    cases hc : n.step? stem with
    | none =>
      rw [hc] at hstep
      split at hstep
      · cases hstep
      · rename_i hl
        split at hstep
        · cases hstep
        · rename_i hw
          rw [if_neg hl, if_neg hw]
          rfl
    | some c =>
      rw [hc] at hstep
      split at hstep
      · rename_i hl
        rw [if_pos hl]
        exact ih (Option.some.inj hstep)
      · rename_i hl
        split at hstep
        · rename_i hw
          rw [if_neg hl, if_pos hw]
          exact ih (Option.some.inj hstep)
        · cases hstep

theorem lookup (h : Represents t rules spelled) (path : String) :
    (t.lookup path).map (spelled[·]?) = (resolve rules path).map some :=
  h.walk (pathStems path) h.spells.root

/-! ## The rules of a node -/

theorem exists_node (h : Represents t rules spelled) {i : NodeId} {p : List Stem}
    (hp : spelled[i]? = some p) : ∃ n, t.node? i = some n :=
  h.spells.exists_node hp

/-- A node that spells a pattern has the label that the rules give the pattern. -/
theorem label_of_node? (h : Represents t rules spelled) {i : NodeId} {p : List Stem} {n : Node}
    (hp : spelled[i]? = some p) (hn : t.node? i = some n) :
    n.rules = (idsWith rules p).toArray ∧ n.required = anyRequired rules p := by
  have hlabel := h.label hp
  have hnode : t.nodes[i]? = some n := hn
  rw [labelAt, hnode, Option.getD_some, Prod.mk.injEq] at hlabel
  exact hlabel

theorem rulesOf (h : Represents t rules spelled) {i : NodeId} {p : List Stem} {n : Node}
    (hp : spelled[i]? = some p) (hn : t.node? i = some n) :
    (Matcher.mk rules.toArray t).rulesOf n = rulesWith rules p := by
  have hids := (h.label_of_node? hp hn).1
  have hrules := filterMap_idsWith rules [] p
  rw [List.append_nil] at hrules
  rw [Matcher.rulesOf, hids, ← hrules]
  simp

/-- A node is terminal when it spells the pattern of a rule. -/
theorem isTerminal_iff (h : Represents t rules spelled) {i : NodeId} {p : List Stem} {n : Node}
    (hp : spelled[i]? = some p) (hn : t.node? i = some n) :
    n.isTerminal = true ↔ rulesWith rules p ≠ [] := by
  have hids := (h.label_of_node? hp hn).1
  have hempty : idsWith rules p = [] ↔ rulesWith rules p = [] := by
    rw [← List.length_eq_zero_iff, length_idsWith, List.length_eq_zero_iff]
  simp [Node.isTerminal, hids, hempty]

/-! ## Verdicts -/

/-- The verdict on a metric, from the pattern that its path resolves to. -/
theorem judge_cases (h : Represents t rules spelled) (metric : Metric) :
    (∃ i p, resolve rules metric.path = some p ∧ spelled[i]? = some p ∧ rulesWith rules p ≠ [] ∧
      (Matcher.mk rules.toArray t).judge metric =
        if (rulesWith rules p).any fun r => r.accepts metric.value then .accepted i
        else .rejected i (rulesWith rules p)) ∨
    (∀ p, resolve rules metric.path = some p → rulesWith rules p = []) ∧
      (Matcher.mk rules.toArray t).judge metric = .uncovered := by
  have hlookup := h.lookup metric.path
  unfold Matcher.judge
  cases hi : t.lookup metric.path with
  | none =>
    rw [hi, Option.map_none, eq_comm, Option.map_eq_none_iff] at hlookup
    exact .inr ⟨fun p hp => (nomatch hlookup.symm.trans hp), rfl⟩
  | some i =>
    rw [hi, Option.map_some, eq_comm, Option.map_eq_some_iff] at hlookup
    obtain ⟨p, hp, hspelled⟩ := hlookup
    obtain ⟨n, hn⟩ := h.exists_node hspelled.symm
    have hterminal := h.isTerminal_iff hspelled.symm hn
    simp only [hn, h.rulesOf hspelled.symm hn]
    by_cases hnil : rulesWith rules p = []
    · refine .inr ⟨fun q hq => ?_, ?_⟩
      · obtain rfl := Option.some.inj (hp.symm.trans hq)
        exact hnil
      · rw [if_neg fun hyes => hterminal.1 hyes hnil]
    · exact .inl ⟨i, p, hp, hspelled.symm, hnil, if_pos (hterminal.2 hnil)⟩

theorem violations_judge (h : Represents t rules spelled) (metric : Metric) :
    ((Matcher.mk rules.toArray t).judge metric).violations .all metric =
      violationsOf rules metric := by
  rcases h.judge_cases metric with ⟨i, p, hp, -, hne, hj⟩ | ⟨hnil, hj⟩
  · rw [hj, violationsOf_of_eq_some hp, if_neg hne]
    split <;> rfl
  · rw [hj]
    cases hp : resolve rules metric.path with
    | none => exact (violationsOf_of_eq_none hp).symm
    | some p =>
      rw [violationsOf_of_eq_some hp, if_pos (hnil p hp)]
      rfl

/-- The metrics that count for a node are those whose paths resolve to what it spells. -/
theorem node?_judge_iff (h : Represents t rules spelled) {i : NodeId} {p : List Stem}
    (hp : spelled[i]? = some p) (hne : rulesWith rules p ≠ []) (metric : Metric) :
    ((Matcher.mk rules.toArray t).judge metric).node? = some i ↔
      resolve rules metric.path = some p := by
  rcases h.judge_cases metric with ⟨j, q, hq, hj, -, hjudge⟩ | ⟨hnil, hjudge⟩
  · have hnode : ((Matcher.mk rules.toArray t).judge metric).node? = some j := by
      rw [hjudge]
      split <;> rfl
    rw [hnode, hq, Option.some.injEq, Option.some.injEq]
    constructor
    · rintro rfl
      exact Option.some.inj (hj.symm.trans hp)
    · rintro rfl
      exact h.spells.inj hj hp
  · rw [hjudge]
    exact ⟨fun hno => (nomatch hno), fun hyes => absurd (hnil p hyes) hne⟩

end Represents

/-- Reporting some kinds only is leaving the others out. -/
theorem Verdict.violations_eq_filter (kinds : ViolationKinds) (m : Metric) (v : Verdict) :
    v.violations kinds m = (v.violations .all m).filter fun x => kinds.contains x.kind := by
  cases v with
  | uncovered =>
    cases hk : kinds.unexpected <;>
      simp [violations, ViolationKinds.all, ViolationKinds.contains, Violation.kind, hk]
  | accepted node => rfl
  | rejected node rules =>
    cases hk : kinds.outOfRange <;>
      simp [violations, ViolationKinds.all, ViolationKinds.contains, Violation.kind, hk,
        List.filter_map, Function.comp_def]

/-! ## Hits -/

/-- One more verdict counted. -/
def Verdict.countInto (hits : Array Nat) (v : Verdict) : Array Nat :=
  match v.node? with
  | none => hits
  | some id => hits.modify id (· + 1)

theorem Matcher.countHits_eq (m : Matcher) (verdicts : List Verdict) :
    m.countHits verdicts = verdicts.foldl Verdict.countInto (.replicate m.trie.size 0) := rfl

/-- Counting adds to each place the verdicts that count for it. -/
theorem getElem?_foldl_countInto (verdicts : List Verdict) (hits : Array Nat) (i : NodeId) :
    (verdicts.foldl Verdict.countInto hits)[i]? =
      hits[i]?.map (· + verdicts.countP fun v => v.node? = some i) := by
  induction verdicts generalizing hits with
  | nil => simp
  | cons v verdicts ih =>
    rw [List.foldl_cons, ih, List.countP_cons, Verdict.countInto]
    cases hv : v.node? with
    | none => simp
    | some id =>
      simp only [Array.getElem?_modify, Option.some.injEq, decide_eq_true_eq]
      split
      · rw [Option.map_map]
        refine congrArg (Option.map · hits[i]?) (funext fun count => ?_)
        simp only [Function.comp_apply]
        omega
      · rfl

theorem Matcher.getElem?_countHits (m : Matcher) (verdicts : List Verdict) {i : NodeId}
    (hi : i < m.trie.size) :
    (m.countHits verdicts)[i]? = some (verdicts.countP fun v => v.node? = some i) := by
  rw [countHits_eq, getElem?_foldl_countInto]
  simp [hi]

/-- The hits of a node that has rules are the metrics that resolve to what it spells. -/
theorem Represents.hits {t : Trie} {rules : List Rule} {spelled : List (List Stem)}
    (h : Represents t rules spelled) (metrics : List Metric) {i : NodeId} {p : List Stem}
    (hp : spelled[i]? = some p) (hne : rulesWith rules p ≠ []) :
    let m := Matcher.mk rules.toArray t
    (m.countHits (metrics.map m.judge))[i]? =
      some (metrics.countP fun metric => resolve rules metric.path = some p) := by
  intro m
  have hi : i < m.trie.size := h.spells.lt_size hp
  rw [m.getElem?_countHits _ hi, List.countP_map]
  refine congrArg some (List.countP_congr fun metric _ => ?_)
  rw [Function.comp_apply, decide_eq_true_eq, decide_eq_true_eq]
  exact h.node?_judge_iff hp hne metric

/-- The rules that a node reports missing are those with its pattern, if that is
required and no metric resolves to it. -/
theorem Represents.unmetAt {t : Trie} {rules : List Rule} {spelled : List (List Stem)}
    (h : Represents t rules spelled) (metrics : List Metric) {i : NodeId} {p : List Stem}
    (hp : spelled[i]? = some p) :
    let m := Matcher.mk rules.toArray t
    m.unmetAt (m.countHits (metrics.map m.judge)) i =
      if IsUnmet rules metrics p then rulesWith rules p else [] := by
  intro m
  obtain ⟨n, hn⟩ := h.exists_node hp
  obtain ⟨-, hrequired⟩ := h.label_of_node? hp hn
  have hany : anyRequired rules p = true ↔ ∃ r ∈ rules, r.pattern = p ∧ r.required = true := by
    simp [anyRequired]
  have hnode : m.trie.node? i = some n := hn
  have hrules : m.rulesOf n = rulesWith rules p := h.rulesOf hp hn
  simp only [Matcher.unmetAt, hnode, hrules, hrequired]
  by_cases hr : ∃ r ∈ rules, r.pattern = p ∧ r.required = true
  · have hne : rulesWith rules p ≠ [] := by
      obtain ⟨r, hmem, rfl, -⟩ := hr
      exact rulesWith_ne_nil hmem
    have hhits : (m.countHits (metrics.map m.judge))[i]? =
        some (metrics.countP fun metric => resolve rules metric.path = some p) :=
      h.hits metrics hp hne
    simp only [hany.2 hr, hhits, Option.getD_some, Bool.true_and, beq_iff_eq,
      List.countP_eq_zero, decide_eq_true_eq, IsUnmet, hr, true_and, ne_eq]
  · rw [Bool.eq_false_iff.2 fun hyes => hr (hany.1 hyes), Bool.false_and, if_neg (by simp),
      if_neg fun hu => hr hu.1]

/-! ## The rules by their patterns -/

theorem flatMap_ite_nil {α β : Type} (P : α → Prop) [DecidablePred P] (f : α → List β)
    (xs : List α) :
    xs.flatMap (fun x => if P x then f x else []) = (xs.filter P).flatMap f := by
  induction xs with
  | nil => rfl
  | cons x xs ih => by_cases hx : P x <;> simp [hx, ih]

/-- Going through patterns and then the rules with each of them is going through the
rules with any of them. -/
theorem flatMap_rulesWith_perm (rules : List Rule) {patterns : List (List Stem)}
    (h : patterns.Nodup) :
    (patterns.flatMap (rulesWith rules)).Perm (rules.filter fun r => r.pattern ∈ patterns) := by
  induction patterns with
  | nil => simp
  | cons p patterns ih =>
    obtain ⟨hp, h⟩ := List.nodup_cons.1 h
    have hsplit := List.filter_append_perm (fun r : Rule => r.pattern = p)
      (rules.filter fun r => r.pattern ∈ p :: patterns)
    refine List.Perm.trans ?_ hsplit
    rw [List.flatMap_cons, List.filter_filter, List.filter_filter]
    refine List.Perm.append (.of_eq ?_) ((ih h).trans (.of_eq ?_))
    · refine List.filter_congr fun r _ => ?_
      by_cases hr : r.pattern = p <;> simp [hr]
    · refine List.filter_congr fun r _ => ?_
      by_cases hr : r.pattern = p
      · simp [hr, hp]
      · simp [hr]

namespace Represents

variable {t : Trie} {rules : List Rule} {spelled : List (List Stem)}

theorem getElem?_of_mem_terminals (h : Represents t rules spelled) {i : NodeId}
    (hi : i ∈ t.terminals) : spelled[i]? = some (stemsAt spelled i) := by
  have hrange := (List.mem_filter.1 ((Trie.terminals_perm h.spells).mem_iff.1 hi)).1
  have hlt : i < spelled.length := by
    rw [h.spells.length]
    exact List.mem_range.1 hrange
  rw [stemsAt, List.getElem?_eq_getElem hlt, Option.getD_some]

/-- The terminal nodes spell the patterns of the rules. -/
theorem mem_map_stemsAt_terminals (h : Represents t rules spelled) {p : List Stem} :
    p ∈ t.terminals.map (stemsAt spelled) ↔ ∃ r ∈ rules, r.pattern = p := by
  have hterminals := Trie.terminals_perm h.spells
  constructor
  · intro hp
    obtain ⟨i, hi, rfl⟩ := List.mem_map.1 hp
    have hterminal := (List.mem_filter.1 (hterminals.mem_iff.1 hi)).2
    have hspelled := h.getElem?_of_mem_terminals hi
    obtain ⟨n, hn⟩ := h.exists_node hspelled
    rw [Trie.isTerminalAt, hn, Option.any_some, h.isTerminal_iff hspelled hn] at hterminal
    obtain ⟨r, hr⟩ := List.exists_mem_of_ne_nil _ hterminal
    exact ⟨r, mem_rulesWith.1 hr⟩
  · rintro ⟨r, hr, rfl⟩
    obtain ⟨i, hi⟩ := List.mem_iff_getElem?.1 ((h.mem _).2 (.inr (beginsPattern_of_mem hr)))
    obtain ⟨n, hn⟩ := h.exists_node hi
    have hterminal : t.isTerminalAt i = true := by
      rw [Trie.isTerminalAt, hn]
      exact (h.isTerminal_iff hi hn).2 (rulesWith_ne_nil hr)
    refine List.mem_map.2 ⟨i, hterminals.mem_iff.2 (List.mem_filter.2 ⟨?_, hterminal⟩), ?_⟩
    · exact List.mem_range.2 (h.spells.lt_size hi)
    · rw [stemsAt, hi, Option.getD_some]

theorem nodup_map_stemsAt_terminals (h : Represents t rules spelled) :
    (t.terminals.map (stemsAt spelled)).Nodup := by
  have hnodup := (Trie.terminals_perm h.spells).nodup_iff.2 (List.nodup_range.filter _)
  refine hnodup.map_on ?_
  intro i hi j hj heq
  exact h.spells.inj (h.getElem?_of_mem_terminals hi) (heq ▸ h.getElem?_of_mem_terminals hj)

end Represents

/-- The missing rules stand pattern by pattern, as the terminal nodes are found. -/
theorem unmet_eq_flatMap {rules : List Rule} {spelled : List (List Stem)}
    (h : Represents (Trie.ofRules rules) rules spelled) (metrics : List Metric) :
    (matchRules rules metrics).unmet =
      (((Trie.ofRules rules).terminals.map (stemsAt spelled)).filter fun p =>
        IsUnmet rules metrics p).flatMap (rulesWith rules) := by
  rw [← flatMap_ite_nil, List.flatMap_map]
  refine List.flatMap_congr fun i hi => ?_
  rw [← h.unmetAt metrics (h.getElem?_of_mem_terminals hi), List.map_map]
  rfl

/-- The rules missing in a check are those with an unmet pattern. -/
theorem unmet_perm (rules : List Rule) (metrics : List Metric) :
    (matchRules rules metrics).unmet.Perm
      (rules.filter fun r => IsUnmet rules metrics r.pattern) := by
  obtain ⟨spelled, h⟩ := represents_ofRules rules
  rw [unmet_eq_flatMap h]
  have hnodup := h.nodup_map_stemsAt_terminals.filter fun p => IsUnmet rules metrics p
  refine (flatMap_rulesWith_perm rules hnodup).trans (.of_eq (List.filter_congr fun r hr => ?_))
  -- the node that spells the pattern of a rule is terminal
  have hmem := h.mem_map_stemsAt_terminals.2 ⟨r, hr, rfl⟩
  simp [hmem]

/-! ## Coverage -/

theorem hits_matchRules (rules : List Rule) (metrics : List Metric) :
    (matchRules rules metrics).hits =
      (Matcher.ofRules rules).countHits (metrics.map (Matcher.ofRules rules).judge) := by
  have hverdicts : (metrics.map fun m => (m, (Matcher.ofRules rules).judge m)).map Prod.snd =
      metrics.map (Matcher.ofRules rules).judge := List.map_map
  rw [← hverdicts]
  rfl

/-- At the home of a rule the hits are the metrics that resolve to the rule's pattern. -/
theorem exists_home_hits (metrics : List Metric) {rules : List Rule} {id : RuleId} {r : Rule}
    (hr : rules[id]? = some r) :
    ∃ home, (Trie.ofRules rules).homes[id]? = some home ∧
      (matchRules rules metrics).hits[home]? =
        some (metrics.countP fun m => resolve rules m.path = some r.pattern) := by
  obtain ⟨spelled, h⟩ := represents_ofRules rules
  have hhomes := congrArg (·[id]?) h.homes
  simp only [List.getElem?_map, hr, Option.map_some, Array.getElem?_toList] at hhomes
  obtain ⟨home, hhome, hspelled⟩ := Option.map_eq_some_iff.1 hhomes
  refine ⟨home, hhome, ?_⟩
  rw [hits_matchRules]
  exact h.hits metrics hspelled (rulesWith_ne_nil (List.mem_of_getElem? hr))

/-- The coverage has every rule, in order, with the number of metrics that resolve to its
pattern. -/
theorem coverage_eq (rules : List Rule) (metrics : List Metric) :
    (matchRules rules metrics).coverage =
      rules.map fun r => (r, metrics.countP fun m => resolve rules m.path = some r.pattern) := by
  have hcoverage : (matchRules rules metrics).coverage =
      List.zipWith (fun rule home => (rule, (matchRules rules metrics).hits[home]?.getD 0))
        rules (Trie.ofRules rules).homes.toList := Array.toList_zipWith
  rw [hcoverage]
  apply List.ext_getElem?
  intro id
  rw [List.getElem?_zipWith, List.getElem?_map]
  cases hr : rules[id]? with
  | none => rfl
  | some r =>
    obtain ⟨home, hhome, hhits⟩ := exists_home_hits metrics hr
    simp only [Array.getElem?_toList, hhome, hhits, Option.getD_some, Option.map_some]

/-! ## Reports -/

theorem kind_ne_missing_of_mem_violationsOf {rules : List Rule} {m : Metric} {v : Violation}
    (h : v ∈ violationsOf rules m) : v.kind ≠ .missing := by
  rcases violationsOf_cases rules m with ⟨-, hv⟩ | ⟨p, -, -, hv⟩
  · rw [hv] at h
    obtain rfl := List.mem_singleton.1 h
    simp [Violation.kind]
  · rw [hv] at h
    split at h
    · cases h
    · obtain ⟨r, -, rfl⟩ := List.mem_map.1 h
      simp [Violation.kind]

/-- A report has of each metric the violations of the reported kinds, and the missing rules
after them if these are reported. -/
theorem violationsAmong_eq (kinds : ViolationKinds) (rules : List Rule) (metrics : List Metric) :
    violationsAmong kinds rules metrics =
      (metrics.flatMap (violationsOf rules)).filter (fun v => kinds.contains v.kind) ++
        if kinds.missing then (matchRules rules metrics).unmet.map .missing else [] := by
  obtain ⟨spelled, h⟩ := represents_ofRules rules
  have hverdicts : (matchRules rules metrics).verdicts =
      metrics.map fun metric => (metric, (Matcher.ofRules rules).judge metric) := rfl
  rw [violationsAmong, MatchRun.violations, hverdicts, List.flatMap_map, List.filter_flatMap]
  congr 1
  refine List.flatMap_congr fun m _ => ?_
  rw [← h.violations_judge m]
  exact Verdict.violations_eq_filter kinds m _

/-- The violations are those of each metric, and the missing rules after them. -/
theorem findViolations_eq (rules : List Rule) (metrics : List Metric) :
    findViolations rules metrics =
      metrics.flatMap (violationsOf rules) ++ (matchRules rules metrics).unmet.map .missing := by
  have hall : ∀ v : Violation, ViolationKinds.all.contains v.kind = true := by
    intro v
    cases v <;> rfl
  rw [findViolations, violationsAmong_eq, List.filter_eq_self.2 fun v _ => hall v]
  rfl

/-! ## The law -/

/-- Checking says of each metric, in order, what the patterns say of it, and after
that it reports the rules with unmet patterns, each as often as it stands in the list. -/
theorem checking_follows_the_patterns (rules : List Rule) (metrics : List Metric) :
    ∃ missed : List Rule,
      findViolations rules metrics =
        metrics.flatMap (violationsOf rules) ++ missed.map .missing ∧
      missed.Perm (rules.filter fun r => IsUnmet rules metrics r.pattern) :=
  ⟨(matchRules rules metrics).unmet, findViolations_eq rules metrics, unmet_perm rules metrics⟩

end MetricCheck
