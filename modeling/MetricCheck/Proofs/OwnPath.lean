-- The path of a rule as the path of a metric. Wildcards stand in it as they are spelled,
-- and no pattern has a spelling of the wildcard as a literal, so that nothing shadows the
-- rule: its own path always resolves to its own pattern.
import MetricCheck.Proofs.Coverage

namespace MetricCheck

theorem Stem.fits_ofText (text : String) : (ofText text).Fits text := by
  unfold ofText
  split
  · trivial
  · rfl

theorem Stem.ofText_eq_wildcard_iff {text : String} :
    ofText text = .wildcard ↔ text = "*" ∨ text = "#" := by
  unfold ofText
  by_cases h : text = "*" ∨ text = "#"
  · simp [h]
  · simp [h]

variable {rules : List Rule} {r : Rule}

theorem Rule.covers_path (r : Rule) : r.Covers r.path := by
  unfold Covers pattern
  rw [List.forall₂_map_left_iff, List.forall₂_same]
  exact fun stem _ => Stem.fits_ofText stem

theorem Rule.not_shadowed_path (r : Rule) {i : Nat} {stem : String} :
    ¬ Shadowed rules [] r.pattern (pathStems r.path) i stem := by
  intro h
  obtain ⟨r', -, hprefix⟩ := h.literal
  have hliteral : Stem.literal stem ∈ r'.pattern := hprefix.subset (by simp)
  have hne := Rule.ne_of_literal_mem_pattern hliteral
  -- the rule's own stem is a spelling of the wildcard
  have hwildcard := h.wildcard
  rw [pattern, List.getElem?_map, h.own, Option.map_some, Option.some.injEq,
    Stem.ofText_eq_wildcard_iff] at hwildcard
  rcases hwildcard with rfl | rfl
  · exact hne.1 rfl
  · exact hne.2 rfl

/-- The path of a rule resolves to the rule's pattern, whatever other rules there are. -/
theorem resolve_path (hr : r ∈ rules) : resolve rules r.path = some r.pattern := by
  rcases resolveFrom_of_fits hr (List.nil_append r.pattern).symm r.covers_path with h | ⟨_, _, h⟩
  · exact h
  · exact absurd h r.not_shadowed_path

/-! ## Metrics with the path of a rule -/

variable {m : Metric}

/-- There is nothing to say of a metric that has the path of a rule and a value which the
rule accepts. -/
theorem violationsOf_of_accepts (hr : r ∈ rules) (hpath : m.path = r.path)
    (haccepts : r.accepts m.value = true) : violationsOf rules m = [] := by
  have hresolve : resolve rules m.path = some r.pattern := by rw [hpath, resolve_path hr]
  have hany : (rulesWith rules r.pattern).any (fun r => r.accepts m.value) = true :=
    List.any_eq_true.2 ⟨r, mem_rulesWith.2 ⟨hr, rfl⟩, haccepts⟩
  rw [violationsOf_of_eq_some hresolve, if_neg (rulesWith_ne_nil hr), if_pos hany]

/-- A pattern is met when every required rule that has it has its own path among the
metrics. -/
theorem not_isUnmet_of_path {metrics : List Metric} {p : List Stem}
    (h : ∀ r ∈ rules, r.required = true → ∃ m ∈ metrics, m.path = r.path) :
    ¬ IsUnmet rules metrics p := by
  rintro ⟨⟨r, hr, rfl, hrequired⟩, hunmet⟩
  obtain ⟨m, hm, hpath⟩ := h r hr hrequired
  apply hunmet m hm
  rw [hpath, resolve_path hr]

/-- Nothing is found when each metric has the path of a rule that accepts its value, and the
path of each required rule is there. -/
theorem violationsAmong_eq_nil {metrics : List Metric} (kinds : ViolationKinds)
    (hmetrics : ∀ m ∈ metrics, ∃ r ∈ rules, m.path = r.path ∧ r.accepts m.value = true)
    (hrules : ∀ r ∈ rules, r.required = true → ∃ m ∈ metrics, m.path = r.path) :
    violationsAmong kinds rules metrics = [] := by
  have hsingle : metrics.flatMap (violationsOf rules) = [] := by
    refine List.flatMap_eq_nil_iff.2 fun m hm => ?_
    obtain ⟨r, hr, hpath, haccepts⟩ := hmetrics m hm
    exact violationsOf_of_accepts hr hpath haccepts
  have hunmet : (matchRules rules metrics).unmet = [] := by
    apply List.Perm.eq_nil
    rw [← List.filter_eq_nil_iff.2 fun r _ hr =>
      not_isUnmet_of_path hrules (of_decide_eq_true hr)]
    exact unmet_perm rules metrics
  rw [violationsAmong_eq, hsingle, hunmet]
  simp

/-! ## Runs with such a metric -/

section Runs

variable {kinds : ViolationKinds} {before after : List Metric}

/-- A metric counts for the rules whose pattern its path resolves to. -/
theorem countP_insert (p : List Stem) :
    (before ++ m :: after).countP (fun m => resolve rules m.path = some p) =
      (before ++ after).countP (fun m => resolve rules m.path = some p) +
        if resolve rules m.path = some p then 1 else 0 := by
  rw [List.countP_append, List.countP_append, List.countP_cons, ← Nat.add_assoc]
  simp only [decide_eq_true_eq]

theorem unexpected_not_mem_inspect_of_path {metrics : List Metric} (hr : r ∈ rules)
    (hpath : m.path = r.path) : .unexpected m ∉ (inspect kinds rules metrics).violations := by
  intro h
  obtain ⟨-, -, hnone⟩ := unexpected_mem_inspect_iff.1 h
  rw [hpath] at hnone
  exact rulesWith_ne_nil hr (hnone r.pattern (resolve_path hr))

theorem missing_not_mem_inspect_of_path {metrics : List Metric} (hr : r ∈ rules)
    (hm : m ∈ metrics) (hpath : m.path = r.path) :
    .missing r ∉ (inspect kinds rules metrics).violations := by
  intro h
  obtain ⟨-, -, -, hunmet⟩ := missing_mem_inspect_iff.1 h
  apply hunmet m hm
  rw [hpath, resolve_path hr]

/-- A metric with the path of a rule is out of range for the rules with that rule's pattern
alone, and only when all of them refuse its value. -/
theorem outOfRange_mem_inspect_iff_of_path {metrics : List Metric} {r' : Rule} (hr : r ∈ rules)
    (hm : m ∈ metrics) (hpath : m.path = r.path) :
    .outOfRange r' m ∈ (inspect kinds rules metrics).violations ↔
      kinds.outOfRange = true ∧ r' ∈ rules ∧ r'.pattern = r.pattern ∧
        ∀ r'' ∈ rules, r''.pattern = r.pattern → r''.accepts m.value = false := by
  rw [outOfRange_mem_inspect_iff, hpath, resolve_path hr, Option.some.injEq]
  constructor
  · rintro ⟨hkind, -, hr', hpattern, hrefuse⟩
    rw [← hpattern] at hrefuse
    exact ⟨hkind, hr', hpattern.symm, hrefuse⟩
  · rintro ⟨hkind, hr', hpattern, hrefuse⟩
    rw [← hpattern] at hrefuse
    exact ⟨hkind, hm, hr', hpattern.symm, hrefuse⟩

/-- A metric with the path of a rule counts for the rules with that rule's pattern. -/
theorem coverage_insert_of_path {id : RuleId} {r' : Rule} (hr : r ∈ rules)
    (hr' : rules[id]? = some r') (hpath : m.path = r.path) :
    ∃ matched, (inspect kinds rules (before ++ after)).coverage[id]? = some (r', matched) ∧
      (inspect kinds rules (before ++ m :: after)).coverage[id]? =
        some (r', matched + if r'.pattern = r.pattern then 1 else 0) := by
  refine ⟨_, getElem?_coverage kinds hr', ?_⟩
  rw [getElem?_coverage kinds hr', countP_insert, hpath, resolve_path hr]
  simp only [Option.some.injEq, eq_comm]

end Runs

/-! ## The law -/

/-- The path of a rule ends on the node that the rule is attached to. So a metric with this
path is never unexpected, the rule is not missing beside it, and it counts for the rule; it is
out of range for the rules with the same pattern, when every one of them refuses its value. A
rule without wildcards has its path to itself, whatever rules with wildcards there are. -/
theorem rules_are_found_by_their_own_paths (rules : List Rule) (id : RuleId) (r : Rule)
    (hr : rules[id]? = some r) :
    (∃ home n, (Trie.ofRules rules).homes[id]? = some home ∧
      (Trie.ofRules rules).node? home = some n ∧ id ∈ n.rules ∧
      (Trie.ofRules rules).lookup r.path = some home) ∧
    (∀ (kinds : ViolationKinds) (before after : List Metric) (m : Metric), m.path = r.path →
      .unexpected m ∉ (inspect kinds rules (before ++ m :: after)).violations ∧
      .missing r ∉ (inspect kinds rules (before ++ m :: after)).violations ∧
      (∃ matched, (inspect kinds rules (before ++ after)).coverage[id]? = some (r, matched) ∧
        (inspect kinds rules (before ++ m :: after)).coverage[id]? = some (r, matched + 1)) ∧
      ∀ r', .outOfRange r' m ∈ (inspect kinds rules (before ++ m :: after)).violations ↔
        kinds.outOfRange = true ∧ r' ∈ rules ∧ r'.pattern = r.pattern ∧
          ∀ r'' ∈ rules, r''.pattern = r.pattern → r''.accepts m.value = false) ∧
    (.wildcard ∉ r.pattern → ∀ (id' : RuleId) (r' : Rule), rules[id']? = some r' →
      .wildcard ∈ r'.pattern →
      (Trie.ofRules rules).lookup r.path ≠ (Trie.ofRules rules).homes[id']? ∧
      ∀ (kinds : ViolationKinds) (before after : List Metric) (m : Metric), m.path = r.path →
        (inspect kinds rules (before ++ m :: after)).coverage[id']? =
          (inspect kinds rules (before ++ after)).coverage[id']? ∧
        .outOfRange r' m ∉ (inspect kinds rules (before ++ m :: after)).violations) := by
  have hmem : r ∈ rules := List.mem_of_getElem? hr
  have hthere : ∀ {before after : List Metric} {m : Metric}, m ∈ before ++ m :: after := by simp
  refine ⟨?_, ?_, ?_⟩
  · obtain ⟨home, n, hhome, hn, hid, hlookup⟩ := exists_home hr
    exact ⟨home, n, hhome, hn, hid, (hlookup r.path).2 (resolve_path hmem)⟩
  · intro kinds before after m hpath
    refine ⟨unexpected_not_mem_inspect_of_path hmem hpath,
      missing_not_mem_inspect_of_path hmem hthere hpath, ?_,
      fun r' => outOfRange_mem_inspect_iff_of_path hmem hthere hpath⟩
    obtain ⟨matched, hbefore, hafter⟩ := coverage_insert_of_path hmem hr hpath
    rw [if_pos rfl] at hafter
    exact ⟨matched, hbefore, hafter⟩
  · intro hplain id' r' hr' hwildcard
    have hne : r'.pattern ≠ r.pattern := fun heq => hplain (heq ▸ hwildcard)
    constructor
    · obtain ⟨home, -, hhome, -, -, hlookup⟩ := exists_home hr'
      rw [hhome, Ne, hlookup, resolve_path hmem, Option.some.injEq]
      exact hne.symm
    · intro kinds before after m hpath
      constructor
      · obtain ⟨matched, hbefore, hafter⟩ := coverage_insert_of_path hmem hr' hpath
        rw [if_neg hne, Nat.add_zero] at hafter
        rw [hafter, hbefore]
      · intro hrange
        obtain ⟨-, -, heq, -⟩ := (outOfRange_mem_inspect_iff_of_path hmem hthere hpath).1 hrange
        exact hne heq

/-- For instance, a rule without wildcards beside one that has the same stem as a wildcard, and
a metric that the former refuses and the latter would accept. -/
theorem rules_are_found_by_their_own_paths_beside_a_wildcard :
    let star : Rule := ⟨"cpu.*", true, []⟩
    let idle : Rule := ⟨"cpu.idle", true, [⟨.lessEqual, .zero false⟩]⟩
    let rules : List Rule := [star, idle]
    let m : Metric := ⟨"cpu.idle", .infinite false, ⟨0, by decide, by decide⟩⟩
    (∃ home n, (Trie.ofRules rules).homes[1]? = some home ∧
      (Trie.ofRules rules).node? home = some n ∧ 1 ∈ n.rules ∧
      (Trie.ofRules rules).lookup "cpu.idle" = some home) ∧
    .outOfRange idle m ∈ (inspect .all rules [m]).violations ∧
    (Trie.ofRules rules).lookup "cpu.idle" ≠ (Trie.ofRules rules).homes[0]? ∧
    .outOfRange star m ∉ (inspect .all rules [m]).violations := by
  intro star idle rules m
  have hplain : .wildcard ∉ idle.pattern := by decide
  have hwildcard : .wildcard ∈ star.pattern := by decide
  have hrefuse : ∀ r ∈ rules, r.pattern = idle.pattern → r.accepts m.value = false := by decide
  obtain ⟨hhome, hruns, hwins⟩ := rules_are_found_by_their_own_paths rules 1 idle rfl
  obtain ⟨-, -, -, hrange⟩ := hruns .all [] [] m rfl
  obtain ⟨hstar, hnever⟩ := hwins hplain 0 star rfl hwildcard
  obtain ⟨-, hout⟩ := hnever .all [] [] m rfl
  exact ⟨hhome, (hrange idle).2 ⟨rfl, by decide, rfl, hrefuse⟩, hstar, hout⟩

end MetricCheck
