-- The shape of the trie of a list of rules. Its nodes are the prefixes of the
-- patterns, one for each, every node below the root hangs on one edge from an earlier
-- node, and each rule stands at the node of its whole pattern and nowhere else.
import Mathlib.Data.Finset.Card
import Mathlib.Data.Set.Function
import MetricCheck.Proofs.Matching
import MetricCheck.Proofs.Trie.Descent

namespace MetricCheck

/-- The prefixes of the patterns, the empty one included. -/
def patternPrefixes (rules : List Rule) : Finset (List Stem) :=
  insert [] (rules.flatMap fun r : Rule => r.pattern.inits).toFinset

theorem mem_patternPrefixes {rules : List Rule} {p : List Stem} :
    p ∈ patternPrefixes rules ↔ p = [] ∨ BeginsPattern rules p := by
  simp [patternPrefixes, BeginsPattern]

/-- The trie has exactly the nodes, edges and labels that the rules ask for. -/
structure Trie.IsTrieOf (t : Trie) (rules : List Rule) : Prop where
  /-- The prefixes lead to the nodes, one to one. -/
  nodes : Set.BijOn t.nodeAt (patternPrefixes rules) (some '' Set.Iio t.size)
  /-- Other stems lead nowhere. -/
  nowhere : ∀ p ∉ patternPrefixes rules, t.nodeAt p = none
  size : t.size = ((patternPrefixes rules).erase []).card + 1
  /-- A child is a node, and comes after its parent. -/
  later : ∀ i s j, t.child? i s = some j → i < j ∧ j < t.size
  /-- Every node but the root is the child of one node, along one stem. -/
  parent : ∀ j, j ≠ Trie.root → j < t.size →
    ∃! edge : NodeId × Stem, t.child? edge.1 edge.2 = some j
  /-- The spellings of the wildcard are no literal stems. -/
  literal : ∀ i n, t.node? i = some n → ∀ text ∈ n.literals, text ≠ "*" ∧ text ≠ "#"
  /-- There is a home for each rule. -/
  homes : t.homes.size = rules.length
  /-- The home of a rule is the node of its whole pattern. -/
  home : ∀ (id : RuleId) (r : Rule), rules[id]? = some r →
    ∃ i, t.homes[id]? = some i ∧ t.nodeAt r.pattern = some i
  /-- A rule is attached to its home and to no other node. -/
  attached : ∀ i n, t.node? i = some n → ∀ id, id ∈ n.rules ↔ t.homes[id]? = some i
  increasing : ∀ i n, t.node? i = some n → n.rules.toList.Pairwise (· < ·)
  /-- No rule is attached to the root. -/
  bareRoot : ∀ n, t.node? Trie.root = some n → n.rules = #[]
  /-- Below the root, a node without children has rules. -/
  leaf : ∀ i n, t.node? i = some n → i ≠ Trie.root → (∀ s, n.child? s = none) →
    n.isTerminal = true
  required : ∀ i n, t.node? i = some n →
    (n.required = true ↔ ∃ id ∈ n.rules, ∃ r, rules[id]? = some r ∧ r.required = true)

/-! ## Patterns -/

/-- A path has a stem at least. -/
theorem Rule.pattern_ne_nil (r : Rule) : r.pattern ≠ [] := by
  unfold Rule.pattern pathStems
  simpa using Text.splitBy_ne_nil (· == '.') r.path.toList

theorem Rule.ne_of_literal_mem_pattern {r : Rule} {text : String}
    (h : Stem.literal text ∈ r.pattern) : text ≠ "*" ∧ text ≠ "#" := by
  obtain ⟨text', -, hstem⟩ := List.mem_map.1 h
  unfold Stem.ofText at hstem
  split at hstem
  · cases hstem
  · rename_i hno
    obtain rfl := Stem.literal.inj hstem
    exact not_or.1 hno

theorem rulesWith_nil (rules : List Rule) : rulesWith rules [] = [] := by
  unfold rulesWith
  refine List.filter_eq_nil_iff.2 fun r _ hr => ?_
  exact r.pattern_ne_nil (of_decide_eq_true hr)

namespace Represents

variable {t : Trie} {rules : List Rule} {spelled : List (List Stem)}

/-! ## Nodes and prefixes -/

theorem mem_spelled_iff (h : Represents t rules spelled) {p : List Stem} :
    p ∈ spelled ↔ p ∈ patternPrefixes rules := by
  rw [h.mem, mem_patternPrefixes]

theorem spelled_of_node? (h : Represents t rules spelled) {i : NodeId} {n : Node}
    (hn : t.node? i = some n) : ∃ p, spelled[i]? = some p := by
  have hi : i < spelled.length := by
    rw [h.spells.length]
    exact (Array.getElem?_eq_some_iff.1 hn).1
  exact ⟨_, List.getElem?_eq_getElem hi⟩

theorem bijOn_nodeAt (h : Represents t rules spelled) :
    Set.BijOn t.nodeAt (patternPrefixes rules) (some '' Set.Iio t.size) := by
  refine ⟨?_, ?_, ?_⟩
  · intro p hp
    obtain ⟨i, hi⟩ := List.mem_iff_getElem?.1 (h.mem_spelled_iff.2 hp)
    rw [h.spells.nodeAt_eq_some_iff.2 hi]
    exact Set.mem_image_of_mem some (h.spells.lt_size hi)
  · intro p hp q hq heq
    obtain ⟨i, hi⟩ := List.mem_iff_getElem?.1 (h.mem_spelled_iff.2 hp)
    have hpi := h.spells.nodeAt_eq_some_iff.2 hi
    have hqi := h.spells.nodeAt_eq_some_iff.1 (heq ▸ hpi)
    exact Option.some.inj (hi.symm.trans hqi)
  · rintro _ ⟨i, hi, rfl⟩
    have hlt : i < spelled.length := h.spells.length ▸ hi
    have hspelled := List.getElem?_eq_getElem hlt
    refine ⟨spelled[i], h.mem_spelled_iff.1 (List.getElem_mem hlt), ?_⟩
    exact h.spells.nodeAt_eq_some_iff.2 hspelled

theorem nodeAt_eq_none (h : Represents t rules spelled) {p : List Stem}
    (hp : p ∉ patternPrefixes rules) : t.nodeAt p = none := by
  cases hi : t.nodeAt p with
  | none => rfl
  | some i =>
    have hmem := List.mem_of_getElem? (h.spells.nodeAt_eq_some_iff.1 hi)
    exact absurd (h.mem_spelled_iff.1 hmem) hp

/-- There is a node for each prefix, and one of them is the root. -/
theorem size_eq (h : Represents t rules spelled) :
    t.size = ((patternPrefixes rules).erase []).card + 1 := by
  have hset : spelled.toFinset = patternPrefixes rules := by
    ext p
    rw [List.mem_toFinset, h.mem_spelled_iff]
  have hcard : (patternPrefixes rules).card = spelled.length := by
    rw [← hset, List.toFinset_card_of_nodup h.spells.nodup]
  have hroot : [] ∈ patternPrefixes rules := mem_patternPrefixes.2 (.inl rfl)
  rw [Finset.card_erase_add_one hroot, hcard, h.spells.length]
  rfl

/-! ## Edges -/

/-- Along an edge one stem more is spelled. -/
theorem spelled_of_child? (h : Represents t rules spelled) {i j : NodeId} {s : Stem}
    (hchild : t.child? i s = some j) :
    ∃ p, spelled[i]? = some p ∧ spelled[j]? = some (p ++ [s]) := by
  cases hn : t.node? i with
  | none => simp [Trie.child?, hn] at hchild
  | some n =>
    obtain ⟨p, hp⟩ := h.spelled_of_node? hn
    exact ⟨p, hp, (h.spells.child?_eq_some_iff hp s).1 hchild⟩

theorem child?_later (h : Represents t rules spelled) {i j : NodeId} {s : Stem}
    (hchild : t.child? i s = some j) : i < j ∧ j < t.size := by
  obtain ⟨p, hp, hj⟩ := h.spelled_of_child? hchild
  obtain ⟨i', hi', hp'⟩ := h.spells.parent hj
  obtain rfl := h.spells.inj hp hp'
  exact ⟨hi', h.spells.lt_size hj⟩

theorem existsUnique_edge (h : Represents t rules spelled) {j : NodeId} (hroot : j ≠ Trie.root)
    (hj : j < t.size) : ∃! edge : NodeId × Stem, t.child? edge.1 edge.2 = some j := by
  have hlt : j < spelled.length := h.spells.length ▸ hj
  have hspelled := List.getElem?_eq_getElem hlt
  rcases List.eq_nil_or_concat spelled[j] with hnil | ⟨p, s, hlast⟩
  · rw [hnil] at hspelled
    exact absurd (h.spells.inj hspelled h.spells.root) hroot
  · rw [hlast, List.concat_eq_append] at hspelled
    obtain ⟨i, -, hp⟩ := h.spells.parent hspelled
    refine ⟨(i, s), (h.spells.child?_eq_some_iff hp s).2 hspelled, ?_⟩
    rintro ⟨i', s'⟩ hchild
    obtain ⟨p', hp', hj'⟩ := h.spelled_of_child? hchild
    obtain ⟨rfl, hs⟩ := List.append_inj' (Option.some.inj (hj'.symm.trans hspelled)) rfl
    obtain rfl := h.spells.inj hp' hp
    obtain rfl := List.singleton_inj.1 hs
    rfl

theorem ne_of_mem_literals (h : Represents t rules spelled) {i : NodeId} {n : Node}
    (hn : t.node? i = some n) {text : String} (htext : text ∈ n.literals) :
    text ≠ "*" ∧ text ≠ "#" := by
  have hchild : t.child? i (.literal text) = some n.literals[text] := by
    unfold Trie.child?
    rw [hn, Option.bind_some]
    exact Std.TreeMap.getElem?_eq_some_getElem htext
  obtain ⟨p, -, hj⟩ := h.spelled_of_child? hchild
  rcases (h.mem _).1 (List.mem_of_getElem? hj) with hnil | ⟨r, -, hr⟩
  · simp at hnil
  · exact Rule.ne_of_literal_mem_pattern (hr.subset (by simp))

/-! ## Rules -/

theorem home (h : Represents t rules spelled) {id : RuleId} {r : Rule} (hr : rules[id]? = some r) :
    ∃ i, t.homes[id]? = some i ∧ t.nodeAt r.pattern = some i := by
  have hbegins := beginsPattern_of_mem (List.mem_of_getElem? hr)
  obtain ⟨i, hi⟩ := (h.exists_nodeAt_iff r.pattern).2 (.inr hbegins)
  exact ⟨i, by rw [h.getElem?_homes hr, hi], hi⟩

theorem mem_rules_iff (h : Represents t rules spelled) {i : NodeId} {n : Node}
    (hn : t.node? i = some n) (id : RuleId) : id ∈ n.rules ↔ t.homes[id]? = some i := by
  obtain ⟨p, hp⟩ := h.spelled_of_node? hn
  have hids := (h.label_of_node? hp hn).1
  rw [hids, List.mem_toArray, mem_idsWith_iff]
  constructor
  · rintro ⟨r, hr, rfl⟩
    rw [h.getElem?_homes hr, h.spells.nodeAt_eq_some_iff, hp]
  · intro hhome
    have hlt : id < rules.length := by
      rw [← h.size_homes]
      exact (Array.getElem?_eq_some_iff.1 hhome).1
    have hr := List.getElem?_eq_getElem hlt
    rw [h.getElem?_homes hr, h.spells.nodeAt_eq_some_iff, hp] at hhome
    exact ⟨_, hr, (Option.some.inj hhome).symm⟩

theorem pairwise_rules (h : Represents t rules spelled) {i : NodeId} {n : Node}
    (hn : t.node? i = some n) : n.rules.toList.Pairwise (· < ·) := by
  obtain ⟨p, hp⟩ := h.spelled_of_node? hn
  have hids := (h.label_of_node? hp hn).1
  rw [hids]
  exact List.pairwise_lt_range.filter _

theorem rules_root (h : Represents t rules spelled) {n : Node}
    (hn : t.node? Trie.root = some n) : n.rules = #[] := by
  have hids := (h.label_of_node? h.spells.root hn).1
  have hnone : idsWith rules [] = [] := by
    rw [← List.length_eq_zero_iff, length_idsWith, rulesWith_nil, List.length_nil]
  rw [hids, hnone]

/-- Where no stem goes on, the prefix is a whole pattern. -/
theorem isTerminal_of_leaf (h : Represents t rules spelled) {i : NodeId} {n : Node}
    (hn : t.node? i = some n) (hroot : i ≠ Trie.root) (hleaf : ∀ s, n.child? s = none) :
    n.isTerminal = true := by
  obtain ⟨p, hp⟩ := h.spelled_of_node? hn
  rcases (h.mem p).1 (List.mem_of_getElem? hp) with rfl | ⟨r, hr, rest, hrest⟩
  · exact absurd (h.spells.inj hp h.spells.root) hroot
  · cases rest with
    | nil =>
      rw [List.append_nil] at hrest
      refine (h.isTerminal_iff hp hn).2 (List.ne_nil_of_mem (a := r) ?_)
      exact mem_rulesWith.2 ⟨hr, hrest.symm⟩
    | cons s rest =>
      have hbegins : BeginsPattern rules (p ++ [s]) := ⟨r, hr, rest, by simpa using hrest⟩
      exact absurd hbegins ((h.child?_eq_none_iff hp hn s).1 (hleaf s))

theorem required_iff (h : Represents t rules spelled) {i : NodeId} {n : Node}
    (hn : t.node? i = some n) :
    n.required = true ↔ ∃ id ∈ n.rules, ∃ r, rules[id]? = some r ∧ r.required = true := by
  obtain ⟨p, hp⟩ := h.spelled_of_node? hn
  obtain ⟨hids, hrequired⟩ := h.label_of_node? hp hn
  rw [hids, hrequired, anyRequired, List.any_eq_true]
  constructor
  · rintro ⟨r, hr, hyes⟩
    rw [Bool.and_eq_true, decide_eq_true_eq] at hyes
    obtain ⟨id, hid⟩ := List.mem_iff_getElem?.1 hr
    exact ⟨id, List.mem_toArray.2 (mem_idsWith_iff.2 ⟨r, hid, hyes.1⟩), r, hid, hyes.2⟩
  · rintro ⟨id, hid, r, hr, hyes⟩
    obtain ⟨r', hr', hpattern⟩ := mem_idsWith_iff.1 (List.mem_toArray.1 hid)
    obtain rfl := Option.some.inj (hr.symm.trans hr')
    exact ⟨r, List.mem_of_getElem? hr, by simp [hpattern, hyes]⟩

theorem isTrieOf (h : Represents t rules spelled) : t.IsTrieOf rules where
  nodes := h.bijOn_nodeAt
  nowhere := fun _ hp => h.nodeAt_eq_none hp
  size := h.size_eq
  later := fun _ _ _ hchild => h.child?_later hchild
  parent := fun _ hroot hj => h.existsUnique_edge hroot hj
  literal := fun _ _ hn _ htext => h.ne_of_mem_literals hn htext
  homes := h.size_homes
  home := fun _ _ hr => h.home hr
  attached := fun _ _ hn => h.mem_rules_iff hn
  increasing := fun _ _ hn => h.pairwise_rules hn
  bareRoot := fun _ hn => h.rules_root hn
  leaf := fun _ _ hn hroot hleaf => h.isTerminal_of_leaf hn hroot hleaf
  required := fun _ _ hn => h.required_iff hn

end Represents

theorem isTrieOf_ofRules (rules : List Rule) : (Trie.ofRules rules).IsTrieOf rules := by
  obtain ⟨spelled, h⟩ := represents_ofRules rules
  exact h.isTrieOf

/-! ## Hits -/

theorem size_countInto (hits : Array Nat) (v : Verdict) : (v.countInto hits).size = hits.size := by
  unfold Verdict.countInto
  cases v.node? with
  | none => rfl
  | some id => exact Array.size_modify

theorem size_foldl_countInto (verdicts : List Verdict) (hits : Array Nat) :
    (verdicts.foldl Verdict.countInto hits).size = hits.size := by
  induction verdicts generalizing hits with
  | nil => rfl
  | cons v verdicts ih => rw [List.foldl_cons, ih, size_countInto]

theorem Matcher.size_countHits (m : Matcher) (verdicts : List Verdict) :
    (m.countHits verdicts).size = m.trie.size := by
  rw [countHits_eq, size_foldl_countInto, Array.size_replicate]

/-! ## The law -/

/-- Whatever metrics are checked, the trie is the one that the rules ask for, each of
its nodes has one count of hits, and the nodes reported are as many as the prefixes of
the patterns, with one more for the root. -/
theorem checking_keeps_the_trie_of_the_rules (kinds : ViolationKinds) (rules : List Rule)
    (metrics : List Metric) :
    (matchRules rules metrics).matcher.trie.IsTrieOf rules ∧
      (matchRules rules metrics).hits.size = (matchRules rules metrics).matcher.trie.size ∧
      (inspect kinds rules metrics).nodes = ((patternPrefixes rules).erase []).card + 1 := by
  have htrie : (matchRules rules metrics).matcher.trie = Trie.ofRules rules := rfl
  have hnodes : (inspect kinds rules metrics).nodes = (Trie.ofRules rules).size := rfl
  refine ⟨?_, ?_, ?_⟩
  · rw [htrie]
    exact isTrieOf_ofRules rules
  · exact Matcher.size_countHits _ _
  · rw [hnodes]
    exact (isTrieOf_ofRules rules).size

end MetricCheck
