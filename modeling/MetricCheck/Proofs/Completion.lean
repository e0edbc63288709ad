-- The order in which a check reports missing rules. They come after everything else,
-- sorted by their patterns, and rules with one pattern stay in the order of the list:
-- the trie they are reported from leaves no trace of how it was built.
import MetricCheck.Proofs.Matching
import MetricCheck.Proofs.Trie.Order

namespace MetricCheck

/-! ## Stable sorting

A sorted list is known by what it has at each key. -/

section StableSort

variable {α κ : Type} [LinearOrder κ] (key : α → κ)

theorem key_le_trans (a b c : α) (hab : decide (key a ≤ key b) = true)
    (hbc : decide (key b ≤ key c) = true) : decide (key a ≤ key c) = true :=
  decide_eq_true (le_trans (of_decide_eq_true hab) (of_decide_eq_true hbc))

theorem key_le_total (a b : α) : (decide (key a ≤ key b) || decide (key b ≤ key a)) = true := by
  simp [le_total]

theorem pairwise_key_mergeSort (xs : List α) :
    (xs.mergeSort fun a b => key a ≤ key b).Pairwise fun a b => key a ≤ key b := by
  refine (List.pairwise_mergeSort (key_le_trans key) (key_le_total key) xs).imp ?_
  intro a b hab
  exact of_decide_eq_true hab

variable [DecidableEq κ]

/-- Sorting by a key keeps the order of what shares a key. -/
theorem filter_key_mergeSort (xs : List α) (k : κ) :
    (xs.mergeSort fun a b => key a ≤ key b).filter (fun x => key x = k) =
      xs.filter fun x => key x = k := by
  have hsame : (xs.filter fun x => key x = k).Pairwise fun a b =>
      decide (key a ≤ key b) = true := by
    rw [List.pairwise_filter]
    apply List.pairwise_of_forall
    intro a b ha hb
    simp [of_decide_eq_true ha, of_decide_eq_true hb]
  have hsub := (List.sublist_mergeSort (key_le_trans key) (key_le_total key) hsame
    List.filter_sublist).filter fun x => key x = k
  rw [List.filter_filter] at hsub
  simp only [Bool.and_self] at hsub
  have hlength := ((List.mergeSort_perm xs fun a b => key a ≤ key b).filter
    fun x => key x = k).length_eq
  exact (hsub.eq_of_length hlength.symm).symm

omit [LinearOrder κ] in
theorem mem_of_filter_key_eq {xs ys : List α}
    (h : ∀ k, xs.filter (fun x => key x = k) = ys.filter fun x => key x = k) {x : α}
    (hx : x ∈ xs) : x ∈ ys := by
  have hmem : x ∈ xs.filter fun y => key y = key x := by simp [hx]
  rw [h] at hmem
  exact List.mem_of_mem_filter hmem

/-- Two sorted lists that have the same at each key are one. -/
theorem eq_of_filter_key_eq {xs ys : List α} (hxs : xs.Pairwise fun a b => key a ≤ key b)
    (hys : ys.Pairwise fun a b => key a ≤ key b)
    (h : ∀ k, xs.filter (fun x => key x = k) = ys.filter fun x => key x = k) : xs = ys := by
  induction xs generalizing ys with
  | nil =>
    symm
    apply List.eq_nil_iff_forall_not_mem.2
    intro y hy
    exact List.not_mem_nil (mem_of_filter_key_eq key (fun k => (h k).symm) hy)
  | cons x xs ih =>
    have hx : x ∈ ys := mem_of_filter_key_eq key h List.mem_cons_self
    cases ys with
    | nil => cases hx
    | cons y ys =>
      obtain ⟨hxle, hxs'⟩ := List.pairwise_cons.1 hxs
      obtain ⟨hyle, hys'⟩ := List.pairwise_cons.1 hys
      -- each head is among the elements of the other list, so neither comes before the other
      have hyx : key y ≤ key x := by
        rcases List.mem_cons.1 hx with rfl | hx
        · exact le_refl _
        · exact hyle x hx
      have hxy : key x ≤ key y := by
        have hy := mem_of_filter_key_eq key (fun k => (h k).symm) (List.mem_cons_self (l := ys))
        rcases List.mem_cons.1 hy with rfl | hy
        · exact le_refl _
        · exact hxle y hy
      have hkey : key x = key y := le_antisymm hxy hyx
      have hhead := h (key x)
      rw [List.filter_cons_of_pos (by simp), List.filter_cons_of_pos (by simp [hkey])] at hhead
      obtain ⟨rfl, -⟩ := List.cons.inj hhead
      refine congrArg (x :: ·) (ih hxs' hys' fun k => ?_)
      have hk := h k
      by_cases hxk : key x = k
      · rw [List.filter_cons_of_pos (by simpa using hxk),
          List.filter_cons_of_pos (by simpa using hxk)] at hk
        exact (List.cons.inj hk).2
      · rwa [List.filter_cons_of_neg (by simpa using hxk),
          List.filter_cons_of_neg (by simpa using hxk)] at hk

/-- A sorted list that has at each key what another list has there is that list sorted. -/
theorem eq_mergeSort_of_filter_key_eq {xs ys : List α}
    (hys : ys.Pairwise fun a b => key a ≤ key b)
    (h : ∀ k, ys.filter (fun x => key x = k) = xs.filter fun x => key x = k) :
    ys = xs.mergeSort fun a b => key a ≤ key b := by
  refine eq_of_filter_key_eq key hys (pairwise_key_mergeSort key xs) fun k => ?_
  rw [h, filter_key_mergeSort]

end StableSort

/-! ## Rules by pattern -/

theorem filter_rulesWith (rules : List Rule) (p q : List Stem) :
    (rulesWith rules p).filter (fun r => r.pattern = q) =
      if p = q then rulesWith rules q else [] := by
  by_cases hpq : p = q
  · subst hpq
    rw [if_pos rfl]
    apply List.filter_eq_self.2
    intro r hr
    exact decide_eq_true (mem_rulesWith.1 hr).2
  · rw [if_neg hpq]
    apply List.filter_eq_nil_iff.2
    intro r hr hq
    exact hpq ((mem_rulesWith.1 hr).2.symm.trans (of_decide_eq_true hq))

/-- Of the rules gone through pattern by pattern, those with one pattern are all that
have it, in the order of the list. -/
theorem filter_flatMap_rulesWith (rules : List Rule) {patterns : List (List Stem)}
    (h : patterns.Nodup) (q : List Stem) :
    (patterns.flatMap (rulesWith rules)).filter (fun r => r.pattern = q) =
      if q ∈ patterns then rulesWith rules q else [] := by
  induction patterns with
  | nil => rfl
  | cons p patterns ih =>
    obtain ⟨hp, hrest⟩ := List.nodup_cons.1 h
    rw [List.flatMap_cons, List.filter_append, filter_rulesWith, ih hrest]
    by_cases hpq : p = q
    · subst hpq
      simp [hp]
    · have hqp : q ≠ p := Ne.symm hpq
      simp [hpq, hqp]

theorem filter_filter_pattern (rules : List Rule) (P : List Stem → Prop) [DecidablePred P]
    (q : List Stem) :
    (rules.filter fun r => P r.pattern).filter (fun r => r.pattern = q) =
      if P q then rulesWith rules q else [] := by
  rw [List.filter_filter]
  by_cases hq : P q
  · rw [if_pos hq, rulesWith]
    apply List.filter_congr
    intro r _
    by_cases hr : r.pattern = q <;> simp [hr, hq]
  · rw [if_neg hq]
    apply List.filter_eq_nil_iff.2
    intro r _ hboth
    simp only [Bool.and_eq_true, decide_eq_true_eq] at hboth
    exact hq (hboth.1 ▸ hboth.2)

theorem pairwise_flatMap_rulesWith (rules : List Rule) {patterns : List (List Stem)}
    (h : patterns.Pairwise (· < ·)) :
    (patterns.flatMap (rulesWith rules)).Pairwise fun a b => a.pattern ≤ b.pattern := by
  rw [List.pairwise_flatMap]
  constructor
  · intro p _
    apply List.pairwise_of_forall_mem_list
    intro a ha b hb
    rw [(mem_rulesWith.1 ha).2, (mem_rulesWith.1 hb).2]
  · refine h.imp fun {p q} hpq a ha b hb => ?_
    rw [(mem_rulesWith.1 ha).2, (mem_rulesWith.1 hb).2]
    exact le_of_lt hpq

/-- The missing rules are sorted by their patterns, and else in the order of the list. -/
theorem unmet_eq_mergeSort (rules : List Rule) (metrics : List Metric) :
    (matchRules rules metrics).unmet =
      (rules.filter fun r => IsUnmet rules metrics r.pattern).mergeSort
        fun a b => a.pattern ≤ b.pattern := by
  obtain ⟨spelled, h⟩ := represents_ofRules rules
  rw [unmet_eq_flatMap h]
  apply eq_mergeSort_of_filter_key_eq Rule.pattern
  · exact pairwise_flatMap_rulesWith rules ((Trie.pairwise_terminals h.spells).filter _)
  · intro p
    rw [filter_flatMap_rulesWith rules (h.nodup_map_stemsAt_terminals.filter _),
      filter_filter_pattern rules fun q => IsUnmet rules metrics q]
    by_cases hr : ∃ r ∈ rules, r.pattern = p
    · simp [h.mem_map_stemsAt_terminals.2 hr]
    · -- no rule has the pattern, so there is nothing to report at it
      have hnil : rulesWith rules p = [] := by
        apply List.filter_eq_nil_iff.2
        intro r hmem hp
        exact hr ⟨r, hmem, of_decide_eq_true hp⟩
      simp [hnil]

/-! ## The terminal nodes -/

/-- The terminal nodes are those that the patterns lead to, in the order of the
patterns. -/
theorem map_some_terminals (rules : List Rule) :
    (Trie.ofRules rules).terminals.map some =
      ((rules.map Rule.pattern).toFinset.sort (· ≤ ·)).map (Trie.ofRules rules).nodeAt := by
  obtain ⟨spelled, h⟩ := represents_ofRules rules
  have hsorted := Trie.pairwise_terminals h.spells
  have hset : (rules.map Rule.pattern).toFinset =
      ((Trie.ofRules rules).terminals.map (stemsAt spelled)).toFinset := by
    ext p
    rw [List.mem_toFinset, List.mem_toFinset, h.mem_map_stemsAt_terminals, List.mem_map]
  have hsort := (List.toFinset_sort (· ≤ ·) h.nodup_map_stemsAt_terminals).2
    (hsorted.imp le_of_lt)
  rw [hset, hsort, List.map_map]
  refine List.map_congr_left fun i hi => ?_
  exact (h.spells.nodeAt_eq_some_iff.2 (h.getElem?_of_mem_terminals hi)).symm

theorem mem_terminals_iff (rules : List Rule) (i : NodeId) :
    i ∈ (Trie.ofRules rules).terminals ↔ (Trie.ofRules rules).isTerminalAt i = true := by
  obtain ⟨spelled, h⟩ := represents_ofRules rules
  rw [(Trie.terminals_perm h.spells).mem_iff, List.mem_filter, List.mem_range]
  refine ⟨And.right, fun hterminal => ⟨?_, hterminal⟩⟩
  by_contra hi
  have hnone : (Trie.ofRules rules).node? i = none := Array.getElem?_eq_none (Nat.not_lt.1 hi)
  rw [Trie.isTerminalAt, hnone] at hterminal
  cases hterminal

theorem nodup_terminals (rules : List Rule) : (Trie.ofRules rules).terminals.Nodup := by
  obtain ⟨spelled, h⟩ := represents_ofRules rules
  exact List.Nodup.of_map _ h.nodup_map_stemsAt_terminals

/-! ## The law -/

/-- Missing rules are reported after everything else, sorted by their patterns and else
in the order of the list. The traversal behind this comes to its end on the trie of any
rules, and finds each terminal node once, in the order of the patterns. -/
theorem missing_rules_come_last_in_the_order_of_patterns (rules : List Rule)
    (metrics : List Metric) :
    (∃ (earlier : List Violation) (missed : List Rule),
      findViolations rules metrics = earlier ++ missed.map .missing ∧
      (∀ v ∈ earlier, v.kind ≠ .missing) ∧
      missed = (rules.filter fun r => IsUnmet rules metrics r.pattern).mergeSort
        (fun a b => a.pattern ≤ b.pattern) ∧
      ∀ p, missed.filter (fun r => r.pattern = p) =
        (rules.filter fun r => IsUnmet rules metrics r.pattern).filter fun r => r.pattern = p) ∧
    (Trie.Traversal.steps (Trie.ofRules rules) (Trie.ofRules rules).size .start).pending = [] ∧
    (Trie.ofRules rules).terminals.map some =
      ((rules.map Rule.pattern).toFinset.sort (· ≤ ·)).map (Trie.ofRules rules).nodeAt ∧
    (Trie.ofRules rules).terminals.Nodup ∧
    ∀ i, i ∈ (Trie.ofRules rules).terminals ↔ (Trie.ofRules rules).isTerminalAt i = true := by
  obtain ⟨spelled, h⟩ := represents_ofRules rules
  refine ⟨?_, Trie.pending_steps h.spells, map_some_terminals rules, nodup_terminals rules,
    mem_terminals_iff rules⟩
  refine ⟨metrics.flatMap (violationsOf rules), _, ?_, ?_, rfl, ?_⟩
  · rw [← unmet_eq_mergeSort]
    exact findViolations_eq rules metrics
  · intro v hv
    obtain ⟨m, -, hm⟩ := List.mem_flatMap.1 hv
    exact kind_ne_missing_of_mem_violationsOf hm
  · intro p
    exact filter_key_mergeSort Rule.pattern _ p

end MetricCheck
