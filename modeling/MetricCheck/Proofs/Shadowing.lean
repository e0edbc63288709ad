-- What a lookup can miss. The walk of a path takes the path's own stem wherever some
-- pattern has it and never goes back, so a rule that covers the path is lost where its
-- own wildcard stands beside that literal, and nowhere else.
import Mathlib.Data.List.Forall2
import MetricCheck.Proofs.Matching
import MetricCheck.Proofs.Trie.Descent

namespace MetricCheck

/-! ## Covering -/

/-- The wildcard fits every stem of a path, a literal only itself. -/
def Stem.Fits : Stem → String → Prop
  | .literal text, stem => text = stem
  | .wildcard, _ => True

instance : DecidableRel Stem.Fits
  | .literal text, stem => inferInstanceAs (Decidable (text = stem))
  | .wildcard, _ => inferInstanceAs (Decidable True)

/-- The rule and the path have equally many stems, and each stem of the one fits the
other's. -/
def Rule.Covers (r : Rule) (path : String) : Prop :=
  List.Forall₂ Stem.Fits r.pattern (pathStems path)

instance (r : Rule) (path : String) : Decidable (r.Covers path) :=
  inferInstanceAs (Decidable (List.Forall₂ Stem.Fits r.pattern (pathStems path)))

/-- The walk of a path goes through the nodes of a pattern as far as this depth, and
with the next stem it does not. -/
def Trie.LeavesAt (t : Trie) (pattern : List Stem) (path : String) (i : Nat) : Prop :=
  (∀ j ≤ i, t.walk root ((pathStems path).take j) = t.nodeAt (pattern.take j)) ∧
    t.walk root ((pathStems path).take (i + 1)) ≠ t.nodeAt (pattern.take (i + 1))

/-- No pattern has the wildcard where another one goes on with a literal after the
same stems. -/
def NoShadowing (rules : List Rule) : Prop :=
  ∀ r ∈ rules, ∀ r' ∈ rules, ∀ (shared : List Stem) (text : String),
    shared ++ [.wildcard] <+: r.pattern → ¬ shared ++ [.literal text] <+: r'.pattern

/-- What has the shared stems and one stem more has the same stems up to there. -/
theorem append_singleton_isPrefix_iff {p : List Stem} {i : Nat} {q : List Stem} {s : Stem}
    (hi : i < p.length) :
    p.take i ++ [s] <+: q ↔ q.take i = p.take i ∧ q[i]? = some s := by
  have hlength : (p.take i).length = i := by
    rw [List.length_take]
    omega
  constructor
  · rintro ⟨rest, rfl⟩
    rw [List.append_assoc]
    constructor
    · rw [List.take_append_of_le_length (by omega), List.take_take, Nat.min_self]
    · rw [List.getElem?_append_right (by omega), hlength, Nat.sub_self]
      rfl
  · rintro ⟨htake, hs⟩
    have hprefix := List.take_prefix (i + 1) q
    rwa [List.take_add_one, hs, Option.toList_some, htake] at hprefix

/-- Whether wildcards are shadowed can be told place by place. -/
theorem noShadowing_iff {rules : List Rule} :
    NoShadowing rules ↔ ∀ r ∈ rules, ∀ r' ∈ rules, ∀ i < r.pattern.length,
      r.pattern[i]? = some .wildcard → r'.pattern.take i = r.pattern.take i →
      ∀ s ∈ r'.pattern[i]?, s = .wildcard := by
  refine forall₂_congr fun r _ => forall₂_congr fun r' _ => ?_
  constructor
  · intro h i hi hwildcard htake s hs
    cases s with
    | wildcard => rfl
    | literal text =>
      have hr := (append_singleton_isPrefix_iff hi).2 ⟨rfl, hwildcard⟩
      exact absurd ((append_singleton_isPrefix_iff hi).2 ⟨htake, hs⟩) (h _ text hr)
  · intro h shared text hwildcard hliteral
    have hi : shared.length < r.pattern.length := by
      have hlength := hwildcard.length_le
      rw [List.length_append, List.length_singleton] at hlength
      omega
    have hshared : r.pattern.take shared.length = shared :=
      (List.prefix_iff_eq_take.1 ((List.prefix_append _ _).trans hwildcard)).symm
    rw [← hshared, append_singleton_isPrefix_iff hi] at hwildcard hliteral
    cases h shared.length hi hwildcard.2 hliteral.1 _ hliteral.2

instance (rules : List Rule) : Decidable (NoShadowing rules) :=
  decidable_of_iff _ noShadowing_iff.symm

/-! ## Resolving a path that a rule covers -/

section Resolving

variable {rules : List Rule} {found rest : List Stem} {stems : List String} {stem : String}

theorem resolveFrom_cons_of_literal (h : BeginsPattern rules (found ++ [.literal stem])) :
    resolveFrom rules found (stem :: stems) = resolveFrom rules (found ++ [.literal stem]) stems :=
  if_pos h

theorem resolveFrom_cons_of_wildcard (hl : ¬ BeginsPattern rules (found ++ [.literal stem]))
    (hw : BeginsPattern rules (found ++ [.wildcard])) :
    resolveFrom rules found (stem :: stems) = resolveFrom rules (found ++ [.wildcard]) stems := by
  rw [resolveFrom, if_neg hl, if_pos hw]

/-- What a path resolves to fits it. -/
theorem fits_of_resolveFrom {q : List Stem} (h : resolveFrom rules found stems = some q) :
    ∃ rest, q = found ++ rest ∧ List.Forall₂ Stem.Fits rest stems := by
  induction stems generalizing found with
  | nil =>
    obtain rfl := Option.some.inj h
    exact ⟨[], by simp, .nil⟩
  | cons stem stems ih =>
    unfold resolveFrom at h
    split at h
    · obtain ⟨rest, rfl, hrest⟩ := ih h
      exact ⟨.literal stem :: rest, by simp, .cons rfl hrest⟩
    · split at h
      · obtain ⟨rest, rfl, hrest⟩ := ih h
        exact ⟨.wildcard :: rest, by simp, .cons trivial hrest⟩
      · cases h

/-- A rule covers the paths that resolve to its pattern. -/
theorem covers_of_resolve {r : Rule} {path : String} (h : resolve rules path = some r.pattern) :
    r.Covers path := by
  obtain ⟨rest, hrest, hfits⟩ := fits_of_resolveFrom h
  rw [List.nil_append] at hrest
  unfold Rule.Covers
  rw [hrest]
  exact hfits

/-- The resolution keeps to the rest of a pattern up to its wildcard at this place, and
there takes the literal of another pattern. -/
structure Shadowed (rules : List Rule) (found rest : List Stem) (stems : List String) (i : Nat)
    (stem : String) : Prop where
  wildcard : rest[i]? = some .wildcard
  own : stems[i]? = some stem
  literal : BeginsPattern rules (found ++ rest.take i ++ [.literal stem])
  kept : ∀ j ≤ i, resolveFrom rules found (stems.take j) = some (found ++ rest.take j)
  left : resolveFrom rules found (stems.take (i + 1)) =
    some (found ++ rest.take i ++ [.literal stem])

/-- A step that keeps to the pattern does not change what comes after. -/
theorem Shadowed.cons {s : Stem} {i : Nat} {stem' : String}
    (h : Shadowed rules (found ++ [s]) rest stems i stem')
    (hstep : ∀ stems', resolveFrom rules found (stem :: stems') =
      resolveFrom rules (found ++ [s]) stems') :
    Shadowed rules found (s :: rest) (stem :: stems) (i + 1) stem' := by
  have happend : ∀ later, found ++ s :: later = found ++ [s] ++ later := by simp
  refine ⟨h.wildcard, h.own, ?_, ?_, ?_⟩
  · rw [List.take_succ_cons, happend (rest.take i)]
    exact h.literal
  · intro j hj
    cases j with
    | zero => simp [resolveFrom]
    | succ j =>
      rw [List.take_succ_cons, List.take_succ_cons, hstep, happend (rest.take j)]
      exact h.kept j (Nat.le_of_succ_le_succ hj)
  · rw [List.take_succ_cons, hstep, List.take_succ_cons, happend (rest.take i)]
    exact h.left

/-- A path resolves to the pattern of a rule that covers it, unless a literal of another
pattern shadows one of the rule's wildcards. -/
theorem resolveFrom_of_fits {r : Rule} (hr : r ∈ rules) (hpattern : r.pattern = found ++ rest)
    (hfits : List.Forall₂ Stem.Fits rest stems) :
    resolveFrom rules found stems = some r.pattern ∨
      ∃ i stem, Shadowed rules found rest stems i stem := by
  induction hfits generalizing found with
  | nil =>
    left
    rw [resolveFrom, hpattern, List.append_nil]
  | @cons s stem rest stems hs hfits ih =>
    have hcons : r.pattern = found ++ [s] ++ rest := by simp [hpattern]
    have hbegins : BeginsPattern rules (found ++ [s]) := ⟨r, hr, rest, hcons.symm⟩
    -- as long as the resolution takes the rule's own stem, the rest decides
    have hkeeps : (∀ stems', resolveFrom rules found (stem :: stems') =
        resolveFrom rules (found ++ [s]) stems') →
        resolveFrom rules found (stem :: stems) = some r.pattern ∨
          ∃ i stem', Shadowed rules found (s :: rest) (stem :: stems) i stem' := by
      intro hstep
      rcases ih hcons with hfound | ⟨i, stem', hshadowed⟩
      · left
        rw [hstep, hfound]
      · right
        exact ⟨i + 1, stem', hshadowed.cons hstep⟩
    cases s with
    | literal text =>
      obtain rfl : text = stem := hs
      exact hkeeps fun _ => resolveFrom_cons_of_literal hbegins
    | wildcard =>
      by_cases hliteral : BeginsPattern rules (found ++ [.literal stem])
      · right
        refine ⟨0, stem, rfl, rfl, by simpa using hliteral, ?_, ?_⟩
        · intro j hj
          obtain rfl := Nat.le_zero.1 hj
          simp [resolveFrom]
        · simp [resolveFrom, hliteral]
      · exact hkeeps fun _ => resolveFrom_cons_of_wildcard hliteral hbegins

end Resolving

/-! ## Lookups -/

namespace Represents

variable {t : Trie} {rules : List Rule} {spelled : List (List Stem)}

/-- A walk from the root ends on the node that the resolved stems lead to. -/
theorem walk_root (h : Represents t rules spelled) (stems : List String) :
    t.walk Trie.root stems = (resolveFrom rules [] stems).bind t.nodeAt := by
  have hwalk := h.walk stems h.spells.root
  cases hi : t.walk Trie.root stems with
  | none =>
    rw [hi, Option.map_none, eq_comm, Option.map_eq_none_iff] at hwalk
    rw [hwalk, Option.bind_none]
  | some i =>
    rw [hi, Option.map_some, eq_comm, Option.map_eq_some_iff] at hwalk
    obtain ⟨p, hp, hspelled⟩ := hwalk
    rw [hp, Option.bind_some, h.spells.nodeAt_eq_some_iff.2 hspelled.symm]

/-- The rules at the node where a path ends cover the path. -/
theorem covers_of_lookup (h : Represents t rules spelled) {path : String} {i : NodeId} {n : Node}
    (hi : t.lookup path = some i) (hn : t.node? i = some n) {id : RuleId} (hid : id ∈ n.rules) :
    ∃ r, rules[id]? = some r ∧ r.Covers path := by
  rw [Trie.lookup, h.walk_root, Option.bind_eq_some_iff] at hi
  obtain ⟨p, hp, hnode⟩ := hi
  have hspelled := h.spells.nodeAt_eq_some_iff.1 hnode
  have hids := (h.label_of_node? hspelled hn).1
  rw [hids, List.mem_toArray, mem_idsWith_iff] at hid
  obtain ⟨r, hr, rfl⟩ := hid
  exact ⟨r, hr, covers_of_resolve hp⟩

/-- Where a rule is shadowed the walk leaves its pattern. -/
theorem leavesAt (h : Represents t rules spelled) {r : Rule} (hr : r ∈ rules) {path : String}
    {i : Nat} {stem : String} (hs : Shadowed rules [] r.pattern (pathStems path) i stem) :
    t.LeavesAt r.pattern path i := by
  constructor
  · intro j hj
    rw [h.walk_root, hs.kept j hj, Option.bind_some, List.nil_append]
  · have hbegins : BeginsPattern rules (r.pattern.take (i + 1)) :=
      ⟨r, hr, List.take_prefix (i + 1) r.pattern⟩
    obtain ⟨j, hj⟩ := (h.exists_nodeAt_iff _).2 (.inr hbegins)
    rw [h.walk_root, hs.left, Option.bind_some, hj]
    intro hsame
    -- one node spells one list of stems, and these differ in the last
    have hleft := h.spells.nodeAt_eq_some_iff.1 hsame
    have hpattern := h.spells.nodeAt_eq_some_iff.1 hj
    rw [hpattern, List.take_add_one, hs.wildcard, Option.some.injEq, List.nil_append] at hleft
    have hlast := List.append_cancel_left hleft
    simp at hlast

end Represents

/-- What shadows a rule is the literal of a rule that begins with the same stems. -/
theorem Shadowed.exists_rule {rules : List Rule} {r : Rule} {stems : List String} {i : Nat}
    {stem : String} (h : Shadowed rules [] r.pattern stems i stem) :
    ∃ r' ∈ rules, r' ≠ r ∧ r'.pattern.take i = r.pattern.take i ∧
      r'.pattern[i]? = some (.literal stem) := by
  have hi : i < r.pattern.length := (List.getElem?_eq_some_iff.1 h.wildcard).1
  obtain ⟨r', hr', hprefix⟩ := h.literal
  rw [List.nil_append, append_singleton_isPrefix_iff hi] at hprefix
  refine ⟨r', hr', ?_, hprefix⟩
  rintro rfl
  cases h.wildcard.symm.trans hprefix.2

theorem NoShadowing.not_shadowed {rules : List Rule} (h : NoShadowing rules) {r : Rule}
    (hr : r ∈ rules) {stems : List String} {i : Nat} {stem : String} :
    ¬ Shadowed rules [] r.pattern stems i stem := by
  intro hs
  obtain ⟨r', hr', hliteral⟩ := hs.literal
  rw [List.nil_append] at hliteral
  have hi : i < r.pattern.length := (List.getElem?_eq_some_iff.1 hs.wildcard).1
  have hwildcard := (append_singleton_isPrefix_iff hi).2 ⟨rfl, hs.wildcard⟩
  exact h r hr r' hr' (r.pattern.take i) stem hwildcard hliteral

/-! ## Unexpected metrics -/

theorem unexpected_mem_violationsOf_iff {rules : List Rule} {m m' : Metric} :
    .unexpected m ∈ violationsOf rules m' ↔
      m = m' ∧ ∀ p, resolve rules m'.path = some p → rulesWith rules p = [] := by
  rcases violationsOf_cases rules m' with ⟨hnone, hv⟩ | ⟨p, hp, hne, hv⟩
  · rw [hv, List.mem_singleton, Violation.unexpected.injEq, and_iff_left hnone]
  · rw [hv]
    constructor
    · intro hmem
      split at hmem
      · cases hmem
      · obtain ⟨r, -, heq⟩ := List.mem_map.1 hmem
        cases heq
    · rintro ⟨-, hnone⟩
      exact absurd (hnone p hp) hne

theorem unexpected_mem_findViolations_iff {rules : List Rule} {metrics : List Metric}
    {m : Metric} :
    .unexpected m ∈ findViolations rules metrics ↔
      m ∈ metrics ∧ ∀ p, resolve rules m.path = some p → rulesWith rules p = [] := by
  rw [findViolations_eq, List.mem_append, List.mem_flatMap]
  constructor
  · rintro (⟨m', hm', hv⟩ | hmissing)
    · obtain ⟨rfl, hnone⟩ := unexpected_mem_violationsOf_iff.1 hv
      exact ⟨hm', hnone⟩
    · obtain ⟨r, -, hr⟩ := List.mem_map.1 hmissing
      cases hr
  · rintro ⟨hm, hnone⟩
    exact .inl ⟨m, hm, unexpected_mem_violationsOf_iff.2 ⟨rfl, hnone⟩⟩

/-- Without shadowing, a path resolves to no rule exactly when none covers it. -/
theorem NoShadowing.rulesWith_eq_nil_iff {rules : List Rule} (h : NoShadowing rules)
    (path : String) :
    (∀ p, resolve rules path = some p → rulesWith rules p = []) ↔
      ∀ r ∈ rules, ¬ r.Covers path := by
  constructor
  · intro hnone r hr hcovers
    rcases resolveFrom_of_fits hr (List.nil_append _).symm hcovers with hfound | ⟨i, stem, hs⟩
    · exact rulesWith_ne_nil hr (hnone r.pattern hfound)
    · exact h.not_shadowed hr hs
  · intro huncovered p hp
    apply List.filter_eq_nil_iff.2
    intro r hr hpattern
    apply huncovered r hr
    apply covers_of_resolve
    rw [hp, of_decide_eq_true hpattern]

/-! ## The law -/

/-- The rules at the node where a path ends cover the path. A rule that covers the path
and is not found there has a wildcard at the first place where the walk leaves its
pattern, and some other rule that begins with the same stems has the path's own stem at
that place. Where this cannot happen, the unexpected metrics are those without a rule
that covers them. -/
theorem lookups_miss_only_what_is_shadowed (rules : List Rule) :
    (∀ path i n, (Trie.ofRules rules).lookup path = some i →
      (Trie.ofRules rules).node? i = some n →
      ∀ id ∈ n.rules, ∃ r, rules[id]? = some r ∧ r.Covers path) ∧
    (∀ (path : String) (id : RuleId) (r : Rule), rules[id]? = some r → r.Covers path →
      (Trie.ofRules rules).lookup path ≠ (Trie.ofRules rules).homes[id]? →
      ∃ i stem, (Trie.ofRules rules).LeavesAt r.pattern path i ∧
        r.pattern[i]? = some .wildcard ∧ (pathStems path)[i]? = some stem ∧
        ∃ r' ∈ rules, r' ≠ r ∧ r'.pattern.take i = r.pattern.take i ∧
          r'.pattern[i]? = some (.literal stem)) ∧
    (NoShadowing rules → ∀ metrics m, .unexpected m ∈ findViolations rules metrics ↔
      m ∈ metrics ∧ ∀ r ∈ rules, ¬ r.Covers m.path) := by
  obtain ⟨spelled, h⟩ := represents_ofRules rules
  refine ⟨?_, ?_, ?_⟩
  · intro path i n hi hn id hid
    exact h.covers_of_lookup hi hn hid
  · intro path id r hid hcovers hmissed
    have hr := List.mem_of_getElem? hid
    rcases resolveFrom_of_fits hr (List.nil_append _).symm hcovers with hfound | ⟨i, stem, hs⟩
    · refine absurd ?_ hmissed
      rw [Trie.lookup, h.walk_root, hfound, Option.bind_some, h.getElem?_homes hid]
    · exact ⟨i, stem, h.leavesAt hr hs, hs.wildcard, hs.own, hs.exists_rule⟩
  · intro hno metrics m
    rw [unexpected_mem_findViolations_iff, hno.rulesWith_eq_nil_iff]

theorem lookups_miss_only_what_is_shadowed_at_two_rules :
    let rules : List Rule := [⟨"*.b", true, []⟩, ⟨"a.c", true, []⟩]
    let plain : List Rule := [⟨"a.*", true, []⟩, ⟨"b", true, []⟩]
    let metric : Metric := ⟨"c", .nan, ⟨0, by decide, by decide⟩⟩
    (∀ id ∈ (((Trie.ofRules rules).node? 4).get rfl).rules,
      ∃ r, rules[id]? = some r ∧ r.Covers "a.c") ∧
    (∃ i stem, (Trie.ofRules rules).LeavesAt (Rule.mk "*.b" true []).pattern "a.b" i ∧
      (Rule.mk "*.b" true []).pattern[i]? = some .wildcard ∧ (pathStems "a.b")[i]? = some stem ∧
      ∃ r' ∈ rules, r' ≠ ⟨"*.b", true, []⟩ ∧
        r'.pattern.take i = (Rule.mk "*.b" true []).pattern.take i ∧
        r'.pattern[i]? = some (.literal stem)) ∧
    (.unexpected metric ∈ findViolations plain [metric] ↔
      metric ∈ [metric] ∧ ∀ r ∈ plain, ¬ r.Covers metric.path) := by
  intro rules plain metric
  have hlookup : (Trie.ofRules rules).lookup "a.c" = some 4 := by decide
  have hnode : (Trie.ofRules rules).node? 4 = some (((Trie.ofRules rules).node? 4).get rfl) :=
    (Option.some_get rfl).symm
  have hcovers : (Rule.mk "*.b" true []).Covers "a.b" := by decide
  have hmissed : (Trie.ofRules rules).lookup "a.b" ≠ (Trie.ofRules rules).homes[0]? := by decide
  have hplain : NoShadowing plain := by decide
  exact ⟨(lookups_miss_only_what_is_shadowed rules).1 "a.c" 4 _ hlookup hnode,
    (lookups_miss_only_what_is_shadowed rules).2.1 "a.b" 0 _ rfl hcovers hmissed,
    (lookups_miss_only_what_is_shadowed plain).2.2 hplain [metric] metric⟩

end MetricCheck
