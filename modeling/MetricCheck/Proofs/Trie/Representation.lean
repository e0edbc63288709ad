-- The trie of a list of rules. Its nodes spell the prefixes of the patterns, each
-- rule is attached to the node that spells its pattern, and looking up a path comes
-- to the node that spells what the path resolves to.
import MetricCheck.Proofs.Trie.Spelling

namespace MetricCheck

/-! ## One more pattern -/

/-- Finding or making a child: afterwards the stems of the child are spelled, and
no others are new. -/
theorem Spells.childOrNew {spelled : List (List Stem)} {nodes : Array Node}
    (h : Spells spelled nodes) {id : NodeId} {p : List Stem} (hp : spelled[id]? = some p)
    (s : Stem) :
    ∃ spelled', Spells spelled' (Node.childOrNew nodes id s).1 ∧
      Grown spelled spelled' nodes (Node.childOrNew nodes id s).1 ∧
      spelled'[(Node.childOrNew nodes id s).2]? = some (p ++ [s]) ∧
      ∀ q, q ∈ spelled' ↔ q ∈ spelled ∨ q = p ++ [s] := by
  obtain ⟨n, hn⟩ := h.exists_node hp
  unfold Node.childOrNew
  rw [hn, Option.bind_some]
  cases hs : n.child? s with
  | some child =>
    have hchild := (h.child hp hn s child).1 hs
    refine ⟨spelled, h, .refl _ _, hchild, fun q => ⟨.inl, ?_⟩⟩
    rintro (hq | rfl)
    · exact hq
    · exact List.mem_of_getElem? hchild
  | none =>
    refine ⟨spelled ++ [p ++ [s]], h.withChild hp hn hs, ⟨List.prefix_append _ _, ?_⟩, ?_, ?_⟩
    · exact labelAt_withChild hn
    · exact getElem?_concat_eq_some.2 (.inr ⟨h.length.symm, rfl⟩)
    · simp

/-- Following stems and making what is missing: afterwards every prefix on the way
is spelled, and nothing else is new. -/
theorem Spells.extend {spelled : List (List Stem)} {nodes : Array Node}
    (h : Spells spelled nodes) {id : NodeId} {p : List Stem} (hp : spelled[id]? = some p)
    (stems : List Stem) :
    ∃ spelled', Spells spelled' (Node.extend nodes id stems).1 ∧
      Grown spelled spelled' nodes (Node.extend nodes id stems).1 ∧
      spelled'[(Node.extend nodes id stems).2]? = some (p ++ stems) ∧
      ∀ q, q ∈ spelled' ↔ q ∈ spelled ∨ p <+: q ∧ q <+: p ++ stems := by
  induction stems generalizing spelled nodes id p with
  | nil =>
    refine ⟨spelled, h, .refl _ _, by simpa [Node.extend] using hp, fun q => ⟨.inl, ?_⟩⟩
    rintro (hq | ⟨hpq, hqp⟩)
    · exact hq
    · rw [List.append_nil] at hqp
      obtain rfl := hpq.eq_of_length_le hqp.length_le
      exact List.mem_of_getElem? hp
  | cons s stems ih =>
    obtain ⟨spelled₁, h₁, hgrown₁, hchild, hmem₁⟩ := h.childOrNew hp s
    obtain ⟨spelled₂, h₂, hgrown₂, hhome, hmem₂⟩ := ih h₁ hchild
    rw [List.append_assoc, List.singleton_append] at hhome
    refine ⟨spelled₂, h₂, hgrown₁.trans hgrown₂, hhome, fun q => ?_⟩
    have hpmem := List.mem_of_getElem? hp
    rw [hmem₂, hmem₁, or_assoc, List.append_assoc, List.singleton_append]
    refine or_congr_right' fun hq => ?_
    constructor
    · rintro (rfl | ⟨hpq, hqp⟩)
      · simp
      · exact ⟨(List.prefix_append p [s]).trans hpq, hqp⟩
    · rintro ⟨⟨rest, rfl⟩, hqp⟩
      cases rest with
      | nil => exact absurd (by simpa using hpmem) hq
      | cons s' rest =>
        obtain ⟨rfl, -⟩ := List.cons_prefix_cons.1 ((List.prefix_append_right_inj p).1 hqp)
        exact .inr ⟨⟨rest, by simp⟩, hqp⟩

/-! ## The rules with a pattern -/

/-- The places of the rules with a pattern, in order. -/
def idsWith (rules : List Rule) (pattern : List Stem) : List RuleId :=
  (List.range rules.length).filter fun id => rules[id]?.map Rule.pattern = some pattern

/-- One of the rules with a pattern is required. -/
def anyRequired (rules : List Rule) (pattern : List Stem) : Bool :=
  rules.any fun r => r.pattern = pattern && r.required

theorem idsWith_concat (rules : List Rule) (r : Rule) (p : List Stem) :
    idsWith (rules ++ [r]) p =
      idsWith rules p ++ if r.pattern = p then [rules.length] else [] := by
  unfold idsWith
  rw [List.length_append, List.length_singleton, List.range_succ, List.filter_append]
  congr 1
  · refine List.filter_congr fun id hid => ?_
    rw [List.getElem?_append_left (List.mem_range.1 hid)]
  · by_cases hr : r.pattern = p <;> simp [hr]

theorem anyRequired_concat (rules : List Rule) (r : Rule) (p : List Stem) :
    anyRequired (rules ++ [r]) p =
      (anyRequired rules p || (decide (r.pattern = p) && r.required)) := by
  simp [anyRequired]

theorem rulesWith_concat (rules : List Rule) (r : Rule) (p : List Stem) :
    rulesWith (rules ++ [r]) p = rulesWith rules p ++ if r.pattern = p then [r] else [] := by
  by_cases hr : r.pattern = p <;> simp [rulesWith, hr]

/-- The rules at the places are the rules themselves. -/
theorem filterMap_idsWith (rules more : List Rule) (p : List Stem) :
    (idsWith rules p).filterMap (fun id => (rules ++ more)[id]?) = rulesWith rules p := by
  induction rules using List.reverseRecOn generalizing more with
  | nil => rfl
  | append_singleton rules r ih =>
    rw [idsWith_concat, rulesWith_concat, List.filterMap_append, List.append_assoc, ih]
    by_cases hr : r.pattern = p <;> simp [hr]

theorem length_idsWith (rules : List Rule) (p : List Stem) :
    (idsWith rules p).length = (rulesWith rules p).length := by
  induction rules using List.reverseRecOn with
  | nil => rfl
  | append_singleton rules r ih =>
    rw [idsWith_concat, rulesWith_concat, List.length_append, List.length_append, ih]
    split <;> rfl

theorem idsWith_eq_nil {rules : List Rule} {p : List Stem} (h : ¬ BeginsPattern rules p) :
    idsWith rules p = [] := by
  refine List.filter_eq_nil_iff.2 fun id _ hid => ?_
  obtain ⟨r, hr, rfl⟩ := Option.map_eq_some_iff.1 (of_decide_eq_true hid)
  exact h (beginsPattern_of_mem (List.mem_of_getElem? hr))

theorem anyRequired_eq_false {rules : List Rule} {p : List Stem} (h : ¬ BeginsPattern rules p) :
    anyRequired rules p = false := by
  refine List.any_eq_false.2 fun r hr heq => ?_
  rw [Bool.and_eq_true, decide_eq_true_eq] at heq
  exact h (heq.1 ▸ beginsPattern_of_mem hr)

/-! ## Attaching a rule -/

theorem getElem?_modify_attach {nodes : Array Node} {home i : NodeId} {id : RuleId}
    {required : Bool} {m : Node}
    (h : (nodes.modify home fun n => n.attach id required)[i]? = some m) :
    ∃ n, nodes[i]? = some n ∧ m = if i = home then n.attach id required else n := by
  rw [Array.getElem?_modify] at h
  split at h
  · rename_i hi
    obtain ⟨n, hn, rfl⟩ := Option.map_eq_some_iff.1 h
    exact ⟨n, hn, (if_pos hi.symm).symm⟩
  · rename_i hi
    exact ⟨m, h, (if_neg (Ne.symm hi)).symm⟩

/-- Rules change nothing in what the nodes spell. -/
theorem Spells.modify_attach {spelled : List (List Stem)} {nodes : Array Node}
    (h : Spells spelled nodes) (home : NodeId) (id : RuleId) (required : Bool) :
    Spells spelled (nodes.modify home fun n => n.attach id required) := by
  refine ⟨by simp [h.length], h.nodup, h.root, h.parent, ?_⟩
  intro i p m hp hm s j
  obtain ⟨n, hn, rfl⟩ := getElem?_modify_attach hm
  rw [← h.child hp hn s j]
  split
  · rw [Node.child?_attach]
  · rfl

theorem labelAt_modify_attach {nodes : Array Node} {home : NodeId} (hhome : home < nodes.size)
    (id : RuleId) (required : Bool) (i : NodeId) :
    labelAt (nodes.modify home fun n => n.attach id required) i =
      if i = home then
        ((labelAt nodes i).1.push id, (labelAt nodes i).2 || required)
      else labelAt nodes i := by
  unfold labelAt
  rw [Array.getElem?_modify]
  by_cases hi : i = home
  · subst hi
    simp [hhome, Node.attach]
  · simp [hi, Ne.symm hi]

/-! ## Representation -/

/-- The trie holds these rules, and its nodes spell these lists of stems. -/
structure Represents (t : Trie) (rules : List Rule) (spelled : List (List Stem)) : Prop where
  spells : Spells spelled t.nodes
  mem : ∀ q, q ∈ spelled ↔ q = [] ∨ BeginsPattern rules q
  label : ∀ {i : NodeId} {p : List Stem}, spelled[i]? = some p →
    labelAt t.nodes i = ((idsWith rules p).toArray, anyRequired rules p)
  homes : t.homes.toList.map (spelled[·]?) = rules.map fun r => some r.pattern

theorem represents_empty : Represents .empty [] [[]] := by
  refine ⟨⟨rfl, by simp, rfl, ?_, ?_⟩, by simp [BeginsPattern], ?_, rfl⟩
  · intro i p s h
    have := List.mem_of_getElem? h
    simp at this
  · intro i p n _ hn s j
    have hbare : n = .bare := by
      have := Array.mem_of_getElem? hn
      simpa [Trie.empty] using this
    rw [hbare, Node.child?_bare]
    constructor
    · intro h
      cases h
    · intro h
      have := List.mem_of_getElem? h
      simp at this
  · intro i p h
    obtain ⟨hi, -⟩ := List.getElem?_eq_some_iff.1 h
    obtain rfl : i = 0 := by simpa using hi
    rfl

/-- One rule more keeps the representation. -/
theorem Represents.insert {t : Trie} {rules : List Rule} {spelled : List (List Stem)}
    (h : Represents t rules spelled) (r : Rule) :
    ∃ spelled', Represents (t.insert r) (rules ++ [r]) spelled' ∧ spelled <+: spelled' := by
  obtain ⟨nodes, homes⟩ := t
  obtain ⟨spelled', h', hgrown, hhome, hmem⟩ := h.spells.extend h.spells.root r.pattern
  rw [List.nil_append] at hhome
  have hids : homes.size = rules.length := by simpa using congrArg List.length h.homes
  refine ⟨spelled', ⟨h'.modify_attach _ _ _, fun q => ?_, fun {i p} hp => ?_, ?_⟩, hgrown.spelled⟩
  · rw [hmem, h.mem, beginsPattern_append_singleton, or_assoc]
    simp
  · -- a node that was not there yet has the label of stems that begin no pattern
    have hold : labelAt nodes i = ((idsWith rules p).toArray, anyRequired rules p) := by
      cases hi : spelled[i]? with
      | some q =>
        have hq := getElem?_of_isPrefix hgrown.spelled hi
        obtain rfl := Option.some.inj (hq.symm.trans hp)
        exact h.label hi
      | none =>
        have hp' : p ∉ spelled := by
          intro hmem'
          obtain ⟨j, hj⟩ := List.mem_iff_getElem?.1 hmem'
          rw [h'.inj hp (getElem?_of_isPrefix hgrown.spelled hj), hj] at hi
          cases hi
        have hnot : ¬ BeginsPattern rules p := fun hb => hp' ((h.mem p).2 (.inr hb))
        have hnone : nodes[i]? = none := by
          rw [Array.getElem?_eq_none_iff, ← h.spells.length]
          exact List.getElem?_eq_none_iff.1 hi
        rw [idsWith_eq_nil hnot, anyRequired_eq_false hnot, labelAt, hnone]
        rfl
    rw [Trie.insert, labelAt_modify_attach (h'.lt_size hhome), hgrown.label, hold, hids,
      idsWith_concat, anyRequired_concat]
    by_cases hi : i = (Node.extend nodes Trie.root r.pattern).2
    · rw [hi, hhome] at hp
      obtain rfl := Option.some.inj hp
      simp [hi]
    · have hne : r.pattern ≠ p := fun heq => hi (h'.inj hp (heq ▸ hhome))
      simp [hi, hne]
  · have hsame : homes.toList.map (spelled'[·]?) = homes.toList.map (spelled[·]?) := by
      refine List.map_congr_left fun i hi => ?_
      have hmem' : spelled[i]? ∈ homes.toList.map (spelled[·]?) := List.mem_map_of_mem hi
      rw [h.homes] at hmem'
      obtain ⟨r', -, hr'⟩ := List.mem_map.1 hmem'
      rw [← hr', getElem?_of_isPrefix hgrown.spelled hr'.symm]
    simp [Trie.insert, hsame, h.homes, hhome]

/-- The trie of a list of rules holds them, and spells the prefixes of their patterns. -/
theorem represents_ofRules (rules : List Rule) :
    ∃ spelled, Represents (Trie.ofRules rules) rules spelled := by
  induction rules using List.reverseRecOn with
  | nil => exact ⟨_, represents_empty⟩
  | append_singleton rules r ih =>
    obtain ⟨spelled, h⟩ := ih
    obtain ⟨spelled', h', -⟩ := h.insert r
    rw [Trie.ofRules, List.foldl_append]
    exact ⟨spelled', h'⟩

end MetricCheck
