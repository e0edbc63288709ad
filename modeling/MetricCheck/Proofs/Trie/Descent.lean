-- The way down a trie along the stems of a pattern. A metric's stem may fall back to
-- the wildcard; a stem of a pattern follows its own child and no other, so the node
-- it comes to is the one that spells the stems.
import MetricCheck.Proofs.Trie.Representation

namespace MetricCheck

namespace Trie

/-- The child of a node along a stem of a pattern. -/
def child? (t : Trie) (id : NodeId) (s : Stem) : Option NodeId :=
  (t.node? id).bind fun n => n.child? s

/-- The node that the stems of a pattern lead to from a node. -/
def descend (t : Trie) (id : NodeId) : List Stem → Option NodeId
  | [] => some id
  | s :: stems =>
    match t.child? id s with
    | some child => t.descend child stems
    | none => none

/-- The node that a pattern leads to. -/
def nodeAt (t : Trie) (pattern : List Stem) : Option NodeId := t.descend root pattern

end Trie

namespace Spells

variable {t : Trie} {spelled : List (List Stem)}

theorem child?_eq_some_iff (h : Spells spelled t.nodes) {i j : NodeId} {p : List Stem}
    (hp : spelled[i]? = some p) (s : Stem) :
    t.child? i s = some j ↔ spelled[j]? = some (p ++ [s]) := by
  obtain ⟨n, hn⟩ := h.exists_node hp
  have hnode : t.node? i = some n := hn
  unfold Trie.child?
  rw [hnode, Option.bind_some]
  exact h.child hp hn s j

/-- Stems lead from a node to the one that spells them after the node's own. -/
theorem descend_eq_some_iff (h : Spells spelled t.nodes) {i j : NodeId} {p : List Stem}
    (hp : spelled[i]? = some p) (stems : List Stem) :
    t.descend i stems = some j ↔ spelled[j]? = some (p ++ stems) := by
  induction stems generalizing i p with
  | nil =>
    rw [Trie.descend, Option.some.injEq, List.append_nil]
    constructor
    · rintro rfl
      exact hp
    · intro hj
      exact h.inj hp hj
  | cons s stems ih =>
    have hcons : p ++ s :: stems = p ++ [s] ++ stems := by simp
    rw [Trie.descend, hcons]
    cases hc : t.child? i s with
    | some child => exact ih ((h.child?_eq_some_iff hp s).1 hc)
    | none =>
      -- the stems on the way are spelled wherever the last ones are
      refine ⟨fun hj => (nomatch hj), fun hj => ?_⟩
      have hmem := h.mem_of_isPrefix (List.mem_of_getElem? hj) (List.prefix_append _ stems)
      obtain ⟨c, hc'⟩ := List.mem_iff_getElem?.1 hmem
      rw [(h.child?_eq_some_iff hp s).2 hc'] at hc
      cases hc

theorem nodeAt_eq_some_iff (h : Spells spelled t.nodes) {i : NodeId} {p : List Stem} :
    t.nodeAt p = some i ↔ spelled[i]? = some p := by
  unfold Trie.nodeAt
  rw [h.descend_eq_some_iff h.root, List.nil_append]

end Spells

namespace Represents

variable {t : Trie} {rules : List Rule} {spelled : List (List Stem)}

/-- A pattern leads to a node where some pattern begins with it. -/
theorem exists_nodeAt_iff (h : Represents t rules spelled) (p : List Stem) :
    (∃ i, t.nodeAt p = some i) ↔ p = [] ∨ BeginsPattern rules p := by
  rw [← h.mem, List.mem_iff_getElem?]
  exact exists_congr fun i => h.spells.nodeAt_eq_some_iff

/-- Every rule is attached to the node that its pattern leads to. -/
theorem getElem?_homes (h : Represents t rules spelled) {id : RuleId} {r : Rule}
    (hr : rules[id]? = some r) : t.homes[id]? = t.nodeAt r.pattern := by
  have hhomes := congrArg (·[id]?) h.homes
  simp only [List.getElem?_map, hr, Option.map_some, Array.getElem?_toList] at hhomes
  obtain ⟨home, hhome, hspelled⟩ := Option.map_eq_some_iff.1 hhomes
  rw [hhome, h.spells.nodeAt_eq_some_iff.2 hspelled]

theorem size_homes (h : Represents t rules spelled) : t.homes.size = rules.length := by
  simpa using congrArg List.length h.homes

end Represents

/-- A rule stands at a place of those with a pattern when it has the pattern. -/
theorem mem_idsWith_iff {rules : List Rule} {p : List Stem} {id : RuleId} :
    id ∈ idsWith rules p ↔ ∃ r, rules[id]? = some r ∧ r.pattern = p := by
  unfold idsWith
  rw [List.mem_filter, List.mem_range, decide_eq_true_eq, Option.map_eq_some_iff]
  constructor
  · rintro ⟨-, hr⟩
    exact hr
  · rintro ⟨r, hid, hpattern⟩
    exact ⟨(List.getElem?_eq_some_iff.1 hid).1, r, hid, hpattern⟩

end MetricCheck
