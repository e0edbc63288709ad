-- The order of patterns, and that the traversal of a trie keeps to it. Whatever is
-- below one pending node comes before whatever is below the next, so a visit may put
-- the children of a node in its place and the nodes found stay in order.
import Mathlib.Data.Finset.Sort
import Mathlib.Data.List.Lex
import Mathlib.Data.String.Basic
import Mathlib.Order.WithBot
import MetricCheck.Proofs.Trie.Descent
import MetricCheck.Proofs.Trie.Traversal

namespace MetricCheck

/-! ## The order of stems and patterns -/

namespace Stem

/-- Literals stand by their code points, and the wildcard stands above all of them. -/
def place : Stem → WithTop String
  | .literal text => text
  | .wildcard => ⊤

theorem place_injective : Function.Injective place := by
  intro a b h
  cases a with
  | literal text =>
    cases b with
    | literal text' => rw [WithTop.coe_injective h]
    | wildcard => exact absurd h (WithTop.coe_ne_top)
  | wildcard =>
    cases b with
    | literal text' => exact absurd h (WithTop.top_ne_coe)
    | wildcard => rfl

/-- Patterns are compared as lists of stems: by the first stems in which they differ,
and a proper prefix comes first. -/
instance : LinearOrder Stem where
  le a b := a.place ≤ b.place
  lt a b := a.place < b.place
  le_refl a := le_refl a.place
  le_trans _ _ _ hab hbc := le_trans hab hbc
  lt_iff_le_not_ge _ _ := lt_iff_le_not_ge
  le_antisymm _ _ hab hba := place_injective (le_antisymm hab hba)
  le_total a b := le_total a.place b.place
  toDecidableLE a b := inferInstanceAs (Decidable (a.place ≤ b.place))
  toDecidableEq := inferInstance

theorem lt_iff {a b : Stem} : a < b ↔ a.place < b.place := Iff.rfl

@[simp] theorem literal_lt_literal {a b : String} : literal a < literal b ↔ a < b := by
  rw [lt_iff]
  exact WithTop.coe_lt_coe

@[simp] theorem literal_lt_wildcard (a : String) : literal a < wildcard := by
  rw [lt_iff]
  exact WithTop.coe_lt_top a

end Stem

/-- The patterns part, and the stem with which the first goes on comes first. -/
def PartsBefore (p q : List Stem) : Prop :=
  ∃ shared s s', s < s' ∧ shared ++ [s] <+: p ∧ shared ++ [s'] <+: q

namespace PartsBefore

variable {p q p' q' : List Stem}

/-- Where two patterns have parted, what comes after does not matter. -/
theorem mono (h : PartsBefore p q) (hp : p <+: p') (hq : q <+: q') : PartsBefore p' q' := by
  obtain ⟨shared, s, s', hlt, hps, hqs⟩ := h
  exact ⟨shared, s, s', hlt, hps.trans hp, hqs.trans hq⟩

theorem of_lt {s s' : Stem} (h : s < s') (p : List Stem) : PartsBefore (p ++ [s]) (p ++ [s']) :=
  ⟨p, s, s', h, List.prefix_refl _, List.prefix_refl _⟩

theorem lt (h : PartsBefore p q) : p < q := by
  obtain ⟨shared, s, s', hlt, ⟨rest, rfl⟩, ⟨rest', rfl⟩⟩ := h
  induction shared with
  | nil => exact List.cons_lt_cons_iff.2 (.inl hlt)
  | cons first shared ih => exact List.cons_lt_cons_iff.2 (.inr ⟨rfl, ih⟩)

end PartsBefore

theorem lt_append_singleton (p : List Stem) (s : Stem) : p < p ++ [s] := by
  induction p with
  | nil => exact List.nil_lt_cons s []
  | cons first p ih => exact List.cons_lt_cons_iff.2 (.inr ⟨rfl, ih⟩)

/-! ## The children of a node -/

/-- The stems to the children of a node are in order. -/
theorem Node.pairwise_stems (n : Node) : n.stems.Pairwise (· < ·) := by
  have hkeys : (n.literals.keys.map Stem.literal).Pairwise (· < ·) := by
    rw [List.pairwise_map]
    refine Std.TreeMap.ordered_keys.imp ?_
    intro a b hab
    rw [Stem.literal_lt_literal]
    exact compare_lt_iff_lt.1 hab
  unfold Node.stems
  rw [List.pairwise_append]
  refine ⟨hkeys, ?_, ?_⟩
  · cases n.wildcard with
    | none => exact List.Pairwise.nil
    | some child => exact List.pairwise_singleton _ _
  · intro a ha b hb
    obtain ⟨text, -, rfl⟩ := List.mem_map.1 ha
    cases hw : n.wildcard with
    | none => simp [hw] at hb
    | some child =>
      obtain rfl : b = Stem.wildcard := by simpa [hw] using hb
      exact Stem.literal_lt_wildcard text

/-! ## A traversal in order -/

namespace Trie

/-- The nodes found are in order, they come before the pending ones, and the pending
ones part in order. -/
structure InOrder (spelled : List (List Stem)) (walk : Traversal) : Prop where
  known : ∀ i ∈ walk.pending, ∃ p, spelled[i]? = some p
  found : (walk.found.toList.map (stemsAt spelled)).Pairwise (· < ·)
  pending : (walk.pending.map (stemsAt spelled)).Pairwise PartsBefore
  between : ∀ i ∈ walk.found.toList, ∀ j ∈ walk.pending, stemsAt spelled i < stemsAt spelled j

variable {t : Trie} {spelled : List (List Stem)}

theorem inOrder_start (h : Spells spelled t.nodes) : InOrder spelled .start := by
  refine ⟨?_, List.Pairwise.nil, List.pairwise_singleton _ _, ?_⟩
  · intro i hi
    obtain rfl := List.mem_singleton.1 hi
    exact ⟨[], h.root⟩
  · intro i hi
    cases hi

/-- A visit puts the children of a node in its place. -/
theorem InOrder.visit (h : Spells spelled t.nodes) {i : NodeId} {pending : List NodeId}
    {found : Array NodeId} (hw : InOrder spelled ⟨i :: pending, found⟩) {p : List Stem} {n : Node}
    (hp : spelled[i]? = some p) (hn : t.nodes[i]? = some n) :
    InOrder spelled ⟨n.children ++ pending, found⟩ ∧
      ∀ c ∈ n.children ++ pending, p < stemsAt spelled c := by
  have hstems : stemsAt spelled i = p := by rw [stemsAt, hp, Option.getD_some]
  have hchildren := h.map_stemsAt_children hp hn
  have hpending := hw.pending
  rw [List.map_cons, List.pairwise_cons, hstems] at hpending
  obtain ⟨hfirst, hlater⟩ := hpending
  -- a child spells one stem more than the node
  have hchild : ∀ c ∈ n.children, ∃ s, stemsAt spelled c = p ++ [s] := by
    intro c hc
    have hmem := List.mem_map_of_mem (f := stemsAt spelled) hc
    rw [hchildren] at hmem
    obtain ⟨s, -, hs⟩ := List.mem_map.1 hmem
    exact ⟨s, hs.symm⟩
  have hafter : ∀ c ∈ n.children ++ pending, p < stemsAt spelled c := by
    intro c hc
    rcases List.mem_append.1 hc with hc | hc
    · obtain ⟨s, hs⟩ := hchild c hc
      rw [hs]
      exact lt_append_singleton p s
    · exact (hfirst _ (List.mem_map_of_mem hc)).lt
  refine ⟨⟨?_, hw.found, ?_, ?_⟩, hafter⟩
  · intro c hc
    rcases List.mem_append.1 hc with hc | hc
    · exact h.exists_of_mem_children hp hn hc
    · exact hw.known c (List.mem_cons_of_mem i hc)
  · rw [List.map_append, hchildren, List.pairwise_append]
    refine ⟨?_, hlater, ?_⟩
    · rw [List.pairwise_map]
      exact n.pairwise_stems.imp fun hlt => .of_lt hlt p
    · intro q hq q' hq'
      obtain ⟨s, -, rfl⟩ := List.mem_map.1 hq
      exact (hfirst q' hq').mono (List.prefix_append p [s]) (List.prefix_refl q')
  · intro j hj c hc
    have hbefore := hw.between j hj i List.mem_cons_self
    rw [hstems] at hbefore
    exact hbefore.trans (hafter c hc)

theorem InOrder.step (h : Spells spelled t.nodes) {walk : Traversal} (hw : InOrder spelled walk) :
    InOrder spelled (Traversal.step t walk) := by
  obtain ⟨_ | ⟨i, pending⟩, found⟩ := walk
  · exact hw
  obtain ⟨p, hp⟩ := hw.known i List.mem_cons_self
  obtain ⟨n, hn⟩ := h.exists_node hp
  have hnode : t.node? i = some n := hn
  have hstems : stemsAt spelled i = p := by rw [stemsAt, hp, Option.getD_some]
  obtain ⟨hvisit, hafter⟩ := hw.visit h hp hn
  rw [Traversal.step, hnode]
  by_cases hterminal : n.isTerminal = true
  · simp only [hterminal, if_true]
    refine ⟨hvisit.known, ?_, hvisit.pending, ?_⟩
    · rw [Array.toList_push, List.map_append, List.pairwise_append]
      refine ⟨hw.found, List.pairwise_singleton _ _, ?_⟩
      intro q hq q' hq'
      obtain ⟨j, hj, rfl⟩ := List.mem_map.1 hq
      obtain rfl := List.mem_singleton.1 hq'
      exact hw.between j hj i List.mem_cons_self
    · intro j hj c hc
      rw [Array.toList_push] at hj
      rcases List.mem_append.1 hj with hj | hj
      · exact hvisit.between j hj c hc
      · obtain rfl := List.mem_singleton.1 hj
        rw [hstems]
        exact hafter c hc
  · simp only [hterminal]
    exact hvisit

theorem InOrder.steps (h : Spells spelled t.nodes) {walk : Traversal} (hw : InOrder spelled walk)
    (count : Nat) : InOrder spelled (Traversal.steps t count walk) := by
  induction count generalizing walk with
  | zero => exact hw
  | succ count ih => exact ih (hw.step h)

/-- The terminal nodes are found in the order of their patterns. -/
theorem pairwise_terminals (h : Spells spelled t.nodes) :
    (t.terminals.map (stemsAt spelled)).Pairwise (· < ·) :=
  ((inOrder_start h).steps h t.size).found

/-- As many visits as there are nodes leave none pending. -/
theorem pending_steps (h : Spells spelled t.nodes) :
    (Traversal.steps t t.size .start).pending = [] := by
  have hvisits : t.size ≤ ([] : List NodeId).length + t.size := by simp
  obtain ⟨-, -, hend⟩ := (visiting_start h).steps h hvisits
  exact hend

end Trie

end MetricCheck
