-- The traversal of a trie visits every node once. A visit trades a node for its
-- children, so the nodes visited and those below the pending ones stay all nodes.
import Mathlib.Data.List.Nodup
import MetricCheck.Trie.Terminals
import MetricCheck.Proofs.Trie.Representation

namespace MetricCheck

/-! ## The children of a node -/

theorem values_eq_map_toList {α β : Type} {cmp : α → α → Ordering} (m : Std.TreeMap α β cmp) :
    m.values = m.toList.map Prod.snd := by
  have hfoldr : m.values = m.foldr (fun _ v vs => v :: vs) [] := rfl
  rw [hfoldr, Std.TreeMap.foldr_eq_foldr_toList, List.map_eq_foldr]

namespace Node

/-- The stems that lead to the children, in the order of the children. -/
def stems (n : Node) : List Stem :=
  n.literals.keys.map .literal ++ (n.wildcard.map fun _ => .wildcard).toList

theorem mem_stems {n : Node} {s : Stem} : s ∈ n.stems ↔ (n.child? s).isSome := by
  cases s with
  | literal text =>
    rw [child?, Std.TreeMap.isSome_getElem?_eq_contains, Std.TreeMap.contains_iff_mem]
    cases n.wildcard <;> simp [stems]
  | wildcard => cases hw : n.wildcard <;> simp [stems, child?, hw]

theorem nodup_stems (n : Node) : n.stems.Nodup := by
  have hkeys : (n.literals.keys.map Stem.literal).Nodup :=
    Std.TreeMap.nodup_keys.map fun a b h => Stem.literal.inj h
  refine List.nodup_append.2 ⟨hkeys, by cases n.wildcard <;> simp, ?_⟩
  intro a ha b hb heq
  obtain ⟨text, -, rfl⟩ := List.mem_map.1 ha
  cases hw : n.wildcard with
  | none => simp [hw] at hb
  | some child =>
    simp [hw] at hb
    exact Stem.noConfusion (heq.trans hb)

theorem map_child?_stems (n : Node) : n.stems.map n.child? = n.children.map some := by
  have hkeys : n.literals.keys.map (fun text => n.literals[text]?) =
      n.literals.values.map some := by
    rw [← Std.TreeMap.map_fst_toList_eq_keys, values_eq_map_toList, List.map_map, List.map_map]
    refine List.map_congr_left fun kv hkv => ?_
    exact Std.TreeMap.mem_toList_iff_getElem?_eq_some.1 hkv
  rw [stems, children, List.map_append, List.map_append, List.map_map]
  congr 1
  cases hw : n.wildcard <;> simp [child?, hw]

end Node

/-! ## The nodes below a node -/

/-- What a node spells; a place without a node counts as spelling nothing. -/
def stemsAt (spelled : List (List Stem)) (i : NodeId) : List Stem := spelled[i]?.getD []

/-- The nodes that spell these stems and perhaps more after them. -/
def below (spelled : List (List Stem)) (p : List Stem) : List NodeId :=
  (List.range spelled.length).filter fun i => p <+: stemsAt spelled i

theorem mem_below {spelled : List (List Stem)} {p : List Stem} {i : NodeId} :
    i ∈ below spelled p ↔ ∃ q, spelled[i]? = some q ∧ p <+: q := by
  unfold below stemsAt
  rw [List.mem_filter, List.mem_range, decide_eq_true_eq]
  constructor
  · rintro ⟨hi, hp⟩
    rw [List.getElem?_eq_getElem hi] at hp
    exact ⟨_, List.getElem?_eq_getElem hi, hp⟩
  · rintro ⟨q, hq, hp⟩
    exact ⟨(List.getElem?_eq_some_iff.1 hq).1, by simpa [hq] using hp⟩

theorem nodup_below (spelled : List (List Stem)) (p : List Stem) : (below spelled p).Nodup :=
  List.nodup_range.filter _

theorem below_nil (spelled : List (List Stem)) : below spelled [] = List.range spelled.length := by
  simp [below]

namespace Spells

variable {spelled : List (List Stem)} {nodes : Array Node}

/-- The children spell one stem more, each its own. -/
theorem map_stemsAt_children (h : Spells spelled nodes) {i : NodeId} {p : List Stem} {n : Node}
    (hp : spelled[i]? = some p) (hn : nodes[i]? = some n) :
    n.children.map (stemsAt spelled) = n.stems.map fun s => p ++ [s] := by
  calc n.children.map (stemsAt spelled)
      = (n.children.map some).map fun c => stemsAt spelled (c.getD i) := by
        rw [List.map_map]
        rfl
    _ = n.stems.map fun s => stemsAt spelled ((n.child? s).getD i) := by
        rw [← Node.map_child?_stems, List.map_map]
        rfl
    _ = n.stems.map fun s => p ++ [s] := by
        refine List.map_congr_left fun s hs => ?_
        obtain ⟨c, hc⟩ := Option.isSome_iff_exists.1 (Node.mem_stems.1 hs)
        rw [hc, Option.getD_some, stemsAt, (h.child hp hn s c).1 hc, Option.getD_some]

theorem exists_of_mem_children (h : Spells spelled nodes) {i c : NodeId} {p : List Stem}
    {n : Node} (hp : spelled[i]? = some p) (hn : nodes[i]? = some n) (hc : c ∈ n.children) :
    ∃ q, spelled[c]? = some q := by
  have hsome : some c ∈ n.stems.map n.child? := by
    rw [Node.map_child?_stems]
    exact List.mem_map_of_mem hc
  obtain ⟨s, -, hs⟩ := List.mem_map.1 hsome
  exact ⟨_, (h.child hp hn s c).1 hs⟩

/-- Below a node stand itself and what is below its children. -/
theorem below_perm (h : Spells spelled nodes) {i : NodeId} {p : List Stem} {n : Node}
    (hp : spelled[i]? = some p) (hn : nodes[i]? = some n) :
    (below spelled p).Perm (i :: n.children.flatMap fun c => below spelled (stemsAt spelled c)) := by
  have hflat : n.children.flatMap (fun c => below spelled (stemsAt spelled c)) =
      n.stems.flatMap fun s => below spelled (p ++ [s]) := by
    rw [← List.flatMap_map (stemsAt spelled), h.map_stemsAt_children hp hn, List.flatMap_map]
  rw [hflat]
  refine (List.perm_ext_iff_of_nodup (nodup_below _ _) (List.nodup_cons.2 ⟨?_, ?_⟩)).2 fun j => ?_
  · intro hi
    obtain ⟨s, -, hs⟩ := List.mem_flatMap.1 hi
    obtain ⟨q, hq, hpq⟩ := mem_below.1 hs
    obtain rfl := Option.some.inj (hq.symm.trans hp)
    have hlen := hpq.length_le
    rw [List.length_append, List.length_singleton] at hlen
    omega
  · refine List.nodup_flatMap.2 ⟨fun s _ => nodup_below _ _, n.nodup_stems.imp ?_⟩
    intro s s' hne j hj hj'
    obtain ⟨q, hq, hs⟩ := mem_below.1 hj
    obtain ⟨q', hq', hs'⟩ := mem_below.1 hj'
    obtain rfl := Option.some.inj (hq.symm.trans hq')
    have heq := List.prefix_of_prefix_length_le hs hs' (by simp)
    exact hne (by simpa using heq)
  · rw [List.mem_cons, List.mem_flatMap, mem_below]
    constructor
    · rintro ⟨q, hq, rest, rfl⟩
      cases rest with
      | nil => exact .inl (h.inj hq (by simpa using hp))
      | cons s rest =>
        -- the stems before the last ones of a spelled list are spelled as well
        have hmem : p ++ [s] ∈ spelled :=
          h.mem_of_isPrefix (List.mem_of_getElem? hq) ⟨rest, by simp⟩
        obtain ⟨c, hc⟩ := List.mem_iff_getElem?.1 hmem
        have hs : s ∈ n.stems := Node.mem_stems.2 (by rw [(h.child hp hn s c).2 hc]; rfl)
        exact .inr ⟨s, hs, mem_below.2 ⟨_, hq, rest, by simp⟩⟩
    · rintro (rfl | ⟨s, -, hj⟩)
      · exact ⟨p, hp, List.prefix_refl p⟩
      · obtain ⟨q, hq, hpq⟩ := mem_below.1 hj
        exact ⟨q, hq, (List.prefix_append p [s]).trans hpq⟩

end Spells

/-! ## A traversal under way -/

namespace Trie

/-- Some rule is attached to the node at a place. -/
def isTerminalAt (t : Trie) (i : NodeId) : Bool := (t.node? i).any Node.isTerminal

/-- The nodes visited so far and those below the pending nodes are all nodes, each
once, and the terminal ones among the visited are the ones found. -/
structure Visiting (t : Trie) (spelled : List (List Stem)) (visited : List NodeId)
    (walk : Traversal) : Prop where
  pending : ∀ i ∈ walk.pending, ∃ p, spelled[i]? = some p
  all : (visited ++ walk.pending.flatMap fun i => below spelled (stemsAt spelled i)).Perm
    (List.range t.size)
  found : walk.found.toList = visited.filter t.isTerminalAt

variable {t : Trie} {spelled : List (List Stem)}

theorem visiting_start (h : Spells spelled t.nodes) : t.Visiting spelled [] .start := by
  refine ⟨?_, ?_, rfl⟩
  · intro i hi
    obtain rfl := List.mem_singleton.1 hi
    exact ⟨[], h.root⟩
  · have hroot : stemsAt spelled root = [] := by rw [stemsAt, h.root]; rfl
    simp [Traversal.start, hroot, below_nil, h.length, size]

theorem Visiting.step (h : Spells spelled t.nodes) {visited pending : List NodeId} {i : NodeId}
    {found : Array NodeId} (hv : t.Visiting spelled visited ⟨i :: pending, found⟩) :
    t.Visiting spelled (visited ++ [i]) (Traversal.step t ⟨i :: pending, found⟩) := by
  obtain ⟨p, hp⟩ := hv.pending i (by simp)
  obtain ⟨n, hn⟩ := h.exists_node hp
  have hnode : t.node? i = some n := hn
  have hstems : stemsAt spelled i = p := by rw [stemsAt, hp]; rfl
  rw [Traversal.step, hnode]
  refine ⟨?_, ?_, ?_⟩
  · intro c hc
    rcases List.mem_append.1 hc with hc | hc
    · exact h.exists_of_mem_children hp hn hc
    · exact hv.pending c (List.mem_cons_of_mem i hc)
  · refine List.Perm.trans ?_ hv.all
    rw [List.append_assoc, List.flatMap_append, List.flatMap_cons, hstems]
    refine List.Perm.append_left visited ?_
    rw [List.singleton_append, ← List.cons_append]
    exact (h.below_perm hp hn).symm.append_right _
  · rw [List.filter_append, ← hv.found]
    by_cases hterminal : n.isTerminal
    · simp [isTerminalAt, hnode, hterminal]
    · simp [isTerminalAt, hnode, hterminal]

/-- With as many visits left as nodes, a traversal comes to its end. -/
theorem Visiting.steps (h : Spells spelled t.nodes) {visited : List NodeId} {walk : Traversal}
    (hv : t.Visiting spelled visited walk) {count : Nat} (hc : t.size ≤ visited.length + count) :
    ∃ visited', t.Visiting spelled visited' (Traversal.steps t count walk) ∧
      (Traversal.steps t count walk).pending = [] := by
  induction count generalizing visited walk with
  | zero =>
    refine ⟨visited, hv, ?_⟩
    -- all nodes are visited, and a pending one would be one more
    have hlen := hv.all.length_eq
    rw [List.length_append, List.length_range] at hlen
    have hnone := List.eq_nil_of_length_eq_zero
      (l := walk.pending.flatMap fun i => below spelled (stemsAt spelled i)) (by omega)
    refine List.eq_nil_iff_forall_not_mem.2 fun i hi => ?_
    obtain ⟨p, hp⟩ := hv.pending i hi
    have hbelow : i ∈ below spelled (stemsAt spelled i) :=
      mem_below.2 ⟨p, hp, by rw [stemsAt, hp]; exact List.prefix_refl p⟩
    rw [List.flatMap_eq_nil_iff.1 hnone i hi] at hbelow
    cases hbelow
  | succ count ih =>
    obtain ⟨_ | ⟨i, pending⟩, found⟩ := walk
    · have hlen := hv.all.length_eq
      rw [List.flatMap_nil, List.append_nil, List.length_range] at hlen
      exact ih hv (by omega)
    · refine ih (hv.step h) ?_
      rw [List.length_append, List.length_singleton]
      omega

/-- The traversal finds each terminal node once, and nothing else. -/
theorem terminals_perm (h : Spells spelled t.nodes) :
    t.terminals.Perm ((List.range t.size).filter t.isTerminalAt) := by
  have hvisits : t.size ≤ ([] : List NodeId).length + t.size := by simp
  obtain ⟨visited, hv, hend⟩ := (visiting_start h).steps h hvisits
  have hall := hv.all
  rw [hend, List.flatMap_nil, List.append_nil] at hall
  rw [terminals, hv.found]
  exact hall.filter _

end Trie

end MetricCheck
