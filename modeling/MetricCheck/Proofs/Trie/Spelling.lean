-- What the nodes of a trie stand for. Each node spells a list of stems, the way
-- from the root to it. The nodes of the trie of a list of rules spell exactly the
-- prefixes of their patterns, each prefix once.
import Mathlib.Data.List.Induction
import Std.Data.TreeMap.Lemmas
import MetricCheck.Trie.Basic
import MetricCheck.Proofs.Resolution

namespace MetricCheck

/-! ## The operations on one node -/

namespace Node

@[simp] theorem child?_bare (s : Stem) : bare.child? s = none := by
  cases s
  · exact Std.TreeMap.getElem?_emptyc
  · rfl

theorem child?_link (n : Node) (s s' : Stem) (c : NodeId) :
    (n.link s c).child? s' = if s' = s then some c else n.child? s' := by
  cases s with
  | wildcard => cases s' <;> simp [link, child?]
  | literal text =>
    cases s' with
    | wildcard => simp [link, child?]
    | literal text' =>
      simp only [link, child?, Std.TreeMap.getElem?_insert, Std.compare_eq_iff_eq,
        Stem.literal.injEq, eq_comm (a := text)]

@[simp] theorem rules_link (n : Node) (s : Stem) (c : NodeId) : (n.link s c).rules = n.rules := by
  cases s <;> rfl

@[simp] theorem required_link (n : Node) (s : Stem) (c : NodeId) :
    (n.link s c).required = n.required := by
  cases s <;> rfl

@[simp] theorem child?_attach (n : Node) (id : RuleId) (required : Bool) (s : Stem) :
    (n.attach id required).child? s = n.child? s := by
  cases s <;> rfl

end Node

/-! ## What the nodes spell -/

/-- The node at each place spells the stems at that place of the list: the root
spells none, and the child along a stem spells that stem after its parent's. -/
structure Spells (spelled : List (List Stem)) (nodes : Array Node) : Prop where
  length : spelled.length = nodes.size
  nodup : spelled.Nodup
  root : spelled[Trie.root]? = some []
  parent : ∀ {i : NodeId} {p : List Stem} {s : Stem}, spelled[i]? = some (p ++ [s]) →
    ∃ j < i, spelled[j]? = some p
  child : ∀ {i : NodeId} {p : List Stem} {n : Node}, spelled[i]? = some p → nodes[i]? = some n →
    ∀ s j, n.child? s = some j ↔ spelled[j]? = some (p ++ [s])

namespace Spells

variable {spelled : List (List Stem)} {nodes : Array Node}

theorem lt_size (h : Spells spelled nodes) {i : NodeId} {p : List Stem}
    (hi : spelled[i]? = some p) : i < nodes.size := by
  rw [← h.length]
  exact (List.getElem?_eq_some_iff.1 hi).1

/-- Two nodes that spell the same stems are one. -/
theorem inj (h : Spells spelled nodes) {i j : NodeId} {p : List Stem}
    (hi : spelled[i]? = some p) (hj : spelled[j]? = some p) : i = j :=
  (List.getElem?_inj (List.getElem?_eq_some_iff.1 hi).1 h.nodup).1 (hi.trans hj.symm)

theorem exists_node (h : Spells spelled nodes) {i : NodeId} {p : List Stem}
    (hi : spelled[i]? = some p) : ∃ n, nodes[i]? = some n :=
  ⟨_, Array.getElem?_eq_getElem (h.lt_size hi)⟩

theorem mem_of_child (h : Spells spelled nodes) {i j : NodeId} {p : List Stem} {n : Node}
    {s : Stem} (hi : spelled[i]? = some p) (hn : nodes[i]? = some n) (hj : n.child? s = some j) :
    p ++ [s] ∈ spelled :=
  List.mem_of_getElem? ((h.child hi hn s j).1 hj)

/-- Without a child along a stem, no node spells the stems with that one after. -/
theorem not_mem_of_child (h : Spells spelled nodes) {i : NodeId} {p : List Stem} {n : Node}
    {s : Stem} (hi : spelled[i]? = some p) (hn : nodes[i]? = some n) (hs : n.child? s = none) :
    p ++ [s] ∉ spelled := by
  intro hmem
  obtain ⟨j, hj⟩ := List.mem_iff_getElem?.1 hmem
  rw [(h.child hi hn s j).2 hj] at hs
  cases hs

/-- The stems of a trie are closed under taking prefixes. -/
theorem mem_of_isPrefix (h : Spells spelled nodes) {p q : List Stem} (hq : q ∈ spelled)
    (hp : p <+: q) : p ∈ spelled := by
  induction q using List.reverseRecOn with
  | nil =>
    rw [List.prefix_nil.1 hp]
    exact hq
  | append_singleton q s ih =>
    rcases List.prefix_concat_iff.1 hp with rfl | hp
    · exact hq
    · obtain ⟨i, hi⟩ := List.mem_iff_getElem?.1 hq
      obtain ⟨j, _, hj⟩ := h.parent hi
      exact ih (List.mem_of_getElem? hj) hp

end Spells

/-! ## Growing -/

/-- What the rules have left at a node; a place without a node counts as bare. -/
def labelAt (nodes : Array Node) (i : NodeId) : Array RuleId × Bool :=
  let n := nodes[i]?.getD .bare
  (n.rules, n.required)

/-- The nodes that were there spell what they did, and no rule was attached. -/
structure Grown (spelled spelled' : List (List Stem)) (nodes nodes' : Array Node) : Prop where
  spelled : spelled <+: spelled'
  label : ∀ i, labelAt nodes' i = labelAt nodes i

theorem Grown.refl (spelled : List (List Stem)) (nodes : Array Node) :
    Grown spelled spelled nodes nodes :=
  ⟨List.prefix_refl _, fun _ => rfl⟩

theorem Grown.trans {spelled₁ spelled₂ spelled₃ : List (List Stem)}
    {nodes₁ nodes₂ nodes₃ : Array Node} (h : Grown spelled₁ spelled₂ nodes₁ nodes₂)
    (h' : Grown spelled₂ spelled₃ nodes₂ nodes₃) : Grown spelled₁ spelled₃ nodes₁ nodes₃ :=
  ⟨h.spelled.trans h'.spelled, fun i => (h'.label i).trans (h.label i)⟩

theorem getElem?_of_isPrefix {α : Type} {xs ys : List α} {i : Nat} {x : α} (h : xs <+: ys)
    (hx : xs[i]? = some x) : ys[i]? = some x := by
  obtain ⟨zs, rfl⟩ := h
  rw [List.getElem?_append_left (List.getElem?_eq_some_iff.1 hx).1, hx]

theorem getElem?_concat_eq_some {α : Type} {xs : List α} {x y : α} {i : Nat} :
    (xs ++ [x])[i]? = some y ↔ xs[i]? = some y ∨ i = xs.length ∧ y = x := by
  rcases Nat.lt_trichotomy i xs.length with h | rfl | h
  · rw [List.getElem?_append_left h]
    simp [Nat.ne_of_lt h]
  · simp [eq_comm]
  · rw [List.getElem?_append_right (by omega), List.getElem?_eq_none (Nat.le_of_lt h)]
    simp [Nat.ne_of_gt h, Nat.sub_ne_zero_of_lt h]

/-- The nodes after a child of one of them was made. -/
def withChild (nodes : Array Node) (id : NodeId) (s : Stem) : Array Node :=
  (nodes.push .bare).modify id fun n => n.link s nodes.size

theorem getElem?_withChild {nodes : Array Node} {id : NodeId} {n : Node} {s : Stem}
    (hn : nodes[id]? = some n) (i : NodeId) :
    (withChild nodes id s)[i]? =
      if i = nodes.size then some .bare
      else if i = id then some (n.link s nodes.size)
      else nodes[i]? := by
  have hid : id < nodes.size := (Array.getElem?_eq_some_iff.1 hn).1
  rw [withChild, Array.getElem?_modify, Array.getElem?_push]
  by_cases hi : i = nodes.size
  · subst hi
    simp [Nat.ne_of_lt hid]
  · by_cases hid' : i = id
    · subst hid'
      simp [hi, hn]
    · simp [hi, hid', Ne.symm hid']

theorem labelAt_withChild {nodes : Array Node} {id : NodeId} {n : Node} {s : Stem}
    (hn : nodes[id]? = some n) (i : NodeId) :
    labelAt (withChild nodes id s) i = labelAt nodes i := by
  unfold labelAt
  rw [getElem?_withChild hn]
  by_cases hi : i = nodes.size
  · subst hi
    simp
  · by_cases hid : i = id
    · subst hid
      simp [hi, hn]
    · simp [hi, hid]

/-- A new child spells its stem after the stems of its parent. -/
theorem Spells.withChild {spelled : List (List Stem)} {nodes : Array Node}
    (h : Spells spelled nodes) {id : NodeId} {p : List Stem} {n : Node} {s : Stem}
    (hp : spelled[id]? = some p) (hn : nodes[id]? = some n) (hs : n.child? s = none) :
    Spells (spelled ++ [p ++ [s]]) (withChild nodes id s) := by
  have hnew := h.not_mem_of_child hp hn hs
  refine ⟨?_, ?_, ?_, ?_, ?_⟩
  · simp [MetricCheck.withChild, h.length]
  · simpa [List.nodup_append, h.nodup] using fun q hq (heq : q = p ++ [s]) => hnew (heq ▸ hq)
  · exact getElem?_concat_eq_some.2 (.inl h.root)
  · intro i q s' hq
    rcases getElem?_concat_eq_some.1 hq with hq | ⟨rfl, heq⟩
    · obtain ⟨j, hj, hqj⟩ := h.parent hq
      exact ⟨j, hj, getElem?_concat_eq_some.2 (.inl hqj)⟩
    · obtain ⟨rfl, -⟩ := List.append_inj' heq rfl
      exact ⟨id, h.length ▸ h.lt_size hp, getElem?_concat_eq_some.2 (.inl hp)⟩
  · intro i q m hq hm s' j
    rw [getElem?_withChild hn] at hm
    rcases getElem?_concat_eq_some.1 hq with hold | ⟨rfl, rfl⟩
    · rw [if_neg (Nat.ne_of_lt (h.lt_size hold))] at hm
      by_cases hi : i = id
      · -- the parent gained just the one child
        subst hi
        obtain rfl : q = p := Option.some.inj (hold.symm.trans hp)
        rw [if_pos rfl] at hm
        obtain rfl := Option.some.inj hm
        rw [Node.child?_link, getElem?_concat_eq_some, ← h.child hp hn s' j]
        by_cases hs' : s' = s
        · subst hs'
          simp [hs, h.length, eq_comm]
        · simp [hs']
      · rw [if_neg hi] at hm
        rw [h.child hold hm s' j, getElem?_concat_eq_some]
        refine ⟨.inl, fun hj => hj.resolve_right ?_⟩
        rintro ⟨-, heq⟩
        obtain ⟨rfl, -⟩ := List.append_inj' heq rfl
        exact hi (h.inj hold hp)
    · -- nothing is spelled below the new node, else it would not be new
      rw [if_pos h.length] at hm
      obtain rfl := Option.some.inj hm
      rw [Node.child?_bare]
      refine ⟨fun hj => (nomatch hj), fun hj => ?_⟩
      rcases getElem?_concat_eq_some.1 hj with hj | ⟨-, heq⟩
      · exact absurd (h.mem_of_isPrefix (List.mem_of_getElem? hj) (List.prefix_append _ _)) hnew
      · simpa using congrArg List.length heq

end MetricCheck
