-- One more rule at the end of the list. The trie keeps its nodes and edges, so the walk of
-- a path turns off only onto an edge of the rule's own pattern that no pattern had before,
-- and only where it had taken the wildcard or had failed.
import MetricCheck.Proofs.Matching
import MetricCheck.Proofs.Trie.Invariant

namespace MetricCheck

/-! ## The choices of a walk -/

namespace Trie

/-- The child that a metric's stem leads to, and the stem of a pattern that leads there. -/
def choice? (t : Trie) (id : NodeId) (stem : String) : Option (Stem × NodeId) :=
  ((t.child? id (.literal stem)).map (.literal stem, ·)).or
    ((t.child? id .wildcard).map (.wildcard, ·))

/-- What a walk chooses for one stem after the other, until it ends or fails. -/
def choices (t : Trie) (id : NodeId) : List String → List Stem
  | [] => []
  | stem :: stems =>
    match t.choice? id stem with
    | some (s, child) => s :: t.choices child stems
    | none => []

/-- What the walk of a metric's path chooses. -/
def route (t : Trie) (path : String) : List Stem := t.choices root (pathStems path)

/-- Every node of the one trie is a node of the other, with the same children and perhaps
more. -/
def Extends (t t' : Trie) : Prop :=
  ∀ id n, t.node? id = some n → ∃ n', t'.node? id = some n' ∧
    ∀ s child, n.child? s = some child → n'.child? s = some child

variable {t : Trie} {id child : NodeId} {stem : String} {s : Stem}

theorem choice?_of_literal (h : t.child? id (.literal stem) = some child) :
    t.choice? id stem = some (.literal stem, child) := by
  rw [choice?, h, Option.map_some, Option.some_or]

theorem choice?_of_no_literal (h : t.child? id (.literal stem) = none) :
    t.choice? id stem = (t.child? id .wildcard).map (.wildcard, ·) := by
  rw [choice?, h, Option.map_none, Option.none_or]

theorem child?_of_choice? (h : t.choice? id stem = some (s, child)) :
    t.child? id s = some child := by
  cases hl : t.child? id (.literal stem) with
  | some c =>
    rw [choice?_of_literal hl] at h
    cases h
    exact hl
  | none =>
    rw [choice?_of_no_literal hl] at h
    obtain ⟨c, hw, heq⟩ := Option.map_eq_some_iff.1 h
    cases heq
    exact hw

/-- A walk steps to what it chooses. -/
theorem walk_cons (t : Trie) (id : NodeId) (stem : String) (stems : List String) :
    t.walk id (stem :: stems) = (t.choice? id stem).bind fun c => t.walk c.2 stems := by
  have hstep : ((t.node? id).bind fun n => n.step? stem) = (t.choice? id stem).map Prod.snd := by
    unfold choice? child?
    cases t.node? id with
    | none => rfl
    | some n =>
      rw [Option.bind_some, Option.bind_some, Option.bind_some, Node.step?]
      cases n.child? (.literal stem) with
      | some c => rfl
      | none => cases n.child? .wildcard <;> rfl
  rw [walk, hstep]
  cases t.choice? id stem <;> rfl

/-- A walk comes down along its choices, and where it has made one for each stem it ends. -/
theorem walk_eq_choices (t : Trie) (id : NodeId) (stems : List String) :
    t.walk id stems =
      if (t.choices id stems).length = stems.length then t.descend id (t.choices id stems)
      else none := by
  induction stems generalizing id with
  | nil => rfl
  | cons stem stems ih =>
    rw [walk_cons, choices]
    cases hc : t.choice? id stem with
    | none => rfl
    | some c =>
      obtain ⟨s, child⟩ := c
      rw [Option.bind_some, ih]
      simp only [List.length_cons, Nat.add_right_cancel_iff, descend, child?_of_choice? hc]

theorem lookup_eq_route (t : Trie) (path : String) :
    t.lookup path =
      if (t.route path).length = (pathStems path).length then t.nodeAt (t.route path) else none :=
  t.walk_eq_choices root (pathStems path)

end Trie

/-! ## Two walks -/

/-- Two lists of choices for the same stems part after the shared ones. What the second one
chooses then begins the pattern of the rule and no other; the first one took the wildcard
there for a stem that the second one takes as it is, or it had no choice left. All choices
are made from the stems `p` on. -/
structure Diverted (rules : List Rule) (r : Rule) (p : List Stem) (stems : List String)
    (before now shared : List Stem) (s : Stem) : Prop where
  now : shared ++ [s] <+: now
  own : p ++ (shared ++ [s]) <+: r.pattern
  new : ¬ BeginsPattern rules (p ++ (shared ++ [s]))
  before : shared ++ [.wildcard] <+: before ∧ stems[shared.length]?.map .literal = some s ∨
    before = shared ∧ shared.length < stems.length

namespace Diverted

variable {rules : List Rule} {r : Rule} {p : List Stem} {stem : String} {stems : List String}
  {before now shared : List Stem} {s c : Stem}

theorem cons (h : Diverted rules r (p ++ [c]) stems before now shared s) :
    Diverted rules r p (stem :: stems) (c :: before) (c :: now) (c :: shared) s := by
  have hp : p ++ (c :: shared ++ [s]) = p ++ [c] ++ (shared ++ [s]) := by simp
  refine ⟨List.cons_prefix_cons.2 ⟨rfl, h.now⟩, hp ▸ h.own, hp ▸ h.new, ?_⟩
  rcases h.before with ⟨hwildcard, hliteral⟩ | ⟨hend, hlt⟩
  · exact .inl ⟨List.cons_prefix_cons.2 ⟨rfl, hwildcard⟩, hliteral⟩
  · exact .inr ⟨congrArg (c :: ·) hend, Nat.succ_lt_succ hlt⟩

theorem ne (h : Diverted rules r p stems before now shared s) : before ≠ now := by
  rintro rfl
  rcases h.before with ⟨hwildcard, hliteral⟩ | ⟨rfl, -⟩
  · obtain ⟨stem, -, rfl⟩ := Option.map_eq_some_iff.1 hliteral
    have hboth := List.prefix_of_prefix_length_le h.now hwildcard (by simp)
    rw [List.prefix_append_right_inj, List.cons_prefix_cons] at hboth
    cases hboth.1
  · have hlength := h.now.length_le
    rw [List.length_append, List.length_singleton] at hlength
    omega

end Diverted

namespace Represents

variable {t t' : Trie} {rules : List Rule} {r : Rule} {spelled spelled' : List (List Stem)}

section Concat

variable (h : Represents t rules spelled) (h' : Represents t' (rules ++ [r]) spelled')
  (hgrown : spelled <+: spelled') {i c : NodeId} {p : List Stem} (hp : spelled[i]? = some p)
include h h' hgrown hp

/-- An edge stays. -/
theorem child?_of_isPrefix {s : Stem} (hc : t.child? i s = some c) : t'.child? i s = some c := by
  have hchild := (h.spells.child?_eq_some_iff hp s).1 hc
  exact (h'.spells.child?_eq_some_iff (getElem?_of_isPrefix hgrown hp) s).2
    (getElem?_of_isPrefix hgrown hchild)

/-- A new edge belongs to the pattern of the rule and to no other. -/
theorem own_of_child? {s : Stem} (hnone : t.child? i s = none) (hc : t'.child? i s = some c) :
    p ++ [s] <+: r.pattern ∧ ¬ BeginsPattern rules (p ++ [s]) := by
  have hnew : ¬ BeginsPattern rules (p ++ [s]) := by
    intro hbegins
    obtain ⟨j, hj⟩ := List.mem_iff_getElem?.1 ((h.mem _).2 (.inr hbegins))
    rw [(h.spells.child?_eq_some_iff hp s).2 hj] at hnone
    cases hnone
  have hchild := (h'.spells.child?_eq_some_iff (getElem?_of_isPrefix hgrown hp) s).1 hc
  rcases (h'.mem _).1 (List.mem_of_getElem? hchild) with hnil | hbegins
  · simp at hnil
  · exact ⟨(beginsPattern_append_singleton.1 hbegins).resolve_left hnew, hnew⟩

/-- For one stem the two tries choose the same, unless an edge of the rule's own pattern is
new: then the first one chooses the wildcard or nothing. -/
theorem choice?_eq_or_own (stem : String) :
    t.choice? i stem = t'.choice? i stem ∨
      ∃ s c', t'.choice? i stem = some (s, c') ∧ p ++ [s] <+: r.pattern ∧
        ¬ BeginsPattern rules (p ++ [s]) ∧
        (s = .literal stem ∧ (∃ c, t.choice? i stem = some (.wildcard, c)) ∨
          t.choice? i stem = none) := by
  cases hl : t.child? i (.literal stem) with
  | some c =>
    have hl' := child?_of_isPrefix h h' hgrown hp hl
    rw [Trie.choice?_of_literal hl, Trie.choice?_of_literal hl']
    exact .inl rfl
  | none =>
    rw [Trie.choice?_of_no_literal hl]
    cases hl' : t'.child? i (.literal stem) with
    | some c' =>
      obtain ⟨hown, hnew⟩ := own_of_child? h h' hgrown hp hl hl'
      refine .inr ⟨.literal stem, c', Trie.choice?_of_literal hl', hown, hnew, ?_⟩
      cases t.child? i .wildcard with
      | some c => exact .inl ⟨rfl, c, rfl⟩
      | none => exact .inr rfl
    | none =>
      rw [Trie.choice?_of_no_literal hl']
      cases hw : t.child? i .wildcard with
      | some c =>
        rw [child?_of_isPrefix h h' hgrown hp hw]
        exact .inl rfl
      | none =>
        cases hw' : t'.child? i .wildcard with
        | some c' =>
          obtain ⟨hown, hnew⟩ := own_of_child? h h' hgrown hp hw hw'
          exact .inr ⟨.wildcard, c', rfl, hown, hnew, .inr rfl⟩
        | none => exact .inl rfl

/-- Walks in the two tries go together, unless one more edge leads the second one away. -/
theorem walk_eq_or_diverted (stems : List String) :
    t.choices i stems = t'.choices i stems ∧ t.walk i stems = t'.walk i stems ∨
      ∃ shared s, Diverted rules r p stems (t.choices i stems) (t'.choices i stems) shared s := by
  induction stems generalizing i p with
  | nil => exact .inl ⟨rfl, rfl⟩
  | cons stem stems ih =>
    simp only [Trie.choices, Trie.walk_cons]
    rcases choice?_eq_or_own h h' hgrown hp stem with hsame | ⟨s, c', hc', hown, hnew, hbefore⟩
    · rw [← hsame]
      cases hc : t.choice? i stem with
      | none => exact .inl ⟨rfl, rfl⟩
      | some choice =>
        obtain ⟨s, child⟩ := choice
        have hchild := (h.spells.child?_eq_some_iff hp s).1 (Trie.child?_of_choice? hc)
        rcases ih hchild with ⟨hchoices, hwalk⟩ | ⟨shared, s', hdiverted⟩
        · exact .inl ⟨congrArg (s :: ·) hchoices, hwalk⟩
        · exact .inr ⟨s :: shared, s', hdiverted.cons⟩
    · -- the walks part at this stem
      rw [hc']
      refine .inr ⟨[], s, ⟨List.cons_prefix_cons.2 ⟨rfl, List.nil_prefix⟩, hown, hnew, ?_⟩⟩
      rcases hbefore with ⟨rfl, c, hc⟩ | hc
      · rw [hc]
        exact .inl ⟨List.cons_prefix_cons.2 ⟨rfl, List.nil_prefix⟩, rfl⟩
      · rw [hc]
        exact .inr ⟨rfl, Nat.succ_pos _⟩

end Concat

section Concat

variable (h : Represents t rules spelled) (h' : Represents t' (rules ++ [r]) spelled')
  (hgrown : spelled <+: spelled')
include h h' hgrown

theorem extends_of_isPrefix : t.Extends t' := by
  intro id n hn
  obtain ⟨p, hp⟩ := h.spelled_of_node? hn
  obtain ⟨n', hn'⟩ := h'.exists_node (getElem?_of_isPrefix hgrown hp)
  refine ⟨n', hn', fun s child hc => ?_⟩
  have hc' : t.child? id s = some child := by rw [Trie.child?, hn, Option.bind_some, hc]
  have hchild := child?_of_isPrefix h h' hgrown hp hc'
  rwa [Trie.child?, hn', Option.bind_some] at hchild

/-- Paths that end on the same node resolve to the same stems. -/
theorem resolve_eq_of_lookup_eq {path : String} (hlookup : t.lookup path = t'.lookup path) :
    resolve rules path = resolve (rules ++ [r]) path := by
  have hbefore := h.lookup path
  have hnow := h'.lookup path
  rw [← hlookup] at hnow
  cases hi : t.lookup path with
  | none =>
    rw [hi, Option.map_none, eq_comm, Option.map_eq_none_iff] at hbefore hnow
    rw [hbefore, hnow]
  | some i =>
    rw [hi, Option.map_some, eq_comm, Option.map_eq_some_iff] at hbefore hnow
    obtain ⟨p, hp, hspelled⟩ := hbefore
    obtain ⟨p', hp', hspelled'⟩ := hnow
    have hsame := getElem?_of_isPrefix hgrown hspelled.symm
    rw [hp, hp', Option.some.inj (hsame.symm.trans hspelled'.symm)]

/-- The rule says nothing of a metric whose path ends where it did, unless that is the node
of the rule's own pattern. -/
theorem violationsOf_eq_of_lookup_eq {m : Metric} (hlookup : t.lookup m.path = t'.lookup m.path)
    (hother : t'.lookup m.path ≠ t'.nodeAt r.pattern) :
    violationsOf (rules ++ [r]) m = violationsOf rules m := by
  have hresolve := resolve_eq_of_lookup_eq h h' hgrown hlookup
  refine violationsOf_congr hresolve.symm fun p hp => ?_
  have hne : r.pattern ≠ p := by
    rintro rfl
    have hspelled := h'.lookup m.path
    rw [hp, Option.map_some] at hspelled
    obtain ⟨i, hi, hpattern⟩ := Option.map_eq_some_iff.1 hspelled
    exact hother (hi.trans (h'.spells.nodeAt_eq_some_iff.2 hpattern).symm)
  rw [rulesWith_concat, if_neg hne, List.append_nil]

end Concat

end Represents

/-- The trie of one rule more has the nodes of the trie without it in the same places. -/
theorem represents_concat (rules : List Rule) (r : Rule) :
    ∃ spelled spelled', Represents (Trie.ofRules rules) rules spelled ∧
      Represents (Trie.ofRules (rules ++ [r])) (rules ++ [r]) spelled' ∧ spelled <+: spelled' := by
  obtain ⟨spelled, h⟩ := represents_ofRules rules
  obtain ⟨spelled', h', hgrown⟩ := h.insert r
  refine ⟨spelled, spelled', h, ?_, hgrown⟩
  rwa [Trie.ofRules, List.foldl_append]

/-! ## The law -/

/-- One more rule at the end of the list. Where the walk of a path is not what it was, its
first other choice leads to a prefix of the rule's pattern that begins no pattern of the
list, and without the rule the walk took the wildcard there for a stem that it now takes as
it is, or it failed there. Where the walk is what it was, so are the violations of the
metric, unless the walk ends on the node of the rule's own pattern. All nodes and edges stay. -/
theorem one_more_rule_changes_walks_only_along_its_pattern (rules : List Rule) (r : Rule) :
    (∀ path, (Trie.ofRules rules).route path ≠ (Trie.ofRules (rules ++ [r])).route path →
      ∃ shared s, shared ++ [s] <+: (Trie.ofRules (rules ++ [r])).route path ∧
        shared ++ [s] <+: r.pattern ∧ ¬ BeginsPattern rules (shared ++ [s]) ∧
        (shared ++ [.wildcard] <+: (Trie.ofRules rules).route path ∧
            (∃ stem, (pathStems path)[shared.length]? = some stem ∧ s = .literal stem) ∨
          (Trie.ofRules rules).route path = shared ∧
            (Trie.ofRules rules).lookup path = none)) ∧
    (∀ kinds m, (Trie.ofRules rules).route m.path = (Trie.ofRules (rules ++ [r])).route m.path →
      (Trie.ofRules (rules ++ [r])).lookup m.path ≠
        (Trie.ofRules (rules ++ [r])).nodeAt r.pattern →
      ((Matcher.ofRules (rules ++ [r])).judge m).violations kinds m =
        ((Matcher.ofRules rules).judge m).violations kinds m) ∧
    (Trie.ofRules rules).Extends (Trie.ofRules (rules ++ [r])) := by
  obtain ⟨spelled, spelled', h, h', hgrown⟩ := represents_concat rules r
  have hwalk := Represents.walk_eq_or_diverted h h' hgrown h.spells.root
  refine ⟨?_, ?_, Represents.extends_of_isPrefix h h' hgrown⟩
  · intro path hne
    obtain ⟨hsame, -⟩ | ⟨shared, s, hdiverted⟩ := hwalk (pathStems path)
    · exact absurd hsame hne
    · refine ⟨shared, s, hdiverted.now, hdiverted.own, hdiverted.new, ?_⟩
      rcases hdiverted.before with ⟨hwildcard, hliteral⟩ | ⟨hend, hlt⟩
      · obtain ⟨stem, hstem, rfl⟩ := Option.map_eq_some_iff.1 hliteral
        exact .inl ⟨hwildcard, stem, hstem, rfl⟩
      · refine .inr ⟨hend, ?_⟩
        rw [Trie.lookup_eq_route, Trie.route, hend, if_neg (Nat.ne_of_lt hlt)]
  · intro kinds m hsame hother
    obtain ⟨-, hlookup⟩ | ⟨shared, s, hdiverted⟩ := hwalk (pathStems m.path)
    · rw [Verdict.violations_eq_filter, Verdict.violations_eq_filter kinds,
        Matcher.ofRules, Matcher.ofRules, h'.violations_judge, h.violations_judge,
        Represents.violationsOf_eq_of_lookup_eq h h' hgrown hlookup hother]
    · exact absurd hsame hdiverted.ne

/-- For instance, a literal put beside a wildcard: it takes the path with its own stem away
from the wildcard and leaves the others there. -/
theorem one_more_rule_changes_walks_only_along_its_pattern_beside_a_wildcard :
    let rules : List Rule := [⟨"a.*", true, [⟨.lessEqual, .zero false⟩]⟩]
    let r : Rule := ⟨"a.b.c", true, []⟩
    let other : Metric := ⟨"a.x", .infinite false, ⟨0, by decide, by decide⟩⟩
    (∃ shared s, shared ++ [s] <+: (Trie.ofRules (rules ++ [r])).route "a.b" ∧
        shared ++ [s] <+: r.pattern ∧ ¬ BeginsPattern rules (shared ++ [s]) ∧
        (shared ++ [.wildcard] <+: (Trie.ofRules rules).route "a.b" ∧
            (∃ stem, (pathStems "a.b")[shared.length]? = some stem ∧ s = .literal stem) ∨
          (Trie.ofRules rules).route "a.b" = shared ∧
            (Trie.ofRules rules).lookup "a.b" = none)) ∧
      ((Matcher.ofRules (rules ++ [r])).judge other).violations .all other =
        ((Matcher.ofRules rules).judge other).violations .all other ∧
      (Trie.ofRules rules).Extends (Trie.ofRules (rules ++ [r])) := by
  intro rules r other
  have hdiverted :
      (Trie.ofRules rules).route "a.b" ≠ (Trie.ofRules (rules ++ [r])).route "a.b" := by decide
  have hsame :
      (Trie.ofRules rules).route "a.x" = (Trie.ofRules (rules ++ [r])).route "a.x" := by decide
  have hother : (Trie.ofRules (rules ++ [r])).lookup "a.x" ≠
      (Trie.ofRules (rules ++ [r])).nodeAt r.pattern := by decide
  obtain ⟨hwalks, hviolations, hextends⟩ :=
    one_more_rule_changes_walks_only_along_its_pattern rules r
  exact ⟨hwalks "a.b" hdiverted, hviolations .all other hsame hother, hextends⟩

end MetricCheck
