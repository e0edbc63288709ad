-- What the rules say of metrics, said without a trie. A path is resolved over the
-- prefixes of all patterns, and the pattern it resolves to decides everything.
import MetricCheck.Violation

namespace MetricCheck

variable (rules : List Rule)

/-- Some pattern begins with these stems. -/
def BeginsPattern (stems : List Stem) : Prop := ∃ r ∈ rules, stems <+: r.pattern

instance (stems : List Stem) : Decidable (BeginsPattern rules stems) :=
  inferInstanceAs (Decidable (∃ r ∈ rules, stems <+: r.pattern))

/-- Goes on from the stems found so far: by the path's own stem where a pattern has
it, else by the wildcard where a pattern has that, else nowhere. -/
def resolveFrom (found : List Stem) : List String → Option (List Stem)
  | [] => some found
  | stem :: stems =>
    if BeginsPattern rules (found ++ [.literal stem]) then
      resolveFrom (found ++ [.literal stem]) stems
    else if BeginsPattern rules (found ++ [.wildcard]) then
      resolveFrom (found ++ [.wildcard]) stems
    else none

/-- The stems of patterns that a path stands for. -/
def resolve (path : String) : Option (List Stem) := resolveFrom rules [] (pathStems path)

/-- The rules with a pattern, in order. -/
def rulesWith (pattern : List Stem) : List Rule := rules.filter fun r => r.pattern = pattern

/-- The violations of one metric: it is unexpected where no rule has the pattern it
resolves to; else some rule there accepts its value, or each of them refuses it. -/
def violationsOf (m : Metric) : List Violation :=
  match (resolve rules m.path).map (rulesWith rules) with
  | none => [.unexpected m]
  | some [] => [.unexpected m]
  | some there =>
    if there.any fun r => r.accepts m.value then [] else there.map fun r => .outOfRange r m

/-- A rule with this pattern is required, and no metric resolves to the pattern. -/
def IsUnmet (metrics : List Metric) (pattern : List Stem) : Prop :=
  (∃ r ∈ rules, r.pattern = pattern ∧ r.required = true) ∧
    ∀ m ∈ metrics, resolve rules m.path ≠ some pattern

instance (metrics : List Metric) (pattern : List Stem) :
    Decidable (IsUnmet rules metrics pattern) :=
  inferInstanceAs (Decidable (_ ∧ _))

/-! ## Prefixes of patterns -/

variable {rules}

theorem beginsPattern_append_singleton {r : Rule} {stems : List Stem} :
    BeginsPattern (rules ++ [r]) stems ↔ BeginsPattern rules stems ∨ stems <+: r.pattern := by
  simp [BeginsPattern, or_and_right, exists_or]

theorem beginsPattern_of_mem {r : Rule} (h : r ∈ rules) : BeginsPattern rules r.pattern :=
  ⟨r, h, List.prefix_refl _⟩

/-! ## The rules with a pattern -/

theorem mem_rulesWith {r : Rule} {p : List Stem} :
    r ∈ rulesWith rules p ↔ r ∈ rules ∧ r.pattern = p := by
  simp [rulesWith]

theorem rulesWith_ne_nil {r : Rule} (h : r ∈ rules) : rulesWith rules r.pattern ≠ [] :=
  List.ne_nil_of_mem (mem_rulesWith.2 ⟨h, rfl⟩)

/-! ## The violations of one metric -/

theorem violationsOf_of_eq_none {m : Metric} (h : resolve rules m.path = none) :
    violationsOf rules m = [.unexpected m] := by
  rw [violationsOf, h]
  rfl

/-- Only the pattern that the path resolves to and the rules with it count. -/
theorem violationsOf_congr {rules' : List Rule} {m : Metric}
    (hresolve : resolve rules m.path = resolve rules' m.path)
    (hthere : ∀ p, resolve rules m.path = some p → rulesWith rules p = rulesWith rules' p) :
    violationsOf rules m = violationsOf rules' m := by
  unfold violationsOf
  rw [← hresolve]
  cases hp : resolve rules m.path with
  | none => rfl
  | some p => rw [Option.map_some, Option.map_some, hthere p hp]

/-- The rules with the pattern that a path resolves to decide what is said of the metric. -/
theorem violationsOf_of_eq_some {m : Metric} {p : List Stem} (h : resolve rules m.path = some p) :
    violationsOf rules m =
      if rulesWith rules p = [] then [.unexpected m]
      else if (rulesWith rules p).any fun r => r.accepts m.value then []
      else (rulesWith rules p).map fun r => .outOfRange r m := by
  rw [violationsOf, h, Option.map_some]
  cases rulesWith rules p with
  | nil => rfl
  | cons r there =>
    rw [if_neg (List.cons_ne_nil r there)]

/-- A metric is unexpected, or rules with one pattern tell what there is to say of it. -/
theorem violationsOf_cases (rules : List Rule) (m : Metric) :
    ((∀ p, resolve rules m.path = some p → rulesWith rules p = []) ∧
      violationsOf rules m = [.unexpected m]) ∨
    ∃ p, resolve rules m.path = some p ∧ rulesWith rules p ≠ [] ∧
      violationsOf rules m =
        if (rulesWith rules p).any fun r => r.accepts m.value then []
        else (rulesWith rules p).map fun r => .outOfRange r m := by
  cases hp : resolve rules m.path with
  | none =>
    left
    refine ⟨fun p hsome => ?_, violationsOf_of_eq_none hp⟩
    cases hsome
  | some p =>
    by_cases hnil : rulesWith rules p = []
    · left
      rw [violationsOf_of_eq_some hp, if_pos hnil]
      refine ⟨fun q hq => ?_, rfl⟩
      obtain rfl := Option.some.inj hq
      exact hnil
    · right
      rw [violationsOf_of_eq_some hp, if_neg hnil]
      exact ⟨p, rfl, hnil, rfl⟩

end MetricCheck
