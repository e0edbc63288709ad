-- What comes out of rule text. Every rule that is read is derived by one of the lines,
-- so its path is one of rule text, and its bounds, which are written in digits, are
-- never NaN.
import MetricCheck.Proofs.RuleText.Lines

namespace MetricCheck

open Text

/-- The path is one of rule text, and every bound stands somewhere in the order. -/
structure Rule.IsReadable (r : Rule) : Prop where
  path : IsPath r.path.toList
  bounds : ∀ c ∈ r.constraints, c.bound ≠ .nan

/-! ## Bounds -/

theorem Binary64.ofRank_ne_nan (negative : Bool) (rank : Nat) : ofRank negative rank ≠ .nan := by
  unfold ofRank
  split <;> simp

theorem Decimal.nearest_ne_nan (negative : Bool) (d : Decimal) : d.nearest negative ≠ .nan := by
  unfold nearest
  split
  · simp [Binary64.zero]
  split
  · simp
  split
  · simp [Binary64.zero]
  split
  · exact Binary64.ofRank_ne_nan _ _
  · exact Binary64.ofRank_ne_nan _ _

/-- Digits denote a decimal, and that has a nearest number. -/
theorem Binary64.read_ne_nan {cs : List Char} (h : IsNumber cs) : read cs ≠ some .nan := by
  intro hread
  cases h with
  | plain hmagnitude =>
    rw [read_plain hmagnitude, Option.map_eq_some_iff] at hread
    obtain ⟨d, -, hd⟩ := hread
    exact d.nearest_ne_nan false hd
  | minus hmagnitude =>
    rw [read_minus hmagnitude, Option.map_eq_some_iff] at hread
    obtain ⟨d, -, hd⟩ := hread
    exact d.nearest_ne_nan true hd

/-! ## Lines -/

theorem ConstraintText.bound_ne_nan {text : List Char} {c : Constraint}
    (h : ConstraintText text c) : c.bound ≠ .nan := by
  cases h with
  | mk hb hnumber hbound =>
    rintro rfl
    exact Binary64.read_ne_nan hnumber hbound

theorem ConstraintsText.bound_ne_nan {text : List Char} {constraints : List Constraint}
    (h : ConstraintsText text constraints) : ∀ c ∈ constraints, c.bound ≠ .nan := by
  induction h with
  | last h => exact List.forall_mem_singleton.2 h.bound_ne_nan
  | more h _ _ _ ih => exact List.forall_mem_cons.2 ⟨h.bound_ne_nan, ih⟩

theorem AfterPath.bound_ne_nan {after : List Char} {constraints : List Constraint}
    (h : AfterPath after constraints) : ∀ c ∈ constraints, c.bound ≠ .nan := by
  cases h with
  | nothing => exact List.forall_mem_nil _
  | bare => exact List.forall_mem_nil _
  | constrained _ _ ht => exact ht.bound_ne_nan

theorem RuleLine.isReadable {line : List Char} {r : Rule} (h : RuleLine line r) :
    r.IsReadable := by
  cases h with
  | mk _ _ hpath hafter =>
    refine ⟨?_, hafter.bound_ne_nan⟩
    rw [String.toList_ofList]
    exact hpath

/-! ## Texts -/

theorem ruleLine_of_parseRules {line : String} {rules : List Rule} (hline : '\n' ∉ line.toList)
    (h : parseRules line = .ok rules) : ∀ r ∈ rules, RuleLine line.toList r := by
  rcases line_of_parseRules hline h with ⟨rfl, -⟩ | ⟨rule, rfl, hrule⟩
  · exact List.forall_mem_nil _
  · exact List.forall_mem_singleton.2 hrule

/-- Every rule of a text is derived by one of the lines of the text. -/
theorem exists_ruleLine_of_parseRules {text : String} {rules : List Rule}
    (h : parseRules text = .ok rules) :
    ∀ r ∈ rules, ∃ line ∈ lines text.toList, RuleLine line r := by
  induction text using line_induction generalizing rules with
  | line text hline =>
    intro r hr
    rw [lines_of_line hline]
    exact ⟨text.toList, List.mem_singleton_self _, ruleLine_of_parseRules hline h r hr⟩
  | append a b ha ih =>
    intro r hr
    rw [parseRules_append] at h
    cases hfirst : parseRules a with
    | error e => simp only [hfirst, reduceCtorEq] at h
    | ok first =>
      cases hlater : parseRules b with
      | error e => simp only [hfirst, hlater, reduceCtorEq] at h
      | ok later =>
        simp only [hfirst, hlater, Except.ok.injEq] at h
        rw [lines_append ha]
        rcases List.mem_append.1 (h ▸ hr) with hr | hr
        · exact ⟨a.toList, List.mem_cons_self, ruleLine_of_parseRules ha hfirst r hr⟩
        · obtain ⟨line, hmem, hrule⟩ := ih hlater r hr
          exact ⟨line, List.mem_cons_of_mem _ hmem, hrule⟩

theorem isReadable_of_parseRules {text : String} {rules : List Rule}
    (h : parseRules text = .ok rules) : ∀ r ∈ rules, r.IsReadable := by
  intro r hr
  obtain ⟨line, -, hline⟩ := exists_ruleLine_of_parseRules h r hr
  exact hline.isReadable

/-- A text with one rule is read as the list of that rule. -/
theorem parseRules_of_parseRule {text : String} {rule : Rule} (h : parseRule text = .ok rule) :
    parseRules text = .ok [rule] := by
  unfold parseRule at h
  split at h
  · cases h
  · cases h
  · rename_i located c hfirst
    split at h
    · cases h
    · rename_i c' hsecond
      cases h
      rw [parseRules, RuleReading.ofText, RuleReading.fromCursor_eq, hfirst]
      dsimp only
      rw [RuleReading.fromCursor_eq, hsecond]
      rfl
    · cases h

end MetricCheck
