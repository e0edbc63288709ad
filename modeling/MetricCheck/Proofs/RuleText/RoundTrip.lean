-- Writing rules and reading them back. Every rule is written, but some as lines that
-- mean something else or nothing; here it is which rules come back.
import MetricCheck.Proofs.Binary64.Text
import MetricCheck.Proofs.RuleText.Image

namespace MetricCheck

open Text

/-- The path can be one in rule text, and the bounds are written as numerals. -/
structure Rule.IsWritable (r : Rule) : Prop where
  path : IsPath r.path.toList
  bounds : ∀ c ∈ r.constraints, c.bound.isFinite = true

/-- What the line of a rule has after the path. -/
def Rule.afterPath (r : Rule) : List Char :=
  if r.constraints.isEmpty then []
  else '\t' :: (", ".intercalate (r.constraints.map Constraint.text)).toList

/-! ## Lines of rules -/

theorem Rule.toList_line (r : Rule) :
    r.line.toList = r.mark.toList ++ (r.path.toList ++ r.afterPath) := by
  rw [line, afterPath]
  by_cases h : r.constraints.isEmpty = true
  · rw [if_pos h, if_pos h]
    simp
  · rw [if_neg h, if_neg h]
    simp

theorem Rule.head?_afterPath (r : Rule) : ∀ c ∈ r.afterPath.head?, isBlank c = true := by
  rw [afterPath]
  split
  · simp
  · intro c hc
    obtain rfl : '\t' = c := by simpa using hc
    rfl

theorem Rule.beforePath_mark (r : Rule) : BeforePath r.mark.toList r.required := by
  rw [mark]
  cases r.required with
  | false => exact .optional .nil
  | true => exact .required

theorem renderRules_cons (r : Rule) (rules : List Rule) :
    renderRules (r :: rules) = r.line ++ "\n" ++ renderRules rules := by
  rw [renderRules, List.map_cons, String.join_cons]
  rfl

theorem renderRules_nil : renderRules [] = "" := String.join_nil

/-! ## What comes back -/

theorem Constraint.constraintText {c : Constraint} (h : c.bound.isFinite = true) :
    ConstraintText c.text.toList c := by
  obtain ⟨hnumber, hread⟩ := Binary64.read_text h
  have htext := @ConstraintText.mk c.op [] _ _ .nil hnumber hread
  rw [text, String.toList_append, Operator.toList_text]
  simpa using htext

theorem constraintsText_of_finite {constraint : Constraint} {others : List Constraint}
    (h : ∀ c ∈ constraint :: others, c.bound.isFinite = true) :
    ConstraintsText (", ".intercalate ((constraint :: others).map Constraint.text)).toList
      (constraint :: others) := by
  induction others generalizing constraint with
  | nil => exact .last (Constraint.constraintText (h _ List.mem_cons_self))
  | cons next others ih =>
    obtain ⟨hfirst, hlater⟩ := List.forall_mem_cons.1 h
    have hblank : InlineBlanks [' '] := .cons (by decide) .nil
    have htext := ConstraintsText.more (Constraint.constraintText hfirst) .nil hblank (ih hlater)
    simpa using htext

/-- The line of a writable rule derives the rule. -/
theorem Rule.IsWritable.ruleLine {r : Rule} (h : r.IsWritable) : RuleLine r.line.toList r := by
  have hafter : AfterPath r.afterPath r.constraints := by
    rw [Rule.afterPath]
    cases hconstraints : r.constraints with
    | nil => exact .nothing
    | cons constraint others =>
      have hbounds := h.bounds
      rw [hconstraints] at hbounds
      have htext := constraintsText_of_finite hbounds
      have hblank : InlineBlanks ['\t'] := .cons (by decide) .nil
      have hafter := AfterPath.constrained (by simp) hblank htext .nil .none
      simpa using hafter
  have hline := RuleLine.mk .nil r.beforePath_mark h.path hafter
  rw [r.toList_line]
  simpa using hline

/-! ## Characters of lines -/

theorem mem_intercalate_of_mem {sep t : String} {texts : List String} (ht : t ∈ texts) {d : Char}
    (hd : d ∈ t.toList) : d ∈ (sep.intercalate texts).toList := by
  induction texts with
  | nil => cases ht
  | cons first texts ih =>
    cases texts with
    | nil =>
      obtain rfl := List.mem_singleton.1 ht
      rw [String.intercalate_singleton]
      exact hd
    | cons next texts =>
      rw [String.intercalate_cons_cons, String.toList_append, String.toList_append]
      rcases List.mem_cons.1 ht with rfl | ht
      · exact List.mem_append_left _ (List.mem_append_left _ hd)
      · exact List.mem_append_right _ (ih ht)

theorem mem_of_mem_intercalate {sep : String} {texts : List String} {d : Char}
    (hd : d ∈ (sep.intercalate texts).toList) :
    d ∈ sep.toList ∨ ∃ t ∈ texts, d ∈ t.toList := by
  induction texts with
  | nil =>
    rw [String.intercalate_nil] at hd
    cases hd
  | cons first texts ih =>
    cases texts with
    | nil =>
      rw [String.intercalate_singleton] at hd
      exact .inr ⟨first, List.mem_singleton_self first, hd⟩
    | cons next texts =>
      rw [String.intercalate_cons_cons, String.toList_append, String.toList_append] at hd
      rcases List.mem_append.1 hd with hd | hd
      · rcases List.mem_append.1 hd with hd | hd
        · exact .inr ⟨first, List.mem_cons_self, hd⟩
        · exact .inl hd
      · rcases ih hd with hd | ⟨t, ht, hd⟩
        · exact .inl hd
        · exact .inr ⟨t, List.mem_cons_of_mem _ ht, hd⟩

/-- A number is written in numerals, or as a word of letters. -/
theorem Binary64.mem_text {x : Binary64} {d : Char} (hd : d ∈ x.text.toList) :
    Cursor.isNumeral d = true ∨ d ∈ "Nainf".toList := by
  cases x with
  | nan =>
    have hword : "NaN".toList ⊆ "Nainf".toList := by decide
    exact .inr (hword hd)
  | infinite negative =>
    rw [text, String.toList_ofList] at hd
    rcases List.mem_append.1 hd with hd | hd
    · cases negative with
      | false => cases hd
      | true =>
        obtain rfl := List.mem_singleton.1 hd
        exact .inl rfl
    · have hword : "inf".toList ⊆ "Nainf".toList := by decide
      exact .inr (hword hd)
  | finite negative rank =>
    have hfinite : (Binary64.finite negative rank).isFinite = true := rfl
    exact .inl ((read_text hfinite).1.isNumeral d hd)

/-- A constraint is written in numerals, words and operators. -/
theorem Constraint.mem_text {c : Constraint} {d : Char} (hd : d ∈ c.text.toList) :
    Cursor.isNumeral d = true ∨ d ∈ "<=>Nainf".toList := by
  rw [text, String.toList_append, Operator.toList_text] at hd
  rcases List.mem_append.1 hd with hd | hd
  · have hop : c.op.chars ⊆ "<=>Nainf".toList := by cases c.op <;> decide
    exact .inr (hop hd)
  · have hwords : "Nainf".toList ⊆ "<=>Nainf".toList := by decide
    exact (Binary64.mem_text hd).imp_right fun hword => hwords hword

theorem mem_constraintTexts {sep : String} {constraints : List Constraint} {d : Char}
    (hd : d ∈ (sep.intercalate (constraints.map Constraint.text)).toList) :
    Cursor.isNumeral d = true ∨ d ∈ sep.toList ++ "<=>Nainf".toList := by
  rw [List.mem_append]
  rcases mem_of_mem_intercalate hd with hd | ⟨t, ht, hd⟩
  · exact .inr (.inl hd)
  · obtain ⟨c, -, rfl⟩ := List.mem_map.1 ht
    exact (Constraint.mem_text hd).imp_right .inr

/-- After a path stand numerals, words, operators, commas and blanks. -/
theorem Rule.mem_afterPath {r : Rule} {d : Char} (hd : d ∈ r.afterPath) :
    Cursor.isNumeral d = true ∨ d ∈ "\t, <=>Nainf".toList := by
  rw [afterPath] at hd
  split at hd
  · cases hd
  rcases List.mem_cons.1 hd with rfl | hd
  · exact .inr (by decide)
  have hwords : ", ".toList ++ "<=>Nainf".toList ⊆ "\t, <=>Nainf".toList := by decide
  exact (mem_constraintTexts hd).imp_right fun hword => hwords hword

theorem not_isNumeral_or_mem {d : Char} {others : List Char} (hnumeral : Cursor.isNumeral d = false)
    (hd : d ∉ others) : ¬ (Cursor.isNumeral d = true ∨ d ∈ others) := by
  rw [hnumeral]
  simpa using hd

theorem Rule.not_mem_afterPath {r : Rule} {d : Char} (hnumeral : Cursor.isNumeral d = false)
    (hd : d ∉ "\t, <=>Nainf".toList) : d ∉ r.afterPath :=
  fun hmem => not_isNumeral_or_mem hnumeral hd (r.mem_afterPath hmem)

/-- The line of a rule with a good path is one line. -/
theorem Rule.not_mem_line {r : Rule} (hpath : IsPath r.path.toList) : '\n' ∉ r.line.toList := by
  rw [r.toList_line]
  intro hmem
  rcases List.mem_append.1 hmem with hmem | hmem
  · rw [mark] at hmem
    split at hmem
    · cases hmem
    · cases List.mem_singleton.1 hmem
  rcases List.mem_append.1 hmem with hmem | hmem
  · have hblank := hpath.noBlank '\n' hmem
    cases hblank
  · exact not_mem_afterPath (by decide) (by decide) hmem

/-! ## Words are no bounds -/

/-- A character that has no place after a path outside of comments. -/
structure IsStranger (d : Char) : Prop where
  noBlank : isBlank d = false
  noNumeral : Cursor.isNumeral d = false
  noMark : d ∉ ['<', '>', '=', ',']

theorem InlineBlanks.not_mem {bs : List Char} (hb : InlineBlanks bs) {d : Char}
    (hd : IsStranger d) : d ∉ bs := by
  intro hmem
  have hblank := hd.noBlank
  rw [isBlank_of_isInlineBlank (hb d hmem)] at hblank
  cases hblank

theorem ConstraintText.not_mem {text : List Char} {constraint : Constraint}
    (h : ConstraintText text constraint) {d : Char} (hd : IsStranger d) : d ∉ text := by
  cases h with
  | @mk op bs numeral bound hb hnumber =>
    have hop : op.chars ⊆ ['<', '>', '=', ','] := by cases op <;> decide
    intro hmem
    rcases List.mem_append.1 hmem with hmem | hmem
    · rcases List.mem_append.1 hmem with hmem | hmem
      · exact hd.noMark (hop hmem)
      · exact hb.not_mem hd hmem
    · have hnumeral := hd.noNumeral
      rw [hnumber.isNumeral d hmem] at hnumeral
      cases hnumeral

theorem ConstraintsText.not_mem {text : List Char} {constraints : List Constraint}
    (h : ConstraintsText text constraints) {d : Char} (hd : IsStranger d) : d ∉ text := by
  induction h with
  | last h => exact h.not_mem hd
  | more h hbefore hafter _ ih =>
    have hcomma : d ≠ ',' := fun heq => hd.noMark (by simp [heq])
    simp only [List.mem_append, List.mem_cons, not_or]
    exact ⟨⟨h.not_mem hd, hbefore.not_mem hd⟩, hcomma, hafter.not_mem hd, ih⟩

theorem AfterPath.not_mem {after : List Char} {constraints : List Constraint}
    (h : AfterPath after constraints) (hslash : '/' ∉ after) {d : Char} (hd : IsStranger d) :
    d ∉ after := by
  cases h with
  | nothing => exact List.not_mem_nil
  | bare hne hb hnote =>
    cases hnote with
    | none =>
      rw [List.append_nil]
      exact hb.not_mem hd
    | comment note => exact absurd (by simp) hslash
  | constrained hne hb ht hbefore hnote =>
    cases hnote with
    | none =>
      simp only [List.mem_append, List.not_mem_nil, or_false, not_or]
      exact ⟨hb.not_mem hd, ht.not_mem hd, hbefore.not_mem hd⟩
    | comment note => exact absurd (by simp) hslash

/-- Numbers that are not finite are written as words. -/
theorem Binary64.exists_stranger {x : Binary64} (h : ¬ x.isFinite = true) :
    ∃ d ∈ x.text.toList, IsStranger d := by
  cases x with
  | nan => exact ⟨'N', by decide, ⟨by decide, by decide, by decide⟩⟩
  | infinite negative =>
    refine ⟨'n', ?_, ⟨by decide, by decide, by decide⟩⟩
    rw [text, String.toList_ofList]
    exact List.mem_append_right _ (by decide)
  | finite negative rank => exact absurd rfl h

/-- What can be read after the path of a rule has finite bounds. -/
theorem Rule.isFinite_of_afterPath {r : Rule} {found : List Constraint}
    (h : AfterPath r.afterPath found) : ∀ c ∈ r.constraints, c.bound.isFinite = true := by
  intro c hc
  by_contra hfinite
  obtain ⟨d, hd, hstranger⟩ := Binary64.exists_stranger hfinite
  have htext : d ∈ c.text.toList := by
    rw [Constraint.text, String.toList_append]
    exact List.mem_append_right _ hd
  have hmem : d ∈ r.afterPath := by
    rw [afterPath]
    cases hconstraints : r.constraints with
    | nil =>
      rw [hconstraints] at hc
      cases hc
    | cons constraint others =>
      rw [hconstraints] at hc
      exact List.mem_cons_of_mem _ (mem_intercalate_of_mem (List.mem_map_of_mem hc) htext)
  exact h.not_mem (not_mem_afterPath (by decide) (by decide)) hstranger hmem

/-! ## What a line must be -/

/-- What is read of a line that begins with a mark and a path is read after that path. -/
theorem afterPath_of_parseRules {text : String} {mark path after : List Char} {required : Bool}
    (htext : text.toList = mark ++ (path ++ after)) (hmark : BeforePath mark required)
    (hpath : IsPath path) (hafter : ∀ c ∈ after.head?, isBlank c = true)
    (hline : '\n' ∉ text.toList) {rules : List Rule} (h : parseRules text = .ok rules) :
    ∃ found, AfterPath after found := by
  have hafterLine : '\n' ∉ after := fun hmem => hline (by simp [htext, hmem])
  obtain ⟨t, rest, ht, hfirst, hrule⟩ := hmark.reads hpath hafter
  rw [← htext] at hfirst
  rcases line_of_parseRules hline h with ⟨-, hempty⟩ | ⟨rule, -, hruleLine⟩
  · exact absurd (hfirst.unique (hempty.reads hline)).1 ht
  · obtain ⟨t', rest', -, hreads', hrule'⟩ := ruleFrom_complete hruleLine hline
    obtain ⟨rfl, rfl⟩ := hfirst.unique hreads'
    have hruleAt := (hrule 1).symm.trans (hrule' 1)
    obtain ⟨found, -, hafter⟩ := ruleAt_text_sound hruleAt hafterLine hafter
    exact ⟨found, hafter⟩

theorem isPath_of_parseRules {text : String} {rules : List Rule}
    (h : parseRules text = .ok rules) : ∀ r ∈ rules, IsPath r.path.toList := fun r hr =>
  (isReadable_of_parseRules h r hr).path

/-! ## The round trip -/

theorem isEqv_self {α : Type} {same : α → α → Bool} {xs : List α}
    (h : ∀ x ∈ xs, same x x = true) : xs.isEqv xs same = true := by
  induction xs with
  | nil => rfl
  | cons x xs ih =>
    obtain ⟨hx, hxs⟩ := List.forall_mem_cons.1 h
    rw [List.isEqv_cons_cons, hx, ih hxs]
    rfl

theorem Rule.same_self {r : Rule} (h : r.IsWritable) : r.same r = true := by
  have hconstraints : r.constraints.isEqv r.constraints Constraint.same = true := by
    refine isEqv_self fun c hc => ?_
    have hnan : c.bound ≠ .nan := fun hnan => by
      have hfinite := h.bounds c hc
      rw [hnan] at hfinite
      cases hfinite
    rw [Constraint.same, Binary64.sameNumber_self hnan, decide_eq_true rfl]
    rfl
  rw [same, hconstraints, decide_eq_true rfl, decide_eq_true rfl]
  rfl

/-- What stands in the second of two lists that agree has its counterpart in the first. -/
theorem exists_same_of_isEqv {α : Type} {same : α → α → Bool} {xs ys : List α}
    (h : xs.isEqv ys same = true) {y : α} (hy : y ∈ ys) : ∃ x ∈ xs, same x y = true := by
  induction ys generalizing xs with
  | nil => cases hy
  | cons first ys ih =>
    cases xs with
    | nil => cases h
    | cons first' xs =>
      rw [List.isEqv_cons_cons, Bool.and_eq_true] at h
      obtain ⟨hfirst, hlater⟩ := h
      rcases List.mem_cons.1 hy with rfl | hy
      · exact ⟨first', List.mem_cons_self, hfirst⟩
      · obtain ⟨x, hx, hsame⟩ := ih hlater hy
        exact ⟨x, List.mem_cons_of_mem _ hx, hsame⟩

theorem exists_path_of_sameRules {a b : List Rule} (h : sameRules a b = true) {r : Rule}
    (hr : r ∈ b) : ∃ r' ∈ a, r'.path = r.path := by
  obtain ⟨r', hr', hsame⟩ := exists_same_of_isEqv h hr
  rw [Rule.same, Bool.and_eq_true, Bool.and_eq_true] at hsame
  exact ⟨r', hr', of_decide_eq_true hsame.1.1⟩

/-- Writable rules come back as they are. -/
theorem parseRules_renderRules {rules : List Rule} (h : ∀ r ∈ rules, r.IsWritable) :
    parseRules (renderRules rules) = .ok rules := by
  induction rules with
  | nil =>
    rw [renderRules_nil]
    exact parseRules_empty
  | cons r rules ih =>
    obtain ⟨hr, hrules⟩ := List.forall_mem_cons.1 h
    have hline := parseRules_of_ruleLine hr.ruleLine (Rule.not_mem_line hr.path)
    rw [renderRules_cons, parseRules_append, hline, ih hrules]
    rfl

/-- Where all paths are good and the text can be read, all bounds are finite. -/
theorem isFinite_of_parseRules {rules back : List Rule} (hpaths : ∀ r ∈ rules, IsPath r.path.toList)
    (h : parseRules (renderRules rules) = .ok back) :
    ∀ r ∈ rules, ∀ c ∈ r.constraints, c.bound.isFinite = true := by
  induction rules generalizing back with
  | nil => simp
  | cons r rules ih =>
    obtain ⟨hpath, hpaths⟩ := List.forall_mem_cons.1 hpaths
    rw [renderRules_cons, parseRules_append] at h
    cases hline : parseRules r.line with
    | error e => simp only [hline, reduceCtorEq] at h
    | ok first =>
      cases hlater : parseRules (renderRules rules) with
      | error e => simp only [hline, hlater, reduceCtorEq] at h
      | ok later =>
        obtain ⟨found, hafter⟩ := afterPath_of_parseRules r.toList_line r.beforePath_mark hpath
          r.head?_afterPath (Rule.not_mem_line hpath) hline
        exact List.forall_mem_cons.2 ⟨Rule.isFinite_of_afterPath hafter, ih hpaths hlater⟩

/-- Rules come back from their text, bounds compared as numbers, exactly when each has
a path that can be one in rule text and finite bounds. -/
theorem writable_rules_come_back (rules : List Rule) :
    (∃ back, parseRules (renderRules rules) = .ok back ∧ sameRules back rules = true) ↔
      ∀ r ∈ rules, r.IsWritable := by
  constructor
  · rintro ⟨back, hback, hsame⟩ r hr
    have hpaths : ∀ r ∈ rules, IsPath r.path.toList := by
      intro r hr
      obtain ⟨r', hr', hpath⟩ := exists_path_of_sameRules hsame hr
      rw [← hpath]
      exact isPath_of_parseRules hback r' hr'
    exact ⟨hpaths r hr, isFinite_of_parseRules hpaths hback r hr⟩
  · intro h
    exact ⟨rules, parseRules_renderRules h, isEqv_self fun r hr => Rule.same_self (h r hr)⟩

end MetricCheck
