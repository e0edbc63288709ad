-- Rules that were read of a text, written and read again. They come back as they are,
-- unless a numeral of the text was too large for a finite number: its bound is an infinity,
-- and that is written as a word where the reader wants a numeral.
import MetricCheck.Proofs.Binary64.Overflow
import MetricCheck.Proofs.RuleText.RoundTrip

namespace MetricCheck

open Text

/-! ## Words in the place of bounds -/

/-- The constraints of a rule as its line has them. -/
def constraintChars (constraints : List Constraint) : List Char :=
  (", ".intercalate (constraints.map Constraint.text)).toList

/-- What a line has after a constraint. -/
def afterConstraint (later : List Constraint) : List Char :=
  if later.isEmpty then [] else ',' :: ' ' :: constraintChars later

/-- What the reader says of an infinite bound. Of a negative one it takes the sign for the
numeral; else it finds a word, and a comma that stands right after the word belongs to it. -/
def misreadBound (negative last : Bool) : ParseError.Cause :=
  if negative then .invalidNumber "-"
  else .expected .number (Token.text (if last then "inf" else "inf,")).describe

theorem constraintChars_cons (c : Constraint) (later : List Constraint) :
    constraintChars (c :: later) = c.op.chars ++ (c.bound.text.toList ++ afterConstraint later) := by
  cases later <;> simp [constraintChars, afterConstraint, Constraint.text, Operator.toList_text]

theorem number_infinite (negative : Bool) (later : List Constraint) (line : Nat) :
    Cursor.number ⟨(Binary64.infinite negative).text.toList ++ afterConstraint later, line⟩ =
      .error (misreadBound negative later.isEmpty) := by
  cases negative <;> cases later <;> rfl

theorem head?_afterConstraint (later : List Constraint) :
    ∀ c ∈ (afterConstraint later).head?, Cursor.isNumeral c = false := by
  unfold afterConstraint
  split
  · simp
  · intro c hc
    obtain rfl : ',' = c := by simpa using hc
    rfl

/-- The constraints are read up to the first infinite bound. -/
theorem constraints_misread {good : List Constraint} {c : Constraint} {negative : Bool}
    (hgood : ∀ g ∈ good, g.bound.isFinite = true) (hc : c.bound = .infinite negative)
    (later : List Constraint) :
    ∃ op rest, Reads (constraintChars (good ++ c :: later)) (.operator op) rest ∧
      ∀ line, Cursor.constraints (.operator op) ⟨rest, line⟩ =
        .error (misreadBound negative later.isEmpty) := by
  induction good with
  | nil =>
    rw [List.nil_append, constraintChars_cons, hc]
    refine ⟨c.op, _, .operator fun heq => ?_, fun line => ?_⟩
    · cases negative <;> cases heq
    · rw [Cursor.constraints_operator, number_infinite]
  | cons g good ih =>
    obtain ⟨hg, hgood⟩ := List.forall_mem_cons.1 hgood
    obtain ⟨op, rest, hreads, herror⟩ := ih hgood
    obtain ⟨rest', hreads', hnumber⟩ := (Constraint.constraintText hg).reads
      (head?_afterConstraint (good ++ c :: later))
    have hafter : afterConstraint (good ++ c :: later) =
        ',' :: ' ' :: constraintChars (good ++ c :: later) := by
      rw [afterConstraint, if_neg (by simp)]
    refine ⟨g.op, rest', ?_, fun line => ?_⟩
    · have htext : constraintChars (g :: good ++ c :: later) =
          g.text.toList ++ afterConstraint (good ++ c :: later) := by
        rw [List.cons_append, constraintChars_cons, Constraint.text, String.toList_append,
          Operator.toList_text, List.append_assoc]
      rw [htext]
      exact hreads'
    · have hcomma : Cursor.next ⟨afterConstraint (good ++ c :: later), line⟩ =
          .ok (.comma, ⟨' ' :: constraintChars (good ++ c :: later), line⟩) := by
        rw [hafter]
        exact next_of_reads (.comma _) line
      have hnext := next_of_reads (@Reads.blank ' ' _ _ _ (by decide) hreads) line
      dsimp only [Token.newlines, Nat.add_zero] at hnext
      rw [Cursor.constraints_of_comma (hnumber line) hcomma hnext, herror]

/-! ## Lines at fault -/

/-- The line of a rule with a good path is at fault at the first infinite bound. -/
theorem parseRules_line_misread {r : Rule} (hpath : IsPath r.path.toList)
    {good later : List Constraint} {c : Constraint} {negative : Bool}
    (hconstraints : r.constraints = good ++ c :: later)
    (hgood : ∀ g ∈ good, g.bound.isFinite = true) (hc : c.bound = .infinite negative) :
    parseRules r.line = .error ⟨1, misreadBound negative later.isEmpty⟩ := by
  obtain ⟨op, rest, hop, herror⟩ := constraints_misread hgood hc later
  have hafter : r.afterPath = '\t' :: constraintChars (good ++ c :: later) := by
    rw [Rule.afterPath, hconstraints, if_neg (by simp)]
    rfl
  have hruleAt : Cursor.ruleAt r.required (.text (String.ofList r.path.toList)) ⟨r.afterPath, 1⟩ =
      .error (misreadBound negative later.isEmpty) := by
    have hnext := next_of_reads (@Reads.blank '\t' _ _ _ (by decide) hop) 1
    rw [hafter, Cursor.ruleAt_of_constraints hnext (by simp [Token.EndsLine])]
    dsimp only [Token.newlines]
    rw [herror]
  obtain ⟨t, rest, ht, hreads, hrule⟩ := r.beforePath_mark.reads hpath r.head?_afterPath
  rw [← r.toList_line] at hreads
  rw [parseRules, RuleReading.ofText, Cursor.start, RuleReading.fromCursor_eq,
    nextRule_of_reads (Rule.not_mem_line hpath) hreads ht, hrule, hruleAt]
  rfl

/-! ## What comes back of what was read -/

theorem endingWith_misreadBound (ending : Token) (negative last : Bool) :
    (misreadBound negative last).endingWith ending = misreadBound negative last := by
  cases negative <;> rfl

/-- The rules before the one at fault are read, a line for each. -/
theorem parseRules_renderRules_misread {before : List Rule} {r : Rule}
    (hbefore : ∀ b ∈ before, b.IsWritable) (hpath : IsPath r.path.toList)
    {good later : List Constraint} {c : Constraint} {negative : Bool}
    (hconstraints : r.constraints = good ++ c :: later)
    (hgood : ∀ g ∈ good, g.bound.isFinite = true) (hc : c.bound = .infinite negative)
    (after : List Rule) :
    parseRules (renderRules (before ++ r :: after)) =
      .error ⟨before.length + 1, misreadBound negative later.isEmpty⟩ := by
  induction before with
  | nil =>
    rw [List.nil_append, renderRules_cons, parseRules_append,
      parseRules_line_misread hpath hconstraints hgood hc]
    dsimp only
    rw [ParseError.beforeNewline, endingWith_misreadBound]
    rfl
  | cons b before ih =>
    obtain ⟨hb, hbefore⟩ := List.forall_mem_cons.1 hbefore
    have hnone : '\n' ∉ b.line.toList := Rule.not_mem_line hb.path
    rw [List.cons_append, renderRules_cons, parseRules_append,
      parseRules_of_ruleLine hb.ruleLine hnone, ih hbefore, List.count_eq_zero.2 hnone]
    rfl

section Reread

variable {text : String} {rules : List Rule} (h : parseRules text = .ok rules)
include h

theorem isWritable_of_parseRules (hfinite : ∀ r ∈ rules, ∀ c ∈ r.constraints,
    c.bound.isFinite = true) : ∀ r ∈ rules, r.IsWritable :=
  fun r hr => ⟨isPath_of_parseRules h r hr, hfinite r hr⟩

theorem reread_isOk_iff :
    (∃ back, parseRules (renderRules rules) = .ok back) ↔
      ∀ r ∈ rules, ∀ c ∈ r.constraints, c.bound.isFinite = true := by
  constructor
  · rintro ⟨back, hback⟩
    exact isFinite_of_parseRules (isPath_of_parseRules h) hback
  · intro hfinite
    exact ⟨rules, parseRules_renderRules (isWritable_of_parseRules h hfinite)⟩

/-- What comes back is what was written. -/
theorem eq_of_reread {back : List Rule} (hback : parseRules (renderRules rules) = .ok back) :
    back = rules ∧ sameRules back rules = true := by
  have hwritable := isWritable_of_parseRules h ((reread_isOk_iff h).1 ⟨back, hback⟩)
  obtain rfl : rules = back := by
    rw [parseRules_renderRules hwritable] at hback
    exact Except.ok.inj hback
  exact ⟨rfl, isEqv_self fun r hr => Rule.same_self (hwritable r hr)⟩

end Reread

/-! ## Numerals that are too large -/

/-- Digits of a number that is too large are read as an infinity. -/
theorem Binary64.read_overflowing {digits : List Char} (hne : digits ≠ [])
    (hdigits : IsDigits digits) (h : overflow ≤ Nat.ofDigitChars 10 digits 0) :
    read digits = some (.infinite false) := by
  have hoverflows : Decimal.Overflows ⟨Nat.ofDigitChars 10 digits 0, 0⟩ := by
    change overflow * Nat.pow 10 0 ≤ Nat.ofDigitChars 10 digits 0 * Nat.pow 10 0
    rwa [mul_ten_pow_zero, mul_ten_pow_zero]
  rw [read_plain (.whole hne hdigits), Decimal.read_whole hne hdigits, Option.map_some,
    (Decimal.nearest_eq_infinite_iff false _).2 hoverflows]

/-- A line with such digits as a bound is accepted. -/
theorem parseRules_overflowing {digits : List Char} (hne : digits ≠ []) (hdigits : IsDigits digits)
    (h : Binary64.overflow ≤ Nat.ofDigitChars 10 digits 0) :
    parseRules ("a >" ++ String.ofList digits) =
      .ok [⟨"a", true, [⟨.greaterThan, .infinite false⟩]⟩] := by
  have hpath : IsPath "a".toList := by decide +kernel
  have hblank : InlineBlanks [' '] := .cons (by decide) .nil
  have hconstraint : ConstraintText ('>' :: digits) ⟨.greaterThan, .infinite false⟩ :=
    @ConstraintText.mk .greaterThan [] _ _ .nil (.plain (.whole hne hdigits))
      (Binary64.read_overflowing hne hdigits h)
  have hafter : AfterPath ([' '] ++ ('>' :: digits ++ ([] ++ [])))
      [⟨.greaterThan, .infinite false⟩] :=
    .constrained (by decide) hblank (.last hconstraint) .nil .none
  have htext : ("a >" ++ String.ofList digits).toList =
      [] ++ ([] ++ ("a".toList ++ ([' '] ++ ('>' :: digits ++ ([] ++ []))))) := by
    simp
  have hline : '\n' ∉ ("a >" ++ String.ofList digits).toList := by
    intro hmem
    rw [String.toList_append] at hmem
    rcases List.mem_append.1 hmem with hmem | hmem
    · revert hmem
      decide
    · rw [String.toList_ofList] at hmem
      cases hdigits '\n' hmem
  refine parseRules_of_ruleLine ?_ hline
  rw [htext]
  exact .mk .nil .required hpath hafter

/-- A one with more than 308 zeros is such a number. -/
theorem overflow_le_powerOfTen {zeros : Nat} (h : 309 ≤ zeros) :
    Binary64.overflow ≤ Nat.ofDigitChars 10 ('1' :: List.replicate zeros '0') 0 := by
  have hvalue : Nat.ofDigitChars 10 ('1' :: List.replicate zeros '0') 0 = Nat.pow 10 zeros := by
    rw [Nat.ofDigitChars_cons, Nat.ofDigitChars_replicate_zero]
    exact Nat.mul_one _
  rw [hvalue]
  exact Binary64.overflow_le_pow h

/-! ## The law -/

/-- Rules that were read of a text can be read again from their own text exactly when all
their bounds are finite, and then they come back as they are, with the same text. Else the
reading ends at the first rule with an infinite bound and names the first such bound. -/
theorem rules_of_a_text_come_back_unless_a_bound_is_infinite {text : String} {rules : List Rule}
    (h : parseRules text = .ok rules) :
    ((∃ back, parseRules (renderRules rules) = .ok back) ↔
      ∀ r ∈ rules, ∀ c ∈ r.constraints, c.bound.isFinite = true) ∧
    (∀ back, parseRules (renderRules rules) = .ok back →
      back = rules ∧ sameRules back rules = true ∧ renderRules back = renderRules rules) ∧
    ∀ before r after good c later negative, rules = before ++ r :: after →
      (∀ b ∈ before, ∀ c ∈ b.constraints, c.bound.isFinite = true) →
      r.constraints = good ++ c :: later → (∀ g ∈ good, g.bound.isFinite = true) →
      c.bound = .infinite negative →
      parseRules (renderRules rules) =
        .error ⟨before.length + 1, misreadBound negative later.isEmpty⟩ := by
  refine ⟨reread_isOk_iff h, fun back hback => ?_, ?_⟩
  · obtain ⟨rfl, hsame⟩ := eq_of_reread h hback
    exact ⟨rfl, hsame, rfl⟩
  · rintro before r after good c later negative rfl hbefore hconstraints hgood hc
    have hpath := isPath_of_parseRules h
    have hwritable : ∀ b ∈ before, b.IsWritable := fun b hb =>
      ⟨hpath b (List.mem_append_left _ hb), hbefore b hb⟩
    exact parseRules_renderRules_misread hwritable
      (hpath r (List.mem_append_right _ List.mem_cons_self)) hconstraints hgood hc after

/-- For instance, a one with 309 zeros is accepted as a bound, and the rule is written in a
way that cannot be read. -/
theorem rules_of_a_text_do_not_come_back_with_310_digits :
    let text := "a >" ++ String.ofList ('1' :: List.replicate 309 '0')
    let rules : List Rule := [⟨"a", true, [⟨.greaterThan, .infinite false⟩]⟩]
    parseRules text = .ok rules ∧
      (¬ ∃ back, parseRules (renderRules rules) = .ok back) ∧
      parseRules (renderRules rules) = .error ⟨1, .expected .number "'inf'"⟩ := by
  intro text rules
  have hdigits : IsDigits ('1' :: List.replicate 309 '0') :=
    List.forall_mem_cons.2 ⟨rfl, isDigits_zeros 309⟩
  have hparse : parseRules text = .ok rules :=
    parseRules_overflowing (List.cons_ne_nil _ _) hdigits (overflow_le_powerOfTen (by decide))
  obtain ⟨hiff, -, herror⟩ := rules_of_a_text_come_back_unless_a_bound_is_infinite hparse
  refine ⟨hparse, fun hback => ?_, ?_⟩
  · have hfinite := hiff.1 hback _ (List.mem_singleton_self _) _ (List.mem_singleton_self _)
    cases hfinite
  · exact herror [] _ [] [] _ [] false rfl (by simp) rfl (by simp) rfl

end MetricCheck
