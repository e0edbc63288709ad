-- The readers of rules: what one step of each does, and what every reader leaves as
-- it is. The lines behind a cursor and the newlines before it add up to the lines of
-- the text, and a rule that is read has taken in the end of its line.
import MetricCheck.RuleText.Read
import MetricCheck.Proofs.RuleText.Token

namespace MetricCheck

open Text

/-- A line ends here, or the whole text. -/
def Token.EndsLine (t : Token) : Prop := t = .newline ∨ t = .endOfText

/-- The line on which the text that is left ends. -/
def Cursor.lastLine (c : Cursor) : Nat := c.line + c.rest.count '\n'

/-- From the first cursor the second is reached without missing a line. -/
structure Cursor.Passes (c c' : Cursor) : Prop where
  line_le : c.line ≤ c'.line
  lastLine_eq : c'.lastLine = c.lastLine

/-- On the way to the second cursor the line ended. -/
structure Cursor.PassesLine (c c' : Cursor) : Prop extends Cursor.Passes c c' where
  ended : c'.rest = [] ∨ c.line < c'.line

/-! ## The readers, one step each -/

namespace Cursor

theorem nextOnLine_eq (c : Cursor) :
    c.nextOnLine =
      match c.next with
      | .error cause => .error ⟨c.line, cause⟩
      | .ok (.newline, c') => c'.nextOnLine
      | .ok found => .ok found := by
  rw [nextOnLine]
  cases c.next with
  | error cause => rfl
  | ok found =>
    obtain ⟨t, c'⟩ := found
    cases t <;> rfl

theorem constraints_eq_error {t : Token} (hop : ∀ op, t ≠ .operator op) (hend : t ≠ .endOfText)
    (c : Cursor) : constraints t c = .error (.expected .operator t.describe) := by
  cases t with
  | operator op => exact absurd rfl (hop op)
  | endOfText => exact absurd rfl hend
  | _ => rw [constraints] <;> simp

theorem constraints_operator (op : Operator) (c : Cursor) :
    constraints (.operator op) c =
      match c.number with
      | .error cause => .error cause
      | .ok (bound, c₁) =>
        match c₁.next with
        | .error cause => .error cause
        | .ok (.newline, c₂) => .ok ([⟨op, bound⟩], c₂)
        | .ok (.endOfText, c₂) => .ok ([⟨op, bound⟩], c₂)
        | .ok (.comma, c₂) =>
          match c₂.next with
          | .error cause => .error cause
          | .ok (t, c₃) =>
            match constraints t c₃ with
            | .error cause => .error cause
            | .ok (more, c₄) => .ok (⟨op, bound⟩ :: more, c₄)
        | .ok (other, _) => .error (.expected .comma other.describe) := by
  rw [constraints]
  cases c.number with
  | error cause => rfl
  | ok found =>
    obtain ⟨bound, c₁⟩ := found
    dsimp only
    cases c₁.next with
    | error cause => rfl
    | ok found =>
      obtain ⟨t, c₂⟩ := found
      cases t with
      | comma =>
        dsimp only
        cases c₂.next with
        | error cause => rfl
        | ok found => rfl
      | _ => rfl

/-- Where the line ends after a bound, the constraint is the last. -/
theorem constraints_of_endsLine {c c₁ c₂ : Cursor} {bound : Binary64} {t : Token}
    (hn : c.number = .ok (bound, c₁)) (hc : c₁.next = .ok (t, c₂)) (ht : t.EndsLine)
    (op : Operator) : constraints (.operator op) c = .ok ([⟨op, bound⟩], c₂) := by
  rw [constraints_operator, hn]
  dsimp only
  rw [hc]
  rcases ht with rfl | rfl
  · rfl
  · rfl

/-- After a comma come more of them. -/
theorem constraints_of_comma {c c₁ c₂ c₃ : Cursor} {bound : Binary64} {t : Token}
    (hn : c.number = .ok (bound, c₁)) (hc : c₁.next = .ok (.comma, c₂))
    (ht : c₂.next = .ok (t, c₃)) (op : Operator) :
    constraints (.operator op) c =
      match constraints t c₃ with
      | .error cause => .error cause
      | .ok (more, c₄) => .ok (⟨op, bound⟩ :: more, c₄) := by
  rw [constraints_operator, hn]
  dsimp only
  rw [hc]
  dsimp only
  rw [ht]

/-- Where the line ends after the path, the rule has no constraints. -/
theorem ruleAt_of_endsLine {c c₁ : Cursor} {t : Token} (h : c.next = .ok (t, c₁))
    (ht : t.EndsLine) (required : Bool) (path : String) :
    ruleAt required (.text path) c = .ok (⟨path, required, []⟩, c₁) := by
  rcases ht with rfl | rfl
  · simp only [ruleAt, h]
  · simp only [ruleAt, h]

/-- Whatever else comes after the path begins the constraints. -/
theorem ruleAt_of_constraints {c c₁ : Cursor} {t : Token} (h : c.next = .ok (t, c₁))
    (ht : ¬ t.EndsLine) (required : Bool) (path : String) :
    ruleAt required (.text path) c =
      match constraints t c₁ with
      | .error cause => .error cause
      | .ok (found, c₂) => .ok (⟨path, required, found⟩, c₂) := by
  cases t with
  | newline => exact absurd (.inl rfl) ht
  | endOfText => exact absurd (.inr rfl) ht
  | _ =>
    cases hc : constraints _ c₁ with
    | error cause => simp only [ruleAt, h, hc]
    | ok read =>
      obtain ⟨found, c₂⟩ := read
      simp only [ruleAt, h, hc]

theorem nextRule_of_error {c : Cursor} {e : ParseError} (h : c.nextOnLine = .error e) :
    c.nextRule = .error e := by
  simp only [nextRule, h]

theorem nextRule_of_endOfText {c c₁ : Cursor} (h : c.nextOnLine = .ok (.endOfText, c₁)) :
    c.nextRule = .ok (none, c₁) := by
  simp only [nextRule, h]

theorem nextRule_of_token {c c₁ : Cursor} {t : Token} (h : c.nextOnLine = .ok (t, c₁))
    (ht : t ≠ .endOfText) :
    c.nextRule =
      match ruleFrom t c₁ with
      | .error cause => .error ⟨c₁.line, cause⟩
      | .ok (rule, c₂) => .ok (some ⟨c₁.line, rule⟩, c₂) := by
  cases t with
  | endOfText => exact absurd rfl ht
  | _ =>
    cases hrule : ruleFrom _ c₁ with
    | error cause => simp only [nextRule, h, hrule]
    | ok read =>
      obtain ⟨rule, c₂⟩ := read
      simp only [nextRule, h, hrule]

end Cursor

theorem RuleReading.fromCursor_eq (c : Cursor) :
    RuleReading.fromCursor c =
      match c.nextRule with
      | .error e => ⟨[], .error e⟩
      | .ok (none, c') => ⟨[], .ok c'.line⟩
      | .ok (some located, c') =>
        ⟨located :: (RuleReading.fromCursor c').found, (RuleReading.fromCursor c').ending⟩ := by
  rw [RuleReading.fromCursor]
  cases c.nextRule with
  | error e => rfl
  | ok found => obtain ⟨_ | located, c'⟩ := found <;> rfl

/-! ## Lines are counted -/

theorem count_newline_dropWhile {p : Char → Bool} (hp : p '\n' = false) (cs : List Char) :
    (cs.dropWhile p).count '\n' = cs.count '\n' := by
  induction cs with
  | nil => rfl
  | cons c cs ih =>
    by_cases hc : p c = true
    · have hne : c ≠ '\n' := by
        rintro rfl
        rw [hp] at hc
        cases hc
      rw [List.dropWhile_cons_of_pos hc, ih, List.count_cons_of_ne hne]
    · rw [List.dropWhile_cons_of_neg hc]

/-- A token takes as many newlines as it counts. -/
theorem Reads.count_newline {cs rest : List Char} {t : Token} (h : Reads cs t rest) :
    cs.count '\n' = t.newlines + rest.count '\n' := by
  induction h with
  | blank hc _ ih => rw [List.count_cons_of_ne (isInlineBlank_iff.1 hc).2, ih]
  | tilde rest => simp [Token.newlines]
  | comma rest => simp [Token.newlines]
  | @operator op rest => cases op <;> simp [Token.newlines, Operator.chars]
  | @text path rest hpath =>
    have hpath : path.count '\n' = 0 := List.count_eq_zero.2 fun hmem => by
      have := hpath.noBlank _ hmem
      rw [isBlank_newline] at this
      cases this
    simp [Token.newlines, hpath]
  | newline rest => simp [Token.newlines, Nat.add_comm]
  | @newlineAfter note rest hnote =>
    simp [Token.newlines, List.count_eq_zero.2 hnote, Nat.add_comm]
  | endOfText => rfl
  | @endOfTextAfter note hnote => simp [Token.newlines, List.count_eq_zero.2 hnote]

namespace Cursor

theorem Passes.refl (c : Cursor) : Passes c c := ⟨Nat.le_refl _, rfl⟩

theorem Passes.trans {c₁ c₂ c₃ : Cursor} (h : Passes c₁ c₂) (h' : Passes c₂ c₃) : Passes c₁ c₃ :=
  ⟨Nat.le_trans h.line_le h'.line_le, h'.lastLine_eq.trans h.lastLine_eq⟩

theorem Passes.trans_line {c₁ c₂ c₃ : Cursor} (h : Passes c₁ c₂) (h' : PassesLine c₂ c₃) :
    PassesLine c₁ c₃ :=
  ⟨h.trans h'.toPasses, h'.ended.imp_right (Nat.lt_of_le_of_lt h.line_le)⟩

theorem line_le_lastLine (c : Cursor) : c.line ≤ c.lastLine := Nat.le_add_right _ _

theorem next_passes {c c' : Cursor} {t : Token} (h : c.next = .ok (t, c')) : Passes c c' := by
  obtain ⟨hreads, hline⟩ := reads_of_next h
  have hcount := hreads.count_newline
  exact ⟨by omega, by simp only [lastLine]; omega⟩

theorem next_passesLine {c c' : Cursor} {t : Token} (h : c.next = .ok (t, c'))
    (ht : t.EndsLine) : PassesLine c c' := by
  refine ⟨next_passes h, ?_⟩
  rcases ht with rfl | rfl
  · have hline : c'.line = c.line + 1 := (reads_of_next h).2
    exact .inr (by omega)
  · exact .inl (reads_of_next h).1.rest_of_endOfText

theorem number_passes {c c' : Cursor} {bound : Binary64} (h : c.number = .ok (bound, c')) :
    Passes c c' := by
  unfold number at h
  simp only at h
  split at h
  · split at h <;> cases h
  · split at h
    · cases h
      refine ⟨Nat.le_refl _, ?_⟩
      simp only [lastLine]
      rw [count_newline_dropWhile (by decide), count_newline_dropWhile (by decide)]
    · cases h

theorem constraints_passesLine {t : Token} {c c' : Cursor} {found : List Constraint}
    (h : constraints t c = .ok (found, c')) : PassesLine c c' := by
  fun_induction constraints t c generalizing found c' with
  | case3 c op bound c₁ hn c₂ hc =>
    cases h
    exact (number_passes hn).trans_line (next_passesLine hc (.inl rfl))
  | case4 c op bound c₁ hn c₂ hc =>
    cases h
    exact (number_passes hn).trans_line (next_passesLine hc (.inr rfl))
  | case7 c op bound c₁ hn c₂ hc t' c₃ ht more c₄ hmore ih =>
    cases h
    have hbefore := (number_passes hn).trans ((next_passes hc).trans (next_passes ht))
    exact hbefore.trans_line (ih hmore)
  | _ => cases h

theorem ruleAt_passesLine {required : Bool} {t : Token} {c c' : Cursor} {rule : Rule}
    (h : ruleAt required t c = .ok (rule, c')) : PassesLine c c' := by
  unfold ruleAt at h
  split at h
  · split at h
    · cases h
    · rename_i hnext
      cases h
      exact next_passesLine hnext (.inl rfl)
    · rename_i hnext
      cases h
      exact next_passesLine hnext (.inr rfl)
    · rename_i hnext
      split at h
      · cases h
      · rename_i hc
        cases h
        exact (next_passes hnext).trans_line (constraints_passesLine hc)
  · cases h
  · cases h

theorem ruleFrom_passesLine {t : Token} {c c' : Cursor} {rule : Rule}
    (h : ruleFrom t c = .ok (rule, c')) : PassesLine c c' := by
  unfold ruleFrom at h
  split at h
  · split at h
    · cases h
    · rename_i hnext
      exact (next_passes hnext).trans_line (ruleAt_passesLine h)
  · exact ruleAt_passesLine h

theorem nextOnLine_passes {c c' : Cursor} {t : Token} (h : c.nextOnLine = .ok (t, c')) :
    Passes c c' := by
  fun_induction nextOnLine c with
  | case1 => cases h
  | case2 c c₁ hnext ih => exact (next_passes hnext).trans (ih h)
  | case3 c found hne hnext =>
    cases h
    exact next_passes hnext

theorem rest_of_nextOnLine {c c' : Cursor} (h : c.nextOnLine = .ok (.endOfText, c')) :
    c'.rest = [] := by
  fun_induction nextOnLine c with
  | case1 => cases h
  | case2 c c₁ hnext ih => exact ih h
  | case3 c found hne hnext =>
    cases h
    exact (reads_of_next hnext).1.rest_of_endOfText

theorem line_of_nextOnLine_error {c : Cursor} {e : ParseError} (h : c.nextOnLine = .error e) :
    c.line ≤ e.line ∧ e.line ≤ c.lastLine := by
  fun_induction nextOnLine c with
  | case1 c cause =>
    cases h
    exact ⟨Nat.le_refl _, c.line_le_lastLine⟩
  | case2 c c₁ hnext ih =>
    have hpasses := next_passes hnext
    exact ⟨Nat.le_trans hpasses.line_le (ih h).1, hpasses.lastLine_eq ▸ (ih h).2⟩
  | case3 => cases h

/-- A rule takes in the end of its line, and the end of the text all that is left. A
defect is on a line that is still to come. -/
theorem nextRule_passes (c : Cursor) :
    match c.nextRule with
    | .error e => c.line ≤ e.line ∧ e.line ≤ c.lastLine
    | .ok (none, c') => Passes c c' ∧ c'.rest = []
    | .ok (some _, c') => PassesLine c c' := by
  cases hc : c.nextOnLine with
  | error e =>
    rw [nextRule_of_error hc]
    exact line_of_nextOnLine_error hc
  | ok found =>
    obtain ⟨t, c₁⟩ := found
    have hpasses := nextOnLine_passes hc
    by_cases ht : t = .endOfText
    · subst ht
      rw [nextRule_of_endOfText hc]
      exact ⟨hpasses, rest_of_nextOnLine hc⟩
    · rw [nextRule_of_token hc ht]
      cases hrule : ruleFrom t c₁ with
      | error cause =>
        exact ⟨hpasses.line_le, hpasses.lastLine_eq ▸ c₁.line_le_lastLine⟩
      | ok found => exact hpasses.trans_line (ruleFrom_passesLine hrule)

end Cursor

namespace RuleReading

theorem fromCursor_of_rest_nil {c : Cursor} (h : c.rest = []) :
    fromCursor c = ⟨[], .ok c.line⟩ := by
  obtain ⟨rest, line⟩ := c
  obtain rfl : rest = [] := h
  have hc : Cursor.nextOnLine ⟨[], line⟩ = .ok (.endOfText, ⟨[], line⟩) :=
    Cursor.nextOnLine_eq ⟨[], line⟩
  rw [fromCursor_eq, Cursor.nextRule_of_endOfText hc]

/-- A reading ends on the last line of the text or at a defect before it. -/
theorem ending_fromCursor (c : Cursor) :
    match (fromCursor c).ending with
    | .error e => c.line ≤ e.line ∧ e.line ≤ c.lastLine
    | .ok line => line = c.lastLine := by
  fun_induction fromCursor c with
  | case1 c e hc =>
    have hpasses := c.nextRule_passes
    rw [hc] at hpasses
    exact hpasses
  | case2 c c' hc =>
    have hpasses := c.nextRule_passes
    rw [hc] at hpasses
    obtain ⟨hpasses, hrest⟩ := hpasses
    rw [← hpasses.lastLine_eq, Cursor.lastLine, hrest]
    rfl
  | case3 c located c' hc later ih =>
    have hpasses := c.nextRule_passes
    rw [hc] at hpasses
    have hfrom := hpasses.line_le
    rw [← hpasses.lastLine_eq]
    dsimp only
    split
    · rename_i e heq
      rw [heq] at ih
      exact ⟨Nat.le_trans hfrom ih.1, ih.2⟩
    · rename_i line heq
      rw [heq] at ih
      exact ih

/-- A text holds no more rules than lines. -/
theorem length_found_fromCursor (c : Cursor) :
    (fromCursor c).found.length ≤ c.rest.count '\n' + 1 := by
  fun_induction fromCursor c with
  | case1 => simp
  | case2 => simp
  | case3 c located c' hc later ih =>
    have hpasses := c.nextRule_passes
    rw [hc] at hpasses
    rw [List.length_cons]
    rcases hpasses.ended with hrest | hline
    · have hnone : later = ⟨[], .ok c'.line⟩ := fromCursor_of_rest_nil hrest
      simp [hnone]
    · have hlater : later.found.length ≤ c'.rest.count '\n' + 1 := ih
      have hlast := hpasses.lastLine_eq
      simp only [Cursor.lastLine] at hlast
      omega

end RuleReading

end MetricCheck
