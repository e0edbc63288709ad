-- Reading a text that goes on. Where a text ends a line may end as well: when a tail
-- that begins with a line's end is put after a text, the reader reads as before, and
-- only where it met the end of the text it now meets the end of the line.
import MetricCheck.Proofs.RuleText.Reading

namespace MetricCheck

open Text

/-! ## Tails -/

/-- The tail begins with the end of a line, blanks and a comment before it included,
and after that end comes the rest. Nothing before the tail runs on into it. -/
structure LineEnd (tail : List Char) (ending : Token) (after : List Char) : Prop where
  reads : Reads tail ending after
  endsLine : ending.EndsLine
  detached : ∀ c ∈ tail.head?, isBlank c = true

/-- A defect, when the text it was found at goes on with a line's end. -/
def ParseError.Cause.endingWith (ending : Token) : ParseError.Cause → ParseError.Cause
  | .unexpectedEnd wanted =>
    if ending = .endOfText then .unexpectedEnd wanted else .expected wanted ending.describe
  | cause => cause

/-- The cursor when its text goes on with a tail and begins some lines further down. -/
def Cursor.onto (c : Cursor) (tail : List Char) (down : Nat) : Cursor :=
  ⟨c.rest ++ tail, c.line + down⟩

theorem lineEnd_newline (after : List Char) : LineEnd ('\n' :: after) .newline after :=
  ⟨.newline after, .inl rfl, by simp [isBlank_newline]⟩

theorem lineEnd_nil : LineEnd [] .endOfText [] := ⟨.endOfText, .inr rfl, by simp⟩

/-- A line's end stands before a newline or at the end of the text. -/
theorem Reads.newline_cases {cs after : List Char} {t : Token} (h : Reads cs t after)
    (ht : t.EndsLine) :
    t = .newline ∧ (∃ note, '\n' ∉ note ∧ cs = note ++ '\n' :: after) ∨
      t = .endOfText ∧ '\n' ∉ cs ∧ after = [] := by
  induction h with
  | @blank c cs after t hc h ih =>
    have hne : '\n' ≠ c := (isInlineBlank_iff.1 hc).2.symm
    rcases ih ht with ⟨rfl, note, hnote, rfl⟩ | ⟨rfl, hcs, rfl⟩
    · exact .inl ⟨rfl, c :: note, by simp [hne, hnote], rfl⟩
    · exact .inr ⟨rfl, by simp [hne, hcs], rfl⟩
  | newline after => exact .inl ⟨rfl, [], by simp, rfl⟩
  | @newlineAfter note after hnote => exact .inl ⟨rfl, '/' :: '/' :: note, by simp [hnote], rfl⟩
  | endOfText => exact .inr ⟨rfl, by simp, rfl⟩
  | endOfTextAfter hnote => exact .inr ⟨rfl, by simp [hnote], rfl⟩
  | tilde | comma | operator | text => rcases ht with ht | ht <;> cases ht

section
variable {tail after : List Char} {ending : Token} (hend : LineEnd tail ending after)
include hend

theorem LineEnd.isBlank_head {rest : List Char} (hrest : ∀ c ∈ rest.head?, isBlank c = true) :
    ∀ c ∈ (rest ++ tail).head?, isBlank c = true := by
  cases rest with
  | nil => exact hend.detached
  | cons d rest => exact hrest

/-- What is no blank and comes first came first before. -/
theorem LineEnd.head?_eq {rest : List Char} {d : Char} (hd : isBlank d = false)
    (h : (rest ++ tail).head? = some d) : rest.head? = some d := by
  cases rest with
  | nil =>
    rw [hend.detached d h] at hd
    cases hd
  | cons e rest => exact h

/-! ## Tokens -/

theorem Reads.onto {cs rest : List Char} {t : Token} (h : Reads cs t rest)
    (ht : t ≠ .endOfText) : Reads (cs ++ tail) t (rest ++ tail) := by
  induction h with
  | blank hc _ ih => exact .blank hc (ih ht)
  | tilde rest => exact .tilde _
  | comma rest => exact .comma _
  | @operator op rest hclosed =>
    rw [List.append_assoc]
    exact .operator fun heq => hclosed (hend.head?_eq (by decide) heq)
  | text hpath hrest =>
    rw [List.append_assoc]
    exact .text hpath (hend.isBlank_head hrest)
  | newline rest => exact .newline _
  | @newlineAfter note rest hnote =>
    have hlong : Reads ('/' :: '/' :: (note ++ '\n' :: (rest ++ tail))) .newline (rest ++ tail) :=
      .newlineAfter hnote
    simpa using hlong
  | endOfText => exact absurd rfl ht
  | endOfTextAfter => exact absurd rfl ht

theorem Reads.onto_endOfText {cs rest : List Char} {t : Token} (h : Reads cs t rest)
    (ht : t = .endOfText) : Reads (cs ++ tail) ending after := by
  induction h with
  | blank hc _ ih => exact .blank hc (ih ht)
  | endOfText => exact hend.reads
  | @endOfTextAfter note hnote =>
    -- the comment takes in what the tail has before its newline
    rcases hend.reads.newline_cases hend.endsLine with ⟨rfl, more, hmore, rfl⟩ | ⟨rfl, htail, rfl⟩
    · have hlong : '\n' ∉ note ++ more := by simp [hnote, hmore]
      have hreads := @Reads.newlineAfter _ after hlong
      simpa using hreads
    · have hlong : '\n' ∉ note ++ tail := by simp [hnote, htail]
      exact .endOfTextAfter hlong
  | tilde | comma | operator | text | newline | newlineAfter => cases ht

theorem StopsAtSlash.onto {cs : List Char} (h : StopsAtSlash cs) : StopsAtSlash (cs ++ tail) := by
  induction h with
  | blank hc _ ih => exact .blank hc ih
  | slash h => exact .slash fun heq => h (hend.head?_eq (by decide) heq)

/-- A token that is read stays; the end of the text becomes the line's end. -/
theorem Cursor.next_onto (c : Cursor) (down : Nat) :
    (c.onto tail down).next =
      match c.next with
      | .error cause => .error cause
      | .ok (.endOfText, c') => .ok (ending, ⟨after, c'.line + down + ending.newlines⟩)
      | .ok (t, c') => .ok (t, c'.onto tail down) := by
  obtain ⟨cs, line⟩ := c
  cases hnext : Cursor.next ⟨cs, line⟩ with
  | error cause =>
    obtain ⟨hstops, rfl⟩ := stopsAtSlash_of_next hnext
    exact next_of_stopsAtSlash (hstops.onto hend) _
  | ok found =>
    obtain ⟨t, c'⟩ := found
    obtain ⟨hreads, hline⟩ := reads_of_next hnext
    by_cases ht : t = .endOfText
    · subst ht
      have hlong := hreads.onto_endOfText hend rfl
      have hsame : c'.line = line := hline
      simp only [Cursor.onto, next_of_reads hlong, hsame]
    · have hlong := next_of_reads (hreads.onto hend ht) (line + down)
      have hlines : line + down + t.newlines = c'.line + down := by omega
      simp only [Cursor.onto, hlong, hlines]

theorem Cursor.next_onto_of_ne {c c' : Cursor} {t : Token} (down : Nat)
    (h : c.next = .ok (t, c')) (ht : t ≠ .endOfText) :
    (c.onto tail down).next = .ok (t, c'.onto tail down) := by
  rw [c.next_onto hend, h]
  cases t <;> first | rfl | exact absurd rfl ht

/-- After blanks, the tail begins with no numeral. -/
theorem LineEnd.takeWhile_isNumeral :
    (tail.dropWhile isInlineBlank).takeWhile Cursor.isNumeral = [] := by
  have hreads := hend.reads
  have hends := hend.endsLine
  clear hend
  induction hreads with
  | blank hc _ ih =>
    rw [List.dropWhile_cons_of_pos hc]
    exact ih hends
  | newline => rfl
  | newlineAfter => rfl
  | endOfText => rfl
  | endOfTextAfter => rfl
  | tilde | comma | operator | text => rcases hends with h | h <;> cases h

/-- A bound that is read stays, and a bound that is missed stays missed. -/
theorem Cursor.number_onto (c : Cursor) (down : Nat) :
    (c.onto tail down).number =
      match c.number with
      | .error cause => .error (cause.endingWith ending)
      | .ok (bound, c') => .ok (bound, c'.onto tail down) := by
  have hstop : ∀ c ∈ tail.head?, Cursor.isNumeral c = false := fun c hc => by
    by_contra hnum
    have hblank := isBlank_of_isNumeral (by simpa using hnum)
    rw [hend.detached c hc] at hblank
    cases hblank
  have hnext := c.next_onto hend down
  have hrest : (c.onto tail down).rest = c.rest ++ tail := rfl
  unfold Cursor.number
  simp only [hrest]
  cases hahead : c.rest.dropWhile isInlineBlank with
  | nil =>
    have hlong : (c.rest ++ tail).dropWhile isInlineBlank = tail.dropWhile isInlineBlank := by
      rw [List.dropWhile_append, hahead, List.isEmpty_nil, if_pos rfl]
    have hnone : c.next = .ok (.endOfText, ⟨[], c.line⟩) := by rw [Cursor.next, hahead]
    rw [hnone] at hnext
    simp only [hlong, hend.takeWhile_isNumeral, List.takeWhile_nil, List.isEmpty_nil, if_true,
      hnext, hnone, ParseError.Cause.endingWith]
    rcases hend.endsLine with rfl | rfl
    · rfl
    · rfl
  | cons d ds =>
    have hlong : (c.rest ++ tail).dropWhile isInlineBlank = d :: ds ++ tail := by
      rw [List.dropWhile_append, hahead, List.isEmpty_cons, if_neg Bool.false_ne_true]
    simp only [hlong, takeWhile_append_of_stop hstop, dropWhile_append_of_stop hstop]
    split
    · rw [hnext]
      cases hc : c.next with
      | error cause =>
        obtain ⟨-, rfl⟩ := stopsAtSlash_of_next hc
        rfl
      | ok found =>
        obtain ⟨t, c'⟩ := found
        cases t <;> rcases hend.endsLine with rfl | rfl <;> rfl
    · cases Binary64.read ((d :: ds).takeWhile Cursor.isNumeral) with
      | none => rfl
      | some bound => rfl

end

theorem Cursor.number_onto_of_ok {tail after : List Char} {ending : Token}
    (hend : LineEnd tail ending after) {c c' : Cursor} {bound : Binary64} (down : Nat)
    (h : c.number = .ok (bound, c')) :
    (c.onto tail down).number = .ok (bound, c'.onto tail down) := by
  rw [c.number_onto hend, h]

/-! ## Rules -/

section
variable (tail after : List Char) (ending : Token) (down : Nat)

/-- Where reading goes on after a line: inside the text as before, or after the end
of the line at which the text ended. -/
inductive Continues : Cursor → Cursor → Prop
  | within (c : Cursor) : Continues c (c.onto tail down)
  | beyond (line : Nat) : Continues ⟨[], line⟩ ⟨after, line + down + ending.newlines⟩

/-- What a reader of a line makes of the longer text: the same, but that a defect at
the end of the text becomes one at the end of the line. -/
inductive Carries {α : Type} : Except ParseError.Cause (α × Cursor) →
    Except ParseError.Cause (α × Cursor) → Prop
  | error (cause : ParseError.Cause) : Carries (.error cause) (.error (cause.endingWith ending))
  | ok {found : α} {c c' : Cursor} (h : Continues tail after ending down c c') :
      Carries (.ok (found, c)) (.ok (found, c'))

end

section
variable {tail after : List Char} {ending : Token}

/-- Either both texts have a defect here, or the same is found in both. -/
theorem Carries.cases {α : Type} {down : Nat} {short long : Except ParseError.Cause (α × Cursor)}
    (h : Carries tail after ending down short long) :
    (∃ cause, short = .error cause ∧ long = .error (cause.endingWith ending)) ∨
      ∃ found c c', short = .ok (found, c) ∧ long = .ok (found, c') ∧
        Continues tail after ending down c c' := by
  cases h with
  | error cause => exact .inl ⟨cause, rfl, rfl⟩
  | ok h => exact .inr ⟨_, _, _, rfl, rfl, h⟩

namespace Cursor

/-- The end of the text leaves nothing to read. -/
theorem eq_of_next_endOfText {c c' : Cursor} (h : c.next = .ok (.endOfText, c')) :
    c' = ⟨[], c'.line⟩ := by
  rw [← (reads_of_next h).1.rest_of_endOfText]

/-- Where an operator should stand and the line ends, the defect is the line's end. -/
theorem constraints_endOfText_onto (hend : LineEnd tail ending after) (c c' : Cursor) (down : Nat) :
    Carries tail after ending down (constraints .endOfText c) (constraints ending c') := by
  have hshort : constraints .endOfText c = .error (.unexpectedEnd .operator) := by
    rw [constraints]
  rw [hshort]
  rcases hend.endsLine with rfl | rfl
  · rw [constraints]
    exact .error (.unexpectedEnd .operator)
    all_goals simp
  · rw [constraints]
    exact .error (.unexpectedEnd .operator)

/-- Constraints carry over from the token after the cursor when they do from any but the end. -/
theorem constraints_next_onto (hend : LineEnd tail ending after) {c c' : Cursor} {t : Token}
    (down : Nat) (h : c.next = .ok (t, c'))
    (ih : t ≠ .endOfText →
      Carries tail after ending down (constraints t c') (constraints t (c'.onto tail down))) :
    ∃ t' c'', (c.onto tail down).next = .ok (t', c'') ∧
      Carries tail after ending down (constraints t c') (constraints t' c'') := by
  have hlong := c.next_onto hend down
  rw [h] at hlong
  by_cases ht : t = .endOfText
  · subst ht
    exact ⟨_, _, hlong, constraints_endOfText_onto hend _ _ down⟩
  · exact ⟨t, c'.onto tail down, c.next_onto_of_ne hend down h ht, ih ht⟩

/-- The constraints of a line carry over. -/
theorem constraints_onto (hend : LineEnd tail ending after) {t : Token} (ht : t ≠ .endOfText)
    (c : Cursor) (down : Nat) :
    Carries tail after ending down (constraints t c) (constraints t (c.onto tail down)) := by
  fun_induction constraints t c with
  -- no bound after the operator
  | case1 c op cause hn =>
    rw [constraints_operator, c.number_onto hend, hn]
    exact .error cause
  | case2 c op bound c₁ hn cause hc =>
    rw [constraints_operator, c.number_onto hend, hn]
    dsimp only
    rw [c₁.next_onto hend, hc]
    obtain ⟨-, rfl⟩ := stopsAtSlash_of_next hc
    exact .error .loneSlash
  -- the line ends after the bound, in the text or with it
  | case3 c op bound c₁ hn c₂ hc =>
    have hnumber := c.number_onto_of_ok hend down hn
    have hnext := c₁.next_onto_of_ne hend down hc (by simp)
    rw [constraints_of_endsLine hnumber hnext (.inl rfl)]
    exact .ok (.within c₂)
  | case4 c op bound c₁ hn c₂ hc =>
    have hnumber := c.number_onto_of_ok hend down hn
    have hnext := c₁.next_onto hend down
    rw [hc] at hnext
    rw [constraints_of_endsLine hnumber hnext hend.endsLine, eq_of_next_endOfText hc]
    exact .ok (.beyond c₂.line)
  -- a comma comes after it: only the rest of the list can still meet the end of the text
  | case5 c op bound c₁ hn c₂ hc cause ht' =>
    rw [constraints_operator, c.number_onto hend, hn]
    dsimp only
    rw [c₁.next_onto hend, hc]
    dsimp only
    rw [c₂.next_onto hend, ht']
    obtain ⟨-, rfl⟩ := stopsAtSlash_of_next ht'
    exact .error .loneSlash
  | case6 c op bound c₁ hn c₂ hc t' c₃ ht' cause hmore ih =>
    obtain ⟨t'', c₃', hnext, hcarries⟩ := constraints_next_onto hend down ht' ih
    rw [constraints_of_comma (c.number_onto_of_ok hend down hn)
      (c₁.next_onto_of_ne hend down hc (by simp)) hnext]
    rw [hmore] at hcarries
    rcases hcarries.cases with ⟨_, heq, hlong⟩ | ⟨_, _, _, heq, -, -⟩
    · cases heq
      rw [hlong]
      exact .error cause
    · cases heq
  | case7 c op bound c₁ hn c₂ hc t' c₃ ht' more c₄ hmore ih =>
    obtain ⟨t'', c₃', hnext, hcarries⟩ := constraints_next_onto hend down ht' ih
    rw [constraints_of_comma (c.number_onto_of_ok hend down hn)
      (c₁.next_onto_of_ne hend down hc (by simp)) hnext]
    rw [hmore] at hcarries
    rcases hcarries.cases with ⟨_, heq, -⟩ | ⟨_, _, _, heq, hlong, hgoes⟩
    · cases heq
    · cases heq
      rw [hlong]
      exact .ok hgoes
  -- something else comes after it, or stands in the operator's place
  | case8 c op bound c₁ hn other c₂ hnewline hendOfText hcomma hc =>
    rw [constraints_operator, c.number_onto hend, hn]
    dsimp only
    rw [c₁.next_onto_of_ne hend down hc hendOfText]
    cases other with
    | newline => exact absurd rfl hnewline
    | endOfText => exact absurd rfl hendOfText
    | comma => exact absurd rfl hcomma
    | _ => exact .error (.expected .comma _)
  | case9 => exact absurd rfl ht
  | case10 c other hop hendOfText =>
    rw [constraints_eq_error hop hendOfText]
    exact .error (.expected .operator _)

/-- Where a path should stand and the line ends, the defect is the line's end. -/
theorem ruleAt_endOfText_onto (hend : LineEnd tail ending after) (required : Bool)
    (c c' : Cursor) (down : Nat) :
    Carries tail after ending down (ruleAt required .endOfText c) (ruleAt required ending c') := by
  rcases hend.endsLine with rfl | rfl
  · exact .error (.unexpectedEnd .path)
  · exact .error (.unexpectedEnd .path)

/-- The rest of a rule carries over. -/
theorem ruleAt_onto (hend : LineEnd tail ending after) (required : Bool) {t : Token}
    (ht : t ≠ .endOfText) (c : Cursor) (down : Nat) :
    Carries tail after ending down (ruleAt required t c)
      (ruleAt required t (c.onto tail down)) := by
  cases t with
  | endOfText => exact absurd rfl ht
  | text path =>
    cases hc : c.next with
    | error cause =>
      obtain ⟨-, rfl⟩ := stopsAtSlash_of_next hc
      simp only [ruleAt, c.next_onto hend, hc]
      exact .error .loneSlash
    | ok found =>
      obtain ⟨t, c₁⟩ := found
      by_cases hends : t.EndsLine
      · rw [ruleAt_of_endsLine hc hends]
        rcases hends with rfl | rfl
        · rw [ruleAt_of_endsLine (c.next_onto_of_ne hend down hc (by simp)) (.inl rfl)]
          exact .ok (.within c₁)
        · have hlong := c.next_onto hend down
          rw [hc] at hlong
          rw [ruleAt_of_endsLine hlong hend.endsLine, eq_of_next_endOfText hc]
          exact .ok (.beyond c₁.line)
      · have hlong := c.next_onto_of_ne hend down hc fun heq => hends (.inr heq)
        rw [ruleAt_of_constraints hc hends, ruleAt_of_constraints hlong hends]
        have hcarries := constraints_onto hend (fun heq => hends (.inr heq)) c₁ down
        rcases hcarries.cases with ⟨cause, hshort, hlong⟩ | ⟨found, c₂, c₂', hshort, hlong, hgoes⟩
        · rw [hshort, hlong]
          exact .error cause
        · rw [hshort, hlong]
          exact .ok hgoes
  | _ => exact .error (.expected .path _)

/-- A rule carries over. -/
theorem ruleFrom_onto (hend : LineEnd tail ending after) {t : Token} (ht : t ≠ .endOfText)
    (c : Cursor) (down : Nat) :
    Carries tail after ending down (ruleFrom t c) (ruleFrom t (c.onto tail down)) := by
  cases t with
  | tilde =>
    cases hc : c.next with
    | error cause =>
      obtain ⟨-, rfl⟩ := stopsAtSlash_of_next hc
      simp only [ruleFrom, c.next_onto hend, hc]
      exact .error .loneSlash
    | ok found =>
      obtain ⟨t, c₁⟩ := found
      by_cases hends : t = .endOfText
      · subst hends
        simp only [ruleFrom, c.next_onto hend, hc]
        exact ruleAt_endOfText_onto hend false _ _ down
      · simp only [ruleFrom, c.next_onto_of_ne hend down hc hends, hc]
        exact ruleAt_onto hend false hends c₁ down
  | endOfText => exact absurd rfl ht
  | _ => exact ruleAt_onto hend true ht c down

/-! ## Lines -/

theorem nextOnLine_onto (hend : LineEnd tail ending after) (c : Cursor) (down : Nat) :
    (c.onto tail down).nextOnLine =
      match c.nextOnLine with
      | .error e => .error ⟨e.line + down, e.cause.endingWith ending⟩
      | .ok (.endOfText, c') => nextOnLine ⟨after, c'.line + down + ending.newlines⟩
      | .ok (t, c') => .ok (t, c'.onto tail down) := by
  fun_induction nextOnLine c with
  | case1 c cause hc =>
    obtain ⟨-, rfl⟩ := stopsAtSlash_of_next hc
    rw [nextOnLine_eq, c.next_onto hend, hc]
    rfl
  | case2 c c' hc ih =>
    rw [nextOnLine_eq, c.next_onto_of_ne hend down hc (by simp)]
    exact ih
  | case3 c found hne hc =>
    obtain ⟨t, c'⟩ := found
    by_cases hends : t = .endOfText
    · subst hends
      rw [nextOnLine_eq, c.next_onto hend, hc]
      rcases hend.endsLine with rfl | rfl
      · rfl
      · obtain rfl := hend.reads.rest_of_endOfText
        exact (nextOnLine_eq ⟨[], c'.line + down⟩).symm
    · rw [nextOnLine_eq, c.next_onto_of_ne hend down hc hends]
      cases t with
      | newline => exact absurd rfl (hne c')
      | endOfText => exact absurd rfl hends
      | _ => rfl

/-- The next rule carries over; where the text had no more, what comes after the
line's end is read. -/
theorem nextRule_onto (hend : LineEnd tail ending after) (c : Cursor) (down : Nat) :
    match c.nextRule with
    | .error e => (c.onto tail down).nextRule = .error ⟨e.line + down, e.cause.endingWith ending⟩
    | .ok (none, c') =>
      (c.onto tail down).nextRule = nextRule ⟨after, c'.line + down + ending.newlines⟩
    | .ok (some located, c') =>
      ∃ c'', Continues tail after ending down c' c'' ∧
        (c.onto tail down).nextRule =
          .ok (some ⟨located.line + down, located.rule⟩, c'') := by
  have hlong := c.nextOnLine_onto hend down
  cases hc : c.nextOnLine with
  | error e =>
    rw [hc] at hlong
    rw [nextRule_of_error hc, nextRule_of_error hlong]
  | ok found =>
    obtain ⟨t, c₁⟩ := found
    rw [hc] at hlong
    by_cases hends : t = .endOfText
    · subst hends
      rw [nextRule_of_endOfText hc]
      dsimp only
      unfold nextRule
      rw [hlong]
    · have htoken : (c.onto tail down).nextOnLine = .ok (t, c₁.onto tail down) := by
        rw [hlong]
        cases t <;> first | rfl | exact absurd rfl hends
      rw [nextRule_of_token hc hends, nextRule_of_token htoken hends]
      rcases (ruleFrom_onto hend hends c₁ down).cases with
        ⟨cause, hshort, hlong⟩ | ⟨rule, c₂, c₂', hshort, hlong, hgoes⟩
      · rw [hshort, hlong]
        rfl
      · rw [hshort, hlong]
        exact ⟨c₂', hgoes, rfl⟩

end Cursor

/-! ## Whole texts -/

/-- A rule that begins some lines further down. -/
def LocatedRule.moved (down : Nat) (located : LocatedRule) : LocatedRule :=
  ⟨located.line + down, located.rule⟩

/-- A reading of a text to which a line's end and more is put, when the lines before
the text and the reading of what comes after it are known. -/
def RuleReading.goingOn (reading : RuleReading) (ending : Token) (down : Nat)
    (later : Nat → RuleReading) : RuleReading :=
  match reading.ending with
  | .error e =>
    ⟨reading.found.map (.moved down), .error ⟨e.line + down, e.cause.endingWith ending⟩⟩
  | .ok line =>
    ⟨reading.found.map (.moved down) ++ (later (line + down + ending.newlines)).found,
      (later (line + down + ending.newlines)).ending⟩

namespace RuleReading

/-- A text that goes on after a line's end is read as the text, and then from there on. -/
theorem fromCursor_onto (hend : LineEnd tail ending after) (c : Cursor) (down : Nat) :
    fromCursor (c.onto tail down) =
      (fromCursor c).goingOn ending down fun line => fromCursor ⟨after, line⟩ := by
  fun_induction fromCursor c with
  | case1 c e hc =>
    have hlong := c.nextRule_onto hend down
    rw [hc] at hlong
    rw [fromCursor_eq, hlong]
    rfl
  | case2 c c' hc =>
    have hlong := c.nextRule_onto hend down
    rw [hc] at hlong
    rw [fromCursor_eq, hlong, ← fromCursor_eq]
    rfl
  | case3 c located c' hc later ih =>
    have hlong := c.nextRule_onto hend down
    rw [hc] at hlong
    obtain ⟨c'', hgoes, hlong⟩ := hlong
    rw [fromCursor_eq, hlong]
    dsimp only
    cases hgoes with
    | within =>
      rw [ih, goingOn, goingOn]
      cases later.ending with
      | error e => rfl
      | ok line => rfl
    | beyond line =>
      have hnone : later = ⟨[], .ok line⟩ := fromCursor_of_rest_nil rfl
      rw [hnone]
      rfl

end RuleReading

end

end MetricCheck
