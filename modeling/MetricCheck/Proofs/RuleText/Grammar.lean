-- The grammar of a line of rule text, and that the reader accepts exactly its lines
-- and returns what they derive. Both directions go token by token: whatever the
-- readers find stands in the text, and whatever a derivation puts there they find.
import MetricCheck.Proofs.RuleText.Numeral
import MetricCheck.Proofs.RuleText.Reading

namespace MetricCheck

open Text

/-! ## The grammar -/

/-- A comment to the end of the line, or nothing. -/
inductive OptionalComment : List Char → Prop
  | none : OptionalComment []
  | comment (note : List Char) : OptionalComment ('/' :: '/' :: note)

/-- A line without a rule. -/
inductive EmptyLine : List Char → Prop
  | mk {bs note : List Char} (hb : InlineBlanks bs) (hnote : OptionalComment note) :
      EmptyLine (bs ++ note)

/-- An operator and a number, and what constraint they are. -/
inductive ConstraintText : List Char → Constraint → Prop
  | mk {op : Operator} {bs numeral : List Char} {bound : Binary64} (hb : InlineBlanks bs)
      (hnumber : IsNumber numeral) (hbound : Binary64.read numeral = some bound) :
      ConstraintText (op.chars ++ bs ++ numeral) ⟨op, bound⟩

/-- Constraints with commas between them. -/
inductive ConstraintsText : List Char → List Constraint → Prop
  | last {text : List Char} {constraint : Constraint} (h : ConstraintText text constraint) :
      ConstraintsText text [constraint]
  | more {text before after later : List Char} {constraint : Constraint}
      {others : List Constraint} (h : ConstraintText text constraint)
      (hbefore : InlineBlanks before) (hafter : InlineBlanks after)
      (hlater : ConstraintsText later others) :
      ConstraintsText (text ++ before ++ ',' :: (after ++ later)) (constraint :: others)

/-- What comes after the path of a rule: nothing, or blanks before anything else. -/
inductive AfterPath : List Char → List Constraint → Prop
  | nothing : AfterPath [] []
  | bare {bs note : List Char} (hne : bs ≠ []) (hb : InlineBlanks bs)
      (hnote : OptionalComment note) : AfterPath (bs ++ note) []
  | constrained {bs text before note : List Char} {constraints : List Constraint}
      (hne : bs ≠ []) (hb : InlineBlanks bs) (ht : ConstraintsText text constraints)
      (hbefore : InlineBlanks before) (hnote : OptionalComment note) :
      AfterPath (bs ++ (text ++ (before ++ note))) constraints

/-- What comes before the path: a tilde makes the rule optional. -/
inductive BeforePath : List Char → Bool → Prop
  | required : BeforePath [] true
  | optional {bs : List Char} (hb : InlineBlanks bs) : BeforePath ('~' :: bs) false

/-- A line with a rule. -/
inductive RuleLine : List Char → Rule → Prop
  | mk {bs mark path after : List Char} {required : Bool} {constraints : List Constraint}
      (hb : InlineBlanks bs) (hmark : BeforePath mark required) (hpath : IsPath path)
      (hafter : AfterPath after constraints) :
      RuleLine (bs ++ (mark ++ (path ++ after))) ⟨String.ofList path, required, constraints⟩

/-! ## Bounds -/

/-- A bound is a number after blanks, as long as it goes. -/
theorem number_eq_ok_iff {cs : List Char} {line : Nat} {bound : Binary64} {c' : Cursor} :
    Cursor.number ⟨cs, line⟩ = .ok (bound, c') ↔
      c'.line = line ∧ ∃ bs numeral, InlineBlanks bs ∧ IsNumber numeral ∧
        Binary64.read numeral = some bound ∧ cs = bs ++ (numeral ++ c'.rest) ∧
        ∀ c ∈ c'.rest.head?, Cursor.isNumeral c = false := by
  constructor
  · intro h
    have hnumeral : IsNumeral ((cs.dropWhile isInlineBlank).takeWhile Cursor.isNumeral) :=
      fun c hc => List.mem_takeWhile_imp hc
    unfold Cursor.number at h
    simp only at h
    split at h
    · split at h <;> cases h
    · split at h
      · rename_i hread
        cases h
        have hnumber := (Binary64.read_isSome_iff hnumeral).1 (by rw [hread, Option.isSome_some])
        refine ⟨rfl, cs.takeWhile isInlineBlank, _, ?_, hnumber, hread, ?_, head?_dropWhile⟩
        · exact fun c hc => List.mem_takeWhile_imp hc
        · rw [List.takeWhile_append_dropWhile, List.takeWhile_append_dropWhile]
      · cases h
  · rintro ⟨rfl, bs, numeral, hb, hnumber, hread, rfl, hstop⟩
    have hnumeral := hnumber.isNumeral
    have hahead : (bs ++ (numeral ++ c'.rest)).dropWhile isInlineBlank = numeral ++ c'.rest := by
      obtain ⟨d, ds, rfl⟩ := List.exists_cons_of_ne_nil hnumber.ne_nil
      have hd : isBlank d = false := isBlank_of_isNumeral (hnumeral d List.mem_cons_self)
      have hinline : ¬ isInlineBlank d = true := fun hyes => by
        rw [isBlank_of_isInlineBlank hyes] at hd
        cases hd
      rw [List.dropWhile_append_of_pos hb, List.cons_append, List.dropWhile_cons_of_neg hinline]
    have htake : (numeral ++ c'.rest).takeWhile Cursor.isNumeral = numeral := by
      rw [takeWhile_append_of_stop hstop, List.takeWhile_eq_self_iff.2 hnumeral]
    have hdrop : (numeral ++ c'.rest).dropWhile Cursor.isNumeral = c'.rest := by
      rw [dropWhile_append_of_stop hstop, List.dropWhile_eq_nil_iff.2 hnumeral, List.nil_append]
    unfold Cursor.number
    simp only [hahead, htake, hdrop, hread, List.isEmpty_eq_false_iff.2 hnumber.ne_nil]
    rfl

/-! ## What is read stands there -/

/-- The characters of a token that stands within a line. -/
def Token.chars : Token → List Char
  | .tilde => ['~']
  | .operator op => op.chars
  | .comma => [',']
  | .text run => run.toList
  | .newline => []
  | .endOfText => []

theorem Reads.eq_chars {cs rest : List Char} {t : Token} (h : Reads cs t rest)
    (ht : ¬ t.EndsLine) : ∃ bs, InlineBlanks bs ∧ cs = bs ++ (t.chars ++ rest) := by
  induction h with
  | blank hc _ ih =>
    obtain ⟨bs, hb, rfl⟩ := ih ht
    exact ⟨_ :: bs, .cons hc hb, rfl⟩
  | tilde | comma | operator => exact ⟨[], .nil, rfl⟩
  | text => exact ⟨[], .nil, by rw [Token.chars, String.toList_ofList, List.nil_append]⟩
  | newline | newlineAfter => exact absurd (.inl rfl) ht
  | endOfText | endOfTextAfter => exact absurd (.inr rfl) ht

/-- A run that is read is a path, and a blank comes after it. -/
theorem Reads.isPath {cs rest : List Char} {t : Token} {run : String} (h : Reads cs t rest)
    (ht : t = .text run) : IsPath run.toList ∧ ∀ c ∈ rest.head?, isBlank c = true := by
  induction h with
  | blank _ _ ih => exact ih ht
  | text hpath hrest =>
    cases ht
    rw [String.toList_ofList]
    exact ⟨hpath, hrest⟩
  | _ => cases ht

theorem Reads.of_endOfText {cs rest : List Char} {t : Token} (h : Reads cs t rest)
    (ht : t = .endOfText) :
    ∃ bs note, InlineBlanks bs ∧ OptionalComment note ∧ cs = bs ++ note := by
  induction h with
  | blank hc _ ih =>
    obtain ⟨bs, note, hb, hnote, rfl⟩ := ih ht
    exact ⟨_ :: bs, note, .cons hc hb, hnote, rfl⟩
  | endOfText => exact ⟨[], [], .nil, .none, rfl⟩
  | @endOfTextAfter note => exact ⟨[], _, .nil, .comment note, rfl⟩
  | _ => cases ht

/-- A line has no newline to read, and neither has what is left of it. -/
theorem Reads.not_newline {cs rest : List Char} {t : Token} (h : Reads cs t rest)
    (hline : '\n' ∉ cs) : t ≠ .newline ∧ '\n' ∉ rest := by
  have hcount := h.count_newline
  rw [List.count_eq_zero.2 hline] at hcount
  constructor
  · rintro rfl
    simp only [Token.newlines] at hcount
    omega
  · exact List.count_eq_zero.1 (by omega)

/-- The reader of constraints is at an operator, and from there the text has them. -/
theorem constraints_sound {t : Token} {c c' : Cursor} {found : List Constraint}
    (h : Cursor.constraints t c = .ok (found, c')) (hline : '\n' ∉ c.rest) :
    ∃ op, t = .operator op ∧ ∃ text bs note, op.chars ++ c.rest = text ++ (bs ++ note) ∧
      ConstraintsText text found ∧ InlineBlanks bs ∧ OptionalComment note := by
  fun_induction Cursor.constraints t c generalizing found c' with
  | case3 c op bound c₁ hn c₂ hc =>
    cases h
    obtain ⟨-, bs, numeral, hb, hnumber, hbound, hrest, -⟩ := number_eq_ok_iff.1 hn
    have hline₁ : '\n' ∉ c₁.rest := fun hmem => hline (by simp [hrest, hmem])
    exact absurd rfl ((reads_of_next hc).1.not_newline hline₁).1
  | case4 c op bound c₁ hn c₂ hc =>
    cases h
    obtain ⟨-, bs, numeral, hb, hnumber, hbound, hrest, -⟩ := number_eq_ok_iff.1 hn
    obtain ⟨before, note, hbefore, hnote, hrest₁⟩ := (reads_of_next hc).1.of_endOfText rfl
    refine ⟨op, rfl, op.chars ++ bs ++ numeral, before, note, ?_,
      .last (.mk hb hnumber hbound), hbefore, hnote⟩
    simp [hrest, hrest₁]
  | case7 c op bound c₁ hn c₂ hc t' c₃ ht more c₄ hmore ih =>
    cases h
    obtain ⟨-, bs, numeral, hb, hnumber, hbound, hrest, -⟩ := number_eq_ok_iff.1 hn
    obtain ⟨before, hbefore, hrest₁⟩ := (reads_of_next hc).1.eq_chars (by simp [Token.EndsLine])
    have hreads := (reads_of_next ht).1
    have hline₂ : '\n' ∉ c₂.rest := fun hmem => hline (by simp [hrest, hrest₁, hmem])
    obtain ⟨op', rfl, later, bs', note, hlater, htext, hb', hnote⟩ :=
      ih hmore (hreads.not_newline hline₂).2
    obtain ⟨after, hafter, hrest₂⟩ := hreads.eq_chars (by simp [Token.EndsLine])
    refine ⟨op, rfl, op.chars ++ bs ++ numeral ++ before ++ ',' :: (after ++ later), bs', note,
      ?_, .more (.mk hb hnumber hbound) hbefore hafter htext, hb', hnote⟩
    simp [hrest, hrest₁, hrest₂, hlater, Token.chars]
  | _ => cases h

/-- What is read after a path is what the text says there. -/
theorem ruleAt_text_sound {required : Bool} {run : String} {c c' : Cursor} {rule : Rule}
    (h : Cursor.ruleAt required (.text run) c = .ok (rule, c')) (hline : '\n' ∉ c.rest)
    (hblank : ∀ d ∈ c.rest.head?, isBlank d = true) :
    ∃ found, rule = ⟨run, required, found⟩ ∧ AfterPath c.rest found := by
  cases hc : c.next with
  | error cause => simp only [Cursor.ruleAt, hc, reduceCtorEq] at h
  | ok next =>
    obtain ⟨t, c₁⟩ := next
    have hreads := (reads_of_next hc).1
    obtain ⟨hnewline, hline₁⟩ := hreads.not_newline hline
    by_cases hends : t.EndsLine
    · rw [Cursor.ruleAt_of_endsLine hc hends] at h
      cases h
      refine ⟨[], rfl, ?_⟩
      obtain ⟨bs, note, hb, hnote, hrest⟩ := hreads.of_endOfText (hends.resolve_left hnewline)
      rw [hrest] at hblank ⊢
      by_cases hne : bs = []
      · subst hne
        cases hnote with
        | none => exact .nothing
        | comment note =>
          have hslash := hblank '/' rfl
          cases hslash
      · exact .bare hne hb hnote
    · rw [Cursor.ruleAt_of_constraints hc hends] at h
      cases hfound : Cursor.constraints t c₁ with
      | error cause => simp only [hfound, reduceCtorEq] at h
      | ok read =>
        obtain ⟨found, c₂⟩ := read
        rw [hfound] at h
        cases h
        refine ⟨found, rfl, ?_⟩
        obtain ⟨op, rfl, text, before, note, htext, hconstraints, hbefore, hnote⟩ :=
          constraints_sound hfound hline₁
        obtain ⟨bs, hb, hrest⟩ := hreads.eq_chars (by simp [Token.EndsLine])
        rw [hrest] at hblank ⊢
        rw [Token.chars, htext]
        refine .constrained ?_ hb hconstraints hbefore hnote
        -- an operator right after the path would be part of it
        rintro rfl
        cases op with
        | _ =>
          have hop := hblank _ rfl
          cases hop

/-- A rule that is read from some token on begins with the path there. -/
theorem ruleAt_sound {required : Bool} {cs : List Char} {t : Token} {c c' : Cursor} {rule : Rule}
    (hreads : Reads cs t c.rest) (hline : '\n' ∉ cs)
    (h : Cursor.ruleAt required t c = .ok (rule, c')) :
    ∃ bs path after found, InlineBlanks bs ∧ IsPath path ∧ AfterPath after found ∧
      cs = bs ++ (path ++ after) ∧ rule = ⟨String.ofList path, required, found⟩ := by
  cases t with
  | text run =>
    obtain ⟨bs, hb, hcs⟩ := hreads.eq_chars (by simp [Token.EndsLine])
    obtain ⟨hpath, hblank⟩ := hreads.isPath rfl
    obtain ⟨found, hrule, hafter⟩ := ruleAt_text_sound h (hreads.not_newline hline).2 hblank
    exact ⟨bs, run.toList, c.rest, found, hb, hpath, hafter, hcs, by rw [hrule, String.ofList_toList]⟩
  | _ => cases h

/-- A rule that is read from the first token on is the rule of the line. -/
theorem ruleFrom_sound {cs : List Char} {t : Token} {c c' : Cursor} {rule : Rule}
    (hreads : Reads cs t c.rest) (hline : '\n' ∉ cs)
    (h : Cursor.ruleFrom t c = .ok (rule, c')) : RuleLine cs rule := by
  by_cases htilde : t = .tilde
  · subst htilde
    obtain ⟨bs, hb, hcs⟩ := hreads.eq_chars (by simp [Token.EndsLine])
    cases hc : c.next with
    | error cause => simp only [Cursor.ruleFrom, hc, reduceCtorEq] at h
    | ok next =>
      obtain ⟨t, c₁⟩ := next
      simp only [Cursor.ruleFrom, hc] at h
      obtain ⟨bs', path, after, found, hb', hpath, hafter, hrest, rfl⟩ :=
        ruleAt_sound (reads_of_next hc).1 (hreads.not_newline hline).2 h
      rw [hcs, hrest]
      exact .mk hb (.optional hb') hpath hafter
  · have hrule : Cursor.ruleAt true t c = .ok (rule, c') := by
      cases t with
      | tilde => exact absurd rfl htilde
      | _ => exact h
    obtain ⟨bs, path, after, found, hb, hpath, hafter, rfl, rfl⟩ :=
      ruleAt_sound hreads hline hrule
    exact .mk hb .required hpath hafter

/-- On a line the next token is the next on the line. -/
theorem nextOnLine_of_line {cs : List Char} (hline : '\n' ∉ cs) (line : Nat) :
    Cursor.nextOnLine ⟨cs, line⟩ =
      match Cursor.next ⟨cs, line⟩ with
      | .error cause => .error ⟨line, cause⟩
      | .ok found => .ok found := by
  rw [Cursor.nextOnLine_eq]
  cases hc : Cursor.next ⟨cs, line⟩ with
  | error cause => rfl
  | ok found =>
    obtain ⟨t, c'⟩ := found
    have hnewline := ((reads_of_next hc).1.not_newline hline).1
    cases t with
    | newline => exact absurd rfl hnewline
    | _ => rfl

/-- What is read of a line is what the line says. -/
theorem nextRule_sound {cs : List Char} {line : Nat} (hline : '\n' ∉ cs) :
    match Cursor.nextRule ⟨cs, line⟩ with
    | .error _ => True
    | .ok (none, _) => EmptyLine cs
    | .ok (some located, _) => RuleLine cs located.rule := by
  have hfirst := nextOnLine_of_line hline line
  cases hc : Cursor.next ⟨cs, line⟩ with
  | error cause =>
    rw [hc] at hfirst
    rw [Cursor.nextRule_of_error hfirst]
    trivial
  | ok next =>
    obtain ⟨t, c₁⟩ := next
    rw [hc] at hfirst
    have hreads := (reads_of_next hc).1
    by_cases ht : t = .endOfText
    · subst ht
      obtain ⟨bs, note, hb, hnote, rfl⟩ := hreads.of_endOfText rfl
      rw [Cursor.nextRule_of_endOfText hfirst]
      exact .mk hb hnote
    · rw [Cursor.nextRule_of_token hfirst ht]
      cases hrule : Cursor.ruleFrom t c₁ with
      | error cause => trivial
      | ok found => exact ruleFrom_sound hreads hline hrule

/-! ## What stands there is read -/

theorem isNumeral_of_isBlank {c : Char} (h : isBlank c = true) : Cursor.isNumeral c = false := by
  rw [Bool.eq_false_iff]
  intro hnumeral
  rw [isBlank_of_isNumeral hnumeral] at h
  cases h

/-- Blanks do not go on with what is before them. -/
theorem InlineBlanks.head?_append {p : Char → Prop} {bs cs : List Char} (hb : InlineBlanks bs)
    (hblank : ∀ c, isBlank c = true → p c) (hcs : ∀ c ∈ cs.head?, p c) :
    ∀ c ∈ (bs ++ cs).head?, p c := by
  cases bs with
  | nil => exact hcs
  | cons b bs =>
    intro c hc
    obtain rfl : b = c := by simpa using hc
    exact hblank b (isBlank_of_isInlineBlank (hb b List.mem_cons_self))

theorem OptionalComment.head?_eq {note : List Char} (h : OptionalComment note) :
    ∀ c ∈ note.head?, c = '/' := by
  cases h with
  | none => simp
  | comment note => simp

theorem OptionalComment.reads {bs note : List Char} (hb : InlineBlanks bs)
    (hnote : OptionalComment note) (hline : '\n' ∉ note) : Reads (bs ++ note) .endOfText [] := by
  cases hnote with
  | none => exact .blanks hb .endOfText
  | comment note =>
    refine .blanks hb (.endOfTextAfter fun hmem => hline ?_)
    exact List.mem_cons_of_mem _ (List.mem_cons_of_mem _ hmem)

theorem EmptyLine.reads {cs : List Char} (h : EmptyLine cs) (hline : '\n' ∉ cs) :
    Reads cs .endOfText [] := by
  cases h with
  | mk hb hnote => exact hnote.reads hb fun hmem => hline (by simp [hmem])

/-- A constraint is read where it stands, up to what is no part of its number. -/
theorem ConstraintText.reads {text : List Char} {constraint : Constraint}
    (h : ConstraintText text constraint) {tail : List Char}
    (hstop : ∀ c ∈ tail.head?, Cursor.isNumeral c = false) :
    ∃ rest, Reads (text ++ tail) (.operator constraint.op) rest ∧
      ∀ line, Cursor.number ⟨rest, line⟩ = .ok (constraint.bound, ⟨tail, line⟩) := by
  cases h with
  | @mk op bs numeral bound hb hnumber hbound =>
    refine ⟨bs ++ (numeral ++ tail), ?_, fun line => ?_⟩
    · have hequals : ∀ c ∈ (bs ++ (numeral ++ tail)).head?, c ≠ '=' := by
        refine hb.head?_append ?_ ?_
        · rintro c hc rfl
          cases hc
        · obtain ⟨d, ds, rfl⟩ := List.exists_cons_of_ne_nil hnumber.ne_nil
          rintro c hc rfl
          obtain rfl : d = '=' := by simpa using hc
          have hd := hnumber.isNumeral '=' List.mem_cons_self
          cases hd
      have hreads := @Reads.operator op _ fun heq => absurd rfl (hequals '=' heq)
      simpa using hreads
    · exact number_eq_ok_iff.2 ⟨rfl, bs, numeral, hb, hnumber, hbound, rfl, hstop⟩

/-- Constraints are read where they stand. -/
theorem constraints_complete {text : List Char} {found : List Constraint}
    (h : ConstraintsText text found) {bs note : List Char} (hb : InlineBlanks bs)
    (hnote : OptionalComment note) (hline : '\n' ∉ note) :
    ∃ op rest, Reads (text ++ (bs ++ note)) (.operator op) rest ∧
      ∀ line, Cursor.constraints (.operator op) ⟨rest, line⟩ = .ok (found, ⟨[], line⟩) := by
  induction h with
  | @last text constraint h =>
    have hstop : ∀ c ∈ (bs ++ note).head?, Cursor.isNumeral c = false :=
      hb.head?_append (fun c => isNumeral_of_isBlank) fun c hc => by
        rw [hnote.head?_eq c hc]
        rfl
    obtain ⟨rest, hreads, hnumber⟩ := h.reads hstop
    refine ⟨constraint.op, rest, hreads, fun line => ?_⟩
    exact Cursor.constraints_of_endsLine (hnumber line) (next_of_reads (hnote.reads hb hline) line)
      (.inr rfl) constraint.op
  | @more text before after later constraint others h hbefore hafter hlater ih =>
    obtain ⟨op, rest, hop, hothers⟩ := ih
    have hstop : ∀ c ∈ (before ++ ',' :: (after ++ (later ++ (bs ++ note)))).head?,
        Cursor.isNumeral c = false :=
      hbefore.head?_append (fun c => isNumeral_of_isBlank) fun c hc => by
        obtain rfl : ',' = c := by simpa using hc
        rfl
    obtain ⟨rest', hreads, hnumber⟩ := h.reads hstop
    refine ⟨constraint.op, rest', by simpa using hreads, fun line => ?_⟩
    have hcomma := next_of_reads (.blanks hbefore (.comma (after ++ (later ++ (bs ++ note))))) line
    have hnext := next_of_reads (.blanks hafter hop) line
    dsimp only [Token.newlines, Nat.add_zero] at hcomma hnext
    rw [Cursor.constraints_of_comma (hnumber line) hcomma hnext, hothers]

/-- What comes after a path is read there. -/
theorem ruleAt_complete {after : List Char} {found : List Constraint} (h : AfterPath after found)
    (hline : '\n' ∉ after) (required : Bool) (run : String) (line : Nat) :
    Cursor.ruleAt required (.text run) ⟨after, line⟩ =
      .ok (⟨run, required, found⟩, ⟨[], line⟩) := by
  cases h with
  | nothing => rfl
  | bare hne hb hnote =>
    have hnext := next_of_reads (hnote.reads hb fun hmem => hline (by simp [hmem])) line
    exact Cursor.ruleAt_of_endsLine hnext (.inr rfl) required run
  | constrained hne hb ht hbefore hnote =>
    obtain ⟨op, rest, hreads, hfound⟩ :=
      constraints_complete ht hbefore hnote fun hmem => hline (by simp [hmem])
    have hnext := next_of_reads (.blanks hb hreads) line
    dsimp only [Token.newlines, Nat.add_zero] at hnext
    rw [Cursor.ruleAt_of_constraints hnext (by simp [Token.EndsLine]), hfound]

theorem AfterPath.head?_isBlank {after : List Char} {found : List Constraint}
    (h : AfterPath after found) : ∀ c ∈ after.head?, isBlank c = true := by
  cases h with
  | nothing => simp
  | bare hne hb | constrained hne hb =>
    obtain ⟨b, bs, rfl⟩ := List.exists_cons_of_ne_nil hne
    intro c hc
    obtain rfl : b = c := by simpa using hc
    exact isBlank_of_isInlineBlank (hb b List.mem_cons_self)

/-- What comes before a path says whether the rule is required; the rest is read from the
path on. -/
theorem BeforePath.reads {mark path after : List Char} {required : Bool}
    (hmark : BeforePath mark required) (hpath : IsPath path)
    (hafter : ∀ c ∈ after.head?, isBlank c = true) :
    ∃ t rest, t ≠ .endOfText ∧ Reads (mark ++ (path ++ after)) t rest ∧ ∀ line,
      Cursor.ruleFrom t ⟨rest, line⟩ =
        Cursor.ruleAt required (.text (String.ofList path)) ⟨after, line⟩ := by
  have hreads := Reads.text hpath hafter
  cases hmark with
  | required => exact ⟨_, after, by simp, hreads, fun line => rfl⟩
  | @optional bs hb =>
    refine ⟨.tilde, bs ++ (path ++ after), by simp, .tilde _, fun line => ?_⟩
    rw [Cursor.ruleFrom, next_of_reads (.blanks hb hreads)]
    rfl

/-- The rule of a line is read from its first token on. -/
theorem ruleFrom_complete {cs : List Char} {rule : Rule} (h : RuleLine cs rule)
    (hline : '\n' ∉ cs) :
    ∃ t rest, t ≠ .endOfText ∧ Reads cs t rest ∧
      ∀ line, Cursor.ruleFrom t ⟨rest, line⟩ = .ok (rule, ⟨[], line⟩) := by
  cases h with
  | @mk bs mark path after required found hb hmark hpath hafter =>
    obtain ⟨t, rest, ht, hreads, hrule⟩ := hmark.reads hpath hafter.head?_isBlank
    refine ⟨t, rest, ht, .blanks hb hreads, fun line => ?_⟩
    rw [hrule, ruleAt_complete hafter fun hmem => hline (by simp [hmem])]

/-- What is read of a line is read from its first token on. -/
theorem nextRule_of_reads {cs rest : List Char} {t : Token} (hline : '\n' ∉ cs)
    (hreads : Reads cs t rest) (ht : t ≠ .endOfText) (line : Nat) :
    Cursor.nextRule ⟨cs, line⟩ =
      match Cursor.ruleFrom t ⟨rest, line⟩ with
      | .error cause => .error ⟨line, cause⟩
      | .ok (rule, c) => .ok (some ⟨line, rule⟩, c) := by
  have hnewline : t.newlines = 0 := by
    cases t with
    | newline => exact absurd rfl (hreads.not_newline hline).1
    | _ => rfl
  have hfirst := nextOnLine_of_line hline line
  rw [next_of_reads hreads, hnewline] at hfirst
  rw [Cursor.nextRule_of_token hfirst ht]
  rfl

theorem nextRule_of_ruleLine {cs : List Char} {rule : Rule} (h : RuleLine cs rule)
    (hline : '\n' ∉ cs) (line : Nat) :
    Cursor.nextRule ⟨cs, line⟩ = .ok (some ⟨line, rule⟩, ⟨[], line⟩) := by
  obtain ⟨t, rest, ht, hreads, hrule⟩ := ruleFrom_complete h hline
  rw [nextRule_of_reads hline hreads ht, hrule]

theorem nextRule_of_emptyLine {cs : List Char} (h : EmptyLine cs) (hline : '\n' ∉ cs)
    (line : Nat) : Cursor.nextRule ⟨cs, line⟩ = .ok (none, ⟨[], line⟩) := by
  have hfirst := nextOnLine_of_line hline line
  rw [next_of_reads (h.reads hline)] at hfirst
  exact Cursor.nextRule_of_endOfText hfirst

/-! ## Lines -/

theorem RuleReading.ofText_of_ruleLine {text : String} {rule : Rule}
    (h : RuleLine text.toList rule) (hline : '\n' ∉ text.toList) :
    RuleReading.ofText text = ⟨[⟨1, rule⟩], .ok 1⟩ := by
  rw [ofText, Cursor.start, fromCursor_eq, nextRule_of_ruleLine h hline]
  dsimp only
  rw [fromCursor_of_rest_nil rfl]

theorem RuleReading.ofText_of_emptyLine {text : String} (h : EmptyLine text.toList)
    (hline : '\n' ∉ text.toList) : RuleReading.ofText text = ⟨[], .ok 1⟩ := by
  rw [ofText, Cursor.start, fromCursor_eq, nextRule_of_emptyLine h hline]

/-- A line with a rule is read as the rule it derives. -/
theorem parseRules_of_ruleLine {text : String} {rule : Rule} (h : RuleLine text.toList rule)
    (hline : '\n' ∉ text.toList) : parseRules text = .ok [rule] := by
  rw [parseRules, RuleReading.ofText_of_ruleLine h hline]
  rfl

/-- A line without a rule is read as none. -/
theorem parseRules_of_emptyLine {text : String} (h : EmptyLine text.toList)
    (hline : '\n' ∉ text.toList) : parseRules text = .ok [] := by
  rw [parseRules, RuleReading.ofText_of_emptyLine h hline]
  rfl

theorem IsPath.not_newline {path : List Char} (h : IsPath path) : '\n' ∉ path := by
  intro hmem
  have hblank := h.noBlank _ hmem
  rw [isBlank_newline] at hblank
  cases hblank

/-- A path is a line by itself. -/
theorem parseRules_of_path {path : String} (h : IsPath path.toList) :
    parseRules path = .ok [⟨path, true, []⟩] := by
  have hrule := @RuleLine.mk [] _ _ _ _ _ .nil .required h .nothing
  rw [String.ofList_toList] at hrule
  exact parseRules_of_ruleLine (by simpa using hrule) h.not_newline

/-- What is read of a line is none or the rule it derives. -/
theorem line_of_parseRules {text : String} {rules : List Rule} (hline : '\n' ∉ text.toList)
    (h : parseRules text = .ok rules) :
    rules = [] ∧ EmptyLine text.toList ∨
      ∃ rule, rules = [rule] ∧ RuleLine text.toList rule := by
  have hsound := @nextRule_sound text.toList 1 hline
  cases hc : Cursor.nextRule ⟨text.toList, 1⟩ with
  | error e =>
    rw [parseRules, RuleReading.ofText, Cursor.start, RuleReading.fromCursor_eq, hc] at h
    cases h
  | ok found =>
    obtain ⟨_ | located, c'⟩ := found
    · rw [hc] at hsound
      rw [parseRules_of_emptyLine hsound hline] at h
      cases h
      exact .inl ⟨rfl, hsound⟩
    · rw [hc] at hsound
      rw [parseRules_of_ruleLine hsound hline] at h
      cases h
      exact .inr ⟨located.rule, rfl, hsound⟩

/-- The reader accepts exactly the lines of the grammar and returns what they derive.
A line derives one rule, none, or nothing at all, and then it is rejected. -/
theorem lines_are_read_by_the_grammar (line : String) (h : '\n' ∉ line.toList) :
    (parseRules line = .ok [] ↔ EmptyLine line.toList) ∧
    (∀ rule, parseRules line = .ok [rule] ↔ RuleLine line.toList rule) ∧
    (¬ EmptyLine line.toList → (∀ rule, ¬ RuleLine line.toList rule) →
      ∃ e, parseRules line = .error e) ∧
    (∀ rule rule', RuleLine line.toList rule → RuleLine line.toList rule' → rule = rule') ∧
    ∀ rule, RuleLine line.toList rule → ¬ EmptyLine line.toList := by
  refine ⟨⟨fun hparse => ?_, fun hempty => parseRules_of_emptyLine hempty h⟩,
    fun rule => ⟨fun hparse => ?_, fun hrule => parseRules_of_ruleLine hrule h⟩,
    fun hempty hrule => ?_, fun rule rule' hrule hrule' => ?_, fun rule hrule hempty => ?_⟩
  · rcases line_of_parseRules h hparse with ⟨-, hempty⟩ | ⟨rule, heq, -⟩
    · exact hempty
    · cases heq
  · rcases line_of_parseRules h hparse with ⟨heq, -⟩ | ⟨rule', heq, hrule⟩
    · cases heq
    · cases heq
      exact hrule
  · cases hparse : parseRules line with
    | error e => exact ⟨e, rfl⟩
    | ok rules =>
      rcases line_of_parseRules h hparse with ⟨-, hyes⟩ | ⟨rule, -, hyes⟩
      · exact absurd hyes hempty
      · exact absurd hyes (hrule rule)
  · have hsame := (parseRules_of_ruleLine hrule h).symm.trans (parseRules_of_ruleLine hrule' h)
    simpa using hsame
  · have hsame := (parseRules_of_ruleLine hrule h).symm.trans (parseRules_of_emptyLine hempty h)
    cases hsame

/-- For instance, an optional path with a bound and a comment. -/
theorem lines_are_read_by_the_grammar_at_an_optional_path :
    '\n' ∉ "~cpu <= .5 // load".toList ∧
      parseRules "~cpu <= .5 // load" =
        .ok [⟨"cpu", false, [⟨.lessEqual, .ofRatio false 1 2⟩]⟩] := by
  have hline : '\n' ∉ "~cpu <= .5 // load".toList := by decide
  have hblank : InlineBlanks [' '] := .cons (by decide) .nil
  have hpath : IsPath "cpu".toList := by decide +kernel
  have hnumber : IsNumber ".5".toList :=
    .plain (@IsMagnitude.pointed [] ['5'] (by decide) (List.forall_mem_nil _)
      (List.forall_mem_singleton.2 rfl))
  have hconstraint : ConstraintText "<= .5".toList ⟨.lessEqual, .ofRatio false 1 2⟩ :=
    @ConstraintText.mk .lessEqual _ _ _ hblank hnumber (by decide +kernel)
  have hafter : AfterPath " <= .5 // load".toList [⟨.lessEqual, .ofRatio false 1 2⟩] :=
    .constrained (by decide) hblank (.last hconstraint) hblank (.comment " load".toList)
  have hrule : RuleLine "~cpu <= .5 // load".toList
      ⟨"cpu", false, [⟨.lessEqual, .ofRatio false 1 2⟩]⟩ :=
    @RuleLine.mk [] _ _ _ _ _ .nil (.optional .nil) hpath hafter
  exact ⟨hline, ((lines_are_read_by_the_grammar _ hline).2.1 _).2 hrule⟩

end MetricCheck
