-- How tokens stand in a text. Blanks may stand between any two of them and must stand
-- between some, and before the end of a line there may be a comment. Where a token must be
-- kept apart is said of tokens; the reader sees only characters, and ends a token by the
-- one that follows. The two agree, so a text is read back as the tokens it is made of.
import Mathlib.Data.List.TakeDrop
import MetricCheck.Proofs.RuleText.Margins

namespace MetricCheck

open Text

/-! ## Texts of tokens -/

/-- What a text can be made of: any token but its end, and a run only where it is a path. -/
def Token.IsWritable : Token → Prop
  | .text run => IsPath run.toList
  | .endOfText => False
  | _ => True

instance : DecidablePred Token.IsWritable
  | .text run => inferInstanceAs (Decidable (IsPath run.toList))
  | .endOfText => inferInstanceAs (Decidable False)
  | .tilde | .operator _ | .comma | .newline => inferInstanceAs (Decidable True)

/-- The second token cannot stand right after the first, which would take in some of its
characters. -/
def Token.RunsInto : Token → Token → Prop
  | .text _, _ => True
  | .operator op, .text run => ¬ op.IsClosed ∧ run.toList.head? = some '='
  | _, _ => False

/-- What is left of a line after its last token: blanks, and perhaps a comment, which
stands apart from a path. -/
inductive LineTail (before : Token) : List Char → Prop
  | mk {bs note : List Char} (hb : InlineBlanks bs) (hnote : OptionalComment note)
      (hline : '\n' ∉ note) (hapart : note ≠ [] → (∃ run, before = .text run) → bs ≠ []) :
      LineTail before (bs ++ note)

/-- The text that comes after the token `before` is made of these tokens. Each of them says
what must stand between it and the one before. -/
inductive TokensAfter : Token → List Char → List Token → Prop
  | ending {before : Token} {tail : List Char} (h : LineTail before tail) :
      TokensAfter before tail []
  | newline {before : Token} {tail cs : List Char} {ts : List Token} (h : LineTail before tail)
      (hlater : TokensAfter .newline cs ts) :
      TokensAfter before (tail ++ '\n' :: cs) (.newline :: ts)
  | within {before t : Token} {bs cs : List Char} {ts : List Token} (hb : InlineBlanks bs)
      (ht : t.IsWritable) (hwithin : ¬ t.EndsLine) (hapart : before.RunsInto t → bs ≠ [])
      (hlater : TokensAfter t cs ts) : TokensAfter before (bs ++ (t.chars ++ cs)) (t :: ts)

/-- The text is made of these tokens; it begins as a line does. -/
def TokensText (text : String) (ts : List Token) : Prop := TokensAfter .newline text.toList ts

/-- The next tokens, so many, one after the other. -/
def Cursor.nextTokens : Nat → Cursor → Except ParseError.Cause (List Token × Cursor)
  | 0, c => .ok ([], c)
  | n + 1, c =>
    match c.next with
    | .error cause => .error cause
    | .ok (t, c₁) =>
      match c₁.nextTokens n with
      | .error cause => .error cause
      | .ok (ts, c₂) => .ok (t :: ts, c₂)

/-! ## Where a token ends -/

/-- The token ends where this text begins. -/
def Token.EndsBefore : Token → List Char → Prop
  | .text _, cs => ∀ c ∈ cs.head?, isBlank c = true
  | .operator op, cs => cs.head? = some '=' → op.IsClosed
  | _, _ => True

namespace Token

theorem endsBefore_of_blank {cs : List Char} (h : ∀ c ∈ cs.head?, isBlank c = true) (t : Token) :
    t.EndsBefore cs := by
  cases t with
  | text run => exact h
  | operator op =>
    intro heq
    have hequals := h '=' heq
    cases hequals
  | _ => trivial

theorem endsBefore_of_blanks {bs : List Char} (hb : InlineBlanks bs) (hne : bs ≠ []) (t : Token)
    (cs : List Char) : t.EndsBefore (bs ++ cs) := by
  obtain ⟨b, bs, rfl⟩ := List.exists_cons_of_ne_nil hne
  refine endsBefore_of_blank (fun c hc => ?_) t
  obtain rfl : b = c := by simpa using hc
  exact isBlank_of_isInlineBlank (hb b List.mem_cons_self)

/-- A token within a line begins with no blank, and only a run begins with an equals
sign. -/
theorem exists_head?_chars {t : Token} (ht : t.IsWritable) (hwithin : ¬ t.EndsLine)
    (cs : List Char) :
    ∃ c, (t.chars ++ cs).head? = some c ∧ isBlank c = false ∧
      (c = '=' ↔ ∃ run, t = .text run ∧ run.toList.head? = some '=') := by
  cases t with
  | tilde => exact ⟨'~', rfl, by decide, by simp⟩
  | operator op => cases op <;> exact ⟨_, rfl, by decide, by simp⟩
  | comma => exact ⟨',', rfl, by decide, by simp⟩
  | text run =>
    obtain ⟨c, path, hrun⟩ := List.exists_cons_of_ne_nil ht.nonempty
    exact ⟨c, by simp [chars, hrun], ht.noBlank c (by simp [hrun]), by simp [hrun]⟩
  | newline => exact absurd (.inl rfl) hwithin
  | endOfText => exact absurd (.inr rfl) hwithin

/-- A token ends before the next one unless it runs into it. -/
theorem endsBefore_chars_iff {before t : Token} (ht : t.IsWritable) (hwithin : ¬ t.EndsLine)
    (cs : List Char) : before.EndsBefore (t.chars ++ cs) ↔ ¬ before.RunsInto t := by
  obtain ⟨c, hhead, hblank, hequals⟩ := exists_head?_chars ht hwithin cs
  cases before with
  | text run => simp [EndsBefore, RunsInto, hhead, hblank]
  | operator op =>
    rw [EndsBefore, hhead, Option.some_inj, hequals]
    cases t with
    | text run => simp [RunsInto, imp_iff_not_or, or_comm]
    | _ => simp [RunsInto]
  | _ => simp [EndsBefore, RunsInto]

/-- Only a path does not end before a comment. -/
theorem endsBefore_comment_iff {before : Token} {cs : List Char} :
    before.EndsBefore ('/' :: cs) ↔ ¬ ∃ run, before = .text run := by
  have hslash : isBlank '/' = false := by decide
  cases before with
  | text run => simp [EndsBefore, hslash]
  | _ => simp [EndsBefore]

/-- Within a line a token is read where it stands, up to where it ends. -/
theorem reads {t : Token} (ht : t.IsWritable) (hwithin : ¬ t.EndsLine) {rest : List Char}
    (hrest : t.EndsBefore rest) : Reads (t.chars ++ rest) t rest := by
  cases t with
  | tilde => exact .tilde rest
  | operator op => exact .operator hrest
  | comma => exact .comma rest
  | text run => simpa [chars] using Reads.text ht hrest
  | newline => exact absurd (.inl rfl) hwithin
  | endOfText => exact absurd (.inr rfl) hwithin

end Token

/-- What is read ends where the rest begins. -/
theorem Reads.endsBefore {cs rest : List Char} {t : Token} (h : Reads cs t rest) :
    t.EndsBefore rest := by
  induction h with
  | blank _ _ ih => exact ih
  | operator hclosed => exact hclosed
  | text _ hrest => exact hrest
  | _ => trivial

theorem Reads.isWritable {cs rest : List Char} {t : Token} (h : Reads cs t rest)
    (ht : t ≠ .endOfText) : t.IsWritable := by
  cases t with
  | text run => exact (h.isPath rfl).1
  | endOfText => exact absurd rfl ht
  | _ => trivial

/-! ## Ends of lines -/

namespace LineTail

variable {before : Token} {tail : List Char} (h : LineTail before tail)
include h

theorem reads : Reads tail .endOfText [] := by
  cases h with
  | mk hb hnote hline hapart => exact hnote.reads hb hline

theorem reads_newline (cs : List Char) : Reads (tail ++ '\n' :: cs) .newline cs := by
  cases h with
  | mk hb hnote hline hapart =>
    rw [List.append_assoc]
    exact hnote.reads_newline hb hline cs

/-- Before what is left of a line the token has ended. -/
theorem endsBefore {rest : List Char} (hrest : ∀ c ∈ rest.head?, c = '\n') :
    before.EndsBefore (tail ++ rest) := by
  cases h with
  | @mk bs note hb hnote hline hapart =>
    rw [List.append_assoc]
    by_cases hne : bs = []
    · subst hne
      cases hnote with
      | none =>
        refine Token.endsBefore_of_blank (fun c hc => ?_) before
        rw [hrest c hc]
        exact isBlank_newline
      | comment note =>
        exact Token.endsBefore_comment_iff.2 fun hrun => hapart (by simp) hrun rfl
    · exact Token.endsBefore_of_blanks hb hne before _

end LineTail

/-- What stands between the end of a token and the end of its line. -/
theorem LineTail.of_endsBefore {before : Token} {bs note rest : List Char} (hb : InlineBlanks bs)
    (hnote : OptionalComment note) (hline : '\n' ∉ note)
    (hbefore : before.EndsBefore (bs ++ (note ++ rest))) : LineTail before (bs ++ note) := by
  refine .mk hb hnote hline fun hne hrun hbs => ?_
  subst hbs
  cases hnote with
  | none => exact hne rfl
  | comment note => exact Token.endsBefore_comment_iff.1 hbefore hrun

/-- Where a line ends, blanks and perhaps a comment stand before its end. -/
theorem Reads.exists_of_endsLine {cs rest : List Char} {t : Token} (h : Reads cs t rest)
    (ht : t.EndsLine) :
    ∃ bs note ending, InlineBlanks bs ∧ OptionalComment note ∧ '\n' ∉ note ∧
      cs = bs ++ (note ++ ending) ∧
      (t = .newline ∧ ending = '\n' :: rest ∨ t = .endOfText ∧ ending = []) := by
  induction h with
  | blank hc _ ih =>
    obtain ⟨bs, note, ending, hb, hnote, hline, rfl, hending⟩ := ih ht
    exact ⟨_ :: bs, note, ending, .cons hc hb, hnote, hline, rfl, hending⟩
  | newline rest => exact ⟨[], [], _, .nil, .none, by simp, rfl, .inl ⟨rfl, rfl⟩⟩
  | @newlineAfter note rest hline =>
    exact ⟨[], _, _, .nil, .comment note, by simp [hline], rfl, .inl ⟨rfl, rfl⟩⟩
  | endOfText => exact ⟨[], [], [], .nil, .none, by simp, rfl, .inr ⟨rfl, rfl⟩⟩
  | @endOfTextAfter note hline =>
    exact ⟨[], _, [], .nil, .comment note, by simp [hline], by simp, .inr ⟨rfl, rfl⟩⟩
  | tilde | comma | operator | text => rcases ht with ht | ht <;> cases ht

/-! ## One token after the other -/

namespace TokensAfter

theorem endsBefore {before : Token} {cs : List Char} {ts : List Token}
    (h : TokensAfter before cs ts) : before.EndsBefore cs := by
  cases h with
  | ending h =>
    have hend : before.EndsBefore (cs ++ []) := h.endsBefore (by simp)
    rwa [List.append_nil] at hend
  | newline h _ => exact h.endsBefore (by simp)
  | @within _ t bs cs ts hb ht hwithin hapart _ =>
    by_cases hne : bs = []
    · subst hne
      exact (Token.endsBefore_chars_iff ht hwithin cs).2 fun hruns => hapart hruns rfl
    · exact Token.endsBefore_of_blanks hb hne before _

/-- A text of no tokens is a text whose end is read. -/
theorem nil_iff {before : Token} {cs : List Char} :
    TokensAfter before cs [] ↔ before.EndsBefore cs ∧ Reads cs .endOfText [] := by
  constructor
  · intro h
    refine ⟨h.endsBefore, ?_⟩
    cases h with
    | ending h => exact h.reads
  · rintro ⟨hbefore, hreads⟩
    obtain ⟨bs, note, ending, hb, hnote, hline, rfl, hending⟩ :=
      hreads.exists_of_endsLine (.inr rfl)
    obtain ⟨hnewline, -⟩ | ⟨-, rfl⟩ := hending
    · cases hnewline
    · have htail := LineTail.of_endsBefore hb hnote hline hbefore
      rw [List.append_nil]
      exact .ending htail

/-- The first token of a text is what is read, and the others come after it. -/
theorem cons_iff {before t : Token} {cs : List Char} {ts : List Token} :
    TokensAfter before cs (t :: ts) ↔
      before.EndsBefore cs ∧ t ≠ .endOfText ∧ ∃ rest, Reads cs t rest ∧ TokensAfter t rest ts := by
  constructor
  · intro h
    refine ⟨h.endsBefore, ?_⟩
    cases h with
    | @newline _ tail rest _ h hlater =>
      exact ⟨by simp, rest, h.reads_newline rest, hlater⟩
    | @within _ _ bs rest _ hb ht hwithin _ hlater =>
      refine ⟨fun hend => hwithin (.inr hend), rest, ?_, hlater⟩
      exact .blanks hb (Token.reads ht hwithin hlater.endsBefore)
  · rintro ⟨hbefore, hne, rest, hreads, hlater⟩
    by_cases hends : t.EndsLine
    · obtain ⟨bs, note, ending, hb, hnote, hline, rfl, hending⟩ := hreads.exists_of_endsLine hends
      obtain ⟨rfl, rfl⟩ | ⟨rfl, -⟩ := hending
      · rw [← List.append_assoc]
        exact .newline (.of_endsBefore hb hnote hline hbefore) hlater
      · exact absurd rfl hne
    · obtain ⟨bs, hb, rfl⟩ := hreads.eq_chars hends
      have ht := hreads.isWritable hne
      refine .within hb ht hends (fun hruns hbs => ?_) hlater
      subst hbs
      exact (Token.endsBefore_chars_iff ht hends rest).1 hbefore hruns

theorem isWritable {before : Token} {cs : List Char} {ts : List Token}
    (h : TokensAfter before cs ts) : ∀ t ∈ ts, t.IsWritable := by
  induction h with
  | ending => simp
  | newline _ _ ih => exact List.forall_mem_cons.2 ⟨trivial, ih⟩
  | within _ ht _ _ _ ih => exact List.forall_mem_cons.2 ⟨ht, ih⟩

end TokensAfter

/-- Any tokens that a text can be made of make up a text. -/
theorem exists_tokensAfter {ts : List Token} (h : ∀ t ∈ ts, t.IsWritable) (before : Token) :
    ∃ cs, TokensAfter before cs ts := by
  have htail : ∀ before, LineTail before [] := fun before =>
    .mk .nil .none (by simp) fun hne => absurd rfl hne
  induction ts generalizing before with
  | nil => exact ⟨[], .ending (htail before)⟩
  | cons t ts ih =>
    obtain ⟨ht, hlater⟩ := List.forall_mem_cons.1 h
    obtain ⟨cs, hcs⟩ := ih hlater t
    by_cases hends : t.EndsLine
    · rcases hends with rfl | rfl
      · exact ⟨_, .newline (htail before) hcs⟩
      · exact ht.elim
    · -- a blank before every token is enough, though seldom needed
      have hb : InlineBlanks [' '] := .cons (by decide) .nil
      exact ⟨_, .within hb ht hends (fun _ => by simp) hcs⟩

/-! ## Reading on and on -/

/-- Of several tokens the first is read first. -/
theorem Cursor.nextTokens_succ_iff {n : Nat} {c c' : Cursor} {t : Token} {ts : List Token} :
    c.nextTokens (n + 1) = .ok (t :: ts, c') ↔
      ∃ c₁, c.next = .ok (t, c₁) ∧ c₁.nextTokens n = .ok (ts, c') := by
  rw [nextTokens]
  cases c.next with
  | error cause => simp
  | ok found =>
    obtain ⟨t₁, c₁⟩ := found
    dsimp only
    constructor
    · intro h
      cases hlater : c₁.nextTokens n with
      | error cause => simp only [hlater, reduceCtorEq] at h
      | ok later =>
        rw [hlater] at h
        cases h
        exact ⟨c₁, rfl, hlater⟩
    · rintro ⟨c₂, hnext, hlater⟩
      cases hnext
      rw [hlater]

theorem Token.count_newline_cons (t : Token) (ts : List Token) :
    (t :: ts).count .newline = t.newlines + ts.count .newline := by
  cases t <;> simp [newlines, Nat.add_comm]

/-- The tokens of a text are read back, with the end of the text for all that are asked for
beyond them, and the lines are counted on the way. -/
theorem TokensAfter.nextTokens {before : Token} {cs : List Char} {ts : List Token}
    (h : TokensAfter before cs ts) (n line : Nat) :
    ∃ c, Cursor.nextTokens n ⟨cs, line⟩ = .ok (ts.takeD n .endOfText, c) ∧
      c.line = line + (ts.takeD n .endOfText).count .newline := by
  -- the induction is on what is asked for, since the end is read over and over
  induction n generalizing before cs ts line with
  | zero => exact ⟨_, rfl, rfl⟩
  | succ n ih =>
    obtain ⟨rest, hreads, hlater⟩ : ∃ rest, Reads cs (ts.head?.getD .endOfText) rest ∧
        TokensAfter (ts.head?.getD .endOfText) rest ts.tail := by
      cases ts with
      | nil =>
        obtain ⟨-, hreads⟩ := nil_iff.1 h
        exact ⟨[], hreads, nil_iff.2 ⟨trivial, .endOfText⟩⟩
      | cons t ts => exact (cons_iff.1 h).2.2
    obtain ⟨c, hc, hline⟩ := ih hlater (line + (ts.head?.getD .endOfText).newlines)
    rw [List.takeD_succ, Token.count_newline_cons, ← Nat.add_assoc]
    exact ⟨c, Cursor.nextTokens_succ_iff.2 ⟨_, next_of_reads hreads line, hc⟩, hline⟩

/-- Where these tokens are read and then the end, the text is made of them. -/
theorem tokensAfter_of_nextTokens {before : Token} {cs : List Char} {ts : List Token}
    {line : Nat} {c : Cursor} (hend : .endOfText ∉ ts) (hbefore : before.EndsBefore cs)
    (h : Cursor.nextTokens (ts.length + 1) ⟨cs, line⟩ =
      .ok (ts.takeD (ts.length + 1) .endOfText, c)) : TokensAfter before cs ts := by
  induction ts generalizing before cs line with
  | nil =>
    obtain ⟨c₁, hnext, -⟩ := Cursor.nextTokens_succ_iff.1 h
    have hreads := (reads_of_next hnext).1
    rw [hreads.rest_of_endOfText] at hreads
    exact TokensAfter.nil_iff.2 ⟨hbefore, hreads⟩
  | cons t ts ih =>
    obtain ⟨c₁, hnext, hlater⟩ := Cursor.nextTokens_succ_iff.1 h
    have hreads := (reads_of_next hnext).1
    rw [List.mem_cons, not_or] at hend
    exact TokensAfter.cons_iff.2
      ⟨hbefore, Ne.symm hend.1, c₁.rest, hreads, ih hend.2 hreads.endsBefore hlater⟩

/-- The tokens of a text are read back. Texts can be made of any tokens but the end, where
runs are paths. Just from a text that is made of them they are read one after the other, and
then the end over and over, and at every point the line is one more than the newlines read.
And wherever the reader stands, a run that it finds is a path. -/
theorem tokens_of_a_text_are_read_back :
    (∀ ts : List Token, (∃ text, TokensText text ts) ↔ ∀ t ∈ ts, t.IsWritable) ∧
    (∀ (text : String) (ts : List Token), TokensText text ts ↔
      .endOfText ∉ ts ∧ ∀ n, ∃ c,
        (Cursor.start text).nextTokens n = .ok (ts.takeD n .endOfText, c) ∧
        c.line = 1 + (ts.takeD n .endOfText).count .newline) ∧
    ∀ (c c' : Cursor) (run : String), c.next = .ok (.text run, c') → IsPath run.toList := by
  refine ⟨fun ts => ?_, fun text ts => ?_, fun c c' run hnext => ?_⟩
  · constructor
    · rintro ⟨text, htext⟩
      exact htext.isWritable
    · intro hts
      obtain ⟨cs, hcs⟩ := exists_tokensAfter hts .newline
      exact ⟨String.ofList cs, by rwa [TokensText, String.toList_ofList]⟩
  · constructor
    · intro htext
      exact ⟨fun hend => htext.isWritable _ hend, fun n => htext.nextTokens n 1⟩
    · rintro ⟨hend, hread⟩
      obtain ⟨c, hc, -⟩ := hread (ts.length + 1)
      exact tokensAfter_of_nextTokens hend trivial hc
  · exact ((reads_of_next hnext).1.isPath rfl).1

/-- For instance, a path right after a tilde, one that begins with an equals sign, and a
comment before the end of the line; and two slashes within a path, which begin no comment. -/
theorem tokens_of_a_text_are_read_back_with_an_equals_sign_in_a_path :
    (∀ t ∈ [.tilde, .text "a/b", .operator .lessThan, .text "=1", .newline],
      Token.IsWritable t) ∧
    TokensText "~a/b < =1 // load\n"
      [.tilde, .text "a/b", .operator .lessThan, .text "=1", .newline] ∧
    (∃ c, (Cursor.start "~a/b < =1 // load\n").nextTokens 7 =
        .ok ([.tilde, .text "a/b", .operator .lessThan, .text "=1", .newline, .endOfText,
          .endOfText], c) ∧ c.line = 2) ∧
    Cursor.next ⟨"\t#.x//y z".toList, 3⟩ = .ok (.text "#.x//y", ⟨" z".toList, 3⟩) ∧
    IsPath "#.x//y".toList := by
  have hspace : InlineBlanks [' '] := .cons (by decide) .nil
  have hend : TokensAfter .newline [] [] := .ending (.mk .nil .none (by simp) (by simp))
  have hnote : LineTail (.text "=1") " // load".toList :=
    .mk hspace (.comment " load".toList) (by decide) (by simp)
  have hline : TokensAfter (.text "=1") " // load\n".toList [.newline] := .newline hnote hend
  have hrun : TokensAfter (.operator .lessThan) " =1 // load\n".toList [.text "=1", .newline] :=
    @TokensAfter.within _ (.text "=1") [' '] _ _ hspace (by decide) (by simp [Token.EndsLine])
      (by simp) hline
  have hoperator : TokensAfter (.text "a/b") " < =1 // load\n".toList
      [.operator .lessThan, .text "=1", .newline] :=
    @TokensAfter.within _ (.operator .lessThan) [' '] _ _ hspace (by decide)
      (by simp [Token.EndsLine]) (by simp) hrun
  have hpath : TokensAfter .tilde "a/b < =1 // load\n".toList
      [.text "a/b", .operator .lessThan, .text "=1", .newline] :=
    @TokensAfter.within _ (.text "a/b") [] _ _ .nil (by decide) (by simp [Token.EndsLine])
      False.elim hoperator
  have htext : TokensText "~a/b < =1 // load\n"
      [.tilde, .text "a/b", .operator .lessThan, .text "=1", .newline] :=
    @TokensAfter.within _ .tilde [] _ _ .nil (by decide) (by simp [Token.EndsLine])
      False.elim hpath
  have hnext : Cursor.next ⟨"\t#.x//y z".toList, 3⟩ = .ok (.text "#.x//y", ⟨" z".toList, 3⟩) :=
    rfl
  obtain ⟨hwritable, hread, hpaths⟩ := tokens_of_a_text_are_read_back
  exact ⟨(hwritable _).1 ⟨_, htext⟩, htext, ((hread _ _).1 htext).2 7, hnext,
    hpaths _ _ _ hnext⟩

end MetricCheck
