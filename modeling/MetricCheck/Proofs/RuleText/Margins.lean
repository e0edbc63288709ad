-- Blanks at the edges of lines. Whatever a line of rule text holds and whatever is wrong
-- with it, blanks before it change nothing in what is read, and neither do blanks after it,
-- with or without a comment after them.
import MetricCheck.Proofs.RuleText.Lines

namespace MetricCheck

open Text

/-- A line begins where this text ends. -/
def AtLineStart (before : String) : Prop := ∀ c ∈ before.toList.getLast?, c = '\n'

/-- A line ends where this text begins. -/
def AtLineEnd (after : String) : Prop := ∀ c ∈ after.toList.head?, c = '\n'

/-- The text with a carriage return before each newline. -/
def withReturns (text : String) : String :=
  String.ofList (text.toList.flatMap fun c => if c = '\n' then ['\r', '\n'] else [c])

/-! ## Edges -/

/-- Before a line's beginning the text ends with a newline, if there is any text. -/
theorem AtLineStart.cases {before : String} (h : AtLineStart before) :
    before = "" ∨ ∃ earlier, before = earlier ++ "\n" := by
  rcases List.eq_nil_or_concat before.toList with hnil | ⟨earlier, c, hcs⟩
  · exact .inl (String.toList_eq_nil_iff.1 hnil)
  · right
    obtain rfl : c = '\n' := h c (by rw [hcs]; simp)
    refine ⟨String.ofList earlier, ?_⟩
    rw [← String.toList_inj, hcs]
    simp

/-- After a line's end the text begins with a newline, if there is any text. -/
theorem AtLineEnd.cases {after : String} (h : AtLineEnd after) :
    after = "" ∨ ∃ later, after = "\n" ++ later := by
  cases hcs : after.toList with
  | nil => exact .inl (String.toList_eq_nil_iff.1 hcs)
  | cons c later =>
    right
    obtain rfl : c = '\n' := h c (by rw [hcs]; rfl)
    refine ⟨String.ofList later, ?_⟩
    rw [← String.toList_inj, hcs]
    simp

/-- What does not see blanks at the ends of lines does not see carriage returns there. -/
theorem apply_withReturns {α : Type} {f : String → α}
    (h : ∀ before blanks after : String, AtLineEnd after → blanks ≠ "" →
      InlineBlanks blanks.toList → f (before ++ blanks ++ after) = f (before ++ after))
    (text : String) : f (withReturns text) = f text := by
  -- the induction is on what is left of the text, after any text before it
  have hall : ∀ (cs : List Char) (before : String),
      f (before ++ withReturns (String.ofList cs)) = f (before ++ String.ofList cs) := by
    intro cs
    induction cs with
    | nil => exact fun before => rfl
    | cons c cs ih =>
      intro before
      by_cases hc : c = '\n'
      · subst hc
        have hlong : before ++ withReturns (String.ofList ('\n' :: cs)) =
            (before ++ "\r\n") ++ withReturns (String.ofList cs) := by
          rw [← String.toList_inj]
          simp [withReturns]
        have hreturn : (before ++ "\r\n") ++ String.ofList cs =
            before ++ "\r" ++ ("\n" ++ String.ofList cs) := by
          rw [← String.toList_inj]
          simp
        have hend : AtLineEnd ("\n" ++ String.ofList cs) := by simp [AtLineEnd]
        have hblank : InlineBlanks "\r".toList := .cons (by decide) .nil
        rw [hlong, ih, hreturn, h _ _ _ hend (by decide) hblank, String.ofList_cons]
        rfl
      · have hlong : before ++ withReturns (String.ofList (c :: cs)) =
            (before ++ String.ofList [c]) ++ withReturns (String.ofList cs) := by
          rw [← String.toList_inj]
          simp [withReturns, hc]
        have hshort : before ++ String.ofList (c :: cs) =
            (before ++ String.ofList [c]) ++ String.ofList cs := by
          rw [← String.toList_inj]
          simp
        rw [hlong, ih, hshort]
  simpa using hall text.toList ""

/-! ## Ends of lines -/

theorem OptionalComment.reads_newline {blanks note : List Char} (hb : InlineBlanks blanks)
    (hnote : OptionalComment note) (hline : '\n' ∉ note) (rest : List Char) :
    Reads (blanks ++ (note ++ '\n' :: rest)) .newline rest := by
  cases hnote with
  | none => exact .blanks hb (.newline rest)
  | comment note =>
    refine .blanks hb (.newlineAfter fun hmem => hline ?_)
    exact List.mem_cons_of_mem _ (List.mem_cons_of_mem _ hmem)

/-- The end of a line stays one when blanks, and perhaps a comment, are put before it. -/
theorem AtLineEnd.lineEnd {after : String} (h : AtLineEnd after) :
    ∃ ending rest, LineEnd after.toList ending rest ∧
      ∀ {blanks note : List Char}, blanks ≠ [] → InlineBlanks blanks → OptionalComment note →
        '\n' ∉ note → LineEnd (blanks ++ (note ++ after.toList)) ending rest := by
  have hdetached : ∀ {blanks later : List Char}, blanks ≠ [] → InlineBlanks blanks →
      ∀ c ∈ (blanks ++ later).head?, isBlank c = true := by
    intro blanks later hne hb c hc
    obtain ⟨b, bs, rfl⟩ := List.exists_cons_of_ne_nil hne
    obtain rfl : b = c := by simpa using hc
    exact isBlank_of_isInlineBlank (hb b List.mem_cons_self)
  rcases h.cases with rfl | ⟨later, rfl⟩
  · refine ⟨.endOfText, [], lineEnd_nil, fun {blanks note} hne hb hnote hline => ?_⟩
    have hreads := hnote.reads hb hline
    exact ⟨by simpa using hreads, .inr rfl, hdetached hne hb⟩
  · have htext : ("\n" ++ later).toList = '\n' :: later.toList := by simp
    rw [htext]
    refine ⟨.newline, later.toList, lineEnd_newline _, fun hne hb hnote hline => ?_⟩
    exact ⟨hnote.reads_newline hb hline _, .inl rfl, hdetached hne hb⟩

/-- How a text goes on after the end of its last line is all that counts of a tail. -/
theorem RuleReading.ofText_append_lineEnd {tail tail' : String} {rest : List Char} {ending : Token}
    (h : LineEnd tail.toList ending rest) (h' : LineEnd tail'.toList ending rest) (a : String) :
    ofText (a ++ tail) = ofText (a ++ tail') := by
  have hread := fromCursor_onto h (.start a) 0
  have hread' := fromCursor_onto h' (.start a) 0
  rw [← hread'] at hread
  simpa only [ofText, Cursor.start, Cursor.onto, String.toList_append] using hread

theorem RuleReading.ofText_margin {before blanks note after : String} (hafter : AtLineEnd after)
    (hne : blanks ≠ "") (hb : InlineBlanks blanks.toList) (hnote : OptionalComment note.toList)
    (hline : '\n' ∉ note.toList) :
    ofText (before ++ (blanks ++ note) ++ after) = ofText (before ++ after) := by
  obtain ⟨ending, rest, hend, hmargin⟩ := hafter.lineEnd
  have hne : blanks.toList ≠ [] := fun hnil => hne (String.toList_eq_nil_iff.1 hnil)
  have hlong : LineEnd (blanks ++ note ++ after).toList ending rest := by
    simpa using hmargin hne hb hnote hline
  rw [String.append_assoc]
  exact ofText_append_lineEnd hlong hend before

/-! ## Beginnings of lines -/

namespace Cursor

variable {blanks : List Char} (hb : InlineBlanks blanks) (cs : List Char) (line : Nat)
include hb

theorem next_blanks : next ⟨blanks ++ cs, line⟩ = next ⟨cs, line⟩ := by
  induction blanks with
  | nil => rfl
  | cons b blanks ih =>
    obtain ⟨hfirst, hlater⟩ := List.forall_mem_cons.1 hb
    rw [List.cons_append, next_blank hfirst, ih hlater]

theorem nextOnLine_blanks : nextOnLine ⟨blanks ++ cs, line⟩ = nextOnLine ⟨cs, line⟩ := by
  rw [nextOnLine_eq, nextOnLine_eq ⟨cs, line⟩, next_blanks hb]

theorem nextRule_blanks : nextRule ⟨blanks ++ cs, line⟩ = nextRule ⟨cs, line⟩ := by
  unfold nextRule
  rw [nextOnLine_blanks hb]

end Cursor

namespace RuleReading

theorem fromCursor_blanks {blanks : List Char} (hb : InlineBlanks blanks) (cs : List Char)
    (line : Nat) : fromCursor ⟨blanks ++ cs, line⟩ = fromCursor ⟨cs, line⟩ := by
  rw [fromCursor_eq, Cursor.nextRule_blanks hb, ← fromCursor_eq]

theorem ofText_indent {before blanks after : String} (hbefore : AtLineStart before)
    (hb : InlineBlanks blanks.toList) :
    ofText (before ++ blanks ++ after) = ofText (before ++ after) := by
  rcases hbefore.cases with rfl | ⟨earlier, rfl⟩
  · simpa [ofText, Cursor.start] using fromCursor_blanks hb after.toList 1
  · have hread := fun line => fromCursor_blanks hb after.toList line
    rw [String.append_assoc, ofText_append, ofText_append, String.toList_append]
    simp only [hread]

end RuleReading

/-! ## The law -/

/-- Blanks at the edges of lines do not count, in good texts and in bad ones: not at the end
of a line, where a comment may come after them, and not at its beginning. What is read stays
the same, and so does a defect with its line and all that is said of it. In particular lines
may end with carriage returns. -/
theorem blanks_at_line_edges_do_not_count :
    (∀ before blanks note after : String, AtLineEnd after → blanks ≠ "" →
      InlineBlanks blanks.toList → OptionalComment note.toList → '\n' ∉ note.toList →
      parseRules (before ++ (blanks ++ note) ++ after) = parseRules (before ++ after)) ∧
    (∀ before blanks after : String, AtLineStart before → InlineBlanks blanks.toList →
      parseRules (before ++ blanks ++ after) = parseRules (before ++ after)) ∧
    ∀ text : String, parseRules (withReturns text) = parseRules text := by
  have hend : ∀ before blanks note after : String, AtLineEnd after → blanks ≠ "" →
      InlineBlanks blanks.toList → OptionalComment note.toList → '\n' ∉ note.toList →
      parseRules (before ++ (blanks ++ note) ++ after) = parseRules (before ++ after) := by
    intro before blanks note after hafter hne hb hnote hline
    rw [parseRules, RuleReading.ofText_margin hafter hne hb hnote hline, parseRules]
  refine ⟨hend, fun before blanks after hbefore hb => ?_, apply_withReturns ?_⟩
  · rw [parseRules, RuleReading.ofText_indent hbefore hb, parseRules]
  · intro before blanks after hafter hne hb
    simpa using hend before blanks "" after hafter hne hb .none (by simp)

/-- For instance, a carriage return and a comment where a bound is missing, and a tab before
the line after it. -/
theorem blanks_at_line_edges_do_not_count_where_a_bound_is_missing :
    (AtLineEnd "\n~mem" ∧ InlineBlanks "\r ".toList ∧ OptionalComment "// load".toList) ∧
    parseRules ("cpu >" ++ ("\r " ++ "// load") ++ "\n~mem") = parseRules ("cpu >" ++ "\n~mem") ∧
    (AtLineStart "cpu >\n" ∧ InlineBlanks "\t".toList) ∧
    parseRules ("cpu >\n" ++ "\t" ++ "~mem") = parseRules ("cpu >\n" ++ "~mem") ∧
    parseRules "cpu >\n~mem" = .error ⟨1, .expected .number "end of line"⟩ := by
  have hreturn : InlineBlanks "\r ".toList := .cons (by decide) (.cons (by decide) .nil)
  have htab : InlineBlanks "\t".toList := .cons (by decide) .nil
  have hnote : OptionalComment "// load".toList := .comment " load".toList
  have hend : AtLineEnd "\n~mem" := by simp [AtLineEnd]
  have hstart : AtLineStart "cpu >\n" := by simp [AtLineStart]
  obtain ⟨hmargin, hindent, -⟩ := blanks_at_line_edges_do_not_count
  exact ⟨⟨hend, hreturn, hnote⟩, hmargin _ _ _ _ hend (by decide) hreturn hnote (by decide),
    ⟨hstart, htab⟩, hindent _ _ _ hstart htab, by decide +kernel⟩

end MetricCheck
