-- The escape character, with which all begins that steers a terminal. A text without one is read
-- as rules and metrics without one, or there is a complaint without one: what is quoted of a
-- text stands in the text, and the words around it are plain.
import MetricCheck.Proofs.ViolationText

namespace MetricCheck

open Text

/-- The escape character is not in the text. -/
def NoEscape (text : String) : Prop := '\x1b' ∉ text.toList

instance (text : String) : Decidable (NoEscape text) :=
  inferInstanceAs (Decidable ('\x1b' ∉ text.toList))

@[simp] theorem noEscape_append {first second : String} :
    NoEscape (first ++ second) ↔ NoEscape first ∧ NoEscape second := by
  simp [NoEscape]

theorem noEscape_ofList {cs : List Char} : NoEscape (String.ofList cs) ↔ '\x1b' ∉ cs := by
  rw [NoEscape, String.toList_ofList]

theorem isNumeral_escape : Cursor.isNumeral '\x1b' = false := by decide

theorem noEscape_toString (n : Nat) : NoEscape (toString n) := by
  intro hmem
  rw [Nat.toString_eq_repr, Nat.toList_repr] at hmem
  have hdigit := isDigits_toDigits n _ hmem
  cases hdigit

/-! ## Results -/

/-- There is no escape character in the complaint, or what was read is clean. -/
def Clean {ε α : Type} (message : ε → String) (clean : α → Prop) : Except ε α → Prop
  | .error e => NoEscape (message e)
  | .ok x => clean x

section

variable {ε α : Type} {message : ε → String} {clean : α → Prop} {result : Except ε α}

theorem Clean.of_error {e : ε} (h : Clean message clean result) (hresult : result = .error e) :
    NoEscape (message e) := by
  rwa [hresult] at h

theorem Clean.of_ok {x : α} (h : Clean message clean result) (hresult : result = .ok x) :
    clean x := by
  rwa [hresult] at h

end

/-! ## Rule text -/

/-- What was read is clean, and there is no escape character in the text that is left. -/
def CleanBefore {α : Type} (clean : α → Prop) (found : α × Cursor) : Prop :=
  clean found.1 ∧ '\x1b' ∉ found.2.rest

theorem noEscape_expected {wanted : ParseError.Wanted} {found : String} (h : NoEscape found) :
    NoEscape (ParseError.Cause.expected wanted found).message := by
  have hmessage : (ParseError.Cause.expected wanted found).message =
      "expected " ++ wanted.text ++ ", but got " ++ found := rfl
  have hwanted : NoEscape wanted.text := by cases wanted <;> decide
  rw [hmessage]
  simp only [noEscape_append]
  exact ⟨⟨⟨by decide, hwanted⟩, by decide⟩, h⟩

theorem noEscape_unexpectedEnd (wanted : ParseError.Wanted) :
    NoEscape (ParseError.Cause.unexpectedEnd wanted).message := by
  cases wanted <;> decide

theorem noEscape_invalidNumber {text : String} (h : NoEscape text) :
    NoEscape (ParseError.Cause.invalidNumber text).message := by
  have hmessage : (ParseError.Cause.invalidNumber text).message =
      "cannot convert '" ++ text ++ "' to a number" := rfl
  rw [hmessage]
  simp only [noEscape_append]
  exact ⟨⟨by decide, h⟩, by decide⟩

theorem ParseError.noEscape_message {line : Nat} {cause : Cause} (h : NoEscape cause.message) :
    NoEscape (ParseError.mk line cause).message := by
  have hmessage : (ParseError.mk line cause).message =
      "parse error on line " ++ toString line ++ ": " ++ cause.message := rfl
  rw [hmessage]
  simp only [noEscape_append]
  exact ⟨⟨⟨by decide, noEscape_toString line⟩, by decide⟩, h⟩

theorem Token.noEscape_describe_text {run : String} :
    NoEscape (Token.text run).describe ↔ NoEscape run := by
  have hquote : NoEscape "'" := by decide
  simp [Token.describe, hquote]

theorem Reads.cleanBefore {cs rest : List Char} {t : Token} (h : Reads cs t rest)
    (hcs : '\x1b' ∉ cs) : NoEscape t.describe ∧ '\x1b' ∉ rest := by
  induction h with
  | blank _ _ ih => exact ih (List.not_mem_of_not_mem_cons hcs)
  | tilde | comma | newline => exact ⟨by decide, List.not_mem_of_not_mem_cons hcs⟩
  | @operator op rest =>
    rw [List.mem_append, not_or] at hcs
    exact ⟨by cases op <;> decide, hcs.2⟩
  | text =>
    rw [List.mem_append, not_or] at hcs
    exact ⟨Token.noEscape_describe_text.2 (noEscape_ofList.2 hcs.1), hcs.2⟩
  | newlineAfter =>
    simp only [List.mem_cons, List.mem_append, not_or] at hcs
    exact ⟨by decide, hcs.2.2.2.2⟩
  | endOfText | endOfTextAfter => exact ⟨by decide, List.not_mem_nil⟩

namespace Cursor

variable {c : Cursor}

theorem clean_next (h : '\x1b' ∉ c.rest) :
    Clean ParseError.Cause.message (CleanBefore fun t => NoEscape t.describe) c.next := by
  cases hnext : c.next with
  | error cause =>
    obtain ⟨-, rfl⟩ := stopsAtSlash_of_next hnext
    exact show NoEscape ParseError.Cause.loneSlash.message by decide
  | ok found => exact (reads_of_next hnext).1.cleanBefore h

theorem clean_number (h : '\x1b' ∉ c.rest) :
    Clean ParseError.Cause.message (CleanBefore fun _ => True) c.number := by
  have hahead : '\x1b' ∉ c.rest.dropWhile isInlineBlank :=
    fun hmem => h (List.dropWhile_suffix _ |>.mem hmem)
  unfold number
  simp only
  split
  · split
    · rename_i hnext
      exact (clean_next h).of_error hnext
    · exact noEscape_unexpectedEnd _
    · rename_i hnext
      exact noEscape_expected ((clean_next h).of_ok hnext).1
  · split
    · exact ⟨trivial, fun hmem => hahead (List.dropWhile_suffix _ |>.mem hmem)⟩
    · refine noEscape_invalidNumber (noEscape_ofList.2 fun hmem => ?_)
      exact hahead (List.takeWhile_prefix _ |>.mem hmem)

theorem clean_constraints {t : Token} (ht : NoEscape t.describe) (h : '\x1b' ∉ c.rest) :
    Clean ParseError.Cause.message (CleanBefore fun _ => True) (constraints t c) := by
  fun_induction constraints t c with
  | case1 c op cause hn => exact (clean_number h).of_error hn
  | case2 c op bound c₁ hn cause hc =>
    have hbound := (clean_number h).of_ok hn
    exact (clean_next hbound.2).of_error hc
  | case3 c op bound c₁ hn c₂ hc | case4 c op bound c₁ hn c₂ hc =>
    have hbound := (clean_number h).of_ok hn
    exact ⟨trivial, ((clean_next hbound.2).of_ok hc).2⟩
  | case5 c op bound c₁ hn c₂ hc cause hnext =>
    have hbound := (clean_number h).of_ok hn
    have hcomma := (clean_next hbound.2).of_ok hc
    exact (clean_next hcomma.2).of_error hnext
  | case6 c op bound c₁ hn c₂ hc t' c₃ hnext cause hmore ih =>
    have hbound := (clean_number h).of_ok hn
    have hcomma := (clean_next hbound.2).of_ok hc
    have hfirst := (clean_next hcomma.2).of_ok hnext
    exact (ih hfirst.1 hfirst.2).of_error hmore
  | case7 c op bound c₁ hn c₂ hc t' c₃ hnext more c₄ hmore ih =>
    have hbound := (clean_number h).of_ok hn
    have hcomma := (clean_next hbound.2).of_ok hc
    have hfirst := (clean_next hcomma.2).of_ok hnext
    exact ⟨trivial, ((ih hfirst.1 hfirst.2).of_ok hmore).2⟩
  | case8 c op bound c₁ hn other c₂ _ _ _ hc =>
    have hbound := (clean_number h).of_ok hn
    exact noEscape_expected ((clean_next hbound.2).of_ok hc).1
  | case9 c => exact noEscape_unexpectedEnd _
  | case10 c other => exact noEscape_expected ht

theorem clean_ruleAt {t : Token} (ht : NoEscape t.describe) (h : '\x1b' ∉ c.rest)
    (required : Bool) :
    Clean ParseError.Cause.message (CleanBefore fun r => NoEscape r.path)
      (ruleAt required t c) := by
  unfold ruleAt
  split
  · rename_i path
    have hpath : NoEscape path := Token.noEscape_describe_text.1 ht
    split
    · rename_i hnext
      exact (clean_next h).of_error hnext
    · rename_i hnext
      exact ⟨hpath, ((clean_next h).of_ok hnext).2⟩
    · rename_i hnext
      exact ⟨hpath, ((clean_next h).of_ok hnext).2⟩
    · rename_i hnext
      have hfirst := (clean_next h).of_ok hnext
      split
      · rename_i hc
        exact (clean_constraints hfirst.1 hfirst.2).of_error hc
      · rename_i hc
        exact ⟨hpath, ((clean_constraints hfirst.1 hfirst.2).of_ok hc).2⟩
  · exact noEscape_unexpectedEnd _
  · exact noEscape_expected ht

theorem clean_ruleFrom {t : Token} (ht : NoEscape t.describe) (h : '\x1b' ∉ c.rest) :
    Clean ParseError.Cause.message (CleanBefore fun r => NoEscape r.path) (ruleFrom t c) := by
  unfold ruleFrom
  split
  · split
    · rename_i hnext
      exact (clean_next h).of_error hnext
    · rename_i hnext
      have hpath := (clean_next h).of_ok hnext
      exact clean_ruleAt hpath.1 hpath.2 false
  · exact clean_ruleAt ht h true

theorem clean_nextOnLine (h : '\x1b' ∉ c.rest) :
    Clean ParseError.message (CleanBefore fun t => NoEscape t.describe) c.nextOnLine := by
  fun_induction nextOnLine c with
  | case1 c cause hnext => exact ParseError.noEscape_message ((clean_next h).of_error hnext)
  | case2 c c₁ hnext ih => exact ih ((clean_next h).of_ok hnext).2
  | case3 c found hne hnext => exact (clean_next h).of_ok hnext

theorem clean_nextRule (h : '\x1b' ∉ c.rest) :
    Clean ParseError.message
      (CleanBefore fun found => ∀ located ∈ found, NoEscape located.rule.path) c.nextRule := by
  have honLine := clean_nextOnLine h
  cases hc : c.nextOnLine with
  | error e =>
    rw [nextRule_of_error hc]
    exact honLine.of_error hc
  | ok found =>
    obtain ⟨t, c₁⟩ := found
    have hfirst := honLine.of_ok hc
    by_cases ht : t = .endOfText
    · subst ht
      rw [nextRule_of_endOfText hc]
      exact ⟨nofun, hfirst.2⟩
    · have hrule := clean_ruleFrom hfirst.1 hfirst.2
      rw [nextRule_of_token hc ht]
      cases hfrom : ruleFrom t c₁ with
      | error cause => exact ParseError.noEscape_message (hrule.of_error hfrom)
      | ok found =>
        have hpath := hrule.of_ok hfrom
        exact ⟨fun _ hlocated => Option.some.inj hlocated ▸ hpath.1, hpath.2⟩

end Cursor

theorem RuleReading.noEscape_fromCursor {c : Cursor} (h : '\x1b' ∉ c.rest) :
    (∀ located ∈ (fromCursor c).found, NoEscape located.rule.path) ∧
      ∀ e, (fromCursor c).ending = .error e → NoEscape e.message := by
  fun_induction fromCursor c with
  | case1 c e hc =>
    refine ⟨List.forall_mem_nil _, fun e' he => ?_⟩
    cases he
    exact (c.clean_nextRule h).of_error hc
  | case2 c c' hc =>
    refine ⟨List.forall_mem_nil _, fun e he => ?_⟩
    cases he
  | case3 c located c' hc later ih =>
    have hrule := (c.clean_nextRule h).of_ok hc
    obtain ⟨hfound, hending⟩ := ih hrule.2
    exact ⟨List.forall_mem_cons.2 ⟨hrule.1 located rfl, hfound⟩, hending⟩

theorem clean_parseRules {text : String} (h : NoEscape text) :
    Clean ParseError.message (fun rules => ∀ r ∈ rules, NoEscape r.path) (parseRules text) := by
  obtain ⟨hfound, hending⟩ := @RuleReading.noEscape_fromCursor (.start text) h
  unfold parseRules RuleReading.rules RuleReading.ofText
  cases hends : (RuleReading.fromCursor (.start text)).ending with
  | error e => exact hending e hends
  | ok count =>
    intro r hr
    obtain ⟨located, hlocated, rfl⟩ := List.mem_map.1 hr
    exact hfound located hlocated

/-! ## Metric text -/

/-- A piece has its characters from the text. -/
theorem mem_of_mem_splitBy {p : Char → Bool} {cs piece : List Char} (h : piece ∈ splitBy p cs)
    {c : Char} (hc : c ∈ piece) : c ∈ cs := by
  induction cs generalizing piece with
  | nil =>
    rw [splitBy_nil, List.mem_singleton] at h
    rwa [h] at hc
  | cons d cs ih =>
    by_cases hd : p d
    · rw [splitBy_cons_of_pos hd] at h
      rcases List.mem_cons.1 h with rfl | h
      · cases hc
      · exact List.mem_cons_of_mem d (ih h hc)
    · obtain ⟨first, later, hpieces⟩ := List.exists_cons_of_ne_nil (splitBy_ne_nil p cs)
      rw [splitBy_cons_of_neg hd, hpieces] at h
      rw [hpieces] at ih
      rcases List.mem_cons.1 h with rfl | h
      · rcases List.mem_cons.1 hc with rfl | hc
        · exact List.mem_cons_self
        · exact List.mem_cons_of_mem d (ih List.mem_cons_self hc)
      · exact List.mem_cons_of_mem d (ih (List.mem_cons_of_mem first h) hc)

theorem noEscape_field {line field : List Char} (h : '\x1b' ∉ line) (hfield : field ∈ fields line) :
    NoEscape (String.ofList field) :=
  noEscape_ofList.2 fun hmem => h (mem_of_mem_splitBy (List.mem_filter.1 hfield).1 hmem)

theorem noEscape_quoted {before text : String} (hbefore : NoEscape before)
    (htext : NoEscape text) : NoEscape (before ++ text ++ "'") := by
  simp only [noEscape_append]
  exact ⟨⟨hbefore, htext⟩, by decide⟩

theorem DecodeError.noEscape_message {line : Nat} {cause : Cause} (h : NoEscape cause.message) :
    NoEscape (DecodeError.mk line cause).message := by
  have hmessage : (DecodeError.mk line cause).message =
      "decode error on line " ++ toString line ++ ": " ++ cause.message := rfl
  rw [hmessage]
  simp only [noEscape_append]
  exact ⟨⟨⟨by decide, noEscape_toString line⟩, by decide⟩, h⟩

theorem clean_decodeLine {line : List Char} (h : '\x1b' ∉ line) :
    Clean DecodeError.Cause.message (fun m => NoEscape m.path) (decodeLine line) := by
  by_cases hthree : (fields line).length = 3
  · obtain ⟨path, value, seconds, hfields⟩ := List.length_eq_three.1 hthree
    have hfield : ∀ field ∈ fields line, NoEscape (String.ofList field) :=
      fun field => noEscape_field h
    rw [hfields] at hfield
    rw [decodeLine_of_fields hfields]
    cases Binary64.read value with
    | none => exact noEscape_quoted (by decide) (hfield value (by simp))
    | some number =>
      dsimp only
      cases (readInt seconds).bind Timestamp.ofSeconds? with
      | none => exact noEscape_quoted (by decide) (hfield seconds (by simp))
      | some time => exact hfield path (by simp)
  · rw [decodeLine_of_length_ne hthree]
    exact noEscape_append.2 ⟨by decide, noEscape_toString _⟩

theorem clean_decodeLines {found : List (List Char)} (h : ∀ line ∈ found, '\x1b' ∉ line)
    (number : Nat) :
    Clean DecodeError.message (fun metrics => ∀ m ∈ metrics, NoEscape m.path)
      (decodeLines number found) := by
  induction found generalizing number with
  | nil => exact List.forall_mem_nil _
  | cons line found ih =>
    obtain ⟨hline, hlater⟩ := List.forall_mem_cons.1 h
    have hmore := ih hlater (number + 1)
    rw [decodeLines]
    split
    · exact hmore
    · split
      · rename_i hfirst
        exact DecodeError.noEscape_message ((clean_decodeLine hline).of_error hfirst)
      · rename_i hfirst
        split
        · rename_i hrest
          exact hmore.of_error hrest
        · rename_i hrest
          exact List.forall_mem_cons.2
            ⟨(clean_decodeLine hline).of_ok hfirst, hmore.of_ok hrest⟩

theorem clean_parseMetrics {text : String} (h : NoEscape text) :
    Clean DecodeError.message (fun metrics => ∀ m ∈ metrics, NoEscape m.path)
      (parseMetrics text) :=
  clean_decodeLines (fun _ hline hmem => h (mem_of_mem_splitBy hline hmem)) 1

/-! ## Violations -/

theorem Rule.noEscape_text {r : Rule} (h : NoEscape r.path) : NoEscape r.text := by
  have hlisting : '\x1b' ∉ listing r.constraints := fun hmem =>
    not_isNumeral_or_mem isNumeral_escape (by decide) (mem_constraintTexts hmem)
  have hmark : NoEscape r.mark := by
    unfold mark
    split <;> decide
  rw [NoEscape, r.toList_text]
  simp only [List.mem_append, List.mem_cons, List.not_mem_nil, or_false, not_or]
  exact ⟨⟨hmark, h⟩, by decide, hlisting, by decide⟩

theorem escape_not_mem_writeInt (n : Int) : '\x1b' ∉ writeInt n := by
  have hdigits : '\x1b' ∉ Nat.toDigits 10 n.natAbs := fun hmem => by
    have hdigit := isDigits_toDigits _ _ hmem
    cases hdigit
  unfold writeInt
  split
  · exact List.not_mem_cons_of_ne_of_not_mem (by decide) hdigits
  · exact hdigits

theorem Metric.noEscape_text {m : Metric} (h : NoEscape m.path) : NoEscape m.text := by
  have hvalue : '\x1b' ∉ m.value.text.toList := fun hmem =>
    not_isNumeral_or_mem isNumeral_escape (by decide) (Binary64.mem_text hmem)
  rw [NoEscape, m.toList_text]
  simp only [List.mem_append, List.mem_cons, not_or]
  exact ⟨h, by decide, hvalue, by decide, escape_not_mem_writeInt _⟩

theorem Violation.noEscape_text {v : Violation} (hrule : ∀ r ∈ v.rule?, NoEscape r.path)
    (hmetric : ∀ m ∈ v.metric?, NoEscape m.path) : NoEscape v.text := by
  cases v with
  | outOfRange r m =>
    have htext : (outOfRange r m).text =
        "metric " ++ m.text ++ " is out of range for rule " ++ r.text := rfl
    have hr := Rule.noEscape_text (hrule r rfl)
    have hm := Metric.noEscape_text (hmetric m rfl)
    rw [htext]
    simp only [noEscape_append]
    exact ⟨⟨⟨by decide, hm⟩, by decide⟩, hr⟩
  | missing r =>
    have htext : (missing r).text = "rule " ++ r.text ++ " did not match any metric" := rfl
    have hr := Rule.noEscape_text (hrule r rfl)
    rw [htext]
    simp only [noEscape_append]
    exact ⟨⟨by decide, hr⟩, by decide⟩
  | unexpected m =>
    have htext : (unexpected m).text = "found unexpected metric " ++ m.text := rfl
    have hm := Metric.noEscape_text (hmetric m rfl)
    rw [htext]
    exact noEscape_append.2 ⟨by decide, hm⟩

end MetricCheck
