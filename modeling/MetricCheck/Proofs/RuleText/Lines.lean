-- Rule text goes line by line. The reader walks over the whole text, yet it makes of
-- two texts joined by a newline what it makes of each, with the lines of the second
-- counted on from those of the first.
import Mathlib.Data.List.Forall2
import MetricCheck.Proofs.RuleText.Appending
import MetricCheck.Proofs.RuleText.Grammar

namespace MetricCheck

open Text

/-- What a defect of a text is when a newline comes after the text: where the text
ended too early, its line does. -/
def ParseError.beforeNewline (e : ParseError) : ParseError :=
  ⟨e.line, e.cause.endingWith .newline⟩

/-! ## Two texts -/

theorem ParseError.Cause.endingWith_endOfText (cause : ParseError.Cause) :
    cause.endingWith .endOfText = cause := by
  cases cause <;> rfl

namespace RuleReading

/-- Reading further down finds the same further down. -/
theorem fromCursor_add (cs : List Char) (line down : Nat) :
    fromCursor ⟨cs, line + down⟩ =
      (fromCursor ⟨cs, line⟩).goingOn .endOfText down fun line => ⟨[], .ok line⟩ := by
  have honto := fromCursor_onto lineEnd_nil ⟨cs, line⟩ down
  have hnil : ∀ line, fromCursor ⟨[], line⟩ = ⟨[], .ok line⟩ := fun line =>
    fromCursor_of_rest_nil rfl
  simp only [Cursor.onto, List.append_nil, hnil] at honto
  exact honto

theorem ofText_append (a b : String) :
    ofText (a ++ "\n" ++ b) =
      (ofText a).goingOn .newline 0 fun line => fromCursor ⟨b.toList, line⟩ := by
  have honto := fromCursor_onto (lineEnd_newline b.toList) (Cursor.start a) 0
  have htext : (a ++ "\n" ++ b).toList = a.toList ++ '\n' :: b.toList := by simp
  simp only [ofText, Cursor.start, htext]
  exact honto

theorem rules_eq_error_iff {reading : RuleReading} {e : ParseError} :
    reading.rules = .error e ↔ reading.ending = .error e := by
  rw [rules]
  cases reading.ending <;> simp

theorem rules_eq_ok_iff {reading : RuleReading} {found : List Rule} :
    reading.rules = .ok found ↔
      (∃ line, reading.ending = .ok line) ∧ reading.found.map LocatedRule.rule = found := by
  rw [rules]
  cases reading.ending <;> simp

end RuleReading

theorem map_rule_moved (down : Nat) (found : List LocatedRule) :
    (found.map (.moved down)).map LocatedRule.rule = found.map LocatedRule.rule := by
  rw [List.map_map]
  rfl

/-- The rules of two texts with a newline between them. -/
theorem parseRules_append (a b : String) :
    parseRules (a ++ "\n" ++ b) =
      match parseRules a, parseRules b with
      | .ok first, .ok later => .ok (first ++ later)
      | .ok _, .error e => .error ⟨e.line + (a.toList.count '\n' + 1), e.cause⟩
      | .error e, _ => .error e.beforeNewline := by
  have hlast := RuleReading.ending_fromCursor (.start a)
  have hadd := RuleReading.fromCursor_add b.toList 1 (a.toList.count '\n' + 1)
  have hb : RuleReading.fromCursor ⟨b.toList, 1⟩ = RuleReading.ofText b := rfl
  rw [hb] at hadd
  unfold parseRules
  rw [RuleReading.ofText_append]
  cases ha : (RuleReading.ofText a).ending with
  | error e =>
    rw [RuleReading.rules_eq_error_iff.2 ha, RuleReading.goingOn, ha]
    rfl
  | ok line =>
    have hline : line + 0 + Token.newlines .newline = 1 + (a.toList.count '\n' + 1) := by
      have hline : (RuleReading.fromCursor (.start a)).ending = .ok line := ha
      rw [hline] at hlast
      simp only [hlast, Cursor.lastLine, Cursor.start, Token.newlines]
      omega
    rw [RuleReading.rules_eq_ok_iff.2 ⟨⟨line, ha⟩, rfl⟩, RuleReading.goingOn, ha]
    dsimp only
    rw [hline, hadd, RuleReading.goingOn]
    cases hb : (RuleReading.ofText b).ending with
    | error e =>
      rw [RuleReading.rules_eq_error_iff.2 hb]
      simp only [RuleReading.rules, ParseError.Cause.endingWith_endOfText]
    | ok line =>
      rw [RuleReading.rules_eq_ok_iff.2 ⟨⟨line, hb⟩, rfl⟩]
      simp only [RuleReading.rules, List.map_append, map_rule_moved, List.append_nil]

/-! ## Many lines -/

theorem lines_of_line {text : String} (h : '\n' ∉ text.toList) :
    lines text.toList = [text.toList] :=
  splitBy_of_forall fun _ hc heq => h (beq_iff_eq.1 heq ▸ hc)

theorem lines_append_newline (a b : String) :
    lines (a ++ "\n" ++ b).toList = lines a.toList ++ lines b.toList := by
  have htext : (a ++ "\n" ++ b).toList = a.toList ++ '\n' :: b.toList := by simp
  rw [htext]
  exact splitBy_append_cons (by decide) _ _

theorem lines_append {a : String} (h : '\n' ∉ a.toList) (b : String) :
    lines (a ++ "\n" ++ b).toList = a.toList :: lines b.toList := by
  rw [lines_append_newline, lines_of_line h]
  rfl

/-- A text is a line, or a line before a shorter text. -/
@[elab_as_elim]
theorem line_induction {motive : String → Prop}
    (line : ∀ text, '\n' ∉ text.toList → motive text)
    (append : ∀ a b, '\n' ∉ a.toList → motive b → motive (a ++ "\n" ++ b)) (text : String) :
    motive text := by
  induction hlength : text.toList.length using Nat.strong_induction_on generalizing text with
  | _ length ih =>
    by_cases hline : '\n' ∈ text.toList
    · obtain ⟨a, b, hab, ha⟩ := List.eq_append_cons_of_mem hline
      have htext : text = String.ofList a ++ "\n" ++ String.ofList b := by
        rw [← String.toList_inj]
        simpa using hab
      rw [hab, List.length_append, List.length_cons] at hlength
      rw [htext]
      refine append _ _ (by rwa [String.toList_ofList]) (ih b.length (by omega) _ ?_)
      rw [String.toList_ofList]
    · exact line text hline

theorem parseRules_empty : parseRules "" = .ok [] := by
  have hnil : RuleReading.ofText "" = ⟨[], .ok 1⟩ := RuleReading.fromCursor_of_rest_nil rfl
  rw [parseRules, hnil]
  rfl

/-- A text without newlines holds at most one rule. -/
theorem length_le_one_of_parseRules {text : String} {rules : List Rule} (h : '\n' ∉ text.toList)
    (hrules : parseRules text = .ok rules) : rules.length ≤ 1 := by
  have hcount : (Cursor.start text).rest.count '\n' = 0 := List.count_eq_zero.2 h
  have hlength := RuleReading.length_found_fromCursor (.start text)
  rw [hcount] at hlength
  obtain ⟨-, rfl⟩ := RuleReading.rules_eq_ok_iff.1 hrules
  rw [List.length_map]
  exact hlength

/-- The only line of a text without newlines is the first. -/
theorem line_eq_one_of_parseRules {text : String} {e : ParseError} (h : '\n' ∉ text.toList)
    (herror : parseRules text = .error e) : e.line = 1 := by
  have hcount : (Cursor.start text).lastLine = 1 := by
    simp only [Cursor.lastLine, Cursor.start, List.count_eq_zero.2 h]
  have hending : (RuleReading.fromCursor (.start text)).ending = .error e :=
    RuleReading.rules_eq_error_iff.1 herror
  have hlast := RuleReading.ending_fromCursor (.start text)
  rw [hending, hcount] at hlast
  exact Nat.le_antisymm hlast.2 hlast.1

/-- Lines that are read each by itself are read together. -/
theorem parseRules_intercalate {lines : List String} {found : List (List Rule)}
    (h : List.Forall₂ (fun line rules => parseRules line = .ok rules) lines found) :
    parseRules ("\n".intercalate lines) = .ok found.flatten := by
  induction h with
  | nil => exact parseRules_empty
  | @cons line rules lines found hline hlines ih =>
    cases hlines with
    | nil => simpa using hline
    | cons =>
      rw [String.intercalate_cons_cons, parseRules_append, hline, ih]
      rfl

/-- The first line that cannot be read by itself is the one at fault. -/
theorem parseRules_intercalate_error {good : List String} {bad : String} {e : ParseError}
    (hgood : ∀ line ∈ good, '\n' ∉ line.toList ∧ ∃ rules, parseRules line = .ok rules)
    (hbad : '\n' ∉ bad.toList) (herror : parseRules bad = .error e) (later : List String) :
    parseRules ("\n".intercalate (good ++ bad :: later)) =
      .error ⟨good.length + 1, if later = [] then e.cause else e.beforeNewline.cause⟩ := by
  induction good with
  | nil =>
    obtain ⟨line, cause⟩ := e
    obtain rfl : line = 1 := line_eq_one_of_parseRules hbad herror
    cases later with
    | nil =>
      rw [List.nil_append, String.intercalate_singleton, herror, if_pos rfl]
      rfl
    | cons next later =>
      rw [List.nil_append, String.intercalate_cons_cons, parseRules_append, herror,
        if_neg (List.cons_ne_nil next later)]
      rfl
  | cons line good ih =>
    obtain ⟨⟨hline, rules, hrules⟩, hgood⟩ := List.forall_mem_cons.1 hgood
    have hne : good ++ bad :: later ≠ [] := by simp
    rw [List.cons_append, String.intercalate_cons_of_ne_nil hne, parseRules_append, hrules,
      ih hgood, List.count_eq_zero.2 hline]
    rfl

/-- A tilde alone is no rule. -/
theorem parseRules_tilde : parseRules "~" = .error ⟨1, .unexpectedEnd .path⟩ := by
  have hfirst : (Cursor.start "~").nextOnLine = .ok (.tilde, ⟨[], 1⟩) := Cursor.nextOnLine_eq _
  have hrule : (Cursor.start "~").nextRule = .error ⟨1, .unexpectedEnd .path⟩ := by
    rw [Cursor.nextRule_of_token hfirst (by decide)]
    rfl
  rw [parseRules, RuleReading.ofText, RuleReading.fromCursor_eq, hrule]
  rfl

/-! ## The law -/

/-- Rule text is read line by line. Of two texts joined by a newline each is read by
itself, the lines of the second counted on; a text that ends too early fails at the
end of its line instead. A line holds at most one rule, so lines with a rule each give
these rules in order, and a defect names the first bad line. -/
theorem rule_text_is_read_line_by_line :
    (∀ a b : String, parseRules (a ++ "\n" ++ b) =
      match parseRules a, parseRules b with
      | .ok first, .ok later => .ok (first ++ later)
      | .ok _, .error e => .error ⟨e.line + (a.toList.count '\n' + 1), e.cause⟩
      | .error e, _ => .error e.beforeNewline) ∧
    (∀ (line : String) (rules : List Rule), '\n' ∉ line.toList →
      parseRules line = .ok rules → rules.length ≤ 1) ∧
    (∀ (lines : List String) (rules : List Rule),
      List.Forall₂ (fun line rule => parseRules line = .ok [rule]) lines rules →
      parseRules ("\n".intercalate lines) = .ok rules) ∧
    ∀ (good : List String) (bad : String) (later : List String) (e : ParseError),
      (∀ line ∈ good, '\n' ∉ line.toList ∧ ∃ rules, parseRules line = .ok rules) →
      '\n' ∉ bad.toList → parseRules bad = .error e →
      parseRules ("\n".intercalate (good ++ bad :: later)) =
        .error ⟨good.length + 1, if later = [] then e.cause else e.beforeNewline.cause⟩ := by
  refine ⟨parseRules_append, fun line rules h hrules => length_le_one_of_parseRules h hrules, ?_,
    fun good bad later e hgood hbad herror =>
      parseRules_intercalate_error hgood hbad herror later⟩
  intro lines rules h
  have hfound : List.Forall₂ (fun line found => parseRules line = .ok found) lines
      (rules.map ([·])) := List.forall₂_map_right_iff.2 h
  rw [parseRules_intercalate hfound, ← List.flatMap_def, List.flatMap_singleton']

/-- For instance, two good lines, and a tilde without a path between them. -/
theorem rule_text_is_read_line_by_line_at_three_lines :
    ('\n' ∉ "cpu".toList ∧ parseRules "cpu" = .ok [⟨"cpu", true, []⟩] ∧
      [Rule.mk "cpu" true []].length ≤ 1) ∧
    parseRules "cpu\n~mem" = .ok [⟨"cpu", true, []⟩, ⟨"mem", false, []⟩] ∧
    parseRules "cpu\n~\n~mem" = .error ⟨2, .expected .path "end of line"⟩ := by
  have hline : '\n' ∉ "cpu".toList := by decide
  have hcpu : parseRules "cpu" = .ok [⟨"cpu", true, []⟩] := parseRules_of_path (by decide +kernel)
  have hmem : parseRules "~mem" = .ok [⟨"mem", false, []⟩] := by
    have hpath : IsPath "mem".toList := by decide +kernel
    exact parseRules_of_ruleLine
      (@RuleLine.mk [] _ _ _ _ _ .nil (.optional .nil) hpath .nothing) (by decide)
  obtain ⟨-, hshort, hgood, hbad⟩ := rule_text_is_read_line_by_line
  refine ⟨⟨hline, hcpu, hshort "cpu" _ hline hcpu⟩, ?_, ?_⟩
  · exact hgood ["cpu", "~mem"] _ (.cons hcpu (.cons hmem .nil))
  · have hcpu' : ∀ line ∈ ["cpu"], '\n' ∉ line.toList ∧ ∃ rules, parseRules line = .ok rules := by
      intro line hmem
      obtain rfl := List.mem_singleton.1 hmem
      exact ⟨hline, _, hcpu⟩
    exact hbad ["cpu"] "~" ["~mem"] _ hcpu' (by decide) parseRules_tilde

end MetricCheck
