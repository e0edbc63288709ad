-- A rule that is read alone. The rules of the whole text settle what comes of it: if there is
-- one, that is the rule; if there are none or several, that is the defect; and a defect of the
-- whole text stays the defect, unless two rules stand before it.
import MetricCheck.Proofs.RuleText.Image

namespace MetricCheck

open Text

/-- The rules of some lines, each line read by itself, up to the first that cannot be read.
The lines are counted from the given number on. -/
def rulesOnLines (line : Nat) : List (List Char) → List LocatedRule
  | [] => []
  | cs :: later =>
    match parseRules (String.ofList cs) with
    | .error _ => []
    | .ok rules => rules.map (⟨line, ·⟩) ++ rulesOnLines (line + 1) later

/-! ## The lines of rules -/

theorem map_moved_zero (found : List LocatedRule) : found.map (.moved 0) = found :=
  List.map_id' found

/-- Lines further down have the same rules further down. -/
theorem rulesOnLines_add (line down : Nat) (ls : List (List Char)) :
    rulesOnLines (line + down) ls = (rulesOnLines line ls).map (.moved down) := by
  induction ls generalizing line with
  | nil => rfl
  | cons cs ls ih =>
    unfold rulesOnLines
    cases parseRules (String.ofList cs) with
    | error e => rfl
    | ok rules =>
      dsimp only
      rw [Nat.add_right_comm, ih, List.map_append, List.map_map]
      rfl

namespace RuleReading

/-- Reading a text further down finds its rules further down. -/
theorem found_fromCursor_add (text : String) (down : Nat) :
    (fromCursor ⟨text.toList, 1 + down⟩).found = (ofText text).found.map (.moved down) := by
  rw [fromCursor_add, goingOn, ofText, Cursor.start]
  cases (fromCursor ⟨text.toList, 1⟩).ending with
  | error e => rfl
  | ok line => exact List.append_nil _

/-- A line that cannot be read has no rule. -/
theorem ofText_of_line {text : String} (hline : '\n' ∉ text.toList) :
    ofText text =
      match parseRules text with
      | .error e => ⟨[], .error e⟩
      | .ok rules => ⟨rules.map (⟨1, ·⟩), .ok 1⟩ := by
  have hsound := @nextRule_sound text.toList 1 hline
  cases hc : Cursor.nextRule ⟨text.toList, 1⟩ with
  | error e =>
    have hread : ofText text = ⟨[], .error e⟩ := by rw [ofText, Cursor.start, fromCursor_eq, hc]
    rw [parseRules, hread]
    rfl
  | ok next =>
    rw [hc] at hsound
    obtain ⟨_ | located, c'⟩ := next
    · rw [parseRules_of_emptyLine hsound hline, ofText_of_emptyLine hsound hline]
      rfl
    · rw [parseRules_of_ruleLine hsound hline, ofText_of_ruleLine hsound hline]
      rfl

/-- The rules of a text begin on the lines that read as these rules. -/
theorem found_ofText (text : String) :
    (ofText text).found = rulesOnLines 1 (lines text.toList) := by
  induction text using line_induction with
  | line text hline =>
    rw [lines_of_line hline, rulesOnLines, String.ofList_toList, ofText_of_line hline]
    cases parseRules text with
    | error e => rfl
    | ok rules => exact (List.append_nil _).symm
  | append a b ha ih =>
    rw [lines_append ha, rulesOnLines, String.ofList_toList, ofText_append, ofText_of_line ha]
    cases parseRules a with
    | error e => rfl
    | ok rules =>
      -- the rest is read from the second line on
      have hsecond := found_fromCursor_add b 1
      rw [ih, ← rulesOnLines_add] at hsecond
      simp only [goingOn, map_moved_zero]
      rw [← hsecond]
      rfl

end RuleReading

/-! ## Reading one -/

theorem parseRule_eq (text : String) :
    parseRule text =
      match RuleReading.ofText text with
      | ⟨_ :: second :: _, _⟩ => .error ⟨second.line, .trailingRule⟩
      | ⟨_, .error e⟩ => .error e
      | ⟨[], .ok _⟩ => .error ⟨1, .unexpectedEnd .path⟩
      | ⟨[only], .ok _⟩ => .ok only.rule := by
  unfold parseRule RuleReading.ofText
  rw [RuleReading.fromCursor_eq]
  cases (Cursor.start text).nextRule with
  | error e => rfl
  | ok next =>
    obtain ⟨_ | first, c⟩ := next
    · rfl
    · dsimp only
      rw [RuleReading.fromCursor_eq]
      cases c.nextRule with
      | error e => rfl
      | ok next =>
        obtain ⟨_ | second, c'⟩ := next
        · rfl
        · rfl

theorem parseRule_eq_ok_iff {text : String} {r : Rule} :
    parseRule text = .ok r ↔ parseRules text = .ok [r] := by
  constructor
  · exact parseRules_of_parseRule
  · intro h
    obtain ⟨⟨line, hending⟩, hfound⟩ := RuleReading.rules_eq_ok_iff.1 h
    obtain ⟨only, honly, rfl⟩ := List.map_eq_singleton_iff.1 hfound
    have hread : RuleReading.ofText text = ⟨[only], .ok line⟩ := by rw [← honly, ← hending]
    rw [parseRule_eq, hread]

/-- A text without rules ends too early, wherever it ends. -/
theorem parseRule_of_nil {text : String} (h : parseRules text = .ok []) :
    parseRule text = .error ⟨1, .unexpectedEnd .path⟩ := by
  obtain ⟨⟨line, hending⟩, hfound⟩ := RuleReading.rules_eq_ok_iff.1 h
  have hread : RuleReading.ofText text = ⟨[], .ok line⟩ := by
    rw [← List.map_eq_nil_iff.1 hfound, ← hending]
  rw [parseRule_eq, hread]

/-- The second rule is one too many, whatever comes after it. -/
theorem parseRule_of_second {text : String} {second : LocatedRule}
    (h : (RuleReading.ofText text).found[1]? = some second) :
    parseRule text = .error ⟨second.line, .trailingRule⟩ := by
  rw [parseRule_eq]
  generalize RuleReading.ofText text = reading at h ⊢
  obtain ⟨found, ending⟩ := reading
  match found with
  | [] => cases h
  | [first] => cases h
  | first :: second :: later =>
    cases h
    rfl

/-- Before the second rule, a defect of the text is a defect of the rule. -/
theorem parseRule_of_error {text : String} {e : ParseError} (h : parseRules text = .error e)
    (hfew : (RuleReading.ofText text).found.length < 2) : parseRule text = .error e := by
  have hending := RuleReading.rules_eq_error_iff.1 h
  rw [parseRule_eq]
  generalize RuleReading.ofText text = reading at hending hfew ⊢
  obtain ⟨found, ending⟩ := reading
  obtain rfl : ending = .error e := hending
  match found with
  | [] => rfl
  | [first] => rfl
  | first :: second :: later =>
    simp only [List.length_cons] at hfew
    omega

/-! ## The law -/

/-- The rules that are read of a text, up to its end or a defect, are those of its lines. If this
is one rule and no defect, it is the rule that is read alone. A text without rules ends too early,
on the first line. A second rule is one too many, and its own line is at fault, whether the text
then ends or fails. A text that fails before that fails alike. -/
theorem single_rules_are_read_as_texts (text : String) :
    (RuleReading.ofText text).found = rulesOnLines 1 (lines text.toList) ∧
    (∀ r, parseRule text = .ok r ↔ parseRules text = .ok [r]) ∧
    (parseRules text = .ok [] → parseRule text = .error ⟨1, .unexpectedEnd .path⟩) ∧
    (∀ first second later, parseRules text = .ok (first :: second :: later) →
      ∃ line, (RuleReading.ofText text).found[1]? = some ⟨line, second⟩ ∧
        parseRule text = .error ⟨line, .trailingRule⟩) ∧
    ∀ e, parseRules text = .error e →
      (∀ second, (RuleReading.ofText text).found[1]? = some second →
        parseRule text = .error ⟨second.line, .trailingRule⟩) ∧
      ((RuleReading.ofText text).found.length < 2 → parseRule text = .error e) := by
  refine ⟨RuleReading.found_ofText text, fun r => parseRule_eq_ok_iff, parseRule_of_nil, ?_, ?_⟩
  · intro first second later h
    obtain ⟨-, hfound⟩ := RuleReading.rules_eq_ok_iff.1 h
    have hsecond : ((RuleReading.ofText text).found.map LocatedRule.rule)[1]? = some second := by
      rw [hfound]
      rfl
    rw [List.getElem?_map, Option.map_eq_some_iff] at hsecond
    obtain ⟨located, hlocated, rfl⟩ := hsecond
    exact ⟨located.line, hlocated, parseRule_of_second hlocated⟩
  · intro e h
    exact ⟨fun second => parseRule_of_second, parseRule_of_error h⟩

/-- For instance, a text without rules, a second rule after an empty line, and a defect on the
line after the first rule. -/
theorem single_rules_are_read_as_texts_at_three_texts :
    parseRule "" = .error ⟨1, .unexpectedEnd .path⟩ ∧
    parseRule "cpu\n\nmem" = .error ⟨3, .trailingRule⟩ ∧
    parseRule "cpu\n~" = .error ⟨2, .unexpectedEnd .path⟩ := by
  have hcpu : parseRules "cpu" = .ok [⟨"cpu", true, []⟩] := parseRules_of_path (by decide +kernel)
  have hmem : parseRules "mem" = .ok [⟨"mem", true, []⟩] := parseRules_of_path (by decide +kernel)
  refine ⟨?_, ?_, ?_⟩
  · obtain ⟨-, -, hnone, -⟩ := single_rules_are_read_as_texts ""
    exact hnone parseRules_empty
  · obtain ⟨hfound, -, -, htwo, -⟩ := single_rules_are_read_as_texts "cpu\n\nmem"
    have hrules : parseRules ("\n".intercalate ["cpu", "", "mem"]) = .ok _ :=
      parseRules_intercalate (.cons hcpu (.cons parseRules_empty (.cons hmem .nil)))
    obtain ⟨line, hline, htrailing⟩ := htwo _ _ _ hrules
    have hlines : lines "cpu\n\nmem".toList = ["cpu".toList, "".toList, "mem".toList] := by decide
    simp only [hfound, hlines, rulesOnLines, String.ofList_toList, hcpu, parseRules_empty, hmem]
      at hline
    cases hline
    exact htrailing
  · obtain ⟨hfound, -, -, -, hbad⟩ := single_rules_are_read_as_texts "cpu\n~"
    have hlines : lines "cpu\n~".toList = ["cpu".toList, "~".toList] := by decide
    have herror : parseRules ("\n".intercalate (["cpu"] ++ "~" :: [])) = .error _ :=
      parseRules_intercalate_error (List.forall_mem_singleton.2 ⟨by decide, _, hcpu⟩) (by decide)
        parseRules_tilde []
    obtain ⟨-, hfew⟩ := hbad _ herror
    rw [hfound, hlines] at hfew
    simp only [rulesOnLines, String.ofList_toList, hcpu, parseRules_tilde] at hfew
    exact hfew (by decide)

end MetricCheck
