-- Metric text goes line by line. Every line stands for itself, by its fields alone, and its
-- number only says where a defect is. So two texts with a newline between them give what each
-- of them gives, and blanks at the edges of lines give nothing.
import MetricCheck.Proofs.MetricText.Record
import MetricCheck.Proofs.RuleText.Margins

namespace MetricCheck

open Text

/-- The metrics of one line: none, if it is blank. -/
def metricsOfLine (line : List Char) : Except DecodeError.Cause (List Metric) :=
  if line.all isBlank then .ok [] else (decodeLine line).map fun metric => [metric]

/-- The same defect so many lines further down. -/
def DecodeError.moved (down : Nat) (e : DecodeError) : DecodeError := ⟨e.line + down, e.cause⟩

/-! ## Lines -/

/-- Only the fields of a line count. -/
theorem metricsOfLine_congr {line line' : List Char} (h : fields line = fields line') :
    metricsOfLine line = metricsOfLine line' := by
  have hblank : line.all isBlank = line'.all isBlank := by
    rw [Bool.eq_iff_iff, all_isBlank_iff, all_isBlank_iff, h]
  rw [metricsOfLine, metricsOfLine, hblank, decodeLine_congr h]

theorem decodeLines_cons (number : Nat) (line : List Char) (more : List (List Char)) :
    decodeLines number (line :: more) =
      match metricsOfLine line with
      | .error cause => .error ⟨number, cause⟩
      | .ok first => (decodeLines (number + 1) more).map (first ++ ·) := by
  rw [decodeLines, metricsOfLine]
  by_cases hblank : line.all isBlank = true
  · rw [if_pos hblank, if_pos hblank]
    cases decodeLines (number + 1) more <;> rfl
  · rw [if_neg hblank, if_neg hblank]
    cases decodeLine line with
    | error cause => rfl
    | ok metric => cases decodeLines (number + 1) more <;> rfl

theorem decodeLines_congr {found found' : List (List Char)}
    (h : found.map fields = found'.map fields) (number : Nat) :
    decodeLines number found = decodeLines number found' := by
  induction found generalizing found' number with
  | nil =>
    obtain rfl : found' = [] := by simpa using h.symm
    rfl
  | cons line found ih =>
    obtain ⟨line', found', rfl, hline, hmore⟩ := List.map_eq_cons_iff.1 h.symm
    rw [decodeLines_cons, decodeLines_cons, metricsOfLine_congr hline.symm, ih hmore.symm]

/-- Lines that are numbered on from further down have the same metrics, or the same defect
further down. -/
theorem decodeLines_add (found : List (List Char)) (number down : Nat) :
    decodeLines (number + down) found = (decodeLines number found).mapError (.moved down) := by
  induction found generalizing number with
  | nil => rfl
  | cons line found ih =>
    rw [decodeLines_cons, decodeLines_cons, Nat.add_right_comm, ih]
    cases metricsOfLine line with
    | error cause => rfl
    | ok first => cases decodeLines (number + 1) found <;> rfl

/-- The first defect is the one that counts. -/
theorem decodeLines_append (number : Nat) (found later : List (List Char)) :
    decodeLines number (found ++ later) =
      (decodeLines number found).bind fun first =>
        (decodeLines (number + found.length) later).map (first ++ ·) := by
  induction found generalizing number with
  | nil => cases h : decodeLines number later <;> simp [h, decodeLines, Except.bind, Except.map]
  | cons line found ih =>
    have hnumber : number + 1 + found.length = number + (line :: found).length := by
      rw [List.length_cons]
      omega
    rw [List.cons_append, decodeLines_cons, decodeLines_cons, ih, hnumber]
    cases metricsOfLine line with
    | error cause => rfl
    | ok first =>
      cases decodeLines (number + 1) found with
      | error e => rfl
      | ok more =>
        cases decodeLines (number + (line :: found).length) later with
        | error e => rfl
        | ok last => simp [Except.bind, Except.map]

/-! ## Two texts -/

/-- There is one line more than there are newlines. -/
theorem length_lines (cs : List Char) : (lines cs).length = cs.count '\n' + 1 := by
  induction cs with
  | nil => rfl
  | cons c cs ih =>
    by_cases hc : c = '\n'
    · rw [lines, splitBy_cons_of_pos (by simpa using hc), hc, List.count_cons_self,
        List.length_cons, ← lines, ih]
    · rw [lines, splitBy_cons_of_neg (by simpa using hc), List.count_cons_of_ne hc,
        List.length_cons, List.length_tail, ← lines, ih]
      rfl

theorem parseMetrics_append (a b : String) :
    parseMetrics (a ++ "\n" ++ b) =
      (parseMetrics a).bind fun first =>
        ((parseMetrics b).mapError (.moved (a.toList.count '\n' + 1))).map (first ++ ·) := by
  unfold parseMetrics
  rw [lines_append_newline, decodeLines_append, length_lines, decodeLines_add]

/-! ## Edges of lines -/

theorem blanks_of_inlineBlanks {blanks : List Char} (hb : InlineBlanks blanks) : Blanks blanks :=
  fun c hc => isBlank_of_isInlineBlank (hb c hc)

theorem newline_not_mem_of_inlineBlanks {blanks : List Char} (hb : InlineBlanks blanks) :
    '\n' ∉ blanks := by
  intro hmem
  have hnewline := hb _ hmem
  cases hnewline

section Edges

variable {blanks : String} (hb : InlineBlanks blanks.toList)
include hb

theorem map_fields_lines_indent (after : String) :
    (lines (blanks ++ after).toList).map fields = (lines after.toList).map fields := by
  have hfields : ∀ cs, fields (blanks.toList ++ cs) = fields cs :=
    (blanks_of_inlineBlanks hb).fields_append
  have hinline := newline_not_mem_of_inlineBlanks hb
  induction after using line_induction with
  | line text htext =>
    have hlong : '\n' ∉ (blanks ++ text).toList := by simp [hinline, htext]
    rw [lines_of_line hlong, lines_of_line htext, String.toList_append, List.map_singleton,
      hfields, List.map_singleton]
  | append a b ha ih =>
    have hlong : '\n' ∉ (blanks ++ a).toList := by simp [hinline, ha]
    rw [← String.append_assoc, ← String.append_assoc, lines_append hlong, lines_append ha,
      List.map_cons, String.toList_append, hfields, List.map_cons]

theorem map_fields_lines_trail (before : String) :
    (lines (before ++ blanks).toList).map fields = (lines before.toList).map fields := by
  have hfields : ∀ cs, fields (cs ++ blanks.toList) = fields cs :=
    (blanks_of_inlineBlanks hb).append_fields
  have hinline := newline_not_mem_of_inlineBlanks hb
  induction before using line_induction with
  | line text htext =>
    have hlong : '\n' ∉ (text ++ blanks).toList := by simp [hinline, htext]
    rw [lines_of_line hlong, lines_of_line htext, String.toList_append, List.map_singleton,
      hfields, List.map_singleton]
  | append a b ha ih =>
    rw [String.append_assoc, lines_append ha, lines_append ha, List.map_cons, ih, List.map_cons]

theorem parseMetrics_indent {before : String} (hbefore : AtLineStart before) (after : String) :
    parseMetrics (before ++ blanks ++ after) = parseMetrics (before ++ after) := by
  apply decodeLines_congr
  rcases hbefore.cases with rfl | ⟨earlier, rfl⟩
  · simpa using map_fields_lines_indent hb after
  · rw [String.append_assoc, lines_append_newline, lines_append_newline, List.map_append,
      map_fields_lines_indent hb, List.map_append]

theorem parseMetrics_trail (before : String) {after : String} (hafter : AtLineEnd after) :
    parseMetrics (before ++ blanks ++ after) = parseMetrics (before ++ after) := by
  apply decodeLines_congr
  rcases hafter.cases with rfl | ⟨later, rfl⟩
  · simpa using map_fields_lines_trail hb before
  · rw [← String.append_assoc, ← String.append_assoc, lines_append_newline,
      lines_append_newline, List.map_append, map_fields_lines_trail hb, List.map_append]

end Edges

/-! ## The law -/

/-- Two texts with a newline between them give the metrics of both, if both have no defect;
else the first defect among theirs, with the lines of the later text counted on from those of
the first. Blanks at the beginning or at the end of a line do not count; in particular lines
may end with carriage returns. -/
theorem metric_text_is_decoded_line_by_line :
    (∀ a b : String, parseMetrics (a ++ "\n" ++ b) =
      match parseMetrics a, parseMetrics b with
      | .ok first, .ok later => .ok (first ++ later)
      | .ok _, .error e => .error ⟨e.line + (a.toList.count '\n' + 1), e.cause⟩
      | .error e, _ => .error e) ∧
    (∀ before blanks after : String, AtLineStart before ∨ AtLineEnd after →
      InlineBlanks blanks.toList →
      parseMetrics (before ++ blanks ++ after) = parseMetrics (before ++ after)) ∧
    ∀ text : String, parseMetrics (withReturns text) = parseMetrics text := by
  refine ⟨fun a b => ?_, ?_, apply_withReturns fun before blanks after hafter _ hb => ?_⟩
  · rw [parseMetrics_append]
    cases parseMetrics a with
    | error e => rfl
    | ok first => cases parseMetrics b <;> rfl
  · rintro before blanks after (hbefore | hafter) hb
    · exact parseMetrics_indent hb hbefore after
    · exact parseMetrics_trail hb before hafter
  · exact parseMetrics_trail hb before hafter

/-- For instance, a tab before a line whose time is missing, and a carriage return after it. -/
theorem metric_text_is_decoded_line_by_line_where_the_time_is_missing :
    (AtLineStart "a 1 1\n" ∧ InlineBlanks "\t".toList) ∧
    parseMetrics ("a 1 1\n" ++ "\t" ++ "b 2\n") = parseMetrics ("a 1 1\n" ++ "b 2\n") ∧
    (AtLineEnd "\n" ∧ InlineBlanks "\r".toList) ∧
    parseMetrics ("a 1 1\nb 2" ++ "\r" ++ "\n") = parseMetrics ("a 1 1\nb 2" ++ "\n") ∧
    parseMetrics "a 1 1\nb 2\n" = .error ⟨2, .fieldCount 2⟩ := by
  have htab : InlineBlanks "\t".toList := .cons (by decide) .nil
  have hreturn : InlineBlanks "\r".toList := .cons (by decide) .nil
  have hstart : AtLineStart "a 1 1\n" := by simp [AtLineStart]
  have hend : AtLineEnd "\n" := by simp [AtLineEnd]
  obtain ⟨-, hedge, -⟩ := metric_text_is_decoded_line_by_line
  exact ⟨⟨hstart, htab⟩, hedge _ _ _ (.inl hstart) htab, ⟨hend, hreturn⟩,
    hedge _ _ _ (.inr hend) hreturn, by decide +kernel⟩

end MetricCheck
