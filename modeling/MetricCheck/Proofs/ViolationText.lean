-- What the text of a violation tells. Where its rule and its metric were read of texts, their
-- parts are without blanks, so the fields of the text are the words of the sentence and these
-- parts. A rule is one field, in which the path may hold anything that stands around it; but
-- after the last bracket that opens there are only constraints.
import MetricCheck.Proofs.MetricText.RoundTrip
import MetricCheck.Proofs.Reports

namespace MetricCheck

open Text

/-- The rule was read of some text, and so was the metric. -/
structure Violation.IsOfTexts (v : Violation) : Prop where
  rule : ∀ r ∈ v.rule?, ∃ text rules, parseRules text = .ok rules ∧ r ∈ rules
  metric : ∀ m ∈ v.metric?, ∃ text metrics, parseMetrics text = .ok metrics ∧ m ∈ metrics

/-- Constraints as the text of a rule lists them. -/
def listing (constraints : List Constraint) : List Char :=
  (",".intercalate (constraints.map Constraint.text)).toList

/-! ## Constraints -/

theorem Binary64.text_injective : Function.Injective Binary64.text := by
  intro x y h
  have hread := x.read_text_eq_some
  rw [h, y.read_text_eq_some] at hread
  exact (Option.some.inj hread).symm

theorem Operator.text_injective : Function.Injective Operator.text := by
  intro op op' h
  have hread := op.ofText?_text
  rw [h, op'.ofText?_text] at hread
  exact (Option.some.inj hread).symm

namespace Constraint

/-- A constraint tells its operator from its bound: no number has a character of an operator. -/
theorem filter_text (c : Constraint) :
    c.text.toList.filter "<=>".toList.contains = c.op.text.toList := by
  have hop : c.op.text.toList.all "<=>".toList.contains = true := by cases c.op <;> decide
  have hbound : ∀ d ∈ c.bound.text.toList, ¬ "<=>".toList.contains d = true := by
    intro d hd hmark
    have hcases : d = '<' ∨ d = '=' ∨ d = '>' := by simpa using hmark
    have hchar := Binary64.mem_text hd
    rcases hcases with rfl | rfl | rfl
    · exact not_isNumeral_or_mem (by decide) (by decide) hchar
    · exact not_isNumeral_or_mem (by decide) (by decide) hchar
    · exact not_isNumeral_or_mem (by decide) (by decide) hchar
  rw [text, String.toList_append, List.filter_append,
    List.filter_eq_self.2 (List.all_eq_true.1 hop), List.filter_eq_nil_iff.2 hbound,
    List.append_nil]

theorem text_injective : Function.Injective text := by
  rintro ⟨op, bound⟩ ⟨op', bound'⟩ h
  have hop : op.text.toList = op'.text.toList := by
    rw [← filter_text ⟨op, bound⟩, h, filter_text]
  obtain rfl : op = op' := Operator.text_injective (String.toList_inj.1 hop)
  have hbound : bound.text.toList = bound'.text.toList := by
    have htext := congrArg String.toList h
    simpa only [text, String.toList_append, List.append_cancel_left_eq] using htext
  rw [Binary64.text_injective (String.toList_inj.1 hbound)]

theorem text_ne_nil (c : Constraint) : c.text.toList ≠ [] := by
  rw [text, String.toList_append]
  exact List.append_ne_nil_of_right_ne_nil _ c.bound.isField_text.nonempty

theorem comma_not_mem_text (c : Constraint) : ',' ∉ c.text.toList :=
  fun hmem => not_isNumeral_or_mem (by decide) (by decide) (mem_text hmem)

end Constraint

/-- The constraints are what stands between the commas. Without constraints that is nothing. -/
theorem pieces_listing (constraints : List Constraint) :
    (splitBy (· == ',') (listing constraints)).filter (fun piece => !piece.isEmpty) =
      constraints.map fun c => c.text.toList := by
  have hone : ∀ c : Constraint, (splitBy (· == ',') c.text.toList).filter
      (fun piece => !piece.isEmpty) = [c.text.toList] := by
    intro c
    have hpieces : splitBy (· == ',') c.text.toList = [c.text.toList] :=
      splitBy_of_forall fun d hd heq => c.comma_not_mem_text (beq_iff_eq.1 heq ▸ hd)
    rw [hpieces]
    simp [c.text_ne_nil]
  induction constraints with
  | nil => rfl
  | cons c constraints ih =>
    cases constraints with
    | nil => simpa [listing] using hone c
    | cons next constraints =>
      have htext : listing (c :: next :: constraints) =
          c.text.toList ++ ',' :: listing (next :: constraints) := by
        simp [listing]
      rw [htext, splitBy_append_cons (by decide), List.filter_append, hone, ih]
      rfl

theorem listing_injective : Function.Injective listing := by
  intro constraints constraints' h
  have htexts := pieces_listing constraints
  rw [h, pieces_listing] at htexts
  refine (List.map_injective_iff.2 fun c c' hc => ?_) htexts.symm
  exact Constraint.text_injective (String.toList_inj.1 hc)

/-! ## Rules -/

/-- What stands before the last of its kind in a text, and what stands after it. -/
theorem append_cons_inj_of_not_mem {c : Char} {before after before' after' : List Char}
    (h : before ++ c :: after = before' ++ c :: after') (hc : c ∉ after) (hc' : c ∉ after') :
    before = before' ∧ after = after' := by
  rcases List.append_eq_append_iff.1 h with ⟨between, hbefore, hafter⟩ | ⟨between, hbefore, hafter⟩
  · cases between with
    | nil => exact ⟨by simpa using hbefore.symm, by simpa using hafter⟩
    | cons d between =>
      obtain ⟨-, rfl⟩ := List.cons.inj hafter
      simp at hc
  · cases between with
    | nil => exact ⟨by simpa using hbefore, by simpa using hafter.symm⟩
    | cons d between =>
      obtain ⟨-, rfl⟩ := List.cons.inj hafter
      simp at hc'

namespace Rule

theorem toList_text (r : Rule) :
    r.text.toList =
      (r.mark.toList ++ r.path.toList) ++ '[' :: (listing r.constraints ++ [']']) := by
  simp [text, listing]

/-- No path begins with the mark of an optional rule. -/
theorem head?_mark_append {r : Rule} (hpath : IsPath r.path.toList) :
    (r.mark.toList ++ r.path.toList).head? = some '~' ↔ r.required = false := by
  rw [mark]
  cases r.required with
  | false => simp
  | true =>
    have hhead : r.path.toList.head? ≠ some '~' := fun h => hpath.noMark '~' h (by decide)
    simpa using hhead

theorem eq_of_text_eq {r r' : Rule} (hr : r.IsReadable) (hr' : r'.IsReadable)
    (h : r.text = r'.text) : r = r' := by
  have hbracket : ∀ constraints : List Constraint, '[' ∉ listing constraints ++ [']'] := by
    intro constraints hmem
    rcases List.mem_append.1 hmem with hmem | hmem
    · exact not_isNumeral_or_mem (by decide) (by decide) (mem_constraintTexts hmem)
    · cases List.mem_singleton.1 hmem
  have htext := congrArg String.toList h
  rw [toList_text, toList_text] at htext
  obtain ⟨hbefore, hafter⟩ := append_cons_inj_of_not_mem htext (hbracket _) (hbracket _)
  have hrequired : r.required = r'.required := by
    have hfalse := head?_mark_append hr.path
    rw [hbefore, head?_mark_append hr'.path] at hfalse
    rw [← Bool.not_inj_iff, Bool.eq_iff_iff, Bool.not_eq_true', Bool.not_eq_true', hfalse]
  have hpath : r.path = r'.path := by
    rw [mark, mark, hrequired] at hbefore
    exact String.toList_inj.1 (List.append_cancel_left hbefore)
  have hconstraints : r.constraints = r'.constraints :=
    listing_injective (List.append_cancel_right hafter)
  cases r
  cases r'
  simp_all

/-- The text of a rule is one field. -/
theorem IsReadable.isField_text {r : Rule} (h : r.IsReadable) : IsField r.text.toList := by
  have hmark : ∀ c ∈ r.mark.toList, isBlank c = false := by
    intro c hc
    rw [mark] at hc
    split at hc
    · cases hc
    · obtain rfl := List.mem_singleton.1 hc
      decide
  have hlisting : ∀ c ∈ listing r.constraints, isBlank c = false := by
    intro c hc
    have hwords : ((",".toList ++ "<=>Nainf".toList).all fun c => !isBlank c) = true := by decide
    rcases mem_constraintTexts hc with hnumeral | hword
    · exact isBlank_of_isNumeral hnumeral
    · simpa using List.all_eq_true.1 hwords c hword
  rw [r.toList_text]
  refine ⟨by simp, fun c hc => ?_⟩
  simp only [List.mem_append, List.mem_cons, List.not_mem_nil, or_false] at hc
  rcases hc with (hc | hc) | rfl | hc | rfl
  · exact hmark c hc
  · exact h.path.noBlank c hc
  · decide
  · exact hlisting c hc
  · decide

theorem eq_of_fields_eq {r r' : Rule} (hr : r.IsReadable) (hr' : r'.IsReadable)
    (h : fields r.text.toList = fields r'.text.toList) : r = r' := by
  rw [hr.isField_text.fields_eq, hr'.isField_text.fields_eq] at h
  exact eq_of_text_eq hr hr' (String.toList_inj.1 (List.singleton_inj.1 h))

end Rule

theorem Metric.eq_of_fields_eq {m m' : Metric} (hm : m.IsReadable) (hm' : m'.IsReadable)
    (h : fields m.text.toList = fields m'.text.toList) : m = m' := by
  have hline := decodeLine_congr h
  rw [hm.decodeLine_text, hm'.decodeLine_text] at hline
  exact Except.ok.inj hline

/-! ## Violations -/

namespace Violation

section Sentences

variable (r : Rule) (m : Metric)

theorem toList_text_outOfRange :
    (outOfRange r m).text.toList =
      "metric".toList ++ ' ' :: (m.text.toList ++ ' ' ::
        ("is out of range for rule".toList ++ ' ' :: r.text.toList)) := by
  have htext : (outOfRange r m).text =
      "metric " ++ m.text ++ " is out of range for rule " ++ r.text := rfl
  rw [htext]
  simp

theorem toList_text_missing :
    (missing r).text.toList =
      "rule".toList ++ ' ' :: (r.text.toList ++ ' ' :: "did not match any metric".toList) := by
  have htext : (missing r).text = "rule " ++ r.text ++ " did not match any metric" := rfl
  rw [htext]
  simp

theorem toList_text_unexpected :
    (unexpected m).text.toList = "found unexpected metric".toList ++ ' ' :: m.text.toList := by
  have htext : (unexpected m).text = "found unexpected metric " ++ m.text := rfl
  rw [htext]
  simp

theorem fields_append_space (cs later : List Char) :
    fields (cs ++ ' ' :: later) = fields cs ++ fields later :=
  fields_append_blank (by decide) cs later

theorem fields_text_outOfRange :
    fields (outOfRange r m).text.toList =
      fields "metric".toList ++ (fields m.text.toList ++
        (fields "is out of range for rule".toList ++ fields r.text.toList)) := by
  simp only [toList_text_outOfRange, fields_append_space]

theorem fields_text_missing :
    fields (missing r).text.toList =
      fields "rule".toList ++ (fields r.text.toList ++
        fields "did not match any metric".toList) := by
  simp only [toList_text_missing, fields_append_space]

theorem fields_text_unexpected :
    fields (unexpected m).text.toList =
      fields "found unexpected metric".toList ++ fields m.text.toList := by
  simp only [toList_text_unexpected, fields_append_space]

end Sentences

/-- The first character of the text tells the kind. -/
theorem head?_text (v : Violation) :
    v.text.toList.head? = some (match v.kind with
      | .outOfRange => 'm' | .missing => 'r' | .unexpected => 'f') := by
  cases v with
  | outOfRange r m => rw [toList_text_outOfRange]; rfl
  | missing r => rw [toList_text_missing]; rfl
  | unexpected m => rw [toList_text_unexpected]; rfl

theorem kind_eq_of_text_eq {v w : Violation} (h : v.text = w.text) : v.kind = w.kind := by
  have hhead := v.head?_text
  rw [h, w.head?_text] at hhead
  revert hhead
  cases v.kind <;> cases w.kind <;> decide

/-- The parts of a violation could be read. -/
structure IsReadable (v : Violation) : Prop where
  rule : ∀ r ∈ v.rule?, r.IsReadable
  metric : ∀ m ∈ v.metric?, m.IsReadable

theorem IsOfTexts.isReadable {v : Violation} (h : v.IsOfTexts) : v.IsReadable := by
  constructor
  · intro r hr
    obtain ⟨_, _, hparse, hmem⟩ := h.rule r hr
    exact isReadable_of_parseRules hparse r hmem
  · intro m hm
    obtain ⟨_, _, hparse, hmem⟩ := h.metric m hm
    exact isReadable_of_parseMetrics hparse m hmem

theorem IsReadable.eq_of_text_eq {v w : Violation} (hv : v.IsReadable) (hw : w.IsReadable)
    (h : v.text = w.text) : v = w := by
  have hkind := kind_eq_of_text_eq h
  have hfields : fields v.text.toList = fields w.text.toList := by rw [h]
  cases v with
  | outOfRange r m =>
    cases w with
    | outOfRange r' m' =>
      have hm := hv.metric m rfl
      have hm' := hw.metric m' rfl
      rw [fields_text_outOfRange, fields_text_outOfRange] at hfields
      have hlength : (fields m.text.toList).length = (fields m'.text.toList).length := by
        rw [hm.fields_text, hm'.fields_text]
        rfl
      obtain ⟨hmetric, hlater⟩ := List.append_inj (List.append_cancel_left hfields) hlength
      rw [Metric.eq_of_fields_eq hm hm' hmetric,
        Rule.eq_of_fields_eq (hv.rule r rfl) (hw.rule r' rfl) (List.append_cancel_left hlater)]
    | missing | unexpected => cases hkind
  | missing r =>
    cases w with
    | missing r' =>
      rw [fields_text_missing, fields_text_missing] at hfields
      have hrule := List.append_cancel_right (List.append_cancel_left hfields)
      rw [Rule.eq_of_fields_eq (hv.rule r rfl) (hw.rule r' rfl) hrule]
    | outOfRange | unexpected => cases hkind
  | unexpected m =>
    cases w with
    | unexpected m' =>
      rw [fields_text_unexpected, fields_text_unexpected] at hfields
      have hmetric := List.append_cancel_left hfields
      rw [Metric.eq_of_fields_eq (hv.metric m rfl) (hw.metric m' rfl) hmetric]
    | outOfRange | missing => cases hkind

/-- The text of a violation is one line. -/
theorem IsReadable.newline_not_mem_text {v : Violation} (h : v.IsReadable) :
    '\n' ∉ v.text.toList := by
  have hrule : ∀ r ∈ v.rule?, '\n' ∉ r.text.toList := fun r hr =>
    (h.rule r hr).isField_text.newline_not_mem
  have hmetric : ∀ m ∈ v.metric?, '\n' ∉ m.text.toList := fun m hm =>
    (h.metric m hm).newline_not_mem_text
  cases v with
  | outOfRange r m =>
    simp only [toList_text_outOfRange, List.mem_append, List.mem_cons, not_or]
    exact ⟨by decide, by decide, hmetric m rfl, by decide, by decide, by decide, hrule r rfl⟩
  | missing r =>
    simp only [toList_text_missing, List.mem_append, List.mem_cons, not_or]
    exact ⟨by decide, by decide, hrule r rfl, by decide, by decide⟩
  | unexpected m =>
    simp only [toList_text_unexpected, List.mem_append, List.mem_cons, not_or]
    exact ⟨by decide, by decide, hmetric m rfl⟩

end Violation

end MetricCheck
