-- Writing metrics and reading them back. Every path that is read is a run without
-- blanks, so the metrics that come back are those with such paths, whatever their values.
import MetricCheck.Proofs.MetricText.Record
import MetricCheck.Proofs.RuleText.RoundTrip

namespace MetricCheck

open Text

/-- The path is one field of a record. -/
structure Metric.IsReadable (m : Metric) : Prop where
  nonempty : m.path.toList ≠ []
  noBlank : ∀ c ∈ m.path.toList, isBlank c = false

/-- Equal field by field, values compared as numbers; a NaN is the same as any NaN. -/
def Metric.same (a b : Metric) : Bool :=
  a.path = b.path && a.timestamp = b.timestamp &&
    (a.value.sameNumber b.value || (a.value.isNaN && b.value.isNaN))

/-- The same metrics in the same order. -/
def sameMetrics (a b : List Metric) : Bool := a.isEqv b Metric.same

/-! ## What is read -/

theorem isReadable_of_decodeLine {line : List Char} {m : Metric} (h : decodeLine line = .ok m) :
    m.IsReadable := by
  unfold decodeLine at h
  split at h
  · rename_i path value seconds hfound
    split at h
    · cases h
    · split at h
      · cases h
      · cases h
        obtain ⟨hfields, -⟩ := fits_recordShape_iff.1 (fits_of_captures hfound)
        have hpath : path ∈ fields line := by simp [hfields]
        obtain ⟨hne, hblank⟩ := mem_fields hpath
        constructor
        · rwa [String.toList_ofList]
        · rwa [String.toList_ofList]
  · cases h

theorem isReadable_of_decodeLines {number : Nat} {found : List (List Char)}
    {metrics : List Metric} (h : decodeLines number found = .ok metrics) :
    ∀ m ∈ metrics, m.IsReadable := by
  induction found generalizing number metrics with
  | nil =>
    cases h
    exact List.forall_mem_nil _
  | cons line found ih =>
    unfold decodeLines at h
    split at h
    · exact ih h
    · split at h
      · cases h
      · rename_i metric hline
        split at h
        · cases h
        · rename_i later hlater
          cases h
          exact List.forall_mem_cons.2 ⟨isReadable_of_decodeLine hline, ih hlater⟩

theorem isReadable_of_parseMetrics {text : String} {metrics : List Metric}
    (h : parseMetrics text = .ok metrics) : ∀ m ∈ metrics, m.IsReadable :=
  isReadable_of_decodeLines h

/-! ## The fields of a record -/

theorem Binary64.isField_text (x : Binary64) : IsField x.text.toList := by
  constructor
  · cases x with
    | nan => decide
    | infinite negative => cases negative <;> decide
    | finite negative rank =>
      have hfinite : (Binary64.finite negative rank).isFinite = true := rfl
      exact (read_text hfinite).1.ne_nil
  · intro c hc
    rcases mem_text hc with hnumeral | hword
    · exact isBlank_of_isNumeral hnumeral
    · have hwords : ("Nainf".toList.all fun c => !isBlank c) = true := by decide
      simpa using List.all_eq_true.1 hwords c hword

/-- Every number is read back from its text, and so are NaN and the infinities. -/
theorem Binary64.read_text_eq_some (x : Binary64) : read x.text.toList = some x := by
  cases x with
  | nan => decide
  | infinite negative => cases negative <;> decide
  | finite negative rank =>
    have hfinite : (Binary64.finite negative rank).isFinite = true := rfl
    exact (read_text hfinite).2

theorem isField_writeInt (n : Int) : IsField (writeInt n) := by
  have hdigits : IsField (Nat.toDigits 10 n.natAbs) := by
    refine ⟨Nat.toDigits_ne_nil, fun c hc => ?_⟩
    exact isBlank_of_isNumeral (isNumeral_of_isDigit (isDigits_toDigits _ c hc))
  unfold writeInt
  split
  · exact ⟨List.cons_ne_nil _ _, List.forall_mem_cons.2 ⟨by decide, hdigits.noBlank⟩⟩
  · exact hdigits

theorem Timestamp.ofSeconds?_seconds (t : Timestamp) : ofSeconds? t.seconds = some t := by
  unfold ofSeconds?
  rw [dif_pos ⟨t.least_le, t.le_greatest⟩]

/-! ## The round trip -/

theorem Metric.toList_text (m : Metric) :
    m.text.toList =
      m.path.toList ++ ' ' :: (m.value.text.toList ++ ' ' :: writeInt m.timestamp.seconds) := by
  unfold text
  simp

section Readable

variable {m : Metric} (h : m.IsReadable)
include h

theorem Metric.IsReadable.isField_path : IsField m.path.toList := ⟨h.nonempty, h.noBlank⟩

theorem Metric.IsReadable.fields_text :
    fields m.text.toList =
      [m.path.toList, m.value.text.toList, writeInt m.timestamp.seconds] := by
  have hspace : isBlank ' ' = true := by decide
  rw [m.toList_text, fields_append_blank hspace, fields_append_blank hspace,
    h.isField_path.fields_eq, m.value.isField_text.fields_eq, (isField_writeInt _).fields_eq]
  rfl

theorem Metric.IsReadable.decodeLine_text : decodeLine m.text.toList = .ok m := by
  rw [decodeLine_of_fields h.fields_text]
  simp only [m.value.read_text_eq_some, readInt_writeInt, Option.bind_some,
    m.timestamp.ofSeconds?_seconds, String.ofList_toList]

/-- The text of a metric is one line. -/
theorem Metric.IsReadable.newline_not_mem_text : '\n' ∉ m.text.toList := by
  rw [m.toList_text]
  simp only [List.mem_append, List.mem_cons, not_or]
  exact ⟨h.isField_path.newline_not_mem, by decide, m.value.isField_text.newline_not_mem,
    by decide, (isField_writeInt _).newline_not_mem⟩

theorem Metric.IsReadable.not_all_isBlank : ¬ m.text.toList.all isBlank = true := by
  rw [all_isBlank_iff, h.fields_text]
  exact List.cons_ne_nil _ _

end Readable

theorem renderMetrics_cons (m : Metric) (metrics : List Metric) :
    (renderMetrics (m :: metrics)).toList =
      m.text.toList ++ '\n' :: (renderMetrics metrics).toList := by
  unfold renderMetrics
  rw [List.map_cons, String.join_cons]
  simp

theorem decodeLines_renderMetrics {metrics : List Metric} (h : ∀ m ∈ metrics, m.IsReadable)
    (number : Nat) : decodeLines number (lines (renderMetrics metrics).toList) = .ok metrics := by
  induction metrics generalizing number with
  | nil => rfl
  | cons m metrics ih =>
    obtain ⟨hm, hmetrics⟩ := List.forall_mem_cons.1 h
    have hlines : lines (renderMetrics (m :: metrics)).toList =
        m.text.toList :: lines (renderMetrics metrics).toList := by
      rw [renderMetrics_cons]
      unfold lines
      rw [splitBy_append_cons (by decide)]
      exact congrArg (· ++ _) (lines_of_line hm.newline_not_mem_text)
    rw [hlines, decodeLines, if_neg hm.not_all_isBlank, hm.decodeLine_text]
    dsimp only
    rw [ih hmetrics]

/-- Metrics whose paths are runs without blanks come back as they are. -/
theorem parseMetrics_renderMetrics {metrics : List Metric} (h : ∀ m ∈ metrics, m.IsReadable) :
    parseMetrics (renderMetrics metrics) = .ok metrics :=
  decodeLines_renderMetrics h 1

theorem Metric.same_self (m : Metric) : m.same m = true := by
  have hvalue : (m.value.sameNumber m.value || (m.value.isNaN && m.value.isNaN)) = true := by
    by_cases hnan : m.value = .nan
    · rw [hnan]
      rfl
    · rw [Binary64.sameNumber_self hnan, Bool.true_or]
  rw [same, hvalue, decide_eq_true rfl, decide_eq_true rfl]
  rfl

/-- What comes back has the path of a readable metric, so it was readable before. -/
theorem isReadable_of_sameMetrics {a b : List Metric} (h : sameMetrics a b = true)
    (ha : ∀ m ∈ a, m.IsReadable) : ∀ m ∈ b, m.IsReadable := by
  intro m hm
  obtain ⟨m', hm', hsame⟩ := exists_same_of_isEqv h hm
  rw [Metric.same, Bool.and_eq_true, Bool.and_eq_true] at hsame
  have hpath : m'.path = m.path := of_decide_eq_true hsame.1.1
  obtain ⟨hne, hblank⟩ := ha m' hm'
  exact ⟨hpath ▸ hne, hpath ▸ hblank⟩

/-! ## The law -/

/-- Metrics come back from their text, as many and in the same order, with their paths,
times and values, exactly when each has a path that is one field of a record. -/
theorem readable_metrics_come_back (metrics : List Metric) :
    (∃ back, parseMetrics (renderMetrics metrics) = .ok back ∧ sameMetrics back metrics = true) ↔
      ∀ m ∈ metrics, m.IsReadable := by
  constructor
  · rintro ⟨back, hback, hsame⟩
    exact isReadable_of_sameMetrics hsame (isReadable_of_parseMetrics hback)
  · intro h
    exact ⟨metrics, parseMetrics_renderMetrics h, isEqv_self fun m _ => m.same_self⟩

end MetricCheck
