-- What a check prints: for each input the lines of its violations, and then its figures if
-- they are asked for. No two violations that can come of texts have one text, and none has a
-- text of two lines; so the lines are as many as the violations, and each tells its own.
import MetricCheck.Proofs.Cli.Allowing
import MetricCheck.Proofs.ViolationText

namespace MetricCheck.Cli

/-- The text is one line with a newline at its end. -/
def IsOneLine (text : String) : Prop := ∃ line : String, text = line ++ "\n" ∧ '\n' ∉ line.toList

section Input

variable (env : Environment) (o : CheckOptions)

/-- What a check finds in an input, if there are rules and the input can be read. -/
def inspectionOf (source : Source) : Option Inspection :=
  match env.rules o.rules, env.metrics source with
  | .ok rules, .ok metrics => some (inspect o.kinds rules metrics)
  | _, _ => none

/-- The violations of an input that a check reports. -/
def reportedOf (source : Source) : List Violation :=
  (inspectionOf env o source).elim [] Inspection.violations

/-- The lines of these violations. -/
def reportLines (source : Source) : List String :=
  (reportedOf env o source).map fun v =>
    reportLine (o.color.enabled env.onTerminal) (source.name, v)

/-- The figures of an input with these times, where a check prints them. -/
def figures (timings : Timings) (source : Source) : List String :=
  if o.summary then
    (inspectionOf env o source).toList.map
      (summaryText (o.color.enabled env.onTerminal) timings source.name)
  else []

end Input

/-! ## What is printed -/

section Printed

variable {env : Environment} {o : CheckOptions} {source : Source}

theorem stdout_log (colors : Bool) (timings : Nat → Timings) (records : List Log.Record) :
    String.join ((records.map Event.log).map (Event.stdout colors timings)) = "" :=
  congrArg Outcome.stdout (written_log colors timings (fun _ _ => "") records)

theorem stdout_checkInput {rules : List Rule} (hrules : env.rules o.rules = .ok rules)
    (timings : Nat → Timings) (place : Nat) (source : Source) :
    String.join ((checkInput env o rules place source).1.map
        (Event.stdout (o.color.enabled env.onTerminal) timings)) =
      String.join (reportLines env o source ++ figures env o (timings place) source) := by
  unfold checkInput reportLines figures reportedOf inspectionOf
  rw [hrules]
  unfold Environment.metrics
  cases (env.content source).mapError .input >>= readMetrics with
  | error why => simp [Event.stdout]
  | ok metrics =>
    have hnote : ∀ message, String.join ([note message].map
        (Event.stdout (o.color.enabled env.onTerminal) timings)) = "" :=
      fun message => stdout_log _ timings [_]
    simp only [List.map_append, String.join_append, stdout_log, hnote, String.empty_append]
    congr 1
    · rw [List.map_map]
      rfl
    · cases o.summary <;> rfl

theorem stdout_run_check {args : List String} {request : Request}
    (hargs : readRequest args = .ok request) (hcommand : request.command = .check o)
    (timings : Nat → Timings) :
    (run env timings args).stdout =
      String.join ((sources o.files).mapIdx fun place source =>
        reportLines env o source ++ figures env o (timings place) source).flatten := by
  have hrun : (run env timings args).stdout = String.join ((checkInputs env o).1.map
      (Event.stdout (o.color.enabled env.onTerminal) timings)) := by
    rw [run_check hargs hcommand, Request.outcome, hcommand]
    rfl
  obtain ⟨records, hcheck⟩ := exists_checkInputs_eq env o
  rw [hrun, hcheck]
  cases hrules : env.rules o.rules with
  | error why =>
    have hnone : ∀ place source,
        reportLines env o source ++ figures env o (timings place) source = [] := by
      simp [reportLines, figures, reportedOf, inspectionOf, hrules]
    simp only [hnone, List.map_append, String.join_append, stdout_log]
    simp [mapIdx_const, Event.stdout]
  | ok rules =>
    simp only [join_conclude, stdout_log, String.empty_append]
    rw [join_flatten, map_mapIdx, map_mapIdx]
    simp only [stdout_checkInput hrules]

/-! ## Lines -/

theorem newline_not_mem_paint {text : String} (h : '\n' ∉ text.toList) (colors : Bool)
    (style : Style) : '\n' ∉ (paint colors style text).toList := by
  have hselect : '\n' ∉ (selectRendition style.code).toList := by
    cases style <;> decide +kernel
  have hplain : '\n' ∉ (selectRendition 0).toList := by decide +kernel
  unfold paint
  split
  · simp only [String.toList_append, List.mem_append, not_or]
    exact ⟨⟨hselect, h⟩, hplain⟩
  · exact h

theorem isOneLine_sourceLine {name text : String} (hname : '\n' ∉ name.toList)
    (htext : '\n' ∉ text.toList) (colors : Bool) (style : Style) :
    IsOneLine (sourceLine colors name style text) := by
  refine ⟨paint colors .bold name ++ ": " ++ paint colors style text, rfl, ?_⟩
  simp only [String.toList_append, List.mem_append, not_or]
  exact ⟨⟨newline_not_mem_paint hname _ _, by decide⟩, newline_not_mem_paint htext _ _⟩

theorem IsOneLine.count {text : String} (h : IsOneLine text) : text.toList.count '\n' = 1 := by
  obtain ⟨line, rfl, hline⟩ := h
  rw [String.toList_append, List.count_append, List.count_eq_zero.2 hline]
  rfl

theorem count_join {texts : List String} (h : ∀ text ∈ texts, IsOneLine text) :
    (String.join texts).toList.count '\n' = texts.length := by
  induction texts with
  | nil => rfl
  | cons text texts ih =>
    obtain ⟨htext, htexts⟩ := List.forall_mem_cons.1 h
    rw [String.join_cons, String.toList_append, List.count_append, htext.count, ih htexts,
      List.length_cons, Nat.add_comm]

/-! ## Where violations come from -/

/-- What a check reports comes of the text of the rules and that of the input. -/
theorem isOfTexts_of_mem_reportedOf {v : Violation} (hv : v ∈ reportedOf env o source) :
    v.IsOfTexts := by
  unfold reportedOf inspectionOf at hv
  split at hv
  · rename_i rules metrics hrules hmetrics
    obtain ⟨hrule, hmetric⟩ := parts_of_mem_inspect hv
    obtain ⟨bytes, -, hrules⟩ := bind_eq_ok_iff.1 hrules
    obtain ⟨bytes', -, hmetrics⟩ := bind_eq_ok_iff.1 hmetrics
    obtain ⟨text, hparse⟩ := exists_text_of_readRules hrules
    obtain ⟨text', hparse'⟩ := exists_text_of_readMetrics hmetrics
    exact ⟨fun r hr => ⟨text, rules, hparse, hrule r hr⟩,
      fun m hm => ⟨text', metrics, hparse', hmetric m hm⟩⟩
  · cases hv

theorem isOneLine_of_mem_reportLines (hname : '\n' ∉ source.name.toList) :
    ∀ line ∈ reportLines env o source, IsOneLine line := by
  intro line hline
  obtain ⟨v, hv, rfl⟩ := List.mem_map.1 hline
  have htext := (isOfTexts_of_mem_reportedOf hv).isReadable.newline_not_mem_text
  exact isOneLine_sourceLine hname htext _ _

end Printed

/-! ## The law -/

/-- Violations whose rules and metrics were read of texts, whichever texts they are, have one text
only if they are one violation; and their texts are without newlines. So a check prints a line for
each violation that it reports, and nothing else but the figures that are asked for, as long as
the names of the inputs are without newlines too. -/
theorem diagnostics_are_unambiguous_lines :
    (∀ v w : Violation, v.IsOfTexts → w.IsOfTexts → (v.text = w.text ↔ v = w)) ∧
    (∀ v : Violation, v.IsOfTexts → '\n' ∉ v.text.toList) ∧
    ∀ (env : Environment) (args : List String) (request : Request) (o : CheckOptions)
      (timings : Nat → Timings), readRequest args = .ok request → request.command = .check o →
      (run env timings args).stdout =
        String.join ((sources o.files).mapIdx fun place source =>
          reportLines env o source ++ figures env o (timings place) source).flatten ∧
      ((∀ source ∈ sources o.files, '\n' ∉ source.name.toList) →
        (∀ source ∈ sources o.files, ∀ line ∈ reportLines env o source, IsOneLine line) ∧
        (o.summary = false → (run env timings args).stdout.toList.count '\n' =
          ((sources o.files).flatMap (reportedOf env o)).length)) := by
  refine ⟨fun v w hv hw => ⟨hv.isReadable.eq_of_text_eq hw.isReadable, congrArg Violation.text⟩,
    fun v hv => hv.isReadable.newline_not_mem_text, ?_⟩
  intro env args request o timings hargs hcommand
  have hstdout : (run env timings args).stdout = _ := stdout_run_check hargs hcommand timings
  refine ⟨hstdout, fun hnames => ?_⟩
  have hlines : ∀ source ∈ sources o.files, ∀ line ∈ reportLines env o source, IsOneLine line :=
    fun source hsource => isOneLine_of_mem_reportLines (hnames source hsource)
  refine ⟨hlines, fun hsummary => ?_⟩
  have hnone : ∀ place source, figures env o (timings place) source = [] := fun place source => by
    rw [figures, if_neg (by simp [hsummary])]
  simp only [hstdout, hnone, List.append_nil]
  rw [mapIdx_const, ← List.flatMap_def, count_join]
  · simp [reportLines, List.length_flatMap]
  · intro line hline
    obtain ⟨source, hsource, hline⟩ := List.mem_flatMap.1 hline
    exact hlines source hsource line hline

/-- For instance, a path that looks like a path with a bound, beside such a rule. -/
theorem diagnostics_are_unambiguous_lines_with_brackets_in_a_path :
    let looks : Rule := ⟨"a[<0]", true, []⟩
    let bounded : Rule := ⟨"a", true, [⟨.lessThan, .zero false⟩]⟩
    let env : Environment :=
      { file := fun name =>
          if name = "rules" then .ok "a[<0]\na <0".toUTF8
          else if name = "metrics" then .ok "b 0 0".toUTF8
          else .error .notFound
        stdin := .empty
        logSpec := none
        onTerminal := true
        jsonWords := fun _ _ => "" }
    let timings : Nat → Timings := fun _ => ⟨"1ns", "-", "-", "-"⟩
    ((Violation.missing looks).IsOfTexts ∧ (Violation.missing bounded).IsOfTexts) ∧
    (Violation.missing looks).text ≠ (Violation.missing bounded).text ∧
    '\n' ∉ (Violation.missing looks).text.toList ∧
    (run env timings ["check", "-f", "rules", "metrics"]).stdout.toList.count '\n' = 3 := by
  intro looks bounded env timings
  let o : CheckOptions := ⟨"rules", ["metrics"], .all, false, .auto⟩
  let other : Metric := ⟨"b", .zero false, ⟨0, by decide, by decide⟩⟩
  have hparse : parseRules "a[<0]\na <0" = .ok [looks, bounded] := by decide +kernel
  have htexts : ∀ r ∈ [looks, bounded], (Violation.missing r).IsOfTexts := by
    intro r hr
    refine ⟨fun r' hr' => ⟨_, _, hparse, Option.some.inj hr' ▸ hr⟩, fun m hm => nomatch hm⟩
  have hlooks := htexts looks List.mem_cons_self
  have hbounded := htexts bounded (List.mem_cons_of_mem _ List.mem_cons_self)
  have hrules : env.rules o.rules = .ok [looks, bounded] := Environment.rules_of_text rfl hparse
  have hmetrics : env.metrics (.file "metrics") = .ok [other] := by
    have hfile : env.content (.file "metrics") = .ok "b 0 0".toUTF8 := rfl
    exact Environment.metrics_of_text hfile rfl
  have hreported : reportedOf env o (.file "metrics") =
      [.unexpected other, .missing bounded, .missing looks] := by
    unfold reportedOf inspectionOf
    rw [hrules, hmetrics]
    decide
  have hsources : sources o.files = [.file "metrics"] := rfl
  obtain ⟨hunambiguous, hline, hrun⟩ := diagnostics_are_unambiguous_lines
  refine ⟨⟨hlooks, hbounded⟩, ?_, hline _ hlooks, ?_⟩
  · rw [Ne, hunambiguous _ _ hlooks hbounded]
    decide
  · let args := ["check", "-f", "rules", "metrics"]
    obtain ⟨-, hlines⟩ := hrun env args ⟨none, .check o⟩ o timings rfl rfl
    have hnames : ∀ source ∈ sources o.files, '\n' ∉ source.name.toList := by
      rw [hsources]
      decide
    rw [(hlines hnames).2 rfl, hsources, List.flatMap_singleton, hreported]
    rfl

end MetricCheck.Cli
