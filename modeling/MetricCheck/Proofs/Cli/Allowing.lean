-- What it is to allow violations. The kinds to report leave violations out of a report and
-- change nothing else in it; and a check with flags that allow some kinds writes what the
-- same check writes without these flags, but for the lines of the kinds that it allows.
import MetricCheck.Proofs.Cli.Check
import MetricCheck.Proofs.Cli.Flags
import MetricCheck.Proofs.Reports

namespace MetricCheck.Cli

/-! ## Checks without the flags -/

/-- A silent check without flags that allow violations is silent, and reports all kinds. -/
theorem IsSilentCheck.withoutAllowing {env : Environment} {args : List String} {o : CheckOptions}
    (h : IsSilentCheck env args o) :
    IsSilentCheck env (withoutAllowing args) { o with kinds := .all } ∧
      ∀ kind, o.kinds.contains kind = false ↔ Allows args kind := by
  obtain ⟨request, hargs, hcommand, hsilent⟩ := h
  obtain ⟨hwithout, hallows⟩ := readRequest_withoutAllowing hargs hcommand
  refine ⟨⟨_, hwithout, rfl, hsilent.no_warnings, hsilent.shows_nothing⟩, fun kind => ?_⟩
  rw [hallows, Bool.not_eq_false', decide_eq_true_eq]

/-! ## What is written -/

/-- The violations in an input; there are none in one that cannot be read. -/
def foundIn (env : Environment) (rules : List Rule) (source : Source) : List Violation :=
  match env.metrics source with
  | .error _ => []
  | .ok metrics => findViolations rules metrics

/-- The violations in all inputs in order, each with the name of its input. -/
def foundAmong (env : Environment) (rules : List Rule) (files : List String) :
    List (String × Violation) :=
  (sources files).flatMap fun source => (foundIn env rules source).map (source.name, ·)

/-- The line that reports a violation of an input. -/
def reportLine (colors : Bool) (found : String × Violation) : String :=
  sourceLine colors found.1 (violationStyle found.2.kind) found.2.text

section Inputs

variable (env : Environment) (o : CheckOptions) (rules : List Rule) (source : Source)

theorem stdout_inputOutcome :
    (inputOutcome env o rules source).stdout =
      String.join ((((foundIn env rules source).map (source.name, ·)).filter fun found =>
        o.kinds.contains found.2.kind).map (reportLine (o.color.enabled env.onTerminal))) := by
  unfold inputOutcome foundIn
  cases env.metrics source with
  | error why => rfl
  | ok metrics =>
    dsimp only [reportOutcome]
    rw [violationsAmong_eq_filter, List.filter_map, List.map_map]
    rfl

/-- What is wrong with an input is the same whatever is reported. -/
theorem stderr_inputOutcome (kinds : ViolationKinds) :
    (inputOutcome env o rules source).stderr =
      (inputOutcome env { o with kinds } rules source).stderr := by
  unfold inputOutcome
  cases env.metrics source with
  | error why => rfl
  | ok metrics => rfl

theorem code_inputOutcome :
    (inputOutcome env o rules source).code ≤ 1 ∧
      ((inputOutcome env o rules source).code = 1 ↔
        (∃ v ∈ foundIn env rules source, o.kinds.contains v.kind = true) ∨
          ∃ why, env.metrics source = .error why) := by
  unfold inputOutcome foundIn
  cases env.metrics source with
  | error why => simp
  | ok metrics =>
    dsimp only [reportOutcome]
    rw [violationsAmong_eq_filter]
    split
    · rename_i hnone
      rw [List.isEmpty_iff, List.filter_eq_nil_iff] at hnone
      simpa using hnone
    · rename_i hsome
      rw [List.isEmpty_iff, List.filter_eq_nil_iff] at hsome
      simpa using hsome

end Inputs

section Run

variable {env : Environment} {args : List String} {o : CheckOptions} {rules : List Rule}

/-- A check writes the lines of the kinds that it reports. -/
theorem stdout_run (h : IsSilentCheck env args o) (hsummary : o.summary = false)
    (hrules : env.rules o.rules = .ok rules) (timings : Nat → Timings) :
    (run env timings args).stdout =
      String.join (((foundAmong env rules o.files).filter fun found =>
        o.kinds.contains found.2.kind).map (reportLine (o.color.enabled env.onTerminal))) := by
  rw [run_check_of_ok h hsummary timings hrules,
    Outcome.stdout_inTurn _ (stdout_inputOutcome env o rules), foundAmong, List.filter_flatMap,
    List.map_flatMap]

theorem code_run (h : IsSilentCheck env args o) (hsummary : o.summary = false)
    (hrules : env.rules o.rules = .ok rules) (timings : Nat → Timings) :
    (run env timings args).code ≤ 1 ∧
      ((run env timings args).code = 1 ↔
        (∃ found ∈ foundAmong env rules o.files, o.kinds.contains found.2.kind = true) ∨
          ∃ source ∈ sources o.files, ∃ why, env.metrics source = .error why) := by
  have hcodes : ∀ outcome ∈ (sources o.files).map (inputOutcome env o rules),
      outcome.code ≤ 1 := by
    intro outcome houtcome
    obtain ⟨source, -, rfl⟩ := List.mem_map.1 houtcome
    exact (code_inputOutcome env o rules source).1
  rw [run_check_of_ok h hsummary timings hrules]
  obtain ⟨hle, hone⟩ := Outcome.code_inTurn hcodes
  refine ⟨hle, hone.trans ?_⟩
  constructor
  · rintro ⟨outcome, houtcome, hcode⟩
    obtain ⟨source, hsource, rfl⟩ := List.mem_map.1 houtcome
    rcases (code_inputOutcome env o rules source).2.1 hcode with ⟨v, hv, hkind⟩ | hbad
    · left
      refine ⟨(source.name, v), List.mem_flatMap.2 ⟨source, hsource, ?_⟩, hkind⟩
      exact List.mem_map_of_mem hv
    · right
      exact ⟨source, hsource, hbad⟩
  · rintro (⟨found, hfound, hkind⟩ | ⟨source, hsource, hbad⟩)
    · obtain ⟨source, hsource, hmem⟩ := List.mem_flatMap.1 hfound
      obtain ⟨v, hv, rfl⟩ := List.mem_map.1 hmem
      exact ⟨_, List.mem_map_of_mem hsource,
        (code_inputOutcome env o rules source).2.2 (.inl ⟨v, hv, hkind⟩)⟩
    · exact ⟨_, List.mem_map_of_mem hsource,
        (code_inputOutcome env o rules source).2.2 (.inr hbad)⟩

end Run

/-! ## The law -/

/-- The kinds to report make a report leave out the violations of the other kinds, in place, and
nothing else. So a check with flags that allow kinds is compared with the same check without
these flags: it writes the lines of all that is found but for the allowed kinds, in the same
order, and it complains of the same inputs. Its code is 1 when it reports something or an input
cannot be read, and 0 otherwise. -/
theorem allowed_kinds_are_left_out :
    (∀ (kinds : ViolationKinds) (rules : List Rule) (metrics : List Metric),
      violationsAmong kinds rules metrics =
        (findViolations rules metrics).filter (fun v => kinds.contains v.kind) ∧
      inspect kinds rules metrics =
        { inspect .all rules metrics with
          violations := (findViolations rules metrics).filter fun v => kinds.contains v.kind }) ∧
    ∀ (env : Environment) (args : List String) (o : CheckOptions) (rules : List Rule)
      (timings timings' : Nat → Timings), IsSilentCheck env args o → o.summary = false →
      env.rules o.rules = .ok rules →
      let found := foundAmong env rules o.files
      let lines := fun found : List (String × Violation) =>
        String.join (found.map (reportLine (o.color.enabled env.onTerminal)))
      IsSilentCheck env (withoutAllowing args) { o with kinds := .all } ∧
      (∀ kind, o.kinds.contains kind = false ↔ Allows args kind) ∧
      (run env timings' (withoutAllowing args)).stdout = lines found ∧
      (run env timings args).stdout = lines (found.filter fun f => ¬ Allows args f.2.kind) ∧
      (run env timings args).stderr = (run env timings' (withoutAllowing args)).stderr ∧
      ((run env timings args).code = 1 ↔ (∃ f ∈ found, ¬ Allows args f.2.kind) ∨
        ∃ source ∈ sources o.files, ∃ why, env.metrics source = .error why) ∧
      ((run env timings args).code = 0 ↔ ¬ ((∃ f ∈ found, ¬ Allows args f.2.kind) ∨
        ∃ source ∈ sources o.files, ∃ why, env.metrics source = .error why)) := by
  constructor
  · intro kinds rules metrics
    refine ⟨violationsAmong_eq_filter kinds rules metrics, ?_⟩
    rw [← violationsAmong_eq_filter]
    rfl
  · intro env args o rules timings timings' h hsummary hrules found lines
    obtain ⟨hwithout, hallows⟩ := h.withoutAllowing
    have hkind : ∀ kind, o.kinds.contains kind = decide (¬ Allows args kind) := by
      intro kind
      rw [Bool.eq_iff_iff, decide_eq_true_eq, ← hallows, Bool.not_eq_false]
    refine ⟨hwithout, hallows, ?_, ?_, ?_, ?_⟩
    · have hall : found.filter (fun f => ViolationKinds.all.contains f.2.kind) = found :=
        List.filter_eq_self.2 fun f _ => by cases f.2.kind <;> rfl
      rw [stdout_run hwithout hsummary hrules timings', hall]
    · rw [stdout_run h hsummary hrules timings]
      simp only [hkind, found, lines]
    · rw [run_check_of_ok h hsummary timings hrules,
        run_check_of_ok hwithout hsummary timings' hrules]
      exact Outcome.stderr_inTurn_congr
        (fun source => stderr_inputOutcome env o rules source .all) _
    · obtain ⟨hle, hone⟩ := code_run h hsummary hrules timings
      simp only [hkind, decide_eq_true_eq] at hone
      rw [← hone]
      omega

/-- For instance, an input with an unexpected metric and without a required one, of which only
the first is reported when missing rules are allowed. -/
theorem allowed_kinds_are_left_out_of_two_lines :
    let env : Environment :=
      { file := fun name =>
          if name = "rules" then .ok "cpu".toUTF8
          else if name = "metrics" then .ok "net 0 0".toUTF8
          else .error .notFound
        stdin := .empty
        logSpec := none
        onTerminal := false
        jsonWords := fun _ _ => "" }
    let timings : Nat → Timings := fun _ => ⟨"1ns", "-", "-", "-"⟩
    (run env timings ["check", "-f", "rules", "metrics"]).stdout =
      "metrics: found unexpected metric net 0 0\nmetrics: rule cpu[] did not match any metric\n" ∧
    (run env timings ["check", "-f", "rules", "--allow-missing", "metrics"]).stdout =
      "metrics: found unexpected metric net 0 0\n" ∧
    (run env timings ["check", "-f", "rules", "--allow-missing", "metrics"]).code = 1 := by
  intro env timings
  let o : CheckOptions := ⟨"rules", ["metrics"], ⟨true, false, true⟩, false, .auto⟩
  let cpu : Rule := ⟨"cpu", true, []⟩
  let net : Metric := ⟨"net", .zero false, ⟨0, by decide, by decide⟩⟩
  have hrules : env.rules o.rules = .ok [cpu] := by
    have hfile : env.file o.rules = .ok "cpu".toUTF8 := rfl
    exact Environment.rules_of_text hfile (parseRules_of_path (by decide +kernel))
  have hmetrics : env.metrics (.file "metrics") = .ok [net] := by
    have hfile : env.content (.file "metrics") = .ok "net 0 0".toUTF8 := rfl
    exact Environment.metrics_of_text hfile rfl
  have hfound : foundAmong env [cpu] o.files =
      [("metrics", .unexpected net), ("metrics", .missing cpu)] := by
    have hin : foundIn env [cpu] (.file "metrics") = findViolations [cpu] [net] := by
      unfold foundIn
      rw [hmetrics]
    have hviolations : findViolations [cpu] [net] = [.unexpected net, .missing cpu] := by decide
    have hsources : sources o.files = [.file "metrics"] := rfl
    rw [foundAmong, hsources, List.flatMap_singleton, hin, hviolations]
    rfl
  have hsilent : IsSilentCheck env ["check", "-f", "rules", "--allow-missing", "metrics"] o :=
    isSilentCheck_of_no_level rfl rfl
  obtain ⟨-, -, hall, hleft, -, hcode, -⟩ :=
    allowed_kinds_are_left_out.2 env _ o [cpu] timings timings hsilent rfl hrules
  have hwithout : withoutAllowing ["check", "-f", "rules", "--allow-missing", "metrics"] =
      ["check", "-f", "rules", "metrics"] := by decide
  rw [hfound] at hall hleft hcode
  rw [hwithout] at hall
  refine ⟨hall.trans (by decide +kernel), hleft.trans (by decide +kernel), hcode.2 (.inl ?_)⟩
  exact ⟨("metrics", .unexpected net), List.mem_cons_self, by decide⟩

end MetricCheck.Cli
