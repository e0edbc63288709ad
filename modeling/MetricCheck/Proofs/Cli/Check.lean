-- Checks as whole runs. When nothing is logged and no figures are printed, a check writes
-- what there is to say of each input, one after the other, and its exit code tells
-- whether anything was written. Without rules it says only why there are none.
import MetricCheck.Proofs.Cli.Args
import MetricCheck.Proofs.Cli.Writing
import MetricCheck.Proofs.RuleText.Grammar

namespace MetricCheck.Cli

/-- The arguments ask for this check, and none of its log is shown. -/
def IsSilentCheck (env : Environment) (args : List String) (o : CheckOptions) : Prop :=
  ∃ request, readRequest args = .ok request ∧ request.command = .check o ∧ request.IsSilent env

section Silent

variable {env : Environment} {o : CheckOptions} (houtside : env.logSpec = none)
include houtside

theorem isSilentCheck_of_no_level {args : List String}
    (hargs : readRequest args = .ok ⟨none, .check o⟩) : IsSilentCheck env args o :=
  ⟨_, hargs, rfl, Request.isSilent_of_no_level houtside rfl⟩

/-- Any check of files with names can be asked for silently. -/
theorem isSilentCheck_args (hrules : o.rules ≠ "") (hfiles : ∀ name ∈ o.files, name ≠ "") :
    IsSilentCheck env o.args o :=
  isSilentCheck_of_no_level houtside (readRequest_args o hrules hfiles)

end Silent

/-- The rules of a file. -/
def Environment.rules (env : Environment) (name : String) : Except Failure (List Rule) :=
  (env.file name).mapError .input >>= readRules

/-- The metrics of an input. -/
def Environment.metrics (env : Environment) (source : Source) : Except Failure (List Metric) :=
  (env.content source).mapError .input >>= readMetrics

section Content

variable {env : Environment} {text : String}

theorem Environment.rules_of_text {name : String} {rules : List Rule}
    (h : env.file name = .ok text.toUTF8) (hparse : parseRules text = .ok rules) :
    env.rules name = .ok rules := by
  unfold Environment.rules
  rw [h]
  refine (readRules_toUTF8 text).trans ?_
  rw [hparse]
  rfl

theorem Environment.metrics_of_text {source : Source} {metrics : List Metric}
    (h : env.content source = .ok text.toUTF8) (hparse : parseMetrics text = .ok metrics) :
    env.metrics source = .ok metrics := by
  unfold Environment.metrics
  rw [h]
  refine (readMetrics_toUTF8 text).trans ?_
  rw [hparse]
  rfl

end Content

/-! ## One input -/

/-- The lines that report violations of an input, and the code that says whether there are
any. -/
def reportOutcome (colors : Bool) (source : String) (found : List Violation) : Outcome where
  code := if found.isEmpty then 0 else 1
  stdout := String.join
    (found.map fun v => sourceLine colors source (violationStyle v.kind) v.text)
  stderr := ""

/-- What a check says of an input. -/
def inputOutcome (env : Environment) (o : CheckOptions) (rules : List Rule) (source : Source) :
    Outcome :=
  let colors := o.color.enabled env.onTerminal
  match env.metrics source with
  | .error why => ⟨1, "", sourceLine colors source.name .red (why.message env.jsonWords)⟩
  | .ok metrics => reportOutcome colors source.name (violationsAmong o.kinds rules metrics)

theorem sourceLine_ne_empty (colors : Bool) (source : String) (style : Style) (text : String) :
    sourceLine colors source style text ≠ "" := by
  simp [sourceLine]

theorem isTruthful_reportOutcome (colors : Bool) (source : String) (found : List Violation) :
    (reportOutcome colors source found).IsTruthful := by
  cases found with
  | nil => rfl
  | cons v found => simp [Outcome.IsTruthful, reportOutcome, sourceLine_ne_empty]

theorem isTruthful_inputOutcome (env : Environment) (o : CheckOptions) (rules : List Rule)
    (source : Source) : (inputOutcome env o rules source).IsTruthful := by
  unfold inputOutcome
  cases env.metrics source with
  | error why => simp [Outcome.IsTruthful, sourceLine_ne_empty]
  | ok metrics => exact isTruthful_reportOutcome _ _ _

/-- An input with nothing to report is passed over. -/
theorem inputOutcome_eq_nothing {env : Environment} {o : CheckOptions} {rules : List Rule}
    {source : Source} {metrics : List Metric} (hmetrics : env.metrics source = .ok metrics)
    (h : violationsAmong o.kinds rules metrics = []) :
    inputOutcome env o rules source = .nothing := by
  unfold inputOutcome
  rw [hmetrics]
  simp only [h]
  rfl

theorem written_found (colors : Bool) (timings : Nat → Timings) (words : Json.Wording)
    (source : String) (found : List Violation) :
    written colors timings words (found.map (.found source)) (if found.isEmpty then 0 else 1) =
      reportOutcome colors source found := by
  have hstderr : String.join ((found.map (Event.found source)).map
      (Event.complaint colors words)) = "" := by
    induction found with
    | nil => rfl
    | cons v found ih => simpa [Event.complaint] using ih
  have hstdout : (found.map (Event.found source)).map (Event.stdout colors timings) =
      found.map fun v => sourceLine colors source (violationStyle v.kind) v.text := by
    rw [List.map_map]
    rfl
  unfold written reportOutcome
  rw [hstdout, hstderr]

/-- The events of a check of one input come to what is said of it, whatever its place. -/
theorem written_checkInput (env : Environment) {o : CheckOptions} (hsummary : o.summary = false)
    (timings : Nat → Timings) (rules : List Rule) (place : Nat) (source : Source) :
    written (o.color.enabled env.onTerminal) timings env.jsonWords
        (checkInput env o rules place source).1
        (if (checkInput env o rules place source).2 then 0 else 1) =
      inputOutcome env o rules source := by
  unfold checkInput inputOutcome Environment.metrics
  cases (env.content source).mapError .input >>= readMetrics with
  | error why => simp [written, Event.stdout, Event.complaint]
  | ok metrics =>
    -- all that comes before the violations is logged
    have hlog : ∀ (message : String) (records : List Log.Record),
        [note message] ++ records.map .log =
          (Log.Record.mk .info "metricrule" message :: records).map .log := fun _ _ => rfl
    simp only [hsummary, Bool.false_eq_true, if_false, List.append_nil, hlog, written_log_append]
    exact written_found _ timings _ source.name _

/-! ## All inputs -/

section Lists

/-- Texts of lists are joined list by list. -/
theorem join_flatten (texts : List (List String)) :
    String.join texts.flatten = String.join (texts.map String.join) := by
  induction texts with
  | nil => rfl
  | cons text texts ih =>
    rw [List.flatten_cons, String.join_append, ih, List.map_cons, String.join_cons]

variable {α β γ : Type} (xs : List α)

theorem map_mapIdx (f : Nat → α → β) (g : β → γ) :
    (xs.mapIdx f).map g = xs.mapIdx fun place x => g (f place x) := by
  simp [List.mapIdx_eq_zipIdx_map, List.map_map, Function.comp_def]

/-- Where places make no difference, they need not be looked at. -/
theorem mapIdx_const (f : α → β) : (xs.mapIdx fun _ => f) = xs.map f :=
  List.ext_getElem (by simp) (by simp)

end Lists

/-- Whatever comes of the inputs, it is said in turn. -/
theorem written_conclude (colors : Bool) (timings : Nat → Timings) (words : Json.Wording)
    (records : List Log.Record) (results : List (List Event × Bool)) :
    written colors timings words (conclude (records.map .log) results).1
        (conclude (records.map .log) results).2 =
      .inTurn (results.map fun result =>
        written colors timings words result.1 (if result.2 then 0 else 1)) := by
  unfold conclude
  rw [written_log_append]
  induction results with
  | nil => rfl
  | cons result results ih =>
    have hcode : (if (result :: results).all Prod.snd then 0 else 1) =
        max (if result.2 then 0 else 1) (if results.all Prod.snd then 0 else 1) := by
      rw [List.all_cons]
      cases result.2 <;> cases results.all Prod.snd <;> rfl
    rw [List.flatMap_cons, hcode, written_append, ih]
    rfl

/-- What a check writes is what is said before the inputs, and then what is said of each. -/
theorem join_conclude (write : Event → String) (said : List Event)
    (results : List (List Event × Bool)) :
    String.join ((conclude said results).1.map write) =
      String.join (said.map write) ++
        String.join (results.map fun result => String.join (result.1.map write)) := by
  unfold conclude
  rw [List.map_append, String.join_append, List.map_flatMap, List.flatMap_def, join_flatten,
    List.map_map]
  rfl

/-- The code tells whether all inputs pass, whatever is said. -/
theorem code_conclude {said said' : List Event} {results results' : List (List Event × Bool)}
    (h : results.map Prod.snd = results'.map Prod.snd) :
    (conclude said results).2 = (conclude said' results').2 := by
  have hall : ∀ results : List (List Event × Bool),
      results.all Prod.snd = (results.map Prod.snd).all id := fun results => by
    rw [List.all_map]
    rfl
  simp only [conclude, hall, h]

/-- Log records aside, the rules of a file are had, or it is said why there are none. -/
theorem exists_loadRules_eq (env : Environment) (name : String) :
    ∃ records : List Log.Record, loadRules env name =
      match env.rules name with
      | .error why => (records.map .log ++ [.failed name why], none)
      | .ok rules => (records.map .log, some rules) := by
  unfold loadRules Environment.rules readRules parseRules
  cases env.file name with
  | error e => exact ⟨[], rfl⟩
  | ok bytes =>
    cases htext : textOf bytes with
    | error e =>
      refine ⟨[], ?_⟩
      simp only [Except.mapError, bind, Except.bind, htext]
      rfl
    | ok text =>
      simp only [Except.mapError, bind, Except.bind, htext]
      cases hrules : (RuleReading.ofText text).rules with
      | error e => exact ⟨(RuleReading.ofText text).records, rfl⟩
      | ok rules =>
        refine ⟨(RuleReading.ofText text).records ++ [⟨.info, "metricrule",
          "loaded " ++ toString rules.length ++ " rules from " ++ name⟩], ?_⟩
        simp only [List.map_append]
        rfl

/-- Log records aside, a check says why there are no rules, or it goes through the inputs. -/
theorem exists_checkInputs_eq (env : Environment) (o : CheckOptions) :
    ∃ records : List Log.Record, checkInputs env o =
      match env.rules o.rules with
      | .error why => (records.map .log ++ [.failed o.rules why], 2)
      | .ok rules =>
        conclude (records.map .log) ((sources o.files).mapIdx (checkInput env o rules)) := by
  obtain ⟨records, hload⟩ := exists_loadRules_eq env o.rules
  refine ⟨records, ?_⟩
  unfold checkInputs
  rw [hload]
  cases env.rules o.rules with
  | error why => rfl
  | ok rules => rfl

section Run

variable {env : Environment} {args : List String} {o : CheckOptions}

theorem run_check {request : Request} (hargs : readRequest args = .ok request)
    (hcommand : request.command = .check o) (timings : Nat → Timings) :
    run env timings args = request.outcome env timings (checkInputs env o) := by
  unfold run
  rw [hargs]
  simp only [hcommand]
  rfl

theorem run_of_isSilentCheck (h : IsSilentCheck env args o) (timings : Nat → Timings) :
    run env timings args =
      written (o.color.enabled env.onTerminal) timings env.jsonWords (checkInputs env o).1
        (checkInputs env o).2 := by
  obtain ⟨request, hargs, hcommand, hsilent⟩ := h
  rw [run_check hargs hcommand, hsilent.outcome, hcommand]
  rfl

/-- Without rules a check says why and nothing else. -/
theorem run_check_of_error (h : IsSilentCheck env args o) (timings : Nat → Timings)
    {why : Failure} (hrules : env.rules o.rules = .error why) :
    run env timings args =
      ⟨2, "", sourceLine (o.color.enabled env.onTerminal) o.rules .red
        (why.message env.jsonWords)⟩ := by
  obtain ⟨records, hcheck⟩ := exists_checkInputs_eq env o
  rw [run_of_isSilentCheck h, hcheck, hrules]
  simp only
  rw [written_log_append]
  simp [written, Event.stdout, Event.complaint]

/-- With rules a check says what there is to say of each input. -/
theorem run_check_of_ok (h : IsSilentCheck env args o) (hsummary : o.summary = false)
    (timings : Nat → Timings) {rules : List Rule} (hrules : env.rules o.rules = .ok rules) :
    run env timings args = .inTurn ((sources o.files).map (inputOutcome env o rules)) := by
  obtain ⟨records, hcheck⟩ := exists_checkInputs_eq env o
  rw [run_of_isSilentCheck h, hcheck, hrules]
  simp only
  rw [written_conclude, map_mapIdx]
  simp only [written_checkInput env hsummary]
  rw [mapIdx_const]

end Run

/-! ## The law -/

theorem sources_of_ne_nil {files : List String} (h : files ≠ []) :
    sources files = files.map .file := by
  unfold sources
  rw [if_neg]
  simpa using h

/-- A check without figures and without a log, whichever inputs it is given. If the rules
cannot be had, it says so, whatever the inputs are. Otherwise it says of each input in turn
what there is to say, and its code tells whether that is anything; so inputs given together
come to what those given first and those given later come to, one after the other. -/
theorem inputs_are_checked_each_for_itself (env : Environment) (o : CheckOptions)
    (hsummary : o.summary = false) :
    (∀ why, env.rules o.rules = .error why →
      ∀ files args timings, IsSilentCheck env args { o with files } →
        run env timings args =
          ⟨2, "", sourceLine (o.color.enabled env.onTerminal) o.rules .red
            (why.message env.jsonWords)⟩) ∧
    ∀ rules, env.rules o.rules = .ok rules →
      (∀ files args timings, IsSilentCheck env args { o with files } →
        run env timings args = .inTurn ((sources files).map (inputOutcome env o rules)) ∧
        (run env timings args).IsTruthful) ∧
      ∀ first second, first ≠ [] → second ≠ [] →
        ∀ args args' args'' timings timings' timings'',
          IsSilentCheck env args { o with files := first } →
          IsSilentCheck env args' { o with files := second } →
          IsSilentCheck env args'' { o with files := first ++ second } →
          run env timings'' args'' =
            (run env timings args).followedBy (run env timings' args') := by
  refine ⟨?_, fun rules hrules => ⟨?_, ?_⟩⟩
  · intro why hrules files args timings h
    exact run_check_of_error h timings hrules
  · intro files args timings h
    have hrun := run_check_of_ok h hsummary timings hrules
    refine ⟨hrun, ?_⟩
    rw [hrun]
    apply Outcome.isTruthful_inTurn
    intro outcome houtcome
    obtain ⟨source, -, rfl⟩ := List.mem_map.1 houtcome
    exact isTruthful_inputOutcome env _ rules source
  · intro first second hfirst hsecond args args' args'' timings timings' timings'' h h' h''
    have hboth : first ++ second ≠ [] := List.append_ne_nil_of_left_ne_nil hfirst second
    rw [run_check_of_ok h hsummary timings hrules, run_check_of_ok h' hsummary timings' hrules,
      run_check_of_ok h'' hsummary timings'' hrules, sources_of_ne_nil hfirst,
      sources_of_ne_nil hsecond, sources_of_ne_nil hboth, List.map_append, List.map_append,
      Outcome.inTurn_append]
    -- what is said of an input does not depend on the inputs given with it
    rfl

/-- For instance, a file that is not there before a directory, with rules and without. -/
theorem inputs_are_checked_each_for_itself_with_bad_inputs :
    let env : Environment :=
      { file := fun name =>
          if name = "rules" then .ok "cpu".toUTF8
          else if name = "metrics" then .error .isDirectory
          else .error .notFound
        stdin := .empty
        logSpec := none
        onTerminal := false
        jsonWords := fun _ _ => "" }
    let timings : Nat → Timings := fun _ => ⟨"1ns", "-", "-", "-"⟩
    run env timings ["check", "gone"] =
      ⟨2, "", "metricrules: IO error: No such file or directory (os error 2)\n"⟩ ∧
    run env timings ["check", "-f", "rules", "gone", "metrics"] =
      ⟨1, "", "gone: IO error: No such file or directory (os error 2)\n" ++
        "metrics: IO error: Is a directory (os error 21)\n"⟩ ∧
    (run env timings ["check", "-f", "rules", "gone", "metrics"]).IsTruthful ∧
    run env timings ["check", "-f", "rules", "gone", "metrics"] =
      (run env timings ["check", "-f", "rules", "gone"]).followedBy
        (run env timings ["check", "-f", "rules", "metrics"]) := by
  intro env timings
  let o : CheckOptions := ⟨"rules", [], .all, false, .auto⟩
  have hrules : env.rules o.rules = .ok [⟨"cpu", true, []⟩] := by
    have hfile : env.file o.rules = .ok "cpu".toUTF8 := rfl
    exact Environment.rules_of_text hfile (parseRules_of_path (by decide +kernel))
  obtain ⟨hsaid, hinTurn⟩ := (inputs_are_checked_each_for_itself env o rfl).2 _ hrules
  obtain ⟨hrun, htruthful⟩ := hsaid ["gone", "metrics"] ["check", "-f", "rules", "gone", "metrics"]
    timings (isSilentCheck_of_no_level rfl rfl)
  refine ⟨?_, ?_, htruthful, ?_⟩
  · exact (inputs_are_checked_each_for_itself env { o with rules := "metricrules" } rfl).1
      (.input .notFound) rfl ["gone"] _ timings (isSilentCheck_of_no_level rfl rfl)
  · rw [hrun]
    rfl
  · exact hinTurn ["gone"] ["metrics"] (by decide) (by decide) _ _ _ timings timings timings
      (isSilentCheck_of_no_level rfl rfl) (isSilentCheck_of_no_level rfl rfl)
      (isSilentCheck_of_no_level rfl rfl)

end MetricCheck.Cli
