-- What a check looks like, and what it comes to. Colours, figures and the log are presentation:
-- whichever are asked for, the code of a check is the same. The log leaves the standard output
-- alone, figures stand after the lines of their input, and colours are sequences and no more.
import MetricCheck.Cli.Duration
import MetricCheck.Proofs.Cli.Diagnostics
import MetricCheck.Proofs.Cli.Renditions

namespace MetricCheck.Cli

/-! ## The code and the standard error -/

section Options

variable {env : Environment} {o : CheckOptions} {args : List String} {request : Request}

theorem code_run_check (hargs : readRequest args = .ok request)
    (hcommand : request.command = .check o) (timings : Nat → Timings) :
    (run env timings args).code = (checkInputs env o).2 := by
  rw [run_check hargs hcommand]
  rfl

variable (env o) (summary : Bool) (color : ColorChoice)

theorem passed_checkInput (rules : List Rule) (place : Nat) (source : Source) :
    (checkInput env { o with summary, color } rules place source).2 =
      (checkInput env o rules place source).2 := by
  unfold checkInput
  cases (env.content source).mapError .input >>= readMetrics with
  | error why => rfl
  | ok metrics => rfl

theorem code_checkInputs :
    (checkInputs env { o with summary, color }).2 = (checkInputs env o).2 := by
  unfold checkInputs
  rcases loadRules env o.rules with ⟨said, _ | rules⟩
  · rfl
  · apply code_conclude
    simp only [map_mapIdx, passed_checkInput]

variable (colors : Bool) (words : Json.Wording) (filter : Log.Filter) (targets : Bool)

theorem stderr_checkInput (rules : List Rule) (place : Nat) (source : Source) :
    String.join ((checkInput env { o with summary, color } rules place source).1.map
        (Event.stderr colors words filter targets)) =
      String.join ((checkInput env o rules place source).1.map
        (Event.stderr colors words filter targets)) := by
  have hfigures : ∀ (asked : Bool) (i : Inspection),
      String.join ((if asked then [Event.summary place source.name i] else []).map
        (Event.stderr colors words filter targets)) = "" := by
    intro asked i
    cases asked <;> rfl
  unfold checkInput
  cases (env.content source).mapError .input >>= readMetrics with
  | error why => rfl
  | ok metrics =>
    simp only [List.map_append, String.join_append, hfigures]

/-- No figures are written to the standard error. -/
theorem stderr_checkInputs :
    String.join ((checkInputs env { o with summary, color }).1.map
        (Event.stderr colors words filter targets)) =
      String.join ((checkInputs env o).1.map (Event.stderr colors words filter targets)) := by
  unfold checkInputs
  rcases loadRules env o.rules with ⟨said, _ | rules⟩
  · rfl
  · simp only [join_conclude, map_mapIdx, stderr_checkInput]

end Options

/-! ## Clean inputs -/

/-- Nothing that a check prints of its surroundings has the escape character in it: not the texts
that it reads, not the names that it prints, and not what the system says of a file. -/
structure Environment.IsPlain (env : Environment) (o : CheckOptions) : Prop where
  rules : ∀ text, env.file o.rules >>= textOf = .ok text → NoEscape text
  metrics : ∀ source ∈ sources o.files, ∀ text, env.content source >>= textOf = .ok text →
    NoEscape text
  inputNames : ∀ source ∈ sources o.files, NoEscape source.name
  /-- The file of the rules is named only where there are none. -/
  rulesName : ∀ why, env.rules o.rules = .error why → NoEscape o.rules
  system : ∀ name ∈ o.rules :: o.files, ∀ message, env.file name = .error (.other message) →
    NoEscape message

theorem Failure.noEscape_input {e : InputError} {words : Json.Wording}
    (h : ∀ message, e = .other message → NoEscape message) :
    NoEscape ((Failure.input e).message words) := by
  have hmessage : (Failure.input e).message words = "IO error: " ++ e.message := rfl
  have he : NoEscape e.message := by
    cases e with
    | other message => exact h message rfl
    | _ => decide
  rw [hmessage]
  exact noEscape_append.2 ⟨by decide, he⟩

theorem eq_notText_of_textOf {bytes : ByteArray} {e : InputError} (h : textOf bytes = .error e) :
    e = .notText := by
  unfold textOf at h
  split at h
  · cases h
  · cases h
    rfl

/-- What is read of an input is clean, or the complaint is, if that holds of its text and the
system says nothing with an escape character. -/
theorem clean_read {ε α : Type} {words : Json.Wording} {message : ε → String} {clean : α → Prop}
    {content : Except InputError ByteArray} {read : ByteArray → Except Failure α}
    {parse : String → Except ε α} {fail : ε → Failure}
    (hread : ∀ bytes, read bytes =
      match textOf bytes with
      | .error e => .error (.input e)
      | .ok text => (parse text).mapError fail)
    (hfail : ∀ e, (fail e).message words = message e)
    (hsystem : ∀ message, content = .error (.other message) → NoEscape message)
    (hparse : ∀ text, content >>= textOf = .ok text → Clean message clean (parse text)) :
    Clean (Failure.message words) clean (content.mapError .input >>= read) := by
  cases content with
  | error e =>
    refine Failure.noEscape_input ?_
    rintro message rfl
    exact hsystem message rfl
  | ok bytes =>
    show Clean (Failure.message words) clean (read bytes)
    rw [hread]
    cases htext : textOf bytes with
    | error e =>
      rw [eq_notText_of_textOf htext]
      exact Failure.noEscape_input nofun
    | ok text =>
      have hclean := hparse text htext
      dsimp only
      cases hresult : parse text with
      | error e =>
        show NoEscape ((fail e).message words)
        rw [hfail]
        exact hclean.of_error hresult
      | ok x => exact hclean.of_ok hresult

theorem mem_of_file_mem_sources {name : String} {files : List String}
    (h : .file name ∈ sources files) : name ∈ files := by
  unfold sources at h
  split at h
  · cases List.mem_singleton.1 h
  · obtain ⟨file, hfile, heq⟩ := List.mem_map.1 h
    cases heq
    exact hfile

section Clean

variable {env : Environment} {o : CheckOptions} {words : Json.Wording} (h : env.IsPlain o)
include h

theorem Environment.IsPlain.clean_rules :
    Clean (Failure.message words) (fun rules => ∀ r ∈ rules, NoEscape r.path)
      (env.rules o.rules) := by
  refine clean_read (fun bytes => rfl) (fun e => rfl) ?_ fun text htext => ?_
  · exact h.system _ List.mem_cons_self
  · exact clean_parseRules (h.rules text htext)

theorem Environment.IsPlain.clean_metrics {source : Source} (hsource : source ∈ sources o.files) :
    Clean (Failure.message words) (fun metrics => ∀ m ∈ metrics, NoEscape m.path)
      (env.metrics source) := by
  refine clean_read (fun bytes => rfl) (fun e => rfl) (fun message hmessage => ?_)
    fun text htext => ?_
  · cases source with
    | file name =>
      have hname : name ∈ o.files := mem_of_file_mem_sources hsource
      exact h.system name (List.mem_cons_of_mem _ hname) message hmessage
    | stdin => cases hmessage
  · exact clean_parseMetrics (h.metrics source hsource text htext)

theorem Environment.IsPlain.event_of_mem_checkInput {rules : List Rule}
    (hrules : ∀ r ∈ rules, NoEscape r.path) {place : Nat} {source : Source}
    (hsource : source ∈ sources o.files) {event : Event}
    (hevent : event ∈ (checkInput env o rules place source).1) : event.IsPlain words := by
  have hname : NoEscape source.name := h.inputNames source hsource
  have hread : Clean (Failure.message words) _ (env.metrics source) := h.clean_metrics hsource
  unfold Environment.metrics at hread
  unfold checkInput at hevent
  cases hmetrics : (env.content source).mapError .input >>= readMetrics with
  | error why =>
    rw [hmetrics] at hevent
    obtain rfl := List.mem_singleton.1 hevent
    exact ⟨hname, hread.of_error hmetrics⟩
  | ok metrics =>
    rw [hmetrics] at hevent
    simp only [List.mem_append, List.mem_singleton] at hevent
    rcases hevent with ((rfl | hlog) | hfound) | hfigures
    · trivial
    · obtain ⟨record, -, rfl⟩ := List.mem_map.1 hlog
      trivial
    · obtain ⟨v, hv, rfl⟩ := List.mem_map.1 hfound
      obtain ⟨hrule, hmetric⟩ := parts_of_mem_inspect hv
      refine ⟨hname, Violation.noEscape_text (fun r hr => hrules r (hrule r hr)) fun m hm => ?_⟩
      exact hread.of_ok hmetrics m (hmetric m hm)
    · split at hfigures
      · obtain rfl := List.mem_singleton.1 hfigures
        exact hname
      · cases hfigures

/-- All that a check of plain inputs has to say is plain. -/
theorem Environment.IsPlain.event_of_mem_checkInputs {event : Event}
    (hevent : event ∈ (checkInputs env o).1) : event.IsPlain words := by
  obtain ⟨records, hcheck⟩ := exists_checkInputs_eq env o
  have hlog : ∀ event ∈ records.map Event.log, event.IsPlain words := by
    intro event hevent
    obtain ⟨record, -, rfl⟩ := List.mem_map.1 hevent
    trivial
  have hclean : Clean (Failure.message words) _ (env.rules o.rules) := h.clean_rules
  rw [hcheck] at hevent
  cases hrules : env.rules o.rules with
  | error why =>
    rw [hrules] at hevent
    rcases List.mem_append.1 hevent with hevent | hevent
    · exact hlog event hevent
    · obtain rfl := List.mem_singleton.1 hevent
      exact ⟨h.rulesName why hrules, hclean.of_error hrules⟩
  | ok rules =>
    rw [hrules] at hevent
    rcases List.mem_append.1 hevent with hevent | hevent
    · exact hlog event hevent
    · obtain ⟨result, hresult, hevent⟩ := List.mem_flatMap.1 hevent
      obtain ⟨place, hplace, rfl⟩ := List.mem_mapIdx.1 hresult
      exact h.event_of_mem_checkInput (hclean.of_ok hrules) (List.getElem_mem hplace) hevent

end Clean

/-! ## Times -/

theorem noEscape_inUnit (nanoseconds places : Nat) {unit : String} (hunit : NoEscape unit) :
    NoEscape (inUnit nanoseconds places unit) := by
  have hrest : '\x1b' ∉ (Nat.toDigits 10 (nanoseconds % Nat.pow 10 places)).leftpad places '0' := by
    intro hmem
    rcases List.mem_append.1 hmem with hzero | hdigit
    · cases (List.mem_replicate.1 hzero).2
    · cases isDigits_toDigits _ _ hdigit
  have hshown : ∀ digits : List Char, '\x1b' ∉ digits →
      '\x1b' ∉ (digits.reverse.dropWhile (· == '0')).reverse := by
    intro digits hdigits hmem
    exact hdigits (List.mem_reverse.1 ((List.dropWhile_suffix _).mem (List.mem_reverse.1 hmem)))
  unfold inUnit
  simp only [noEscape_append]
  refine ⟨⟨noEscape_toString _, ?_⟩, hunit⟩
  split
  · decide
  · exact noEscape_append.2 ⟨by decide, noEscape_ofList.2 (hshown _ hrest)⟩

theorem noEscape_durationText (nanoseconds : Nat) : NoEscape (durationText nanoseconds) := by
  unfold durationText
  split
  · exact noEscape_inUnit _ _ (by decide)
  split
  · exact noEscape_inUnit _ _ (by decide)
  split
  · exact noEscape_inUnit _ _ (by decide)
  · exact noEscape_inUnit _ _ (by decide)

/-! ## The law -/

/-- How a check is presented makes no difference to its verdict. Whatever is asked for of colours,
figures and the log, its code is the same. Whatever is asked for of the log, it prints the same.
With figures it prints the same lines, with a block after those of each input that can be read,
which tells the times of that input. And where nothing that it prints has an escape character of
its own, what it writes in colours is what it writes without colours, but for the sequences. -/
theorem presentation_leaves_the_verdict_alone (env : Environment) (o : CheckOptions) :
    (∀ args args' request request' summary color outside timings timings',
      readRequest args = .ok request → request.command = .check o →
      readRequest args' = .ok request' → request'.command = .check { o with summary, color } →
      (run { env with logSpec := outside } timings' args').code = (run env timings args).code) ∧
    (∀ args args' request request' outside timings,
      readRequest args = .ok request → request.command = .check o →
      readRequest args' = .ok request' → request'.command = .check o →
      (run { env with logSpec := outside } timings args').stdout =
        (run env timings args).stdout) ∧
    (∀ args args' level timings,
      readRequest args = .ok ⟨level, .check { o with summary := false }⟩ →
      readRequest args' = .ok ⟨level, .check { o with summary := true }⟩ →
      (run env timings args).stdout =
        String.join ((sources o.files).flatMap fun source => reportLines env o source) ∧
      (run env timings args').stdout =
        String.join ((sources o.files).mapIdx fun place source => reportLines env o source ++
          (inspectionOf env o source).toList.map
            (summaryText (o.color.enabled env.onTerminal) (timings place) source.name)).flatten ∧
      (run env timings args').stderr = (run env timings args).stderr) ∧
    (env.IsPlain o → ∀ args args' (timings : Nat → Timings), (∀ place, (timings place).IsPlain) →
      IsSilentCheck env args { o with color := .always } →
      IsSilentCheck env args' { o with color := .never } →
      withoutSequences (run env timings args).stdout = (run env timings args').stdout ∧
      withoutSequences (run env timings args).stderr = (run env timings args').stderr) := by
  refine ⟨?_, ?_, ?_, ?_⟩
  · intro args args' request request' summary color outside timings timings' hargs hcommand
      hargs' hcommand'
    rw [code_run_check hargs hcommand, code_run_check hargs' hcommand']
    exact code_checkInputs env o summary color
  · intro args args' request request' outside timings hargs hcommand hargs' hcommand'
    rw [stdout_run_check hargs hcommand, stdout_run_check hargs' hcommand']
    -- neither lines nor figures know of the log
    rfl
  · intro args args' level timings hargs hargs'
    refine ⟨?_, ?_, ?_⟩
    · rw [stdout_run_check hargs rfl]
      simp only [figures, Bool.false_eq_true, if_false, List.append_nil]
      rw [mapIdx_const, List.flatMap_def]
      rfl
    · rw [stdout_run_check hargs' rfl]
      rfl
    · rw [run_check hargs rfl, run_check hargs' rfl]
      simp only [Request.outcome, String.join_append]
      have hevents := stderr_checkInputs env { o with summary := false } true o.color
      exact congrArg _ (hevents _ _ _ _)
  · intro hplain args args' timings htimings hargs hargs'
    rw [run_of_isSilentCheck hargs, run_of_isSilentCheck hargs']
    exact withoutSequences_written (fun event => hplain.event_of_mem_checkInputs) htimings _

/-- For instance, an input that is not there before one with an unexpected metric. -/
theorem presentation_leaves_the_verdict_alone_with_a_missing_input :
    let env : Environment :=
      { file := fun name =>
          if name = "rules" then .ok "~cpu".toUTF8
          else if name = "metrics" then .ok "net 0 0".toUTF8
          else .error .notFound
        stdin := .empty
        logSpec := none
        onTerminal := false
        jsonWords := fun _ _ => "" }
    let timings : Nat → Timings := fun place => ⟨durationText (1500 * place), "-", "-", "-"⟩
    let check := fun options => ["check"] ++ options ++ ["-f", "rules", "gone", "metrics"]
    let line := "metrics: found unexpected metric net 0 0\n"
    let figures := "\n━━━ metrics ━━━\n" ++
      "  out of range: 0  │  missing: 0  │  unexpected: 1\n" ++
      "  rules matched: 0/1  │  trie nodes: 2\n" ++
      "  Total: 1.5µs  │  Build: -  │  Evaluate: -  │  Complete: -\n"
    (run { env with logSpec := some "trace" } timings
      (check ["--color", "always", "--summary"])).code = 1 ∧
    (run { env with logSpec := some "trace" } timings (check ["--log-level", "debug"])).stdout =
      line ∧
    (run env timings (check ["--summary"])).stdout = line ++ figures ∧
    withoutSequences (run env timings (check ["--color", "always", "--summary"])).stdout =
      line ++ figures ∧
    withoutSequences (run env timings (check ["--color", "always", "--summary"])).stderr =
      "gone: IO error: No such file or directory (os error 2)\n" := by
  intro env timings check line figures
  let o : CheckOptions := ⟨"rules", ["gone", "metrics"], .all, false, .auto⟩
  have hargs : readRequest (check []) = .ok ⟨none, .check o⟩ := rfl
  obtain ⟨hcode, hlog, hfigures, -⟩ := presentation_leaves_the_verdict_alone env o
  obtain ⟨-, hblock, -⟩ := hfigures (check []) (check ["--summary"]) none timings rfl rfl
  have hplain : env.IsPlain { o with summary := true } := by
    have htext : ∀ text text' : String, NoEscape text →
        Except.ok text.toUTF8 >>= textOf = .ok text' → NoEscape text' := by
      intro text text' hclean hread
      cases (textOf_toUTF8 text).symm.trans hread
      exact hclean
    refine ⟨fun text => htext "~cpu" text (by decide), ?_, by decide,
      fun _ _ => by decide, ?_⟩
    · refine List.forall_mem_cons.2 ⟨nofun, List.forall_mem_singleton.2 fun text => ?_⟩
      exact htext "net 0 0" text (by decide)
    · exact List.forall_mem_cons.2 ⟨nofun, List.forall_mem_cons.2
        ⟨nofun, List.forall_mem_singleton.2 nofun⟩⟩
  have hdash : NoEscape "-" := by decide
  have htimings : ∀ place, (timings place).IsPlain := fun place =>
    ⟨noEscape_durationText _, hdash, hdash, hdash⟩
  obtain ⟨hstdout, hstderr⟩ :=
    (presentation_leaves_the_verdict_alone env { o with summary := true }).2.2.2 hplain
      (check ["--color", "always", "--summary"]) (check ["--color", "never", "--summary"]) timings
      htimings (isSilentCheck_of_no_level rfl rfl) (isSilentCheck_of_no_level rfl rfl)
  refine ⟨?_, ?_, ?_, ?_, ?_⟩
  · have hpainted : readRequest (check ["--color", "always", "--summary"]) =
        .ok ⟨none, .check { o with summary := true, color := .always }⟩ := rfl
    rw [hcode _ _ _ _ true .always _ timings timings hargs rfl hpainted rfl]
    decide +kernel
  · have hlogged : readRequest (check ["--log-level", "debug"]) =
        .ok ⟨some .debug, .check o⟩ := rfl
    rw [hlog _ _ _ _ _ timings hargs rfl hlogged rfl]
    decide +kernel
  · rw [hblock]
    decide +kernel
  · rw [hstdout]
    decide +kernel
  · rw [hstderr]
    decide +kernel

end MetricCheck.Cli
