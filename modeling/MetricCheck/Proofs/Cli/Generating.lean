-- Rules from the graph definitions of several files, as whole runs. Each file that can be read
-- adds its rules to what is written, and the first that cannot ends the run. So what is written
-- is always a rule file, that of the files before.
import MetricCheck.Proofs.GraphDef

namespace MetricCheck.Cli

/-- The arguments ask for the rules of these files, and none of the log is shown. -/
def IsSilentGraphdef (env : Environment) (args : List String) (files : List String) : Prop :=
  ∃ request, readRequest args = .ok request ∧ request.command = .graphdef files ∧
    request.IsSilent env

/-- The rules of any files with names can be asked for silently. -/
theorem isSilentGraphdef_args {env : Environment} (houtside : env.logSpec = none)
    {files : List String} (hfiles : ∀ name ∈ files, name ≠ "") :
    IsSilentGraphdef env ("graphdef" :: "--" :: files) files := by
  have hcommand : readRequest ("graphdef" :: "--" :: files) =
      readCommand commonOptions (fun d => .graphdef d.files) {} ("--" :: files) := rfl
  refine ⟨⟨none, .graphdef files⟩, ?_, rfl, Request.isSilent_of_no_level houtside rfl⟩
  rw [hcommand, readCommand, readArguments_separator (foldlM_addFile hfiles _)]
  rfl

/-- The files hold these graph definitions. -/
def Environment.Defines (env : Environment) (files : List String) (defs : List GraphDefs) : Prop :=
  List.Forall₂ (fun name d => readDefs env (.file name) = .ok d) files defs

/-- The text of the rules of graph definitions, one after the other. -/
def rulesText (defs : List GraphDefs) : String :=
  String.join (defs.map fun d => renderRules (generateRules d))

theorem rulesText_eq (defs : List GraphDefs) :
    rulesText defs = renderRules (defs.flatMap generateRules) := by
  induction defs with
  | nil => rfl
  | cons d defs ih =>
    rw [rulesText] at ih
    rw [rulesText, List.map_cons, String.join_cons, ih, List.flatMap_cons]
    simp only [renderRules, List.map_append, String.join_append]

/-- Rules of several files are read back as the rules of each, in the order of the files. -/
theorem parseRules_rulesText {defs : List GraphDefs} (h : ∀ d ∈ defs, d.IsWritable) :
    parseRules (rulesText defs) = .ok (defs.flatMap generateRules) := by
  rw [rulesText_eq]
  apply parseRules_renderRules
  intro r hr
  obtain ⟨d, hd, hr⟩ := List.mem_flatMap.1 hr
  exact (h d hd).isWritable_of_mem r hr

/-! ## File by file -/

section Step

variable {env : Environment} {source : Source} (timings : Nat → Timings)

/-- The outcome of a list of inputs, where no log record is shown. -/
def generateOutcome (env : Environment) (timings : Nat → Timings) (inputs : List Source) :
    Outcome :=
  written false timings env.jsonWords (generateAll env inputs).1 (generateAll env inputs).2

/-- A file that can be read adds its rules. -/
theorem generateOutcome_of_ok {d : GraphDefs} (h : readDefs env source = .ok d)
    (more : List Source) :
    generateOutcome env timings (source :: more) =
      Outcome.followedBy ⟨0, renderRules (generateRules d), ""⟩
        (generateOutcome env timings more) := by
  have hrules : written false timings env.jsonWords [.rules (generateRules d)] 0 =
      ⟨0, renderRules (generateRules d), ""⟩ := by
    simp [written, Event.stdout, Event.complaint]
  rw [generateOutcome, generateOutcome, ← hrules, ← written_append, Nat.zero_max]
  simp only [generateAll, h, List.append_assoc, written_log_append]

/-- A file that cannot be read ends the run. -/
theorem generateOutcome_of_error {why : Failure} (h : readDefs env source = .error why)
    (more : List Source) :
    generateOutcome env timings (source :: more) =
      ⟨2, "", sourceLine false source.name .red (why.message env.jsonWords)⟩ := by
  simp [generateOutcome, generateAll, h, written, Event.stdout, Event.complaint]

/-- The rules of the files that can be read come first. -/
theorem generateOutcome_append {before : List String} {defs : List GraphDefs}
    (h : env.Defines before defs) (more : List Source) :
    generateOutcome env timings (before.map .file ++ more) =
      Outcome.followedBy ⟨0, rulesText defs, ""⟩ (generateOutcome env timings more) := by
  induction h with
  | nil => exact (Outcome.nothing_followedBy _).symm
  | cons hread _ ih =>
    rw [List.map_cons, List.cons_append, generateOutcome_of_ok timings hread, ih,
      ← Outcome.followedBy_assoc, rulesText, rulesText, List.map_cons, String.join_cons]
    rfl

end Step

theorem run_graphdef {env : Environment} {args files : List String}
    (h : IsSilentGraphdef env args files) (hfiles : files ≠ []) (timings : Nat → Timings) :
    run env timings args = generateOutcome env timings (files.map .file) := by
  obtain ⟨request, hargs, hcommand, hsilent⟩ := h
  unfold run
  rw [hargs]
  simp only
  rw [hsilent.outcome, hcommand, Command.perform, sources_of_ne_nil hfiles]
  rfl

/-- What a file holds does not depend on other files. -/
theorem readDefs_congr {env env' : Environment} {name : String}
    (h : env'.file name = env.file name) :
    readDefs env' (.file name) = readDefs env (.file name) := by
  simp only [readDefs, Environment.content, h]

theorem Environment.Defines.congr {env env' : Environment} {files : List String}
    {defs : List GraphDefs} (h : env.Defines files defs)
    (hfiles : ∀ name ∈ files, env'.file name = env.file name) : env'.Defines files defs := by
  induction h with
  | nil => exact .nil
  | cons hread _ ih =>
    obtain ⟨hname, hfiles⟩ := List.forall_mem_cons.1 hfiles
    exact .cons ((readDefs_congr hname).trans hread) (ih hfiles)

/-- All files can be read, or there is a first that cannot. -/
theorem exists_defines (env : Environment) (files : List String) :
    ∃ before defs, env.Defines before defs ∧
      (files = before ∨ ∃ bad after why, files = before ++ bad :: after ∧
        readDefs env (.file bad) = .error why) := by
  induction files with
  | nil => exact ⟨[], [], .nil, .inl rfl⟩
  | cons name files ih =>
    cases hread : readDefs env (.file name) with
    | error why => exact ⟨[], [], .nil, .inr ⟨name, files, why, rfl, hread⟩⟩
    | ok d =>
      obtain ⟨before, defs, hdefs, rfl | ⟨bad, after, why, rfl, hbad⟩⟩ := ih
      · exact ⟨_, _, .cons hread hdefs, .inl rfl⟩
      · exact ⟨name :: before, d :: defs, .cons hread hdefs, .inr ⟨bad, after, why, rfl, hbad⟩⟩

/-! ## The law -/

/-- Whatever files are given, those that can be read before the first that cannot, or all of
them, decide what is written: the rules of each, in turn. The run succeeds if all can be read, and
otherwise says why the first that cannot is no good, whatever the words for that are; no file after
it counts, and what it may be is nothing to the run. Where keys and names can stand in rule text,
what is written is read as the rules of these files in their order. -/
theorem rules_are_written_up_to_the_first_bad_file (env : Environment) (files : List String)
    (hfiles : files ≠ []) :
    ∃ before defs, env.Defines before defs ∧
    ((files = before ∧ ∀ env' args timings, (∀ name ∈ before, env'.file name = env.file name) →
        IsSilentGraphdef env' args files → run env' timings args = ⟨0, rulesText defs, ""⟩) ∨
      ∃ bad after why, files = before ++ bad :: after ∧ readDefs env (.file bad) = .error why ∧
        ∀ env' after' args timings,
          (∀ name ∈ before ++ [bad], env'.file name = env.file name) →
          IsSilentGraphdef env' args (before ++ bad :: after') →
          run env' timings args =
            ⟨2, rulesText defs, bad ++ ": " ++ why.message env'.jsonWords ++ "\n"⟩) ∧
    ((∀ d ∈ defs, d.IsWritable) →
      parseRules (rulesText defs) = .ok (defs.flatMap generateRules)) := by
  obtain ⟨before, defs, hdefs, hend⟩ := exists_defines env files
  refine ⟨before, defs, hdefs, ?_, parseRules_rulesText⟩
  rcases hend with rfl | ⟨bad, after, why, rfl, hbad⟩
  · refine .inl ⟨rfl, fun env' args timings hsame hargs => ?_⟩
    have happend := generateOutcome_append timings (hdefs.congr hsame) []
    rw [List.append_nil] at happend
    rw [run_graphdef hargs hfiles, happend]
    simp [generateOutcome, generateAll, written, Outcome.followedBy]
  · refine .inr ⟨bad, after, why, rfl, hbad, fun env' after' args timings hsame hargs => ?_⟩
    have hbad' : readDefs env' (.file bad) = .error why :=
      (readDefs_congr (hsame bad (by simp))).trans hbad
    have hdefs' := hdefs.congr fun name hname => hsame name (List.mem_append_left _ hname)
    rw [run_graphdef hargs (by simp), List.map_append, List.map_cons,
      generateOutcome_append timings hdefs', generateOutcome_of_error timings hbad']
    simp [Outcome.followedBy, sourceLine, paint, Source.name]

/-- For instance, a file with a graph before one that breaks off, of which the words tell how
long it is. -/
theorem rules_are_written_up_to_the_first_bad_file_that_breaks_off :
    let env : Environment :=
      { file := fun name =>
          if name = "cpu.json" then
            .ok ("\x7b\"graphs\":\x7b\"cpu\":\x7b\"unit\":\"percentage\"," ++
              "\"metrics\":[\x7b\"name\":\"*\"\x7d]\x7d\x7d\x7d").toUTF8
          else if name = "half.json" then .ok "\x7b".toUTF8
          else .error .notFound
        stdin := .empty
        logSpec := none
        onTerminal := true
        jsonWords := fun document _ =>
          "EOF while parsing an object at line 1 column " ++ toString document.length }
    run env (fun _ => ⟨"1ns", "-", "-", "-"⟩) ["graphdef", "cpu.json", "half.json", "cpu.json"] =
        ⟨2, "cpu.*\t>=0, <=100\n", "half.json: invalid graph definitions: " ++
          "EOF while parsing an object at line 1 column 1\n"⟩ ∧
      parseRules "cpu.*\t>=0, <=100\n" = .ok
        [⟨"cpu.*", true, [⟨.greaterEqual, .zero false⟩, ⟨.lessEqual, .ofRatio false 100 1⟩]⟩] := by
  intro env
  have hgraphs : (readDefs env (.file "cpu.json")).map (fun d => d.toList) =
      .ok [("cpu", ⟨"percentage", ["*"]⟩)] := by decide +kernel
  obtain ⟨d, hread, hlist⟩ := map_eq_ok_iff.1 hgraphs
  have hbreaks : (readDefs env (.file "half.json")).map (fun d => d.toList) =
      .error (.graphs [0x7b] .truncated) := by decide +kernel
  have hhalf : readDefs env (.file "half.json") = .error (.graphs [0x7b] .truncated) :=
    map_eq_error_iff.1 hbreaks
  have hrules : generateRules d =
      [⟨"cpu.*", true, [⟨.greaterEqual, .zero false⟩, ⟨.lessEqual, .ofRatio false 100 1⟩]⟩] := by
    rw [generateRules, hlist]
    rfl
  have hwritable : d.IsWritable := by
    rw [GraphDefs.IsWritable, hlist]
    decide +kernel
  obtain ⟨before, defs, hdefs, hend, hparse⟩ := rules_are_written_up_to_the_first_bad_file env
    ["cpu.json", "half.json", "cpu.json"] (by decide)
  obtain ⟨rfl, -⟩ | ⟨bad, after, why, hfiles, hbad, hrun⟩ := hend
  · obtain _ | ⟨_, _ | ⟨hbad, _⟩⟩ := hdefs
    cases hhalf.symm.trans hbad
  · obtain ⟨rfl, rfl, rfl, rfl⟩ : before = ["cpu.json"] ∧ bad = "half.json" ∧
        after = ["cpu.json"] ∧ defs = [d] := by
      obtain _ | ⟨hfirst, _ | ⟨hsecond, _⟩⟩ := hdefs
      · cases hfiles
        cases hread.symm.trans hbad
      · cases hfiles
        cases hread.symm.trans hfirst
        exact ⟨rfl, rfl, rfl, rfl⟩
      · obtain ⟨-, hfiles⟩ := List.cons.inj hfiles
        obtain ⟨rfl, -⟩ := List.cons.inj hfiles
        cases hhalf.symm.trans hsecond
    cases hhalf.symm.trans hbad
    have htext : rulesText [d] = "cpu.*\t>=0, <=100\n" := by
      rw [rulesText, List.map_singleton, hrules]
      decide +kernel
    rw [htext] at hrun hparse
    refine ⟨?_, ?_⟩
    · exact hrun env ["cpu.json"] _ _ (fun _ _ => rfl)
        ⟨_, rfl, rfl, Request.isSilent_of_no_level rfl rfl⟩
    · rw [hparse (by simpa using hwritable), List.flatMap_singleton, hrules]

end MetricCheck.Cli
