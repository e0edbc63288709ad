-- Events as the outcome of a run. What some events write and what later ones write
-- follow each other, and where no record is shown, log records write nothing.
import MetricCheck.Cli.Run

namespace MetricCheck.Cli

/-! ## Outcomes one after the other -/

namespace Outcome

/-- Success, with nothing written. -/
def nothing : Outcome := ⟨0, "", ""⟩

/-- What is written follows what was written before, and the larger code stays. -/
def followedBy (first second : Outcome) : Outcome :=
  ⟨max first.code second.code, first.stdout ++ second.stdout, first.stderr ++ second.stderr⟩

/-- The outcomes of a list as one. -/
def inTurn (outcomes : List Outcome) : Outcome := outcomes.foldr followedBy nothing

/-- The code tells whether anything is written: it is 0 if nothing is, and 1 otherwise. -/
def IsTruthful (o : Outcome) : Prop := o.code = if o.stdout = "" ∧ o.stderr = "" then 0 else 1

@[simp] theorem followedBy_code (first second : Outcome) :
    (first.followedBy second).code = max first.code second.code := rfl

@[simp] theorem followedBy_stdout (first second : Outcome) :
    (first.followedBy second).stdout = first.stdout ++ second.stdout := rfl

@[simp] theorem followedBy_stderr (first second : Outcome) :
    (first.followedBy second).stderr = first.stderr ++ second.stderr := rfl

@[simp] theorem nothing_followedBy (o : Outcome) : nothing.followedBy o = o := by
  simp [nothing, followedBy]

theorem followedBy_assoc (first second third : Outcome) :
    (first.followedBy second).followedBy third = first.followedBy (second.followedBy third) := by
  simp [followedBy, Nat.max_assoc, String.append_assoc]

theorem inTurn_cons (o : Outcome) (outcomes : List Outcome) :
    inTurn (o :: outcomes) = o.followedBy (inTurn outcomes) := rfl

theorem inTurn_append (first second : List Outcome) :
    inTurn (first ++ second) = (inTurn first).followedBy (inTurn second) := by
  induction first with
  | nil => exact (nothing_followedBy _).symm
  | cons o first ih => rw [List.cons_append, inTurn_cons, ih, inTurn_cons, followedBy_assoc]

theorem isTruthful_nothing : nothing.IsTruthful := rfl

theorem IsTruthful.followedBy {first second : Outcome} (hfirst : first.IsTruthful)
    (hsecond : second.IsTruthful) : (first.followedBy second).IsTruthful := by
  unfold IsTruthful at hfirst hsecond ⊢
  simp only [Outcome.followedBy, String.append_eq_empty_iff, hfirst, hsecond]
  -- both write nothing, or the larger code is that of one that writes something
  by_cases h₁ : first.stdout = "" ∧ first.stderr = ""
  · by_cases h₂ : second.stdout = "" ∧ second.stderr = ""
    · simp [h₁, h₂]
    · simp [h₁, h₂]
  · have hboth : ¬((first.stdout = "" ∧ second.stdout = "") ∧
        first.stderr = "" ∧ second.stderr = "") := fun h => h₁ ⟨h.1.1, h.2.1⟩
    rw [if_neg h₁, if_neg hboth]
    split <;> rfl

theorem isTruthful_inTurn {outcomes : List Outcome} (h : ∀ o ∈ outcomes, o.IsTruthful) :
    (inTurn outcomes).IsTruthful := by
  induction outcomes with
  | nil => exact isTruthful_nothing
  | cons o outcomes ih =>
    obtain ⟨ho, houtcomes⟩ := List.forall_mem_cons.1 h
    exact ho.followedBy (ih houtcomes)

/-- Nothing is written in turn when nothing is written each time. -/
theorem inTurn_eq_nothing {outcomes : List Outcome} (h : ∀ o ∈ outcomes, o = nothing) :
    inTurn outcomes = nothing := by
  induction outcomes with
  | nil => rfl
  | cons o outcomes ih =>
    obtain ⟨rfl, houtcomes⟩ := List.forall_mem_cons.1 h
    rw [inTurn_cons, ih houtcomes, nothing_followedBy]

theorem stdout_inTurn {α : Type} (outcome : α → Outcome) {lines : α → List String}
    (h : ∀ x, (outcome x).stdout = String.join (lines x)) (xs : List α) :
    (inTurn (xs.map outcome)).stdout = String.join (xs.flatMap lines) := by
  induction xs with
  | nil => rfl
  | cons x xs ih =>
    rw [List.map_cons, inTurn_cons, followedBy_stdout, h x, ih, List.flatMap_cons,
      String.join_append]

theorem stderr_inTurn_congr {α : Type} {outcome outcome' : α → Outcome}
    (h : ∀ x, (outcome x).stderr = (outcome' x).stderr) (xs : List α) :
    (inTurn (xs.map outcome)).stderr = (inTurn (xs.map outcome')).stderr := by
  induction xs with
  | nil => rfl
  | cons x xs ih =>
    simp only [List.map_cons, inTurn_cons, followedBy_stderr, h x, ih]

/-- Where every code is 0 or 1, so is the last, and it is 1 if one of them is. -/
theorem code_inTurn {outcomes : List Outcome} (h : ∀ o ∈ outcomes, o.code ≤ 1) :
    (inTurn outcomes).code ≤ 1 ∧
      ((inTurn outcomes).code = 1 ↔ ∃ o ∈ outcomes, o.code = 1) := by
  induction outcomes with
  | nil => simp [inTurn, nothing]
  | cons o outcomes ih =>
    obtain ⟨ho, houtcomes⟩ := List.forall_mem_cons.1 h
    obtain ⟨hle, hone⟩ := ih houtcomes
    simp only [inTurn_cons, followedBy_code, List.mem_cons, exists_eq_or_imp, ← hone]
    omega

end Outcome

/-! ## Events without a log -/

/-- What an event that is no log record writes to the standard error. -/
def Event.complaint (colors : Bool) (words : Json.Wording) : Event → String
  | .failed source why => sourceLine colors source .red (why.message words)
  | _ => ""

/-- The outcome of events and a code when no log record is shown. -/
def written (colors : Bool) (timings : Nat → Timings) (words : Json.Wording)
    (events : List Event) (code : Nat) : Outcome where
  code := code
  stdout := String.join (events.map (Event.stdout colors timings))
  stderr := String.join (events.map (Event.complaint colors words))

section Written

variable (colors : Bool) (timings : Nat → Timings) (words : Json.Wording)

theorem written_append (events later : List Event) (code codeLater : Nat) :
    written colors timings words (events ++ later) (max code codeLater) =
      (written colors timings words events code).followedBy
        (written colors timings words later codeLater) := by
  simp only [written, Outcome.followedBy, List.map_append, String.join_append]

theorem written_log (records : List Log.Record) :
    written colors timings words (records.map .log) 0 = .nothing := by
  induction records with
  | nil => rfl
  | cons record records ih =>
    have happend := written_append colors timings words [.log record] (records.map .log) 0 0
    rw [ih] at happend
    exact happend

/-- Log records before other events make no difference. -/
theorem written_log_append (records : List Log.Record) (events : List Event) (code : Nat) :
    written colors timings words (records.map .log ++ events) code =
      written colors timings words events code := by
  have happend := written_append colors timings words (records.map .log) events 0 code
  rwa [Nat.zero_max, written_log, Outcome.nothing_followedBy] at happend

end Written

/-! ## Silent requests -/

/-- Nothing of the log reaches the standard error: there is no warning about the filter, and
it shows no record. -/
structure Request.IsSilent (env : Environment) (request : Request) : Prop where
  no_warnings : (logFilter env request).2 = []
  shows_nothing : ∀ record, (logFilter env request).1.shows record = false

theorem Request.isSilent_of_logFilter {env : Environment} {request : Request}
    (h : logFilter env request = (Log.Filter.ofLevel none, [])) : request.IsSilent env := by
  refine ⟨?_, fun record => ?_⟩
  · rw [h]
  · rw [h]
    simp [Log.Filter.shows, Log.Filter.admits, Log.Filter.ofLevel, Log.Directive.covers,
      Log.Directive.shows]

/-- A request is silent when no level is asked for, neither by it nor from outside. -/
theorem Request.isSilent_of_no_level {env : Environment} {request : Request}
    (houtside : env.logSpec = none) (hlevel : request.logLevel = none) : request.IsSilent env := by
  apply isSilent_of_logFilter
  simp only [logFilter, houtside, hlevel]

/-- The word `off` from outside makes every request silent. -/
theorem Request.isSilent_of_off {env : Environment} (houtside : env.logSpec = some "off")
    (request : Request) : request.IsSilent env := by
  apply isSilent_of_logFilter
  have hword : Text.splitBy (· == '/') "off".toList = ["off".toList] := by decide
  have hdirectives : Log.Filter.readDirectives "off".toList = ([⟨none, none⟩], []) := by
    decide +kernel
  have hone : Log.Filter.ofDirectives [⟨none, none⟩] = Log.Filter.ofLevel none := by
    simp [Log.Filter.ofDirectives, Log.Filter.add, Log.Filter.ofLevel]
  simp only [logFilter, houtside, Log.Filter.read, hword, hdirectives, hone, List.map_nil]

theorem Event.stderr_eq_complaint {filter : Log.Filter} (h : ∀ record, filter.shows record = false)
    (colors : Bool) (words : Json.Wording) (targets : Bool) (event : Event) :
    event.stderr colors words filter targets = event.complaint colors words := by
  cases event with
  | log record => simp [Event.stderr, Event.complaint, h record]
  | failed source why => rfl
  | found source violation => rfl
  | summary place source inspection => rfl
  | rules generated => rfl

theorem Request.IsSilent.outcome {env : Environment} {request : Request}
    (h : request.IsSilent env) (timings : Nat → Timings) (events : List Event) (code : Nat) :
    request.outcome env timings (events, code) =
      written (request.command.colors env.onTerminal) timings env.jsonWords events code := by
  have hstderr : events.map (Event.stderr (request.command.colors env.onTerminal) env.jsonWords
      (logFilter env request).1 request.logTargets) =
      events.map (Event.complaint (request.command.colors env.onTerminal) env.jsonWords) :=
    List.map_congr_left fun event _ => Event.stderr_eq_complaint h.shows_nothing _ _ _ event
  unfold Request.outcome written
  simp only [h.no_warnings, List.nil_append, hstderr]

end MetricCheck.Cli
