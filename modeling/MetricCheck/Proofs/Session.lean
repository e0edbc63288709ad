-- Sessions into which rules and metrics come as text only. Whatever such a session
-- holds can be written and read again: what comes back is what was there, so writing
-- and reading back, where it succeeds, is a step that could as well be left out.
import MetricCheck.Session
import MetricCheck.Proofs.MetricText.RoundTrip

namespace MetricCheck

/-- Comes as text. -/
def Given.isText {α : Type} : Given α → Bool
  | .text _ => true
  | .values _ => false

theorem Given.isReadable_of_rules {rules : Given Rule} (h : rules.isText = true)
    {found : List Rule} (hfound : rules.rules = .ok found) : ∀ r ∈ found, r.IsReadable := by
  cases rules with
  | text written => exact isReadable_of_parseRules (mapError_eq_ok_iff.1 hfound)
  | values known => cases h

theorem Given.isReadable_of_metrics {metrics : Given Metric} (h : metrics.isText = true)
    {found : List Metric} (hfound : metrics.metrics = .ok found) :
    ∀ m ∈ found, m.IsReadable := by
  cases metrics with
  | text written => exact isReadable_of_parseMetrics (mapError_eq_ok_iff.1 hfound)
  | values known => cases h

namespace Session

/-- Brings in no rules and no metrics but as text. -/
def Step.isTextDriven : Step → Bool
  | .loadRules rules => rules.isText
  | .appendRules rules => rules.isText
  | .loadGraphDefs _ => false
  | .loadMetrics metrics => metrics.isText
  | .appendMetrics metrics => metrics.isText
  | _ => true

/-- All rules and metrics are such as text can hold. -/
structure IsReadable (s : Session) : Prop where
  rules : ∀ r ∈ s.rules, r.IsReadable
  metrics : ∀ m ∈ s.metrics, m.IsReadable

/-- The session that steps lead to. -/
def after (s : Session) (steps : List Step) : Session :=
  steps.foldl (fun s next => (s.step next).2) s

/-! ## Runs -/

theorem length_run (s : Session) (steps : List Step) : (s.run steps).length = steps.length := by
  induction steps generalizing s with
  | nil => rfl
  | cons next steps ih => exact congrArg (· + 1) (ih _)

theorem run_append (s : Session) (steps later : List Step) :
    s.run (steps ++ later) = s.run steps ++ (s.after steps).run later := by
  induction steps generalizing s with
  | nil => rfl
  | cons next steps ih => exact congrArg (_ :: ·) (ih _)

theorem after_concat (s : Session) (steps : List Step) (next : Step) :
    s.after (steps ++ [next]) = ((s.after steps).step next).2 := by
  unfold after
  rw [List.foldl_append]
  rfl

/-- What a run has from some step on. -/
theorem drop_run (s : Session) (steps later : List Step) :
    (s.run (steps ++ later)).drop steps.length = (s.after steps).run later := by
  rw [run_append, ← length_run s steps, List.drop_left]

/-- Every session that a run reports is one that the first of its steps lead to. -/
theorem exists_after_of_mem_run {s : Session} {steps : List Step}
    {reached : Except Failure Answer × Session} (h : reached ∈ s.run steps) :
    ∃ first, first <+: steps ∧ reached.2 = s.after first := by
  induction steps generalizing s with
  | nil => cases h
  | cons next steps ih =>
    rcases List.mem_cons.1 h with rfl | h
    · exact ⟨[next], List.prefix_append [next] steps, rfl⟩
    · obtain ⟨first, hfirst, hreached⟩ := ih h
      exact ⟨next :: first, List.cons_prefix_cons.2 ⟨rfl, hfirst⟩, hreached⟩

/-! ## What a step leaves -/

variable {s s' : Session} {answer : Answer}

theorem withRules_eq_ok_iff {rules : Except Failure (List Rule)} :
    s.withRules rules = .ok (answer, s') ↔
      ∃ found, rules = .ok found ∧ answer = .done ∧ s' = { s with rules := found } := by
  unfold withRules
  rw [map_eq_ok_iff]
  refine exists_congr fun found => and_congr_right fun _ => ?_
  rw [Prod.mk.injEq, eq_comm, @eq_comm _ s']

theorem withMetrics_eq_ok_iff {metrics : Except Failure (List Metric)} :
    s.withMetrics metrics = .ok (answer, s') ↔
      ∃ found, metrics = .ok found ∧ answer = .done ∧ s' = { s with metrics := found } := by
  unfold withMetrics
  rw [map_eq_ok_iff]
  refine exists_congr fun found => and_congr_right fun _ => ?_
  rw [Prod.mk.injEq, eq_comm, @eq_comm _ s']

theorem IsReadable.withRules (hs : s.IsReadable) {rules : Except Failure (List Rule)}
    (h : ∀ found, rules = .ok found → ∀ r ∈ found, r.IsReadable)
    (hok : s.withRules rules = .ok (answer, s')) : s'.IsReadable := by
  obtain ⟨found, hfound, -, rfl⟩ := withRules_eq_ok_iff.1 hok
  exact ⟨h found hfound, hs.metrics⟩

theorem IsReadable.withMetrics (hs : s.IsReadable) {metrics : Except Failure (List Metric)}
    (h : ∀ found, metrics = .ok found → ∀ m ∈ found, m.IsReadable)
    (hok : s.withMetrics metrics = .ok (answer, s')) : s'.IsReadable := by
  obtain ⟨found, hfound, -, rfl⟩ := withMetrics_eq_ok_iff.1 hok
  exact ⟨hs.rules, h found hfound⟩

/-- A step that succeeds leaves what text can hold. -/
theorem IsReadable.attempt (hs : s.IsReadable) {next : Step} (hnext : next.isTextDriven = true)
    (hok : s.attempt next = .ok (answer, s')) : s'.IsReadable := by
  cases next with
  | loadRules rules => exact hs.withRules (fun _ => Given.isReadable_of_rules hnext) hok
  | appendRules rules =>
    refine hs.withRules ?_ hok
    intro found hfound
    obtain ⟨more, hmore, rfl⟩ := map_eq_ok_iff.1 hfound
    exact List.forall_mem_append.2 ⟨hs.rules, Given.isReadable_of_rules hnext hmore⟩
  | addRule text =>
    refine hs.withRules ?_ hok
    intro found hfound
    obtain ⟨rule, hrule, rfl⟩ := map_eq_ok_iff.1 hfound
    have hrules := parseRules_of_parseRule (mapError_eq_ok_iff.1 hrule)
    exact List.forall_mem_append.2 ⟨hs.rules, isReadable_of_parseRules hrules⟩
  | loadGraphDefs document => cases hnext
  | removeRule index =>
    cases hok
    exact ⟨fun r hr => hs.rules r (List.mem_of_mem_eraseIdx hr), hs.metrics⟩
  | reverseRules =>
    cases hok
    exact ⟨fun r hr => hs.rules r (List.mem_reverse.1 hr), hs.metrics⟩
  | loadMetrics metrics => exact hs.withMetrics (fun _ => Given.isReadable_of_metrics hnext) hok
  | appendMetrics metrics =>
    refine hs.withMetrics ?_ hok
    intro found hfound
    obtain ⟨more, hmore, rfl⟩ := map_eq_ok_iff.1 hfound
    exact List.forall_mem_append.2 ⟨hs.metrics, Given.isReadable_of_metrics hnext hmore⟩
  | reverseMetrics =>
    cases hok
    exact ⟨hs.rules, fun m hm => hs.metrics m (List.mem_reverse.1 hm)⟩
  | clearMetrics =>
    cases hok
    exact ⟨hs.rules, List.forall_mem_nil _⟩
  | report kinds =>
    cases hok
    exact ⟨hs.rules, hs.metrics⟩
  | check =>
    cases hok
    exact hs
  | render =>
    cases hok
    exact hs
  | reload =>
    refine hs.withRules ?_ hok
    intro found hfound
    exact isReadable_of_parseRules (mapError_eq_ok_iff.1 hfound)
  | redecode =>
    refine hs.withMetrics ?_ hok
    intro found hfound
    exact isReadable_of_parseMetrics (mapError_eq_ok_iff.1 hfound)

theorem IsReadable.step (hs : s.IsReadable) {next : Step} (hnext : next.isTextDriven = true) :
    (s.step next).2.IsReadable := by
  unfold Session.step
  split
  · exact hs
  · rename_i hok
    exact hs.attempt hnext hok

theorem IsReadable.after (hs : s.IsReadable) {steps : List Step}
    (h : ∀ next ∈ steps, next.isTextDriven = true) : (s.after steps).IsReadable := by
  induction steps generalizing s with
  | nil => exact hs
  | cons next steps ih =>
    obtain ⟨hnext, hsteps⟩ := List.forall_mem_cons.1 h
    exact ih (hs.step hnext) hsteps

theorem isReadable_start : start.IsReadable := ⟨List.forall_mem_nil _, List.forall_mem_nil _⟩

/-! ## Reading again -/

theorem step_of_attempt {next : Step} (h : s.attempt next = .ok (answer, s')) :
    s.step next = (.ok answer, s') := by
  unfold Session.step
  rw [h]

theorem attempt_of_step {next : Step} (h : (s.step next).1 = .ok answer) :
    s.attempt next = .ok (answer, (s.step next).2) := by
  unfold Session.step at h ⊢
  cases hattempt : s.attempt next with
  | error failure =>
    rw [hattempt] at h
    cases h
  | ok done =>
    rw [hattempt] at h
    obtain ⟨answer', s'⟩ := done
    cases h
    rfl

/-- The metrics of a readable session are written and read back. -/
theorem IsReadable.step_redecode (hs : s.IsReadable) : s.step .redecode = (.ok .done, s) := by
  apply step_of_attempt
  refine withMetrics_eq_ok_iff.2 ⟨s.metrics, ?_, rfl, rfl⟩
  exact mapError_eq_ok_iff.2 (parseMetrics_renderMetrics hs.metrics)

/-- The rules of a readable session are written and read back when their bounds are
finite. -/
theorem IsReadable.step_reload (hs : s.IsReadable)
    (h : ∀ r ∈ s.rules, ∀ c ∈ r.constraints, c.bound.isFinite = true) :
    s.step .reload = (.ok .done, s) := by
  apply step_of_attempt
  refine withRules_eq_ok_iff.2 ⟨s.rules, ?_, rfl, rfl⟩
  apply mapError_eq_ok_iff.2
  exact parseRules_renderRules fun r hr => ⟨(hs.rules r hr).path, h r hr⟩

theorem IsReadable.isFinite_of_step_reload (hs : s.IsReadable)
    (h : (s.step .reload).1 = .ok answer) :
    ∀ r ∈ s.rules, ∀ c ∈ r.constraints, c.bound.isFinite = true := by
  obtain ⟨found, hfound, -, -⟩ := withRules_eq_ok_iff.1 (attempt_of_step h)
  have hpaths : ∀ r ∈ s.rules, IsPath r.path.toList := fun r hr => (hs.rules r hr).path
  exact isFinite_of_parseRules hpaths (mapError_eq_ok_iff.1 hfound)

/-- Reading again, where it succeeds, changes nothing. -/
theorem IsReadable.step_again (hs : s.IsReadable) {again : Step}
    (hagain : again = .reload ∨ again = .redecode) (h : (s.step again).1 = .ok answer) :
    (s.step again).2 = s := by
  rcases hagain with rfl | rfl
  · rw [hs.step_reload (hs.isFinite_of_step_reload h)]
  · rw [hs.step_redecode]

/-! ## The law -/

/-- Steps that bring in text only lead to sessions with rules and metrics such as text
can hold. There the metrics can always be read again, and the rules when their bounds are
finite; a run in which either was read again goes on as if it had not been. -/
theorem text_driven_sessions_can_be_read_again (steps : List Step)
    (h : ∀ next ∈ steps, next.isTextDriven = true) :
    (∀ reached ∈ start.run steps, reached.2.IsReadable) ∧
    (start.after steps).IsReadable ∧
    ((start.after steps).step .redecode).1 = .ok .done ∧
    (((start.after steps).step .reload).1 = .ok .done ↔
      ∀ r ∈ (start.after steps).rules, ∀ c ∈ r.constraints, c.bound.isFinite = true) ∧
    ∀ again, again = .reload ∨ again = .redecode →
      ((start.after steps).step again).1 = .ok .done → ∀ later,
      (start.run (steps ++ again :: later)).drop (steps.length + 1) =
        (start.run (steps ++ later)).drop steps.length := by
  have hs := isReadable_start.after h
  refine ⟨?_, hs, ?_, ⟨?_, ?_⟩, ?_⟩
  · intro reached hreached
    obtain ⟨first, hfirst, hafter⟩ := exists_after_of_mem_run hreached
    rw [hafter]
    exact isReadable_start.after fun next hnext => h next (hfirst.subset hnext)
  · rw [hs.step_redecode]
  · exact hs.isFinite_of_step_reload
  · intro hfinite
    rw [hs.step_reload hfinite]
  · intro again hagain hok later
    have happend : steps ++ again :: later = (steps ++ [again]) ++ later := by simp
    have hlength : steps.length + 1 = (steps ++ [again]).length := by simp
    rw [happend, hlength, drop_run, drop_run, after_concat, hs.step_again hagain hok]

/-- For instance, a rule without bounds and a metric whose value is NaN. -/
theorem text_driven_sessions_can_be_read_again_with_a_rule_and_a_metric :
    let steps : List Step := [.loadRules (.text "cpu"), .loadMetrics (.text "cpu nan 1")]
    (∀ next ∈ steps, next.isTextDriven = true) ∧
    (start.after steps).IsReadable ∧
    ((start.after steps).step .reload).1 = .ok .done ∧
    ((start.after steps).step .redecode).1 = .ok .done ∧
    ∀ later, (start.run (steps ++ .reload :: later)).drop 3 = (start.run (steps ++ later)).drop 2 ∧
      (start.run (steps ++ .redecode :: later)).drop 3 = (start.run (steps ++ later)).drop 2 := by
  intro steps
  have htext : ∀ next ∈ steps, next.isTextDriven = true := by decide
  have hcpu : parseRules "cpu" = .ok [⟨"cpu", true, []⟩] := parseRules_of_path (by decide +kernel)
  have hload : start.step (.loadRules (.text "cpu")) =
      (.ok .done, ⟨[⟨"cpu", true, []⟩], [], .all⟩) := by
    apply step_of_attempt
    exact withRules_eq_ok_iff.2 ⟨_, mapError_eq_ok_iff.2 hcpu, rfl, rfl⟩
  have hrules : (start.after steps).rules = [⟨"cpu", true, []⟩] := by
    have hsecond : start.after steps =
        ((start.step (.loadRules (.text "cpu"))).2.step (.loadMetrics (.text "cpu nan 1"))).2 := rfl
    rw [hsecond, hload]
    decide
  obtain ⟨-, hreadable, hredecode, hreload, hagain⟩ :=
    text_driven_sessions_can_be_read_again steps htext
  have hreloads : ((start.after steps).step .reload).1 = .ok .done := by
    apply hreload.2
    rw [hrules]
    decide
  refine ⟨htext, hreadable, hreloads, hredecode, fun later => ⟨?_, ?_⟩⟩
  · exact hagain .reload (.inl rfl) hreloads later
  · exact hagain .redecode (.inr rfl) hredecode later

end Session

end MetricCheck
