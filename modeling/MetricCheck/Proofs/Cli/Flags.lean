-- The flags that allow violations. Each stands for itself among the arguments of a check:
-- without them the arguments ask for the same check, in which every kind is reported.
import MetricCheck.Proofs.Cli.Reading

namespace MetricCheck.Cli

/-- The flag that allows violations of a kind. -/
def allowFlag : ViolationKind → String
  | .outOfRange => "--allow-out-of-range"
  | .missing => "--allow-missing"
  | .unexpected => "--allow-unexpected"

def allowFlags : List String := ViolationKind.all.map allowFlag

/-- The arguments without the flags that allow violations. What comes after two dashes alone
is a file. -/
def withoutAllowing (args : List String) : List String :=
  (args.takeWhile (· ≠ "--")).filter (· ∉ allowFlags) ++ args.dropWhile (· ≠ "--")

/-- Among the arguments is the flag that allows violations of the kind. -/
def Allows (args : List String) (kind : ViolationKind) : Prop :=
  allowFlag kind ∈ args.takeWhile (· ≠ "--")

instance (args : List String) (kind : ViolationKind) : Decidable (Allows args kind) :=
  inferInstanceAs (Decidable (allowFlag kind ∈ args.takeWhile (· ≠ "--")))

/-! ## Flags among arguments -/

theorem allowFlag_mem (kind : ViolationKind) : allowFlag kind ∈ allowFlags := by
  cases kind <;> decide

theorem allowFlag_injective : Function.Injective allowFlag := by
  intro kind kind' h
  cases kind <;> cases kind' <;> first | rfl | exact absurd h (by decide)

theorem filter_allowFlags_eq_self {taken : List String} (h : ∀ arg ∈ taken, arg ∉ allowFlags) :
    taken.filter (· ∉ allowFlags) = taken :=
  List.filter_eq_self.2 fun arg harg => decide_eq_true (h arg harg)

theorem allowFlag_not_mem {taken : List String} (h : ∀ arg ∈ taken, arg ∉ allowFlags)
    (kind : ViolationKind) : allowFlag kind ∉ taken :=
  fun hmem => h _ hmem (allowFlag_mem kind)

section Arguments

variable {taken : List String} (h : "--" ∉ taken) (later : List String)
include h

theorem withoutAllowing_append :
    withoutAllowing (taken ++ later) =
      taken.filter (· ∉ allowFlags) ++ withoutAllowing later := by
  have hall : ∀ arg ∈ taken, decide (arg ≠ "--") = true :=
    fun arg harg => decide_eq_true (ne_of_mem_of_not_mem harg h)
  unfold withoutAllowing
  rw [List.takeWhile_append_of_pos hall, List.dropWhile_append_of_pos hall, List.filter_append,
    List.append_assoc]

theorem allows_append (kind : ViolationKind) :
    Allows (taken ++ later) kind ↔ allowFlag kind ∈ taken ∨ Allows later kind := by
  have hall : ∀ arg ∈ taken, decide (arg ≠ "--") = true :=
    fun arg harg => decide_eq_true (ne_of_mem_of_not_mem harg h)
  unfold Allows
  rw [List.takeWhile_append_of_pos hall, List.mem_append]

end Arguments

theorem withoutAllowing_separator (rest : List String) :
    withoutAllowing ("--" :: rest) = "--" :: rest := by
  simp [withoutAllowing]

theorem not_allows_separator (rest : List String) (kind : ViolationKind) :
    ¬ Allows ("--" :: rest) kind := by
  simp [Allows]

/-! ## Options and flags -/

theorem isValue_allowFlag (kind : ViolationKind) : isValue (allowFlag kind) = false := by
  cases kind <;> rfl

theorem not_mem_allowFlags_of_isValue {arg : String} (h : isValue arg = true) :
    arg ∉ allowFlags := by
  intro hmem
  obtain ⟨kind, -, rfl⟩ := List.mem_map.1 hmem
  rw [isValue_allowFlag] at h
  cases h

/-- None of the options of a check but the flags themselves is given by such a flag. -/
theorem findOption_allowFlag (kind : ViolationKind) :
    ∃ option set, findOption checkOptions (.ofText (allowFlag kind)) = some (option, none) ∧
      option.action = .flag set := by
  cases kind with
  | outOfRange => exact ⟨_, _, rfl, rfl⟩
  | missing => exact ⟨_, _, rfl, rfl⟩
  | unexpected => exact ⟨_, _, rfl, rfl⟩

/-- A flag is no option with a value. -/
theorem not_mem_allowFlags_of_value {arg : String} {option : Opt Draft}
    {attached : Option String} {set : String → Draft → Option Draft}
    (hfind : findOption checkOptions (.ofText arg) = some (option, attached))
    (haction : option.action = .value set) : arg ∉ allowFlags := by
  intro hmem
  obtain ⟨kind, -, rfl⟩ := List.mem_map.1 hmem
  obtain ⟨option', set', hfind', haction'⟩ := findOption_allowFlag kind
  rw [hfind] at hfind'
  cases hfind'
  rw [haction] at haction'
  cases haction'

/-! ## Drafts -/

/-- Whether violations of the kind are allowed so far. -/
def Draft.allows (d : Draft) : ViolationKind → Bool
  | .outOfRange => d.allowOutOfRange.isSome
  | .missing => d.allowMissing.isSome
  | .unexpected => d.allowUnexpected.isSome

/-- The draft with no violations allowed. -/
def Draft.allowingNone (d : Draft) : Draft :=
  { d with allowUnexpected := none, allowMissing := none, allowOutOfRange := none }

/-- A change that does not depend on what is allowed, and does not change it. -/
def KeepsAllowed (change : Draft → Option Draft) : Prop :=
  ∀ d d', change d = some d' →
    change d.allowingNone = some d'.allowingNone ∧ ∀ kind, d'.allows kind = d.allows kind

/-- A change that allows violations of the kind, and does nothing else. -/
def MakesAllowed (kind : ViolationKind) (change : Draft → Option Draft) : Prop :=
  ∀ d d', change d = some d' → d'.allowingNone = d.allowingNone ∧
    ∀ kind', d'.allows kind' = (d.allows kind' || decide (kind' = kind))

theorem keepsAllowed_addFile (text : String) : KeepsAllowed (addFile text) := by
  intro d d' h
  obtain ⟨name, hname, heq⟩ := Option.bind_eq_some_iff.1 h
  cases heq
  refine ⟨?_, fun kind => by cases kind <;> rfl⟩
  unfold addFile
  rw [hname]
  rfl

theorem keepsAllowed_addFiles (files : List String) :
    KeepsAllowed fun d => files.foldlM (fun d name => addFile name d) d := by
  induction files with
  | nil =>
    intro d d' h
    cases h
    exact ⟨rfl, fun _ => rfl⟩
  | cons name files ih =>
    intro d d' h
    obtain ⟨d₁, hname, hfiles⟩ := Option.bind_eq_some_iff.1 h
    obtain ⟨hnone, hallows⟩ := keepsAllowed_addFile name d d₁ hname
    obtain ⟨hlater, hlaterAllows⟩ := ih d₁ d' hfiles
    constructor
    · dsimp only
      rw [List.foldlM_cons, hnone]
      exact hlater
    · intro kind
      rw [hlaterAllows, hallows]

/-- What an option does that sets a field of its own. -/
theorem keepsAllowed_once {α : Type} (parsed : Option α) (get : Draft → Option α)
    (put : Draft → Option α → Draft) (hget : ∀ d, get d.allowingNone = get d)
    (hput : ∀ d new, put d.allowingNone new = (put d new).allowingNone)
    (hallows : ∀ d new kind, (put d new).allows kind = d.allows kind) :
    KeepsAllowed fun d => do return put d (← once (get d) (← parsed)) := by
  intro d d' h
  obtain ⟨value, hvalue, h⟩ := Option.bind_eq_some_iff.1 h
  obtain ⟨new, hnew, heq⟩ := Option.bind_eq_some_iff.1 h
  cases heq
  refine ⟨?_, hallows d new⟩
  simp only [hget, hvalue, hput, Option.bind_eq_bind, Option.bind_some, hnew]
  rfl

/-- What an option does that sets the field of a kind. -/
theorem makesAllowed_once {kind : ViolationKind} (get : Draft → Option Unit)
    (put : Draft → Option Unit → Draft)
    (hput : ∀ d new, (put d new).allowingNone = d.allowingNone)
    (hallows : ∀ d new kind', (put d new).allows kind' =
      if kind' = kind then new.isSome else d.allows kind') :
    MakesAllowed kind fun d => do return put d (← once (get d) ()) := by
  intro d d' h
  obtain ⟨new, hnew, heq⟩ := Option.bind_eq_some_iff.1 h
  cases heq
  have hgiven : new = some () := by
    cases hold : get d with
    | none => rw [hold] at hnew; exact (Option.some.inj hnew).symm
    | some old => rw [hold] at hnew; cases hnew
  refine ⟨hput d new, fun kind' => ?_⟩
  rw [hallows, hgiven]
  by_cases hkind : kind' = kind
  · simp [hkind]
  · simp [hkind]

/-- What an option may do to what is allowed: one with a value nothing, and a flag nothing or
what its name says. -/
def RespectsAllowed (option : Opt Draft) : Prop :=
  match option.action with
  | .stop _ => True
  | .value set => ∀ value, KeepsAllowed (set value)
  | .flag set =>
    option.letter = none ∧
      ((∃ kind, "--" ++ option.long = allowFlag kind ∧ MakesAllowed kind set) ∨
        "--" ++ option.long ∉ allowFlags ∧ KeepsAllowed set)

theorem respectsAllowed_checkOptions : ∀ option ∈ checkOptions, RespectsAllowed option := by
  simp only [checkOptions, commonOptions, List.cons_append, List.nil_append, List.forall_mem_cons]
  refine ⟨?logLevel, trivial, ?rules, ?unexpected, ?missing, ?outOfRange, ?summary, ?color,
    List.forall_mem_nil _⟩
  case logLevel =>
    intro value
    exact keepsAllowed_once _ Draft.logLevel (fun d new => { d with logLevel := new })
      (fun _ => rfl) (fun _ _ => rfl) fun _ _ kind => by cases kind <;> rfl
  case rules =>
    intro value
    exact keepsAllowed_once _ Draft.rules (fun d new => { d with rules := new })
      (fun _ => rfl) (fun _ _ => rfl) fun _ _ kind => by cases kind <;> rfl
  case unexpected =>
    refine ⟨rfl, .inl ⟨.unexpected, rfl, ?_⟩⟩
    exact makesAllowed_once Draft.allowUnexpected (fun d new => { d with allowUnexpected := new })
      (fun _ _ => rfl) fun _ _ kind => by cases kind <;> rfl
  case missing =>
    refine ⟨rfl, .inl ⟨.missing, rfl, ?_⟩⟩
    exact makesAllowed_once Draft.allowMissing (fun d new => { d with allowMissing := new })
      (fun _ _ => rfl) fun _ _ kind => by cases kind <;> rfl
  case outOfRange =>
    refine ⟨rfl, .inl ⟨.outOfRange, rfl, ?_⟩⟩
    exact makesAllowed_once Draft.allowOutOfRange (fun d new => { d with allowOutOfRange := new })
      (fun _ _ => rfl) fun _ _ kind => by cases kind <;> rfl
  case summary =>
    refine ⟨rfl, .inr ⟨by decide, ?_⟩⟩
    exact keepsAllowed_once (some ()) Draft.summary (fun d new => { d with summary := new })
      (fun _ => rfl) (fun _ _ => rfl) fun _ _ kind => by cases kind <;> rfl
  case color =>
    intro value
    exact keepsAllowed_once _ Draft.color (fun d new => { d with color := new })
      (fun _ => rfl) (fun _ _ => rfl) fun _ _ kind => by cases kind <;> rfl

section Options

variable {option : Opt Draft} (hmem : option ∈ checkOptions)
include hmem

/-- An option with a value has nothing to do with what is allowed. -/
theorem keepsAllowed_value {set : String → Draft → Option Draft}
    (haction : option.action = .value set) (value : String) : KeepsAllowed (set value) := by
  have hrespects := respectsAllowed_checkOptions option hmem
  simp only [RespectsAllowed, haction] at hrespects
  exact hrespects value

/-- A flag allows violations of one kind, or it has nothing to do with what is allowed. -/
theorem flag_cases {set : Draft → Option Draft} (haction : option.action = .flag set) :
    option.letter = none ∧
      ((∃ kind, "--" ++ option.long = allowFlag kind ∧ MakesAllowed kind set) ∨
        "--" ++ option.long ∉ allowFlags ∧ KeepsAllowed set) := by
  have hrespects := respectsAllowed_checkOptions option hmem
  simp only [RespectsAllowed, haction] at hrespects
  exact hrespects

end Options

/-! ## Reading without the flags -/

/-- A step of the reading is a flag that allows a kind, or the same step is there when none is
allowed. -/
theorem Takes.allowing_cases {taken : List String} {d d' : Draft}
    (h : Takes checkOptions (some addFile) taken d d') :
    (∃ kind, taken = [allowFlag kind] ∧ d'.allowingNone = d.allowingNone ∧
      ∀ kind', d'.allows kind' = (d.allows kind' || decide (kind' = kind))) ∨
    (∀ arg ∈ taken, arg ∉ allowFlags) ∧
      Takes checkOptions (some addFile) taken d.allowingNone d'.allowingNone ∧
      ∀ kind, d'.allows kind = d.allows kind := by
  cases h with
  | plain hread hplain hadd =>
    cases hplain
    obtain ⟨hnone, hallows⟩ := keepsAllowed_addFile _ d d' hadd
    right
    have hvalue := not_mem_allowFlags_of_isValue (isValue_iff.2 ⟨_, hread⟩)
    exact ⟨List.forall_mem_singleton.2 hvalue, .plain hread rfl hnone, hallows⟩
  | flag hfind haction hset =>
    obtain ⟨hletter, hkind⟩ := flag_cases (findOption_cases hfind).1 haction
    have harg := eq_of_findOption hfind hletter
    rcases hkind with ⟨kind, hflag, hmakes⟩ | ⟨hflag, hkeeps⟩
    · left
      exact ⟨kind, by rw [harg, hflag], hmakes d d' hset⟩
    · right
      obtain ⟨hnone, hallows⟩ := hkeeps d d' hset
      exact ⟨List.forall_mem_singleton.2 (harg ▸ hflag), .flag hfind haction hnone, hallows⟩
  | attached hfind haction hset =>
    right
    obtain ⟨hnone, hallows⟩ := keepsAllowed_value (findOption_cases hfind).1 haction _ d d' hset
    exact ⟨List.forall_mem_singleton.2 (not_mem_allowFlags_of_value hfind haction),
      .attached hfind haction hnone, hallows⟩
  | value hfind haction hyes hset =>
    right
    obtain ⟨hnone, hallows⟩ := keepsAllowed_value (findOption_cases hfind).1 haction _ d d' hset
    refine ⟨List.forall_mem_cons.2 ⟨not_mem_allowFlags_of_value hfind haction, ?_⟩,
      .value hfind haction hyes hnone, hallows⟩
    exact List.forall_mem_singleton.2 (not_mem_allowFlags_of_isValue hyes)

/-- Without the flags the options of a check are read as before, but for what is allowed. -/
theorem ReadsTo.allowingNone {d d' : Draft} {args left : List String}
    (h : ReadsTo checkOptions (some addFile) d args d' left) :
    ReadsTo checkOptions (some addFile) d.allowingNone (withoutAllowing args) d'.allowingNone
        left ∧
      ∀ kind, d'.allows kind = (d.allows kind || decide (Allows args kind)) := by
  induction h with
  | nil d => exact ⟨.nil _, fun kind => by simp [Allows]⟩
  | stop hplain => cases hplain
  | separator hplain hfiles =>
    cases hplain
    obtain ⟨hnone, hallows⟩ := keepsAllowed_addFiles _ _ _ hfiles
    rw [withoutAllowing_separator]
    refine ⟨.separator rfl hnone, fun kind => ?_⟩
    rw [hallows, decide_eq_false (not_allows_separator _ kind), Bool.or_false]
  | @step taken later left d d₁ d' htakes _ ih =>
    obtain ⟨hreads, hallows⟩ := ih
    have hdashes := htakes.separator_not_mem
    rw [withoutAllowing_append hdashes]
    simp only [allows_append hdashes]
    rcases htakes.allowing_cases with ⟨kind, rfl, hsame, hmakes⟩ | ⟨hflags, hstep, hkeeps⟩
    · have hnone : [allowFlag kind].filter (· ∉ allowFlags) = [] := by simp [allowFlag_mem]
      rw [hnone, List.nil_append, ← hsame]
      refine ⟨hreads, fun kind' => ?_⟩
      rw [hallows, hmakes]
      simp [allowFlag_injective.eq_iff, Bool.or_assoc]
    · rw [filter_allowFlags_eq_self hflags]
      refine ⟨.step hstep hreads, fun kind => ?_⟩
      rw [hallows, hkeeps]
      simp [allowFlag_not_mem hflags]

/-- Before the command's name there are no flags of the command. -/
theorem ReadsTo.before_command {σ : Type} {options : List (Opt σ)}
    (hoptions : ∀ kind, findOption options (.ofText (allowFlag kind)) = none)
    {state final : σ} {args left rest : List String} {command : String}
    (h : ReadsTo options none state args final left) (hleft : left = command :: rest)
    (hcommand : command ≠ "--") :
    ReadsTo options none state (withoutAllowing args) final (command :: withoutAllowing rest) ∧
      ∀ kind, Allows args kind ↔ Allows rest kind := by
  induction h with
  | nil => cases hleft
  | separator hplain => cases hplain
  | @stop arg state rest hplain hread =>
    cases hleft
    have hvalue := hread.resolve_right hcommand
    have hdashes : "--" ∉ [command] := fun hmem => hcommand (List.mem_singleton.1 hmem).symm
    have hflags : ∀ arg ∈ [command], arg ∉ allowFlags :=
      List.forall_mem_singleton.2 (not_mem_allowFlags_of_isValue hvalue)
    have hwithout := withoutAllowing_append hdashes rest
    rw [filter_allowFlags_eq_self hflags] at hwithout
    constructor
    · rw [← List.singleton_append, hwithout]
      exact .stop rfl (.inl hvalue)
    · intro kind
      rw [← List.singleton_append, allows_append hdashes,
        or_iff_right (allowFlag_not_mem hflags kind)]
  | @step taken later left state state' final htakes _ ih =>
    have hdashes := htakes.separator_not_mem
    have hflags : ∀ arg ∈ taken, arg ∉ allowFlags := by
      intro arg harg
      rcases htakes.mem arg harg with hvalue | ⟨found, hfound⟩
      · exact not_mem_allowFlags_of_isValue hvalue
      · intro hmem
        obtain ⟨kind, -, rfl⟩ := List.mem_map.1 hmem
        rw [hoptions] at hfound
        cases hfound
    obtain ⟨hreads, hallows⟩ := ih hleft
    rw [withoutAllowing_append hdashes, filter_allowFlags_eq_self hflags]
    refine ⟨.step htakes hreads, fun kind => ?_⟩
    rw [allows_append hdashes, or_iff_right (allowFlag_not_mem hflags kind), hallows]

theorem Draft.contains_check (d : Draft) (kind : ViolationKind) :
    d.check.kinds.contains kind = !d.allows kind := by
  cases kind with
  | outOfRange => exact (Option.not_isSome _).symm
  | missing => exact (Option.not_isSome _).symm
  | unexpected => exact (Option.not_isSome _).symm

/-- After the command's name the arguments are those of a check. -/
theorem readRequest_check {args rest : List String} {before : Draft}
    (h : readArguments (⟨"version", some 'V', .stop .version⟩ :: commonOptions) none {} args =
      .ok (before, "check" :: rest)) :
    readRequest args = readCommand checkOptions (fun d => .check d.check) before rest := by
  unfold readRequest
  rw [h]
  rfl

/-- The flags tell which kinds a check reports, and nothing else of it. -/
theorem readRequest_withoutAllowing {args : List String} {request : Request} {o : CheckOptions}
    (h : readRequest args = .ok request) (hcommand : request.command = .check o) :
    readRequest (withoutAllowing args) =
        .ok { request with command := .check { o with kinds := .all } } ∧
      ∀ kind, o.kinds.contains kind = !decide (Allows args kind) := by
  unfold readRequest at h
  split at h
  · cases h
  · rename_i before rest hbefore
    unfold readCommand at h
    split at h
    · cases h
    · rename_i draft left hdraft
      cases h
      cases hcommand
      obtain ⟨hfirst, hrest⟩ := (readArguments_eq_ok_iff.1 hbefore).before_command
        (fun kind => by cases kind <;> rfl) rfl (by decide)
      obtain ⟨hreads, hallows⟩ := (readArguments_eq_ok_iff.1 hdraft).allowingNone
      constructor
      · have hnone : Draft.allowingNone {} = {} := rfl
        rw [hnone] at hreads
        rw [readRequest_check (readArguments_eq_ok_iff.2 hfirst), readCommand,
          readArguments_eq_ok_iff.2 hreads]
        rfl
      · intro kind
        rw [Draft.contains_check, hallows, decide_eq_decide.2 (hrest kind)]
        cases kind <;> rfl
  · unfold readCommand at h
    split at h
    · cases h
    · cases h
      cases hcommand
  · cases h
  · cases h

end MetricCheck.Cli
