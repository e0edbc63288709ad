-- The reading of arguments as steps. A step takes an argument from the front, or an option
-- with its value in the next argument, and leads from one state to another; the reading is a
-- run of steps, up to the end, two dashes alone or an argument that is left for others.
import MetricCheck.Proofs.Cli.Args

namespace MetricCheck.Cli

variable {σ : Type}

/-- The arguments are one step of the reading between the two states. -/
inductive Takes (options : List (Opt σ)) (plain : Option (String → σ → Option σ)) :
    List String → σ → σ → Prop
  | plain {arg text : String} {add : String → σ → Option σ} {state state' : σ}
      (hread : Argument.ofText arg = .plain text) (hplain : plain = some add)
      (hadd : add text state = some state') : Takes options plain [arg] state state'
  | flag {arg : String} {option : Opt σ} {set : σ → Option σ} {state state' : σ}
      (hfind : findOption options (.ofText arg) = some (option, none))
      (haction : option.action = .flag set) (hset : set state = some state') :
      Takes options plain [arg] state state'
  | attached {arg value : String} {option : Opt σ} {set : String → σ → Option σ}
      {state state' : σ} (hfind : findOption options (.ofText arg) = some (option, some value))
      (haction : option.action = .value set) (hset : set value state = some state') :
      Takes options plain [arg] state state'
  | value {arg value : String} {option : Opt σ} {set : String → σ → Option σ} {state state' : σ}
      (hfind : findOption options (.ofText arg) = some (option, none))
      (haction : option.action = .value set) (hvalue : isValue value = true)
      (hset : set value state = some state') : Takes options plain [arg, value] state state'

/-- The arguments lead from the first state to the second, up to those that are left. -/
inductive ReadsTo (options : List (Opt σ)) (plain : Option (String → σ → Option σ)) :
    σ → List String → σ → List String → Prop
  | nil (state : σ) : ReadsTo options plain state [] state []
  | stop {arg : String} {state : σ} {rest : List String} (hplain : plain = none)
      (hread : isValue arg = true ∨ arg = "--") :
      ReadsTo options plain state (arg :: rest) state (arg :: rest)
  | separator {add : String → σ → Option σ} {state state' : σ} {rest : List String}
      (hplain : plain = some add)
      (hadd : rest.foldlM (fun state text => add text state) state = some state') :
      ReadsTo options plain state ("--" :: rest) state' []
  | step {taken later left : List String} {state state' final : σ}
      (htakes : Takes options plain taken state state')
      (hlater : ReadsTo options plain state' later final left) :
      ReadsTo options plain state (taken ++ later) final left

/-! ## Arguments -/

theorem isValue_iff {arg : String} :
    isValue arg = true ↔ ∃ text, Argument.ofText arg = .plain text := by
  unfold isValue
  cases Argument.ofText arg with
  | plain text => simp
  | separator | long | short => simp

theorem eq_of_ofText_eq_separator {arg : String} (h : Argument.ofText arg = .separator) :
    arg = "--" := by
  unfold Argument.ofText at h
  split at h
  · rename_i htext
    rw [← String.toList_inj, htext]
    rfl
  · cases h
  · cases h
  · cases h

/-- A long option without a value is its name after two dashes. -/
theorem eq_of_ofText_eq_long {arg name : String} (h : Argument.ofText arg = .long name none) :
    arg = "--" ++ name := by
  unfold Argument.ofText at h
  split at h
  · cases h
  · rename_i r _ htext
    dsimp only at h
    split at h
    · rename_i hlength
      cases h
      have hwhole : r.takeWhile (· != '=') = r :=
        (List.takeWhile_prefix _).eq_of_length hlength
      rw [← String.toList_inj, htext, hwhole]
      simp
    · cases h
  · cases h
  · cases h

section

variable {options : List (Opt σ)} {plain : Option (String → σ → Option σ)} {option : Opt σ}
  {attached : Option String}

/-- An option is found under its long name or its letter. -/
theorem findOption_cases {read : Argument}
    (h : findOption options read = some (option, attached)) :
    option ∈ options ∧
      (read = .long option.long attached ∨
        ∃ letter text, read = .short letter text ∧ option.letter = some letter) := by
  cases read with
  | separator | plain => cases h
  | long name value =>
    obtain ⟨found, hfound, heq⟩ := Option.map_eq_some_iff.1 h
    cases heq
    have hname : option.long = name := by simpa using List.find?_some hfound
    exact ⟨List.mem_of_find?_eq_some hfound, .inl (by rw [hname])⟩
  | short letter text =>
    obtain ⟨found, hfound, heq⟩ := Option.map_eq_some_iff.1 h
    have hletter : found.letter = some letter := by simpa using List.find?_some hfound
    -- the letter may end the reading, and then what follows it is not read
    obtain rfl : found = option := by
      split at heq
      · exact congrArg Prod.fst heq
      · exact congrArg Prod.fst heq
    exact ⟨List.mem_of_find?_eq_some hfound, .inr ⟨letter, text, rfl, hletter⟩⟩

/-- An option without a letter is given by its long name. -/
theorem eq_of_findOption {arg : String}
    (h : findOption options (.ofText arg) = some (option, none)) (hletter : option.letter = none) :
    arg = "--" ++ option.long := by
  rcases (findOption_cases h).2 with hread | ⟨letter, text, -, hyes⟩
  · exact eq_of_ofText_eq_long hread
  · rw [hletter] at hyes
    cases hyes

/-! ## Reading step by step -/

theorem readArguments_plain {arg text : String} {add : String → σ → Option σ} {state state' : σ}
    (hread : Argument.ofText arg = .plain text) (hadd : add text state = some state')
    (rest : List String) :
    readArguments options (some add) state (arg :: rest) =
      readArguments options (some add) state' rest := by
  rw [readArguments.eq_def]
  simp only [hread, hadd]

theorem readArguments_value {arg value : String} {set : String → σ → Option σ} {state state' : σ}
    (hfind : findOption options (.ofText arg) = some (option, none))
    (haction : option.action = .value set) (hvalue : isValue value = true)
    (hset : set value state = some state') (rest : List String) :
    readArguments options plain state (arg :: value :: rest) =
      readArguments options plain state' rest := by
  rw [readArguments.eq_def]
  cases hread : Argument.ofText arg with
  | separator | plain => rw [hread] at hfind; cases hfind
  | long name text =>
    rw [hread] at hfind
    simp only [hread, hfind, haction, hvalue, hset, if_true]
  | short letter text =>
    rw [hread] at hfind
    simp only [hread, hfind, haction, hvalue, hset, if_true]

theorem Takes.readArguments {taken : List String} {state state' : σ}
    (h : Takes options plain taken state state') (rest : List String) :
    readArguments options plain state (taken ++ rest) =
      readArguments options plain state' rest := by
  cases h with
  | plain hread hplain hadd =>
    subst hplain
    exact readArguments_plain hread hadd rest
  | flag hfind haction hset => exact readArguments_flag rfl hfind haction hset
  | attached hfind haction hset => exact readArguments_attached rfl hfind haction hset
  | value hfind haction hvalue hset => exact readArguments_value hfind haction hvalue hset rest

/-- Each argument of a step is a value or names an option. -/
theorem Takes.mem {taken : List String} {state state' : σ}
    (h : Takes options plain taken state state') :
    ∀ arg ∈ taken, isValue arg = true ∨ ∃ found, findOption options (.ofText arg) = some found := by
  cases h with
  | plain hread hplain hadd => exact List.forall_mem_singleton.2 (.inl (isValue_iff.2 ⟨_, hread⟩))
  | flag hfind haction hset => exact List.forall_mem_singleton.2 (.inr ⟨_, hfind⟩)
  | attached hfind haction hset => exact List.forall_mem_singleton.2 (.inr ⟨_, hfind⟩)
  | value hfind haction hvalue hset =>
    exact List.forall_mem_cons.2 ⟨.inr ⟨_, hfind⟩, List.forall_mem_singleton.2 (.inl hvalue)⟩

theorem Takes.separator_not_mem {taken : List String} {state state' : σ}
    (h : Takes options plain taken state state') : "--" ∉ taken := by
  intro hmem
  rcases h.mem _ hmem with hvalue | ⟨found, hfind⟩
  · cases hvalue
  · cases hfind

/-- The reading of arguments is a run of steps. -/
theorem readArguments_eq_ok_iff {state final : σ} {args left : List String} :
    readArguments options plain state args = .ok (final, left) ↔
      ReadsTo options plain state args final left := by
  constructor
  · intro h
    fun_induction MetricCheck.Cli.readArguments options plain state args with
    | case1 => cases h; exact .nil _
    | case2 state arg rest text hplain hread =>
      cases h
      exact .stop hplain (.inl (isValue_iff.2 ⟨text, hread⟩))
    | case3 state arg rest hplain hread =>
      cases h
      exact .stop hplain (.inr (eq_of_ofText_eq_separator hread))
    | case5 state arg rest text add hplain hread state' hadd ih =>
      subst hplain
      exact .step (.plain hread rfl hadd) (ih h)
    | case7 state arg rest add hplain hread state' hadd =>
      cases h
      rw [eq_of_ofText_eq_separator hread]
      exact .separator hplain hadd
    | case12 state arg option set rest haction state' hset _ _ _ _ hfind ih =>
      exact .step (.flag hfind haction hset) (ih h)
    | case15 state arg option set value rest haction state' hset _ _ _ _ hfind ih =>
      exact .step (.attached hfind haction hset) (ih h)
    | case18 state arg option set value rest haction hvalue state' hset _ _ _ _ hfind ih =>
      exact .step (.value hfind haction hvalue hset) (ih h)
    | _ => cases h
  · intro h
    induction h with
    | nil state => rw [MetricCheck.Cli.readArguments]
    | @stop arg state rest hplain hread =>
      subst hplain
      rw [readArguments.eq_def]
      rcases hread with hvalue | rfl
      · obtain ⟨text, htext⟩ := isValue_iff.1 hvalue
        simp only [htext]
      · rfl
    | separator hplain hadd =>
      subst hplain
      exact readArguments_separator hadd
    | @step taken later left state state' final htakes _ ih => rw [htakes.readArguments, ih]

end

end MetricCheck.Cli
