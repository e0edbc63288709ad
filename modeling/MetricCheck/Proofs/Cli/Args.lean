-- Arguments for every check: whatever is to be checked, and however, there are arguments
-- that ask for just that.
import MetricCheck.Cli.Args

namespace MetricCheck.Cli

/-- The value that names a choice of colours. -/
def ColorChoice.text : ColorChoice → String
  | .auto => "auto"
  | .always => "always"
  | .never => "never"

/-- An option that is given if it is wanted. -/
def optionIf (wanted : Bool) (option : String) : List String := if wanted then [option] else []

/-- An option with its value. -/
def optionWith (name value : String) : String := "--" ++ name ++ "=" ++ value

/-- Arguments that ask for a check. -/
def CheckOptions.args (o : CheckOptions) : List String :=
  "check" :: optionWith "rules" o.rules ::
    (optionIf (!o.kinds.unexpected) "--allow-unexpected" ++
      (optionIf (!o.kinds.missing) "--allow-missing" ++
        (optionIf (!o.kinds.outOfRange) "--allow-out-of-range" ++
          (optionIf o.summary "--summary" ++
            optionWith "color" o.color.text :: "--" :: o.files))))

/-! ## One argument after the other -/

section Reading

variable {σ : Type} {options : List (Opt σ)} {plain : Option (String → σ → Option σ)}
  {state state' : σ} {arg value : String} {rest : List String} {read : Argument} {option : Opt σ}

theorem readArguments_flag {set : σ → Option σ} (hread : Argument.ofText arg = read)
    (hfind : findOption options read = some (option, none))
    (haction : option.action = .flag set) (hset : set state = some state') :
    readArguments options plain state (arg :: rest) = readArguments options plain state' rest := by
  rw [readArguments.eq_def]
  cases read with
  | separator => cases hfind
  | plain text => cases hfind
  | long name value => simp only [hread, hfind, haction, hset]
  | short letter text => simp only [hread, hfind, haction, hset]

theorem readArguments_attached {set : String → σ → Option σ} (hread : Argument.ofText arg = read)
    (hfind : findOption options read = some (option, some value))
    (haction : option.action = .value set) (hset : set value state = some state') :
    readArguments options plain state (arg :: rest) = readArguments options plain state' rest := by
  rw [readArguments.eq_def]
  cases read with
  | separator => cases hfind
  | plain text => cases hfind
  | long name value => simp only [hread, hfind, haction, hset]
  | short letter text => simp only [hread, hfind, haction, hset]

/-- A flag that is not wanted leaves the state. -/
theorem readArguments_optionIf {set : σ → Option σ} (wanted : Bool)
    (hread : Argument.ofText arg = read) (hfind : findOption options read = some (option, none))
    (haction : option.action = .flag set)
    (hset : (if wanted then set state else some state) = some state') :
    readArguments options plain state (optionIf wanted arg ++ rest) =
      readArguments options plain state' rest := by
  cases wanted with
  | false =>
    obtain rfl := Option.some.inj hset
    rfl
  | true => exact readArguments_flag hread hfind haction hset

theorem readArguments_separator {add : String → σ → Option σ}
    (hadd : rest.foldlM (fun state text => add text state) state = some state') :
    readArguments options (some add) state ("--" :: rest) = .ok (state', []) := by
  have hread : Argument.ofText "--" = .separator := rfl
  rw [readArguments.eq_def]
  simp only [hread, hadd]

end Reading

/-! ## Arguments of a check -/

theorem fileName?_eq_some {name : String} (h : name ≠ "") : fileName? name = some name := by
  simp [fileName?, h]

theorem foldlM_addFile {files : List String} (h : ∀ name ∈ files, name ≠ "") (d : Draft) :
    files.foldlM (fun d name => addFile name d) d = some { d with files := d.files ++ files } := by
  induction files generalizing d with
  | nil => simp
  | cons name files ih =>
    obtain ⟨hname, hfiles⟩ := List.forall_mem_cons.1 h
    have hadd : addFile name d = some { d with files := d.files ++ [name] } := by
      simp [addFile, fileName?_eq_some hname]
    rw [List.foldlM_cons, hadd]
    simpa using ih hfiles { d with files := d.files ++ [name] }

theorem ofText_optionWith {name : String} (h : '=' ∉ name.toList) (value : String) :
    Argument.ofText (optionWith name value) = .long name (some value) := by
  have htoList : (optionWith name value).toList =
      '-' :: '-' :: (name.toList ++ '=' :: value.toList) := by simp [optionWith]
  have hname : (name.toList ++ '=' :: value.toList).takeWhile (· != '=') = name.toList := by
    rw [List.takeWhile_append_of_pos]
    · simp
    · intro c hc
      rw [bne_iff_ne]
      rintro rfl
      exact h hc
  unfold Argument.ofText
  rw [htoList]
  simp [hname]

/-- A flag as a draft holds it. -/
def flagIf (wanted : Bool) : Option Unit := if wanted then some () else none

/-- What a draft holds once the arguments of a check have been read. -/
def CheckOptions.draft (o : CheckOptions) : Draft where
  rules := some o.rules
  files := o.files
  allowUnexpected := flagIf (!o.kinds.unexpected)
  allowMissing := flagIf (!o.kinds.missing)
  allowOutOfRange := flagIf (!o.kinds.outOfRange)
  summary := flagIf o.summary
  color := some o.color

theorem check_draft (o : CheckOptions) : o.draft.check = o := by
  obtain ⟨rules, files, ⟨outOfRange, missing, unexpected⟩, summary, color⟩ := o
  cases outOfRange <;> cases missing <;> cases unexpected <;> cases summary <;> rfl

theorem readArguments_args (o : CheckOptions) (hrules : o.rules ≠ "")
    (hfiles : ∀ name ∈ o.files, name ≠ "") :
    readArguments checkOptions (some addFile) {} o.args.tail = .ok (o.draft, []) := by
  obtain ⟨rules, files, ⟨outOfRange, missing, unexpected⟩, summary, color⟩ := o
  -- each argument sets a field that was not set before, so none is refused as given twice
  calc
    _ = readArguments checkOptions (some addFile) { rules := some rules } _ :=
      readArguments_attached (ofText_optionWith (by decide) _) rfl rfl
        (by simp [fileName?_eq_some hrules, once])
    _ = readArguments checkOptions (some addFile)
          { rules := some rules, allowUnexpected := flagIf (!unexpected) } _ :=
      readArguments_optionIf _ rfl rfl rfl (by cases unexpected <;> rfl)
    _ = readArguments checkOptions (some addFile)
          { rules := some rules, allowUnexpected := flagIf (!unexpected)
            allowMissing := flagIf (!missing) } _ :=
      readArguments_optionIf _ rfl rfl rfl (by cases missing <;> rfl)
    _ = readArguments checkOptions (some addFile)
          { rules := some rules, allowUnexpected := flagIf (!unexpected)
            allowMissing := flagIf (!missing), allowOutOfRange := flagIf (!outOfRange) } _ :=
      readArguments_optionIf _ rfl rfl rfl (by cases outOfRange <;> rfl)
    _ = readArguments checkOptions (some addFile)
          { rules := some rules, allowUnexpected := flagIf (!unexpected)
            allowMissing := flagIf (!missing), allowOutOfRange := flagIf (!outOfRange)
            summary := flagIf summary } _ :=
      readArguments_optionIf _ rfl rfl rfl (by cases summary <;> rfl)
    _ = readArguments checkOptions (some addFile)
          { rules := some rules, allowUnexpected := flagIf (!unexpected)
            allowMissing := flagIf (!missing), allowOutOfRange := flagIf (!outOfRange)
            summary := flagIf summary, color := some color } _ :=
      readArguments_attached (ofText_optionWith (by decide) _) rfl rfl (by cases color <;> rfl)
    _ = .ok (_, []) := readArguments_separator (foldlM_addFile hfiles _)

/-- There are arguments that ask for any check of files with names. -/
theorem readRequest_args (o : CheckOptions) (hrules : o.rules ≠ "")
    (hfiles : ∀ name ∈ o.files, name ≠ "") : readRequest o.args = .ok ⟨none, .check o⟩ := by
  have hcommand : readRequest o.args =
      readCommand checkOptions (fun d => .check d.check) {} o.args.tail := rfl
  rw [hcommand, readCommand, readArguments_args o hrules hfiles]
  simp only [check_draft]
  rfl

end MetricCheck.Cli
