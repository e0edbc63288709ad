-- Reading the command line. Options have a long name and perhaps a letter; the
-- value of one follows an equals sign, the letter, or stands in the next argument.
-- Each may be given once. After two dashes alone every argument is a file.
import MetricCheck.Cli.Command

namespace MetricCheck.Cli

/-- Why reading ends without a command. -/
inductive Stop where
  /-- The arguments make no command. -/
  | usage
  | help
  | version
deriving DecidableEq

inductive Argument where
  /-- Two dashes alone. -/
  | separator
  | long (name : String) (value : Option String)
  | short (letter : Char) (attached : String)
  /-- Anything that begins with no dash, and a dash alone. -/
  | plain (text : String)
deriving DecidableEq

def Argument.ofText (text : String) : Argument :=
  match text.toList with
  | ['-', '-'] => .separator
  | '-' :: '-' :: r =>
    let name := r.takeWhile (· != '=')
    .long (String.ofList name)
      (if name.length = r.length then none else some (String.ofList (r.drop (name.length + 1))))
  | '-' :: letter :: r => .short letter (String.ofList r)
  | _ => .plain text

/-- What an option does to the state of reading; `none` refuses it. -/
inductive Action (σ : Type) where
  | flag (set : σ → Option σ)
  | value (set : String → σ → Option σ)
  | stop (why : Stop)

structure Opt (σ : Type) where
  long : String
  letter : Option Char
  action : Action σ

/-- The value attached to a letter, an equals sign before it not counting. -/
def attachedValue (attached : String) : Option String :=
  match attached.toList with
  | [] => none
  | '=' :: r => some (String.ofList r)
  | r => some (String.ofList r)

/-- An option of these names, with the value that is attached to it. What follows the
letter of one that ends the reading is not read. -/
def findOption (options : List (Opt σ)) : Argument → Option (Opt σ × Option String)
  | .long name value => (options.find? fun o => o.long = name).map fun o => (o, value)
  | .short letter attached =>
    (options.find? fun o => o.letter = some letter).map fun o =>
      match o.action with
      | .stop _ => (o, none)
      | _ => (o, attachedValue attached)
  | _ => none

/-- May stand alone as the value of an option. -/
def isValue (text : String) : Bool :=
  match Argument.ofText text with
  | .plain _ => true
  | _ => false

/-- Reads arguments into a state. A plain argument goes to `plain`; without one,
reading ends before the first. The result has the arguments that are left. -/
def readArguments {σ : Type} (options : List (Opt σ)) (plain : Option (String → σ → Option σ))
    (state : σ) : List String → Except Stop (σ × List String)
  | [] => .ok (state, [])
  | arg :: rest =>
    match Argument.ofText arg, plain with
    | .plain _, none | .separator, none => .ok (state, arg :: rest)
    | .plain text, some add =>
      match add text state with
      | none => .error .usage
      | some state => readArguments options plain state rest
    | .separator, some add =>
      match rest.foldlM (fun state text => add text state) state with
      | none => .error .usage
      | some state => .ok (state, [])
    | argument, _ =>
      match findOption options argument with
      | none => .error .usage
      | some (option, attached) =>
        match option.action, attached, rest with
        | .stop why, none, _ => .error why
        | .stop _, some _, _ => .error .usage
        | .flag set, none, rest =>
          match set state with
          | none => .error .usage
          | some state => readArguments options plain state rest
        | .flag _, some _, _ => .error .usage
        | .value set, some value, rest =>
          match set value state with
          | none => .error .usage
          | some state => readArguments options plain state rest
        | .value _, none, [] => .error .usage
        | .value set, none, value :: rest =>
          if isValue value then
            match set value state with
            | none => .error .usage
            | some state => readArguments options plain state rest
          else .error .usage

/-! ## Values -/

/-- Sets what has not been set before. -/
def once {α : Type} (old : Option α) (new : α) : Option (Option α) :=
  match old with
  | none => some (some new)
  | some _ => none

/-- A file name is not empty. -/
def fileName? (text : String) : Option String := if text.isEmpty then none else some text

/-- A level, or `none` for no records at all. -/
def logLevel? : String → Option (Option Log.Level)
  | "none" => some none
  | "error" => some (some .error)
  | "warn" => some (some .warn)
  | "info" => some (some .info)
  | "debug" => some (some .debug)
  | "trace" => some (some .trace)
  | _ => none

def colorChoice? : String → Option ColorChoice
  | "auto" => some .auto
  | "always" => some .always
  | "never" => some .never
  | _ => none

/-! ## Commands -/

/-- What has been given so far; each command uses its part of it. -/
structure Draft where
  logLevel : Option (Option Log.Level) := none
  rules : Option String := none
  files : List String := []
  allowUnexpected : Option Unit := none
  allowMissing : Option Unit := none
  allowOutOfRange : Option Unit := none
  summary : Option Unit := none
  color : Option ColorChoice := none

/-- The options that stand before the command's name and after it. -/
def commonOptions : List (Opt Draft) :=
  [⟨"log-level", none, .value fun text d => do
      return { d with logLevel := ← once d.logLevel (← logLevel? text) }⟩,
    ⟨"help", some 'h', .stop .help⟩]

def checkOptions : List (Opt Draft) :=
  commonOptions ++
  [⟨"rules", some 'f', .value fun text d => do
      return { d with rules := ← once d.rules (← fileName? text) }⟩,
    ⟨"allow-unexpected", none, .flag fun d => do
      return { d with allowUnexpected := ← once d.allowUnexpected () }⟩,
    ⟨"allow-missing", none, .flag fun d => do
      return { d with allowMissing := ← once d.allowMissing () }⟩,
    ⟨"allow-out-of-range", none, .flag fun d => do
      return { d with allowOutOfRange := ← once d.allowOutOfRange () }⟩,
    ⟨"summary", none, .flag fun d => do
      return { d with summary := ← once d.summary () }⟩,
    ⟨"color", none, .value fun text d => do
      return { d with color := ← once d.color (← colorChoice? text) }⟩]

/-- Adds a file to those given. -/
def addFile (text : String) (d : Draft) : Option Draft := do
  return { d with files := d.files ++ [← fileName? text] }

/-- The check that a draft asks for. The rules are in `metricrules` unless another
file is named. -/
def Draft.check (d : Draft) : CheckOptions where
  rules := d.rules.getD "metricrules"
  files := d.files
  kinds := ⟨d.allowOutOfRange.isNone, d.allowMissing.isNone, d.allowUnexpected.isNone⟩
  summary := d.summary.isSome
  color := d.color.getD .auto

/-- Reads the arguments of a command. A log level after the command's name counts
more than one before it. -/
def readCommand (options : List (Opt Draft)) (command : Draft → Command)
    (before : Draft) (args : List String) : Except Stop Request :=
  match readArguments options (some addFile) {} args with
  | .error why => .error why
  | .ok (draft, _) => .ok ⟨(draft.logLevel.or before.logLevel).getD none, command draft⟩

/-- The commands that help can be asked for; one of them at most. -/
def helpTopics : List (List String) := [[], ["check"], ["graphdef"], ["help"]]

/-- What the arguments of the program ask for. -/
def readRequest (args : List String) : Except Stop Request :=
  match readArguments (⟨"version", some 'V', .stop .version⟩ :: commonOptions) none {} args with
  | .error why => .error why
  | .ok (draft, "check" :: rest) =>
    readCommand checkOptions (fun d => .check d.check) draft rest
  | .ok (draft, "graphdef" :: rest) =>
    readCommand commonOptions (fun d => .graphdef d.files) draft rest
  | .ok (_, "help" :: topics) => .error (if helpTopics.contains topics then .help else .usage)
  | .ok _ => .error .usage

end MetricCheck.Cli
