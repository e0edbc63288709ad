-- A run of the program: from its arguments and surroundings to its output and its
-- exit code. Work and wording are apart: a command leaves events, and only then are
-- they written.
import MetricCheck.Cli.Args
import MetricCheck.Cli.Report
import MetricCheck.Input
import MetricCheck.Log.Trail

namespace MetricCheck.Cli

/-- What surrounds a run. -/
structure Environment where
  /-- The content of a file by its name. -/
  file : String → Except InputError ByteArray
  stdin : ByteArray
  /-- The log filter set from outside, if there is one. -/
  logSpec : Option String
  /-- Whether the standard output is a terminal. -/
  onTerminal : Bool
  /-- The words for what is wrong with a JSON document. -/
  jsonWords : Json.Wording

/-- The content of an input. -/
def Environment.content (env : Environment) : Source → Except InputError ByteArray
  | .file name => env.file name
  | .stdin => .ok env.stdin

/-- A log record of the program itself. -/
def note (message : String) : Event := .log ⟨.info, "metricrule", message⟩

/-! ## Checking -/

/-- Checks the input at a place among the inputs. The flag says whether it could be read and
nothing was found. -/
def checkInput (env : Environment) (o : CheckOptions) (rules : List Rule) (place : Nat)
    (source : Source) : List Event × Bool :=
  match (env.content source).mapError .input >>= readMetrics with
  | .error why => ([.failed source.name why], false)
  | .ok metrics =>
    let run := matchRules rules metrics
    let inspection := run.inspection o.kinds
    ([note ("checking " ++ toString metrics.length ++ " metrics from " ++ source.name)] ++
      (run.records o.kinds).map .log ++
      inspection.violations.map (.found source.name) ++
      (if o.summary then [.summary place source.name inspection] else []),
      inspection.violations.isEmpty)

/-- The rules of a file, if it has any, and what there is to say of it. -/
def loadRules (env : Environment) (name : String) : List Event × Option (List Rule) :=
  match env.file name >>= textOf with
  | .error e => ([.failed name (.input e)], none)
  | .ok text =>
    let reading := RuleReading.ofText text
    let records := reading.records.map .log
    match reading.rules with
    | .error e => (records ++ [.failed name (.rules e)], none)
    | .ok rules =>
      (records ++ [note ("loaded " ++ toString rules.length ++ " rules from " ++ name)],
        some rules)

/-- What the inputs came to, after what was said before them. -/
def conclude (said : List Event) (results : List (List Event × Bool)) : List Event × Nat :=
  (said ++ results.flatMap Prod.fst, if results.all Prod.snd then 0 else 1)

/-- Checks all inputs, each for itself. Without valid rules nothing is checked. -/
def checkInputs (env : Environment) (o : CheckOptions) : List Event × Nat :=
  match loadRules env o.rules with
  | (said, none) => (said, 2)
  | (said, some rules) => conclude said ((sources o.files).mapIdx (checkInput env o rules))

/-! ## Graph definitions -/

/-- The graph definitions of an input. A directory can be opened, so that it fails
only when its content is wanted. -/
def readDefs (env : Environment) (source : Source) : Except Failure GraphDefs :=
  match env.content source with
  | .error .isDirectory => .error (.graphsUnread .isDirectory)
  | .error e => .error (.input e)
  | .ok document => (readGraphDefs document).mapError (.graphs document.data.toList)

/-- Writes the rules of each input up to the first that fails. -/
def generateAll (env : Environment) : List Source → List Event × Nat
  | [] => ([], 0)
  | source :: more =>
    match readDefs env source with
    | .error why => ([.failed source.name why], 2)
    | .ok defs =>
      let (later, code) := generateAll env more
      (defs.records.map .log ++ [.rules (generateRules defs)] ++ later, code)

/-! ## Whole runs -/

/-- What a command has to say, and its exit code. -/
def Command.perform (env : Environment) : Command → List Event × Nat
  | .check options => checkInputs env options
  | .graphdef files => generateAll env (sources files)

/-- Whether a command colours its output. -/
def Command.colors (onTerminal : Bool) : Command → Bool
  | .check options => options.color.enabled onTerminal
  | .graphdef _ => false

/-- The output of a run. -/
structure Outcome where
  code : Nat
  stdout : String
  stderr : String
deriving DecidableEq

/-- The log filter of a run, and the warnings about it. One set from outside counts
more than the level that the arguments name. -/
def logFilter (env : Environment) (request : Request) : Log.Filter × List String :=
  match env.logSpec with
  | some text => Log.Filter.read text
  | none => (Log.Filter.ofLevel request.logLevel, [])

/-- Log records name their targets when the arguments ask for much detail. -/
def Request.logTargets (request : Request) : Bool :=
  request.logLevel = some .debug || request.logLevel = some .trace

/-- Writes the events that a request has led to, with the times of the inputs by place. -/
def Request.outcome (env : Environment) (timings : Nat → Timings) (request : Request)
    (result : List Event × Nat) : Outcome :=
  let colors := request.command.colors env.onTerminal
  let (filter, warnings) := logFilter env request
  { code := result.2
    stdout := String.join (result.1.map (Event.stdout colors timings))
    stderr := String.join
      (warnings ++
        result.1.map (Event.stderr colors env.jsonWords filter request.logTargets)) }

/-- A short account of the arguments. It is this library's own wording: nothing that is
proved of runs speaks of it. -/
def usageText : String :=
  "Usage: metricrule [--log-level LEVEL] COMMAND\n\n" ++
  "Commands:\n" ++
  "  check [OPTIONS] [FILE]...  Check metrics against the rules\n" ++
  "  graphdef [FILE]...         Generate rules from graph definitions\n\n" ++
  "Options of check:\n" ++
  "  -f, --rules FILE       Rule file [default: metricrules]\n" ++
  "  --allow-unexpected     Do not report metrics that no rule covers\n" ++
  "  --allow-missing        Do not report required rules that matched nothing\n" ++
  "  --allow-out-of-range   Do not report values that their rules reject\n" ++
  "  --summary              Print counts and times for each input\n" ++
  "  --color WHEN           auto, always or never\n\n" ++
  "LEVEL is none, error, warn, info, debug or trace.\n"

/-- The output where there is no command to perform. Codes and streams are the program's, the
words of the usage and the help are this library's own. -/
def Stop.outcome : Stop → Outcome
  | .usage => ⟨2, "", "error: the arguments make no command\n\n" ++ usageText⟩
  | .help => ⟨0, usageText, ""⟩
  | .version => ⟨0, "metricrule 0.1.0\n", ""⟩

/-- A whole run. Each input has the times that its check takes, by its place. -/
def run (env : Environment) (timings : Nat → Timings) (args : List String) : Outcome :=
  match readRequest args with
  | .error why => why.outcome
  | .ok request => request.outcome env timings (request.command.perform env)

end MetricCheck.Cli
