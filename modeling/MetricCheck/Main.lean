-- The program itself: it gathers what surrounds the run, takes the time of each input,
-- and writes what the run comes to.
import MetricCheck.Cli.Duration
import MetricCheck.Cli.Run

namespace MetricCheck.Cli

/-- The number of a system error, which some calls report negated. -/
def errorNumber (code : UInt32) : UInt32 := min code (0 - code)

/-- Why a file could not be read, from the error of the system. -/
def inputError : IO.Error → InputError
  | .noFileOrDirectory _ _ _ => .notFound
  | .inappropriateType _ code _ => if errorNumber code = 21 then .isDirectory else .notDirectory
  | .invalidArgument file code message =>
    if errorNumber code = 36 then .nameTooLong
    else .other (toString (IO.Error.invalidArgument file code message))
  | e => .other (toString e)

def readFile (name : String) : IO (Except InputError ByteArray) := do
  try
    return .ok (← IO.FS.readBinFile name)
  catch e => return .error (inputError e)

/-- The rest of a stream. -/
partial def readRest (stream : IO.FS.Stream) (read : ByteArray) : IO ByteArray := do
  let more ← stream.read 65536
  if more.isEmpty then return read else readRest stream (read ++ more)

/-- The words of this program for the defects of a document. -/
def jsonWords (_ : List UInt8) : Json.Defect → String
  | .truncated => "unexpected end of document"
  | .malformed => "malformed document"
  | .mismatch cause => cause.message

/-- What a command needs of its surroundings. -/
def gather (command : Command) : IO Environment := do
  let files ← command.fileNames.mapM fun name => return (name, ← readFile name)
  let stdin ← IO.getStdin
  let output ← IO.getStdout
  return {
    file := fun name => (files.lookup name).getD (.error .notFound)
    stdin := ← if command.readsStdin then readRest stdin .empty else pure .empty
    logSpec := ← IO.getEnv "RUST_LOG"
    onTerminal := ← output.isTty
    jsonWords }

/-- The times of a check of which only the whole was measured. -/
def wholeTime (total : String) : Timings := ⟨total, "-", "-", "-"⟩

/-- Checks all inputs and takes the time of each. -/
def checkTimed (env : Environment) (o : CheckOptions) :
    IO ((List Event × Nat) × (Nat → Timings)) := do
  match loadRules env o.rules with
  | (said, none) => return ((said, 2), fun _ => wholeTime "-")
  | (said, some rules) =>
    let results ← (sources o.files).zipIdx.mapM fun (source, place) => do
      let begun ← IO.monoNanosNow
      let result ← IO.lazyPure fun _ => checkInput env o rules place source
      let ended ← IO.monoNanosNow
      return (result, durationText (ended - begun))
    let times := results.map Prod.snd
    return (conclude said (results.map Prod.fst), fun place => wholeTime (times.getD place "-"))

/-- Performs a request. -/
def performTimed (request : Request) : IO Outcome := do
  let env ← gather request.command
  match request.command with
  | .check o =>
    let (result, timings) ← checkTimed env o
    return request.outcome env timings result
  | .graphdef _ => return request.outcome env (fun _ => wholeTime "-") (request.command.perform env)

end MetricCheck.Cli

open MetricCheck.Cli in
def main (args : List String) : IO UInt32 := do
  let outcome ← match readRequest args with
    | .error why => pure why.outcome
    | .ok request => performTimed request
  IO.print outcome.stdout
  IO.eprint outcome.stderr
  return UInt32.ofNat outcome.code
