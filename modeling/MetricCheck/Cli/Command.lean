-- What the command line can ask for.
import MetricCheck.Log.Record
import MetricCheck.Violation

namespace MetricCheck.Cli

/-- When output is coloured; `auto` means on a terminal. -/
inductive ColorChoice where
  | auto
  | always
  | never
deriving DecidableEq

/-- Whether to colour, on a terminal or not. -/
def ColorChoice.enabled (choice : ColorChoice) (onTerminal : Bool) : Bool :=
  match choice with
  | .auto => onTerminal
  | .always => true
  | .never => false

/-- An input: a named file, or the standard input. -/
inductive Source where
  | file (name : String)
  | stdin
deriving DecidableEq

/-- The name of an input in the output. -/
def Source.name : Source → String
  | .file name => name
  | .stdin => "<stdin>"

/-- The named files, or the standard input when there are none. -/
def sources (files : List String) : List Source :=
  if files.isEmpty then [.stdin] else files.map .file

/-- Checks metric inputs against the rules of a file. -/
structure CheckOptions where
  rules : String
  files : List String
  /-- The kinds of violations to report. -/
  kinds : ViolationKinds
  summary : Bool
  color : ColorChoice

inductive Command where
  | check (options : CheckOptions)
  /-- Writes the rules that graph definitions stand for. -/
  | graphdef (files : List String)

/-- The files that a command may read. -/
def Command.fileNames : Command → List String
  | .check options => options.rules :: options.files
  | .graphdef files => files

/-- Whether a command reads the standard input. -/
def Command.readsStdin : Command → Bool
  | .check options => options.files.isEmpty
  | .graphdef files => files.isEmpty

/-- A command, and the level up to which log records are shown. -/
structure Request where
  logLevel : Option Log.Level
  command : Command

end MetricCheck.Cli
