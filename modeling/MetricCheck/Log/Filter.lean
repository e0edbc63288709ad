-- Which log records are shown. A filter is a list of directives, each with a
-- level and perhaps a target; for a record, the directive with the longest target
-- that the record's target begins with decides. A pattern may select the messages.
import MetricCheck.Log.Pattern.Read
import MetricCheck.Log.Record
import MetricCheck.Text.Split

namespace MetricCheck.Log

open Text

/-- Shows records up to a level, or none; for one target and those that begin with
it, or for all. -/
structure Directive where
  target : Option String
  level : Option Level
deriving DecidableEq

namespace Directive

/-- The length of the target in bytes. -/
def specificity (d : Directive) : Nat := (d.target.getD "").utf8ByteSize

def covers (d : Directive) (target : String) : Bool :=
  (d.target.getD "").toList.isPrefixOf target.toList

def shows (d : Directive) (level : Level) : Bool :=
  d.level.any fun most => level.verbosity ≤ most.verbosity

end Directive

/-- Directives, less specific ones first, and perhaps a pattern. -/
structure Filter where
  directives : List Directive
  /-- What must occur in a message. -/
  pattern : Option Pattern := none

namespace Filter

/-- The directives show records of a target up to a level that is not below this one.
Of equally specific directives the last decides. -/
def admits (f : Filter) (target : String) (level : Level) : Bool :=
  match f.directives.reverse.find? fun d => d.covers target with
  | some d => d.shows level
  | none => false

/-- Shows a record. -/
def shows (f : Filter) (r : Record) : Bool :=
  f.admits r.target r.level && f.pattern.all fun p => p.occursIn r.message

/-- Shows records of every target up to a level. -/
def ofLevel (level : Option Level) : Filter where
  directives := [⟨none, level⟩]

/-- Adds a directive; one with the same target is replaced at its place. -/
def add (directives : List Directive) (d : Directive) : List Directive :=
  if directives.any fun old => old.target = d.target then
    directives.map fun old => if old.target = d.target then d else old
  else directives ++ [d]

/-- The filter of directives in order. Without any, only errors are shown. -/
def ofDirectives (directives : List Directive) : Filter :=
  match directives.foldl add [] with
  | [] => ofLevel (some .error)
  | known => { directives := known.mergeSort fun a b => a.specificity ≤ b.specificity }

/-! ## Reading -/

/-- A level by its name in any letter case; `off` shows nothing. -/
def readLevel? (cs : List Char) : Option (Option Level) :=
  match String.ofList (cs.map Char.toUpper) with
  | "OFF" => some none
  | "ERROR" => some (some .error)
  | "WARN" => some (some .warn)
  | "INFO" => some (some .info)
  | "DEBUG" => some (some .debug)
  | "TRACE" => some (some .trace)
  | _ => none

/-- A directive: a level for all targets, a target with all levels, or a target
and a level with an equals sign between them. Blanks beside the sign belong to the
target, not to the level. The error is the text at fault. -/
def readDirective (cs : List Char) : Except (List Char) Directive :=
  match splitBy (· == '=') cs with
  | [word] =>
    match readLevel? (trim word) with
    | some level => .ok ⟨none, level⟩
    | none => .ok ⟨some (String.ofList word), some .trace⟩
  | [target, word] =>
    if (trim word).isEmpty then .ok ⟨some (String.ofList target), some .trace⟩
    else
      match readLevel? (trim word) with
      | some level => .ok ⟨some (String.ofList target), level⟩
      | none => .error (trim word)
  | _ => .error cs

/-- The directives that commas separate, and the texts at fault in others. -/
def readDirectives (cs : List Char) : List Directive × List (List Char) :=
  let pieces := ((splitBy (· == ',') cs).map trim).filter fun piece => !piece.isEmpty
  let results := pieces.map readDirective
  (results.filterMap Except.toOption,
    results.filterMap fun result =>
      match result with
      | .error fault => some fault
      | .ok _ => none)

/-- A warning about something that is left out. -/
def warning (fault : String) : String := "warning: " ++ fault ++ ", ignoring it\n"

/-- A warning about a part of the text of a filter. -/
def specWarning (spec : List Char) (reason : String) : String :=
  warning ("invalid logging spec '" ++ String.ofList spec ++ "'" ++ reason)

/-- The filter of a text, and the warnings about what cannot be read in it: directives,
and perhaps a slash and a pattern. -/
def read (text : String) : Filter × List String :=
  match splitBy (· == '/') text.toList with
  | [specs] =>
    let (directives, faults) := readDirectives specs
    (ofDirectives directives, faults.map (specWarning · ""))
  | [specs, pattern] =>
    let (directives, faults) := readDirectives specs
    let warnings := faults.map (specWarning · "")
    match Pattern.read (String.ofList pattern) with
    | .ok p => ({ ofDirectives directives with pattern := some p }, warnings)
    | .error e => (ofDirectives directives, warnings ++
      [warning ("invalid regex filter - " ++ e.message (String.ofList pattern))])
  | _ => (ofDirectives [], [specWarning text.toList " (too many '/'s)"])

end Filter

end MetricCheck.Log
