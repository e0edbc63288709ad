-- Reading the flags of a group.
import MetricCheck.Log.Pattern.Part

namespace MetricCheck.Log.PatternFlags

/-- Sets the flag with a letter. One of the letters, which turns counts around, changes
nothing that shows. -/
def set? (f : PatternFlags) (letter : Char) (on : Bool) : Option PatternFlags :=
  match letter with
  | 'i' => some { f with anyCase := on }
  | 'm' => some { f with manyLines := on }
  | 's' => some { f with dotAll := on }
  | 'R' => some { f with returns := on }
  | 'x' => some { f with spaced := on }
  | 'u' => some { f with unicode := on }
  | 'U' => some f
  | _ => none

/-- Flags up to a colon or the closing parenthesis, which are left. Each flag, and the
dash that negates those after it, stands there once at most. -/
def read : (seen : List (Char × List Char)) → (on : Bool) → PatternFlags → List Char →
    Except PatternError (PatternFlags × List Char)
  | _, _, _, [] => fail .flagsEnd [] []
  | seen, on, f, c :: rest =>
    if c = ':' ∨ c = ')' then
      match seen with
      | ('-', dash) :: _ => fail .flagDangling dash (dash.drop 1)
      | _ => .ok (f, c :: rest)
    else
      match if c = '-' then some f else f.set? c on with
      | none => fail .flagUnknown (c :: rest) rest
      | some f =>
        match seen.find? (·.1 = c) with
        | some (_, earlier) =>
          .error (.located (if c = '-' then .flagNegatedTwice else .flagTwice)
            [.between earlier (earlier.drop 1), .between (c :: rest) rest])
        | none => read ((c, c :: rest) :: seen) (on && c != '-') f rest

/-! ## What the flags change -/

/-- The pattern of a dot. -/
def dot (f : PatternFlags) : Except PatternFault Pattern :=
  if f.unicode then
    let left := (if f.dotAll then [] else ['\n']) ++ if f.returns && !f.dotAll then ['\r'] else []
    .ok (.one (Text.CharSet.unions (left.map Text.CharSet.ofChar)).complement)
  else .error .invalidText

def lineStart (f : PatternFlags) : Pattern :=
  .border (if f.manyLines then Border.lineStart f.returns else Border.textStart)

def lineEnd (f : PatternFlags) : Pattern :=
  .border (if f.manyLines then Border.lineEnd f.returns else Border.textEnd)

end MetricCheck.Log.PatternFlags
