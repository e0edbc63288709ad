-- Sets of characters in brackets: characters, ranges, named sets and brackets within
-- brackets, and operations between them.
import MetricCheck.Log.Pattern.Escape

namespace MetricCheck.Log

open Text (CharSet)

/-- An operation between sets in brackets. -/
inductive SetOperation where
  | intersection
  | difference
  | symmetricDifference
deriving DecidableEq

def SetOperation.apply : SetOperation → CharSet → CharSet → CharSet
  | intersection => CharSet.inter
  | difference => CharSet.diff
  | symmetricDifference => CharSet.symmDiff

/-- Brackets that are open. -/
structure Bracket where
  /-- The pattern from the opening bracket on. -/
  start : List Char
  /-- The opening bracket with what belongs to it. -/
  opening : Piece
  negated : Bool
  /-- What stands before the last operation, and the operation. -/
  operand : Option (Part CharSet × SetOperation)
  /-- Where the members begin. -/
  membersStart : List Char
  /-- What has been read since, the last first. -/
  members : List (Part CharSet)

namespace Bracket

/-- The members since the last operation as a part. -/
def union (b : Bracket) : Part CharSet :=
  match b.members with
  | [] => .ofAtom b.membersStart b.membersStart (.ok .empty)
  | [member] => member
  | last :: members =>
    let first := (members.getLast?.getD last).piece
    .ofParts ⟨first.leftAtStart, last.piece.leftAtEnd⟩ (members.reverse ++ [last]) .unions

/-- What has been read so far as a part. -/
def value (f : PatternFlags) (b : Bracket) : Part CharSet :=
  match b.operand with
  | none => b.union
  | some (left, operation) =>
    .ofParts ⟨left.piece.leftAtStart, b.union.piece.leftAtEnd⟩ [left, b.union] fun sets =>
      match sets with
      | [s, t] => operation.apply (f.fold s) (f.fold t)
      | _ => .empty

/-- The brackets as a part, closed where something is left. -/
def close (f : PatternFlags) (b : Bracket) (rest : List Char) : Part CharSet :=
  let inner := b.value f
  let piece := Piece.between b.start rest
  ⟨piece, piece :: inner.levels, do
    let s ← inner.meaning
    (f.close b.negated s).mapError fun fault => .located fault [piece]⟩

def add (member : Part CharSet) (b : Bracket) : Bracket :=
  { b with members := member :: b.members }

/-- Goes on after an operation. -/
def operate (f : PatternFlags) (operation : SetOperation) (rest : List Char) (b : Bracket) :
    Bracket :=
  { b with operand := some (b.value f, operation), membersStart := rest, members := [] }

def unclosed {α : Type} (b : Bracket) : Except PatternError α :=
  .error (.located .classUnclosed [b.opening])

/-! ## Reading -/

/-- A character that stands for itself. -/
def verbatim (f : PatternFlags) (start : List Char) : Part CharSet :=
  .ofAtom start (start.drop 1) ((Atom.literal (start.headD ' ') false).set f)

/-- The dashes that stand for themselves behind an opening bracket. -/
def dashes (f : PatternFlags) : List Char → List (Part CharSet)
  | [] => []
  | '-' :: rest => verbatim f ('-' :: rest) :: dashes f (skipSpacing f.spaced rest)
  | _ => []
termination_by cs => cs.length
decreasing_by exact Nat.lt_succ_of_le (length_skipSpacing_le f.spaced rest)

/-- Opens brackets. A caret after the bracket negates them; dashes, or a closing
bracket, stand for themselves there. -/
def open? (f : PatternFlags) (start : List Char) : Except PatternError (Bracket × List Char) :=
  let inside := skipSpacing f.spaced (start.drop 1)
  let (negated, body) := match inside with
    | '^' :: rest => (true, skipSpacing f.spaced rest)
    | rest => (false, rest)
  let opened := fun (members : List (Part CharSet)) (rest : List Char) =>
    ((⟨start, .between start rest, negated, none, body, members⟩ : Bracket), rest)
  match body with
  | [] => fail .classUnclosed start []
  | '-' :: _ =>
    match (takeSpaced f.spaced (· == '-') body).2 with
    | [] => fail .classUnclosed start start
    | rest => .ok (opened (dashes f body).reverse rest)
  | ']' :: rest =>
    match skipSpacing f.spaced rest with
    | [] => fail .classUnclosed start []
    | rest => .ok (opened [verbatim f body] rest)
  | rest => .ok (opened [] rest)

/-- A set named between colons in brackets, from its bracket on. -/
def namedSet? (start : List Char) : Option (Atom × List Char) :=
  match start with
  | '[' :: ':' :: rest =>
    let (negated, name) := match rest with
      | '^' :: rest => (true, rest)
      | rest => (false, rest)
    match name.dropWhile (· != ':') with
    | ':' :: ']' :: after =>
      (asciiNamed? (String.ofList (name.takeWhile (· != ':')))).map fun s =>
        (.ascii s negated, after)
    | _ => none
  | _ => none

/-- A character or an escape. -/
def readAtom (spaced : Bool) (start : List Char) : Except PatternError (Atom × List Char) :=
  match start with
  | '\\' :: _ => readEscape spaced start
  | c :: rest => .ok (.literal c false, rest)
  | [] => fail .classUnclosed [] []

/-- An atom between two places as a member. Places in the text are no members. -/
def member (f : PatternFlags) (start stop : List Char) (atom : Atom) :
    Except PatternError (Part CharSet) :=
  match atom with
  | .place _ | .word _ => fail .classEscape start stop
  | atom => .ok (.ofAtom start stop (atom.set f))

/-- The character of an atom between two places, as a bound of a range. -/
def bound (start stop : List Char) : Atom → Except PatternError Char
  | .literal c _ => .ok c
  | _ => fail .classRangeBound start stop

/-- The character that counts behind a dash. A number sign is passed over where the
pattern is spaced out, but the comment that it begins is not. -/
def afterDash? (spaced : Bool) (rest : List Char) : Option Char :=
  if spaced then
    match rest.dropWhile Text.isBlank with
    | '#' :: comment => (comment.dropWhile Text.isBlank).head?
    | rest => rest.head?
  else rest.head?

/-- A range between two atoms as a member. What is wrong with a bound is wrong where
the bound stands. -/
def rangeMember (f : PatternFlags) (start afterFirst second rest : List Char)
    (first last : Atom) : Except PatternError (Part CharSet) := do
  let low ← bound start afterFirst first
  let high ← bound second rest last
  if high < low then fail .classRangeOrder start rest
  let ends : List (Part CharSet) :=
    [.ofAtom start afterFirst (first.set f), .ofAtom second rest (last.set f)]
  return ⟨.between start rest, [],
    (ends.mapM Part.meaning).map fun _ => .range low high⟩

/-- An atom, or a range between two. -/
def readMember (f : PatternFlags) (b : Bracket) (start : List Char) :
    Except PatternError (Part CharSet × List Char) := do
  let (first, afterFirst) ← readAtom f.spaced start
  match skipSpacing f.spaced afterFirst with
  | [] => b.unclosed
  | '-' :: afterDash =>
    if [some ']', some '-'].contains (afterDash? f.spaced afterDash) then
      return (← member f start afterFirst first, '-' :: afterDash)
    else
      match skipSpacing f.spaced afterDash with
      | [] => b.unclosed
      | second =>
        let (last, rest) ← readAtom f.spaced second
        return (← rangeMember f start afterFirst second rest first last, rest)
  | rest => return (← member f start afterFirst first, rest)

/-- Reads on in open brackets, the innermost first, until the outermost close. One
step for each character is enough. -/
def readFrom (f : PatternFlags) : (steps : Nat) → Bracket → (outer : List Bracket) →
    List Char → Except PatternError (Part CharSet × List Char)
  | 0, b, _, _ => b.unclosed
  | steps + 1, b, outer, cs =>
    match skipSpacing f.spaced cs with
    | [] => b.unclosed
    | '[' :: rest =>
      match namedSet? ('[' :: rest) with
      | some (atom, after) =>
        readFrom f steps (b.add (.ofAtom ('[' :: rest) after (atom.set f))) outer after
      | none => do
        let (inner, rest) ← open? f ('[' :: rest)
        readFrom f steps inner (b :: outer) rest
    | ']' :: rest =>
      match outer with
      | [] => .ok (b.close f rest, rest)
      | around :: outer => readFrom f steps (around.add (b.close f rest)) outer rest
    | '&' :: '&' :: rest => readFrom f steps (b.operate f .intersection rest) outer rest
    | '-' :: '-' :: rest => readFrom f steps (b.operate f .difference rest) outer rest
    | '~' :: '~' :: rest => readFrom f steps (b.operate f .symmetricDifference rest) outer rest
    | start => do
      let (member, rest) ← readMember f b start
      readFrom f steps (b.add member) outer rest

/-- A set in brackets, from its opening bracket on. -/
def read (f : PatternFlags) (start : List Char) :
    Except PatternError (Part CharSet × List Char) := do
  let (b, rest) ← open? f start
  readFrom f start.length b [] rest

end Bracket

end MetricCheck.Log
