-- Reading patterns: sequences and alternatives in groups, repetitions, and flags that
-- hold to the end of their group.
import MetricCheck.Log.Pattern.Bracket
import MetricCheck.Log.Pattern.Count
import MetricCheck.Log.Pattern.Extent
import MetricCheck.Log.Pattern.Flags

namespace MetricCheck.Log

/-! ## Groups -/

/-- What has been read of a group. The last item and the last branch come first. An
item that only sets flags is none. -/
structure PatternGroup where
  /-- The pattern from the opening parenthesis on. -/
  start : List Char
  /-- A match of the group can be told from the rest. -/
  kept : Bool
  flags : PatternFlags
  /-- Where the first branch begins. -/
  body : List Char
  branches : List (Part Pattern)
  /-- Where the items begin. -/
  itemsStart : List Char
  items : List (Option (Part Pattern))

namespace PatternGroup

/-- A group that begins. -/
def begin (start : List Char) (kept : Bool) (flags : PatternFlags) (body : List Char) :
    PatternGroup := ⟨start, kept, flags, body, [], body, []⟩

/-- The items as a part that ends where something is left. -/
def branch (g : PatternGroup) (rest : List Char) : Part Pattern :=
  match g.items with
  | [] | [none] => .ofAtom g.itemsStart rest (.ok .empty)
  | [some item] => item
  | items =>
    .ofParts (.between g.itemsStart rest) (items.reverse.filterMap id) Pattern.sequence

/-- The branches as a part. -/
def alternatives (g : PatternGroup) (rest : List Char) : Part Pattern :=
  match g.branches with
  | [] => g.branch rest
  | branches =>
    .ofParts (.between g.body rest) (branches.reverse ++ [g.branch rest]) fun ps =>
      match ps with
      | [] => .empty
      | p :: more => .choice p more

/-- The group as a part, closed by a parenthesis. -/
def close (g : PatternGroup) (parenthesis : List Char) : Part Pattern :=
  let inner := g.alternatives parenthesis
  let piece := Piece.between g.start (parenthesis.drop 1)
  ⟨piece, piece :: inner.levels, inner.meaning.map fun p => if g.kept then .group p else p⟩

def add (part : Part Pattern) (g : PatternGroup) : PatternGroup :=
  { g with items := some part :: g.items }

def nextBranch (bar : List Char) (g : PatternGroup) : PatternGroup :=
  { g with
    branches := g.branch bar :: g.branches
    itemsStart := bar.drop 1
    items := [] }

/-- Repeats the last item. The mark of the repetition is between two places. -/
def repeatLast (start stop : List Char) (least : Nat) (greatest : Option Nat)
    (g : PatternGroup) : Except PatternError PatternGroup :=
  match g.items with
  | some item :: items =>
    let piece : Piece := ⟨item.piece.leftAtStart, stop.length⟩
    let part : Part Pattern :=
      ⟨piece, piece :: item.levels, item.meaning.map fun p => p.times least greatest⟩
    .ok { g with items := some part :: items }
  | _ => fail .nothingToRepeat start start

end PatternGroup

/-- A pattern under way: the innermost group, those around it, and the names given to
groups with the pieces they stand in. -/
structure PatternDraft where
  group : PatternGroup
  outer : List PatternGroup
  names : List (List Char × Piece)

namespace PatternDraft

/-- Begins a group. -/
def openGroup (d : PatternDraft) (group : PatternGroup) : PatternDraft :=
  { d with group, outer := d.group :: d.outer }

/-- Ends a group. Its flags end with it. -/
def closeGroup (d : PatternDraft) (start : List Char) : Except PatternError PatternDraft :=
  match d.outer with
  | [] => fail .groupUnopened start (start.drop 1)
  | around :: outer => .ok { d with group := around.add (d.group.close start), outer }

/-- May stand in the name of a group: letters and low lines, and behind the first of
them digits, other numbers, dots and brackets. -/
def isNameChar (first : Bool) (c : Char) : Bool :=
  c = '_' || (Text.namedSet "Alphabetic").contains c ||
    (!first && ((Text.namedSet "N").contains c || c = '.' || c = '[' || c = ']'))

/-- The name of a group, up to an angle bracket. -/
def readName (d : PatternDraft) (start : List Char) : Except PatternError (List Char × List Char) :=
  let name := start.takeWhile (· != '>')
  let stop := start.dropWhile (· != '>')
  match name.zipIdx.find? fun (c, i) => !isNameChar (i == 0) c with
  | some (_, i) => fail .nameCharacter (start.drop i) (start.drop (i + 1))
  | none =>
    if stop.isEmpty then fail .nameUnclosed [] []
    else if name.isEmpty then fail .nameEmpty start start
    else
      match d.names.find? (·.1 = name) with
      | some (_, earlier) => .error (.located .nameTwice [earlier, .between start stop])
      | none => .ok (name, stop.drop 1)

/-- What may follow the parenthesis of a group that looks around. -/
def afterLookAround? : List Char → Option (List Char)
  | '?' :: '=' :: rest | '?' :: '!' :: rest => some rest
  | '?' :: '<' :: '=' :: rest | '?' :: '<' :: '!' :: rest => some rest
  | _ => none

/-- What a parenthesis begins: a group, perhaps with a name or flags, or flags for the
rest of the group around. -/
def readOpening (d : PatternDraft) (start : List Char) :
    Except PatternError (PatternDraft × List Char) :=
  let flags := d.group.flags
  let inside := skipSpacing flags.spaced (start.drop 1)
  let named := fun (nameStart : List Char) => do
    let (name, rest) ← d.readName nameStart
    let piece : Piece := ⟨nameStart.length, nameStart.length - name.length⟩
    return ({ d.openGroup (.begin start true flags rest) with names := (name, piece) :: d.names },
      rest)
  match afterLookAround? inside with
  | some rest => fail .lookAround start rest
  | none =>
    match inside with
    | '?' :: 'P' :: '<' :: rest => named rest
    | '?' :: '<' :: rest => named rest
    | ['?'] => fail .groupUnclosed start (start.drop 1)
    | '?' :: ')' :: _ => fail .nothingToRepeat inside inside
    | '?' :: rest => do
      let (inner, rest) ← flags.read [] true rest
      match rest with
      | ')' :: rest =>
        return ({ d with group := { d.group with
          flags := inner, items := none :: d.group.items } }, rest)
      | rest => return (d.openGroup (.begin start false inner (rest.drop 1)), rest.drop 1)
    | rest => .ok (d.openGroup (.begin start true flags rest), rest)

/-- Takes what follows in a pattern: a parenthesis, a bar, brackets, a repetition or an
atom. -/
def step (d : PatternDraft) (start : List Char) : Except PatternError (PatternDraft × List Char) :=
  let flags := d.group.flags
  let repeated := fun (least : Nat) (greatest : Option Nat) (rest : List Char) =>
    (d.group.repeatLast start rest least greatest).map fun g => ({ d with group := g }, rest)
  let afterMark := fun (rest : List Char) => match rest with
    | '?' :: rest => rest
    | rest => rest
  let plus := fun (rest : List Char) (meaning : Except PatternFault Pattern) =>
    ({ d with group := d.group.add (.ofAtom start rest meaning) }, rest)
  match start with
  | [] => .ok (d, [])
  | '(' :: _ => d.readOpening start
  | ')' :: rest => (d.closeGroup start).map fun d => (d, rest)
  | '|' :: rest => .ok ({ d with group := d.group.nextBranch start }, rest)
  | '[' :: _ =>
    (Bracket.read flags start).map fun (part, rest) =>
      ({ d with group := d.group.add { part with meaning := part.meaning.map Pattern.one } }, rest)
  | '?' :: rest => repeated 0 (some 1) (afterMark rest)
  | '*' :: rest => repeated 0 none (afterMark rest)
  | '+' :: rest => repeated 1 none (afterMark rest)
  | '\x7b' :: _ => do
    let _ ← d.group.repeatLast start start 0 none
    let ((least, greatest), rest) ← readCounts flags.spaced start
    repeated least greatest rest
  | '.' :: rest => .ok (plus rest flags.dot)
  | '^' :: rest => .ok (plus rest (.ok flags.lineStart))
  | '$' :: rest => .ok (plus rest (.ok flags.lineEnd))
  | '\\' :: _ =>
    (readEscape flags.spaced start).map fun (atom, rest) => plus rest (atom.pattern flags)
  | c :: rest => .ok (plus rest ((Atom.literal c false).pattern flags))

/-- Takes steps to the end of a pattern. One for each character is enough. -/
def readFrom : (steps : Nat) → PatternDraft → List Char → Except PatternError PatternDraft
  | 0, d, _ => .ok d
  | steps + 1, d, cs =>
    match skipSpacing d.group.flags.spaced cs with
    | [] => .ok d
    | start =>
      match d.step start with
      | .error e => .error e
      | .ok (d, rest) => readFrom steps d rest

end PatternDraft

/-- The deepest nesting of parts within parts. -/
def deepestNesting : Nat := 250

/-- The pattern of a text. What is wrong with the form of the text counts before the
nesting, and that before what the parts mean. -/
def Pattern.read (text : String) : Except PatternError Pattern := do
  let cs := text.toList
  let d ← PatternDraft.readFrom cs.length ⟨.begin [] false {} cs, [], []⟩ cs
  if !d.outer.isEmpty then fail .groupUnclosed d.group.start (d.group.start.drop 1)
  let whole := d.group.alternatives []
  if let some piece := whole.levels[deepestNesting]? then
    .error (.located .tooNested [piece])
  let p ← whole.meaning
  if p.fits then return p else .error .tooLarge

end MetricCheck.Log
