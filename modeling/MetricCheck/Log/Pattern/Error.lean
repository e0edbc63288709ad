-- What can be wrong with the text of a pattern, and the message that shows where.
import MetricCheck.Text.Split

namespace MetricCheck.Log

inductive PatternFault where
  | classEscape
  | classRangeOrder
  | classRangeBound
  | classUnclosed
  | decimalInvalid
  | hexEmpty
  | hexInvalid
  | hexDigit
  | escapeEnds
  | escapeUnknown
  | flagDangling
  | flagTwice
  | flagNegatedTwice
  | flagsEnd
  | flagUnknown
  | nameTwice
  | nameEmpty
  | nameCharacter
  | nameUnclosed
  | groupUnclosed
  | groupUnopened
  | countOrder
  | countEmpty
  | countUnclosed
  | nothingToRepeat
  | edgeUnclosed
  | edgeUnknown
  | edgeOrCountEnds
  | propertyEscape
  | propertyUnknown
  | propertyValueUnknown
  | unicodeNeeded
  | invalidText
  | tooNested
  | backreference
  | lookAround
deriving DecidableEq

def PatternFault.message : PatternFault → String
  | classEscape => "invalid escape sequence found in character class"
  | classRangeOrder => "invalid character class range, the start must be <= the end"
  | classRangeBound => "invalid range boundary, must be a literal"
  | classUnclosed => "unclosed character class"
  | decimalInvalid => "decimal literal invalid"
  | hexEmpty => "hexadecimal literal empty"
  | hexInvalid => "hexadecimal literal is not a Unicode scalar value"
  | hexDigit => "invalid hexadecimal digit"
  | escapeEnds => "incomplete escape sequence, reached end of pattern prematurely"
  | escapeUnknown => "unrecognized escape sequence"
  | flagDangling => "dangling flag negation operator"
  | flagTwice => "duplicate flag"
  | flagNegatedTwice => "flag negation operator repeated"
  | flagsEnd => "expected flag but got end of regex"
  | flagUnknown => "unrecognized flag"
  | nameTwice => "duplicate capture group name"
  | nameEmpty => "empty capture group name"
  | nameCharacter => "invalid capture group character"
  | nameUnclosed => "unclosed capture group name"
  | groupUnclosed => "unclosed group"
  | groupUnopened => "unopened group"
  | countOrder => "invalid repetition count range, the start must be <= the end"
  | countEmpty => "repetition quantifier expects a valid decimal"
  | countUnclosed => "unclosed counted repetition"
  | nothingToRepeat => "repetition operator missing expression"
  | edgeUnclosed =>
    "special word boundary assertion is either unclosed or contains an invalid character"
  | edgeUnknown =>
    "unrecognized special word boundary assertion, " ++
      "valid choices are: start, end, start-half or end-half"
  | edgeOrCountEnds =>
    "found either the beginning of a special word boundary or a bounded repetition " ++
      "on a \\b with an opening brace, but no closing brace"
  | propertyEscape => "invalid Unicode character class"
  | propertyUnknown => "Unicode property not found"
  | propertyValueUnknown => "Unicode property value not found"
  | unicodeNeeded => "Unicode not allowed here"
  | invalidText => "pattern can match invalid UTF-8"
  | tooNested => "exceed the maximum number of nested parentheses/brackets (250)"
  | backreference => "backreferences are not supported"
  | lookAround => "look-around, including look-ahead and look-behind, is not supported"

/-- A piece of a pattern: how many characters the pattern has left where the piece
begins, and how many where it ends. -/
structure Piece where
  leftAtStart : Nat
  leftAtEnd : Nat
deriving DecidableEq

/-- The piece between two places, each given by what is left there. -/
def Piece.between (start stop : List Char) : Piece := ⟨start.length, stop.length⟩

inductive PatternError where
  /-- Something is wrong in pieces of the pattern, which are in order. -/
  | located (fault : PatternFault) (pieces : List Piece)
  /-- A machine for the pattern would be too large. -/
  | tooLarge
deriving DecidableEq

/-- A fault in the piece between two places. -/
def fail {α : Type} (fault : PatternFault) (start stop : List Char) : Except PatternError α :=
  .error (.located fault [.between start stop])

/-! ## Pieces in lines -/

/-- A place in a text of lines, both counted from nought. -/
structure LinePlace where
  line : Nat
  column : Nat
deriving DecidableEq

/-- The place where a text has a number of characters left. -/
def linePlace (text : List Char) (left : Nat) : LinePlace :=
  let before := text.take (text.length - left)
  ⟨before.count '\n', (before.reverse.takeWhile (· != '\n')).length⟩

/-- A piece as the places where it begins and ends. -/
def Piece.places (text : List Char) (piece : Piece) : LinePlace × LinePlace :=
  (linePlace text piece.leftAtStart, linePlace text piece.leftAtEnd)

/-- The lines of a text without what ends them: a newline, perhaps after a carriage
return. -/
def linesOf (text : List Char) : List (List Char) :=
  let pieces := Text.lines text
  let ended := pieces.dropLast.map fun line =>
    if line.getLast? = some '\r' then line.dropLast else line
  ended ++ (pieces.getLast?.toList.filter fun line => !line.isEmpty)

/-- Carets under the columns of pieces, from a column on. A piece without characters
gets one too. -/
def carets : (column : Nat) → List (LinePlace × LinePlace) → String
  | _, [] => ""
  | column, (start, stop) :: rest =>
    let width := max 1 (stop.column - start.column)
    String.ofList (List.replicate (start.column - column) ' ' ++ List.replicate width '^') ++
      carets (max column start.column + width) rest

namespace PatternError

def spaces (count : Nat) : String := String.ofList (List.replicate count ' ')

/-- A line after a margin, and below it a line with carets if it holds pieces. -/
def markedLine (margin : String) (pieces : List (LinePlace × LinePlace)) (index : Nat)
    (line : List Char) : String :=
  let here := pieces.filter fun piece => piece.1.line = index && piece.2.line = index
  margin ++ String.ofList line ++ "\n" ++
    (if here.isEmpty then "" else spaces margin.length ++ carets 0 here ++ "\n")

/-- The numbers of lines, aligned on the right. -/
def numberMargin (width index : Nat) : String :=
  let number := toString (index + 1)
  spaces (width - number.length) ++ number ++ ": "

/-- Where a piece begins and ends that is in more than one line. -/
def spanNote (piece : LinePlace × LinePlace) : String :=
  "on line " ++ toString (piece.1.line + 1) ++ " (column " ++ toString (piece.1.column + 1) ++
    ") through line " ++ toString (piece.2.line + 1) ++ " (column " ++
    toString piece.2.column ++ ")"

/-- The pattern with its pieces marked. Lines are numbered if there are several. -/
def marked (text : List Char) (pieces : List Piece) : String :=
  let places := pieces.map (Piece.places text)
  let lines := linesOf text
  if text.contains '\n' then
    let rule := String.ofList (List.replicate 79 '~') ++ "\n"
    let width := (toString (text.count '\n' + 1)).length
    let long := places.filter fun piece => piece.1.line != piece.2.line
    rule ++
      String.join (lines.mapIdx fun index => markedLine (numberMargin width index) places index) ++
      rule ++
      (if long.isEmpty then "" else "\n".intercalate (long.map spanNote) ++ "\n")
  else String.join (lines.mapIdx (markedLine (spaces 4) places))

/-- The message on a pattern: what is wrong, below the pattern with its pieces. -/
def message (pattern : String) : PatternError → String
  | located fault pieces =>
    "regex parse error:\n" ++ marked pattern.toList pieces ++ "error: " ++ fault.message
  | tooLarge => "Compiled regex exceeds size limit of 10485760 bytes."

end PatternError

end MetricCheck.Log
