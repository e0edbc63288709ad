-- The sets of characters and the places that patterns name: by letters after a
-- backslash, by words in brackets and by the edges of words.
import MetricCheck.Log.Pattern.Basic
import MetricCheck.Text.Property.Find
import MetricCheck.Text.Blank

namespace MetricCheck.Log

open Text (CharSet)

/-! ## Sets -/

/-- The characters of ASCII ranges. -/
def asciiSet (rs : List (Char × Char)) : CharSet :=
  .ofRanges (rs.map fun r => (r.1.toNat, r.2.toNat))

/-- The set that a word between colons stands for, in brackets. -/
def asciiNamed? : String → Option CharSet
  | "alnum" => some (asciiSet [('0', '9'), ('A', 'Z'), ('a', 'z')])
  | "alpha" => some (asciiSet [('A', 'Z'), ('a', 'z')])
  | "ascii" => some (asciiSet [('\x00', '\x7f')])
  | "blank" => some (asciiSet [('\t', '\t'), (' ', ' ')])
  | "cntrl" => some (asciiSet [('\x00', '\x1f'), ('\x7f', '\x7f')])
  | "digit" => some (asciiSet [('0', '9')])
  | "graph" => some (asciiSet [('!', '~')])
  | "lower" => some (asciiSet [('a', 'z')])
  | "print" => some (asciiSet [(' ', '~')])
  | "punct" => some (asciiSet [('!', '/'), (':', '@'), ('[', '`'), ('{', '~')])
  | "space" => some (asciiSet [('\t', '\r'), (' ', ' ')])
  | "upper" => some (asciiSet [('A', 'Z')])
  | "word" => some (asciiSet [('0', '9'), ('A', 'Z'), ('_', '_'), ('a', 'z')])
  | "xdigit" => some (asciiSet [('0', '9'), ('A', 'F'), ('a', 'f')])
  | _ => none

/-- The kinds of characters that a letter after a backslash stands for. -/
inductive LetterSet where
  | digit
  | blank
  | word
deriving DecidableEq

namespace LetterSet

/-- The characters of a kind in ASCII. -/
def ascii : LetterSet → CharSet
  | digit => asciiSet [('0', '9')]
  | blank => asciiSet [('\t', '\r'), (' ', ' ')]
  | word => asciiSet [('0', '9'), ('A', 'Z'), ('_', '_'), ('a', 'z')]

/-- The characters that words are made of: letters and what goes with them, digits, low
lines and their like, and joiners. -/
def words : CharSet :=
  .unions (["Alphabetic", "M", "Nd", "Pc", "Join_Control"].map Text.namedSet)

/-- The characters of a kind. -/
def set : LetterSet → CharSet
  | digit => Text.namedSet "Nd"
  | blank => ⟨Text.blankRanges⟩
  | word => words

end LetterSet

/-! ## Places -/

namespace Border

def textStart : Border := fun before _ => before.isNone

def textEnd : Border := fun _ after => after.isNone

/-- The text or a line begins; where lines may also end with a carriage return, the
place between one and its newline is within the ending. -/
def lineStart (returns : Bool) : Border := fun before after =>
  match before with
  | none => true
  | some c => c = '\n' || (returns && c = '\r' && after ≠ some '\n')

/-- The text or a line ends. -/
def lineEnd (returns : Bool) : Border := fun before after =>
  match after with
  | none => true
  | some c =>
    (c = '\n' && !(returns && before = some '\r')) || (returns && c = '\r')

end Border

/-- The places that the edges of words make. -/
inductive WordBorder where
  | edge
  | noEdge
  | start
  | stop
  /-- No word before. -/
  | startHalf
  /-- No word after. -/
  | stopHalf
deriving DecidableEq

namespace WordBorder

/-- The places, given what words are made of. -/
def border (word : CharSet) (b : WordBorder) : Border := fun before after =>
  let inBefore := before.any word.contains
  let inAfter := after.any word.contains
  match b with
  | edge => inBefore != inAfter
  | noEdge => inBefore == inAfter
  | start => !inBefore && inAfter
  | stop => inBefore && !inAfter
  | startHalf => !inBefore
  | stopHalf => !inAfter

/-- The edges of words that a pattern names in braces. -/
def ofName? : String → Option WordBorder
  | "start" => some start
  | "end" => some stop
  | "start-half" => some startHalf
  | "end-half" => some stopHalf
  | _ => none

end WordBorder

end MetricCheck.Log
