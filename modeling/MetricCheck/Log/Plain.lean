-- Plain text: what a terminal would show of a text that may hold control sequences.
-- Log lines are written plain, so that no rule or metric can steer a terminal through
-- the log.
namespace MetricCheck.Log

/-- How far a control sequence has got. -/
inductive Sequence where
  /-- No sequence is under way. -/
  | outside
  /-- After the escape character. -/
  | escape
  /-- After the escape character and characters that announce another. -/
  | announced
  /-- In a sequence that began with an opening bracket. -/
  | command
  /-- At the beginning of a device control string. -/
  | deviceStart
  /-- In its parameters. -/
  | deviceParameter
  /-- After its parameters. -/
  | deviceEnd
  /-- In a string that a terminal keeps to itself. -/
  | string
  /-- In a string for the system around the terminal. -/
  | system
deriving DecidableEq

namespace Sequence

def isBetween (c : Char) (first last : Nat) : Bool := first ≤ c.toNat && c.toNat ≤ last

/-- The controls that only move to another place of the text. -/
def isSpacing (c : Char) : Bool := c = '\t' || c = '\n' || c = '\x0c' || c = '\r'

/-- Is shown outside sequences. -/
def isShown (c : Char) : Bool :=
  isBetween c 0x20 0x7e || isSpacing c || 0x80 ≤ c.toNat

/-- A byte of the character in UTF-8 is the single byte that ends strings. -/
def holdsStringEnd (c : Char) : Bool :=
  (String.singleton c).toUTF8.toList.contains 0x9c

/-- Where a character leads that is not shown outside sequences, or that is within one. -/
def next (s : Sequence) (c : Char) : Sequence :=
  if c = '\x18' ∨ c = '\x1a' then outside
  else if c = '\x1b' then escape
  else
    match s with
    | outside => outside
    | escape =>
      if isBetween c 0x20 0x2f then announced
      else if c = '[' then command
      else if c = ']' then system
      else if c = 'P' then deviceStart
      else if c = 'X' ∨ c = '^' ∨ c = '_' then string
      else if isBetween c 0x30 0x7e then outside
      else escape
    | announced => if isBetween c 0x30 0x7e then outside else announced
    | command => if isBetween c 0x40 0x7e then outside else command
    | deviceStart =>
      if isBetween c 0x20 0x2f then deviceEnd
      else if isBetween c 0x30 0x3f then deviceParameter
      else if isBetween c 0x40 0x7e then string
      else deviceStart
    | deviceParameter =>
      if isBetween c 0x20 0x2f then deviceEnd
      else if isBetween c 0x3c 0x7e then string
      else deviceParameter
    | deviceEnd => if isBetween c 0x30 0x7e then string else deviceEnd
    | string => if holdsStringEnd c then outside else string
    | system => if c = '\x07' then outside else system

/-- Is shown within a sequence. Strings show nothing. -/
def shows (s : Sequence) (c : Char) : Bool :=
  match s with
  | outside => isShown c
  | escape | announced | command => isSpacing c
  | _ => false

end Sequence

/-- The characters of a text that are shown. Spacing within a sequence is shown, and
so is then all that follows as if no sequence were under way, up to a control. There
the sequence goes on, unless a character beyond ASCII was shown. -/
def shownFrom : Sequence → (showing : Bool) → List Char → List Char
  | _, _, [] => []
  | s, showing, c :: cs =>
    if showing && Sequence.isShown c || s.shows c then
      c :: shownFrom (if 0x80 ≤ c.toNat then .outside else s) true cs
    else shownFrom (s.next c) false cs

example : shownFrom .outside false "a\x1b[31mb\x01\n".toList = "ab\n".toList := by decide

/-- A text without control sequences and without most controls. -/
def plain (text : String) : String :=
  String.ofList (shownFrom .outside false text.toList)

end MetricCheck.Log
