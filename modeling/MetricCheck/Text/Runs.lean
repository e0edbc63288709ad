-- Shapes of text. A shape is a row of runs, each of one kind of characters, that make up a
-- text from its beginning to its end; some of them are groups, which are told apart when
-- the text is matched.
import MetricCheck.Text.Blank

namespace MetricCheck.Text

/-- A run of characters in a shape. -/
structure Run where
  /-- The characters that the run is made of. -/
  admits : Char → Bool
  /-- It has at least so many of them. -/
  least : Nat
  /-- It is one of the groups. -/
  isGroup : Bool

namespace Run

/-- Blanks, at least so many. -/
def blanks (least : Nat) : Run := ⟨isBlank, least, false⟩

/-- At least one character, and no blanks; a group. -/
def field : Run := ⟨fun c => !isBlank c, 1, true⟩

/-- The groups of a run with these characters. -/
def groups (r : Run) (run : List Char) : List (List Char) := if r.isGroup then [run] else []

/-- The lengths that the run can have at the beginning of a text, the greatest first. -/
def lengths (r : Run) (cs : List Char) : List Nat :=
  (List.range' r.least ((cs.takeWhile r.admits).length + 1 - r.least)).reverse

end Run

/-- The groups of a text that has a shape. Each run takes as many characters as it can, and
gives some of them back only where the runs after it find no place otherwise. -/
def captures : (shape : List Run) → List Char → Option (List (List Char))
  | [], cs => if cs.isEmpty then some [] else none
  | r :: later, cs =>
    (r.lengths cs).findSome? fun n =>
      (captures later (cs.drop n)).map fun groups => r.groups (cs.take n) ++ groups

end MetricCheck.Text
