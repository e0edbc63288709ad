-- Patterns that select log messages: regular expressions. What a pattern means is
-- where its matches can end, given the places where they may begin.
import MetricCheck.Text.CharSet

namespace MetricCheck.Log

open Text (CharSet)

/-- A condition on a place in a text: on the characters before and after it, where
there are any. -/
abbrev Border := Option Char → Option Char → Bool

inductive Pattern where
  /-- No character. -/
  | empty
  /-- One character of a set. -/
  | one (set : CharSet)
  /-- No character, at a place that meets a condition. -/
  | border (holds : Border)
  /-- One pattern and then the other. -/
  | both (first second : Pattern)
  | either (left right : Pattern)
  /-- At least `least` times, then up to `more` times again, or any number of times. -/
  | repeated (p : Pattern) (least : Nat) (more : Option Nat)
  /-- A part that can be told from the rest of a match. -/
  | group (p : Pattern)

namespace Pattern

/-! ## Matches -/

/-- The characters before and after each place of a text, from the place before the
first character to the one after the last. -/
def borders (text : List Char) : List (Option Char × Option Char) :=
  (none :: text.map some).zip (text.map some ++ [none])

/-- Takes a step a number of times, as long as it leads anywhere. -/
def steps (step : List Bool → List Bool) : Nat → List Bool → List Bool
  | 0, marks => marks
  | count + 1, marks => if marks.contains true then steps step count (step marks) else marks

/-- Marks all that up to a number of steps lead to from the places marked last. -/
def spread (step : List Bool → List Bool) : Nat → (marks last : List Bool) → List Bool
  | 0, marks, _ => marks
  | count + 1, marks, last =>
    let new := List.zipWith (fun reached marked => reached && !marked) (step last) marks
    if new.contains true then spread step count (List.zipWith (· || ·) marks new) new else marks

/-- The places where a match can end that begins at a marked place. `marks` has an
entry for each place of the text. A match never goes back, so that steps beyond
the number of places change nothing. -/
def ends (text : List Char) : Pattern → List Bool → List Bool
  | empty, marks => marks
  | one set, marks => false :: List.zipWith (fun marked c => marked && set.contains c) marks text
  | border holds, marks =>
    List.zipWith (fun marked place => marked && holds place.1 place.2) marks (borders text)
  | both first second, marks => ends text second (ends text first marks)
  | either left right, marks =>
    List.zipWith (· || ·) (ends text left marks) (ends text right marks)
  | repeated p least more, marks =>
    let begun := steps (ends text p) (min least (text.length + 1)) marks
    spread (ends text p) (more.getD text.length) begun begun
  | group p, marks => ends text p marks

/-- Some part of a text matches. -/
def occursIn (p : Pattern) (text : String) : Bool :=
  (ends text.toList p (List.replicate (text.toList.length + 1) true)).contains true

/-! ## Making patterns -/

/-- No match has a character. -/
def hasNoCharacter : Pattern → Bool
  | empty | border _ => true
  | one _ => false
  | both first second => hasNoCharacter first && hasNoCharacter second
  | either left right => hasNoCharacter left && hasNoCharacter right
  | repeated p _ _ | group p => hasNoCharacter p

/-- Patterns one after the other. -/
def sequence (ps : List Pattern) : Pattern :=
  match ps.filter fun p => !(p matches empty) with
  | [] => empty
  | p :: rest => rest.foldl both p

/-- The set of a pattern that is one character. -/
def set? : Pattern → Option CharSet
  | one s => some s
  | _ => none

/-- Patterns to choose from. Sets of characters to choose from are a set. -/
def choice (p : Pattern) (rest : List Pattern) : Pattern :=
  match (p :: rest).mapM set? with
  | some sets => one (.unions sets)
  | none => rest.foldl either p

/-- A pattern a number of times. One that has no characters need not stand twice. -/
def times (p : Pattern) (least : Nat) (greatest : Option Nat) : Pattern :=
  let (least, greatest) :=
    if p.hasNoCharacter then (min least 1, some (min (greatest.getD 1) 1)) else (least, greatest)
  if greatest = some 0 then empty
  else if least = 1 ∧ greatest = some 1 then p
  else repeated p least (greatest.map (· - least))

end Pattern

end MetricCheck.Log
