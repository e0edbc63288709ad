-- How large a machine is that finds the matches of a pattern byte by byte. Patterns
-- are refused whose machines are too large.
import MetricCheck.Log.Pattern.Basic

namespace MetricCheck.Log

open Text (CharSet)

/-! ## Bytes of sets -/

/-- The size of a state in bytes. -/
def stateSize : Nat := 32

/-- The size of a way from one state to another that is kept apart from the state. -/
def arrowSize : Nat := 4

/-- The ranges of numbers with a count of digits in base 64 that together make a range,
each as the ranges of its digits, the most significant first. -/
def digitRanges : (digits first last : Nat) → List (List (Nat × Nat))
  | 0, _, _ => [[]]
  | digits + 1, first, last =>
    let unit := Nat.pow 64 digits
    let (high, low) := (first / unit, first % unit)
    let (high', low') := (last / unit, last % unit)
    if high = high' then (digitRanges digits low low').map ((high, high) :: ·)
    else
      let whole := low = 0
      let whole' := low' = unit - 1
      let (from', to') := (if whole then high else high + 1, if whole' then high' + 1 else high')
      (if whole then [] else (digitRanges digits low (unit - 1)).map ((high, high) :: ·)) ++
        (if from' < to' then [(from', to' - 1) :: List.replicate digits (0, 63)] else []) ++
        (if whole' then [] else (digitRanges digits 0 low').map ((high', high') :: ·))

/-- For each length of characters in UTF-8, the number of bytes behind the first one, and
the code points of that length from the first to the last. -/
def byteLengths : List (Nat × Nat × Nat) :=
  [(0, 0x0, 0x7F), (1, 0x80, 0x7FF), (2, 0x800, 0xFFFF), (3, 0x10000, 0x10FFFF)]

/-- The bytes of the characters of a set: sequences of ranges, each behind a mark of its
length. A range of bytes is given by the bits that code points fill in. -/
def byteRanges (s : CharSet) : List (List (Nat × Nat)) :=
  byteLengths.flatMap fun (digits, first, last) =>
    s.ranges.flatMap fun r =>
      if max first r.1 ≤ min last r.2 then
        (if digits = 0 then [[(max first r.1, min last r.2)]]
        else digitRanges (digits + 1) (max first r.1) (min last r.2)).map
          ((digits, digits) :: ·)
      else []

/-- How many ranges of sequences are not shared with the sequence before. Sequences share
the states of their first ranges as far as these are the same; marks have no states. -/
def unshared : (previous : List (Nat × Nat)) → List (List (Nat × Nat)) → Nat
  | _, [] => 0
  | previous, ranges :: rest =>
    let shared := (previous.zip ranges).takeWhile fun pair => pair.1 = pair.2
    (ranges.length - max 1 shared.length) + unshared ranges rest

/-- The size of the states for one character of a set. -/
def setSize (s : CharSet) : Nat :=
  match s.ranges with
  | [(first, last)] =>
    if first = last then stateSize * unshared [] (byteRanges s) else general
  | _ => general
where
  general : Nat :=
    if s.isAscii then 2 * stateSize + 2 * arrowSize * s.ranges.length
    else
      let sequences := byteRanges s
      2 * stateSize + stateSize * unshared [] sequences + arrowSize * sequences.length

/-! ## Bytes of patterns -/

namespace Pattern

/-- A match may have no characters. -/
def canBeEmpty : Pattern → Bool
  | empty | border _ => true
  | one _ => false
  | both first second => canBeEmpty first && canBeEmpty second
  | either left right => canBeEmpty left || canBeEmpty right
  | repeated p least _ => least = 0 || canBeEmpty p
  | group p => canBeEmpty p

/-- The size of the states of a pattern. A state that goes on in several ways has an
arrow for each. -/
def size : Pattern → Nat
  | empty | border _ => stateSize
  | one s => setSize s
  | both first second => size first + size second
  | either left right =>
    let branch := fun (p : Pattern) (size : Nat) =>
      if p matches either _ _ then size - 2 * stateSize else size + arrowSize
    2 * stateSize + branch left (size left) + branch right (size right)
  | repeated p least more =>
    let fork := stateSize + 2 * arrowSize
    match least, more with
    | 0, none => if p.canBeEmpty then size p + 2 * fork + stateSize else size p + fork
    | least, none => least * size p + fork
    | 0, some 1 => size p + fork + stateSize
    | 0, some more => more * (size p + fork) + 2 * stateSize
    | least, some 0 => least * size p
    | least, some more => least * size p + more * (size p + fork) + stateSize
  | group p => size p + 2 * stateSize

/-- The size that the states of a whole machine may have in bytes, which is 10 MiB. -/
def sizeLimit : Nat := 10485760

/-- The size of the states around a pattern. Three of them go on to later places of a
text, with four arrows; two keep the match, and one ends it. -/
def frameSize : Nat := 6 * stateSize + 4 * arrowSize

/-- The machine of the pattern is not too large. -/
def fits (p : Pattern) : Bool := p.size + frameSize ≤ sizeLimit

end Pattern

end MetricCheck.Log
