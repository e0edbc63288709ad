-- Counts in braces: how often a part of a pattern may stand.
import MetricCheck.Log.Pattern.Error
import MetricCheck.Log.Pattern.Spacing

namespace MetricCheck.Log

/-- A number, with blanks around it. -/
def readCount (spaced : Bool) (cs : List Char) : Except PatternError Nat × List Char :=
  let start := cs.dropWhile Text.isBlank
  let (digits, stop) := takeSpaced spaced Char.isDigit start
  let n := Nat.ofDigitChars 10 digits 0
  (if digits.isEmpty then fail .countEmpty start stop
    else if n < 0x100000000 then .ok n
    else fail .decimalInvalid start stop,
    (takeSpaced spaced Text.isBlank stop).2)

/-- The least number of times and, after a comma, the greatest one if there is one, in
braces. A question mark after them changes nothing that shows. -/
def readCounts (spaced : Bool) (start : List Char) :
    Except PatternError ((Nat × Option Nat) × List Char) :=
  match skipSpacing spaced (start.drop 1) with
  | [] => fail .countUnclosed start []
  | inside =>
    let (least, afterLeast) := readCount spaced inside
    let counts : Except PatternError ((Nat × Option Nat) × List Char) :=
      match afterLeast with
      | [] => fail .countUnclosed start []
      | ',' :: rest =>
        match skipSpacing spaced rest with
        | [] => fail .countUnclosed start []
        | '\x7d' :: rest => least.map fun n => ((n, none), '\x7d' :: rest)
        | second => do
          let least ← least
          let (greatest, rest) := readCount spaced second
          return ((least, some (← greatest)), rest)
      | rest => least.map fun n => ((n, some n), rest)
    match counts with
    | .error e => .error e
    | .ok (counts, '\x7d' :: rest) =>
      let stop := match skipSpacing spaced rest with
        | '?' :: rest => rest
        | rest => rest
      if counts.2.all (counts.1 ≤ ·) then .ok (counts, stop) else fail .countOrder start stop
    | .ok (_, rest) => fail .countUnclosed start rest

end MetricCheck.Log
