-- How numbers are written: always positional in reports and rule text, and with
-- a point or an exponent in messages about JSON.
import MetricCheck.Binary64.Shortest

namespace MetricCheck

namespace Decimal

/-- Digits with the point after `point` of them, zeros filling the gaps. No point
is written after the last digit. -/
def positional (d : Decimal) : List Char :=
  let digits := Nat.toDigits 10 d.coefficient
  if 0 ≤ d.exponent then digits ++ List.replicate d.exponent.toNat '0'
  else
    let places := (-d.exponent).toNat
    let padded := digits.leftpad (places + 1) '0'
    padded.take (padded.length - places) ++ '.' :: padded.drop (padded.length - places)

/-- One digit before the point, and after `e` the power of ten with its sign. -/
def scientific (d : Decimal) : List Char :=
  let digits := Nat.toDigits 10 d.coefficient
  let power := d.exponent + digits.length - 1
  let mantissa := match digits with
    | first :: second :: more => first :: '.' :: second :: more
    | short => short
  mantissa ++ 'e' :: (if power < 0 then '-' else '+') :: Nat.toDigits 10 power.natAbs

end Decimal

namespace Binary64

/-- The sign of a number text. -/
def signText (negative : Bool) : List Char := if negative then ['-'] else []

/-- The text of a number in reports and rule text: the shortest digits, never an
exponent, no point in a whole number. -/
def text : Binary64 → String
  | .nan => "NaN"
  | .infinite negative => String.ofList (signText negative ++ "inf".toList)
  | .finite negative rank =>
    String.ofList (signText negative ++ (shortest .away rank).positional)

/-- The text of a number in messages about JSON: positional with a point when
the leading digit stands for `10 ^ -5` to `10 ^ 15`, else with an exponent. -/
def jsonText : Binary64 → String
  | .nan => "NaN"
  | .infinite negative => String.ofList (signText negative ++ "inf".toList)
  | .finite negative rank =>
    let d := shortest .even rank
    let power := d.exponent + (Nat.toDigits 10 d.coefficient).length - 1
    let magnitude :=
      if -5 ≤ power ∧ power ≤ 15 then
        d.positional ++ (if 0 ≤ d.exponent then ".0".toList else [])
      else d.scientific
    String.ofList (signText negative ++ magnitude)

end Binary64

end MetricCheck
