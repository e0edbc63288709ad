-- Decimal numerals. A decimal is a coefficient and a power of ten; each has a
-- nearest binary64 number, and number texts denote decimals, infinities or NaN.
import MetricCheck.Binary64.Basic

namespace MetricCheck

/-- `coefficient * 10 ^ exponent`. -/
structure Decimal where
  coefficient : Nat
  exponent : Int
deriving DecidableEq

namespace Decimal

/-- The number nearest to a decimal. From `10 ^ 309` on that is infinity, and
below `10 ^ -324`, less than half the least magnitude, it is zero; so no power
of ten beyond these bounds is computed. -/
def nearest (negative : Bool) (d : Decimal) : Binary64 :=
  if d.coefficient = 0 then .zero negative
  else if 309 ≤ d.exponent then .infinite negative
  else if d.exponent + d.coefficient.log2 + 1 ≤ -324 then .zero negative
  else if 0 ≤ d.exponent then .ofRatio negative (d.coefficient * Nat.pow 10 d.exponent.toNat) 1
  else .ofRatio negative d.coefficient (Nat.pow 10 (-d.exponent).toNat)

/-! ## Reading -/

/-- One sign at most, then digits to the end. -/
def readExponentDigits (cs : List Char) : Option Int :=
  let (negative, digits) := match cs with
    | '-' :: r => (true, r)
    | '+' :: r => (false, r)
    | r => (false, r)
  if !digits.isEmpty && digits.all Char.isDigit then
    let n := Nat.ofDigitChars 10 digits 0
    some (if negative then -n else n)
  else none

/-- What may follow the digits: nothing, or `e` or `E` and an exponent. -/
def readExponent : List Char → Option Int
  | [] => some 0
  | c :: r => if c = 'e' ∨ c = 'E' then readExponentDigits r else none

/-- Digits with at most one point among them, a digit on one side of the point
being enough, and then perhaps an exponent. -/
def read (cs : List Char) : Option Decimal :=
  let whole := cs.takeWhile Char.isDigit
  let afterWhole := cs.dropWhile Char.isDigit
  let (places, rest) := match afterWhole with
    | '.' :: r => (r.takeWhile Char.isDigit, r.dropWhile Char.isDigit)
    | r => ([], r)
  if whole.isEmpty && places.isEmpty then none
  else (readExponent rest).map fun e =>
    ⟨Nat.ofDigitChars 10 (whole ++ places) 0, e - places.length⟩

end Decimal

namespace Binary64

/-- A magnitude: `inf`, `infinity` or `nan` in any letter case, or a decimal. -/
def readUnsigned (negative : Bool) (cs : List Char) : Option Binary64 :=
  let word := cs.map Char.toLower
  if word = "inf".toList ∨ word = "infinity".toList then some (.infinite negative)
  else if word = "nan".toList then some .nan
  else (Decimal.read cs).map (Decimal.nearest negative)

/-- One sign at most, then a magnitude. -/
def read : List Char → Option Binary64
  | '-' :: r => readUnsigned true r
  | '+' :: r => readUnsigned false r
  | cs => readUnsigned false cs

end Binary64

end MetricCheck
