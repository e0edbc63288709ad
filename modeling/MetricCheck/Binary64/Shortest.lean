-- The fewest decimal digits that still denote a number. The decimal grids of the
-- powers of ten are tried from the coarsest down, and on each only the number's
-- two neighbours; the first that reads back is the shortest decimal.
import MetricCheck.Binary64.Decimal

namespace MetricCheck

/-- Which neighbour is taken when a number lies halfway between both. -/
inductive Tie where
  | away
  | even
deriving DecidableEq

namespace Decimal

/-- A decimal without zeros at the end of its coefficient: they go into the
exponent. Zero itself gets the exponent 0. -/
def trimmed (coefficient : Nat) (exponent : Int) : Decimal :=
  if coefficient = 0 then ⟨0, 0⟩
  else if coefficient % 10 = 0 then trimmed (coefficient / 10) (exponent + 1)
  else ⟨coefficient, exponent⟩
termination_by coefficient

end Decimal

namespace Binary64

/-- The magnitude with a rank over `10 ^ power`, as a fraction. -/
def overPowerOfTen (rank : Nat) (power : Int) : Nat × Nat :=
  if 0 ≤ power then (units rank, Nat.pow 10 power.toNat <<< 1074)
  else (units rank * Nat.pow 10 (-power).toNat, 1 <<< 1074)

/-- The multiples of `10 ^ power` next to a magnitude, the nearer one first. -/
def neighbours (tie : Tie) (rank : Nat) (power : Int) : List Decimal :=
  let (num, den) := overPowerOfTen rank power
  let below := num / den
  let twice := 2 * (num % den)
  let upFirst := den < twice ∨ (twice = den ∧ (tie = .away ∨ below % 2 = 1))
  if upFirst then [.trimmed (below + 1) power, .trimmed below power]
  else [.trimmed below power, .trimmed (below + 1) power]

/-- The nearest number of `d` is the finite one with this rank. -/
def readsBack (rank : Fin finiteCount) (d : Decimal) : Bool :=
  d.nearest false = .finite false rank

/-- The first decimal that reads back, on the grids of `10 ^ power` and of the
`grids - 1` powers below it. -/
def firstReadingBack (tie : Tie) (rank : Fin finiteCount) : (grids : Nat) → (power : Int) →
    Option Decimal
  | 0, _ => none
  | grids + 1, power =>
    ((neighbours tie rank power).find? (readsBack rank)).or
      (firstReadingBack tie rank grids (power - 1))

/-- All digits of a magnitude: `2 ^ -1074` is `5 ^ 1074` over `10 ^ 1074`. -/
def exactDecimal (rank : Nat) : Decimal := ⟨units rank * Nat.pow 5 1074, -1074⟩

/-- A power of ten that exceeds the magnitude by less than a factor of 100: the
magnitude's binary exponent times `log10 2`, which is nearly 0.30103. -/
def leadingPower (rank : Nat) : Int :=
  ((units rank).log2 - 1074) * 30103 / 100000 + 1

/-- The shortest decimal for a finite magnitude. Seventeen digits always suffice,
so twenty grids from the leading power down are enough. -/
def shortest (tie : Tie) (rank : Fin finiteCount) : Decimal :=
  (firstReadingBack tie rank 20 (leadingPower rank)).getD (exactDecimal rank)

end Binary64

end MetricCheck
