-- The numbers of rules and metrics: IEEE 754 binary64, kept exactly. A finite
-- number is a sign and a rank, its place among the finite magnitudes in order,
-- so that comparing numbers is comparing integers.
namespace MetricCheck

/-- How many ranks in a row share a spacing: `2 ^ 52`. -/
def blockSize : Nat := 0x10000000000000

/-- How many finite magnitudes there are, and the rank that infinity has. -/
def finiteCount : Nat := 0x7FF * blockSize

/-- A binary64 number. `rank` counts the smaller finite magnitudes, zero being
the first; a zero keeps its sign. All NaNs are one. -/
inductive Binary64 where
  | nan
  | infinite (negative : Bool)
  | finite (negative : Bool) (rank : Fin finiteCount)
deriving DecidableEq

namespace Binary64

/-- A finite rank or the infinity beyond the last one. -/
def ofRank (negative : Bool) (rank : Nat) : Binary64 :=
  if h : rank < finiteCount then .finite negative ⟨rank, h⟩ else .infinite negative

/-- Zero with a sign. -/
def zero (negative : Bool) : Binary64 := .finite negative ⟨0, by decide⟩

/-- The value of the highest of 64 bits, the sign: `2 ^ 63`. -/
def signBit : Nat := 0x8000000000000000

/-- The number with the given 64 bits: the sign, then the rank. -/
def ofBits (bits : Nat) : Binary64 :=
  let negative := signBit ≤ bits
  let rank := bits % signBit
  if rank ≤ finiteCount then ofRank negative rank else .nan

/-- Is neither an infinity nor NaN. -/
def isFinite : Binary64 → Bool
  | .finite _ _ => true
  | _ => false

def isNaN : Binary64 → Bool
  | .nan => true
  | _ => false

/-! ## Order -/

/-- Where a number stands in the order: NaN nowhere, and both zeros at 0. -/
def position : Binary64 → Option Int
  | .nan => none
  | .infinite negative => some (if negative then -finiteCount else finiteCount)
  | .finite negative rank => some (if negative then -rank.val else rank.val)

/-- Both are numbers and their positions compare. -/
def compareBy (holds : Int → Int → Bool) (a b : Binary64) : Bool :=
  match a.position, b.position with
  | some x, some y => holds x y
  | _, _ => false

/-- `a < b`; false when either is NaN. -/
def lt (a b : Binary64) : Bool := compareBy (· < ·) a b

/-- `a ≤ b`; false when either is NaN. -/
def le (a b : Binary64) : Bool := compareBy (· ≤ ·) a b

/-- The same number: the two zeros are, and a NaN is not even its own equal. -/
def sameNumber (a b : Binary64) : Bool := compareBy (· == ·) a b

/-! ## Magnitudes -/

/-- The magnitude with a rank, in units of `2 ^ -1074`. The first two blocks of
ranks have the unit as their spacing, and each later block has twice the spacing
of the one before. -/
def units (rank : Nat) : Nat :=
  if rank < blockSize then rank
  else (blockSize + rank % blockSize) <<< (rank / blockSize - 1)

/-- `num / den` to the nearest integer, a half to the even one. -/
def roundHalfEven (num den : Nat) : Nat :=
  let below := num / den
  let twice := 2 * (num % den)
  if twice < den ∨ (twice = den ∧ below % 2 = 0) then below else below + 1

/-- The rank nearest to `num / den`, of two equally near ones the even one. The
mantissa gets 53 bits, or fewer where the spacing cannot be finer. Rounding up
to the next power of two carries into the next block of ranks. -/
def nearestRank (num den : Nat) : Nat :=
  let shift := ((num <<< 1074) / den).log2 - 52
  shift * blockSize + roundHalfEven (num <<< 1074) (den <<< shift)

/-- The number nearest to `num / den`, infinite when that is too large. -/
def ofRatio (negative : Bool) (num den : Nat) : Binary64 :=
  ofRank negative (nearestRank num den)

/-- Every number but NaN is the same as itself. -/
theorem sameNumber_self {a : Binary64} (h : a ≠ .nan) : a.sameNumber a = true := by
  cases a <;> simp_all [sameNumber, compareBy, position]

end Binary64

end MetricCheck
