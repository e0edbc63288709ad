-- The numbers of JSON. Their digits fill a 64-bit significand as far as they fit,
-- further ones only count, and a power of ten scales the result: one rounding for
-- the significand and one for each scaling.
import MetricCheck.Json.Bytes
import MetricCheck.Text.Blank

namespace MetricCheck.Json

open Text

/-- The largest significand: 64 bits. -/
def maxSignificand : Nat := 0xFFFFFFFFFFFFFFFF

/-- The largest exponent that is read: 31 bits. -/
def maxExponent : Nat := 0x7FFFFFFF

/-- Appends digits to a significand until one does not fit, and counts those that
are left then. -/
def absorb (significand : Nat) : Bytes → Nat × Nat
  | [] => (significand, 0)
  | d :: digits =>
    let longer := significand * 10 + digitValue d
    if longer ≤ maxSignificand then absorb longer digits
    else (significand, digits.length + 1)

/-! ## Scaling by powers of ten -/

/-- The rank of the number nearest to `10 ^ power`. -/
def powerOfTenRank (power : Nat) : Nat := Binary64.nearestRank (Nat.pow 10 power) 1

/-- The rank nearest to the product of two magnitudes. -/
def mulRank (a b : Nat) : Nat :=
  Binary64.nearestRank (Binary64.units a * Binary64.units b) (1 <<< 2148)

/-- The rank nearest to the quotient of two magnitudes. -/
def divRank (a b : Nat) : Nat := Binary64.nearestRank (Binary64.units a) (Binary64.units b)

/-- A magnitude times `10 ^ exponent`. Powers from `10 ^ -308` to `10 ^ 308` are one
step; smaller ones take several. A result that is too large is a defect. -/
def scale (rank : Nat) (exponent : Int) : Except Defect Nat :=
  if rank = 0 then .ok 0
  else if 308 < exponent then .error .malformed
  else if 0 ≤ exponent then
    let scaled := mulRank rank (powerOfTenRank exponent.toNat)
    if scaled < finiteCount then .ok scaled else .error .malformed
  else if -308 ≤ exponent then .ok (divRank rank (powerOfTenRank (-exponent).toNat))
  else scale (divRank rank (powerOfTenRank 308)) (exponent + 308)
termination_by (-exponent).toNat

/-- `significand * 10 ^ exponent` with a sign. -/
def floatOfParts (negative : Bool) (significand : Nat) (exponent : Int) :
    Except Defect Found :=
  match scale (Binary64.nearestRank significand 1) exponent with
  | .error d => .error d
  | .ok rank => .ok (.float (.ofRank negative rank))

/-! ## Reading -/

/-- The exponent of a number, after its `e`. -/
def exponentPart (negative : Bool) (significand : Nat) (exponent : Int) (s : Bytes) :
    Except Defect Found :=
  let (down, digits) := match s with
    | b :: r => if b = byte '-' then (true, r) else if b = byte '+' then (false, r) else (false, s)
    | [] => (false, [])
  match digits with
  | [] => .error .truncated
  | b :: _ =>
    if isDigit b then
      let power := (digits.takeWhile isDigit).foldl (fun n d => n * 10 + digitValue d) 0
      if maxExponent < power then
        if significand ≠ 0 ∧ !down then .error .malformed
        else .ok (.float (.zero negative))
      else floatOfParts negative significand (if down then exponent - power else exponent + power)
    else .error .malformed

/-- What may follow the digits of a number: an exponent, or nothing of it. -/
def afterDigits (negative : Bool) (significand : Nat) (exponent : Int) (s : Bytes) :
    Except Defect Found :=
  match s with
  | b :: r =>
    if b = byte 'e' ∨ b = byte 'E' then exponentPart negative significand exponent r
    else floatOfParts negative significand exponent
  | [] => floatOfParts negative significand exponent

/-- The places of a number, after its point. -/
def fractionPart (negative : Bool) (significand : Nat) (exponent : Int) (s : Bytes) :
    Except Defect Found :=
  let places := s.takeWhile isDigit
  let rest := s.dropWhile isDigit
  if places.isEmpty then
    if rest.isEmpty then .error .truncated else .error .malformed
  else
    let (significand, left) := absorb significand places
    afterDigits negative significand (exponent - (places.length - left)) rest

/-- An integer: one that is negative must fit 64 bits with its sign, and the
negative zero is a float. -/
def integerOrFloat (negative : Bool) (significand : Nat) : Found :=
  if !negative then .integer significand
  else if 0 < significand ∧ significand ≤ Binary64.signBit then .integer (-significand)
  else .float (.ofRatio true significand 1)

/-- A number, after its minus sign if it has one. What follows it is not read. -/
def readNumber (negative : Bool) (s : Bytes) : Except Defect Found :=
  let whole := s.takeWhile isDigit
  let rest := s.dropWhile isDigit
  match whole with
  | [] => if rest.isEmpty then .error .truncated else .error .malformed
  | first :: more =>
    if first = byte '0' ∧ !more.isEmpty then .error .malformed
    else
      let (significand, left) := absorb 0 whole
      match rest with
      | b :: r =>
        if b = byte '.' then fractionPart negative significand left r
        else if b = byte 'e' ∨ b = byte 'E' then exponentPart negative significand left r
        else if left = 0 then .ok (integerOrFloat negative significand)
        else floatOfParts negative significand left
      | [] =>
        if left = 0 then .ok (integerOrFloat negative significand)
        else floatOfParts negative significand left

/-! ## Skipping -/

/-- Skips digits, of which there must be one. -/
def skipDigits (s : Bytes) : Except Defect Bytes :=
  match s with
  | b :: r => if isDigit b then .ok (r.dropWhile isDigit) else .error .malformed
  | [] => .error .malformed

/-- Skips an exponent, if one follows. -/
def skipExponent (s : Bytes) : Except Defect Bytes :=
  match s with
  | b :: r =>
    if b = byte 'e' ∨ b = byte 'E' then
      match r with
      | c :: r' => if c = byte '-' ∨ c = byte '+' then skipDigits r' else skipDigits r
      | [] => .error .malformed
    else .ok s
  | [] => .ok []

/-- Skips a point with places, if one follows, and then an exponent. -/
def skipFraction (s : Bytes) : Except Defect Bytes :=
  match s with
  | b :: r =>
    if b = byte '.' then
      match skipDigits r with
      | .error d => .error d
      | .ok r => skipExponent r
    else skipExponent s
  | [] => .ok []

/-- Skips a number, after its minus sign if it has one. A number that breaks off
is malformed here. -/
def skipNumber (s : Bytes) : Except Defect Bytes :=
  match s with
  | b :: r =>
    if b = byte '0' then
      if (r.head?.any isDigit) then .error .malformed else skipFraction r
    else if isDigit b then skipFraction (r.dropWhile isDigit)
    else .error .malformed
  | [] => .error .malformed

theorem skipDigits_shorter {s r : Bytes} (h : skipDigits s = .ok r) : r.length < s.length := by
  unfold skipDigits at h
  have := length_dropWhile_le isDigit
  grind

theorem skipExponent_le {s r : Bytes} (h : skipExponent s = .ok r) : r.length ≤ s.length := by
  unfold skipExponent at h
  grind [→ skipDigits_shorter]

theorem skipFraction_le {s r : Bytes} (h : skipFraction s = .ok r) : r.length ≤ s.length := by
  unfold skipFraction at h
  grind [→ skipDigits_shorter, → skipExponent_le]

theorem skipNumber_shorter {s r : Bytes} (h : skipNumber s = .ok r) : r.length < s.length := by
  unfold skipNumber at h
  have := length_dropWhile_le isDigit
  grind [→ skipFraction_le]

end MetricCheck.Json
