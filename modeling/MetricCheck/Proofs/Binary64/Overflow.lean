-- Overflow. A decimal is read as an infinity exactly when it lies halfway from the largest
-- finite magnitude to the next power of two, `2 ^ 1024`, or beyond.
import MetricCheck.Proofs.Binary64.Nearest

namespace MetricCheck

namespace Binary64

/-- The least magnitude that is rounded to infinity: `2 ^ 1024 - 2 ^ 970`. -/
def overflow : Nat := (2 ^ 54 - 1) <<< 970

/-! ## Rounding -/

theorem div_le_roundHalfEven (num den : Nat) : num / den ≤ roundHalfEven num den := by
  unfold roundHalfEven
  dsimp only
  split <;> omega

theorem roundHalfEven_le (num den : Nat) : roundHalfEven num den ≤ num / den + 1 := by
  unfold roundHalfEven
  dsimp only
  split <;> omega

/-- An even integer is reached from the half before it on, since a half goes to the even one. -/
theorem le_roundHalfEven_iff {num den k : Nat} (hden : 0 < den) (hk : k % 2 = 0) :
    k ≤ roundHalfEven num den ↔ 2 * (k * den) ≤ 2 * num + den := by
  have hnum := Nat.div_add_mod num den
  have hmod := Nat.mod_lt num hden
  unfold roundHalfEven
  dsimp only
  rw [Nat.mul_comm den] at hnum
  generalize num / den = below at hnum ⊢
  generalize num % den = rest at hnum hmod ⊢
  rcases Nat.lt_trichotomy (below + 1) k with hlt | rfl | hgt
  · have hscaled : (below + 2) * den ≤ k * den := Nat.mul_le_mul_right den hlt
    rw [Nat.add_mul] at hscaled
    split <;> omega
  · rw [Nat.add_mul]
    split <;> omega
  · have hscaled : k * den ≤ below * den := Nat.mul_le_mul_right den (by omega)
    split <;> omega

/-! ## Mantissas -/

/-- How many bits of a magnitude in units of `2 ^ -1074` are too many for a mantissa. -/
def excessBits (scaled den : Nat) : Nat := (scaled / den).log2 - 52

/-- Without the bits that are too many the mantissa has 53 bits at most. -/
theorem lt_of_excessBits (scaled : Nat) {den : Nat} (hden : 0 < den) :
    scaled < 2 ^ 53 * (den * 2 ^ excessBits scaled den) := by
  have hbits : (scaled / den).log2 + 1 ≤ 53 + excessBits scaled den := by
    unfold excessBits
    omega
  calc scaled < 2 ^ ((scaled / den).log2 + 1) * den :=
        (Nat.div_lt_iff_lt_mul hden).1 Nat.lt_log2_self
    _ ≤ 2 ^ (53 + excessBits scaled den) * den :=
        Nat.mul_le_mul_right den (Nat.pow_le_pow_right (by decide) hbits)
    _ = 2 ^ 53 * (den * 2 ^ excessBits scaled den) := by ring

/-- If there are any such bits, the mantissa has 53 bits. -/
theorem le_of_excessBits {scaled den : Nat} (hden : 0 < den) (h : 0 < excessBits scaled den) :
    2 ^ 52 * (den * 2 ^ excessBits scaled den) ≤ scaled := by
  have hbits : (scaled / den).log2 = 52 + excessBits scaled den := by
    unfold excessBits at h ⊢
    omega
  have hne : scaled / den ≠ 0 := by
    intro hzero
    rw [hzero, Nat.log2_zero] at hbits
    omega
  calc 2 ^ 52 * (den * 2 ^ excessBits scaled den)
      = 2 ^ (scaled / den).log2 * den := by rw [hbits]; ring
    _ ≤ scaled := (Nat.le_div_iff_mul_le hden).1 (Nat.log2_self_le hne)

/-! ## The last rank -/

/-- Below the last block of ranks a magnitude is too small to overflow and above it too large
not to, and in it rounding decides. -/
theorem finiteCount_le_rank_iff (scaled : Nat) {den k : Nat} (hden : 0 < den) (hk : k = 2044) :
    finiteCount ≤ excessBits scaled den * blockSize +
        roundHalfEven scaled (den * 2 ^ excessBits scaled den) ↔
      (2 ^ 54 - 1) * (den * 2 ^ k) ≤ scaled := by
  have hcount : finiteCount = (k + 3) * blockSize := by rw [hk]; rfl
  have hlt := lt_of_excessBits scaled hden
  have hle := @le_of_excessBits scaled den hden
  rw [hcount, blockSize_eq]
  generalize excessBits scaled den = shift at hlt hle ⊢
  have hunit : 0 < den * 2 ^ shift := Nat.mul_pos hden (Nat.two_pow_pos _)
  have hquotient : scaled / (den * 2 ^ shift) < 2 ^ 53 := (Nat.div_lt_iff_lt_mul hunit).2 hlt
  have hrounded := roundHalfEven_le scaled (den * 2 ^ shift)
  rcases Nat.lt_trichotomy shift (k + 1) with hshift | rfl | hshift
  · have hpow : den * 2 ^ shift ≤ den * 2 ^ k :=
      Nat.mul_le_mul_left den (Nat.pow_le_pow_right (by decide) (by omega))
    omega
  · have hpow : den * 2 ^ (k + 1) = 2 * (den * 2 ^ k) := by ring
    have hhalf := @le_roundHalfEven_iff scaled _ (2 ^ 53) hunit (by decide)
    omega
  · have hpow : den * 2 ^ (k + 2) ≤ den * 2 ^ shift :=
      Nat.mul_le_mul_left den (Nat.pow_le_pow_right (by decide) hshift)
    have hfour : den * 2 ^ (k + 2) = 4 * (den * 2 ^ k) := by ring
    have hfull : 2 ^ 52 ≤ scaled / (den * 2 ^ shift) :=
      (Nat.le_div_iff_mul_le hunit).2 (hle (by omega))
    have hdown := div_le_roundHalfEven scaled (den * 2 ^ shift)
    omega

theorem finiteCount_le_nearestRank_iff (num : Nat) {den : Nat} (hden : 0 < den) :
    finiteCount ≤ nearestRank num den ↔ overflow * den ≤ num := by
  -- the exponents get names, so that no power of them is computed
  obtain ⟨low, hlow⟩ : ∃ low : Nat, low = 970 := ⟨970, rfl⟩
  obtain ⟨places, hplaces⟩ : ∃ places : Nat, places = 1074 := ⟨1074, rfl⟩
  have hscaled : (2 ^ 54 - 1) * (den * 2 ^ (low + places)) = overflow * den * 2 ^ places := by
    rw [overflow, ← hlow, Nat.shiftLeft_eq]
    ring
  have hrank := finiteCount_le_rank_iff (num <<< places) hden (show low + places = 2044 by omega)
  rw [hscaled, Nat.shiftLeft_eq, Nat.mul_le_mul_right_iff (Nat.two_pow_pos places)] at hrank
  rw [← hrank, nearestRank, ← hplaces, Nat.shiftLeft_eq, Nat.shiftLeft_eq]
  rfl

theorem ofRatio_eq_infinite_iff (negative : Bool) (num : Nat) {den : Nat} (hden : 0 < den) :
    ofRatio negative num den = .infinite negative ↔ overflow * den ≤ num := by
  rw [← finiteCount_le_nearestRank_iff num hden, ofRatio, ofRank]
  split
  · rename_i hlt
    simp [Nat.not_le.2 hlt]
  · rename_i hge
    simp [Nat.not_lt.1 hge]

theorem overflow_pos : 0 < overflow := by decide +kernel

/-- A whole number with more than 309 digits is too large. -/
theorem overflow_le_pow {digits : Nat} (h : 309 ≤ digits) : overflow ≤ Nat.pow 10 digits := by
  obtain ⟨least, hleast⟩ : ∃ least, least = 309 := ⟨309, rfl⟩
  have hpow : overflow ≤ Nat.pow 10 least := by
    rw [hleast]
    decide +kernel
  exact Nat.le_trans hpow (Nat.pow_le_pow_right (by decide) (by omega))

theorem mul_ten_pow_zero (n : Nat) : n * Nat.pow 10 0 = n := Nat.mul_one n

theorem zero_ne_infinite (negative : Bool) : zero negative ≠ .infinite negative := nofun

end Binary64

namespace Decimal

open Binary64

/-- The decimal is too large for a finite number. -/
def Overflows (d : Decimal) : Prop :=
  overflow * Nat.pow 10 (-d.exponent).toNat ≤ d.coefficient * Nat.pow 10 d.exponent.toNat

/-- The decimals that are read as infinities are those that are too large. -/
theorem nearest_eq_infinite_iff (negative : Bool) (d : Decimal) :
    d.nearest negative = .infinite negative ↔ d.Overflows := by
  unfold nearest Overflows
  split
  · rename_i hzero
    have hpos := Nat.mul_pos overflow_pos (ten_pow_pos (-d.exponent).toNat)
    rw [hzero, Nat.zero_mul]
    exact iff_of_false (zero_ne_infinite negative) (Nat.not_le.2 hpos)
  rename_i hzero
  split
  · rename_i hlarge
    have hexponent : (-d.exponent).toNat = 0 := by omega
    rw [hexponent, mul_ten_pow_zero]
    refine iff_of_true rfl ?_
    calc overflow ≤ Nat.pow 10 d.exponent.toNat := overflow_le_pow (by omega)
      _ ≤ d.coefficient * Nat.pow 10 d.exponent.toNat :=
        Nat.le_mul_of_pos_left _ (Nat.pos_of_ne_zero hzero)
  split
  · rename_i hsmall
    have hexponent : d.exponent.toNat = 0 := by omega
    have hlt : d.coefficient < overflow * Nat.pow 10 (-d.exponent).toNat :=
      calc d.coefficient < 2 ^ (d.coefficient.log2 + 1) := Nat.lt_log2_self
        _ ≤ Nat.pow 10 (d.coefficient.log2 + 1) := Nat.pow_le_pow_left (by decide) _
        _ ≤ Nat.pow 10 (-d.exponent).toNat := Nat.pow_le_pow_right (by decide) (by omega)
        _ ≤ overflow * Nat.pow 10 (-d.exponent).toNat := Nat.le_mul_of_pos_left _ overflow_pos
    rw [hexponent, mul_ten_pow_zero]
    exact iff_of_false (zero_ne_infinite negative) (Nat.not_le.2 hlt)
  split
  · have hexponent : (-d.exponent).toNat = 0 := by omega
    rw [ofRatio_eq_infinite_iff _ _ Nat.one_pos, hexponent]
  · have hexponent : d.exponent.toNat = 0 := by omega
    rw [ofRatio_eq_infinite_iff _ _ (ten_pow_pos _), hexponent, mul_ten_pow_zero]

end Decimal

end MetricCheck
