-- Rounding leaves alone what needs none: the rank nearest to the exact magnitude of a
-- rank is that rank, so all digits of a magnitude denote the number they were taken from.
import Mathlib.Tactic.Ring
import MetricCheck.Binary64.Shortest

namespace MetricCheck

namespace Binary64

theorem blockSize_eq : blockSize = 2 ^ 52 := by decide

theorem roundHalfEven_mul (n : Nat) {den : Nat} (h : 0 < den) :
    roundHalfEven (n * den) den = n := by
  unfold roundHalfEven
  simp only [Nat.mul_mod_left, Nat.mul_div_left n h, Nat.mul_zero, if_pos (Or.inl h)]

/-! ## The two kinds of ranks -/

theorem units_of_lt {rank : Nat} (h : rank < blockSize) : units rank = rank := by
  rw [units, if_pos h]

theorem units_of_le {rank : Nat} (h : blockSize ≤ rank) :
    units rank = (blockSize + rank % blockSize) * 2 ^ (rank / blockSize - 1) := by
  rw [units, if_neg (Nat.not_lt.2 h), Nat.shiftLeft_eq]

theorem log2_units_of_lt {rank : Nat} (h : rank < blockSize) : (units rank).log2 < 52 := by
  rw [units_of_lt h]
  by_cases hzero : rank = 0
  · subst hzero
    decide
  · rw [Nat.log2_lt hzero, ← blockSize_eq]
    exact h

theorem log2_mul_two_pow {m : Nat} (hm : m ≠ 0) (k : Nat) : (m * 2 ^ k).log2 = m.log2 + k := by
  induction k with
  | zero => rw [Nat.pow_zero, Nat.mul_one, Nat.add_zero]
  | succ k ih =>
    have hne : m * 2 ^ k ≠ 0 := Nat.mul_ne_zero hm (Nat.ne_of_gt (Nat.two_pow_pos k))
    have hdouble : m * 2 ^ (k + 1) = 2 * (m * 2 ^ k) := by ring
    rw [hdouble, Nat.log2_two_mul hne, ih, Nat.add_assoc]

theorem log2_units_of_le {rank : Nat} (h : blockSize ≤ rank) :
    (units rank).log2 = 52 + (rank / blockSize - 1) := by
  have hmod : rank % blockSize < blockSize := Nat.mod_lt _ (by decide)
  have hne : blockSize + rank % blockSize ≠ 0 := by
    have hpos : 0 < blockSize := by decide
    omega
  have hmantissa : (blockSize + rank % blockSize).log2 = 52 := by
    rw [Nat.log2_eq_iff hne]
    rw [blockSize_eq] at hmod ⊢
    omega
  rw [units_of_le h, log2_mul_two_pow hne, hmantissa]

/-- The rank nearest to the magnitude of a rank is the rank itself. -/
theorem nearestRank_of_exact {rank num den : Nat} (hden : 0 < den)
    (h : num <<< 1074 = units rank * den) : nearestRank num den = rank := by
  have hdiv : units rank * den / den = units rank := Nat.mul_div_left _ hden
  unfold nearestRank
  simp only [h, hdiv]
  by_cases hblock : rank < blockSize
  · have hshift : (units rank).log2 - 52 = 0 := by
      have hlog := log2_units_of_lt hblock
      omega
    rw [hshift, Nat.zero_mul, Nat.zero_add, Nat.shiftLeft_zero, roundHalfEven_mul _ hden,
      units_of_lt hblock]
  · have hblock := Nat.not_lt.1 hblock
    have hshift : (units rank).log2 - 52 = rank / blockSize - 1 := by
      have hlog := log2_units_of_le hblock
      omega
    have hpos : 0 < den * 2 ^ (rank / blockSize - 1) := Nat.mul_pos hden (Nat.two_pow_pos _)
    have hblocks : 1 ≤ rank / blockSize := Nat.div_pos hblock (by decide)
    have hrank := Nat.div_add_mod rank blockSize
    have hscaled : units rank * den =
        (blockSize + rank % blockSize) * (den * 2 ^ (rank / blockSize - 1)) := by
      rw [units_of_le hblock]
      ring
    rw [hshift, hscaled, Nat.shiftLeft_eq, roundHalfEven_mul _ hpos]
    obtain ⟨blocks, hblocks⟩ := Nat.exists_eq_add_of_le' hblocks
    rw [hblocks] at hrank ⊢
    rw [Nat.add_sub_cancel, ← Nat.add_assoc, ← Nat.succ_mul, Nat.mul_comm]
    exact hrank

theorem ofRank_val (negative : Bool) (rank : Fin finiteCount) :
    ofRank negative rank = .finite negative rank := by
  rw [ofRank, dif_pos rank.isLt]

theorem units_ne_zero {rank : Nat} (h : rank ≠ 0) : units rank ≠ 0 := by
  by_cases hblock : rank < blockSize
  · rw [units_of_lt hblock]
    exact h
  · rw [units_of_le (Nat.not_lt.1 hblock)]
    have hpos : 0 < blockSize := by decide
    exact Nat.mul_ne_zero (by omega) (Nat.ne_of_gt (Nat.two_pow_pos _))

/-! ## All digits

A magnitude over `2 ^ n` times `5 ^ n` is the same over `10 ^ n`. -/

theorem mul_five_pow_ne_zero {m : Nat} (hm : m ≠ 0) (n : Nat) : m * Nat.pow 5 n ≠ 0 :=
  Nat.mul_ne_zero hm (Nat.ne_of_gt (Nat.pow_pos (by decide)))

theorem le_log2_mul_five_pow {m : Nat} (hm : m ≠ 0) (n : Nat) :
    n ≤ (m * Nat.pow 5 n).log2 := by
  rw [Nat.le_log2 (mul_five_pow_ne_zero hm n)]
  calc 2 ^ n ≤ Nat.pow 5 n := Nat.pow_le_pow_left (by decide) n
    _ ≤ m * Nat.pow 5 n := Nat.le_mul_of_pos_left _ (Nat.pos_of_ne_zero hm)

theorem mul_five_pow_shiftLeft (m n : Nat) : (m * Nat.pow 5 n) <<< n = m * Nat.pow 10 n := by
  have hten : Nat.pow 10 n = Nat.pow 5 n * 2 ^ n := Nat.mul_pow 5 2 n
  rw [Nat.shiftLeft_eq, hten, Nat.mul_assoc]

theorem ten_pow_pos (n : Nat) : 0 < Nat.pow 10 n := Nat.pow_pos (by decide)

/-- A decimal with more bits than places is far from underflow. -/
theorem nearest_of_places {m n : Nat} {e : Int} (he : e = -n) (hm : m ≠ 0) (hn : 0 < n)
    (hlog : n ≤ m.log2) (negative : Bool) :
    Decimal.nearest negative ⟨m, e⟩ = .ofRatio negative m (Nat.pow 10 n) := by
  have hplaces : (-e).toNat = n := by omega
  unfold Decimal.nearest
  dsimp only
  rw [if_neg hm, if_neg (by omega), if_neg (by omega), if_neg (by omega), hplaces]

theorem nearest_allDigits (rank : Fin finiteCount) {n : Nat} (hn : n = 1074) {e : Int}
    (he : e = -n) :
    Decimal.nearest false ⟨units rank * Nat.pow 5 n, e⟩ = .finite false rank := by
  by_cases hrank : rank.val = 0
  · have hzero : rank = ⟨0, by decide⟩ := Fin.ext hrank
    have hunits : units rank = 0 := by rw [hzero, units_of_lt (by decide)]
    rw [Decimal.nearest, if_pos (mul_eq_zero_of_left hunits _), hzero]
    rfl
  · have hunits := units_ne_zero hrank
    have hexact : (units rank * Nat.pow 5 n) <<< 1074 = units rank * Nat.pow 10 n := by
      rw [← hn]
      exact mul_five_pow_shiftLeft (units rank) n
    rw [nearest_of_places he (mul_five_pow_ne_zero hunits n) (by omega)
      (le_log2_mul_five_pow hunits n), ofRatio, nearestRank_of_exact (ten_pow_pos n) hexact,
      ofRank_val]

/-- All digits of a magnitude denote the number they were taken from. -/
theorem nearest_exactDecimal (rank : Fin finiteCount) :
    (exactDecimal rank).nearest false = .finite false rank := by
  obtain ⟨n, hn⟩ : ∃ n : Nat, n = 1074 := ⟨1074, rfl⟩
  rw [exactDecimal, ← hn]
  exact nearest_allDigits rank hn (by omega)

/-! ## The shortest digits -/

theorem nearest_of_firstReadingBack {tie : Tie} {rank : Fin finiteCount} {grids : Nat}
    {power : Int} {d : Decimal} (h : firstReadingBack tie rank grids power = some d) :
    d.nearest false = .finite false rank := by
  induction grids generalizing power with
  | zero => cases h
  | succ grids ih =>
    rw [firstReadingBack, Option.or_eq_some_iff] at h
    rcases h with h | ⟨-, h⟩
    · simpa [readsBack] using List.find?_some h
    · exact ih h

/-- The shortest digits denote the number they were taken from. -/
theorem nearest_shortest (tie : Tie) (rank : Fin finiteCount) :
    (shortest tie rank).nearest false = .finite false rank := by
  unfold shortest
  cases h : firstReadingBack tie rank 20 (leadingPower rank) with
  | none => exact nearest_exactDecimal rank
  | some d => exact nearest_of_firstReadingBack h

end Binary64

end MetricCheck
