-- Reading undoes writing. The text of a finite number is a numeral of rule text, and
-- read back it is the number, its sign and all; the words of the other numbers are not.
import MetricCheck.Binary64.Text
import MetricCheck.Proofs.Binary64.Nearest
import MetricCheck.Proofs.RuleText.Numeral

namespace MetricCheck

/-! ## Positional digits -/

theorem isDigits_toDigits (n : Nat) : IsDigits (Nat.toDigits 10 n) := fun _ hc =>
  Nat.isDigit_of_mem_toDigits (by decide) (by decide) hc

theorem isDigits_zeros (n : Nat) : IsDigits (List.replicate n '0') := by
  intro c hc
  rw [List.eq_of_mem_replicate hc]
  rfl

theorem IsDigits.append {cs ds : List Char} (hc : IsDigits cs) (hd : IsDigits ds) :
    IsDigits (cs ++ ds) :=
  List.forall_mem_append.2 ⟨hc, hd⟩

namespace Decimal

theorem positional_of_nonneg {d : Decimal} (h : 0 ≤ d.exponent) :
    d.positional = Nat.toDigits 10 d.coefficient ++ List.replicate d.exponent.toNat '0' := by
  rw [positional, if_pos h]

/-- With places after the point, all digits are there, perhaps with zeros before them. -/
theorem positional_of_neg {d : Decimal} (h : d.exponent < 0) :
    ∃ whole places zeros, d.positional = whole ++ '.' :: places ∧
      whole ++ places = List.replicate zeros '0' ++ Nat.toDigits 10 d.coefficient ∧
      (places.length : Int) = -d.exponent := by
  have hexponent : ¬ 0 ≤ d.exponent := by omega
  rw [positional, if_neg hexponent]
  dsimp only
  generalize hpadded :
    (Nat.toDigits 10 d.coefficient).leftpad ((-d.exponent).toNat + 1) '0' = padded
  have hlength : (-d.exponent).toNat + 1 ≤ padded.length := by
    rw [← hpadded, List.length_leftpad]
    exact Nat.le_max_left _ _
  refine ⟨_, _, (-d.exponent).toNat + 1 - (Nat.toDigits 10 d.coefficient).length, rfl, ?_, ?_⟩
  · rw [List.take_append_drop, ← hpadded]
    rfl
  · rw [List.length_drop]
    omega

/-- Zeros before the digits add nothing. -/
theorem ofDigitChars_zeros (zeros n : Nat) :
    Nat.ofDigitChars 10 (List.replicate zeros '0' ++ Nat.toDigits 10 n) 0 = n := by
  rw [Nat.ofDigitChars_append, Nat.ofDigitChars_replicate_zero, Nat.mul_zero,
    Nat.ofDigitChars_ten_toDigits]

/-- Positional digits are a magnitude, and read as the decimal or, when it is whole,
as its value. -/
theorem read_positional (d : Decimal) :
    IsMagnitude d.positional ∧
      (read d.positional = some d ∨
        0 ≤ d.exponent ∧
          read d.positional = some ⟨d.coefficient * Nat.pow 10 d.exponent.toNat, 0⟩) := by
  have hdigits := isDigits_toDigits d.coefficient
  rcases lt_or_ge d.exponent 0 with hneg | hnonneg
  · obtain ⟨whole, places, zeros, htext, hall, hplaces⟩ := positional_of_neg hneg
    have hisDigits : IsDigits (whole ++ places) := hall ▸ (isDigits_zeros zeros).append hdigits
    obtain ⟨hwhole, hdigits⟩ := List.forall_mem_append.1 hisDigits
    have hne : whole ++ places ≠ [] := by
      rw [hall]
      exact List.append_ne_nil_of_right_ne_nil _ Nat.toDigits_ne_nil
    rw [htext]
    refine ⟨.pointed hne hwhole hdigits, .inl ?_⟩
    rw [read_pointed hne hwhole hdigits, hall, ofDigitChars_zeros, hplaces, Int.neg_neg]
  · have hne : Nat.toDigits 10 d.coefficient ++ List.replicate d.exponent.toNat '0' ≠ [] :=
      List.append_ne_nil_of_left_ne_nil Nat.toDigits_ne_nil _
    have hall := hdigits.append (isDigits_zeros d.exponent.toNat)
    rw [positional_of_nonneg hnonneg]
    refine ⟨.whole hne hall, .inr ⟨hnonneg, ?_⟩⟩
    rw [read_whole hne hall, Nat.ofDigitChars_append, Nat.ofDigitChars_replicate_zero,
      Nat.ofDigitChars_ten_toDigits, Nat.mul_comm]
    rfl

end Decimal

namespace Binary64

/-! ## Numbers -/

theorem ofRank_eq_finite_iff {negative : Bool} {k : Nat} {rank : Fin finiteCount} :
    ofRank negative k = .finite negative rank ↔ k = rank := by
  by_cases hk : k < finiteCount
  · rw [ofRank, dif_pos hk, Binary64.finite.injEq, Fin.ext_iff]
    simp
  · rw [ofRank, dif_neg hk]
    constructor
    · intro h
      cases h
    · rintro rfl
      exact absurd rank.isLt hk

/-- The sign has no part in the rank. -/
theorem nearest_of_nearest_false {d : Decimal} {rank : Fin finiteCount}
    (h : d.nearest false = .finite false rank) (negative : Bool) :
    d.nearest negative = .finite negative rank := by
  unfold Decimal.nearest at h ⊢
  split at h
  · rename_i hzero
    rw [if_pos hzero]
    cases h
    rfl
  rename_i hzero
  split at h
  · cases h
  rename_i hlarge
  split at h
  · rename_i hsmall
    rw [if_neg hzero, if_neg hlarge, if_pos hsmall]
    cases h
    rfl
  rename_i hsmall
  rw [if_neg hzero, if_neg hlarge, if_neg hsmall]
  split at h
  · rename_i hwhole
    rw [if_pos hwhole]
    exact ofRank_eq_finite_iff.2 (ofRank_eq_finite_iff.1 h)
  · rename_i hwhole
    rw [if_neg hwhole]
    exact ofRank_eq_finite_iff.2 (ofRank_eq_finite_iff.1 h)

/-- A whole decimal and its value have the same nearest number, if that is finite. -/
theorem nearest_whole {d : Decimal} {rank : Fin finiteCount}
    (h : d.nearest false = .finite false rank) (hexponent : 0 ≤ d.exponent) :
    Decimal.nearest false ⟨d.coefficient * Nat.pow 10 d.exponent.toNat, 0⟩ =
      .finite false rank := by
  unfold Decimal.nearest at h ⊢
  split at h
  · rename_i hzero
    rw [if_pos (mul_eq_zero_of_left hzero _)]
    exact h
  rename_i hzero
  split at h
  · cases h
  split at h
  · omega
  have hne := Nat.mul_ne_zero hzero (Nat.ne_of_gt (ten_pow_pos d.exponent.toNat))
  have hplain : d.coefficient * Nat.pow 10 d.exponent.toNat * Nat.pow 10 (Int.toNat 0) =
      d.coefficient * Nat.pow 10 d.exponent.toNat := Nat.mul_one _
  dsimp only
  rw [if_neg hne, if_neg (by decide), if_neg (by omega), if_pos (by decide), hplain]
  exact h

/-- Positional digits that denote a number are read as the number. -/
theorem read_positional {d : Decimal} {rank : Fin finiteCount}
    (h : d.nearest false = .finite false rank) (negative : Bool) :
    (Decimal.read d.positional).map (Decimal.nearest negative) = some (.finite negative rank) := by
  obtain ⟨-, hread | ⟨hexponent, hread⟩⟩ := d.read_positional
  · rw [hread, Option.map_some, nearest_of_nearest_false h]
  · rw [hread, Option.map_some, nearest_of_nearest_false (nearest_whole h hexponent)]

/-- The text of a finite number is a numeral, and reads as the number. -/
theorem read_text {x : Binary64} (h : x.isFinite = true) :
    IsNumber x.text.toList ∧ read x.text.toList = some x := by
  cases x with
  | nan => cases h
  | infinite => cases h
  | finite negative rank =>
    have hmagnitude := ((shortest .away rank).read_positional).1
    have hread := read_positional (nearest_shortest .away rank) negative
    rw [text, String.toList_ofList]
    cases negative with
    | false =>
      refine ⟨.plain hmagnitude, ?_⟩
      have hplain := read_plain hmagnitude
      rw [hread] at hplain
      exact hplain
    | true =>
      refine ⟨.minus hmagnitude, ?_⟩
      have hminus := read_minus hmagnitude
      rw [hread] at hminus
      exact hminus

end Binary64

end MetricCheck
