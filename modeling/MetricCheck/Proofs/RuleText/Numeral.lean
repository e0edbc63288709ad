-- The numerals of rule text. Of the number texts only those without exponents and
-- words can stand there, and the reader takes exactly the ones that have a digit, at
-- most one point and a minus sign at most in front.
import MetricCheck.Proofs.RuleText.Token

namespace MetricCheck

/-- Only decimal digits. -/
def IsDigits (cs : List Char) : Prop := ∀ c ∈ cs, c.isDigit = true

/-- Digits with at most one point among them, one digit at least. -/
inductive IsMagnitude : List Char → Prop
  | whole {digits : List Char} (hne : digits ≠ []) (h : IsDigits digits) : IsMagnitude digits
  | pointed {whole places : List Char} (hne : whole ++ places ≠ []) (hwhole : IsDigits whole)
      (hplaces : IsDigits places) : IsMagnitude (whole ++ '.' :: places)

/-- A magnitude, perhaps with a minus sign before it. -/
inductive IsNumber : List Char → Prop
  | plain {cs : List Char} (h : IsMagnitude cs) : IsNumber cs
  | minus {cs : List Char} (h : IsMagnitude cs) : IsNumber ('-' :: cs)

/-- Only characters of numerals. -/
def IsNumeral (cs : List Char) : Prop := ∀ c ∈ cs, Cursor.isNumeral c = true

/-! ## Characters -/

theorem isNumeral_of_isDigit {c : Char} (h : c.isDigit = true) : Cursor.isNumeral c = true := by
  simp [Cursor.isNumeral, h]

theorem IsDigits.isNumeral {cs : List Char} (h : IsDigits cs) : IsNumeral cs :=
  fun c hc => isNumeral_of_isDigit (h c hc)

theorem IsMagnitude.isNumeral {cs : List Char} (h : IsMagnitude cs) : IsNumeral cs := by
  cases h with
  | whole _ h => exact h.isNumeral
  | pointed _ hwhole hplaces =>
    intro c hc
    rcases List.mem_append.1 hc with hc | hc
    · exact hwhole.isNumeral c hc
    · rcases List.mem_cons.1 hc with rfl | hc
      · rfl
      · exact hplaces.isNumeral c hc

theorem IsNumber.isNumeral {cs : List Char} (h : IsNumber cs) : IsNumeral cs := by
  cases h with
  | plain h => exact h.isNumeral
  | minus h => exact List.forall_mem_cons.2 ⟨rfl, h.isNumeral⟩

theorem IsMagnitude.ne_nil {cs : List Char} (h : IsMagnitude cs) : cs ≠ [] := by
  cases h with
  | whole hne => exact hne
  | pointed => simp

theorem IsNumber.ne_nil {cs : List Char} (h : IsNumber cs) : cs ≠ [] := by
  cases h with
  | plain h => exact h.ne_nil
  | minus => simp

/-- A magnitude begins with a digit or a point. -/
theorem IsMagnitude.head?_ne_minus {cs : List Char} (h : IsMagnitude cs) : cs.head? ≠ some '-' := by
  cases h with
  | whole _ h =>
    intro hminus
    have hdigit := h '-' (List.mem_of_mem_head? hminus)
    cases hdigit
  | @pointed whole places _ hwhole =>
    intro hminus
    cases whole with
    | nil => cases hminus
    | cons c whole =>
      obtain rfl : c = '-' := by simpa using hminus
      have hdigit := hwhole '-' List.mem_cons_self
      cases hdigit

/-! ## Magnitudes -/

namespace Decimal

theorem read_whole {digits : List Char} (hne : digits ≠ []) (h : IsDigits digits) :
    read digits = some ⟨Nat.ofDigitChars 10 digits 0, 0⟩ := by
  unfold read
  rw [List.takeWhile_eq_self_iff.2 h, List.dropWhile_eq_nil_iff.2 h]
  simp [hne, readExponent]

theorem read_pointed {whole places : List Char} (hne : whole ++ places ≠ [])
    (hwhole : IsDigits whole) (hplaces : IsDigits places) :
    read (whole ++ '.' :: places) =
      some ⟨Nat.ofDigitChars 10 (whole ++ places) 0, -places.length⟩ := by
  have htake : (whole ++ '.' :: places).takeWhile Char.isDigit = whole := by
    rw [List.takeWhile_append_of_pos hwhole, List.takeWhile_cons_of_neg (by decide),
      List.append_nil]
  have hdrop : (whole ++ '.' :: places).dropWhile Char.isDigit = '.' :: places := by
    rw [List.dropWhile_append_of_pos hwhole, List.dropWhile_cons_of_neg (by decide)]
  have hsome : (whole.isEmpty && places.isEmpty) = false := by
    rw [Bool.and_eq_false_iff, List.isEmpty_eq_false_iff, List.isEmpty_eq_false_iff]
    by_contra hnone
    simp only [not_or, not_not] at hnone
    simp [hnone] at hne
  unfold read
  simp only [htake, hdrop, List.takeWhile_eq_self_iff.2 hplaces,
    List.dropWhile_eq_nil_iff.2 hplaces, hsome]
  simp [readExponent]

/-- Nothing after the digits of a numeral is an exponent. -/
theorem eq_nil_of_readExponent {cs : List Char} {e : Int} (hcs : IsNumeral cs)
    (h : readExponent cs = some e) : cs = [] := by
  cases cs with
  | nil => rfl
  | cons c cs =>
    have hc : Cursor.isNumeral c = true := hcs c List.mem_cons_self
    have hletter : ¬ (c = 'e' ∨ c = 'E') := by
      rintro (rfl | rfl)
      · cases hc
      · cases hc
    rw [readExponent, if_neg hletter] at h
    cases h

/-- Where no exponent can stand, only magnitudes are read. -/
theorem isMagnitude_of_read {cs : List Char} {d : Decimal} (hcs : IsNumeral cs)
    (h : read cs = some d) : IsMagnitude cs := by
  have hwhole : IsDigits (cs.takeWhile Char.isDigit) := fun c hc => List.mem_takeWhile_imp hc
  have hsplit := List.takeWhile_append_dropWhile (p := Char.isDigit) (l := cs)
  have hrest : IsNumeral (cs.dropWhile Char.isDigit) := fun c hc =>
    hcs c (List.dropWhile_subset _ hc)
  unfold read at h
  simp only at h
  generalize cs.takeWhile Char.isDigit = whole at h hwhole hsplit
  generalize cs.dropWhile Char.isDigit = rest at h hrest hsplit
  split at h
  · rename_i r
    rw [ite_eq_iff] at h
    obtain ⟨-, hnone⟩ | ⟨hsome, h⟩ := h
    · cases hnone
    obtain ⟨e, he, -⟩ := Option.map_eq_some_iff.1 h
    have hplaces : IsDigits (r.takeWhile Char.isDigit) := fun c hc => List.mem_takeWhile_imp hc
    have hr : IsNumeral (r.dropWhile Char.isDigit) := fun c hc =>
      hrest c (List.mem_cons_of_mem _ (List.dropWhile_subset _ hc))
    have hnil : r.dropWhile Char.isDigit = [] := eq_nil_of_readExponent hr he
    have hall : r.takeWhile Char.isDigit = r := by
      simpa [hnil] using List.takeWhile_append_dropWhile (p := Char.isDigit) (l := r)
    rw [hall] at hplaces hsome
    rw [← hsplit]
    exact .pointed (by simpa using hsome) hwhole hplaces
  · rw [ite_eq_iff] at h
    obtain ⟨-, hnone⟩ | ⟨hsome, h⟩ := h
    · cases hnone
    obtain ⟨e, he, -⟩ := Option.map_eq_some_iff.1 h
    obtain rfl := eq_nil_of_readExponent hrest he
    rw [← hsplit, List.append_nil]
    exact .whole (by simpa using hsome) hwhole

/-- Among numerals the reader takes magnitudes and nothing else. -/
theorem read_isSome_iff {cs : List Char} (hcs : IsNumeral cs) :
    (read cs).isSome = true ↔ IsMagnitude cs := by
  constructor
  · intro h
    obtain ⟨d, hd⟩ := Option.isSome_iff_exists.1 h
    exact isMagnitude_of_read hcs hd
  · intro h
    cases h with
    | whole hne h => rw [read_whole hne h, Option.isSome_some]
    | pointed hne hwhole hplaces => rw [read_pointed hne hwhole hplaces, Option.isSome_some]

end Decimal

/-! ## Signs -/

namespace Binary64

theorem toLower_of_isNumeral {c : Char} (h : Cursor.isNumeral c = true) : c.toLower = c := by
  have hrange := toNat_of_isNumeral h
  have hupper : ¬ (c.val ≥ 'A'.val ∧ c.val ≤ 'Z'.val) := by
    rintro ⟨hA, -⟩
    have hA : 65 ≤ c.toNat := UInt32.le_iff_toNat_le.1 hA
    omega
  exact dif_neg hupper

/-- A numeral is no word. -/
theorem readUnsigned_eq {cs : List Char} (hcs : IsNumeral cs) (negative : Bool) :
    readUnsigned negative cs = (Decimal.read cs).map (Decimal.nearest negative) := by
  have hlower : cs.map Char.toLower = cs := by
    rw [List.map_congr_left fun c hc => toLower_of_isNumeral (hcs c hc), List.map_id']
  have hword : ∀ word : List Char, word.any (fun c => !Cursor.isNumeral c) = true → cs ≠ word := by
    rintro word hany rfl
    obtain ⟨c, hc, hno⟩ := List.any_eq_true.1 hany
    simp [hcs c hc] at hno
  unfold readUnsigned
  rw [hlower]
  dsimp only
  rw [if_neg (not_or.2 ⟨hword _ (by decide), hword _ (by decide)⟩), if_neg (hword _ (by decide))]

/-- A number with a plain magnitude is the decimal's nearest. -/
theorem read_plain {cs : List Char} (h : IsMagnitude cs) :
    read cs = (Decimal.read cs).map (Decimal.nearest false) := by
  rw [← readUnsigned_eq h.isNumeral]
  unfold read
  split
  · exact absurd rfl h.head?_ne_minus
  · have hplus := h.isNumeral '+' List.mem_cons_self
    cases hplus
  · rfl

theorem read_minus {cs : List Char} (h : IsMagnitude cs) :
    read ('-' :: cs) = (Decimal.read cs).map (Decimal.nearest true) :=
  readUnsigned_eq h.isNumeral true

/-- Among numerals the reader takes numbers and nothing else. -/
theorem read_isSome_iff {cs : List Char} (hcs : IsNumeral cs) :
    (read cs).isSome = true ↔ IsNumber cs := by
  constructor
  · intro h
    unfold read at h
    split at h
    · rename_i r
      have hr : IsNumeral r := (List.forall_mem_cons.1 hcs).2
      rw [readUnsigned_eq hr, Option.isSome_map, Decimal.read_isSome_iff hr] at h
      exact .minus h
    · have hplus := hcs '+' List.mem_cons_self
      cases hplus
    · rw [readUnsigned_eq hcs, Option.isSome_map, Decimal.read_isSome_iff hcs] at h
      exact .plain h
  · intro h
    cases h with
    | plain h => rwa [read_plain h, Option.isSome_map, Decimal.read_isSome_iff hcs]
    | minus h => rwa [read_minus h, Option.isSome_map, Decimal.read_isSome_iff h.isNumeral]

end Binary64

end MetricCheck
