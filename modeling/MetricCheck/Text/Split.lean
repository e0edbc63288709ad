-- Cutting text into pieces. `splitBy` cuts at every separator and keeps the
-- empty pieces; `fields` cuts at blanks and drops them.
import MetricCheck.Text.Blank

namespace MetricCheck.Text

/-- The pieces between the separators, in order: one more piece than there are
separators, empty ones included. -/
def splitBy (separates : Char → Bool) (cs : List Char) : List (List Char) :=
  cs.foldr
    (fun c pieces =>
      if separates c then [] :: pieces else (c :: pieces.headD []) :: pieces.tail)
    [[]]

/-- The lines of a text, without their newlines. A text that ends with a newline
has an empty last line. -/
def lines (cs : List Char) : List (List Char) := splitBy (· == '\n') cs

/-- The maximal runs of characters that are no blanks. -/
def fields (cs : List Char) : List (List Char) :=
  (splitBy isBlank cs).filter fun piece => !piece.isEmpty

/-! ## Laws of the pieces -/

@[simp] theorem splitBy_nil (p : Char → Bool) : splitBy p [] = [[]] := rfl

theorem splitBy_ne_nil (p : Char → Bool) (cs : List Char) : splitBy p cs ≠ [] := by
  cases cs with
  | nil => simp
  | cons c cs => by_cases h : p c <;> simp [splitBy, h]

theorem splitBy_cons_of_pos {p : Char → Bool} {c : Char} (h : p c) (cs : List Char) :
    splitBy p (c :: cs) = [] :: splitBy p cs := by
  simp [splitBy, h]

theorem splitBy_cons_of_neg {p : Char → Bool} {c : Char} (h : ¬ p c) (cs : List Char) :
    splitBy p (c :: cs) = (c :: (splitBy p cs).headD []) :: (splitBy p cs).tail := by
  simp [splitBy, h]

/-- Text without a separator is one piece. -/
theorem splitBy_of_forall {p : Char → Bool} {cs : List Char} (h : ∀ c ∈ cs, ¬ p c) :
    splitBy p cs = [cs] := by
  induction cs with
  | nil => rfl
  | cons c cs ih =>
    rw [splitBy_cons_of_neg (h c (by simp)), ih fun d hd => h d (by simp [hd])]
    rfl

/-- A separator between two texts cuts between their pieces. -/
theorem splitBy_append_cons {p : Char → Bool} {c : Char} (h : p c) (a b : List Char) :
    splitBy p (a ++ c :: b) = splitBy p a ++ splitBy p b := by
  induction a with
  | nil => simp [splitBy_cons_of_pos h]
  | cons d a ih =>
    by_cases hd : p d
    · simp [splitBy_cons_of_pos hd, ih]
    · rw [List.cons_append, splitBy_cons_of_neg hd, splitBy_cons_of_neg hd, ih]
      obtain ⟨x, xs, hx⟩ := List.exists_cons_of_ne_nil (splitBy_ne_nil p a)
      simp [hx]

/-- No piece holds a separator. -/
theorem not_separates_of_mem_splitBy {p : Char → Bool} {cs piece : List Char}
    (h : piece ∈ splitBy p cs) : ∀ c ∈ piece, ¬ p c := by
  induction cs generalizing piece with
  | nil => simp_all
  | cons d cs ih =>
    by_cases hd : p d
    · rw [splitBy_cons_of_pos hd] at h
      rcases List.mem_cons.1 h with rfl | h
      · simp
      · exact ih h
    · rw [splitBy_cons_of_neg hd] at h
      obtain ⟨x, xs, hx⟩ := List.exists_cons_of_ne_nil (splitBy_ne_nil p cs)
      rw [hx] at h ih
      rcases List.mem_cons.1 h with rfl | h
      · intro c hc
        rcases List.mem_cons.1 hc with rfl | hc
        · exact hd
        · exact ih List.mem_cons_self c hc
      · exact ih (List.mem_cons_of_mem _ (by simpa using h))

end MetricCheck.Text
