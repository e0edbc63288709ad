-- Patterns may be spaced out: then blanks and comments between their characters have
-- no meaning.
import MetricCheck.Text.Blank

namespace MetricCheck.Log

/-- What is left after blanks and comments. A comment goes from a number sign to the
end of the line. -/
def skipComments : (inComment : Bool) → List Char → List Char
  | _, [] => []
  | true, c :: cs => skipComments (c != '\n') cs
  | false, c :: cs =>
    if Text.isBlank c then skipComments false cs
    else if c = '#' then skipComments true cs
    else c :: cs

/-- Skips blanks and comments where the pattern is spaced out. -/
def skipSpacing (spaced : Bool) (cs : List Char) : List Char :=
  if spaced then skipComments false cs else cs

theorem length_skipComments_le (inComment : Bool) (cs : List Char) :
    (skipComments inComment cs).length ≤ cs.length := by
  induction cs generalizing inComment with
  | nil => cases inComment <;> simp [skipComments]
  | cons c cs ih =>
    cases inComment with
    | true => exact Nat.le_succ_of_le (ih _)
    | false =>
      unfold skipComments
      split
      · exact Nat.le_succ_of_le (ih _)
      · split
        · exact Nat.le_succ_of_le (ih _)
        · exact Nat.le_refl _

theorem length_skipSpacing_le (spaced : Bool) (cs : List Char) :
    (skipSpacing spaced cs).length ≤ cs.length := by
  unfold skipSpacing
  split
  · exact length_skipComments_le false cs
  · exact Nat.le_refl _

/-- The characters that belong to a class as far as they go, with spacing skipped after
each of them, and what is left. -/
def takeSpaced (spaced : Bool) (belongs : Char → Bool) : List Char → List Char × List Char
  | [] => ([], [])
  | c :: cs =>
    if belongs c then
      let (more, rest) := takeSpaced spaced belongs (skipSpacing spaced cs)
      (c :: more, rest)
    else ([], c :: cs)
termination_by cs => cs.length
decreasing_by exact Nat.lt_succ_of_le (length_skipSpacing_le spaced cs)

end MetricCheck.Log
