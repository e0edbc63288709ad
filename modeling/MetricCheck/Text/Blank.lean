-- White space. Rule text and metric text share one notion of a blank: the
-- Unicode property White_Space, given here as a table of code point ranges.
namespace MetricCheck.Text

/-- The code points of the property White_Space, as closed ranges in order. -/
def blankRanges : List (Nat × Nat) :=
  [(0x09, 0x0D), (0x20, 0x20), (0x85, 0x85), (0xA0, 0xA0), (0x1680, 0x1680), (0x2000, 0x200A),
   (0x2028, 0x2029), (0x202F, 0x202F), (0x205F, 0x205F), (0x3000, 0x3000)]

/-- A blank is a character of the property White_Space. -/
def isBlank (c : Char) : Bool :=
  blankRanges.any fun r => r.1 ≤ c.toNat && c.toNat ≤ r.2

/-- A blank inside a line: any blank but the newline. -/
def isInlineBlank (c : Char) : Bool :=
  c != '\n' && isBlank c

/-- The text without the blanks at its ends. -/
def trim (cs : List Char) : List Char :=
  ((cs.dropWhile isBlank).reverse.dropWhile isBlank).reverse

example : isBlank '\u0085' ∧ isBlank '\u2003' ∧ ¬ isBlank '\u200b' ∧ ¬ isBlank '\ufeff' := by
  decide

/-- What is left after dropping from the front is no longer than before. -/
theorem length_dropWhile_le {α : Type} (p : α → Bool) (xs : List α) :
    (xs.dropWhile p).length ≤ xs.length :=
  (List.dropWhile_sublist p).length_le

end MetricCheck.Text
