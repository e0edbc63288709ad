-- The tokens of rule text. A cursor walks the text; `next` reads a token at it
-- and `number` reads a bound, which overlaps with paths and so is asked for only
-- after an operator. Every step leaves a shorter text behind, up to its end.
import MetricCheck.RuleText.Error
import MetricCheck.Text.Blank

namespace MetricCheck

open Text

inductive Token where
  | tilde
  | operator (op : Operator)
  | comma
  /-- A run of characters that are no blanks; in a good text, a path. -/
  | text (run : String)
  | newline
  | endOfText
deriving DecidableEq

/-- A token as error messages name it. -/
def Token.describe : Token → String
  | .tilde => "'~'"
  | .operator op => "'" ++ op.text ++ "'"
  | .comma => "','"
  | .text run => "'" ++ run ++ "'"
  | .newline => "end of line"
  | .endOfText => "end of input"

/-- The text that is left to read, and the line on which it begins. -/
structure Cursor where
  rest : List Char
  line : Nat

namespace Cursor

/-- The cursor before a text. -/
def start (text : String) : Cursor := ⟨text.toList, 1⟩

/-- The next token after blanks. A comment is skipped, but not the newline that
ends it; a run begins with any character that no other token begins with, and
goes on to the next blank. -/
def next (c : Cursor) : Except ParseError.Cause (Token × Cursor) :=
  match c.rest.dropWhile isInlineBlank with
  | [] => .ok (.endOfText, ⟨[], c.line⟩)
  | '\n' :: r => .ok (.newline, ⟨r, c.line + 1⟩)
  | '/' :: '/' :: r =>
    match r.dropWhile (· != '\n') with
    | [] => .ok (.endOfText, ⟨[], c.line⟩)
    | _ :: r => .ok (.newline, ⟨r, c.line + 1⟩)
  | '/' :: _ => .error .loneSlash
  | '~' :: r => .ok (.tilde, ⟨r, c.line⟩)
  | '<' :: '=' :: r => .ok (.operator .lessEqual, ⟨r, c.line⟩)
  | '<' :: r => .ok (.operator .lessThan, ⟨r, c.line⟩)
  | '>' :: '=' :: r => .ok (.operator .greaterEqual, ⟨r, c.line⟩)
  | '>' :: r => .ok (.operator .greaterThan, ⟨r, c.line⟩)
  | ',' :: r => .ok (.comma, ⟨r, c.line⟩)
  | first :: r =>
    .ok (.text (String.ofList (first :: r.takeWhile fun d => !isBlank d)),
      ⟨r.dropWhile fun d => !isBlank d, c.line⟩)

/-- The characters that a bound is made of. -/
def isNumeral (c : Char) : Bool := c.isDigit || c == '.' || c == '-'

/-- The bound after an operator. Where no numeral stands, the next token is read
to say what stands there instead. -/
def number (c : Cursor) : Except ParseError.Cause (Binary64 × Cursor) :=
  let ahead := c.rest.dropWhile isInlineBlank
  let numeral := ahead.takeWhile isNumeral
  if numeral.isEmpty then
    match c.next with
    | .error cause => .error cause
    | .ok (.endOfText, _) => .error (.unexpectedEnd .number)
    | .ok (found, _) => .error (.expected .number found.describe)
  else
    match Binary64.read numeral with
    | some value => .ok (value, ⟨ahead.dropWhile isNumeral, c.line⟩)
    | none => .error (.invalidNumber (String.ofList numeral))

/-! ## Reading leaves less -/

/-- Every token but the end takes at least a character. -/
theorem next_shorter {c c' : Cursor} {t : Token} (h : c.next = .ok (t, c'))
    (ht : t ≠ .endOfText) : c'.rest.length < c.rest.length := by
  have hdrop := length_dropWhile_le isInlineBlank c.rest
  have hcomment := length_dropWhile_le (· != '\n')
  have hrun := length_dropWhile_le fun d => !isBlank d
  unfold next at h
  split at h
  case h_3 => split at h <;> grind
  all_goals grind

/-- No token adds to the text. -/
theorem next_le {c c' : Cursor} {t : Token} (h : c.next = .ok (t, c')) :
    c'.rest.length ≤ c.rest.length := by
  by_cases ht : t = .endOfText
  · subst ht
    unfold next at h
    split at h
    · cases h; simp
    · cases h
    · split at h
      · cases h; simp
      · cases h
    all_goals cases h
  · exact Nat.le_of_lt (next_shorter h ht)

/-- A bound takes at least a character. -/
theorem number_shorter {c c' : Cursor} {value : Binary64} (h : c.number = .ok (value, c')) :
    c'.rest.length < c.rest.length := by
  have hdrop := length_dropWhile_le isInlineBlank c.rest
  unfold number at h
  simp only at h
  split at h
  · split at h <;> cases h
  · rename_i hne
    split at h
    · cases h
      obtain ⟨d, ds, hds⟩ : ∃ d ds, c.rest.dropWhile isInlineBlank = d :: ds := by
        cases hahead : c.rest.dropWhile isInlineBlank with
        | nil => simp [hahead] at hne
        | cons d ds => exact ⟨d, ds, rfl⟩
      rw [hds] at hne hdrop ⊢
      have hd : isNumeral d = true := by
        by_cases hd : isNumeral d = true
        · exact hd
        · simp [hd] at hne
      have := length_dropWhile_le isNumeral ds
      simp [hd]
      simp at hdrop
      omega
    · cases h

end Cursor

end MetricCheck
