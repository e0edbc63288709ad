-- Reading rule text. A line holds at most one rule:
--
--   [~] path [ operator number { , operator number } ]
--
-- Rules are read one after the other; the first defect ends the reading, and
-- its line is the line on which the rule at fault begins.
import MetricCheck.RuleText.Token
import MetricCheck.Rule.Basic

namespace MetricCheck

/-- A rule and the line on which it begins. -/
structure LocatedRule where
  line : Nat
  rule : Rule
deriving DecidableEq

namespace Cursor

/-- The first token from the cursor on that is no newline. -/
def nextOnLine (c : Cursor) : Except ParseError (Token × Cursor) :=
  match _h : c.next with
  | .error cause => .error ⟨c.line, cause⟩
  | .ok (.newline, c') => c'.nextOnLine
  | .ok found => .ok found
termination_by c.rest.length
decreasing_by exact next_shorter _h (by simp)

/-- The constraints of a rule, from the token `t` and the cursor after it up to
the end of the line. -/
def constraints (t : Token) (c : Cursor) :
    Except ParseError.Cause (List Constraint × Cursor) :=
  match t with
  | .operator op =>
    match _hn : c.number with
    | .error cause => .error cause
    | .ok (bound, c₁) =>
      match _hc : c₁.next with
      | .error cause => .error cause
      | .ok (.newline, c₂) => .ok ([⟨op, bound⟩], c₂)
      | .ok (.endOfText, c₂) => .ok ([⟨op, bound⟩], c₂)
      | .ok (.comma, c₂) =>
        match _ht : c₂.next with
        | .error cause => .error cause
        | .ok (t', c₃) =>
          match constraints t' c₃ with
          | .error cause => .error cause
          | .ok (more, c₄) => .ok (⟨op, bound⟩ :: more, c₄)
      | .ok (other, _) => .error (.expected .comma other.describe)
  | .endOfText => .error (.unexpectedEnd .operator)
  | other => .error (.expected .operator other.describe)
termination_by c.rest.length
decreasing_by
  have := number_shorter _hn
  have := next_le _hc
  have := next_le _ht
  omega

/-- The rest of a rule, from the token that should be its path. -/
def ruleAt (required : Bool) (t : Token) (c : Cursor) :
    Except ParseError.Cause (Rule × Cursor) :=
  match t with
  | .text path =>
    match c.next with
    | .error cause => .error cause
    | .ok (.newline, c₁) => .ok (⟨path, required, []⟩, c₁)
    | .ok (.endOfText, c₁) => .ok (⟨path, required, []⟩, c₁)
    | .ok (t', c₁) =>
      match constraints t' c₁ with
      | .error cause => .error cause
      | .ok (found, c₂) => .ok (⟨path, required, found⟩, c₂)
  | .endOfText => .error (.unexpectedEnd .path)
  | other => .error (.expected .path other.describe)

/-- A rule, from its first token: a tilde before the path makes it optional. -/
def ruleFrom (t : Token) (c : Cursor) : Except ParseError.Cause (Rule × Cursor) :=
  match t with
  | .tilde =>
    match c.next with
    | .error cause => .error cause
    | .ok (t', c₁) => ruleAt false t' c₁
  | t => ruleAt true t c

/-- The next rule of the text, or none at its end. -/
def nextRule (c : Cursor) : Except ParseError (Option LocatedRule × Cursor) :=
  match c.nextOnLine with
  | .error e => .error e
  | .ok (.endOfText, c₁) => .ok (none, c₁)
  | .ok (t, c₁) =>
    match ruleFrom t c₁ with
    | .error cause => .error ⟨c₁.line, cause⟩
    | .ok (rule, c₂) => .ok (some ⟨c₁.line, rule⟩, c₂)

/-! ## Reading leaves less -/

theorem nextOnLine_shorter {c c' : Cursor} {t : Token} (h : c.nextOnLine = .ok (t, c'))
    (ht : t ≠ .endOfText) : c'.rest.length < c.rest.length := by
  fun_induction nextOnLine c with
  | case1 => cases h
  | case2 c c₁ hnext ih =>
    have := next_shorter hnext (by simp)
    have := ih h
    omega
  | case3 c found hne hnext =>
    cases h
    exact next_shorter hnext ht

theorem constraints_le {t : Token} {c c' : Cursor} {found : List Constraint}
    (h : constraints t c = .ok (found, c')) : c'.rest.length ≤ c.rest.length := by
  fun_induction constraints t c generalizing found c' with
  | case3 c op bound c₁ hn c₂ hc =>
    cases h
    have := number_shorter hn
    have := next_le hc
    omega
  | case4 c op bound c₁ hn c₂ hc =>
    cases h
    have := number_shorter hn
    have := next_le hc
    omega
  | case7 c op bound c₁ hn c₂ hc t' c₃ ht more c₄ hmore ih =>
    cases h
    have := number_shorter hn
    have := next_le hc
    have := next_le ht
    have := ih hmore
    omega
  | _ => cases h

theorem ruleAt_le {required : Bool} {t : Token} {c c' : Cursor} {rule : Rule}
    (h : ruleAt required t c = .ok (rule, c')) : c'.rest.length ≤ c.rest.length := by
  unfold ruleAt at h
  split at h
  · split at h
    · cases h
    · rename_i hnext; cases h; exact next_le hnext
    · rename_i hnext; cases h; exact next_le hnext
    · rename_i hnext
      split at h
      · cases h
      · rename_i hc
        cases h
        exact Nat.le_trans (constraints_le hc) (next_le hnext)
  · cases h
  · cases h

theorem ruleFrom_le {t : Token} {c c' : Cursor} {rule : Rule}
    (h : ruleFrom t c = .ok (rule, c')) : c'.rest.length ≤ c.rest.length := by
  unfold ruleFrom at h
  split at h
  · split at h
    · cases h
    · rename_i hnext
      exact Nat.le_trans (ruleAt_le h) (next_le hnext)
  · exact ruleAt_le h

/-- A rule takes at least a character. -/
theorem nextRule_shorter {c c' : Cursor} {found : LocatedRule}
    (h : c.nextRule = .ok (some found, c')) : c'.rest.length < c.rest.length := by
  unfold nextRule at h
  split at h
  · cases h
  · cases h
  · rename_i hne hnext
    split at h
    · cases h
    · rename_i hrule
      cases h
      exact Nat.lt_of_le_of_lt (ruleFrom_le hrule) (nextOnLine_shorter hnext (by simpa using hne))

end Cursor

/-! ## Whole texts -/

/-- What reading a whole text came to: the rules read before it ended, and how it
ended, at the end of the text with a count of its lines or at a defect. -/
structure RuleReading where
  found : List LocatedRule
  ending : Except ParseError Nat

namespace RuleReading

/-- Reads rule after rule from the cursor on. -/
def fromCursor (c : Cursor) : RuleReading :=
  match _h : c.nextRule with
  | .error e => ⟨[], .error e⟩
  | .ok (none, c') => ⟨[], .ok c'.line⟩
  | .ok (some located, c') =>
    let later := fromCursor c'
    ⟨located :: later.found, later.ending⟩
termination_by c.rest.length
decreasing_by exact Cursor.nextRule_shorter _h

def ofText (text : String) : RuleReading := fromCursor (.start text)

/-- The rules, unless a defect ended the reading. -/
def rules (reading : RuleReading) : Except ParseError (List Rule) :=
  match reading.ending with
  | .error e => .error e
  | .ok _ => .ok (reading.found.map LocatedRule.rule)

end RuleReading

/-- The rules of a text in order, or the first defect. -/
def parseRules (text : String) : Except ParseError (List Rule) :=
  (RuleReading.ofText text).rules

/-- The rule of a text that must hold exactly one. -/
def parseRule (text : String) : Except ParseError Rule :=
  match (Cursor.start text).nextRule with
  | .error e => .error e
  | .ok (none, _) => .error ⟨1, .unexpectedEnd .path⟩
  | .ok (some located, c) =>
    match c.nextRule with
    | .error e => .error e
    | .ok (none, _) => .ok located.rule
    | .ok (some second, _) => .error ⟨second.line, .trailingRule⟩

end MetricCheck
