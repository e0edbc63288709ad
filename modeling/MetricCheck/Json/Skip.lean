-- Skipping a JSON value of any kind and depth. The open lists and objects are
-- kept on a stack, so that nesting costs no recursion.
import MetricCheck.Json.Number

namespace MetricCheck.Json

open Text

/-- A list or an object that is open around what is being read. -/
inductive Frame where
  | list
  | object
deriving DecidableEq

/-- The bracket that closes a frame. -/
def Frame.close : Frame → UInt8
  | .list => byte ']'
  | .object => byte '\x7d'

/-- What skipping looks for next. -/
inductive Expecting where
  | value
  /-- A key, and after it a value. -/
  | key
  /-- The first entry of the innermost frame, or its end. -/
  | entryOrEnd
  /-- A comma in the innermost frame, or its end; with no frame open, nothing. -/
  | commaOrEnd
deriving DecidableEq

/-- What each entry of a frame begins with. -/
def Frame.entry : Frame → Expecting
  | .list => .value
  | .object => .key

/-- Skips a value that is neither a list nor an object and begins with byte `b`. -/
def skipScalar (b : UInt8) (s : Bytes) : Except Defect Bytes :=
  if b = byte '"' then skipString s
  else if b = byte '-' then skipNumber s
  else if isDigit b then skipNumber (b :: s)
  else if b = byte 'n' then word "ull".toUTF8.data.toList s
  else if b = byte 't' then word "rue".toUTF8.data.toList s
  else if b = byte 'f' then word "alse".toUTF8.data.toList s
  else .error .malformed

theorem skipScalar_le {b : UInt8} {s r : Bytes} (h : skipScalar b s = .ok r) :
    r.length ≤ s.length := by
  unfold skipScalar at h
  split at h
  · exact Nat.le_of_lt (skipString_shorter h)
  split at h
  · exact Nat.le_of_lt (skipNumber_shorter h)
  split at h
  · exact Nat.le_of_lt_succ (by simpa using skipNumber_shorter h)
  split at h
  · exact word_le h
  split at h
  · exact word_le h
  split at h
  · exact word_le h
  · cases h

theorem colon_shorter {s r : Bytes} (h : colon s = .ok r) : r.length < s.length := by
  unfold colon skipSpace at h
  have := length_dropWhile_le isSpace s
  grind

/-- Skips to the end of the outermost frame, or of the value where none is open. -/
def skipWithin (expecting : Expecting) (frames : List Frame) (s : Bytes) :
    Except Defect Bytes :=
  match expecting, frames with
  | .commaOrEnd, [] => .ok s
  | .value, frames =>
    match _h : skipSpace s with
    | [] => .error .truncated
    | b :: r =>
      if b = byte '[' then skipWithin .entryOrEnd (.list :: frames) r
      else if b = byte '\x7b' then skipWithin .entryOrEnd (.object :: frames) r
      else
        match _hs : skipScalar b r with
        | .error d => .error d
        | .ok r => skipWithin .commaOrEnd frames r
  | .key, frames =>
    match _h : skipSpace s with
    | [] => .error .truncated
    | b :: r =>
      if b = byte '"' then
        match _hs : skipString r with
        | .error d => .error d
        | .ok r =>
          match _hc : colon r with
          | .error d => .error d
          | .ok r => skipWithin .value frames r
      else .error .malformed
  | .entryOrEnd, [] => .error .malformed
  | .entryOrEnd, frame :: frames =>
    match _h : skipSpace s with
    | [] => .error .truncated
    | b :: r =>
      if b = frame.close then skipWithin .commaOrEnd frames r
      else skipWithin frame.entry (frame :: frames) (b :: r)
  | .commaOrEnd, frame :: frames =>
    match _h : skipSpace s with
    | [] => .error .truncated
    | b :: r =>
      if b = byte ',' then skipWithin frame.entry (frame :: frames) r
      else if b = frame.close then skipWithin .commaOrEnd frames r
      else .error .malformed
termination_by (s.length, if expecting = .entryOrEnd then 1 else 0)
decreasing_by
  all_goals
    have hspace := length_dropWhile_le isSpace s
    have hlen := congrArg List.length _h
    simp only [skipSpace, List.length_cons] at hlen
  · exact Prod.Lex.left _ _ (by omega)
  · exact Prod.Lex.left _ _ (by omega)
  · have := skipScalar_le _hs
    exact Prod.Lex.left _ _ (by omega)
  · have := skipString_shorter _hs
    have := colon_shorter _hc
    exact Prod.Lex.left _ _ (by omega)
  · exact Prod.Lex.left _ _ (by omega)
  · rw [Prod.lex_def]
    have hentry : frame.entry ≠ .entryOrEnd := by cases frame <;> decide
    simp only [List.length_cons, hentry, if_false]
    simp
    omega
  · exact Prod.Lex.left _ _ (by omega)
  · exact Prod.Lex.left _ _ (by omega)

/-- Skips a value. -/
def skipValue (s : Bytes) : Except Defect Bytes := skipWithin .value [] s

theorem skipWithin_le {expecting : Expecting} {frames : List Frame} {s r : Bytes}
    (h : skipWithin expecting frames s = .ok r) : r.length ≤ s.length := by
  have hspace := length_dropWhile_le isSpace
  fun_induction skipWithin expecting frames s <;>
    grind [skipSpace, → skipScalar_le, → skipString_shorter, → colon_shorter]

theorem skipValue_shorter {s r : Bytes} (h : skipValue s = .ok r) : r.length < s.length := by
  have hspace := length_dropWhile_le isSpace
  unfold skipValue skipWithin at h
  grind [skipSpace, → skipScalar_le, → skipWithin_le]

end MetricCheck.Json
