-- Documents as bytes, and the smallest pieces of JSON: white space, words, digits
-- and strings. A string is read in full where its text is wanted; where it is
-- skipped, neither its UTF-8 nor its surrogates need be valid.
import MetricCheck.Json.Defect

namespace MetricCheck.Json

/-- A document, or what is left of one. -/
abbrev Bytes := List UInt8

/-- The byte of an ASCII character. -/
def byte (c : Char) : UInt8 := c.toUInt8

def isSpace (b : UInt8) : Bool :=
  b == byte ' ' || b == byte '\n' || b == byte '\t' || b == byte '\r'

def skipSpace (s : Bytes) : Bytes := s.dropWhile isSpace

def isDigit (b : UInt8) : Bool := byte '0' ≤ b && b ≤ byte '9'

def digitValue (b : UInt8) : Nat := b.toNat - 48

/-- Reads exactly these bytes. -/
def word : (expected : Bytes) → Bytes → Except Defect Bytes
  | [], s => .ok s
  | _ :: _, [] => .error .truncated
  | e :: expected, b :: s => if b = e then word expected s else .error .malformed

/-- Reads the colon after a key. -/
def colon (s : Bytes) : Except Defect Bytes :=
  match skipSpace s with
  | [] => .error .truncated
  | b :: r => if b = byte ':' then .ok r else .error .malformed

/-! ## Escapes -/

/-- A hexadecimal digit of either case. -/
def hexDigit (b : UInt8) : Option Nat :=
  if isDigit b then some (digitValue b)
  else if byte 'a' ≤ b && b ≤ byte 'f' then some (b.toNat - 87)
  else if byte 'A' ≤ b && b ≤ byte 'F' then some (b.toNat - 55)
  else none

/-- Four hexadecimal digits. They are looked at only when all four are there. -/
def hex4 : Bytes → Except Defect (Nat × Bytes)
  | a :: b :: c :: d :: s =>
    match hexDigit a, hexDigit b, hexDigit c, hexDigit d with
    | some a, some b, some c, some d => .ok (a * 4096 + b * 256 + c * 16 + d, s)
    | _, _, _, _ => .error .malformed
  | _ => .error .truncated

/-- What a letter after a backslash stands for, if it stands for one byte. -/
def letterEscape (b : UInt8) : Option UInt8 :=
  if b = byte '"' ∨ b = byte '\\' ∨ b = byte '/' then some b
  else if b = byte 'b' then some 0x08
  else if b = byte 'f' then some 0x0C
  else if b = byte 'n' then some 0x0A
  else if b = byte 'r' then some 0x0D
  else if b = byte 't' then some 0x09
  else none

def isHighSurrogate (n : Nat) : Bool := 0xD800 ≤ n && n ≤ 0xDBFF

def isLowSurrogate (n : Nat) : Bool := 0xDC00 ≤ n && n ≤ 0xDFFF

/-- The second half of a surrogate pair: another escape, for a low surrogate. -/
def lowSurrogate (s : Bytes) : Except Defect (Nat × Bytes) :=
  match word [byte '\\', byte 'u'] s with
  | .error d => .error d
  | .ok s =>
    match hex4 s with
    | .error d => .error d
    | .ok (n, s) => if isLowSurrogate n then .ok (n, s) else .error .malformed

/-- The character of a numeric escape, after its letter. -/
def numericEscape (s : Bytes) : Except Defect (Char × Bytes) :=
  match hex4 s with
  | .error d => .error d
  | .ok (n, s) =>
    if isLowSurrogate n then .error .malformed
    else if isHighSurrogate n then
      match lowSurrogate s with
      | .error d => .error d
      | .ok (m, s) => .ok (Char.ofNat (0x10000 + (n - 0xD800) * 0x400 + (m - 0xDC00)), s)
    else .ok (Char.ofNat n, s)

/-- The bytes that an escape stands for, after its backslash. -/
def escape : Bytes → Except Defect (Bytes × Bytes)
  | [] => .error .truncated
  | b :: s =>
    match letterEscape b with
    | some meant => .ok ([meant], s)
    | none =>
      if b = byte 'u' then
        match numericEscape s with
        | .error d => .error d
        | .ok (c, s) => .ok (String.utf8EncodeChar c, s)
      else .error .malformed

theorem hex4_shorter {s r : Bytes} {n : Nat} (h : hex4 s = .ok (n, r)) : r.length < s.length := by
  unfold hex4 at h
  split at h
  · split at h
    · cases h; simp; omega
    · cases h
  · cases h

theorem word_le {e s r : Bytes} (h : word e s = .ok r) : r.length ≤ s.length := by
  fun_induction word e s with
  | case1 => cases h; exact Nat.le_refl _
  | case2 => cases h
  | case3 es b s ih => have := ih h; simp; omega
  | case4 => cases h

theorem numericEscape_shorter {s r : Bytes} {c : Char} (h : numericEscape s = .ok (c, r)) :
    r.length < s.length := by
  unfold numericEscape lowSurrogate at h
  grind [→ hex4_shorter, → word_le]

theorem escape_shorter {s r out : Bytes} (h : escape s = .ok (out, r)) :
    r.length < s.length := by
  unfold escape at h
  grind [→ numericEscape_shorter]

/-- Skips an escape, after its backslash. -/
def skipEscape : Bytes → Except Defect Bytes
  | [] => .error .truncated
  | b :: s =>
    if (letterEscape b).isSome then .ok s
    else if b = byte 'u' then
      match hex4 s with
      | .error d => .error d
      | .ok (_, s) => .ok s
    else .error .malformed

theorem skipEscape_shorter {s r : Bytes} (h : skipEscape s = .ok r) : r.length < s.length := by
  unfold skipEscape at h
  grind [→ hex4_shorter]

/-! ## Strings -/

/-- The bytes of a string, after its opening quote. -/
def stringBytes (read : Array UInt8) (s : Bytes) : Except Defect (Array UInt8 × Bytes) :=
  match s with
  | [] => .error .truncated
  | b :: s =>
    if b = byte '"' then .ok (read, s)
    else if b = byte '\\' then
      match _h : escape s with
      | .error d => .error d
      | .ok (meant, r) => stringBytes (read ++ meant) r
    else if b < 0x20 then .error .malformed
    else stringBytes (read.push b) s
termination_by s.length
decreasing_by
  · have := escape_shorter _h; simp; omega
  · simp

/-- A string, after its opening quote. Its bytes must be UTF-8. -/
def readString (s : Bytes) : Except Defect (String × Bytes) :=
  match stringBytes #[] s with
  | .error d => .error d
  | .ok (read, r) =>
    match String.fromUTF8? ⟨read⟩ with
    | some text => .ok (text, r)
    | none => .error .malformed

/-- Skips a string, after its opening quote. -/
def skipString (s : Bytes) : Except Defect Bytes :=
  match s with
  | [] => .error .truncated
  | b :: s =>
    if b = byte '"' then .ok s
    else if b = byte '\\' then
      match _h : skipEscape s with
      | .error d => .error d
      | .ok r => skipString r
    else if b < 0x20 then .error .malformed
    else skipString s
termination_by s.length
decreasing_by
  · have := skipEscape_shorter _h; simp; omega
  · simp

theorem stringBytes_shorter {read out : Array UInt8} {s r : Bytes}
    (h : stringBytes read s = .ok (out, r)) : r.length < s.length := by
  fun_induction stringBytes read s with
  | case4 read s meant r₁ hesc hq ih =>
    have := escape_shorter hesc
    have := ih h
    simp; omega
  | case6 read b s hq hb hc ih => have := ih h; simp; omega
  | case2 => cases h; simp
  | _ => cases h

theorem readString_shorter {s r : Bytes} {text : String} (h : readString s = .ok (text, r)) :
    r.length < s.length := by
  unfold readString at h
  split at h
  · cases h
  · rename_i hread
    split at h <;> cases h
    exact stringBytes_shorter hread

theorem skipString_shorter {s r : Bytes} (h : skipString s = .ok r) : r.length < s.length := by
  fun_induction skipString s with
  | case2 => cases h; simp
  | case4 s r₁ hesc hq ih =>
    have := skipEscape_shorter hesc
    have := ih h
    simp; omega
  | case6 b s hq hb hc ih => have := ih h; simp; omega
  | _ => cases h

end MetricCheck.Json
