-- Readers of typed JSON. A reader takes one value off a document; the readers of
-- lists and records are built from those of their parts. The first defect in the
-- order of the document decides.
import MetricCheck.Json.Skip

namespace MetricCheck.Json

open Text

variable {α β σ : Type}

/-- Reads a value from the front of a document. It takes at least a byte. -/
structure Reader (α : Type) where
  read : Bytes → Except Defect (α × Bytes)
  shorter : ∀ {s r : Bytes} {x : α}, read s = .ok (x, r) → r.length < s.length

/-- A named part of a record that is gathered in a state of type `σ`. -/
structure Field (σ : Type) where
  name : String
  /-- Whether the state has the field already. -/
  isSet : σ → Bool
  /-- Reads the field's value into a state. -/
  reader : σ → Reader σ

/-- The defect of a value that begins with byte `b` where another type is wanted.
A scalar is read first, so that a defect of its own comes before the mismatch. -/
def unwanted (wanted : String) (b : UInt8) (s : Bytes) : Defect :=
  let mismatch := fun found => Defect.mismatch (.invalidType found wanted)
  let named := fun (letters : String) found =>
    match word letters.toUTF8.data.toList s with
    | .error d => d
    | .ok _ => mismatch found
  let number := fun negative digits =>
    match readNumber negative digits with
    | .error d => d
    | .ok found => mismatch found
  if b = byte 'n' then named "ull" .null
  else if b = byte 't' then named "rue" (.boolean true)
  else if b = byte 'f' then named "alse" (.boolean false)
  else if b = byte '-' then number true s
  else if isDigit b then number false (b :: s)
  else if b = byte '"' then
    match readString s with
    | .error d => d
    | .ok (text, _) => mismatch (.string text)
  else if b = byte '[' then mismatch .sequence
  else if b = byte '\x7b' then mismatch .map
  else .malformed

/-! ## Separators -/

/-- The element that comes next in a list, or none before its end. -/
def nextElement (first : Bool) (s : Bytes) : Except Defect (Option Bytes) :=
  match skipSpace s with
  | [] => .error .truncated
  | b :: r =>
    if b = byte ']' then .ok none
    else if first then .ok (some (b :: r))
    else if b = byte ',' then
      match skipSpace r with
      | [] => .error .truncated
      | c :: r => if c = byte ']' then .error .malformed else .ok (some (c :: r))
    else .error .malformed

/-- The key that comes next in an object, after its opening quote, or none before
the object's end. -/
def nextKey (first : Bool) (s : Bytes) : Except Defect (Option Bytes) :=
  match skipSpace s with
  | [] => .error .truncated
  | b :: r =>
    if b = byte '\x7d' then .ok none
    else if first then
      if b = byte '"' then .ok (some r) else .error .malformed
    else if b = byte ',' then
      match skipSpace r with
      | [] => .error .truncated
      | c :: r => if c = byte '"' then .ok (some r) else .error .malformed
    else .error .malformed

/-- The closing bracket of a list or an object. -/
def closing (bracket : UInt8) (s : Bytes) : Except Defect Bytes :=
  match skipSpace s with
  | [] => .error .truncated
  | b :: r => if b = bracket then .ok r else .error .malformed

theorem nextElement_le {first : Bool} {s r : Bytes} (h : nextElement first s = .ok (some r)) :
    r.length ≤ s.length := by
  unfold nextElement skipSpace at h
  have := length_dropWhile_le isSpace
  grind

theorem nextKey_shorter {first : Bool} {s r : Bytes} (h : nextKey first s = .ok (some r)) :
    r.length < s.length := by
  unfold nextKey skipSpace at h
  have := length_dropWhile_le isSpace
  grind

theorem closing_shorter {bracket : UInt8} {s r : Bytes} (h : closing bracket s = .ok r) :
    r.length < s.length := by
  unfold closing skipSpace at h
  have := length_dropWhile_le isSpace s
  grind

namespace Reader

/-! ## Readers of whole values -/

/-- Reads a string. -/
def string : Reader String where
  read s :=
    match skipSpace s with
    | [] => .error .truncated
    | b :: r => if b = byte '"' then readString r else .error (unwanted "a string" b r)
  shorter {s r x} h := by
    have := length_dropWhile_le isSpace s
    unfold skipSpace at h
    grind [→ readString_shorter]

/-- Skips a value and yields `x`. -/
def skipped (x : α) : Reader α where
  read s :=
    match skipValue s with
    | .error d => .error d
    | .ok r => .ok (x, r)
  shorter h := by grind [→ skipValue_shorter]

/-- Reads with `reader` and applies `f`. -/
def map (f : α → β) (reader : Reader α) : Reader β where
  read s :=
    match reader.read s with
    | .error d => .error d
    | .ok (x, r) => .ok (f x, r)
  shorter {s r x} h := by
    have := @reader.shorter s
    grind

/-! ## Lists -/

/-- The elements of a list, and the rest from its end on. -/
def elements (reader : Reader α) (first : Bool) (s : Bytes) :
    Except Defect (List α × Bytes) :=
  match _hn : nextElement first s with
  | .error d => .error d
  | .ok none => .ok ([], s)
  | .ok (some s₁) =>
    match _hr : reader.read s₁ with
    | .error d => .error d
    | .ok (x, s₂) =>
      match reader.elements false s₂ with
      | .error d => .error d
      | .ok (xs, s₃) => .ok (x :: xs, s₃)
termination_by s.length
decreasing_by
  have := nextElement_le _hn
  have := reader.shorter _hr
  omega

theorem elements_le {reader : Reader α} {first : Bool} {s r : Bytes} {xs : List α}
    (h : reader.elements first s = .ok (xs, r)) : r.length ≤ s.length := by
  fun_induction elements reader first s generalizing xs r with
  | case2 => cases h; exact Nat.le_refl _
  | case5 first s s₁ hn x s₂ hr xs s₃ hxs ih =>
    cases h
    have := nextElement_le hn
    have := reader.shorter hr
    have := ih hxs
    omega
  | _ => cases h

/-- Reads a list of elements of one type. -/
def list (reader : Reader α) : Reader (List α) where
  read s :=
    match skipSpace s with
    | [] => .error .truncated
    | b :: r =>
      if b = byte '[' then
        match reader.elements true r with
        | .error d => .error d
        | .ok (xs, r) =>
          match closing (byte ']') r with
          | .error d => .error d
          | .ok r => .ok (xs, r)
      else .error (unwanted "a sequence" b r)
  shorter {s r x} h := by
    have := length_dropWhile_le isSpace s
    unfold skipSpace at h
    grind [→ elements_le, → closing_shorter]

/-! ## Objects -/

/-- The members of an object, gathered from a state on: `member` says for each key
how to read its value into the state, or that the key may not stand there. -/
def members (member : σ → String → Except Defect (Reader σ)) (state : σ) (first : Bool)
    (s : Bytes) : Except Defect (σ × Bytes) :=
  match _hn : nextKey first s with
  | .error d => .error d
  | .ok none => .ok (state, s)
  | .ok (some s₁) =>
    match _hk : readString s₁ with
    | .error d => .error d
    | .ok (key, s₂) =>
      match member state key with
      | .error d => .error d
      | .ok reader =>
        match _hc : colon s₂ with
        | .error d => .error d
        | .ok s₃ =>
          match _hr : reader.read s₃ with
          | .error d => .error d
          | .ok (state', s₄) => members member state' false s₄
termination_by s.length
decreasing_by
  have := nextKey_shorter _hn
  have := readString_shorter _hk
  have := colon_shorter _hc
  have := reader.shorter _hr
  omega

theorem members_le {member : σ → String → Except Defect (Reader σ)} {state out : σ}
    {first : Bool} {s r : Bytes} (h : members member state first s = .ok (out, r)) :
    r.length ≤ s.length := by
  fun_induction members member state first s with
  | case2 => cases h; exact Nat.le_refl _
  | case7 state first s s₁ hn key s₂ hk reader hm s₃ hc state' s₄ hr ih =>
    have := nextKey_shorter hn
    have := readString_shorter hk
    have := colon_shorter hc
    have := reader.shorter hr
    have := ih h
    omega
  | _ => cases h

/-- Reads the members of an object after its opening bracket, and the bracket that
closes it. `finish` completes what was gathered, before that bracket is read. -/
def objectBody (member : σ → String → Except Defect (Reader σ)) (initial : σ)
    (finish : σ → Except Defect α) (s : Bytes) : Except Defect (α × Bytes) :=
  match members member initial true s with
  | .error d => .error d
  | .ok (state, s) =>
    match finish state with
    | .error d => .error d
    | .ok x =>
      match closing (byte '\x7d') s with
      | .error d => .error d
      | .ok s => .ok (x, s)

theorem objectBody_shorter {member : σ → String → Except Defect (Reader σ)} {initial : σ}
    {finish : σ → Except Defect α} {s r : Bytes} {x : α}
    (h : objectBody member initial finish s = .ok (x, r)) : r.length < s.length := by
  unfold objectBody at h
  grind [→ members_le, → closing_shorter]

/-- Reads an object with keys of any name. -/
def object (member : σ → String → Reader σ) (initial : σ) : Reader σ where
  read s :=
    match skipSpace s with
    | [] => .error .truncated
    | b :: r =>
      if b = byte '\x7b' then
        objectBody (fun state key => .ok (member state key)) initial .ok r
      else .error (unwanted "a map" b r)
  shorter {s r x} h := by
    have := length_dropWhile_le isSpace s
    unfold skipSpace at h
    grind [→ objectBody_shorter]

/-! ## Records -/

/-- How the value of a key is read: a known field once, any other key skipped. -/
def member (fields : List (Field σ)) (state : σ) (key : String) :
    Except Defect (Reader σ) :=
  match fields.find? fun field => field.name = key with
  | some field =>
    if field.isSet state then .error (.mismatch (.duplicateField field.name))
    else .ok (field.reader state)
  | none => .ok (skipped state)

/-- Reads the fields in order from the elements of a list, as far as it has any. -/
def tuple (first : Bool) (state : σ) :
    (fields : List (Field σ)) → (s : Bytes) → Except Defect (σ × Bytes)
  | [], s => .ok (state, s)
  | field :: fields, s =>
    match nextElement first s with
    | .error d => .error d
    | .ok none => .ok (state, s)
    | .ok (some s) =>
      match (field.reader state).read s with
      | .error d => .error d
      | .ok (state, s) => tuple false state fields s

theorem tuple_le {first : Bool} {state out : σ} {fields : List (Field σ)} {s r : Bytes}
    (h : tuple first state fields s = .ok (out, r)) : r.length ≤ s.length := by
  fun_induction tuple first state fields s with
  | case1 => cases h; exact Nat.le_refl _
  | case3 => cases h; exact Nat.le_refl _
  | case5 first state field fields s s₁ hn state' s₂ hr ih =>
    have := nextElement_le hn
    have := (field.reader state).shorter hr
    have := ih h
    omega
  | _ => cases h

/-- Reads a record, written as an object or as the list of its fields. `finish`
completes what an object gave, and `finishList` what a list gave. -/
def record (wanted : String) (fields : List (Field σ)) (initial : σ)
    (finish : σ → Except Mismatch α) (finishList : σ → Except Mismatch α) : Reader α where
  read s :=
    match skipSpace s with
    | [] => .error .truncated
    | b :: r =>
      if b = byte '[' then
        match tuple true initial fields r with
        | .error d => .error d
        | .ok (state, r) =>
          match finishList state with
          | .error cause => .error (.mismatch cause)
          | .ok x =>
            match closing (byte ']') r with
            | .error d => .error d
            | .ok r => .ok (x, r)
      else if b = byte '\x7b' then
        objectBody (member fields) initial (fun state => (finish state).mapError .mismatch) r
      else .error (unwanted wanted b r)
  shorter {s r x} h := by
    have := length_dropWhile_le isSpace s
    unfold skipSpace at h
    grind [→ tuple_le, → closing_shorter, → objectBody_shorter]

/-- Reads a whole document: one value and nothing after it. -/
def document (reader : Reader α) (s : Bytes) : Except Defect α :=
  match reader.read s with
  | .error d => .error d
  | .ok (x, r) => if (skipSpace r).isEmpty then .ok x else .error .malformed

end Reader

end MetricCheck.Json
