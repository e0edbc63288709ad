-- What a backslash begins in a pattern.
import MetricCheck.Log.Pattern.Part
import MetricCheck.Log.Pattern.Spacing

namespace MetricCheck.Log

open Text (PropertyQuery)

/-! ## Characters by number -/

/-- The value of a hexadecimal digit. -/
def hexValue? (c : Char) : Option Nat :=
  if c.isDigit then some (c.toNat - 48)
  else if 'a' ≤ c && c ≤ 'f' then some (c.toNat - 87)
  else if 'A' ≤ c && c ≤ 'F' then some (c.toNat - 55)
  else none

/-- The character with a code point, if there is one. -/
def charOf? (code : Nat) : Option Char :=
  if h : code.isValidChar then some (Char.ofNatAux code h) else none

/-- A number of hexadecimal digits, read one after the other. -/
def readHexDigits (spaced : Bool) (start : List Char) :
    (count code : Nat) → List Char → Except PatternError (Char × List Char)
  | 0, code, rest =>
    match charOf? code with
    | some c => .ok (c, rest)
    | none => fail .hexInvalid start rest
  | _ + 1, _, [] => fail .escapeEnds [] []
  | count + 1, code, c :: rest =>
    match hexValue? c with
    | some digit =>
      readHexDigits spaced start count (code * 16 + digit) (skipSpacing spaced rest)
    | none => fail .hexDigit (c :: rest) rest

/-- A code point in braces. -/
def readHexBraces (spaced : Bool) (brace : List Char) : Except PatternError (Char × List Char) :=
  let inside := brace.drop 1
  let (digits, closing) :=
    takeSpaced spaced (fun c => (hexValue? c).isSome) (skipSpacing spaced inside)
  match closing with
  | [] => fail .escapeEnds brace []
  | '\x7d' :: after =>
    let rest := skipSpacing spaced after
    if digits.isEmpty then fail .hexEmpty brace rest
    else
      match charOf? (digits.foldl (fun n d => n * 16 + (hexValue? d).getD 0) 0) with
      | some c => .ok (c, rest)
      | none => fail .hexInvalid inside closing
  | _ :: after => fail .hexDigit closing after

/-- A code point in a fixed number of digits or in braces. Two digits may also stand
for a byte. -/
def readHex (spaced : Bool) (count : Nat) (afterLetter : List Char) :
    Except PatternError (Atom × List Char) :=
  match skipSpacing spaced afterLetter with
  | [] => fail .escapeEnds [] []
  | '\x7b' :: rest =>
    (readHexBraces spaced ('\x7b' :: rest)).map fun (c, rest) => (.literal c false, rest)
  | digits =>
    (readHexDigits spaced digits count 0 digits).map fun (c, rest) =>
      (.literal c (count = 2), rest)

/-! ## Other escapes -/

/-- Cuts a text in two where characters first stand in it, and leaves them out. -/
def cutAt? (mark : List Char) : List Char → Option (List Char × List Char)
  | [] => none
  | c :: cs =>
    if mark.isPrefixOf (c :: cs) then some ([], (c :: cs).drop mark.length)
    else (cutAt? mark cs).map fun (before, after) => (c :: before, after)

/-- The query that a text in braces makes: a name, or the names of a property and a
value with a sign between them. Both are asked for in the same way, whatever the sign. -/
def propertyQuery (name : List Char) : PropertyQuery :=
  match (cutAt? ['!', '='] name).or ((cutAt? [':'] name).or (cutAt? ['='] name)) with
  | some (property, value) => .valued (String.ofList property) (String.ofList value)
  | none => .named (String.ofList name)

/-- A property of characters, by one letter or in braces. -/
def readProperty (spaced negated : Bool) (afterLetter : List Char) :
    Except PatternError (Atom × List Char) :=
  match skipSpacing spaced afterLetter with
  | [] => fail .escapeEnds [] []
  | '\x7b' :: inside =>
    let (name, closing) := takeSpaced spaced (· != '\x7d') (skipSpacing spaced inside)
    match closing with
    | [] => fail .escapeEnds [] []
    | _ :: rest => .ok (.property (propertyQuery name) negated, rest)
  | '\\' :: rest => fail .propertyEscape ('\\' :: rest) rest
  | c :: rest => .ok (.property (.named (String.singleton c)) negated, skipSpacing spaced rest)

/-- The edge of a word, perhaps with the name of a special one in braces. Braces that
hold no name are a count. -/
def readWordEdge (spaced : Bool) (start rest : List Char) :
    Except PatternError (Atom × List Char) :=
  match rest with
  | '\x7b' :: inside =>
    let isNamed := fun (c : Char) => c.isAlpha || c = '-'
    match skipSpacing spaced inside with
    | [] => fail .edgeOrCountEnds start []
    | c :: cs =>
      if isNamed c then
        match takeSpaced spaced isNamed (c :: cs) with
        | (name, '\x7d' :: after) =>
          match WordBorder.ofName? (String.ofList name) with
          | some border => .ok (.word border, after)
          | none => fail .edgeUnknown (c :: cs) ('\x7d' :: after)
        | (_, stop) => fail .edgeUnclosed rest stop
      else .ok (.word .edge, rest)
  | _ => .ok (.word .edge, rest)

/-- What a letter after a backslash stands for by itself. -/
def letterEscape? : Char → Option Atom
  | 'a' => some (.literal '\x07' false)
  | 'f' => some (.literal '\x0c' false)
  | 't' => some (.literal '\t' false)
  | 'n' => some (.literal '\n' false)
  | 'r' => some (.literal '\r' false)
  | 'v' => some (.literal '\x0b' false)
  | 'd' => some (.letters .digit false)
  | 'D' => some (.letters .digit true)
  | 's' => some (.letters .blank false)
  | 'S' => some (.letters .blank true)
  | 'w' => some (.letters .word false)
  | 'W' => some (.letters .word true)
  | 'A' => some (.place Border.textStart)
  | 'z' => some (.place Border.textEnd)
  | 'B' => some (.word .noEdge)
  | '<' => some (.word .start)
  | '>' => some (.word .stop)
  | _ => none

/-- An escape, from its backslash on. ASCII characters other than letters, digits and
angle brackets stand for themselves. -/
def readEscape (spaced : Bool) (start : List Char) : Except PatternError (Atom × List Char) :=
  match start.drop 1 with
  | [] => fail .escapeEnds start []
  | c :: rest =>
    match letterEscape? c with
    | some atom => .ok (atom, rest)
    | none =>
      if c.isDigit then fail .backreference start rest
      else if c = 'b' then readWordEdge spaced start rest
      else if c = 'p' ∨ c = 'P' then readProperty spaced (c = 'P') rest
      else if c = 'x' then readHex spaced 2 rest
      else if c = 'u' then readHex spaced 4 rest
      else if c = 'U' then readHex spaced 8 rest
      else if c.toNat < 128 && !c.isAlpha then .ok (.literal c false, rest)
      else fail .escapeUnknown start rest

end MetricCheck.Log
