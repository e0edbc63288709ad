-- Parts of a pattern: where they are, how they are nested and what they mean under
-- the flags that hold there.
import MetricCheck.Log.Pattern.Error
import MetricCheck.Log.Pattern.Named
import MetricCheck.Text.Property.Case

namespace MetricCheck.Log

open Text (CharSet PropertyQuery)

/-! ## Flags -/

/-- How the rest of a group is meant. -/
structure PatternFlags where
  anyCase : Bool := false
  /-- Carets and dollar signs stand at every line. -/
  manyLines : Bool := false
  /-- A dot is any character, newlines too. -/
  dotAll : Bool := false
  /-- Lines may also end with a carriage return. -/
  returns : Bool := false
  /-- Blanks and comments have no meaning. -/
  spaced : Bool := false
  /-- Sets hold characters, not bytes. Sets of bytes must be ASCII. -/
  unicode : Bool := true

namespace PatternFlags

/-- The characters of a set, without regard to case if the flags say so. -/
def fold (f : PatternFlags) (s : CharSet) : CharSet :=
  if !f.anyCase then s else if f.unicode then s.anyCase else s.anyAsciiCase

/-- The set that a part stands for, negated or not. -/
def close (f : PatternFlags) (negated : Bool) (s : CharSet) : Except PatternFault CharSet :=
  let s := if negated then (f.fold s).complement else f.fold s
  if f.unicode || s.isAscii then .ok s else .error .invalidText

/-- What words are made of. -/
def word (f : PatternFlags) : CharSet := if f.unicode then LetterSet.word.set else LetterSet.word.ascii

end PatternFlags

/-! ## Atoms -/

/-- The least part of a pattern. -/
inductive Atom where
  /-- A character. `byte` says that two digits gave its number, so that it may be meant
  as a byte. -/
  | literal (c : Char) (byte : Bool)
  | letters (kind : LetterSet) (negated : Bool)
  | property (query : PropertyQuery) (negated : Bool)
  | ascii (set : CharSet) (negated : Bool)
  | place (holds : Border)
  | word (border : WordBorder)

/-- What is wrong with a property. -/
def propertyFault : Text.PropertyFault → PatternFault
  | .unknownProperty => .propertyUnknown
  | .unknownValue => .propertyValueUnknown

namespace Atom

/-- The set of an atom. A literal is a set of its own; bytes beyond ASCII are none. -/
def set (f : PatternFlags) : Atom → Except PatternFault CharSet
  | literal c byte =>
    if f.unicode || c.toNat < 0x80 then .ok (.ofChar c)
    else .error (if byte then .invalidText else .unicodeNeeded)
  | letters kind negated =>
    if f.unicode then .ok (if negated then kind.set.complement else kind.set)
    else { f with anyCase := false }.close negated kind.ascii
  | property query negated =>
    if f.unicode then
      match query.find with
      | .ok s => f.close negated s
      | .error fault => .error (propertyFault fault)
    else .error .unicodeNeeded
  | ascii s negated => f.close negated s
  | place _ | word _ => .error .classEscape

/-- The pattern of an atom. A character beyond ASCII can stand by itself even where
sets hold bytes. -/
def pattern (f : PatternFlags) : Atom → Except PatternFault Pattern
  | literal c byte =>
    if !f.unicode && byte && 0x80 ≤ c.toNat then .error .invalidText
    else .ok (.one (f.fold (.ofChar c)))
  | place holds => .ok (.border holds)
  | word b => .ok (.border (b.border f.word))
  | atom => (atom.set f).map .one

end Atom

/-! ## Parts -/

/-- A part of a pattern. -/
structure Part (α : Type) where
  piece : Piece
  /-- The first piece at each level of nesting, from this part on. Parts that hold no
  others have no level. -/
  levels : List Piece
  /-- What the part means, or what is wrong with that. -/
  meaning : Except PatternError α

/-- The first pieces at each level of parts that stand side by side. -/
def besides : List Piece → List Piece → List Piece
  | first :: deeper, _ :: deeper' => first :: besides deeper deeper'
  | [], levels => levels
  | levels, [] => levels

namespace Part

variable {α β : Type}

/-- A part that holds no others. -/
def ofAtom (start stop : List Char) (meaning : Except PatternFault α) : Part α :=
  let piece := Piece.between start stop
  ⟨piece, [], meaning.mapError fun fault => .located fault [piece]⟩

/-- A part that holds others. They are in order, and what is wrong first counts. -/
def ofParts (piece : Piece) (parts : List (Part α)) (meaning : List α → β) : Part β :=
  ⟨piece, piece :: (parts.map levels).foldr besides [],
    (parts.mapM Part.meaning).map meaning⟩

end Part

end MetricCheck.Log
