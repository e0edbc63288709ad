-- Sets of characters, given by ranges of code points, and the operations of sets on
-- them.
namespace MetricCheck.Text

/-- A set of characters: closed ranges of code points, in order and apart. -/
structure CharSet where
  ranges : List (Nat × Nat)
deriving DecidableEq

namespace CharSet

/-- A code point is in one of some ranges. -/
def covered (rs : List (Nat × Nat)) (code : Nat) : Bool :=
  rs.any fun r => r.1 ≤ code && code ≤ r.2

def containsCode (s : CharSet) (code : Nat) : Bool := covered s.ranges code

def contains (s : CharSet) (c : Char) : Bool := s.containsCode c.toNat

/-- The code points that no character has, from the first to the last. -/
def surrogates : Nat × Nat := (0xD800, 0xDFFF)

def lastCode : Nat := 0x10FFFF

/-! ## Making sets -/

/-- Joins ranges that overlap or touch. The ranges are in order of where they begin. -/
def joinFrom (first last : Nat) : List (Nat × Nat) → List (Nat × Nat)
  | [] => [(first, last)]
  | r :: rest =>
    if r.1 ≤ last + 1 then joinFrom first (max last r.2) rest
    else (first, last) :: joinFrom r.1 r.2 rest

/-- The set of ranges in any order. -/
def ofRanges (rs : List (Nat × Nat)) : CharSet :=
  match rs.mergeSort fun r r' => r.1 ≤ r'.1 with
  | [] => ⟨[]⟩
  | r :: rest => ⟨joinFrom r.1 r.2 rest⟩

def empty : CharSet := ⟨[]⟩

def isEmpty (s : CharSet) : Bool := s.ranges.isEmpty

/-- The ranges between others, from a code point on. -/
def gapsFrom : (code : Nat) → List (Nat × Nat) → List (Nat × Nat)
  | code, [] => if code ≤ lastCode then [(code, lastCode)] else []
  | code, r :: rest =>
    if code < r.1 then (code, r.1 - 1) :: gapsFrom (r.2 + 1) rest else gapsFrom (r.2 + 1) rest

def union (s t : CharSet) : CharSet := ofRanges (s.ranges ++ t.ranges)

/-- All characters that are not in a set. -/
def complement (s : CharSet) : CharSet :=
  ⟨gapsFrom 0 (ofRanges (surrogates :: s.ranges)).ranges⟩

def inter (s t : CharSet) : CharSet := complement (union (complement s) (complement t))

def diff (s t : CharSet) : CharSet := inter s (complement t)

/-- The characters that are in one of two sets and not in the other. -/
def symmDiff (s t : CharSet) : CharSet := union (diff s t) (diff t s)

def unions (sets : List CharSet) : CharSet := ofRanges (sets.flatMap ranges)

/-- The characters from one to another. -/
def range (first last : Char) : CharSet :=
  if first.toNat < surrogates.1 && surrogates.2 < last.toNat then
    ⟨[(first.toNat, surrogates.1 - 1), (surrogates.2 + 1, last.toNat)]⟩
  else ⟨[(first.toNat, last.toNat)]⟩

def ofChar (c : Char) : CharSet := ⟨[(c.toNat, c.toNat)]⟩

/-- The set holds no character beyond ASCII. -/
def isAscii (s : CharSet) : Bool := s.ranges.all fun r => r.2 < 0x80

/-! ## Tables -/

/-- Reads numbers in base 26. Small letters are digits, and the last digit of a number
is a capital letter. -/
def readNumbers : (digits : Nat) → List Char → List Nat
  | _, [] => []
  | n, c :: cs =>
    if c.isUpper then (n * 26 + (c.toNat - 'A'.toNat)) :: readNumbers 0 cs
    else readNumbers (n * 26 + (c.toNat - 'a'.toNat)) cs

/-- The ranges of numbers that tell by turns how many code points are left out and how
many follow the first of a range. -/
def rangesFrom : (code : Nat) → List Nat → List (Nat × Nat)
  | code, skipped :: more :: rest =>
    (code + skipped, code + skipped + more) :: rangesFrom (code + skipped + more + 1) rest
  | _, _ => []

/-- The set that a table lists. -/
def ofTable (table : String) : CharSet := ⟨rangesFrom 0 (readNumbers 0 table.toList)⟩

/-- The letters of ASCII. -/
example : ofTable "cNZGZ" = ⟨[(65, 90), (97, 122)]⟩ := by decide

end CharSet

end MetricCheck.Text
