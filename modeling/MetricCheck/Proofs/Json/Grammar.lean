-- How JSON is written, as bytes. Names and numbers of entries matter in some places and in
-- others do not: so there is a grammar of strings with what they spell, one of lists and
-- objects with what they hold, and one of values of which nothing is wanted.
import MetricCheck.Json.Bytes

namespace MetricCheck.Json

variable {α β : Type}

/-- White space, or nothing. -/
def Spaces (s : Bytes) : Prop :=
  ∀ b ∈ s, b = byte ' ' ∨ b = byte '\n' ∨ b = byte '\t' ∨ b = byte '\r'

theorem spaces_nil : Spaces [] := fun _ hb => nomatch hb

instance (s : Bytes) : Decidable (Spaces s) := List.decidableBAll _ s

/-! ## Strings -/

/-- A hexadecimal digit, in lower or in upper case, and its value. -/
inductive HexDigit : UInt8 → Nat → Prop
  | lower {n : Nat} (hn : n < 16) : HexDigit (byte n.digitChar) n
  | upper {n : Nat} (hn : n < 16) : HexDigit (byte n.digitChar.toUpper) n

/-- Four hexadecimal digits and the number that they make. -/
inductive Hex4 : Bytes → Nat → Prop
  | mk {a b c d : UInt8} {w x y z : Nat} (ha : HexDigit a w) (hb : HexDigit b x)
      (hc : HexDigit c y) (hd : HexDigit d z) :
      Hex4 [a, b, c, d] (w * 4096 + x * 256 + y * 16 + z)

/-- The letters that stand for characters after a backslash. -/
def letterEscapes : List (Char × Char) :=
  [('"', '"'), ('\\', '\\'), ('/', '/'), ('b', '\x08'), ('f', '\x0c'), ('n', '\n'), ('r', '\r'),
    ('t', '\t')]

/-- A numeric escape, from its backslash on. -/
def numbered (digits : Bytes) : Bytes := byte '\\' :: byte 'u' :: digits

/-- A character in a string: in UTF-8 unless it must be escaped, by its letter, or by the one
or the two numbers that it has in UTF-16. -/
inductive CharText : Bytes → Char → Prop
  | plain {c : Char} (hquote : c ≠ '"') (hbackslash : c ≠ '\\') (hcontrol : 0x20 ≤ c.toNat) :
      CharText (String.utf8EncodeChar c) c
  | letter {letter c : Char} (h : (letter, c) ∈ letterEscapes) :
      CharText [byte '\\', byte letter] c
  | unit {digits : Bytes} {c : Char} (h : Hex4 digits c.toNat) : CharText (numbered digits) c
  | pair {high low : Bytes} {c : Char} (hc : 0x10000 ≤ c.toNat)
      (hhigh : Hex4 high (0xD800 + (c.toNat - 0x10000) / 0x400))
      (hlow : Hex4 low (0xDC00 + (c.toNat - 0x10000) % 0x400)) :
      CharText (numbered high ++ numbered low) c

/-- The characters of a string one after the other. -/
inductive CharsText : Bytes → List Char → Prop
  | nil : CharsText [] []
  | cons {t u : Bytes} {c : Char} {cs : List Char} (h : CharText t c) (hlater : CharsText u cs) :
      CharsText (t ++ u) (c :: cs)

/-- A string between its quotes. -/
inductive StringText : Bytes → String → Prop
  | mk {t : Bytes} {text : String} (h : CharsText t text.toList) :
      StringText (byte '"' :: (t ++ [byte '"'])) text

/-- What may stand in a string: characters, and any numbers, if they are characters or not. -/
inductive LooseText : Bytes → Prop
  | nil : LooseText []
  | char {t u : Bytes} {c : Char} (h : CharText t c) (hlater : LooseText u) : LooseText (t ++ u)
  | number {digits u : Bytes} {n : Nat} (h : Hex4 digits n) (hlater : LooseText u) :
      LooseText (numbered digits ++ u)

/-- A string that need not spell a text. -/
inductive LooseString : Bytes → Prop
  | mk {t : Bytes} (h : LooseText t) : LooseString (byte '"' :: (t ++ [byte '"']))

/-! ## Lists and objects -/

/-- An item between white space. -/
inductive Spaced (item : Bytes → α → Prop) : Bytes → α → Prop
  | mk {before t after : Bytes} {x : α} (hbefore : Spaces before) (h : item t x)
      (hafter : Spaces after) : Spaced item (before ++ (t ++ after)) x

/-- Items with commas between them. -/
inductive Row (item : Bytes → α → Prop) : Bytes → List α → Prop
  | last {t : Bytes} {x : α} (h : item t x) : Row item t [x]
  | more {t u : Bytes} {x : α} {xs : List α} (h : item t x) (hlater : Row item u xs) :
      Row item (t ++ byte ',' :: u) (x :: xs)

/-- Any number of items, with white space around each, between two brackets. -/
inductive Bracketed (opening closing : Char) (item : Bytes → α → Prop) : Bytes → List α → Prop
  | empty {s : Bytes} (hs : Spaces s) :
      Bracketed opening closing item (byte opening :: (s ++ [byte closing])) []
  | row {t : Bytes} {xs : List α} (h : Row (Spaced item) t xs) :
      Bracketed opening closing item (byte opening :: (t ++ [byte closing])) xs

/-- A key and a value of it. What the value may be can depend on the key. -/
inductive MemberText (value : String → Bytes → β → Prop) : Bytes → String × β → Prop
  | mk {k before after t : Bytes} {key : String} {x : β} (hkey : StringText k key)
      (hbefore : Spaces before) (hafter : Spaces after) (h : value key t x) :
      MemberText value (k ++ (before ++ byte ':' :: (after ++ t))) (key, x)

/-- A list of items. -/
abbrev ListText (item : Bytes → α → Prop) : Bytes → List α → Prop := Bracketed '[' ']' item

/-- An object with its members in order. -/
abbrev ObjectText (value : String → Bytes → β → Prop) : Bytes → List (String × β) → Prop :=
  Bracketed '\x7b' '\x7d' (MemberText value)

/-! ## Numbers -/

/-- Digits, one at least. -/
structure Digits (s : Bytes) : Prop where
  nonempty : s ≠ []
  digits : ∀ b ∈ s, byte '0' ≤ b ∧ b ≤ byte '9'

/-- A whole number, which has no zero in front. -/
inductive WholeText : Bytes → Prop
  | zero : WholeText [byte '0']
  | digits {s : Bytes} (h : Digits s) (hzero : s.head? ≠ some (byte '0')) : WholeText s

/-- A point with places, or nothing. -/
inductive FractionText : Bytes → Prop
  | none : FractionText []
  | places {s : Bytes} (h : Digits s) : FractionText (byte '.' :: s)

/-- An exponent, or nothing. -/
inductive ExponentText : Bytes → Prop
  | none : ExponentText []
  | power {e : UInt8} {sign s : Bytes} (he : e = byte 'e' ∨ e = byte 'E')
      (hsign : sign = [] ∨ sign = [byte '+'] ∨ sign = [byte '-']) (h : Digits s) :
      ExponentText (e :: (sign ++ s))

/-- A number, after the minus sign of a negative one. -/
inductive MagnitudeText : Bytes → Prop
  | mk {whole fraction exponent : Bytes} (hwhole : WholeText whole)
      (hfraction : FractionText fraction) (hexponent : ExponentText exponent) :
      MagnitudeText (whole ++ (fraction ++ exponent))

/-! ## Values -/

/-- The words that are values. -/
def valueWords : List String := ["null", "true", "false"]

/-- The parts of a value that hold each other. -/
inductive Part where
  | value
  /-- A value between white space. -/
  | element
  /-- Elements with commas between them. -/
  | elements
  /-- A key and an element. -/
  | member
  /-- Members with commas between them. -/
  | members

/-- A part of any value, nested as deep as may be. -/
inductive PartText : Part → Bytes → Prop
  | word {letters : String} (h : letters ∈ valueWords) :
      PartText .value (letters.toList.map byte)
  | string {t : Bytes} (h : LooseString t) : PartText .value t
  | number {t : Bytes} (h : MagnitudeText t) : PartText .value t
  | negative {t : Bytes} (h : MagnitudeText t) : PartText .value (byte '-' :: t)
  | emptyList {s : Bytes} (hs : Spaces s) : PartText .value (byte '[' :: (s ++ [byte ']']))
  | list {t : Bytes} (h : PartText .elements t) : PartText .value (byte '[' :: (t ++ [byte ']']))
  | emptyObject {s : Bytes} (hs : Spaces s) :
      PartText .value (byte '\x7b' :: (s ++ [byte '\x7d']))
  | object {t : Bytes} (h : PartText .members t) :
      PartText .value (byte '\x7b' :: (t ++ [byte '\x7d']))
  | element {before t after : Bytes} (hbefore : Spaces before) (h : PartText .value t)
      (hafter : Spaces after) : PartText .element (before ++ (t ++ after))
  | lastElement {t : Bytes} (h : PartText .element t) : PartText .elements t
  | elements {t u : Bytes} (h : PartText .element t) (hlater : PartText .elements u) :
      PartText .elements (t ++ byte ',' :: u)
  | member {before k after t : Bytes} (hbefore : Spaces before) (hkey : LooseString k)
      (hafter : Spaces after) (h : PartText .element t) :
      PartText .member (before ++ (k ++ (after ++ byte ':' :: t)))
  | lastMember {t : Bytes} (h : PartText .member t) : PartText .members t
  | members {t u : Bytes} (h : PartText .member t) (hlater : PartText .members u) :
      PartText .members (t ++ byte ',' :: u)

/-- Any value. -/
abbrev ValueText (t : Bytes) : Prop := PartText .value t

/-! ## Whatever can be written -/

/-- Every character can stand in a string. -/
theorem exists_charText (c : Char) : ∃ t, CharText t c := by
  by_cases hquote : c = '"'
  · exact ⟨_, .letter (show ('"', c) ∈ letterEscapes by subst hquote; decide)⟩
  by_cases hbackslash : c = '\\'
  · exact ⟨_, .letter (show ('\\', c) ∈ letterEscapes by subst hbackslash; decide)⟩
  by_cases hcontrol : 0x20 ≤ c.toNat
  · exact ⟨_, .plain hquote hbackslash hcontrol⟩
  · have hdigits := Hex4.mk (.lower (show 0 < 16 by decide)) (.lower (show 0 < 16 by decide))
      (.lower (show c.toNat / 16 < 16 by omega)) (.lower (show c.toNat % 16 < 16 by omega))
    rw [show 0 * 4096 + 0 * 256 + c.toNat / 16 * 16 + c.toNat % 16 = c.toNat by omega] at hdigits
    exact ⟨_, .unit hdigits⟩

theorem exists_stringText (text : String) : ∃ t, StringText t text := by
  have hchars : ∀ cs : List Char, ∃ t, CharsText t cs := by
    intro cs
    induction cs with
    | nil => exact ⟨_, .nil⟩
    | cons c cs ih =>
      obtain ⟨t, ht⟩ := exists_charText c
      obtain ⟨u, hu⟩ := ih
      exact ⟨_, .cons ht hu⟩
  obtain ⟨t, ht⟩ := hchars text.toList
  exact ⟨_, .mk ht⟩

/-- Without white space. -/
theorem Spaced.tight {item : Bytes → α → Prop} {t : Bytes} {x : α} (h : item t x) :
    Spaced item ([] ++ (t ++ [])) x :=
  .mk spaces_nil h spaces_nil

theorem exists_bracketed {opening closing : Char} {item : Bytes → α → Prop} {xs : List α}
    (h : ∀ x ∈ xs, ∃ t, item t x) : ∃ t, Bracketed opening closing item t xs := by
  cases xs with
  | nil => exact ⟨_, .empty spaces_nil⟩
  | cons x xs =>
    have hrow : ∃ t, Row (Spaced item) t (x :: xs) := by
      induction xs generalizing x with
      | nil =>
        obtain ⟨t, ht⟩ := h x List.mem_cons_self
        exact ⟨_, .last (.tight ht)⟩
      | cons y ys ih =>
        obtain ⟨t, ht⟩ := h x List.mem_cons_self
        obtain ⟨u, hu⟩ := ih y fun z hz => h z (List.mem_cons_of_mem x hz)
        exact ⟨_, .more (.tight ht) hu⟩
    obtain ⟨t, ht⟩ := hrow
    exact ⟨_, .row ht⟩

theorem exists_objectText {value : String → Bytes → β → Prop} {members : List (String × β)}
    (h : ∀ m ∈ members, ∃ t, value m.1 t m.2) : ∃ t, ObjectText value t members := by
  refine exists_bracketed fun m hm => ?_
  obtain ⟨t, ht⟩ := h m hm
  obtain ⟨k, hk⟩ := exists_stringText m.1
  exact ⟨_, .mk hk spaces_nil spaces_nil ht⟩

end MetricCheck.Json
