-- Strings are read as what they spell, and skipped whether they spell anything or not. Both go
-- character by character: a character that is written in any way leaves its UTF-8 and what
-- comes after it.
import Mathlib.Data.List.Basic
import MetricCheck.Proofs.Json.Grammar

namespace MetricCheck.Json

/-! ## Characters as bytes -/

/-- A byte that stands for itself in a string. -/
def IsPlain (b : UInt8) : Prop := b ≠ byte '"' ∧ b ≠ byte '\\' ∧ ¬ b < 0x20

/-- The bytes of a character are those of ASCII only where the character is ASCII. -/
theorem toNat_of_mem_utf8EncodeChar {c : Char} {b : UInt8} (hb : b ∈ String.utf8EncodeChar c) :
    b.toNat = c.toNat ∨ 0x80 ≤ b.toNat := by
  have hc : c.val.toNat = c.toNat := rfl
  unfold String.utf8EncodeChar at hb
  simp only [hc] at hb
  split at hb
  · obtain rfl := List.mem_singleton.1 hb
    left
    simp only [UInt8.toNat_ofNat']
    omega
  · right
    split at hb
    · simp only [List.mem_cons, List.not_mem_nil, or_false] at hb
      rcases hb with rfl | rfl <;> (simp only [UInt8.toNat_ofNat']; omega)
    split at hb
    · simp only [List.mem_cons, List.not_mem_nil, or_false] at hb
      rcases hb with rfl | rfl | rfl <;> (simp only [UInt8.toNat_ofNat']; omega)
    · simp only [List.mem_cons, List.not_mem_nil, or_false] at hb
      rcases hb with rfl | rfl | rfl | rfl <;> (simp only [UInt8.toNat_ofNat']; omega)

theorem isPlain_of_mem_utf8EncodeChar {c : Char} (hquote : c ≠ '"') (hbackslash : c ≠ '\\')
    (hcontrol : 0x20 ≤ c.toNat) {b : UInt8} (hb : b ∈ String.utf8EncodeChar c) : IsPlain b := by
  have hbytes := toNat_of_mem_utf8EncodeChar hb
  have hne : ∀ d : Char, d.toNat < 0x80 → c ≠ d → b ≠ byte d := by
    rintro d hd hcd rfl
    have hbyte : (byte d).toNat = d.toNat := by
      have hmod : (byte d).toNat = d.toNat % 256 := rfl
      omega
    apply hcd
    rw [← Char.toNat_inj]
    omega
  refine ⟨hne _ (by decide) hquote, hne _ (by decide) hbackslash, ?_⟩
  rw [UInt8.lt_iff_toNat_lt]
  have h20 : (0x20 : UInt8).toNat = 0x20 := rfl
  omega

/-! ## Escapes -/

theorem hexDigit_eq {b : UInt8} {n : Nat} (h : HexDigit b n) : hexDigit b = some n := by
  have hall : ∀ n : Fin 16, hexDigit (byte (Nat.digitChar n)) = some n.val ∧
      hexDigit (byte (Nat.digitChar n).toUpper) = some n.val := by decide
  cases h with
  | lower hn => exact (hall ⟨n, hn⟩).1
  | upper hn => exact (hall ⟨n, hn⟩).2

theorem Hex4.read {digits : Bytes} {n : Nat} (h : Hex4 digits n) (rest : Bytes) :
    hex4 (digits ++ rest) = .ok (n, rest) := by
  cases h with
  | mk ha hb hc hd =>
    simp only [List.cons_append, List.nil_append, hex4, hexDigit_eq ha, hexDigit_eq hb,
      hexDigit_eq hc, hexDigit_eq hd]

theorem letterEscape_eq {letter c : Char} (h : (letter, c) ∈ letterEscapes) :
    letterEscape (byte letter) = some (byte c) ∧ String.utf8EncodeChar c = [byte c] := by
  have hall : ∀ entry ∈ letterEscapes, letterEscape (byte entry.1) = some (byte entry.2) ∧
      String.utf8EncodeChar entry.2 = [byte entry.2] := by decide
  exact hall _ h

/-- A number that no pair is made of stands for its character. -/
theorem numericEscape_unit {digits : Bytes} {c : Char} (h : Hex4 digits c.toNat) (rest : Bytes) :
    numericEscape (digits ++ rest) = .ok (c, rest) := by
  have hvalid : c.toNat < 0xD800 ∨ 0xDFFF < c.toNat := by
    rcases c.valid with hc | ⟨hc, -⟩
    · exact .inl hc
    · exact .inr hc
  have hlow : isLowSurrogate c.toNat = false := by
    simp only [isLowSurrogate, Bool.and_eq_false_iff, decide_eq_false_iff_not]
    omega
  have hhigh : isHighSurrogate c.toNat = false := by
    simp only [isHighSurrogate, Bool.and_eq_false_iff, decide_eq_false_iff_not]
    omega
  simp only [numericEscape, h.read, hlow, hhigh, Bool.false_eq_true, if_false, Char.ofNat_toNat]

/-- A pair of numbers stands for one character. -/
theorem numericEscape_pair {high low : Bytes} {c : Char} (hc : 0x10000 ≤ c.toNat)
    (hhigh : Hex4 high (0xD800 + (c.toNat - 0x10000) / 0x400))
    (hlow : Hex4 low (0xDC00 + (c.toNat - 0x10000) % 0x400)) (rest : Bytes) :
    numericEscape (high ++ (numbered low ++ rest)) = .ok (c, rest) := by
  have hmax : c.toNat < 0x110000 := by
    rcases c.valid with hc | ⟨-, hc⟩
    · have hc : c.toNat < 0xD800 := hc
      omega
    · exact hc
  have hfirst : isLowSurrogate (0xD800 + (c.toNat - 0x10000) / 0x400) = false := by
    simp only [isLowSurrogate, Bool.and_eq_false_iff, decide_eq_false_iff_not]
    omega
  have hfirst' : isHighSurrogate (0xD800 + (c.toNat - 0x10000) / 0x400) = true := by
    simp only [isHighSurrogate, Bool.and_eq_true, decide_eq_true_eq]
    omega
  have hsecond : isLowSurrogate (0xDC00 + (c.toNat - 0x10000) % 0x400) = true := by
    simp only [isLowSurrogate, Bool.and_eq_true, decide_eq_true_eq]
    omega
  have hword : word [byte '\\', byte 'u'] (numbered low ++ rest) = .ok (low ++ rest) := rfl
  have hsum : 0x10000 + (0xD800 + (c.toNat - 0x10000) / 0x400 - 0xD800) * 0x400 +
      (0xDC00 + (c.toNat - 0x10000) % 0x400 - 0xDC00) = c.toNat := by omega
  simp only [numericEscape, hhigh.read, hfirst, hfirst', lowSurrogate, hword, hlow.read, hsecond,
    hsum, Bool.false_eq_true, if_false, if_true, Char.ofNat_toNat]

theorem escape_letter {letter c : Char} (h : (letter, c) ∈ letterEscapes) (rest : Bytes) :
    escape (byte letter :: rest) = .ok (String.utf8EncodeChar c, rest) := by
  obtain ⟨hletter, hbytes⟩ := letterEscape_eq h
  simp only [escape, hletter, hbytes]

theorem escape_number {s rest : Bytes} {c : Char} (h : numericEscape s = .ok (c, rest)) :
    escape (byte 'u' :: s) = .ok (String.utf8EncodeChar c, rest) := by
  have hletter : letterEscape (byte 'u') = none := by decide
  simp only [escape, hletter, if_true, h]

/-! ## Reading -/

theorem stringBytes_quote (read : Array UInt8) (rest : Bytes) :
    stringBytes read (byte '"' :: rest) = .ok (read, rest) := by
  rw [stringBytes, if_pos rfl]

theorem stringBytes_escape {s meant rest : Bytes} (h : escape s = .ok (meant, rest))
    (read : Array UInt8) :
    stringBytes read (byte '\\' :: s) = stringBytes (read ++ meant) rest := by
  have hquote : byte '\\' ≠ byte '"' := by decide
  rw [stringBytes, if_neg hquote, if_pos rfl]
  split
  · rename_i hread
    rw [h] at hread
    cases hread
  · rename_i hread
    rw [h] at hread
    cases hread
    rfl

theorem stringBytes_plain {bs : Bytes} (h : ∀ b ∈ bs, IsPlain b) (read : Array UInt8)
    (rest : Bytes) : stringBytes read (bs ++ rest) = stringBytes (read ++ bs) rest := by
  induction bs generalizing read with
  | nil => simp
  | cons b bs ih =>
    obtain ⟨⟨hquote, hbackslash, hcontrol⟩, hbs⟩ := List.forall_mem_cons.1 h
    rw [List.cons_append, stringBytes, if_neg hquote, if_neg hbackslash, if_neg hcontrol, ih hbs]
    simp

theorem CharText.stringBytes {t : Bytes} {c : Char} (h : CharText t c) (read : Array UInt8)
    (rest : Bytes) :
    stringBytes read (t ++ rest) = stringBytes (read ++ String.utf8EncodeChar c) rest := by
  cases h with
  | plain hquote hbackslash hcontrol =>
    exact stringBytes_plain
      (fun b hb => isPlain_of_mem_utf8EncodeChar hquote hbackslash hcontrol hb) read rest
  | letter h => exact stringBytes_escape (escape_letter h rest) read
  | unit h => exact stringBytes_escape (escape_number (numericEscape_unit h rest)) read
  | pair hc hhigh hlow =>
    rw [List.append_assoc]
    exact stringBytes_escape (escape_number (numericEscape_pair hc hhigh hlow rest)) read

theorem CharsText.stringBytes {t : Bytes} {cs : List Char} (h : CharsText t cs)
    (read : Array UInt8) (rest : Bytes) :
    stringBytes read (t ++ byte '"' :: rest) =
      .ok (read ++ cs.flatMap String.utf8EncodeChar, rest) := by
  induction h generalizing read with
  | nil =>
    rw [List.nil_append, stringBytes_quote]
    simp
  | cons hc _ ih =>
    have happend : ∀ first later : Bytes, read ++ first ++ later = read ++ (first ++ later) :=
      fun first later => Array.toList_inj.1 (by simp)
    rw [List.append_assoc, hc.stringBytes, ih, List.flatMap_cons, happend]

theorem fromUTF8?_flatMap (text : String) :
    String.fromUTF8? ⟨(text.toList.flatMap String.utf8EncodeChar).toArray⟩ = some text := by
  have hbytes : (⟨(text.toList.flatMap String.utf8EncodeChar).toArray⟩ : ByteArray) =
      (String.ofList text.toList).toUTF8 := ByteArray.ext List.data_toByteArray.symm
  rw [hbytes, String.ofList_toList]
  have hvalid : text.toUTF8.IsValidUTF8 := text.isValidUTF8
  unfold String.fromUTF8?
  rw [dif_pos hvalid]
  rfl

/-- A string is read as what it spells. -/
theorem StringText.readString {t : Bytes} {text : String} (h : StringText t text) (rest : Bytes) :
    readString (t.tail ++ rest) = .ok (text, rest) := by
  cases h with
  | mk h =>
    rw [List.tail_cons, List.append_assoc, List.singleton_append, Json.readString, h.stringBytes]
    simp [fromUTF8?_flatMap]

/-! ## Skipping -/

theorem skipString_quote (rest : Bytes) : skipString (byte '"' :: rest) = .ok rest := by
  rw [skipString, if_pos rfl]

theorem skipString_escape {s rest : Bytes} (h : skipEscape s = .ok rest) :
    skipString (byte '\\' :: s) = skipString rest := by
  have hquote : byte '\\' ≠ byte '"' := by decide
  rw [skipString, if_neg hquote, if_pos rfl]
  split
  · rename_i hread
    rw [h] at hread
    cases hread
  · rename_i hread
    rw [h] at hread
    cases hread
    rfl

theorem skipString_plain {bs : Bytes} (h : ∀ b ∈ bs, IsPlain b) (rest : Bytes) :
    skipString (bs ++ rest) = skipString rest := by
  induction bs with
  | nil => rfl
  | cons b bs ih =>
    obtain ⟨⟨hquote, hbackslash, hcontrol⟩, hbs⟩ := List.forall_mem_cons.1 h
    rw [List.cons_append, skipString, if_neg hquote, if_neg hbackslash, if_neg hcontrol, ih hbs]

theorem skipEscape_letter {letter c : Char} (h : (letter, c) ∈ letterEscapes) (rest : Bytes) :
    skipEscape (byte letter :: rest) = .ok rest := by
  simp only [skipEscape, (letterEscape_eq h).1, Option.isSome_some, if_true]

theorem skipEscape_number {digits : Bytes} {n : Nat} (h : Hex4 digits n) (rest : Bytes) :
    skipEscape (byte 'u' :: (digits ++ rest)) = .ok rest := by
  have hletter : letterEscape (byte 'u') = none := by decide
  simp only [skipEscape, hletter, Option.isSome_none, Bool.false_eq_true, if_false, if_true, h.read]

theorem skipString_number {digits : Bytes} {n : Nat} (h : Hex4 digits n) (rest : Bytes) :
    skipString (numbered digits ++ rest) = skipString rest :=
  skipString_escape (skipEscape_number h rest)

theorem CharText.skipString {t : Bytes} {c : Char} (h : CharText t c) (rest : Bytes) :
    skipString (t ++ rest) = skipString rest := by
  cases h with
  | plain hquote hbackslash hcontrol =>
    exact skipString_plain
      (fun b hb => isPlain_of_mem_utf8EncodeChar hquote hbackslash hcontrol hb) rest
  | letter h => exact skipString_escape (skipEscape_letter h rest)
  | unit h => exact skipString_number h rest
  | pair hc hhigh hlow => rw [List.append_assoc, skipString_number hhigh, skipString_number hlow]

theorem LooseText.skipString {t : Bytes} (h : LooseText t) (rest : Bytes) :
    skipString (t ++ byte '"' :: rest) = .ok rest := by
  induction h with
  | nil => exact skipString_quote rest
  | char hc _ ih => rw [List.append_assoc, hc.skipString, ih]
  | number h _ ih => rw [List.append_assoc, skipString_number h, ih]

end MetricCheck.Json
