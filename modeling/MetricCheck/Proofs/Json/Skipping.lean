-- Any value is skipped, however deep it is nested: what opens within it closes within it, so
-- skipping leaves the frames around the value and the text after it as they were.
import Mathlib.Data.List.DropRight
import MetricCheck.Json.Skip
import MetricCheck.Proofs.Json.Strings

namespace MetricCheck.Json

/-- The text goes on with nothing that could belong to a number before it. -/
def Stops (rest : Bytes) : Prop :=
  ∀ b ∈ rest.head?, isDigit b = false ∧ b ≠ byte '.' ∧ b ≠ byte 'e' ∧ b ≠ byte 'E'

/-! ## White space -/

theorem isSpace_iff {b : UInt8} :
    isSpace b = true ↔ b = byte ' ' ∨ b = byte '\n' ∨ b = byte '\t' ∨ b = byte '\r' := by
  simp [isSpace, or_assoc]

theorem skipSpace_append {s : Bytes} (hs : Spaces s) (rest : Bytes) :
    skipSpace (s ++ rest) = skipSpace rest :=
  List.dropWhile_append_of_pos fun b hb => isSpace_iff.2 (hs b hb)

theorem skipSpace_cons {b : UInt8} (hb : isSpace b = false) (rest : Bytes) :
    skipSpace (b :: rest) = b :: rest :=
  List.dropWhile_cons_of_neg (by simp [hb])

theorem stops_nil : Stops [] := fun _ hb => nomatch hb

theorem stops_cons {b : UInt8} (hb : isDigit b = false ∧ b ≠ byte '.' ∧ b ≠ byte 'e' ∧ b ≠ byte 'E')
    (rest : Bytes) : Stops (b :: rest) := by
  intro d hd
  obtain rfl := Option.some.inj hd
  exact hb

theorem Spaces.stops {s : Bytes} (hs : Spaces s) {rest : Bytes} (h : Stops rest) :
    Stops (s ++ rest) := by
  cases s with
  | nil => exact h
  | cons b s =>
    apply stops_cons
    rcases hs b List.mem_cons_self with rfl | rfl | rfl | rfl <;> decide

/-! ## Numbers -/

theorem Digits.isDigit {s : Bytes} (h : Digits s) : ∀ b ∈ s, isDigit b = true := by
  intro b hb
  have hrange := h.digits b hb
  simp [Json.isDigit, hrange.1, hrange.2]

theorem Digits.dropWhile_append {s rest : Bytes} (h : ∀ b ∈ s, Json.isDigit b = true)
    (hrest : ∀ b ∈ rest.head?, Json.isDigit b = false) :
    (s ++ rest).dropWhile Json.isDigit = rest := by
  rw [List.dropWhile_append_of_pos h]
  cases rest with
  | nil => rfl
  | cons b rest => exact List.dropWhile_cons_of_neg (by simp [hrest b rfl])

theorem Digits.skipDigits {s rest : Bytes} (h : Digits s)
    (hrest : ∀ b ∈ rest.head?, Json.isDigit b = false) : skipDigits (s ++ rest) = .ok rest := by
  obtain ⟨b, s, rfl⟩ := List.exists_cons_of_ne_nil h.nonempty
  obtain ⟨hb, hs⟩ := List.forall_mem_cons.1 h.isDigit
  simp only [List.cons_append, Json.skipDigits, hb, if_true, Digits.dropWhile_append hs hrest]

section Parts

variable {whole fraction exponent rest : Bytes} (hrest : Stops rest)
include hrest

/-- No digit or point begins an exponent or what comes after a number. -/
theorem ExponentText.head? (h : ExponentText exponent) :
    ∀ b ∈ (exponent ++ rest).head?, Json.isDigit b = false ∧ b ≠ byte '.' := by
  intro b hb
  cases h with
  | none => exact ⟨(hrest b hb).1, (hrest b hb).2.1⟩
  | power he =>
    obtain rfl := Option.some.inj hb
    rcases he with rfl | rfl <;> decide

theorem FractionText.head? (h : FractionText fraction) (hexponent : ExponentText exponent) :
    ∀ b ∈ (fraction ++ (exponent ++ rest)).head?, Json.isDigit b = false := by
  intro b hb
  cases h with
  | none => exact (hexponent.head? hrest b hb).1
  | places =>
    obtain rfl := Option.some.inj hb
    decide

theorem ExponentText.skipExponent (h : ExponentText exponent) :
    skipExponent (exponent ++ rest) = .ok rest := by
  cases h with
  | none =>
    cases rest with
    | nil => rfl
    | cons b rest =>
      obtain ⟨-, -, he, hE⟩ := hrest b rfl
      simp [Json.skipExponent, he, hE]
  | @power e sign s he hsign h =>
    have hdigits := h.skipDigits fun b hb => (hrest b hb).1
    rw [List.cons_append, Json.skipExponent.eq_def]
    simp only [he, if_true]
    rcases hsign with rfl | rfl | rfl
    · obtain ⟨b, s, rfl⟩ := List.exists_cons_of_ne_nil h.nonempty
      have hne : ¬ (b = byte '-' ∨ b = byte '+') := by
        have hb := h.isDigit b List.mem_cons_self
        rintro (rfl | rfl) <;> cases hb
      simpa only [List.nil_append, List.cons_append, if_neg hne] using hdigits
    · exact hdigits
    · exact hdigits

theorem FractionText.skipFraction (h : FractionText fraction) (hexponent : ExponentText exponent) :
    skipFraction (fraction ++ (exponent ++ rest)) = .ok rest := by
  have hskip := hexponent.skipExponent hrest
  have hhead := hexponent.head? hrest
  cases h with
  | none =>
    rw [List.nil_append]
    cases htext : exponent ++ rest with
    | nil =>
      obtain ⟨-, rfl⟩ := List.append_eq_nil_iff.1 htext
      rfl
    | cons b s =>
      rw [htext] at hskip hhead
      simp only [Json.skipFraction, if_neg (hhead b rfl).2, hskip]
  | places h =>
    simp only [List.cons_append, Json.skipFraction, if_true,
      h.skipDigits fun b hb => (hhead b hb).1, hskip]

theorem MagnitudeText.skipNumber {t : Bytes} (h : MagnitudeText t) :
    skipNumber (t ++ rest) = .ok rest := by
  cases h with
  | @mk whole fraction exponent hwhole hfraction hexponent =>
    have hskip := hfraction.skipFraction hrest hexponent
    have hhead := hfraction.head? hrest hexponent
    rw [List.append_assoc, List.append_assoc]
    cases hwhole with
    | zero =>
      have hnone : ¬ (fraction ++ (exponent ++ rest)).head?.any Json.isDigit = true := by
        rw [Option.any_eq_true]
        rintro ⟨b, hb, hdigit⟩
        rw [hhead b hb] at hdigit
        cases hdigit
      simp only [List.cons_append, List.nil_append, Json.skipNumber, if_true, if_neg hnone, hskip]
    | digits h hzero =>
      obtain ⟨b, s, rfl⟩ := List.exists_cons_of_ne_nil h.nonempty
      obtain ⟨hb, hs⟩ := List.forall_mem_cons.1 h.isDigit
      have hb0 : b ≠ byte '0' := fun heq => hzero (congrArg some heq)
      simp only [List.cons_append, Json.skipNumber, if_neg hb0, hb, if_true,
        Digits.dropWhile_append hs hhead, hskip]

end Parts

/-! ## Steps -/

section Steps

variable {frame : Frame} {frames : List Frame} {s rest : Bytes}

theorem skipWithin_value_eq (frames : List Frame) (s : Bytes) :
    skipWithin .value frames s =
      match skipSpace s with
      | [] => .error .truncated
      | b :: r =>
        if b = byte '[' then skipWithin .entryOrEnd (.list :: frames) r
        else if b = byte '\x7b' then skipWithin .entryOrEnd (.object :: frames) r
        else
          match skipScalar b r with
          | .error d => .error d
          | .ok r => skipWithin .commaOrEnd frames r := by
  rw [skipWithin]
  split <;> rename_i hspace <;> simp only [hspace]
  congr 2
  split <;> rename_i hscalar <;> simp only [hscalar]

theorem skipWithin_key_eq (frames : List Frame) (s : Bytes) :
    skipWithin .key frames s =
      match skipSpace s with
      | [] => .error .truncated
      | b :: r =>
        if b = byte '"' then
          match skipString r with
          | .error d => .error d
          | .ok r =>
            match colon r with
            | .error d => .error d
            | .ok r => skipWithin .value frames r
        else .error .malformed := by
  rw [skipWithin]
  split <;> rename_i hspace <;> simp only [hspace]
  congr 1
  split <;> rename_i hkey <;> simp only [hkey]
  split <;> rename_i hcolon <;> simp only [hcolon]

theorem skipWithin_entryOrEnd_eq (frame : Frame) (frames : List Frame) (s : Bytes) :
    skipWithin .entryOrEnd (frame :: frames) s =
      match skipSpace s with
      | [] => .error .truncated
      | b :: r =>
        if b = frame.close then skipWithin .commaOrEnd frames r
        else skipWithin frame.entry (frame :: frames) (b :: r) := by
  rw [skipWithin]
  split <;> rename_i hspace <;> simp only [hspace]

theorem skipWithin_commaOrEnd_eq (frame : Frame) (frames : List Frame) (s : Bytes) :
    skipWithin .commaOrEnd (frame :: frames) s =
      match skipSpace s with
      | [] => .error .truncated
      | b :: r =>
        if b = byte ',' then skipWithin frame.entry (frame :: frames) r
        else if b = frame.close then skipWithin .commaOrEnd frames r
        else .error .malformed := by
  rw [skipWithin]
  split <;> rename_i hspace <;> simp only [hspace]

theorem skipSpace_skipSpace (s : Bytes) : skipSpace (skipSpace s) = skipSpace s :=
  List.dropWhile_idempotent _ _

/-- White space in front of an entry is nothing to it. -/
theorem skipWithin_entry_skipSpace (frame : Frame) (frames : List Frame) (s : Bytes) :
    skipWithin frame.entry frames (skipSpace s) = skipWithin frame.entry frames s := by
  cases frame with
  | list => rw [Frame.entry, skipWithin_value_eq, skipWithin_value_eq, skipSpace_skipSpace]
  | object => rw [Frame.entry, skipWithin_key_eq, skipWithin_key_eq, skipSpace_skipSpace]

theorem skipWithin_value_spaces (hs : Spaces s) (frames : List Frame) (rest : Bytes) :
    skipWithin .value frames (s ++ rest) = skipWithin .value frames rest := by
  rw [skipWithin_value_eq, skipWithin_value_eq, skipSpace_append hs]

theorem skipWithin_commaOrEnd_spaces (hs : Spaces s) (hframes : frames ≠ []) (rest : Bytes) :
    skipWithin .commaOrEnd frames (s ++ rest) = skipWithin .commaOrEnd frames rest := by
  obtain ⟨frame, frames, rfl⟩ := List.exists_cons_of_ne_nil hframes
  rw [skipWithin_commaOrEnd_eq, skipWithin_commaOrEnd_eq, skipSpace_append hs]

/-- A frame with nothing in it is closed at once. -/
theorem skipWithin_empty (hs : Spaces s) :
    skipWithin .entryOrEnd (frame :: frames) (s ++ frame.close :: rest) =
      skipWithin .commaOrEnd frames rest := by
  have hclose : isSpace frame.close = false := by cases frame <;> decide
  simp only [skipWithin_entryOrEnd_eq, skipSpace_append hs, skipSpace_cons hclose, if_true]

/-- What begins with something else than the end is an entry. -/
theorem skipWithin_entry {b : UInt8} {r : Bytes} (h : skipSpace s = b :: r)
    (hb : b ≠ frame.close) :
    skipWithin .entryOrEnd (frame :: frames) s = skipWithin frame.entry (frame :: frames) s := by
  rw [← skipWithin_entry_skipSpace frame (frame :: frames) s]
  simp only [skipWithin_entryOrEnd_eq, h, if_neg hb]

theorem colon_append (hs : Spaces s) (rest : Bytes) :
    colon (s ++ byte ':' :: rest) = .ok rest := by
  have hspace : isSpace (byte ':') = false := by decide
  simp only [colon, skipSpace_append hs, skipSpace_cons hspace, if_true]

/-- A key goes on with its value. -/
theorem LooseString.skipWithin_key {k after : Bytes} (h : LooseString k) (hs : Spaces s)
    (hafter : Spaces after) (rest : Bytes) :
    skipWithin .key frames (s ++ (k ++ (after ++ byte ':' :: rest))) =
      skipWithin .value frames rest := by
  cases h with
  | mk h =>
    have hspace : isSpace (byte '"') = false := by decide
    rw [List.cons_append, List.append_assoc, List.singleton_append]
    simp only [skipWithin_key_eq, skipSpace_append hs, skipSpace_cons hspace, if_true,
      h.skipString, colon_append hafter]

theorem skipWithin_comma :
    skipWithin .commaOrEnd (frame :: frames) (byte ',' :: rest) =
      skipWithin frame.entry (frame :: frames) rest := by
  have hcomma : isSpace (byte ',') = false := by decide
  simp only [skipWithin_commaOrEnd_eq, skipSpace_cons hcomma, if_true]

theorem skipWithin_close :
    skipWithin .commaOrEnd (frame :: frames) (frame.close :: rest) =
      skipWithin .commaOrEnd frames rest := by
  have hclose : isSpace frame.close = false := by cases frame <;> decide
  have hcomma : frame.close ≠ byte ',' := by cases frame <;> decide
  simp only [skipWithin_commaOrEnd_eq, skipSpace_cons hclose, if_neg hcomma, if_true]

theorem skipWithin_list :
    skipWithin .value frames (byte '[' :: rest) =
      skipWithin .entryOrEnd (.list :: frames) rest := by
  have hspace : isSpace (byte '[') = false := by decide
  simp only [skipWithin_value_eq, skipSpace_cons hspace, if_true]

theorem skipWithin_object :
    skipWithin .value frames (byte '\x7b' :: rest) =
      skipWithin .entryOrEnd (.object :: frames) rest := by
  have hspace : isSpace (byte '\x7b') = false := by decide
  have hlist : byte '\x7b' ≠ byte '[' := by decide
  simp only [skipWithin_value_eq, skipSpace_cons hspace, if_neg hlist, if_true]

theorem skipWithin_scalar {b : UInt8} {r r' : Bytes} (hspace : isSpace b = false)
    (hlist : b ≠ byte '[') (hobject : b ≠ byte '\x7b') (h : skipScalar b r = .ok r') :
    skipWithin .value frames (b :: r) = skipWithin .commaOrEnd frames r' := by
  simp only [skipWithin_value_eq, skipSpace_cons hspace, if_neg hlist, if_neg hobject, h]

end Steps

/-! ## Scalars -/

section Scalars

variable {t rest : Bytes} (frames : List Frame)

theorem word_append (expected rest : Bytes) : word expected (expected ++ rest) = .ok rest := by
  induction expected with
  | nil => rfl
  | cons b expected ih => rw [List.cons_append, word, if_pos rfl, ih]

theorem skipWithin_word {letters : String} (h : letters ∈ valueWords) (rest : Bytes) :
    skipWithin .value frames (letters.toList.map byte ++ rest) =
      skipWithin .commaOrEnd frames rest := by
  have hall : ∀ letters ∈ valueWords, ∃ b r, letters.toList.map byte = b :: r ∧
      isSpace b = false ∧ b ≠ byte '[' ∧ b ≠ byte '\x7b' ∧
      ∀ rest, skipScalar b (r ++ rest) = .ok rest := by
    simp only [valueWords, List.forall_mem_cons, List.not_mem_nil, false_implies, implies_true,
      and_true]
    exact ⟨⟨_, _, rfl, by decide, by decide, by decide, word_append _⟩,
      ⟨_, _, rfl, by decide, by decide, by decide, word_append _⟩,
      ⟨_, _, rfl, by decide, by decide, by decide, word_append _⟩⟩
  obtain ⟨b, r, hletters, hspace, hlist, hobject, hskip⟩ := hall letters h
  rw [hletters, List.cons_append, skipWithin_scalar hspace hlist hobject (hskip rest)]

theorem LooseString.skipWithin (h : LooseString t) (rest : Bytes) :
    skipWithin .value frames (t ++ rest) = skipWithin .commaOrEnd frames rest := by
  cases h with
  | @mk t h =>
    have hskip : skipScalar (byte '"') (t ++ byte '"' :: rest) = .ok rest := h.skipString rest
    rw [List.cons_append, List.append_assoc, List.singleton_append,
      skipWithin_scalar (by decide) (by decide) (by decide) hskip]

/-- A number begins with a digit. -/
theorem MagnitudeText.begins (h : MagnitudeText t) :
    ∃ b r, t = b :: r ∧ byte '0' ≤ b ∧ b ≤ byte '9' := by
  cases h with
  | mk hwhole _ _ =>
    cases hwhole with
    | zero => exact ⟨_, _, rfl, by decide, by decide⟩
    | digits h _ =>
      obtain ⟨b, r, rfl⟩ := List.exists_cons_of_ne_nil h.nonempty
      exact ⟨b, _, rfl, h.digits b List.mem_cons_self⟩

/-- A digit is not any of the bytes that mean something else. -/
theorem ne_of_digit {b : UInt8} (hlow : byte '0' ≤ b) (hhigh : b ≤ byte '9') :
    isSpace b = false ∧ b ≠ byte '"' ∧ b ≠ byte '-' ∧ b ≠ byte '[' ∧ b ≠ byte ']' ∧
      b ≠ byte '\x7b' ∧ b ≠ byte '\x7d' := by
  have hne : ∀ c : UInt8, ¬ (byte '0' ≤ c ∧ c ≤ byte '9') → b ≠ c := by
    rintro c hc rfl
    exact hc ⟨hlow, hhigh⟩
  have hspace : isSpace b = false := by
    refine Bool.eq_false_iff.2 fun hb => ?_
    rcases isSpace_iff.1 hb with rfl | rfl | rfl | rfl
    · exact hne _ (by decide) rfl
    · exact hne _ (by decide) rfl
    · exact hne _ (by decide) rfl
    · exact hne _ (by decide) rfl
  exact ⟨hspace, hne _ (by decide), hne _ (by decide), hne _ (by decide), hne _ (by decide),
    hne _ (by decide), hne _ (by decide)⟩

theorem MagnitudeText.skipWithin (h : MagnitudeText t) (hrest : Stops rest) :
    skipWithin .value frames (t ++ rest) = skipWithin .commaOrEnd frames rest := by
  have hskip := h.skipNumber hrest
  obtain ⟨b, r, rfl, hlow, hhigh⟩ := h.begins
  obtain ⟨hspace, hquote, hminus, hlist, -, hobject, -⟩ := ne_of_digit hlow hhigh
  have hdigit : isDigit b = true := by simp [isDigit, hlow, hhigh]
  have hscalar : skipScalar b (r ++ rest) = .ok rest := by
    simp only [skipScalar, if_neg hquote, if_neg hminus, hdigit, if_true]
    exact hskip
  rw [List.cons_append, skipWithin_scalar hspace hlist hobject hscalar]

theorem MagnitudeText.skipWithin_negative (h : MagnitudeText t) (hrest : Stops rest) :
    Json.skipWithin .value frames (byte '-' :: t ++ rest) =
      Json.skipWithin .commaOrEnd frames rest := by
  have hscalar : skipScalar (byte '-') (t ++ rest) = .ok rest := h.skipNumber hrest
  rw [List.cons_append, skipWithin_scalar (by decide) (by decide) (by decide) hscalar]

end Scalars

/-! ## Values -/

/-- What is looked for where a part begins. -/
def Part.expecting : Part → Expecting
  | .value | .element | .elements => .value
  | .member | .members => .key

/-- Where a part may stand: a value anywhere, the others within a frame. -/
def Part.Fits (frames : List Frame) : Part → Prop
  | .value => True
  | .element | .member => frames ≠ []
  | .elements => ∃ outer, frames = .list :: outer
  | .members => ∃ outer, frames = .object :: outer

theorem LooseString.begins {t : Bytes} (h : LooseString t) : ∃ r, t = byte '"' :: r := by
  cases h with
  | mk => exact ⟨_, rfl⟩

/-- What a part begins with, after white space that no value has, closes no frame. -/
theorem PartText.opens {part : Part} {t : Bytes} (h : PartText part t) :
    ∃ s b r, t = s ++ b :: r ∧ (part = .value → s = []) ∧ Spaces s ∧ isSpace b = false ∧
      b ≠ byte ']' ∧ b ≠ byte '\x7d' := by
  induction h with
  | word h =>
    simp only [valueWords, List.mem_cons, List.not_mem_nil, or_false] at h
    rcases h with rfl | rfl | rfl <;>
      exact ⟨[], _, _, rfl, fun _ => rfl, nofun, by decide, by decide, by decide⟩
  | string h =>
    obtain ⟨r, rfl⟩ := h.begins
    exact ⟨[], _, r, rfl, fun _ => rfl, nofun, by decide, by decide, by decide⟩
  | number h =>
    obtain ⟨b, r, rfl, hlow, hhigh⟩ := h.begins
    obtain ⟨hspace, -, -, -, hlist, -, hobject⟩ := ne_of_digit hlow hhigh
    exact ⟨[], b, r, rfl, fun _ => rfl, nofun, hspace, hlist, hobject⟩
  | negative | emptyList | list | emptyObject | object =>
    exact ⟨[], _, _, rfl, fun _ => rfl, nofun, by decide, by decide, by decide⟩
  | @element before t after hbefore _ _ ih =>
    obtain ⟨s, b, r, rfl, hs, -, hb⟩ := ih
    obtain rfl := hs rfl
    exact ⟨before, b, r ++ after, by simp, nofun, hbefore, hb⟩
  | lastElement _ ih | lastMember _ ih =>
    obtain ⟨s, b, r, rfl, -, hb⟩ := ih
    exact ⟨s, b, r, rfl, nofun, hb⟩
  | elements _ _ ih | members _ _ ih =>
    obtain ⟨s, b, r, rfl, -, hb⟩ := ih
    exact ⟨s, b, _, List.append_assoc .., nofun, hb⟩
  | @member before _ _ _ hbefore hkey =>
    obtain ⟨r, rfl⟩ := hkey.begins
    exact ⟨before, byte '"', _, rfl, nofun, hbefore, by decide, by decide, by decide⟩

/-- The first of the entries of a frame is looked for as an entry. -/
theorem PartText.skipWithin_first {part : Part} {t : Bytes} (h : PartText part t) (frame : Frame)
    (frames : List Frame) (rest : Bytes) :
    skipWithin .entryOrEnd (frame :: frames) (t ++ rest) =
      skipWithin frame.entry (frame :: frames) (t ++ rest) := by
  obtain ⟨s, b, r, rfl, -, hs, hspace, hlist, hobject⟩ := h.opens
  rw [List.append_assoc, List.cons_append]
  apply skipWithin_entry ((skipSpace_append hs _).trans (skipSpace_cons hspace _))
  cases frame with
  | list => exact hlist
  | object => exact hobject

/-- A part is skipped, and the frames around it stay open. -/
theorem PartText.skipWithin {part : Part} {t : Bytes} (h : PartText part t) {frames : List Frame}
    (hfits : part.Fits frames) {rest : Bytes} (hrest : Stops rest) :
    skipWithin part.expecting frames (t ++ rest) = Json.skipWithin .commaOrEnd frames rest := by
  have hcomma : ∀ rest, Stops (byte ',' :: rest) := stops_cons (by decide)
  have hclose : ∀ (frame : Frame) rest, Stops (frame.close :: rest) := by
    rintro (_ | _) <;> exact stops_cons (by decide)
  induction h generalizing frames rest with
  | word h => exact skipWithin_word frames h rest
  | string h => exact h.skipWithin frames rest
  | number h => exact h.skipWithin frames hrest
  | negative h => exact h.skipWithin_negative frames hrest
  | emptyList hs =>
    rw [Part.expecting, List.cons_append, List.append_assoc, skipWithin_list]
    exact skipWithin_empty hs
  | list h ih =>
    rw [Part.expecting, List.cons_append, List.append_assoc, skipWithin_list,
      h.skipWithin_first .list]
    exact (ih ⟨frames, rfl⟩ (hclose .list _)).trans skipWithin_close
  | emptyObject hs =>
    rw [Part.expecting, List.cons_append, List.append_assoc, skipWithin_object]
    exact skipWithin_empty hs
  | object h ih =>
    rw [Part.expecting, List.cons_append, List.append_assoc, skipWithin_object,
      h.skipWithin_first .object]
    exact (ih ⟨frames, rfl⟩ (hclose .object _)).trans skipWithin_close
  | element hbefore _ hafter ih =>
    have hvalue := @ih frames trivial _ (hafter.stops hrest)
    rw [List.append_assoc, List.append_assoc]
    exact (skipWithin_value_spaces hbefore frames _).trans
      (hvalue.trans (skipWithin_commaOrEnd_spaces hafter hfits rest))
  | lastElement _ ih | lastMember _ ih =>
    obtain ⟨outer, rfl⟩ := hfits
    exact ih (List.cons_ne_nil _ _) hrest
  | elements _ _ ih ihlater | members _ _ ih ihlater =>
    obtain ⟨outer, rfl⟩ := hfits
    rw [List.append_assoc]
    exact (ih (List.cons_ne_nil _ _) (hcomma _)).trans
      (skipWithin_comma.trans (ihlater ⟨outer, rfl⟩ hrest))
  | member hbefore hkey hafter _ ih =>
    rw [List.append_assoc, List.append_assoc, List.append_assoc]
    exact (hkey.skipWithin_key hbefore hafter _).trans (ih hfits hrest)

/-- A value is skipped, and what comes after it is left. -/
theorem ValueText.skipValue {t rest : Bytes} (h : ValueText t) (hrest : Stops rest) :
    skipValue (t ++ rest) = .ok rest := by
  have hskip : Json.skipWithin .value [] (t ++ rest) = Json.skipWithin .commaOrEnd [] rest :=
    h.skipWithin trivial hrest
  rw [Json.skipValue, hskip, skipWithin]

end MetricCheck.Json
