-- What the reader of tokens takes from a text. A relation says of a text, a token and
-- a rest that the token stands first in the text and the rest comes after it, and the
-- reader answers just as the relation says.
import Mathlib.Data.List.TakeWhile
import MetricCheck.RuleText.Token

namespace MetricCheck

open Text

/-- Blanks within a line. -/
def InlineBlanks (cs : List Char) : Prop := ∀ c ∈ cs, isInlineBlank c = true

/-- The characters that begin something else than a path. -/
def pathMarks : List Char := ['~', '/', '<', '>', ',']

/-- What can be a path in rule text: a run without blanks that begins with no mark. -/
structure IsPath (cs : List Char) : Prop where
  nonempty : cs ≠ []
  noBlank : ∀ c ∈ cs, isBlank c = false
  noMark : ∀ c ∈ cs.head?, c ∉ pathMarks

instance (cs : List Char) : Decidable (IsPath cs) :=
  decidable_of_iff
    (cs ≠ [] ∧ (cs.all fun c => !isBlank c) = true ∧
      (cs.head?.toList.all fun c => !pathMarks.contains c) = true) <| by
    constructor
    · rintro ⟨hne, hblank, hmark⟩
      exact ⟨hne, by simpa using hblank, by simpa using hmark⟩
    · rintro ⟨hne, hblank, hmark⟩
      exact ⟨hne, by simpa using hblank, by simpa using hmark⟩

/-- The characters of an operator. -/
def Operator.chars : Operator → List Char
  | .lessThan => ['<']
  | .lessEqual => ['<', '=']
  | .greaterThan => ['>']
  | .greaterEqual => ['>', '=']

theorem Operator.toList_text (op : Operator) : op.text.toList = op.chars := by
  cases op <;> rfl

/-- The operator that an equals sign after it does not change. -/
def Operator.IsClosed (op : Operator) : Prop := op = .lessEqual ∨ op = .greaterEqual

/-- The token stands first in the text, after blanks and perhaps a comment, and the
rest comes after it. -/
inductive Reads : List Char → Token → List Char → Prop
  | blank {c : Char} {cs rest : List Char} {t : Token} (hc : isInlineBlank c = true)
      (h : Reads cs t rest) : Reads (c :: cs) t rest
  | tilde (rest : List Char) : Reads ('~' :: rest) .tilde rest
  | comma (rest : List Char) : Reads (',' :: rest) .comma rest
  | operator {op : Operator} {rest : List Char} (h : rest.head? = some '=' → op.IsClosed) :
      Reads (op.chars ++ rest) (.operator op) rest
  | text {path rest : List Char} (hpath : IsPath path)
      (hrest : ∀ c ∈ rest.head?, isBlank c = true) :
      Reads (path ++ rest) (.text (String.ofList path)) rest
  | newline (rest : List Char) : Reads ('\n' :: rest) .newline rest
  | newlineAfter {note rest : List Char} (h : '\n' ∉ note) :
      Reads ('/' :: '/' :: (note ++ '\n' :: rest)) .newline rest
  | endOfText : Reads [] .endOfText []
  | endOfTextAfter {note : List Char} (h : '\n' ∉ note) :
      Reads ('/' :: '/' :: note) .endOfText []

/-- After blanks stands a slash that begins no comment. -/
inductive StopsAtSlash : List Char → Prop
  | blank {c : Char} {cs : List Char} (hc : isInlineBlank c = true) (h : StopsAtSlash cs) :
      StopsAtSlash (c :: cs)
  | slash {rest : List Char} (h : rest.head? ≠ some '/') : StopsAtSlash ('/' :: rest)

/-- How many lines a token ends. -/
def Token.newlines : Token → Nat
  | .newline => 1
  | _ => 0

/-! ## Blanks and runs -/

theorem isInlineBlank_iff {c : Char} : isInlineBlank c = true ↔ isBlank c = true ∧ c ≠ '\n' := by
  rw [isInlineBlank, Bool.and_eq_true, bne_iff_ne, and_comm]

theorem isBlank_newline : isBlank '\n' = true := by decide

theorem isBlank_of_isInlineBlank {c : Char} (h : isInlineBlank c = true) : isBlank c = true :=
  (isInlineBlank_iff.1 h).1

/-- Numerals are made of digits, points and minus signs, which stand together. -/
theorem toNat_of_isNumeral {c : Char} (h : Cursor.isNumeral c = true) :
    45 ≤ c.toNat ∧ c.toNat ≤ 57 := by
  rw [Cursor.isNumeral, Bool.or_eq_true, Bool.or_eq_true, beq_iff_eq, beq_iff_eq] at h
  rcases h with (h | rfl) | rfl
  · have hrange := Char.isDigit_iff_toNat.1 h
    exact ⟨Nat.le_trans (by decide) hrange.1, hrange.2⟩
  · decide
  · decide

theorem isBlank_of_isNumeral {c : Char} (h : Cursor.isNumeral c = true) : isBlank c = false := by
  have hrange := toNat_of_isNumeral h
  simp [isBlank, blankRanges]
  omega

theorem InlineBlanks.nil : InlineBlanks [] := fun _ h => (nomatch h)

theorem InlineBlanks.cons {c : Char} {cs : List Char} (hc : isInlineBlank c = true)
    (h : InlineBlanks cs) : InlineBlanks (c :: cs) :=
  List.forall_mem_cons.2 ⟨hc, h⟩

/-- Where a run was dropped, the first character left is none of the run's. -/
theorem head?_dropWhile {p : Char → Bool} {cs : List Char} :
    ∀ c ∈ (cs.dropWhile p).head?, p c = false := by
  intro c hc
  have h := List.head?_dropWhile_not p cs
  rw [Option.mem_def] at hc
  rw [hc] at h
  exact h

/-- A run ends where something comes that is not of its kind. -/
theorem takeWhile_append_of_stop {p : Char → Bool} {rest : List Char}
    (hrest : ∀ c ∈ rest.head?, p c = false) (cs : List Char) :
    (cs ++ rest).takeWhile p = cs.takeWhile p := by
  induction cs with
  | nil =>
    cases rest with
    | nil => rfl
    | cons c rest => simp [hrest c rfl]
  | cons c cs ih => by_cases hc : p c <;> simp [hc, ih]

theorem dropWhile_append_of_stop {p : Char → Bool} {rest : List Char}
    (hrest : ∀ c ∈ rest.head?, p c = false) (cs : List Char) :
    (cs ++ rest).dropWhile p = cs.dropWhile p ++ rest := by
  induction cs with
  | nil =>
    cases rest with
    | nil => rfl
    | cons c rest => simp [hrest c rfl]
  | cons c cs ih => by_cases hc : p c <;> simp [hc, ih]

theorem Reads.blanks {bs cs rest : List Char} {t : Token} (hb : InlineBlanks bs)
    (h : Reads cs t rest) : Reads (bs ++ cs) t rest := by
  induction bs with
  | nil => exact h
  | cons b bs ih => exact .blank (hb b (by simp)) (ih fun c hc => hb c (by simp [hc]))

/-- The end of the text leaves nothing. -/
theorem Reads.rest_of_endOfText {cs rest : List Char} (h : Reads cs .endOfText rest) :
    rest = [] := by
  generalize ht : Token.endOfText = t at h
  induction h with
  | blank _ _ ih => exact ih ht
  | endOfText | endOfTextAfter => rfl
  | tilde | comma | operator | text | newline | newlineAfter => cases ht

/-! ## The reader follows the relation -/

theorem Cursor.next_blank {c : Char} (hc : isInlineBlank c = true) (cs : List Char) (line : Nat) :
    Cursor.next ⟨c :: cs, line⟩ = Cursor.next ⟨cs, line⟩ := by
  unfold Cursor.next
  rw [List.dropWhile_cons_of_pos hc]

theorem reads_of_next {cs : List Char} {line : Nat} {t : Token} {c' : Cursor}
    (h : Cursor.next ⟨cs, line⟩ = .ok (t, c')) :
    Reads cs t c'.rest ∧ c'.line = line + t.newlines := by
  induction cs with
  | nil =>
    cases h
    exact ⟨.endOfText, rfl⟩
  | cons d cs ih =>
    by_cases hd : isInlineBlank d = true
    · rw [Cursor.next_blank hd] at h
      exact ⟨.blank hd (ih h).1, (ih h).2⟩
    unfold Cursor.next at h
    simp only [List.dropWhile_cons_of_neg hd] at h
    split at h
    case h_1 heq => cases heq
    case h_2 heq =>
      cases heq
      cases h
      exact ⟨.newline _, rfl⟩
    case h_3 r heq =>
      cases heq
      have hnote : '\n' ∉ r.takeWhile (· != '\n') := fun hmem => by
        simpa using List.mem_takeWhile_imp hmem
      have hr := List.takeWhile_append_dropWhile (p := (· != '\n')) (l := r)
      split at h
      · rename_i hnil
        cases h
        rw [hnil, List.append_nil] at hr
        exact ⟨.endOfTextAfter (hr ▸ hnote), rfl⟩
      · rename_i e rest hcons
        cases h
        have he : (e != '\n') = false := head?_dropWhile e (by rw [hcons]; rfl)
        obtain rfl : e = '\n' := by simpa using he
        rw [hcons] at hr
        rw [← hr]
        exact ⟨.newlineAfter hnote, rfl⟩
    case h_4 => cases h
    case h_5 heq =>
      cases heq
      cases h
      exact ⟨.tilde _, rfl⟩
    case h_6 heq =>
      cases heq
      cases h
      exact ⟨@Reads.operator .lessEqual _ fun _ => .inl rfl, rfl⟩
    case h_7 hne heq =>
      cases heq
      cases h
      refine ⟨@Reads.operator .lessThan _ fun heq => ?_, rfl⟩
      obtain ⟨r', rfl⟩ := List.head?_eq_some_iff.1 heq
      exact absurd rfl (hne r')
    case h_8 heq =>
      cases heq
      cases h
      exact ⟨@Reads.operator .greaterEqual _ fun _ => .inr rfl, rfl⟩
    case h_9 hne heq =>
      cases heq
      cases h
      refine ⟨@Reads.operator .greaterThan _ fun heq => ?_, rfl⟩
      obtain ⟨r', rfl⟩ := List.head?_eq_some_iff.1 heq
      exact absurd rfl (hne r')
    case h_10 heq =>
      cases heq
      cases h
      exact ⟨.comma _, rfl⟩
    case h_11 hnl _ hslash htilde _ hless _ hgreater hcomma heq =>
      cases heq
      cases h
      have hrun := List.takeWhile_append_dropWhile (p := fun e => !isBlank e) (l := cs)
      have hblank : isBlank d = false :=
        Bool.eq_false_iff.2 fun hb => hd (isInlineBlank_iff.2 ⟨hb, hnl⟩)
      have hpath : IsPath (d :: cs.takeWhile fun e => !isBlank e) := by
        refine ⟨by simp, ?_, ?_⟩
        · intro c hc
          rcases List.mem_cons.1 hc with rfl | hc
          · exact hblank
          · simpa using List.mem_takeWhile_imp hc
        · intro c hc hmark
          obtain rfl : d = c := by simpa using hc
          simp only [pathMarks, List.mem_cons, List.not_mem_nil, or_false] at hmark
          rcases hmark with rfl | rfl | rfl | rfl | rfl
          · exact htilde rfl
          · exact hslash rfl
          · exact hless rfl
          · exact hgreater rfl
          · exact hcomma rfl
      refine ⟨?_, rfl⟩
      have htext := @Reads.text _ (cs.dropWhile fun e => !isBlank e) hpath
        fun c hc => by simpa using head?_dropWhile c hc
      rwa [List.cons_append, hrun] at htext

theorem stopsAtSlash_of_next {cs : List Char} {line : Nat} {cause : ParseError.Cause}
    (h : Cursor.next ⟨cs, line⟩ = .error cause) : StopsAtSlash cs ∧ cause = .loneSlash := by
  induction cs with
  | nil => cases h
  | cons d cs ih =>
    by_cases hd : isInlineBlank d = true
    · rw [Cursor.next_blank hd] at h
      exact ⟨.blank hd (ih h).1, (ih h).2⟩
    unfold Cursor.next at h
    simp only [List.dropWhile_cons_of_neg hd] at h
    split at h
    case h_3 => split at h <;> cases h
    case h_4 hne heq =>
      cases heq
      cases h
      refine ⟨.slash fun heq => ?_, rfl⟩
      obtain ⟨r, rfl⟩ := List.head?_eq_some_iff.1 heq
      exact absurd rfl (hne r)
    all_goals cases h

/-! The marks that begin more than one token are told apart by the next character. -/

theorem Cursor.next_slash {rest : List Char} (h : rest.head? ≠ some '/') (line : Nat) :
    Cursor.next ⟨'/' :: rest, line⟩ = .error .loneSlash := by
  unfold Cursor.next
  rw [List.dropWhile_cons_of_neg (by decide)]
  split
  case h_3 heq =>
    obtain ⟨-, rfl⟩ := List.cons.inj heq
    exact absurd rfl h
  case h_4 => rfl
  case h_11 heq =>
    have hhead := (List.cons.inj heq).1.symm
    contradiction
  all_goals
    rename_i heq
    cases heq

theorem Cursor.next_lessThan {rest : List Char} (h : rest.head? ≠ some '=') (line : Nat) :
    Cursor.next ⟨'<' :: rest, line⟩ = .ok (.operator .lessThan, ⟨rest, line⟩) := by
  unfold Cursor.next
  rw [List.dropWhile_cons_of_neg (by decide)]
  split
  case h_6 heq =>
    obtain ⟨-, rfl⟩ := List.cons.inj heq
    exact absurd rfl h
  case h_7 heq =>
    cases heq
    rfl
  case h_11 heq =>
    have hhead := (List.cons.inj heq).1.symm
    contradiction
  all_goals
    rename_i heq
    cases heq

theorem Cursor.next_greaterThan {rest : List Char} (h : rest.head? ≠ some '=') (line : Nat) :
    Cursor.next ⟨'>' :: rest, line⟩ = .ok (.operator .greaterThan, ⟨rest, line⟩) := by
  unfold Cursor.next
  rw [List.dropWhile_cons_of_neg (by decide)]
  split
  case h_8 heq =>
    obtain ⟨-, rfl⟩ := List.cons.inj heq
    exact absurd rfl h
  case h_9 heq =>
    cases heq
    rfl
  case h_11 heq =>
    have hhead := (List.cons.inj heq).1.symm
    contradiction
  all_goals
    rename_i heq
    cases heq

theorem Cursor.next_comment {note : List Char} (h : '\n' ∉ note) (line : Nat) :
    Cursor.next ⟨'/' :: '/' :: note, line⟩ = .ok (.endOfText, ⟨[], line⟩) := by
  have hrun : ∀ c ∈ note, (c != '\n') = true := fun c hc =>
    bne_iff_ne.2 fun heq : c = '\n' => h (heq ▸ hc)
  have hdrop : note.dropWhile (· != '\n') = [] := List.dropWhile_eq_nil_iff.2 hrun
  unfold Cursor.next
  rw [List.dropWhile_cons_of_neg (by decide)]
  simp only [hdrop]

theorem Cursor.next_commentLine {note : List Char} (h : '\n' ∉ note) (rest : List Char)
    (line : Nat) :
    Cursor.next ⟨'/' :: '/' :: (note ++ '\n' :: rest), line⟩ =
      .ok (.newline, ⟨rest, line + 1⟩) := by
  have hrun : ∀ c ∈ note, (c != '\n') = true := fun c hc =>
    bne_iff_ne.2 fun heq : c = '\n' => h (heq ▸ hc)
  have hdrop : (note ++ '\n' :: rest).dropWhile (· != '\n') = '\n' :: rest := by
    rw [dropWhile_append_of_stop (by simp), List.dropWhile_eq_nil_iff.2 hrun, List.nil_append]
  unfold Cursor.next
  rw [List.dropWhile_cons_of_neg (by decide)]
  simp only [hdrop]

/-- A path is read as one token, up to the next blank. -/
theorem Cursor.next_path {path rest : List Char} (hpath : IsPath path)
    (hrest : ∀ c ∈ rest.head?, isBlank c = true) (line : Nat) :
    Cursor.next ⟨path ++ rest, line⟩ = .ok (.text (String.ofList path), ⟨rest, line⟩) := by
  obtain ⟨d, ds, rfl⟩ := List.exists_cons_of_ne_nil hpath.nonempty
  have hd : isBlank d = false := hpath.noBlank d (by simp)
  have hinline : ¬ isInlineBlank d = true := fun hyes => by simp [isInlineBlank_iff, hd] at hyes
  have hmark : d ∉ pathMarks := hpath.noMark d rfl
  simp only [pathMarks, List.mem_cons, List.not_mem_nil, or_false, not_or] at hmark
  obtain ⟨htilde, hslash, hless, hgreater, hcomma⟩ := hmark
  have hnl : d ≠ '\n' := by
    rintro rfl
    exact absurd hd (by decide)
  have hstop : ∀ c ∈ rest.head?, (!isBlank c) = false := fun c hc => by simp [hrest c hc]
  have hrun : ∀ c ∈ ds, (!isBlank c) = true := fun c hc => by
    simp [hpath.noBlank c (List.mem_cons_of_mem d hc)]
  unfold Cursor.next
  rw [List.cons_append, List.dropWhile_cons_of_neg hinline]
  split
  case h_1 heq => cases heq
  case h_11 heq =>
    cases heq
    rw [takeWhile_append_of_stop hstop, dropWhile_append_of_stop hstop,
      List.takeWhile_eq_self_iff.2 hrun, List.dropWhile_eq_nil_iff.2 hrun, List.nil_append]
  all_goals
    rename_i heq
    have hhead := (List.cons.inj heq).1
    contradiction

theorem next_of_stopsAtSlash {cs : List Char} (h : StopsAtSlash cs) (line : Nat) :
    Cursor.next ⟨cs, line⟩ = .error .loneSlash := by
  induction h with
  | blank hc _ ih => rw [Cursor.next_blank hc, ih]
  | slash h => exact Cursor.next_slash h line

theorem next_of_reads {cs rest : List Char} {t : Token} (h : Reads cs t rest) (line : Nat) :
    Cursor.next ⟨cs, line⟩ = .ok (t, ⟨rest, line + t.newlines⟩) := by
  induction h with
  | blank hc _ ih => rw [Cursor.next_blank hc, ih]
  | tilde => rfl
  | comma => rfl
  | @operator op rest hclosed =>
    cases op with
    | lessEqual => rfl
    | greaterEqual => rfl
    | lessThan =>
      exact Cursor.next_lessThan (fun heq => by cases hclosed heq <;> contradiction) line
    | greaterThan =>
      exact Cursor.next_greaterThan (fun heq => by cases hclosed heq <;> contradiction) line
  | text hpath hrest => exact Cursor.next_path hpath hrest line
  | newline => rfl
  | newlineAfter hnote => exact Cursor.next_commentLine hnote _ line
  | endOfText => rfl
  | endOfTextAfter hnote => exact Cursor.next_comment hnote line

/-- No text begins with two tokens. -/
theorem Reads.unique {cs rest rest' : List Char} {t t' : Token} (h : Reads cs t rest)
    (h' : Reads cs t' rest') : t = t' ∧ rest = rest' := by
  have heq := (next_of_reads h 0).symm.trans (next_of_reads h' 0)
  simp only [Except.ok.injEq, Prod.mk.injEq, Cursor.mk.injEq] at heq
  exact ⟨heq.1, heq.2.1⟩

end MetricCheck
