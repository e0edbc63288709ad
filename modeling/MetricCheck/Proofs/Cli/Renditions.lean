-- Text in colours and text without. The sequences that select renditions are put around parts of
-- a text, and nothing else in it depends on colours; so without its sequences a text in colours
-- is the text without colours, as long as no part of it has an escape character of its own.
import MetricCheck.Proofs.Cli.Writing
import MetricCheck.Proofs.Escapes

namespace MetricCheck.Cli

/-! ## Texts without their sequences -/

/-- What comes after the sequence that the text begins with: the escape character, a bracket,
digits, and the letter at the end. -/
def afterSequence : List Char → Option (List Char)
  | '\x1b' :: '[' :: cs =>
    match cs.takeWhile Char.isDigit, cs.dropWhile Char.isDigit with
    | _ :: _, 'm' :: rest => some rest
    | _, _ => none
  | _ => none

theorem afterSequence_shorter {cs rest : List Char} (h : afterSequence cs = some rest) :
    rest.length < cs.length := by
  unfold afterSequence at h
  split at h
  · rename_i cs
    split at h
    · rename_i hdrop
      cases h
      have hle := Text.length_dropWhile_le Char.isDigit cs
      rw [hdrop, List.length_cons] at hle
      simp only [List.length_cons]
      omega
    · cases h
  · cases h

/-- The text without its sequences, from its beginning on. -/
def deleteSequences : List Char → List Char
  | [] => []
  | c :: cs =>
    match _h : afterSequence (c :: cs) with
    | some rest => deleteSequences rest
    | none => c :: deleteSequences cs
termination_by cs => cs.length
decreasing_by
  · exact afterSequence_shorter _h
  · exact Nat.lt_succ_self _

def withoutSequences (text : String) : String := String.ofList (deleteSequences text.toList)

example : withoutSequences "\x1b[1ma\x1b[0m\x1b[31" = "a\x1b[31" := by decide +kernel

theorem deleteSequences_of_sequence {cs rest : List Char} (h : afterSequence cs = some rest) :
    deleteSequences cs = deleteSequences rest := by
  cases cs with
  | nil => cases h
  | cons c cs =>
    rw [deleteSequences]
    split
    · rename_i later hlater
      rw [h] at hlater
      cases hlater
      rfl
    · rename_i hnone
      rw [h] at hnone
      cases hnone

theorem deleteSequences_cons {c : Char} {cs : List Char} (h : afterSequence (c :: cs) = none) :
    deleteSequences (c :: cs) = c :: deleteSequences cs := by
  rw [deleteSequences]
  split
  · rename_i later hlater
    rw [h] at hlater
    cases hlater
  · rfl

theorem afterSequence_of_ne {c : Char} (h : c ≠ '\x1b') (cs : List Char) :
    afterSequence (c :: cs) = none := by
  unfold afterSequence
  split
  · rename_i heq
    exact absurd (List.cons.inj heq).1 h
  · rfl

theorem deleteSequences_append {cs : List Char} (h : '\x1b' ∉ cs) (rest : List Char) :
    deleteSequences (cs ++ rest) = cs ++ deleteSequences rest := by
  induction cs with
  | nil => rfl
  | cons c cs ih =>
    obtain ⟨hc, hcs⟩ := List.ne_and_not_mem_of_not_mem_cons h
    rw [List.cons_append, deleteSequences_cons (afterSequence_of_ne (Ne.symm hc) _), ih hcs,
      List.cons_append]

theorem afterSequence_selectRendition (code : Nat) (rest : List Char) :
    afterSequence ((selectRendition code).toList ++ rest) = some rest := by
  have htext : (selectRendition code).toList ++ rest =
      '\x1b' :: '[' :: (Nat.toDigits 10 code ++ 'm' :: rest) := by
    simp [selectRendition]
  have hdigits := isDigits_toDigits code
  obtain ⟨d, ds, hcode⟩ := List.exists_cons_of_ne_nil (@Nat.toDigits_ne_nil code 10)
  have htake : (Nat.toDigits 10 code ++ 'm' :: rest).takeWhile Char.isDigit = d :: ds := by
    rw [takeWhile_append_of_stop (by simp), List.takeWhile_eq_self_iff.2 hdigits, hcode]
  have hdrop : (Nat.toDigits 10 code ++ 'm' :: rest).dropWhile Char.isDigit = 'm' :: rest := by
    rw [dropWhile_append_of_stop (by simp), List.dropWhile_eq_nil_iff.2 hdigits, List.nil_append]
  rw [htext]
  simp only [afterSequence, htake, hdrop]

/-! ## Texts in colours -/

/-- Without its sequences the first text is the second, whatever comes after it. -/
def Strips (colored plain : String) : Prop :=
  ∀ rest, deleteSequences (colored.toList ++ rest) = plain.toList ++ deleteSequences rest

namespace Strips

variable {colored plain colored' plain' : String}

theorem eq (h : Strips colored plain) : withoutSequences colored = plain := by
  have hnil := h []
  rw [List.append_nil, deleteSequences, List.append_nil] at hnil
  rw [withoutSequences, hnil, String.ofList_toList]

theorem of_noEscape {text : String} (h : NoEscape text) : Strips text text :=
  deleteSequences_append h

theorem empty : Strips "" "" := fun _ => rfl

theorem append (h : Strips colored plain) (h' : Strips colored' plain') :
    Strips (colored ++ colored') (plain ++ plain') := by
  intro rest
  rw [String.toList_append, String.toList_append, List.append_assoc, h, h', List.append_assoc]

theorem append_text (h : Strips colored plain) (text : String) (htext : NoEscape text) :
    Strips (colored ++ text) (plain ++ text) :=
  h.append (of_noEscape htext)

theorem join {α : Type} {xs : List α} {f g : α → String} (h : ∀ x ∈ xs, Strips (f x) (g x)) :
    Strips (String.join (xs.map f)) (String.join (xs.map g)) := by
  induction xs with
  | nil => exact empty
  | cons x xs ih =>
    obtain ⟨hx, hxs⟩ := List.forall_mem_cons.1 h
    rw [List.map_cons, List.map_cons, String.join_cons, String.join_cons]
    exact hx.append (ih hxs)

theorem intercalate {sep : String} (hsep : NoEscape sep) {parts parts' : List String}
    (h : List.Forall₂ Strips parts parts') :
    Strips (sep.intercalate parts) (sep.intercalate parts') := by
  induction h with
  | nil => exact empty
  | cons hfirst hlater ih =>
    cases hlater with
    | nil => simpa using hfirst
    | cons _ _ =>
      rw [String.intercalate_cons_cons, String.intercalate_cons_cons]
      exact (hfirst.append_text sep hsep).append ih

end Strips

theorem strips_selectRendition (code : Nat) : Strips (selectRendition code) "" := fun rest =>
  deleteSequences_of_sequence (afterSequence_selectRendition code rest)

theorem strips_paint {text : String} (h : NoEscape text) (style : Style) :
    Strips (paint true style text) (paint false style text) := by
  have hstrips := ((strips_selectRendition style.code).append (.of_noEscape h)).append
    (strips_selectRendition 0)
  rwa [String.empty_append, String.append_empty] at hstrips

theorem strips_sourceLine {source text : String} (hsource : NoEscape source)
    (htext : NoEscape text) (style : Style) :
    Strips (sourceLine true source style text) (sourceLine false source style text) :=
  (((strips_paint hsource .bold).append_text ": " (by decide)).append
    (strips_paint htext style)).append_text "\n" (by decide)

theorem strips_countText (count : Nat) : Strips (countText true count) (countText false count) := by
  unfold countText
  split
  · exact strips_paint (by decide) _
  · exact strips_paint (noEscape_toString count) _

theorem strips_summaryLine {parts parts' : List String} (h : List.Forall₂ Strips parts parts') :
    Strips (summaryLine parts) (summaryLine parts') :=
  ((Strips.of_noEscape (by decide)).append
    (.intercalate (by decide) h)).append_text "\n" (by decide)

/-- A part of a summary: a label, and what it labels. -/
theorem strips_labelled (label : String) (hlabel : NoEscape label) {colored plain : String}
    (h : Strips colored plain) :
    Strips (paint true .dim label ++ " " ++ colored) (paint false .dim label ++ " " ++ plain) :=
  ((strips_paint hlabel .dim).append_text " " (by decide)).append h

/-- A time in a summary, after its name. -/
theorem strips_time (name : String) (hname : NoEscape name) {time : String} (htime : NoEscape time)
    (style : Style) : Strips (name ++ paint true style time) (name ++ paint false style time) :=
  (Strips.of_noEscape hname).append (strips_paint htime style)

/-- No text of a time has the escape character in it. -/
structure Timings.IsPlain (timings : Timings) : Prop where
  total : NoEscape timings.total
  build : NoEscape timings.build
  evaluate : NoEscape timings.evaluate
  complete : NoEscape timings.complete

theorem strips_summaryText {timings : Timings} {source : String} (htimings : timings.IsPlain)
    (hsource : NoEscape source) (i : Inspection) :
    Strips (summaryText true timings source i) (summaryText false timings source i) := by
  have htitle : NoEscape ("━━━ " ++ source ++ " ━━━") := by
    simp only [noEscape_append]
    exact ⟨⟨by decide, hsource⟩, by decide⟩
  have hcount := fun label hlabel kind =>
    strips_labelled label hlabel (strips_countText (i.countOf kind))
  have hcounts := strips_summaryLine <|
    .cons (hcount "out of range:" (by decide) .outOfRange) <|
    .cons (hcount "missing:" (by decide) .missing) <|
    .cons (hcount "unexpected:" (by decide) .unexpected) .nil
  have hmatched := ((strips_labelled "rules matched:" (by decide)
    (strips_paint (noEscape_toString i.matchedRules) .green)).append_text "/"
      (by decide)).append_text _ (noEscape_toString i.coverage.length)
  have hnodes := strips_labelled "trie nodes:" (by decide)
    (.of_noEscape (noEscape_toString i.nodes))
  have htimes := strips_summaryLine <|
    .cons (strips_time "Total: " (by decide) htimings.total .green) <|
    .cons (strips_time "Build: " (by decide) htimings.build .dim) <|
    .cons (strips_time "Evaluate: " (by decide) htimings.evaluate .cyan) <|
    .cons (strips_time "Complete: " (by decide) htimings.complete .dim) .nil
  have hopening := ((Strips.of_noEscape (show NoEscape "\n" by decide)).append
    (strips_paint htitle .gray)).append_text "\n" (by decide)
  exact ((hopening.append hcounts).append
    (strips_summaryLine (.cons hmatched (.cons hnodes .nil)))).append htimes

/-! ## Events -/

/-- No text that the event brings to the output has the escape character in it. -/
def Event.IsPlain (words : Json.Wording) : Event → Prop
  | .log _ => True
  | .failed source why => NoEscape source ∧ NoEscape (why.message words)
  | .found source violation => NoEscape source ∧ NoEscape violation.text
  | .summary _ source _ => NoEscape source
  | .rules generated => NoEscape (renderRules generated)

section Plain

variable {words : Json.Wording} {timings : Nat → Timings} {event : Event}

theorem Event.IsPlain.strips_stdout (h : event.IsPlain words)
    (htimings : ∀ place, (timings place).IsPlain) :
    Strips (event.stdout true timings) (event.stdout false timings) := by
  cases event with
  | log | failed => exact .empty
  | found source violation => exact strips_sourceLine h.1 h.2 _
  | summary place source inspection => exact strips_summaryText (htimings place) h inspection
  | rules generated => exact .of_noEscape h

theorem Event.IsPlain.strips_complaint (h : event.IsPlain words) :
    Strips (event.complaint true words) (event.complaint false words) := by
  cases event with
  | failed source why => exact strips_sourceLine h.1 h.2 .red
  | log | found | summary | rules => exact .empty

/-- Events written in colours differ from events written without by sequences. -/
theorem withoutSequences_written {events : List Event}
    (h : ∀ event ∈ events, event.IsPlain words) (htimings : ∀ place, (timings place).IsPlain)
    (code : Nat) :
    withoutSequences (written true timings words events code).stdout =
        (written false timings words events code).stdout ∧
      withoutSequences (written true timings words events code).stderr =
        (written false timings words events code).stderr :=
  ⟨(Strips.join fun event hevent => (h event hevent).strips_stdout htimings).eq,
    (Strips.join fun event hevent => (h event hevent).strips_complaint).eq⟩

end Plain

end MetricCheck.Cli
