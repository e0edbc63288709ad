-- What readers make of JSON text. A reader that takes every way of writing the parts of a
-- list or an object takes every way of writing the whole, with any white space in it.
import MetricCheck.Json.Reader
import MetricCheck.Proofs.Json.Skipping

namespace MetricCheck.Json

variable {α β σ : Type}

/-- After any white space the reader takes the text as `x`, and leaves what comes after it. -/
structure ReadAs (reader : Reader α) (t : Bytes) (x : α) : Prop where
  begins : ∃ b r, t = b :: r ∧ isSpace b = false ∧ b ≠ byte ']'
  read : ∀ {s rest : Bytes}, Spaces s → Stops rest → reader.read (s ++ (t ++ rest)) = .ok (x, rest)

/-! ## Single values -/

theorem StringText.readAs {t : Bytes} {text : String} (h : StringText t text) :
    ReadAs .string t text := by
  have hread := h.readString
  obtain ⟨r, rfl⟩ : ∃ r, t = byte '"' :: r := by
    cases h with
    | mk => exact ⟨_, rfl⟩
  refine ⟨⟨_, r, rfl, by decide, by decide⟩, fun hs _ => ?_⟩
  have hquote : isSpace (byte '"') = false := by decide
  simp only [Reader.string, List.cons_append, skipSpace_append hs, skipSpace_cons hquote, if_true]
  exact hread _

theorem ValueText.readAs {t : Bytes} (h : ValueText t) (x : α) : ReadAs (.skipped x) t x := by
  constructor
  · obtain ⟨s, b, r, rfl, hs, -, hspace, hlist, -⟩ := h.opens
    obtain rfl := hs rfl
    exact ⟨b, r, rfl, hspace, hlist⟩
  · intro s rest hs hrest
    have hskip : Json.skipValue (s ++ (t ++ rest)) = .ok rest :=
      (skipWithin_value_spaces hs [] _).trans (ValueText.skipValue h hrest)
    simp only [Reader.skipped, hskip]

theorem ReadAs.map {reader : Reader α} {t : Bytes} {x : α} (h : ReadAs reader t x) (f : α → β) :
    ReadAs (reader.map f) t (f x) :=
  ⟨h.begins, fun hs hrest => by simp only [Reader.map, h.read hs hrest]⟩

/-- A document is a value with white space around it. -/
theorem ReadAs.document {reader : Reader α} {t : Bytes} {x : α} (h : ReadAs reader t x)
    {before after : Bytes} (hbefore : Spaces before) (hafter : Spaces after) :
    reader.document (before ++ (t ++ after)) = .ok x := by
  have hspace : skipSpace after = [] := by
    have hskip := skipSpace_append hafter []
    rwa [List.append_nil] at hskip
  have hstops : Stops after := by
    have hstops := hafter.stops stops_nil
    rwa [List.append_nil] at hstops
  simp only [Reader.document, h.read hbefore hstops, hspace, List.isEmpty_nil, if_true]

/-! ## Separators -/

/-- What stands before an entry: nothing before the first, a comma before the others. -/
inductive Lead : Bool → Bytes → Prop
  | first : Lead true []
  | later {s : Bytes} (hs : Spaces s) : Lead false (s ++ [byte ','])

section Separators

variable {first : Bool} {lead before s : Bytes}

theorem nextElement_append (hlead : Lead first lead) (hbefore : Spaces before) {b : UInt8}
    (hspace : isSpace b = false) (hb : b ≠ byte ']') (r : Bytes) :
    nextElement first (lead ++ (before ++ b :: r)) = .ok (some (b :: r)) := by
  cases hlead with
  | first =>
    simp only [nextElement, List.nil_append, skipSpace_append hbefore, skipSpace_cons hspace,
      if_neg hb, if_true]
  | later hs =>
    have hcomma : isSpace (byte ',') = false := by decide
    have hlist : byte ',' ≠ byte ']' := by decide
    simp only [nextElement, List.append_assoc, List.singleton_append, skipSpace_append hs,
      skipSpace_cons hcomma, if_neg hlist, Bool.false_eq_true, if_false, if_true,
      skipSpace_append hbefore, skipSpace_cons hspace, if_neg hb]

theorem nextElement_none (first : Bool) (hs : Spaces s) (rest : Bytes) :
    nextElement first (s ++ byte ']' :: rest) = .ok none := by
  have hspace : isSpace (byte ']') = false := by decide
  simp only [nextElement, skipSpace_append hs, skipSpace_cons hspace, if_true]

theorem nextKey_append (hlead : Lead first lead) (hbefore : Spaces before) (r : Bytes) :
    nextKey first (lead ++ (before ++ byte '"' :: r)) = .ok (some r) := by
  have hspace : isSpace (byte '"') = false := by decide
  have hobject : byte '"' ≠ byte '\x7d' := by decide
  cases hlead with
  | first =>
    simp only [nextKey, List.nil_append, skipSpace_append hbefore, skipSpace_cons hspace,
      if_neg hobject, if_true]
  | later hs =>
    have hcomma : isSpace (byte ',') = false := by decide
    have hobject : byte ',' ≠ byte '\x7d' := by decide
    simp only [nextKey, List.append_assoc, List.singleton_append, skipSpace_append hs,
      skipSpace_cons hcomma, if_neg hobject, Bool.false_eq_true, if_false, if_true,
      skipSpace_append hbefore, skipSpace_cons hspace]

theorem nextKey_none (first : Bool) (hs : Spaces s) (rest : Bytes) :
    nextKey first (s ++ byte '\x7d' :: rest) = .ok none := by
  have hspace : isSpace (byte '\x7d') = false := by decide
  simp only [nextKey, skipSpace_append hs, skipSpace_cons hspace, if_true]

theorem closing_append (hs : Spaces s) {bracket : UInt8} (hspace : isSpace bracket = false)
    (rest : Bytes) : closing bracket (s ++ bracket :: rest) = .ok rest := by
  simp only [closing, skipSpace_append hs, skipSpace_cons hspace, if_true]

end Separators

/-! ## Lists -/

section Lists

variable {item : Bytes → α → Prop} {reader : Reader α} {first : Bool} {t : Bytes} {xs : List α}

theorem Reader.elements_eq (reader : Reader α) (first : Bool) (s : Bytes) :
    reader.elements first s =
      match nextElement first s with
      | .error d => .error d
      | .ok none => .ok ([], s)
      | .ok (some s) =>
        match reader.read s with
        | .error d => .error d
        | .ok (x, s) =>
          match reader.elements false s with
          | .error d => .error d
          | .ok (xs, s) => .ok (x :: xs, s) := by
  rw [elements]
  cases nextElement first s with
  | error d => rfl
  | ok found =>
    cases found with
    | none => rfl
    | some s =>
      dsimp only
      cases reader.read s with
      | error d => rfl
      | ok found => rfl

theorem Reader.elements_none (reader : Reader α) (first : Bool) {s : Bytes} (hs : Spaces s)
    (rest : Bytes) :
    reader.elements first (s ++ byte ']' :: rest) = .ok ([], s ++ byte ']' :: rest) := by
  rw [elements_eq, nextElement_none first hs]

/-- An element is read, and the elements after it. -/
theorem ReadAs.elements {x : α} (h : ReadAs reader t x) {lead before rest : Bytes}
    (hlead : Lead first lead) (hbefore : Spaces before) (hrest : Stops rest) :
    reader.elements first (lead ++ (before ++ (t ++ rest))) =
      match reader.elements false rest with
      | .error d => .error d
      | .ok (xs, s) => .ok (x :: xs, s) := by
  have hread : reader.read (t ++ rest) = .ok (x, rest) := h.read spaces_nil hrest
  obtain ⟨b, r, rfl, hspace, hb⟩ := h.begins
  rw [Reader.elements_eq, List.cons_append, nextElement_append hlead hbefore hspace hb]
  simp only [← List.cons_append, hread]

theorem Row.elements (h : Row (Spaced item) t xs)
    (hitem : ∀ {t x}, item t x → ReadAs reader t x) {lead : Bytes} (hlead : Lead first lead)
    (rest : Bytes) :
    ∃ s, Spaces s ∧
      reader.elements first (lead ++ (t ++ byte ']' :: rest)) =
        .ok (xs, s ++ byte ']' :: rest) := by
  have hlist : ∀ rest, Stops (byte ']' :: rest) := stops_cons (by decide)
  have hcomma : ∀ rest, Stops (byte ',' :: rest) := stops_cons (by decide)
  induction h generalizing first lead with
  | last h =>
    obtain ⟨hbefore, h, hafter⟩ := h
    refine ⟨_, hafter, ?_⟩
    rw [List.append_assoc, List.append_assoc,
      (hitem h).elements hlead hbefore (hafter.stops (hlist rest)),
      reader.elements_none false hafter]
  | @more _ u _ _ h _ ih =>
    obtain ⟨hbefore, h, hafter⟩ := h
    obtain ⟨s, hs, hread⟩ := ih (.later hafter)
    rw [List.append_assoc, List.singleton_append] at hread
    refine ⟨s, hs, ?_⟩
    rw [List.append_assoc, List.append_assoc, List.append_assoc, List.cons_append,
      (hitem h).elements hlead hbefore (hafter.stops (hcomma _)), hread]

/-- A list is read as its elements. -/
theorem Bracketed.readAs_list (h : ListText item t xs)
    (hitem : ∀ {t x}, item t x → ReadAs reader t x) : ReadAs (.list reader) t xs := by
  have hspace : isSpace (byte '[') = false := by decide
  have hclose : isSpace (byte ']') = false := by decide
  constructor
  · cases h <;> exact ⟨_, _, rfl, hspace, by decide⟩
  · intro s rest hs _
    obtain ⟨s', hs', helements⟩ : ∃ s', Spaces s' ∧
        reader.elements true (t.tail ++ rest) = .ok (xs, s' ++ byte ']' :: rest) := by
      cases h with
      | empty hs' =>
        refine ⟨_, hs', ?_⟩
        rw [List.tail_cons, List.append_assoc]
        exact reader.elements_none true hs' rest
      | row h =>
        rw [List.tail_cons, List.append_assoc]
        exact h.elements hitem .first rest
    have hopen : t ++ rest = byte '[' :: (t.tail ++ rest) := by cases h <;> rfl
    simp only [Reader.list, hopen, skipSpace_append hs, skipSpace_cons hspace, if_true, helements,
      closing_append hs' hclose]

end Lists

/-! ## Objects -/

/-- The members in their order lead from one state to another, in whatever way the value of
each is written. -/
inductive Gathers (member : σ → String → Except Defect (Reader σ))
    (value : String → Bytes → β → Prop) : σ → List (String × β) → σ → Prop
  | done {state : σ} : Gathers member value state [] state
  | next {state later final : σ} {key : String} {x : β} {members : List (String × β)}
      (h : ∀ {t}, value key t x → ∃ reader, member state key = .ok reader ∧ ReadAs reader t later)
      (hlater : Gathers member value later members final) :
      Gathers member value state ((key, x) :: members) final

section Objects

variable {member : σ → String → Except Defect (Reader σ)} {value : String → Bytes → β → Prop}
  {first : Bool} {state later final : σ} {t : Bytes} {xs : List (String × β)}

theorem Reader.members_eq (member : σ → String → Except Defect (Reader σ)) (state : σ)
    (first : Bool) (s : Bytes) :
    members member state first s =
      match nextKey first s with
      | .error d => .error d
      | .ok none => .ok (state, s)
      | .ok (some s) =>
        match readString s with
        | .error d => .error d
        | .ok (key, s) =>
          match member state key with
          | .error d => .error d
          | .ok reader =>
            match colon s with
            | .error d => .error d
            | .ok s =>
              match reader.read s with
              | .error d => .error d
              | .ok (later, s) => members member later false s := by
  rw [members]
  cases nextKey first s with
  | error d => rfl
  | ok found =>
    cases found with
    | none => rfl
    | some s =>
      dsimp only
      cases readString s with
      | error d => rfl
      | ok found =>
        dsimp only
        cases member state found.1 with
        | error d => rfl
        | ok reader =>
          dsimp only
          cases colon found.2 with
          | error d => rfl
          | ok s =>
            dsimp only
            cases reader.read s with
            | error d => rfl
            | ok found => rfl

theorem Reader.members_none (member : σ → String → Except Defect (Reader σ)) (state : σ)
    (first : Bool) {s : Bytes} (hs : Spaces s) (rest : Bytes) :
    members member state first (s ++ byte '\x7d' :: rest) =
      .ok (state, s ++ byte '\x7d' :: rest) := by
  rw [members_eq, nextKey_none first hs]

/-- A member is read, and the members after it. -/
theorem MemberText.members {key : String} {x : β} (h : MemberText value t (key, x))
    (hvalue : ∀ {t}, value key t x →
      ∃ reader, member state key = .ok reader ∧ ReadAs reader t later)
    {lead before rest : Bytes} (hlead : Lead first lead) (hbefore : Spaces before)
    (hrest : Stops rest) :
    Reader.members member state first (lead ++ (before ++ (t ++ rest))) =
      Reader.members member later false rest := by
  cases h with
  | @mk k s s' t _ _ hkey hs hs' ht =>
    obtain ⟨reader, hmember, hread⟩ := hvalue ht
    have hstring := hkey.readString (s ++ byte ':' :: (s' ++ (t ++ rest)))
    obtain ⟨r, rfl⟩ : ∃ r, k = byte '"' :: r := by
      cases hkey with
      | mk => exact ⟨_, rfl⟩
    rw [List.tail_cons] at hstring
    rw [Reader.members_eq, List.cons_append, List.cons_append, nextKey_append hlead hbefore]
    simp only [List.append_assoc, List.cons_append, hstring, hmember, colon_append hs,
      hread.read hs' hrest]

theorem Row.members (h : Row (Spaced (MemberText value)) t xs)
    (hgathers : Gathers member value state xs final) {lead : Bytes} (hlead : Lead first lead)
    (rest : Bytes) :
    ∃ s, Spaces s ∧ Reader.members member state first (lead ++ (t ++ byte '\x7d' :: rest)) =
      .ok (final, s ++ byte '\x7d' :: rest) := by
  have hobject : ∀ rest, Stops (byte '\x7d' :: rest) := stops_cons (by decide)
  have hcomma : ∀ rest, Stops (byte ',' :: rest) := stops_cons (by decide)
  induction h generalizing first lead state with
  | last h =>
    obtain ⟨hbefore, h, hafter⟩ := h
    obtain _ | ⟨hvalue, ⟨⟩⟩ := hgathers
    refine ⟨_, hafter, ?_⟩
    rw [List.append_assoc, List.append_assoc,
      h.members hvalue hlead hbefore (hafter.stops (hobject rest)),
      Reader.members_none _ _ _ hafter]
  | more h _ ih =>
    obtain ⟨hbefore, h, hafter⟩ := h
    obtain _ | ⟨hvalue, hgathers⟩ := hgathers
    obtain ⟨s, hs, hread⟩ := ih hgathers (.later hafter)
    rw [List.append_assoc, List.singleton_append] at hread
    refine ⟨s, hs, ?_⟩
    rw [List.append_assoc, List.append_assoc, List.append_assoc, List.cons_append,
      h.members hvalue hlead hbefore (hafter.stops (hcomma _)), hread]

variable (h : ObjectText value t xs)
include h

theorem Bracketed.opens : t.head? = some (byte '\x7b') := by
  cases h <;> rfl

/-- The body of an object is read as what its members lead to. -/
theorem Bracketed.objectBody {initial : σ} {finish : σ → Except Defect α} {x : α}
    (hgathers : Gathers member value initial xs final) (hfinish : finish final = .ok x)
    (rest : Bytes) : Reader.objectBody member initial finish (t.tail ++ rest) = .ok (x, rest) := by
  have hclose : isSpace (byte '\x7d') = false := by decide
  obtain ⟨s, hs, hmembers⟩ : ∃ s, Spaces s ∧ Reader.members member initial true (t.tail ++ rest) =
      .ok (final, s ++ byte '\x7d' :: rest) := by
    cases h with
    | empty hs =>
      obtain ⟨⟩ := hgathers
      refine ⟨_, hs, ?_⟩
      rw [List.tail_cons, List.append_assoc]
      exact Reader.members_none member _ true hs rest
    | row h =>
      rw [List.tail_cons, List.append_assoc]
      exact h.members hgathers .first rest
  simp only [Reader.objectBody, hmembers, hfinish, closing_append hs hclose]

theorem Bracketed.readAs_object {member : σ → String → Reader σ} {initial : σ}
    (hgathers : Gathers (fun state key => .ok (member state key)) value initial xs final) :
    ReadAs (.object member initial) t final := by
  have hspace : isSpace (byte '\x7b') = false := by decide
  have hbody : ∀ rest, Reader.objectBody (fun state key => .ok (member state key)) initial .ok
      (t.tail ++ rest) = .ok (final, rest) := h.objectBody hgathers rfl
  obtain ⟨r, rfl⟩ := List.head?_eq_some_iff.1 h.opens
  refine ⟨⟨_, r, rfl, hspace, by decide⟩, fun hs _ => ?_⟩
  simp only [Reader.object, List.cons_append, skipSpace_append hs, skipSpace_cons hspace, if_true]
  exact hbody _

/-- A record that is written as an object is read as what its members lead to. -/
theorem Bracketed.readAs_record {wanted : String} {fields : List (Field σ)} {initial : σ}
    {finish finishList : σ → Except Mismatch α} {x : α}
    (hgathers : Gathers (Reader.member fields) value initial xs final)
    (hfinish : finish final = .ok x) :
    ReadAs (.record wanted fields initial finish finishList) t x := by
  have hspace : isSpace (byte '\x7b') = false := by decide
  have hlist : byte '\x7b' ≠ byte '[' := by decide
  have hbody : ∀ rest, Reader.objectBody (Reader.member fields) initial
      (fun state => (finish state).mapError .mismatch) (t.tail ++ rest) = .ok (x, rest) :=
    h.objectBody hgathers (by rw [hfinish]; rfl)
  obtain ⟨r, rfl⟩ := List.head?_eq_some_iff.1 h.opens
  refine ⟨⟨_, r, rfl, hspace, by decide⟩, fun hs _ => ?_⟩
  simp only [Reader.record, List.cons_append, skipSpace_append hs, skipSpace_cons hspace,
    if_neg hlist, if_true]
  exact hbody _

end Objects

end MetricCheck.Json
