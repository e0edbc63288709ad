-- The shape of a record. A line has this shape just when blanks cut it into three fields,
-- and then these are its groups, in whatever way the shape is matched. So what is wrong
-- with a line goes by its fields.
import Mathlib.Data.List.Basic
import MetricCheck.MetricText.Read
import MetricCheck.Proofs.RuleText.Token

namespace MetricCheck

namespace Text

/-- Nothing but blanks. -/
def Blanks (cs : List Char) : Prop := ∀ c ∈ cs, isBlank c = true

/-- A run without blanks. -/
structure IsField (cs : List Char) : Prop where
  nonempty : cs ≠ []
  noBlank : ∀ c ∈ cs, isBlank c = false

/-- The text has the shape, in some way, and these are the groups then. -/
inductive Fits : List Run → List Char → List (List Char) → Prop
  | nil : Fits [] [] []
  | cons {r : Run} {later : List Run} {run rest : List Char} {groups : List (List Char)}
      (hrun : ∀ c ∈ run, r.admits c = true) (hleast : r.least ≤ run.length)
      (h : Fits later rest groups) : Fits (r :: later) (run ++ rest) (r.groups run ++ groups)

/-! ## Fields -/

theorem mem_fields {cs field : List Char} (h : field ∈ fields cs) : IsField field := by
  obtain ⟨hpiece, hne⟩ := List.mem_filter.1 h
  constructor
  · simpa using hne
  · intro c hc
    exact Bool.eq_false_iff.2 (not_separates_of_mem_splitBy hpiece c hc)

/-- A blank cuts a text in two. -/
theorem fields_append_blank {b : Char} (hb : isBlank b = true) (cs later : List Char) :
    fields (cs ++ b :: later) = fields cs ++ fields later := by
  unfold fields
  rw [splitBy_append_cons hb, List.filter_append]

theorem fields_blank {b : Char} (hb : isBlank b = true) (cs : List Char) :
    fields (b :: cs) = fields cs :=
  fields_append_blank hb [] cs

theorem Blanks.fields_append {bs : List Char} (hb : Blanks bs) (cs : List Char) :
    fields (bs ++ cs) = fields cs := by
  induction bs with
  | nil => rfl
  | cons b bs ih =>
    obtain ⟨hfirst, hlater⟩ := List.forall_mem_cons.1 hb
    rw [List.cons_append, fields_blank hfirst, ih hlater]

theorem Blanks.fields_eq_nil {bs : List Char} (hb : Blanks bs) : fields bs = [] := by
  rw [← List.append_nil bs, hb.fields_append]
  rfl

theorem Blanks.append_fields {bs : List Char} (hb : Blanks bs) (cs : List Char) :
    fields (cs ++ bs) = fields cs := by
  cases bs with
  | nil => rw [List.append_nil]
  | cons b bs =>
    obtain ⟨hfirst, hlater⟩ := List.forall_mem_cons.1 hb
    rw [fields_append_blank hfirst, Blanks.fields_eq_nil hlater, List.append_nil]

theorem IsField.fields_eq {field : List Char} (h : IsField field) : fields field = [field] := by
  have hpiece : splitBy isBlank field = [field] :=
    splitBy_of_forall fun c hc => by simp [h.noBlank c hc]
  unfold fields
  rw [hpiece]
  simp [h.nonempty]

theorem IsField.newline_not_mem {field : List Char} (h : IsField field) : '\n' ∉ field := by
  intro hmem
  have hblank := h.noBlank _ hmem
  cases hblank

/-- A run without blanks is a field, when a blank comes after it or nothing does. -/
theorem IsField.fields_append {field rest : List Char} (h : IsField field)
    (hrest : ∀ c ∈ rest.head?, isBlank c = true) :
    fields (field ++ rest) = field :: fields rest := by
  cases rest with
  | nil => rw [List.append_nil, h.fields_eq]; rfl
  | cons b rest =>
    have hb : isBlank b = true := hrest b rfl
    rw [fields_append_blank hb, fields_blank hb, h.fields_eq]
    rfl

/-- A text is blank, or there is a first field in it. -/
theorem fields_cases (cs : List Char) :
    Blanks cs ∧ fields cs = [] ∨
      ∃ bs field rest, cs = bs ++ (field ++ rest) ∧ Blanks bs ∧ IsField field ∧
        (∀ c ∈ rest.head?, isBlank c = true) ∧ fields cs = field :: fields rest := by
  have hblank : Blanks (cs.takeWhile isBlank) := fun c hc => List.mem_takeWhile_imp hc
  have hcs := List.takeWhile_append_dropWhile (p := isBlank) (l := cs)
  cases hahead : cs.dropWhile isBlank with
  | nil =>
    rw [hahead, List.append_nil] at hcs
    rw [hcs] at hblank
    exact .inl ⟨hblank, hblank.fields_eq_nil⟩
  | cons c ahead =>
    have hc : isBlank c = false := head?_dropWhile c (by rw [hahead]; rfl)
    have hfield : IsField (c :: ahead.takeWhile fun d => !isBlank d) := by
      refine ⟨List.cons_ne_nil _ _, List.forall_mem_cons.2 ⟨hc, fun d hd => ?_⟩⟩
      simpa using List.mem_takeWhile_imp hd
    have hrest : ∀ d ∈ (ahead.dropWhile fun d => !isBlank d).head?, isBlank d = true := by
      intro d hd
      simpa using head?_dropWhile d hd
    have hsplit : cs = cs.takeWhile isBlank ++
        (c :: (ahead.takeWhile fun d => !isBlank d) ++ ahead.dropWhile fun d => !isBlank d) := by
      rw [List.cons_append, List.takeWhile_append_dropWhile, ← hahead, hcs]
    have hfields := congrArg fields hsplit
    rw [hblank.fields_append, hfield.fields_append hrest] at hfields
    exact .inr ⟨_, _, _, hsplit, hblank, hfield, hrest, hfields⟩

theorem blanks_iff_fields_eq_nil {cs : List Char} : Blanks cs ↔ fields cs = [] := by
  constructor
  · exact fun hblank => hblank.fields_eq_nil
  · intro hnone
    rcases fields_cases cs with ⟨hblank, -⟩ | ⟨_, _, _, -, -, -, -, hfields⟩
    · exact hblank
    · rw [hnone] at hfields
      cases hfields

theorem all_isBlank_iff {cs : List Char} : cs.all isBlank = true ↔ fields cs = [] := by
  rw [List.all_eq_true]
  exact blanks_iff_fields_eq_nil

/-! ## Shapes -/

theorem Run.mem_lengths {r : Run} {cs : List Char} {n : Nat} :
    n ∈ r.lengths cs ↔ r.least ≤ n ∧ n ≤ (cs.takeWhile r.admits).length := by
  rw [lengths, List.mem_reverse, List.mem_range'_1]
  omega

theorem Run.admits_of_mem_take {r : Run} {cs : List Char} {n : Nat}
    (h : n ≤ (cs.takeWhile r.admits).length) : ∀ c ∈ cs.take n, r.admits c = true := by
  intro c hc
  rw [← List.takeWhile_append_dropWhile (p := r.admits) (l := cs),
    List.take_append_of_le_length h] at hc
  exact List.mem_takeWhile_imp (List.mem_of_mem_take hc)

/-- What is captured are the groups of a way to match. -/
theorem fits_of_captures {shape : List Run} {cs : List Char} {groups : List (List Char)}
    (h : captures shape cs = some groups) : Fits shape cs groups := by
  induction shape generalizing cs groups with
  | nil =>
    rw [captures, ite_eq_iff] at h
    rcases h with ⟨hnil, hgroups⟩ | ⟨-, hnone⟩
    · obtain rfl := List.isEmpty_iff.1 hnil
      cases hgroups
      exact .nil
    · cases hnone
  | cons r later ih =>
    rw [captures] at h
    obtain ⟨n, hn, hfound⟩ := List.exists_of_findSome?_eq_some h
    obtain ⟨groups', hlater, rfl⟩ := Option.map_eq_some_iff.1 hfound
    obtain ⟨hleast, hle⟩ := Run.mem_lengths.1 hn
    have hlength : n ≤ cs.length := Nat.le_trans hle (List.takeWhile_prefix _).length_le
    have hfits := Fits.cons (Run.admits_of_mem_take hle)
      (by rwa [List.length_take_of_le hlength]) (ih hlater)
    rwa [List.take_append_drop] at hfits

/-- Where there is a way to match, one is found. -/
theorem Fits.captures_isSome {shape : List Run} {cs : List Char} {groups : List (List Char)}
    (h : Fits shape cs groups) : (captures shape cs).isSome = true := by
  induction h with
  | nil => rfl
  | @cons r later run rest groups hrun hleast h ih =>
    have hlength : run.length ∈ r.lengths (run ++ rest) := by
      rw [Run.mem_lengths, List.takeWhile_append_of_pos hrun, List.length_append]
      exact ⟨hleast, Nat.le_add_right _ _⟩
    rw [captures, List.findSome?_isSome_iff]
    refine ⟨run.length, hlength, ?_⟩
    rw [Option.isSome_map, List.drop_left]
    exact ih

theorem fits_nil_iff {cs : List Char} {groups : List (List Char)} :
    Fits [] cs groups ↔ cs = [] ∧ groups = [] := by
  constructor
  · rintro ⟨⟩
    exact ⟨rfl, rfl⟩
  · rintro ⟨rfl, rfl⟩
    exact .nil

theorem fits_blanks_iff {least : Nat} {later : List Run} {cs : List Char}
    {groups : List (List Char)} :
    Fits (.blanks least :: later) cs groups ↔
      ∃ bs rest, cs = bs ++ rest ∧ Blanks bs ∧ least ≤ bs.length ∧ Fits later rest groups := by
  constructor
  · rintro (_ | ⟨hb, hleast, h⟩)
    exact ⟨_, _, rfl, hb, hleast, h⟩
  · rintro ⟨bs, rest, rfl, hb, hleast, h⟩
    exact .cons (r := .blanks least) hb hleast h

theorem fits_field_iff {later : List Run} {cs : List Char} {groups : List (List Char)} :
    Fits (.field :: later) cs groups ↔
      ∃ field rest groups', cs = field ++ rest ∧ groups = field :: groups' ∧ IsField field ∧
        Fits later rest groups' := by
  constructor
  · rintro (_ | @⟨_, _, field, rest, groups', hfield, hleast, h⟩)
    refine ⟨field, rest, groups', rfl, rfl, ⟨?_, fun c hc => ?_⟩, h⟩
    · exact List.ne_nil_of_length_pos hleast
    · simpa [Run.field] using hfield c hc
  · rintro ⟨field, rest, groups', rfl, rfl, hfield, h⟩
    refine .cons (r := .field) (fun c hc => ?_) (List.length_pos_iff.2 hfield.nonempty) h
    simp [Run.field, hfield.noBlank c hc]

/-! ## Rows of fields -/

/-- What comes after a field in the shape of a line with so many fields more. -/
def afterField : Nat → List Run
  | 0 => [.blanks 0]
  | count + 1 => .blanks 1 :: .field :: afterField count

/-- A shape that begins with a field asks for one field more. Where at least one blank must come
before the field, the text begins with a blank. -/
theorem fits_nextField_iff {least count : Nat} (hleast : least ≤ 1)
    (ih : ∀ {cs groups}, Fits (afterField count) cs groups ↔
      (∀ c ∈ cs.head?, isBlank c = true) ∧ fields cs = groups ∧ groups.length = count)
    {cs : List Char} {groups : List (List Char)} :
    Fits (.blanks least :: .field :: afterField count) cs groups ↔
      (least = 1 → ∀ c ∈ cs.head?, isBlank c = true) ∧ fields cs = groups ∧
        groups.length = count + 1 := by
  rw [fits_blanks_iff]
  constructor
  · rintro ⟨bs, rest, rfl, hb, hlength, h⟩
    obtain ⟨field, rest, groups', rfl, rfl, hfield, h⟩ := fits_field_iff.1 h
    obtain ⟨hrest, rfl, hcount⟩ := ih.1 h
    refine ⟨fun hone c hc => ?_, ?_, congrArg (· + 1) hcount⟩
    · obtain ⟨b, bs, rfl⟩ := List.exists_cons_of_length_pos (Nat.lt_of_lt_of_le (by omega) hlength)
      obtain rfl : b = c := by simpa using hc
      exact hb b List.mem_cons_self
    · rw [hb.fields_append, hfield.fields_append hrest]
  · rintro ⟨hhead, rfl, hcount⟩
    rcases fields_cases cs with ⟨-, hnone⟩ | ⟨bs, field, rest, rfl, hb, hfield, hrest, hfields⟩
    · rw [hnone] at hcount
      cases hcount
    · rw [hfields] at hcount ⊢
      refine ⟨bs, field ++ rest, rfl, hb, ?_, fits_field_iff.2
        ⟨field, rest, fields rest, rfl, rfl, hfield, ih.2 ⟨hrest, rfl, Nat.succ.inj hcount⟩⟩⟩
      -- the text begins with a blank, which is none of the field's
      by_contra hshort
      obtain rfl : bs = [] := List.eq_nil_of_length_eq_zero (by omega)
      obtain ⟨c, field, rfl⟩ := List.exists_cons_of_ne_nil hfield.nonempty
      have hc := hhead (by omega) c rfl
      rw [hfield.noBlank c List.mem_cons_self] at hc
      cases hc

theorem fits_afterField_iff {count : Nat} {cs : List Char} {groups : List (List Char)} :
    Fits (afterField count) cs groups ↔
      (∀ c ∈ cs.head?, isBlank c = true) ∧ fields cs = groups ∧ groups.length = count := by
  induction count generalizing cs groups with
  | zero =>
    rw [afterField, fits_blanks_iff]
    constructor
    · rintro ⟨bs, rest, rfl, hb, -, h⟩
      obtain ⟨rfl, rfl⟩ := fits_nil_iff.1 h
      rw [List.append_nil]
      exact ⟨fun c hc => hb c (List.mem_of_mem_head? hc), hb.fields_eq_nil, rfl⟩
    · rintro ⟨-, rfl, hnone⟩
      have hnil := List.eq_nil_of_length_eq_zero hnone
      exact ⟨cs, [], (List.append_nil cs).symm, blanks_iff_fields_eq_nil.2 hnil, Nat.zero_le _,
        fits_nil_iff.2 ⟨rfl, hnil⟩⟩
  | succ count ih =>
    rw [afterField, fits_nextField_iff (Nat.le_refl 1) ih]
    simp

end Text

open Text

/-! ## Records -/

/-- A line has the shape of a record when it has three fields, and its groups are the fields. -/
theorem fits_recordShape_iff {line : List Char} {groups : List (List Char)} :
    Fits recordShape line groups ↔ fields line = groups ∧ groups.length = 3 := by
  have hshape : recordShape = .blanks 0 :: .field :: afterField 2 := rfl
  rw [hshape, fits_nextField_iff (Nat.zero_le 1) fits_afterField_iff]
  simp

theorem captures_recordShape (line : List Char) :
    captures recordShape line =
      if (fields line).length = 3 then some (fields line) else none := by
  cases hfound : captures recordShape line with
  | none =>
    rw [if_neg]
    intro hthree
    have hsome := (fits_recordShape_iff.2 ⟨rfl, hthree⟩).captures_isSome
    rw [hfound] at hsome
    cases hsome
  | some groups =>
    obtain ⟨rfl, hthree⟩ := fits_recordShape_iff.1 (fits_of_captures hfound)
    rw [if_pos hthree]

/-- Three fields are a path, a value and a time. -/
theorem decodeLine_of_fields {line path value seconds : List Char}
    (h : fields line = [path, value, seconds]) :
    decodeLine line =
      match Binary64.read value with
      | none => .error (.invalidValue (String.ofList value))
      | some number =>
        match (readInt seconds).bind Timestamp.ofSeconds? with
        | none => .error (.invalidTimestamp (String.ofList seconds))
        | some time => .ok ⟨String.ofList path, number, time⟩ := by
  rw [decodeLine, captures_recordShape, h]
  rfl

theorem decodeLine_of_length_ne {line : List Char} (h : (fields line).length ≠ 3) :
    decodeLine line = .error (.fieldCount (fields line).length) := by
  rw [decodeLine, captures_recordShape, if_neg h]

/-- Only the fields of a line count. -/
theorem decodeLine_congr {line line' : List Char} (h : fields line = fields line') :
    decodeLine line = decodeLine line' := by
  rw [decodeLine, decodeLine, captures_recordShape, captures_recordShape, h]

/-! ## Defects -/

/-- What is wrong with a line that has these fields. -/
def DecodeError.Cause.Concerns (found : List (List Char)) : DecodeError.Cause → Prop
  | .fieldCount count => count = found.length ∧ count ≠ 0 ∧ count ≠ 3
  | .invalidValue value =>
    ∃ path seconds, found = [path, value.toList, seconds] ∧ Binary64.read value.toList = none
  | .invalidTimestamp seconds =>
    ∃ path value, found = [path, value, seconds.toList] ∧ (Binary64.read value).isSome = true ∧
      (readInt seconds.toList).bind Timestamp.ofSeconds? = none

theorem concerns_of_decodeLine {line : List Char} {cause : DecodeError.Cause}
    (hblank : ¬ Blanks line) (h : decodeLine line = .error cause) :
    cause.Concerns (fields line) := by
  by_cases hthree : (fields line).length = 3
  · obtain ⟨path, value, seconds, hfields⟩ := List.length_eq_three.1 hthree
    rw [decodeLine_of_fields hfields] at h
    rw [hfields]
    split at h
    · rename_i hvalue
      cases h
      exact ⟨path, seconds, by rw [String.toList_ofList], by rwa [String.toList_ofList]⟩
    · rename_i number hvalue
      split at h
      · rename_i htime
        cases h
        exact ⟨path, value, by rw [String.toList_ofList], by rw [hvalue]; rfl,
          by rwa [String.toList_ofList]⟩
      · cases h
  · rw [decodeLine_of_length_ne hthree] at h
    cases h
    exact ⟨rfl, fun hnone => hblank (blanks_iff_fields_eq_nil.2 (List.length_eq_zero_iff.1 hnone)),
      hthree⟩

/-- A defect names a line that is not blank and cannot be decoded. -/
theorem line_of_decodeLines {number : Nat} {found : List (List Char)} {e : DecodeError}
    (h : decodeLines number found = .error e) :
    number ≤ e.line ∧ ∃ line, found[e.line - number]? = some line ∧ ¬ Blanks line ∧
      decodeLine line = .error e.cause := by
  induction found generalizing number with
  | nil => cases h
  | cons line found ih =>
    -- a line that comes later is counted from one line further down
    have hlater : decodeLines (number + 1) found = .error e → number ≤ e.line ∧
        ∃ later, (line :: found)[e.line - number]? = some later ∧ ¬ Blanks later ∧
          decodeLine later = .error e.cause := by
      intro h
      obtain ⟨hle, later, hfound, hrest⟩ := ih h
      refine ⟨by omega, later, ?_, hrest⟩
      rw [show e.line - number = e.line - (number + 1) + 1 by omega, List.getElem?_cons_succ]
      exact hfound
    rw [decodeLines] at h
    split at h
    · exact hlater h
    · rename_i hblank
      have hblank : ¬ Blanks line := fun hyes => hblank (List.all_eq_true.2 hyes)
      split at h
      · rename_i cause hcause
        cases h
        refine ⟨Nat.le_refl _, line, ?_, hblank, hcause⟩
        rw [Nat.sub_self]
        rfl
      · split at h
        · rename_i later
          cases h
          exact hlater later
        · cases h

/-! ## The law -/

/-- A line has the shape of a record just when it has three fields, and these are its groups
then, however the shape is matched; so they are what the reader captures. A defect of a text
names a line of it: a wrong number of fields is the number of its fields, neither none nor
three, and a wrong value or time is one of its three fields. -/
theorem records_are_lines_of_three_fields :
    (∀ (line : List Char) (groups : List (List Char)),
      Fits recordShape line groups ↔ fields line = groups ∧ groups.length = 3) ∧
    (∀ line : List Char, captures recordShape line =
      if (fields line).length = 3 then some (fields line) else none) ∧
    ∀ (text : String) (e : DecodeError), parseMetrics text = .error e →
      1 ≤ e.line ∧ ∃ line, (lines text.toList)[e.line - 1]? = some line ∧
        e.cause.Concerns (fields line) := by
  refine ⟨fun line groups => fits_recordShape_iff, captures_recordShape, fun text e h => ?_⟩
  obtain ⟨hle, line, hline, hblank, hcause⟩ := line_of_decodeLines h
  exact ⟨hle, line, hline, concerns_of_decodeLine hblank hcause⟩

/-- For instance, the time is missing on a third line, after a blank one. -/
theorem records_are_lines_of_three_fields_where_the_time_is_missing :
    parseMetrics "a 1 1\n\r\n\tb 2\r" = .error ⟨3, .fieldCount 2⟩ ∧
    ∃ line, (lines "a 1 1\n\r\n\tb 2\r".toList)[2]? = some line ∧
      (DecodeError.Cause.fieldCount 2).Concerns (fields line) := by
  have hdefect : parseMetrics "a 1 1\n\r\n\tb 2\r" = .error ⟨3, .fieldCount 2⟩ := by decide +kernel
  obtain ⟨-, -, hlines⟩ := records_are_lines_of_three_fields
  exact ⟨hdefect, (hlines _ _ hdefect).2⟩

end MetricCheck
