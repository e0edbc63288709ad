-- Graph definitions as JSON. A document is written from a list of entries, of which several may
-- have one key, in any of the ways that JSON leaves open. It is read as these entries, and the
-- rules of a key are those of its last entry, however it is written and in whatever order the
-- keys come.
import Mathlib.Data.List.Sort
import MetricCheck.GraphDef.Read
import MetricCheck.Proofs.Json.Reading

namespace MetricCheck

open Json

variable {α β : Type}

/-! ## How definitions are written -/

/-- A field stands at most once, and is `default` where it is left out. -/
def AtMostOnce (default : α) (values : List α) (x : α) : Prop :=
  values.length ≤ 1 ∧ values.headD default = x

/-- A member of a record with one known field: that field, or another key with any value. -/
inductive OneField (name : String) (value : Bytes → α → Prop) : String → Bytes → Option α → Prop
  | known {t : Bytes} {x : α} (h : value t x) : OneField name value name t (some x)
  | other {key : String} {t : Bytes} (hkey : key ≠ name) (h : ValueText t) :
      OneField name value key t none

/-- What a member of a graph gives. -/
inductive GraphMember where
  | unit (text : String)
  | metrics (names : List String)
  | other

def GraphMember.unit? : GraphMember → Option String
  | .unit text => some text
  | _ => none

def GraphMember.metrics? : GraphMember → Option (List String)
  | .metrics names => some names
  | _ => none

namespace GraphDefs

/-- A metric: an object with a name. -/
inductive NameText : Bytes → String → Prop
  | mk {t : Bytes} {members : List (String × Option String)} {name : String}
      (h : ObjectText (OneField "name" StringText) t members)
      (hname : members.filterMap Prod.snd = [name]) : NameText t name

/-- A member of a graph: its unit, its metrics, or another key with any value. -/
inductive GraphField : String → Bytes → GraphMember → Prop
  | unit {t : Bytes} {text : String} (h : StringText t text) : GraphField "unit" t (.unit text)
  | metrics {t : Bytes} {names : List String} (h : ListText NameText t names) :
      GraphField "metrics" t (.metrics names)
  | other {key : String} {t : Bytes} (hunit : key ≠ "unit") (hmetrics : key ≠ "metrics")
      (h : ValueText t) : GraphField key t .other

/-- A graph: an object with a unit and metrics. -/
inductive GraphText : Bytes → Graph → Prop
  | mk {t : Bytes} {members : List (String × GraphMember)} {g : Graph}
      (h : ObjectText GraphField t members)
      (hunit : AtMostOnce "" (members.filterMap fun m => m.2.unit?) g.unit)
      (hnames : AtMostOnce [] (members.filterMap fun m => m.2.metrics?) g.names) : GraphText t g

/-- Graphs under their keys, of which some may be the same. -/
abbrev EntriesText : Bytes → List (String × Graph) → Prop := ObjectText fun _ => GraphText

/-- A document: an object with the graphs, and white space around it. -/
inductive DocumentText : Bytes → List (String × Graph) → Prop
  | mk {before t after : Bytes} {members : List (String × Option (List (String × Graph)))}
      {entries : List (String × Graph)} (hbefore : Spaces before)
      (h : ObjectText (OneField "graphs" EntriesText) t members)
      (hentries : AtMostOnce [] (members.filterMap Prod.snd) entries) (hafter : Spaces after) :
      DocumentText (before ++ (t ++ after)) entries

/-! ## Whatever can be written -/

theorem exists_nameText (name : String) : ∃ t, NameText t name := by
  obtain ⟨t, ht⟩ := exists_stringText name
  obtain ⟨u, hu⟩ : ∃ u, ObjectText (OneField "name" StringText) u [("name", some name)] :=
    exists_objectText fun m hm => by
      obtain rfl := List.mem_singleton.1 hm
      exact ⟨_, .known ht⟩
  exact ⟨_, .mk hu rfl⟩

theorem exists_graphText (g : Graph) : ∃ t, GraphText t g := by
  obtain ⟨t, ht⟩ := exists_stringText g.unit
  obtain ⟨u, hu⟩ : ∃ u, ListText NameText u g.names :=
    exists_bracketed fun name _ => exists_nameText name
  obtain ⟨v, hv⟩ : ∃ v, ObjectText GraphField v
      [("unit", .unit g.unit), ("metrics", .metrics g.names)] :=
    exists_objectText fun m hm => by
      rcases List.mem_pair.1 hm with rfl | rfl
      · exact ⟨_, .unit ht⟩
      · exact ⟨_, .metrics hu⟩
  exact ⟨_, .mk hv ⟨Nat.le_refl 1, rfl⟩ ⟨Nat.le_refl 1, rfl⟩⟩

/-- There is a document for any entries, whatever characters their texts have. -/
theorem exists_documentText (entries : List (String × Graph)) : ∃ t, DocumentText t entries := by
  obtain ⟨t, ht⟩ : ∃ t, EntriesText t entries :=
    exists_objectText fun entry _ => exists_graphText entry.2
  obtain ⟨u, hu⟩ : ∃ u, ObjectText (OneField "graphs" EntriesText) u [("graphs", some entries)] :=
    exists_objectText fun m hm => by
      obtain rfl := List.mem_singleton.1 hm
      exact ⟨_, .known ht⟩
  exact ⟨_, .mk spaces_nil hu ⟨Nat.le_refl 1, rfl⟩ spaces_nil⟩

/-! ## How they are read -/

/-- The field of a record with one known field is gathered, if it stands at most once. -/
theorem gathers_oneField {name : String} {value : Bytes → α → Prop} {reader : Reader β}
    {f : α → β} (hvalue : ∀ t x, value t x → ReadAs reader t (f x))
    (members : List (String × Option α)) {state : Option β}
    (h : (state.toList ++ (members.filterMap Prod.snd).map f).length ≤ 1) :
    Gathers (Reader.member [⟨name, Option.isSome, fun _ => reader.map some⟩]) (OneField name value)
      state members (state.toList ++ (members.filterMap Prod.snd).map f).head? := by
  induction members generalizing state with
  | nil => cases state <;> exact .done
  | cons m members ih =>
    obtain ⟨key, _ | x⟩ := m
    · refine .next ?_ (ih h)
      rintro t (_ | ⟨hkey, ht⟩)
      refine ⟨.skipped state, ?_, ht.readAs state⟩
      simp only [Reader.member, List.find?_cons, decide_eq_false hkey.symm, List.find?_nil]
    · obtain rfl : state = none := by
        cases state with
        | none => rfl
        | some _ => simp at h
      refine .next ?_ (@ih (some (f x)) h)
      rintro t (⟨ht⟩ | _)
      refine ⟨reader.map some, ?_, (hvalue t x ht).map some⟩
      simp [Reader.member]

/-- A record with one known field is read as what the field means. -/
theorem readAs_oneField {name : String} {value : Bytes → α → Prop} {reader : Reader β}
    {f : α → β} (hvalue : ∀ t x, value t x → ReadAs reader t (f x)) {t : Bytes}
    {members : List (String × Option α)} (h : ObjectText (OneField name value) t members)
    (hone : (members.filterMap Prod.snd).length ≤ 1) {wanted : String}
    {finish finishList : Option β → Except Mismatch β} {x : β}
    (hfinish : finish ((members.filterMap Prod.snd).map f).head? = .ok x) :
    ReadAs (.record wanted [⟨name, Option.isSome, fun _ => reader.map some⟩] none finish finishList)
      t x :=
  have hone : ((none : Option β).toList ++ (members.filterMap Prod.snd).map f).length ≤ 1 := by
    simpa using hone
  h.readAs_record (gathers_oneField hvalue members hone) hfinish

theorem NameText.readAs {t : Bytes} {name : String} (h : NameText t name) :
    ReadAs nameReader t name := by
  obtain ⟨h, hname⟩ := h
  refine readAs_oneField (fun _ _ h => h.readAs) h ?_ ?_
  · simp [hname]
  · simp [hname]

/-- The unit and the metrics of a graph are gathered, if each stands at most once. -/
theorem gathers_graphField (members : List (String × GraphMember)) {parts : GraphParts}
    (hunit : (parts.unit.toList ++ members.filterMap fun m => m.2.unit?).length ≤ 1)
    (hnames : (parts.names.toList ++ members.filterMap fun m => m.2.metrics?).length ≤ 1) :
    Gathers (Reader.member
      [⟨"unit", fun parts => parts.unit.isSome,
        fun parts => Reader.string.map fun unit => { parts with unit := some unit }⟩,
      ⟨"metrics", fun parts => parts.names.isSome,
        fun parts => (Reader.list nameReader).map fun names => { parts with names := some names }⟩])
      GraphField parts members
      ⟨(parts.unit.toList ++ members.filterMap fun m => m.2.unit?).head?,
        (parts.names.toList ++ members.filterMap fun m => m.2.metrics?).head?⟩ := by
  induction members generalizing parts with
  | nil =>
    obtain ⟨_ | _, _ | _⟩ := parts <;> exact .done
  | cons m members ih =>
    obtain ⟨key, text | names | _⟩ := m
    · obtain ⟨_ | _, names⟩ := parts
      · refine .next ?_ (@ih ⟨some text, names⟩ hunit hnames)
        rintro t (⟨ht⟩ | _ | _)
        refine ⟨_, ?_, ht.readAs.map fun text => GraphParts.mk (some text) names⟩
        simp [Reader.member]
      · simp [GraphMember.unit?] at hunit
    · obtain ⟨unit, _ | _⟩ := parts
      · refine .next ?_ (@ih ⟨unit, some names⟩ hunit hnames)
        rintro t (_ | ⟨ht⟩ | _)
        refine ⟨_, ?_, (ht.readAs_list NameText.readAs).map fun names =>
          GraphParts.mk unit (some names)⟩
        simp [Reader.member]
      · simp [GraphMember.metrics?] at hnames
    · refine .next ?_ (ih hunit hnames)
      rintro t (_ | _ | ⟨hkey, hkey', ht⟩)
      refine ⟨.skipped parts, ?_, ht.readAs parts⟩
      simp only [Reader.member, List.find?_cons, decide_eq_false hkey.symm,
        decide_eq_false hkey'.symm, List.find?_nil]

theorem GraphText.readAs {t : Bytes} {g : Graph} (h : GraphText t g) :
    ReadAs graphReader t g := by
  obtain ⟨h, ⟨hunit, hunit'⟩, ⟨hnames, hnames'⟩⟩ := h
  have hgathers := @gathers_graphField _ {} hunit hnames
  refine h.readAs_record hgathers ?_
  rw [List.headD_eq_head?_getD] at hunit' hnames'
  rw [GraphParts.graph, Except.ok.injEq, Graph.mk.injEq]
  exact ⟨hunit', hnames'⟩

theorem gathers_graphs (entries : List (String × Graph)) (defs : GraphDefs) :
    Gathers (fun defs key => .ok (graphReader.map fun graph => Std.TreeMap.insert defs key graph))
      (fun _ => GraphText) defs entries
      (entries.foldl (fun defs entry => defs.insert entry.1 entry.2) defs) := by
  induction entries generalizing defs with
  | nil => exact .done
  | cons entry entries ih => exact .next (fun ht => ⟨_, rfl, ht.readAs.map _⟩) (ih _)

theorem EntriesText.readAs {t : Bytes} {entries : List (String × Graph)}
    (h : EntriesText t entries) : ReadAs graphsReader t (ofEntries entries) :=
  h.readAs_object (gathers_graphs entries ∅)

/-- A document is read as its entries. -/
theorem DocumentText.readGraphDefs {document : ByteArray} {entries : List (String × Graph)}
    (h : DocumentText document.data.toList entries) :
    readGraphDefs document = .ok (ofEntries entries) := by
  unfold MetricCheck.readGraphDefs
  generalize document.data.toList = t at h
  obtain ⟨hbefore, h, ⟨hone, hentries⟩, hafter⟩ := h
  refine ReadAs.document ?_ hbefore hafter
  refine readAs_oneField (fun _ _ h => EntriesText.readAs h) h hone ?_
  rw [← hentries, List.headD_eq_head?_getD, List.head?_map]
  cases (List.filterMap Prod.snd _).head? <;> rfl

/-! ## What they mean -/

/-- The last of the entries with this key has this graph. -/
def IsLast (entries : List (String × Graph)) (key : String) (g : Graph) : Prop :=
  ∃ before after, entries = before ++ (key, g) :: after ∧ key ∉ after.map Prod.fst

theorem isLast_concat {entries : List (String × Graph)} {k key : String} {g g' : Graph} :
    IsLast (entries ++ [(k, g')]) key g ↔ k = key ∧ g' = g ∨ k ≠ key ∧ IsLast entries key g := by
  constructor
  · rintro ⟨before, after, heq, hafter⟩
    rcases List.eq_nil_or_concat after with rfl | ⟨after, entry, rfl⟩
    · obtain ⟨-, hentry⟩ := List.append_inj' heq rfl
      cases hentry
      exact .inl ⟨rfl, rfl⟩
    · rw [List.concat_eq_append, ← List.cons_append, ← List.append_assoc] at heq
      obtain ⟨rfl, hentry⟩ := List.append_inj' heq rfl
      cases hentry
      simp only [List.concat_eq_append, List.map_append, List.map_cons, List.map_nil,
        List.mem_append, List.mem_singleton, not_or] at hafter
      exact .inr ⟨Ne.symm hafter.2, before, after, rfl, hafter.1⟩
  · rintro (⟨rfl, rfl⟩ | ⟨hne, before, after, rfl, hafter⟩)
    · exact ⟨entries, [], rfl, List.not_mem_nil⟩
    · refine ⟨before, after ++ [(k, g')], by simp, ?_⟩
      simp only [List.map_append, List.map_cons, List.map_nil, List.mem_append,
        List.mem_singleton, not_or]
      exact ⟨hafter, Ne.symm hne⟩

theorem getElem?_ofEntries {entries : List (String × Graph)} {key : String} {g : Graph} :
    (ofEntries entries)[key]? = some g ↔ IsLast entries key g := by
  induction entries using List.reverseRecOn with
  | nil => simp [ofEntries, IsLast]
  | append_singleton entries entry ih =>
    obtain ⟨k, g'⟩ := entry
    have hinsert : ofEntries (entries ++ [(k, g')]) = (ofEntries entries).insert k g' :=
      List.foldl_concat ..
    rw [hinsert, Std.TreeMap.getElem?_insert, isLast_concat, ← ih]
    by_cases hkey : k = key
    · simp [hkey]
    · simp [hkey]

theorem mem_toList_ofEntries {entries : List (String × Graph)} {key : String} {g : Graph} :
    (key, g) ∈ (ofEntries entries).toList ↔ IsLast entries key g := by
  rw [Std.TreeMap.mem_toList_iff_getElem?_eq_some, getElem?_ofEntries]

/-- The keys come in ascending order. -/
theorem pairwise_toList (defs : GraphDefs) : defs.toList.Pairwise fun a b => a.1 < b.1 :=
  defs.ordered_keys_toList.imp fun h => compareOfLessAndEq_eq_lt.1 h

/-- Where keys do not come again, each entry is the last with its key. -/
theorem isLast_iff_mem {entries : List (String × Graph)} (h : (entries.map Prod.fst).Nodup)
    {key : String} {g : Graph} : IsLast entries key g ↔ (key, g) ∈ entries := by
  constructor
  · rintro ⟨before, after, rfl, -⟩
    simp
  · intro hmem
    obtain ⟨before, after, rfl⟩ := List.append_of_mem hmem
    refine ⟨before, after, rfl, ?_⟩
    rw [List.map_append, List.map_cons, List.nodup_append] at h
    exact (List.nodup_cons.1 h.2.1).1

/-- Where keys do not come again, the order of the entries is nothing to the graphs. -/
theorem toList_ofEntries_perm {entries entries' : List (String × Graph)}
    (h : entries.Perm entries') (hkeys : (entries.map Prod.fst).Nodup) :
    (ofEntries entries).toList = (ofEntries entries').toList := by
  have hkeys' : (entries'.map Prod.fst).Nodup := (h.map Prod.fst).nodup_iff.1 hkeys
  have hnodup : ∀ defs : GraphDefs, defs.toList.Nodup := by
    intro defs
    refine (pairwise_toList defs).imp ?_
    rintro a b hlt rfl
    exact String.lt_irrefl _ hlt
  have hperm : (ofEntries entries).toList.Perm (ofEntries entries').toList := by
    rw [List.perm_ext_iff_of_nodup (hnodup _) (hnodup _)]
    rintro ⟨key, g⟩
    rw [mem_toList_ofEntries, mem_toList_ofEntries, isLast_iff_mem hkeys, isLast_iff_mem hkeys',
      h.mem_iff]
  exact hperm.eq_of_pairwise (fun _ _ _ _ hlt hlt' => absurd hlt' (String.lt_asymm hlt))
    (pairwise_toList _) (pairwise_toList _)

end GraphDefs

open GraphDefs

/-! ## The law -/

/-- However a document writes entries, it is read. Its rules are, for each key in ascending order,
those of the last entry with the key: a required one for each name in order, bounded by a hundred
where the unit is that of percentages. So where keys do not come again, the entries may stand in
any order. -/
theorem documents_mean_their_last_entries (document : ByteArray) (entries : List (String × Graph))
    (h : DocumentText document.data.toList entries) :
    ∃ defs, readGraphDefs document = .ok defs ∧
    (∃ graphs : List (String × Graph), graphs.Pairwise (fun a b => a.1 < b.1) ∧
      (∀ key g, (key, g) ∈ graphs ↔ IsLast entries key g) ∧
      generateRules defs = graphs.flatMap fun (key, g) => g.names.map fun name =>
        { path := key ++ "." ++ name
          required := true
          constraints :=
            if g.unit = "percentage" then
              [⟨.greaterEqual, .zero false⟩, ⟨.lessEqual, .ofRatio false 100 1⟩]
            else [⟨.greaterEqual, .zero false⟩] }) ∧
    ∀ document' entries', DocumentText document'.data.toList entries' →
      entries.Perm entries' → (entries.map Prod.fst).Nodup →
      ∃ defs', readGraphDefs document' = .ok defs' ∧ generateRules defs' = generateRules defs := by
  refine ⟨ofEntries entries, h.readGraphDefs,
    ⟨(ofEntries entries).toList, pairwise_toList _, ?_, ?_⟩, ?_⟩
  · intro key g
    exact mem_toList_ofEntries
  · have hbounds : ∀ g : Graph, g.bounds =
        if g.unit = "percentage" then
          [⟨.greaterEqual, .zero false⟩, ⟨.lessEqual, .ofRatio false 100 1⟩]
        else [⟨.greaterEqual, .zero false⟩] := by
      intro g
      unfold Graph.bounds
      split <;> rfl
    simp only [generateRules, Graph.rules, hbounds]
  · intro document' entries' h' hperm hkeys
    refine ⟨ofEntries entries', h'.readGraphDefs, ?_⟩
    rw [generateRules, generateRules, toList_ofEntries_perm hperm hkeys]

/-- A character that needs no escape. -/
def isUnescaped (c : Char) : Bool := c ≠ '"' && c ≠ '\\' && 0x20 ≤ c.toNat

/-- A string of such characters. -/
def plainString (text : String) : Bytes :=
  byte '"' :: (text.toList.flatMap String.utf8EncodeChar ++ [byte '"'])

theorem stringText_plainString {text : String} (h : text.toList.all isUnescaped = true) :
    StringText (plainString text) text := by
  have hchars : ∀ cs : List Char, cs.all isUnescaped = true →
      CharsText (cs.flatMap String.utf8EncodeChar) cs := by
    intro cs hcs
    induction cs with
    | nil => exact .nil
    | cons c cs ih =>
      rw [List.all_cons, Bool.and_eq_true] at hcs
      have hc : (c ≠ '"' ∧ c ≠ '\\') ∧ 0x20 ≤ c.toNat := by simpa [isUnescaped] using hcs.1
      exact .cons (.plain hc.1.1 hc.1.2 hc.2) (ih hcs.2)
  exact .mk (hchars _ h)

/-- A member with such a key and without white space. -/
theorem memberText_plainString {value : String → Bytes → β → Prop} {key : String} {t : Bytes}
    {x : β} (h : value key t x) (hkey : key.toList.all isUnescaped = true) :
    Spaced (MemberText value) ([] ++ (plainString key ++ ([] ++ byte ':' :: ([] ++ t)) ++ []))
      (key, x) :=
  .tight (.mk (stringText_plainString hkey) spaces_nil spaces_nil h)

/-- For instance, with a key that comes again and is spelled by an escape, a graph of which
nothing is said, fields in either order, and other fields with numbers and a string that spells no
text. -/
theorem documents_mean_their_last_entries_with_escapes :
    let document := (" \x7b\"x\":[1e5,\"\\ud800\"],\"graphs\":\x7b\"b\":\x7b\"metrics\":[" ++
      "\x7b\"name\":\"n\"\x7d]\x7d,\"a\":\x7b\x7d,\"\\u0062\":\x7b\"metrics\":[\x7b\"y\":null," ++
      "\"name\":\"m\"\x7d],\"unit\":\"percentage\"\x7d\x7d\x7d\n").toUTF8
    let entries := [("b", ⟨"", ["n"]⟩), ("a", ⟨"", []⟩), ("b", ⟨"percentage", ["m"]⟩)]
    DocumentText document.data.toList entries ∧
      ∃ defs, readGraphDefs document = .ok defs ∧ generateRules defs =
        [⟨"b.m", true, [⟨.greaterEqual, .zero false⟩, ⟨.lessEqual, .ofRatio false 100 1⟩]⟩] := by
  intro document entries
  have hfirst : GraphText _ ⟨"", ["n"]⟩ :=
    have hname : NameText _ "n" :=
      .mk (.row (.last (memberText_plainString (.known (stringText_plainString (by decide)))
        (by decide)))) rfl
    .mk (.row (.last (memberText_plainString (.metrics (.row (.last (.tight hname)))) (by decide))))
      ⟨by decide, rfl⟩ ⟨by decide, rfl⟩
  have hsecond : GraphText _ ⟨"", []⟩ := .mk (.empty spaces_nil) ⟨by decide, rfl⟩ ⟨by decide, rfl⟩
  have hthird : GraphText _ ⟨"percentage", ["m"]⟩ :=
    have hnull : ValueText _ := .word (show "null" ∈ valueWords by decide)
    have hname : NameText _ "m" :=
      .mk (.row (.more (memberText_plainString (.other (show "y" ≠ "name" by decide) hnull)
          (by decide))
        (.last (memberText_plainString (.known (stringText_plainString (by decide)))
          (by decide))))) rfl
    .mk (.row (.more
        (memberText_plainString (.metrics (.row (.last (.tight hname)))) (by decide))
        (.last (memberText_plainString (.unit (stringText_plainString (by decide))) (by decide)))))
      ⟨by decide, rfl⟩ ⟨by decide, rfl⟩
  have hentries : EntriesText _ entries :=
    have hdigit : ∀ {n : Nat}, n < 16 → HexDigit (byte n.digitChar) n := .lower
    have hkey : StringText _ "b" :=
      .mk (.cons (.unit (.mk (hdigit (show 0 < 16 by decide)) (hdigit (show 0 < 16 by decide))
        (hdigit (show 6 < 16 by decide)) (hdigit (show 2 < 16 by decide)))) .nil)
    .row (.more (memberText_plainString hfirst (by decide))
      (.more (memberText_plainString hsecond (by decide))
        (.last (.tight (.mk hkey spaces_nil spaces_nil hthird)))))
  have hother : ValueText _ :=
    have hdigit : ∀ {n : Nat}, n < 16 → HexDigit (byte n.digitChar) n := .lower
    have hnumber : ValueText _ :=
      have hone : ∀ b, byte '0' ≤ b ∧ b ≤ byte '9' → Digits [b] := fun _ hb =>
        ⟨List.cons_ne_nil _ _, List.forall_mem_singleton.2 hb⟩
      .number (.mk (.digits (hone (byte '1') (by decide)) (by decide)) .none
        (.power (.inl rfl) (.inl rfl) (hone (byte '5') (by decide))))
    have hstring : ValueText _ :=
      .string (.mk (.number (.mk (hdigit (show 13 < 16 by decide)) (hdigit (show 8 < 16 by decide))
        (hdigit (show 0 < 16 by decide)) (hdigit (show 0 < 16 by decide))) .nil))
    .list (.elements (.element spaces_nil hnumber spaces_nil)
      (.lastElement (.element spaces_nil hstring spaces_nil)))
  have hobject : ObjectText (OneField "graphs" EntriesText) _
      [("x", none), ("graphs", some entries)] :=
    .row (.more (memberText_plainString (.other (by decide) hother) (by decide))
      (.last (memberText_plainString (.known hentries) (by decide))))
  have hspaced : DocumentText ([byte ' '] ++ (_ ++ [byte '\n'])) entries :=
    .mk (by decide) hobject ⟨by decide, rfl⟩ (by decide)
  have h : DocumentText document.data.toList entries := by
    refine cast (congrArg (DocumentText · entries) ?_) hspaced
    decide +kernel
  refine ⟨h, ?_⟩
  obtain ⟨defs, hread, -⟩ := documents_mean_their_last_entries document entries h
  refine ⟨defs, hread, ?_⟩
  obtain rfl := Except.ok.inj (h.readGraphDefs.symm.trans hread)
  decide +kernel

end MetricCheck
