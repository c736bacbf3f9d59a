import Mathlib.Data.List.Forall2
import Mathlib.Data.List.Nodup
import StressBatch.Msgpack.Record
import StressBatch.Proofs.Text.Utf8

/-!
# Records are read in any form

A record may be given by a map of its fields in any order, with entries of its own under keys that
name no field, or by the list of all its fields. `Forms` says which values those are, and what a
reader finds in each of them: every field has a value that stands for it, unless it was left out.

A record that gives a field twice, lacks one that is needed, has a list of the wrong length or holds
a broken record is `Flawed`, and what a reader finds in it is never all it needs.

Choices, lists, maps and values that may be missing are read back as well, given that what is inside
of them is.
-/

namespace StressBatch.Msgpack

variable {α : Type} {names : List String} {i n bound : Nat}

namespace Value

/-! ## Keys -/

/-- Whether a key gives the field at a position: by its name, as a text or as a byte sequence, or by
the position itself. -/
inductive KeyOf (names : List String) : Nat → Value → Prop where
  | text {i : Nat} {name : String} (h : names[i]? = some name) :
      KeyOf names i (.str (Text.Utf8.encode name))
  | bytes {i : Nat} {name : String} (h : names[i]? = some name) :
      KeyOf names i (.bin (Text.Utf8.encode name))
  | position {i : Nat} (h : i < names.length) : KeyOf names i (.uint i)

/-- Whether a key is a string that names no field. -/
inductive Foreign (names : List String) : Value → Prop where
  | text {bytes : Bytes} (h : ∀ name ∈ names, Text.Utf8.encode name ≠ bytes) :
      Foreign names (.str bytes)
  | bytes {bytes : Bytes} (h : ∀ name ∈ names, Text.Utf8.encode name ≠ bytes) :
      Foreign names (.bin bytes)

theorem findIdx?_name (hnodup : names.Nodup) (bytes : Bytes) :
    (names.findIdx? fun name => Text.Utf8.encode name == bytes) = some i ↔
      ∃ name, names[i]? = some name ∧ Text.Utf8.encode name = bytes := by
  constructor
  · intro hfound
    obtain ⟨hi, hname, -⟩ := List.findIdx?_eq_some_iff_getElem.mp hfound
    exact ⟨names[i], List.getElem?_eq_getElem hi, beq_iff_eq.mp hname⟩
  · rintro ⟨name, hname, rfl⟩
    obtain ⟨hi, rfl⟩ := List.getElem?_eq_some_iff.mp hname
    refine List.findIdx?_eq_some_iff_getElem.mpr ⟨hi, by simp, fun j hj hbytes => ?_⟩
    have hsame := Text.Utf8.encode_injective (beq_iff_eq.mp hbytes)
    have hindex := (List.getElem_inj hnodup).mp hsame
    omega

theorem position?_eq_some_iff (hnodup : names.Nodup) (key : Value) :
    position? names key = some (some i) ↔ KeyOf names i key := by
  constructor
  · intro hposition
    cases key with
    | str bytes =>
      obtain ⟨name, hname, rfl⟩ := (findIdx?_name hnodup bytes).mp (Option.some.inj hposition)
      exact .text hname
    | bin bytes =>
      obtain ⟨name, hname, rfl⟩ := (findIdx?_name hnodup bytes).mp (Option.some.inj hposition)
      exact .bytes hname
    | uint n =>
      have hplace : (if n < names.length then some n else none) = some i :=
        Option.some.inj hposition
      by_cases hlt : n < names.length
      · rw [if_pos hlt] at hplace
        obtain rfl := Option.some.inj hplace
        exact .position hlt
      · rw [if_neg hlt] at hplace
        contradiction
    | _ => contradiction
  · intro hkey
    cases hkey with
    | text hname => exact congrArg some ((findIdx?_name hnodup _).mpr ⟨_, hname, rfl⟩)
    | bytes hname => exact congrArg some ((findIdx?_name hnodup _).mpr ⟨_, hname, rfl⟩)
    | position hlt => exact congrArg some (if_pos hlt)

theorem position?_of_foreign {key : Value} (h : Foreign names key) :
    position? names key = some none := by
  cases h with
  | text hother => exact congrArg some (List.findIdx?_eq_none_iff.mpr (by simpa using hother))
  | bytes hother => exact congrArg some (List.findIdx?_eq_none_iff.mpr (by simpa using hother))

/-! ## The entries of a map -/

section Entries

variable {found values : List (Option Value)} {entries : List (Value × Value)}

/-- Whether no field is given by both entries. -/
def Apart (names : List String) (first second : Value × Value) : Prop :=
  ∀ i, position? names first.1 = some (some i) → position? names second.1 ≠ some (some i)

theorem Apart.symm {first second : Value × Value} (h : Apart names first second) :
    Apart names second first := fun i hsecond hfirst => h i hfirst hsecond

/-- What the reader has entered when it is through with the entries: the value of every entry that
gives a field, and nothing else. -/
structure Entered (names : List String) (found values : List (Option Value))
    (entries : List (Value × Value)) : Prop where
  given : ∀ entry ∈ entries, ∀ i, position? names entry.1 = some (some i) →
    values[i]? = some (some entry.2)
  kept : ∀ i, (∀ entry ∈ entries, position? names entry.1 ≠ some (some i)) →
    values[i]? = found[i]?

theorem collect_cons_eq_some_iff (entry : Value × Value) :
    collect names found (entry :: entries) = some values ↔
      (position? names entry.1 = some none ∧ collect names found entries = some values) ∨
      ∃ i, position? names entry.1 = some (some i) ∧ found[i]? = some none ∧
        collect names (found.set i (some entry.2)) entries = some values := by
  obtain ⟨key, value⟩ := entry
  rw [collect]
  rcases hposition : position? names key with _ | _ | i
  · simp
  · simp
  · rcases hslot : found[i]? with _ | _ | old <;> simp [hslot]

theorem Entered.skip {entry : Value × Value} (h : Entered names found values entries)
    (hforeign : position? names entry.1 = some none) :
    Entered names found values (entry :: entries) := by
  refine ⟨?_, fun i hothers => h.kept i fun other hother => hothers other (.tail _ hother)⟩
  rintro other (_ | ⟨_, hlater⟩) i hother
  · simp [hforeign] at hother
  · exact h.given other hlater i hother

theorem Entered.put {entry : Value × Value}
    (h : Entered names (found.set i (some entry.2)) values entries)
    (hplace : position? names entry.1 = some (some i)) (hlt : i < found.length)
    (hothers : ∀ other ∈ entries, position? names other.1 ≠ some (some i)) :
    Entered names found values (entry :: entries) := by
  constructor
  · rintro other (_ | ⟨_, hlater⟩) j hother
    · rw [hplace] at hother
      obtain rfl := Option.some.inj (Option.some.inj hother)
      rw [h.kept i hothers, List.getElem?_set_self hlt]
    · exact h.given other hlater j hother
  · intro j hnone
    have hne : i ≠ j := by
      rintro rfl
      exact hnone entry List.mem_cons_self hplace
    have hlater := h.kept j fun other hother => hnone other (.tail _ hother)
    rwa [List.getElem?_set_ne hne] at hlater

/-- Entries that the reader gets through give no field twice, whatever their order. -/
theorem collect_eq_some (h : collect names found entries = some values) :
    entries.Pairwise (Apart names) ∧
      (∀ entry ∈ entries, ∀ i, position? names entry.1 = some (some i) → found[i]? = some none) ∧
      Entered names found values entries := by
  induction entries generalizing found with
  | nil =>
    obtain rfl := Option.some.inj h
    exact ⟨.nil, by simp, by simp, fun _ _ => rfl⟩
  | cons entry entries ih =>
    rcases (collect_cons_eq_some_iff entry).mp h with ⟨hforeign, hrest⟩ | ⟨i, hplace, hfree, hrest⟩
    · obtain ⟨hapart, hfrees, hentered⟩ := ih hrest
      have hnone : ∀ i, position? names entry.1 ≠ some (some i) := by simp [hforeign]
      refine ⟨hapart.cons fun other _ i hfirst => absurd hfirst (hnone i), ?_,
        hentered.skip hforeign⟩
      rintro other (_ | ⟨_, hlater⟩) i hother
      · exact absurd hother (hnone i)
      · exact hfrees other hlater i hother
    · obtain ⟨hapart, hfrees, hentered⟩ := ih hrest
      obtain ⟨hlt, -⟩ := List.getElem?_eq_some_iff.mp hfree
      -- the place is taken now, so no later entry gives it
      have hothers : ∀ other ∈ entries, position? names other.1 ≠ some (some i) := by
        intro other hother hsame
        have htaken := hfrees other hother i hsame
        simp [List.getElem?_set_self hlt] at htaken
      refine ⟨hapart.cons fun other hother j hfirst hsecond => ?_, ?_,
        hentered.put hplace hlt hothers⟩
      · rw [hplace] at hfirst
        obtain rfl := Option.some.inj (Option.some.inj hfirst)
        exact hothers other hother hsecond
      · rintro other (_ | ⟨_, hlater⟩) j hother
        · rw [hplace] at hother
          obtain rfl := Option.some.inj (Option.some.inj hother)
          exact hfree
        · have hne : i ≠ j := by
            rintro rfl
            exact hothers other hlater hother
          have hlaterFree := hfrees other hlater j hother
          rwa [List.getElem?_set_ne hne] at hlaterFree

/-- Entries whose keys are all strings or positions, and that give no field twice, are entered. -/
theorem exists_collect (hkeys : ∀ entry ∈ entries, position? names entry.1 ≠ none)
    (hapart : entries.Pairwise (Apart names))
    (hfree : ∀ entry ∈ entries, ∀ i, position? names entry.1 = some (some i) →
      found[i]? = some none) :
    ∃ values, collect names found entries = some values := by
  induction entries generalizing found with
  | nil => exact ⟨found, rfl⟩
  | cons entry entries ih =>
    obtain ⟨hfirst, hrest⟩ := List.pairwise_cons.mp hapart
    have hlater := fun other hother => hkeys other (List.mem_cons_of_mem _ hother)
    rcases hposition : position? names entry.1 with _ | _ | i
    · exact absurd hposition (hkeys entry List.mem_cons_self)
    · have hfrees := fun other hother => hfree other (List.mem_cons_of_mem entry hother)
      obtain ⟨values, hvalues⟩ := ih hlater hrest hfrees
      exact ⟨values, (collect_cons_eq_some_iff entry).mpr (.inl ⟨hposition, hvalues⟩)⟩
    · have hplace := hfree entry List.mem_cons_self i hposition
      have hfrees : ∀ other ∈ entries, ∀ j, position? names other.1 = some (some j) →
          (found.set i (some entry.2))[j]? = some none := by
        intro other hother j hsecond
        have hne : i ≠ j := by
          rintro rfl
          exact hfirst other hother i hposition hsecond
        rw [List.getElem?_set_ne hne]
        exact hfree other (List.mem_cons_of_mem _ hother) j hsecond
      obtain ⟨values, hvalues⟩ := ih hlater hrest hfrees
      exact ⟨values, (collect_cons_eq_some_iff entry).mpr (.inr ⟨i, hposition, hplace, hvalues⟩)⟩

end Entries

end Value

/-! ## The forms of a record -/

/-- A field of a record: its name, the values that stand for what it holds, and whether it holds
what is assumed when it is left out. -/
structure RecordField where
  name : String
  holds : Value → Prop
  omissible : Prop := False

/-- A field that is given by one value only. -/
def RecordField.exactly (name : String) (v : Value) : RecordField where
  name := name
  holds := (· = v)

/-- What a map gives of the fields of a record: each by a value that stands for it, unless it is
left out. -/
inductive Filled : List RecordField → List (String × Value) → Prop where
  | nil : Filled [] []
  | give {field : RecordField} {fields : List RecordField} {given : List (String × Value)}
      {v : Value} (hholds : field.holds v) (h : Filled fields given) :
      Filled (field :: fields) ((field.name, v) :: given)
  | leave {field : RecordField} {fields : List RecordField} {given : List (String × Value)}
      (hleft : field.omissible) (h : Filled fields given) : Filled (field :: fields) given

/-- The values that stand for a record: the maps of its fields under their names, in any order and
among entries of any value under other strings, and the list of its fields. -/
inductive Forms (fields : List RecordField) : Value → Prop where
  | map {given : List (String × Value)} {extra entries : List (Value × Value)}
      (hgiven : Filled fields given)
      (hextra : ∀ entry ∈ extra, Value.Foreign (fields.map RecordField.name) entry.1)
      (hperm : entries.Perm (given.map (fun field => (.text field.1, field.2)) ++ extra)) :
      Forms fields (.map entries)
  | array {items : List Value} (h : List.Forall₂ RecordField.holds fields items) :
      Forms fields (.array items)

/-- The values that stand for a record that may be missing. -/
def OptionalForms (fields : α → List RecordField) : Option α → Value → Prop
  | none, v => v = .nil
  | some a, v => Forms (fields a) v

/-- Whether a reader has found a value that stands for a field, or nothing because it was left out
of a map. -/
def Fields.Shows (found : Fields) (i : Nat) (field : RecordField) : Prop :=
  (∃ v, found.values[i]? = some (some v) ∧ field.holds v) ∨
    (field.omissible ∧ found.positional = false ∧ found.values[i]? = some none)

section Records

variable {fields : List RecordField} {field : RecordField} {given : List (String × Value)}
  {value : Value} {found : Fields}

theorem Filled.sublist (h : Filled fields given) :
    (given.map (·.1)).Sublist (fields.map RecordField.name) := by
  induction h with
  | nil => exact .slnil
  | give _ _ ih => exact ih.cons_cons _
  | leave _ _ ih => exact ih.cons _

theorem Filled.holds_of_mem (h : Filled fields given) (hnodup : (fields.map RecordField.name).Nodup)
    (hfield : field ∈ fields) {v : Value} (hgiven : (field.name, v) ∈ given) : field.holds v := by
  have hsource : ∀ entry ∈ given, ∃ other ∈ fields, other.name = entry.1 ∧ other.holds entry.2 := by
    clear hnodup hfield hgiven
    induction h with
    | nil => simp
    | give hholds _ ih =>
      rintro entry (_ | ⟨_, hlater⟩)
      · exact ⟨_, List.mem_cons_self, rfl, hholds⟩
      · obtain ⟨other, hother, hentry⟩ := ih entry hlater
        exact ⟨other, List.mem_cons_of_mem _ hother, hentry⟩
    | leave _ _ ih =>
      intro entry hentry
      obtain ⟨other, hother, hentry⟩ := ih entry hentry
      exact ⟨other, List.mem_cons_of_mem _ hother, hentry⟩
  obtain ⟨other, hother, hname, hholds⟩ := hsource _ hgiven
  obtain rfl : other = field := List.inj_on_of_nodup_map hnodup hother hfield hname
  exact hholds

theorem Filled.omissible_of_not_mem (h : Filled fields given) (hfield : field ∈ fields)
    (hnot : field.name ∉ given.map (·.1)) : field.omissible := by
  induction h with
  | nil => contradiction
  | give _ _ ih =>
    rw [List.map_cons, List.mem_cons, not_or] at hnot
    rcases List.mem_cons.mp hfield with rfl | hlater
    · exact absurd rfl hnot.1
    · exact ih hlater hnot.2
  | leave hleft _ ih =>
    rcases List.mem_cons.mp hfield with rfl | hlater
    · exact hleft
    · exact ih hlater hnot

theorem keyOf_text_iff {name : String} :
    Value.KeyOf names i (.text name) ↔ names[i]? = some name := by
  constructor
  · intro hkey
    generalize hvalue : Value.text name = value at hkey
    cases hkey with
    | text hother =>
      obtain rfl := Text.Utf8.encode_injective (Value.str.inj hvalue)
      exact hother
    | bytes => simp [Value.text] at hvalue
    | position => simp [Value.text] at hvalue
  · exact .text

theorem lt_of_keyOf {key : Value} (h : Value.KeyOf names i key) : i < names.length := by
  cases h with
  | text hname => exact (List.getElem?_eq_some_iff.mp hname).1
  | bytes hname => exact (List.getElem?_eq_some_iff.mp hname).1
  | position hlt => exact hlt

/-- No two entries of a form give the same field. -/
theorem pairwise_apart (hnodup : names.Nodup) (hgiven : (given.map (·.1)).Nodup)
    {extra : List (Value × Value)} (hextra : ∀ entry ∈ extra, Value.Foreign names entry.1) :
    (given.map (fun field => (Value.text field.1, field.2)) ++ extra).Pairwise
      (Value.Apart names) := by
  have hforeign : ∀ entry ∈ extra, ∀ i, Value.position? names entry.1 ≠ some (some i) := by
    intro entry hentry i
    simp [Value.position?_of_foreign (hextra entry hentry)]
  rw [List.pairwise_append]
  refine ⟨?_, ?_, fun first _ second hsecond i _ => hforeign second hsecond i⟩
  · rw [List.pairwise_map]
    refine (List.pairwise_map.mp hgiven).imp fun {first second} hne i hfirst hsecond => hne ?_
    rw [Value.position?_eq_some_iff hnodup, keyOf_text_iff] at hfirst hsecond
    exact Option.some.inj (hfirst.symm.trans hsecond)
  · refine List.pairwise_of_forall_mem_list fun first hfirst second _ i hi => ?_
    exact absurd hi (hforeign first hfirst i)

theorem forms_record (h : Filled fields given) : Forms fields (.record given) := by
  refine .map h (List.forall_mem_nil _) ?_
  rw [List.append_nil]

/-- The entries of a form are entered, whatever their order: the given fields, and nothing else. -/
theorem exists_entered (hnodup : (fields.map RecordField.name).Nodup) (hgiven : Filled fields given)
    {extra entries : List (Value × Value)}
    (hextra : ∀ entry ∈ extra, Value.Foreign (fields.map RecordField.name) entry.1)
    (hperm : entries.Perm (given.map (fun field => (.text field.1, field.2)) ++ extra)) :
    ∃ values, (Value.map entries).fields? (fields.map RecordField.name) = some ⟨values, false⟩ ∧
      Value.Entered (fields.map RecordField.name)
        (List.replicate (fields.map RecordField.name).length none) values entries := by
  have hapart : entries.Pairwise (Value.Apart (fields.map RecordField.name)) :=
    (hperm.pairwise_iff Value.Apart.symm).mpr
      (pairwise_apart hnodup (hgiven.sublist.nodup hnodup) hextra)
  have hkeys : ∀ entry ∈ entries,
      Value.position? (fields.map RecordField.name) entry.1 ≠ none := by
    intro entry hentry
    rcases List.mem_append.mp (hperm.mem_iff.mp hentry) with hmem | hmem
    · obtain ⟨source, -, rfl⟩ := List.mem_map.mp hmem
      simp [Value.text, Value.position?]
    · simp [Value.position?_of_foreign (hextra entry hmem)]
  have hfree : ∀ entry ∈ entries, ∀ i,
      Value.position? (fields.map RecordField.name) entry.1 = some (some i) →
      (List.replicate (fields.map RecordField.name).length (none : Option Value))[i]? =
        some none := by
    intro entry _ i hposition
    rw [Value.position?_eq_some_iff hnodup] at hposition
    rw [List.getElem?_replicate_of_lt (lt_of_keyOf hposition)]
  obtain ⟨values, hvalues⟩ := Value.exists_collect hkeys hapart hfree
  refine ⟨values, ?_, (Value.collect_eq_some hvalues).2.2⟩
  rw [Value.fields?, hvalues, Option.map_some]

/-- What has been entered shows every field. -/
theorem shows_of_entered (hnodup : (fields.map RecordField.name).Nodup)
    (hgiven : Filled fields given) {extra entries : List (Value × Value)}
    (hextra : ∀ entry ∈ extra, Value.Foreign (fields.map RecordField.name) entry.1)
    (hperm : entries.Perm (given.map (fun field => (.text field.1, field.2)) ++ extra))
    {values : List (Option Value)} (hentered : Value.Entered (fields.map RecordField.name)
      (List.replicate (fields.map RecordField.name).length none) values entries)
    (hfield : fields[i]? = some field) : (⟨values, false⟩ : Fields).Shows i field := by
  have hname : (fields.map RecordField.name)[i]? = some field.name := by
    rw [List.getElem?_map, hfield, Option.map_some]
  have hmem : field ∈ fields := List.mem_of_getElem? hfield
  by_cases hthere : field.name ∈ given.map (·.1)
  · -- the field is given
    obtain ⟨⟨name, v⟩, hsource, hsame⟩ := List.mem_map.mp hthere
    obtain rfl : name = field.name := hsame
    have hentry : (Value.text field.name, v) ∈ entries :=
      hperm.mem_iff.mpr (List.mem_append_left _ (List.mem_map.mpr ⟨_, hsource, rfl⟩))
    have hposition := (Value.position?_eq_some_iff hnodup _).mpr (keyOf_text_iff.mpr hname)
    exact .inl ⟨v, hentered.given _ hentry i hposition, hgiven.holds_of_mem hnodup hmem hsource⟩
  · -- the field is left out, and no other entry gives it
    refine .inr ⟨hgiven.omissible_of_not_mem hmem hthere, rfl, ?_⟩
    have hlt := (List.getElem?_eq_some_iff.mp hname).1
    refine (hentered.kept i ?_).trans (List.getElem?_replicate_of_lt hlt)
    intro entry hentry hposition
    rcases List.mem_append.mp (hperm.mem_iff.mp hentry) with hnamed | hforeign
    · obtain ⟨source, hsource, rfl⟩ := List.mem_map.mp hnamed
      rw [Value.position?_eq_some_iff hnodup, keyOf_text_iff, hname] at hposition
      have hsame : source.1 = field.name := (Option.some.inj hposition).symm
      exact hthere (List.mem_map.mpr ⟨source, hsource, hsame⟩)
    · rw [Value.position?_of_foreign (hextra entry hforeign)] at hposition
      simp at hposition

/-- What a reader finds in a form of a record. -/
theorem fields?_of_forms (names : List String) (hnames : fields.map RecordField.name = names)
    (hnodup : names.Nodup) (h : Forms fields value) : ∃ found, value.fields? names = some found ∧
      ∀ i field, fields[i]? = some field → found.Shows i field := by
  subst hnames
  cases h with
  | map hgiven hextra hperm =>
    obtain ⟨values, hread, hentered⟩ := exists_entered hnodup hgiven hextra hperm
    exact ⟨_, hread, fun i field => shows_of_entered hnodup hgiven hextra hperm hentered⟩
  | @array items hitems =>
    have hlength := hitems.length_eq
    refine ⟨⟨items.map some, true⟩, by simp [Value.fields?, hlength], fun i field hfield => ?_⟩
    obtain ⟨hlt, hget⟩ := List.getElem?_eq_some_iff.mp hfield
    have hother : i < items.length := hlength ▸ hlt
    have hholds : field.holds items[i] := hget ▸ hitems.get hlt hother
    exact .inl ⟨items[i], by simp [hother], hholds⟩

/-! ## What a reader makes of what it has found -/

theorem required_of_shows {read : Value → Option α} {a : α} (h : found.Shows i field)
    (hneeded : ¬ field.omissible) (hread : ∀ v, field.holds v → read v = some a) :
    found.required i read = some a := by
  rcases h with ⟨v, hv, hholds⟩ | ⟨hleft, -, -⟩
  · rw [Fields.required, hv]
    exact hread v hholds
  · exact absurd hleft hneeded

theorem required_of_exactly {name : String} {v : Value} {read : Value → Option α} {a : α}
    (h : found.Shows i (.exactly name v)) (hread : read v = some a) :
    found.required i read = some a := by
  refine required_of_shows h not_false ?_
  rintro v rfl
  exact hread

theorem orDefault_of_shows {read : Value → Option α} {a default : α} (h : found.Shows i field)
    (hdefault : field.omissible → a = default) (hread : ∀ v, field.holds v → read v = some a) :
    found.orDefault i default read = some a := by
  rcases h with ⟨v, hv, hholds⟩ | ⟨hleft, -, hnone⟩
  · rw [Fields.orDefault, hv]
    exact hread v hholds
  · rw [Fields.orDefault, hnone, hdefault hleft]

theorem optional_of_shows {read : Value → Option α} {a? : Option α} (h : found.Shows i field)
    (hmissing : field.omissible → a? = none)
    (hread : ∀ v, field.holds v → Value.optional? read v = some a?) :
    found.optional i read = some a? := by
  rcases h with ⟨v, hv, hholds⟩ | ⟨hleft, hmap, hnone⟩
  · rw [Fields.optional, hv]
    exact hread v hholds
  · rw [Fields.optional, hnone, hmap, hmissing hleft]
    rfl

theorem optional?_of_forms {read : Value → Option α} {fields : α → List RecordField} {a? : Option α}
    (h : OptionalForms fields a? value)
    (hread : ∀ a ∈ a?, Forms (fields a) value → read value = some a) :
    Value.optional? read value = some a? := by
  cases a? with
  | none =>
    obtain rfl : value = .nil := h
    rfl
  | some a =>
    have hvalue := hread a rfl h
    cases h with
    | map => rw [Value.optional?, hvalue, Option.map_some]; nofun
    | array => rw [Value.optional?, hvalue, Option.map_some]; nofun

end Records

/-! ## Broken records -/

/-- The values that stand for no record of a kind: maps that lack a field which may not be left out,
or give a field twice; lists that are too short or too long; and whatever gives a field a value that
is `bad` for it. -/
inductive Flawed (names omissible : List String) (bad : String → Value → Prop) : Value → Prop where
  | missing {entries : List (Value × Value)} {i : Nat} {name : String}
      (hname : names[i]? = some name) (hneeded : name ∉ omissible)
      (h : ∀ entry ∈ entries, ¬ Value.KeyOf names i entry.1) :
      Flawed names omissible bad (.map entries)
  | twice {entries rest : List (Value × Value)} {first second : Value × Value} {i : Nat}
      (hperm : entries.Perm (first :: second :: rest)) (hfirst : Value.KeyOf names i first.1)
      (hsecond : Value.KeyOf names i second.1) : Flawed names omissible bad (.map entries)
  | entry {entries : List (Value × Value)} {entry : Value × Value} {i : Nat} {name : String}
      (hentry : entry ∈ entries) (hname : names[i]? = some name)
      (hkey : Value.KeyOf names i entry.1) (hbad : bad name entry.2) :
      Flawed names omissible bad (.map entries)
  | item {items : List Value} {i : Nat} {name : String} {v : Value} (hitem : items[i]? = some v)
      (hname : names[i]? = some name) (hbad : bad name v) :
      Flawed names omissible bad (.array items)
  | length {items : List Value} (h : items.length ≠ names.length) :
      Flawed names omissible bad (.array items)

namespace Fields

/-- Whether a reader can make do with what it has found of a field. -/
def Serves (found : Fields) (omissible : List String) (bad : String → Value → Prop) (i : Nat)
    (name : String) : Prop :=
  (∀ v, found.values[i]? = some (some v) → ¬ bad name v) ∧
    (name ∉ omissible → found.values[i]? ≠ some none)

/-- Whether a reader can make do with what it has found of all fields; of a list all of them have to
be there. -/
structure Suffices (found : Fields) (names omissible : List String) (bad : String → Value → Prop) :
    Prop where
  serves : ∀ (i : Nat) (name : String), names[i]? = some name → found.Serves omissible bad i name
  full : found.positional = true → found.values[names.length - 1]? ≠ some none

variable {found : Fields} {name : String} {omissible : List String}
  {bad : String → Value → Prop} {read : Value → Option α} {a : α}

theorem exists_of_required (h : found.required i read = some a) :
    ∃ v, found.values[i]? = some (some v) ∧ read v = some a := by
  rw [required] at h
  split at h
  · next v hv => exact ⟨v, hv, h⟩
  · contradiction

theorem serves_of_required (h : found.required i read = some a)
    (hbad : ∀ v, bad name v → read v = none) : found.Serves omissible bad i name := by
  obtain ⟨v, hv, hread⟩ := exists_of_required h
  refine ⟨fun w hw hbadw => ?_, fun _ => by simp [hv]⟩
  obtain rfl : v = w := Option.some.inj (Option.some.inj (hv.symm.trans hw))
  rw [hbad v hbadw] at hread
  contradiction

theorem serves_of_optional {a? : Option α} (h : found.optional i read = some a?)
    (hleft : name ∈ omissible) (hbad : ∀ v, bad name v → Value.optional? read v = none) :
    found.Serves omissible bad i name := by
  refine ⟨fun v hv hbadv => ?_, absurd hleft⟩
  rw [optional, hv] at h
  have hnone := hbad v hbadv
  simp [hnone] at h

theorem serves_of_left (hleft : name ∈ omissible) (hbad : ∀ v, ¬ bad name v) :
    found.Serves omissible bad i name := ⟨fun v _ => hbad v, absurd hleft⟩

theorem forall_getElem?_nil {p : Nat → String → Prop} (i : Nat) (name : String)
    (h : ([] : List String)[i]? = some name) : p i name := by simp at h

theorem forall_getElem?_cons {p : Nat → String → Prop} {first : String} {names : List String}
    (hfirst : p 0 first) (h : ∀ (i : Nat) (name : String), names[i]? = some name → p (i + 1) name)
    (i : Nat) (name : String) (hname : (first :: names)[i]? = some name) : p i name := by
  cases i with
  | zero =>
    obtain rfl : first = name := by simpa using hname
    exact hfirst
  | succ i => exact h i name (by simpa using hname)

end Fields

/-- The entries of a map in which the fields of a record are found give no field twice. -/
theorem entered_of_fields? {entries : List (Value × Value)}
    (h : (Value.map entries).fields? names = some found) :
    entries.Pairwise (Value.Apart names) ∧
      Value.Entered names (List.replicate names.length none) found.values entries := by
  rw [Value.fields?, Option.map_eq_some_iff] at h
  obtain ⟨values, hvalues, rfl⟩ := h
  obtain ⟨hapart, -, hentered⟩ := Value.collect_eq_some hvalues
  exact ⟨hapart, hentered⟩

/-- What is found in a list: its items, in their order. -/
theorem items_of_fields? {items : List Value} (h : (Value.array items).fields? names = some found) :
    items.length ≤ names.length ∧
      found = ⟨items.map some ++ List.replicate (names.length - items.length) none, true⟩ := by
  rw [Value.fields?] at h
  split at h
  · next hle => exact ⟨hle, (Option.some.inj h).symm⟩
  · contradiction

/-- In a broken record no reader finds what it needs. -/
theorem not_flawed_of_suffices {omissible : List String} {bad : String → Value → Prop}
    {value : Value} {found : Fields} (hnodup : names.Nodup) (hne : names ≠ [])
    (hfields : value.fields? names = some found) (h : found.Suffices names omissible bad) :
    ¬ Flawed names omissible bad value := by
  intro hflawed
  cases hflawed with
  | missing hname hneeded hnone =>
    obtain ⟨-, -, hkept⟩ := entered_of_fields? hfields
    have hlt := (List.getElem?_eq_some_iff.mp hname).1
    refine (h.serves _ _ hname).2 hneeded ?_
    rw [hkept, List.getElem?_replicate_of_lt hlt]
    intro entry hentry hposition
    exact hnone entry hentry ((Value.position?_eq_some_iff hnodup _).mp hposition)
  | twice hperm hfirst hsecond =>
    obtain ⟨hapart, -⟩ := entered_of_fields? hfields
    have hpair := (hperm.pairwise_iff Value.Apart.symm).mp hapart
    have hapart := List.rel_of_pairwise_cons hpair List.mem_cons_self
    exact hapart _ ((Value.position?_eq_some_iff hnodup _).mpr hfirst)
      ((Value.position?_eq_some_iff hnodup _).mpr hsecond)
  | entry hentry hname hkey hbad =>
    obtain ⟨-, hgiven, -⟩ := entered_of_fields? hfields
    have hposition := (Value.position?_eq_some_iff hnodup _).mpr hkey
    exact (h.serves _ _ hname).1 _ (hgiven _ hentry _ hposition) hbad
  | @item items i name v hitem hname hbad =>
    obtain ⟨-, rfl⟩ := items_of_fields? hfields
    have hlt := (List.getElem?_eq_some_iff.mp hitem).1
    refine (h.serves _ _ hname).1 v ?_ hbad
    show (items.map some ++ List.replicate (names.length - items.length) none)[i]? = some (some v)
    rw [List.getElem?_append_left (by rwa [List.length_map]), List.getElem?_map, hitem,
      Option.map_some]
  | @length items hlength =>
    obtain ⟨hle, rfl⟩ := items_of_fields? hfields
    have hpos := List.length_pos_iff.mpr hne
    refine h.full rfl ?_
    show (items.map some ++ List.replicate (names.length - items.length) none)[names.length - 1]? =
      some none
    rw [List.getElem?_append_right (by rw [List.length_map]; omega),
      List.getElem?_replicate_of_lt (by rw [List.length_map]; omega)]

namespace Value

/-! ## What fields hold -/

@[simp] theorem text?_text (s : String) : text? (text s) = some s := Text.Utf8.decode?_encode s

@[simp] theorem natBelow?_uint (h : n < bound) : natBelow? bound (.uint n) = some n := if_pos h

theorem listOf?_list {read : Value → Option α} {value : α → Value} {as : List α}
    (h : ∀ a ∈ as, read (value a) = some a) : listOf? read (list value as) = some as := by
  rw [list, listOf?]
  induction as with
  | nil => rfl
  | cons a as ih =>
    have hfirst := h a List.mem_cons_self
    have hothers := ih fun other hother => h other (List.mem_cons_of_mem a hother)
    rw [List.map_cons, List.mapM_cons, hfirst, hothers]
    rfl

theorem entriesOf?_map {read : Value → Option α} {value : α → Value} {entries : List (String × α)}
    (h : ∀ entry ∈ entries, read (value entry.2) = some entry.2) :
    entriesOf? read (.map (entries.map fun entry => (text entry.1, value entry.2))) =
      some entries := by
  rw [entriesOf?]
  induction entries with
  | nil => rfl
  | cons entry entries ih =>
    have hfirst := h entry List.mem_cons_self
    have hothers := ih fun other hother => h other (List.mem_cons_of_mem entry hother)
    rw [List.map_cons, List.mapM_cons, hothers]
    simp [hfirst]

end Value

end StressBatch.Msgpack
