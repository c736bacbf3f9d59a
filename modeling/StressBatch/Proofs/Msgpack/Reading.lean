import Mathlib.Data.List.Forall2
import StressBatch.Proofs.Msgpack.Heads

/-!
# Values are read as they were written

`Spells` tells which bytes the format allows for a value: there are several, because every head has
forms of more than one length. All of them are read as the value, whatever stands behind them. The
depth to which the reader follows containers is the depth that a form allows, so the proof is by
induction on it: what is inside of a container is read at the depth below. The bytes that are
written for a value which the format has room for are one of its forms.

A value that is built of texts, lists and records can be written if its parts can. What keeps a
value from being writable is mostly its size: `Value.LimitedBySize` says that nothing else does.
-/

namespace StressBatch.Msgpack

variable {depth n : Nat} {head : Head} {bytes rest : Bytes} {v : Value} {items : List Value}
  {entries : List (Value × Value)}

/-! ## The forms of a value -/

/-- The bytes behind a head, and the value that the two make. What is inside of a container has the
bytes that `item` allows. -/
inductive Body (item : Value → Bytes → Prop) : Head → Value → Bytes → Prop where
  | whole (v : Value) : Body item (.whole v) v []
  | str (bytes : Bytes) : Body item (.str bytes.length) (.str bytes) bytes
  | bin (bytes : Bytes) : Body item (.bin bytes.length) (.bin bytes) bytes
  | ext (tag : UInt8) (bytes : Bytes) :
      Body item (.ext bytes.length) (.ext tag bytes) (tag :: bytes)
  | array {items : List Value} {parts : List Bytes} (h : List.Forall₂ item items parts) :
      Body item (.array items.length) (.array items) parts.flatten
  | map {entries : List (Value × Value)} {parts : List (Bytes × Bytes)}
      (h : List.Forall₂ (fun entry part => item entry.1 part.1 ∧ item entry.2 part.2)
        entries parts) :
      Body item (.map entries.length) (.map entries)
        (parts.map fun part => part.1 ++ part.2).flatten

/-- Whether the bytes are a form of the value, with containers nested at most `depth` deep. -/
def Spells : (depth : Nat) → Value → Bytes → Prop
  | 0, v, bytes => ∃ head front back, HeadForm head front ∧ head.isContainer = false ∧
      Body (fun _ _ => False) head v back ∧ bytes = front ++ back
  | depth + 1, v, bytes => ∃ head front back, HeadForm head front ∧
      Body (Spells depth) head v back ∧ bytes = front ++ back

/-! ## Every form is read -/

section Forms

variable {item : Value → Bytes → Prop} {read : Reader Value}

theorem readTimes_of_forms {α : Type} {item : α → Bytes → Prop} {read : Reader α} {as : List α}
    {parts : List Bytes} (hread : ∀ a bytes, item a bytes → ∀ rest,
      read (bytes ++ rest) = some (a, rest))
    (h : List.Forall₂ item as parts) (rest : Bytes) :
    readTimes read as.length (parts.flatten ++ rest) = some (as, rest) := by
  induction h with
  | nil => rfl
  | cons hitem hothers ih =>
    have hfirst := hread _ _ hitem
    rw [List.flatten_cons, List.length_cons, List.append_assoc, readTimes]
    simp only [hfirst, ih, Option.map_some]

theorem readPair_of_forms (hread : ∀ v bytes, item v bytes → ∀ rest,
      read (bytes ++ rest) = some (v, rest)) (entry : Value × Value) (bytes : Bytes)
    (h : ∃ part : Bytes × Bytes, bytes = part.1 ++ part.2 ∧ item entry.1 part.1 ∧
      item entry.2 part.2) (rest : Bytes) :
    readPair read (bytes ++ rest) = some (entry, rest) := by
  obtain ⟨part, rfl, hkey, hvalue⟩ := h
  have hfirst := hread _ _ hkey (part.2 ++ rest)
  have hsecond := hread _ _ hvalue rest
  rw [List.append_assoc, readPair]
  simp only [hfirst, hsecond, Option.map_some]

theorem readBody_of_form (hread : ∀ v bytes, item v bytes → ∀ rest,
      read (bytes ++ rest) = some (v, rest))
    (h : Body item head v bytes) (rest : Bytes) :
    readBody read head (bytes ++ rest) = some (v, rest) := by
  cases h with
  | whole => rfl
  | str => simp only [readBody, takeBytes_append, Option.map_some]
  | bin => simp only [readBody, takeBytes_append, Option.map_some]
  | ext tag bytes => simp only [List.cons_append, readBody, takeBytes_append, Option.map_some]
  | array hitems =>
    have hall := readTimes_of_forms hread hitems rest
    simp only [readBody, hall, Option.map_some]
  | @map entries parts hentries =>
    have hpairs : List.Forall₂ (fun (entry : Value × Value) bytes => ∃ part : Bytes × Bytes,
        bytes = part.1 ++ part.2 ∧ item entry.1 part.1 ∧ item entry.2 part.2)
        entries (parts.map fun part => part.1 ++ part.2) := by
      rw [List.forall₂_map_right_iff]
      exact hentries.imp fun entry part hpart => ⟨part, rfl, hpart⟩
    have hall := readTimes_of_forms (readPair_of_forms hread) hpairs rest
    simp only [readBody, hall, Option.map_some]

/-- Every form of a value is read as the value, whatever stands behind it. -/
theorem readValue_of_spells (h : Spells depth v bytes) (rest : Bytes) :
    readValue depth (bytes ++ rest) = some (v, rest) := by
  induction depth generalizing v bytes rest with
  | zero =>
    obtain ⟨head, front, back, hhead, hleaf, hbody, rfl⟩ := h
    have hfront := readHead_of_form hhead (back ++ rest)
    have hback : readBody (fun _ => none) head (back ++ rest) = some (v, rest) :=
      readBody_of_form (fun _ _ hnone => hnone.elim) hbody rest
    rw [List.append_assoc]
    simp [readValue, hfront, hleaf, hback]
  | succ depth ih =>
    obtain ⟨head, front, back, hhead, hbody, rfl⟩ := h
    have hfront := readHead_of_form hhead (back ++ rest)
    have hback := readBody_of_form (fun _ _ hitem => ih hitem) hbody rest
    rw [List.append_assoc]
    simp only [readValue, hfront, hback]

end Forms

theorem Value.ofBytes?_of_spells (h : Spells maxDepth v bytes) (rest : Bytes) :
    Value.ofBytes? (bytes ++ rest) = some v := by
  rw [Value.ofBytes?, readValue_of_spells h, Option.map_some]

/-! ## What is written is a form -/

theorem Value.writableItems_iff :
    Value.WritableItems depth items ↔ ∀ v ∈ items, v.Writable depth := by
  induction items with
  | nil => simp [Value.WritableItems]
  | cons v items ih => simp [Value.WritableItems, ih]

theorem Value.writableEntries_iff :
    Value.WritableEntries depth entries ↔
      ∀ entry ∈ entries, entry.1.Writable depth ∧ entry.2.Writable depth := by
  induction entries with
  | nil => simp [Value.WritableEntries]
  | cons entry entries ih =>
    obtain ⟨key, value⟩ := entry
    simp [Value.WritableEntries, ih, and_assoc]

theorem Value.encodeItems_eq (items : List Value) :
    Value.encodeItems items = (items.map Value.encode).flatten := by
  induction items with
  | nil => rfl
  | cons v items ih => rw [Value.encodeItems, ih, List.map_cons, List.flatten_cons]

theorem Value.encodeEntries_eq (entries : List (Value × Value)) :
    Value.encodeEntries entries = ((entries.map fun entry => (entry.1.encode, entry.2.encode)).map
      fun part => part.1 ++ part.2).flatten := by
  induction entries with
  | nil => rfl
  | cons entry entries ih =>
    obtain ⟨key, value⟩ := entry
    rw [Value.encodeEntries, ih, List.map_cons, List.map_cons, List.flatten_cons]

theorem spells_leaf {front back : Bytes} (hhead : HeadForm head front)
    (hleaf : head.isContainer = false) (hbody : ∀ item, Body item head v back) (depth : Nat) :
    Spells depth v (front ++ back) := by
  cases depth with
  | zero => exact ⟨head, front, back, hhead, hleaf, hbody _, rfl⟩
  | succ depth => exact ⟨head, front, back, hhead, hbody _, rfl⟩

theorem spells_whole (h : HeadForm (.whole v) bytes) (depth : Nat) : Spells depth v bytes := by
  rw [← List.append_nil bytes]
  exact spells_leaf h rfl (fun _ => .whole v) depth

theorem spells_encode_leaf (h : v.Writable depth) (harray : ∀ items, v ≠ .array items)
    (hmap : ∀ entries, v ≠ .map entries) : Spells depth v v.encode := by
  cases v with
  | nil => exact spells_whole (.fixed (by simp [fixedForms])) depth
  | bool b => cases b <;> exact spells_whole (.fixed (by simp [fixedForms])) depth
  | uint n => exact spells_whole (headForm_uintBytes h) depth
  | sint i => exact spells_whole (headForm_sintBytes h.1 h.2) depth
  | float width bits => exact spells_whole (headForm_float h.1 h.2) depth
  | str bytes =>
    exact spells_leaf (headForm_strHead h) rfl (fun _ => .str bytes) depth
  | bin bytes =>
    exact spells_leaf (headForm_binHead h) rfl (fun _ => .bin bytes) depth
  | ext tag bytes =>
    exact spells_leaf (headForm_extHead h) rfl (fun _ => .ext tag bytes) depth
  | array items => exact absurd rfl (harray items)
  | map entries => exact absurd rfl (hmap entries)

/-- What is written for a value is one of its forms. -/
theorem spells_encode (h : v.Writable depth) : Spells depth v v.encode := by
  induction depth generalizing v with
  | zero =>
    cases v with
    | array items => exact absurd h.1 (Nat.lt_irrefl 0)
    | map entries => exact absurd h.1 (Nat.lt_irrefl 0)
    | _ => exact spells_encode_leaf h nofun nofun
  | succ depth ih =>
    cases v with
    | array items =>
      obtain ⟨-, hlength, hitems⟩ := h
      have hforms : List.Forall₂ (Spells depth) items (items.map Value.encode) := by
        rw [List.forall₂_map_right_iff, List.forall₂_same]
        exact fun v hv => ih (Value.writableItems_iff.mp hitems v hv)
      rw [Value.encode, Value.encodeItems_eq]
      exact ⟨_, _, _, headForm_arrayHead hlength, .array hforms, rfl⟩
    | map entries =>
      obtain ⟨-, hlength, hentries⟩ := h
      have hforms : List.Forall₂
          (fun (entry : Value × Value) (part : Bytes × Bytes) =>
            Spells depth entry.1 part.1 ∧ Spells depth entry.2 part.2)
          entries (entries.map fun entry => (entry.1.encode, entry.2.encode)) := by
        rw [List.forall₂_map_right_iff, List.forall₂_same]
        intro entry hentry
        have hparts := Value.writableEntries_iff.mp hentries entry hentry
        exact ⟨ih hparts.1, ih hparts.2⟩
      rw [Value.encode, Value.encodeEntries_eq]
      exact ⟨_, _, _, headForm_mapHead hlength, .map hforms, rfl⟩
    | _ => exact spells_encode_leaf h nofun nofun

/-- A value that fits under `maxDepth` is what its bytes stand for. -/
theorem Value.ofBytes?_encode (h : v.Writable maxDepth) : Value.ofBytes? v.encode = some v := by
  have hread := Value.ofBytes?_of_spells (spells_encode h) []
  rwa [List.append_nil] at hread

/-! ## Values that can be written -/

/-- Whether the format has room for a text. -/
def TextFits (s : String) : Prop := (Text.Utf8.encode s).length < Value.sizeBound

instance (s : String) : Decidable (TextFits s) := inferInstanceAs (Decidable (_ < _))

/-- Whether the format has room for a list of texts. -/
def TextsFit (texts : List String) : Prop :=
  texts.length < Value.sizeBound ∧ ∀ s ∈ texts, TextFits s

instance (texts : List String) : Decidable (TextsFit texts) :=
  inferInstanceAs (Decidable (_ ∧ _))

namespace Value

theorem writable_text {s : String} (h : TextFits s) : (text s).Writable depth := h

theorem writable_list {α : Type} {item : α → Value} {as : List α} (hlength : as.length < sizeBound)
    (h : ∀ a ∈ as, (item a).Writable depth) : (list item as).Writable (depth + 1) := by
  refine ⟨Nat.succ_pos depth, by rwa [List.length_map], writableItems_iff.mpr fun v hv => ?_⟩
  obtain ⟨a, ha, rfl⟩ := List.mem_map.mp hv
  exact h a ha

theorem writable_texts {texts : List String} (h : TextsFit texts) :
    (list text texts).Writable (depth + 1) :=
  writable_list h.1 fun s hs => writable_text (h.2 s hs)

theorem writable_map (hlength : entries.length < sizeBound)
    (h : ∀ entry ∈ entries, entry.1.Writable depth ∧ entry.2.Writable depth) :
    (Value.map entries).Writable (depth + 1) :=
  ⟨Nat.succ_pos depth, hlength, writableEntries_iff.mpr h⟩

theorem writable_record {fields : List (String × Value)} (hnames : TextsFit (fields.map (·.1)))
    (h : ∀ field ∈ fields, field.2.Writable depth) : (record fields).Writable (depth + 1) := by
  obtain ⟨hlength, htexts⟩ := hnames
  rw [List.length_map] at hlength
  refine writable_map (by rwa [List.length_map]) fun entry hentry => ?_
  obtain ⟨field, hfield, rfl⟩ := List.mem_map.mp hentry
  have hname : TextFits field.1 := htexts field.1 (List.mem_map_of_mem hfield)
  exact ⟨writable_text hname, h field hfield⟩

theorem writable_optional {α : Type} {value : α → Value} {a? : Option α}
    (h : ∀ a ∈ a?, (value a).Writable depth) : (optional value a?).Writable depth := by
  cases a? with
  | none => trivial
  | some a => exact h a rfl

end Value

/-! ## Sizes -/

namespace Value

theorem encode_ne_nil (v : Value) : v.encode ≠ [] := by
  cases v with
  | nil => simp [encode]
  | bool b => cases b <;> simp [encode]
  | uint n => grind [encode, uintBytes, tagged]
  | sint i => grind [encode, sintBytes, tagged]
  | float width bits => simp [encode, tagged]
  | str bytes => grind [encode, strHead, tagged]
  | bin bytes => grind [encode, binHead, tagged]
  | ext tag bytes => simp [encode]
  | array items => grind [encode, arrayHead, tagged]
  | map entries => grind [encode, mapHead, tagged]

theorem length_le_encodeItems (items : List Value) :
    items.length ≤ (encodeItems items).length := by
  induction items with
  | nil => exact Nat.le_refl 0
  | cons v items ih =>
    have hpos := List.length_pos_iff.mpr (encode_ne_nil v)
    rw [encodeItems, List.length_append, List.length_cons]
    omega

theorem length_le_encodeEntries (entries : List (Value × Value)) :
    entries.length ≤ (encodeEntries entries).length := by
  induction entries with
  | nil => exact Nat.le_refl 0
  | cons entry entries ih =>
    obtain ⟨key, value⟩ := entry
    have hpos := List.length_pos_iff.mpr (encode_ne_nil key)
    rw [encodeEntries, List.length_append, List.length_append, List.length_cons]
    omega

theorem length_encode_le_items (h : v ∈ items) :
    v.encode.length ≤ (encodeItems items).length := by
  induction items with
  | nil => contradiction
  | cons first items ih =>
    rw [encodeItems, List.length_append]
    rcases List.mem_cons.mp h with rfl | hlater
    · exact Nat.le_add_right _ _
    · exact Nat.le_add_left_of_le (ih hlater)

theorem length_encode_le_entries {entry : Value × Value} (h : entry ∈ entries) :
    entry.1.encode.length + entry.2.encode.length ≤ (encodeEntries entries).length := by
  induction entries with
  | nil => contradiction
  | cons first entries ih =>
    obtain ⟨key, value⟩ := first
    rw [encodeEntries, List.length_append, List.length_append]
    rcases List.mem_cons.mp h with rfl | hlater
    · exact Nat.le_add_right _ _
    · exact Nat.le_add_left_of_le (ih hlater)

/-- Whether nothing but the number of its bytes can keep the value from being written. -/
def LimitedBySize (depth : Nat) (v : Value) : Prop :=
  v.encode.length < sizeBound → v.Writable depth

theorem limitedBySize_nil (depth : Nat) : LimitedBySize depth .nil := fun _ => trivial

theorem limitedBySize_uint (h : n < wordCount 8) : LimitedBySize depth (.uint n) := fun _ => h

theorem limitedBySize_str (bytes : Bytes) : LimitedBySize depth (.str bytes) := by
  intro hsize
  rw [encode, List.length_append] at hsize
  have hlength : bytes.length < sizeBound := by omega
  exact hlength

theorem limitedBySize_array (h : ∀ v ∈ items, LimitedBySize depth v) :
    LimitedBySize (depth + 1) (.array items) := by
  intro hsize
  rw [encode, List.length_append] at hsize
  have hcount := length_le_encodeItems items
  refine ⟨Nat.succ_pos depth, by omega, writableItems_iff.mpr fun v hv => h v hv ?_⟩
  have hitem := length_encode_le_items hv
  omega

theorem limitedBySize_map
    (h : ∀ entry ∈ entries, LimitedBySize depth entry.1 ∧ LimitedBySize depth entry.2) :
    LimitedBySize (depth + 1) (.map entries) := by
  intro hsize
  rw [encode, List.length_append] at hsize
  have hcount := length_le_encodeEntries entries
  refine ⟨Nat.succ_pos depth, by omega, writableEntries_iff.mpr fun entry he => ?_⟩
  have hentry := length_encode_le_entries he
  exact ⟨(h entry he).1 (by omega), (h entry he).2 (by omega)⟩

theorem limitedBySize_text (s : String) : LimitedBySize depth (text s) := limitedBySize_str _

theorem limitedBySize_list {α : Type} {item : α → Value} {as : List α}
    (h : ∀ a ∈ as, LimitedBySize depth (item a)) : LimitedBySize (depth + 1) (list item as) := by
  refine limitedBySize_array fun v hv => ?_
  obtain ⟨a, ha, rfl⟩ := List.mem_map.mp hv
  exact h a ha

theorem limitedBySize_record {fields : List (String × Value)}
    (h : ∀ field ∈ fields, LimitedBySize depth field.2) :
    LimitedBySize (depth + 1) (record fields) := by
  refine limitedBySize_map fun entry he => ?_
  obtain ⟨field, hfield, rfl⟩ := List.mem_map.mp he
  exact ⟨limitedBySize_text field.1, h field hfield⟩

theorem limitedBySize_optional {α : Type} {value : α → Value} {a? : Option α}
    (h : ∀ a ∈ a?, LimitedBySize depth (value a)) : LimitedBySize depth (optional value a?) := by
  cases a? with
  | none => exact limitedBySize_nil depth
  | some a => exact h a rfl

end Value

end StressBatch.Msgpack
