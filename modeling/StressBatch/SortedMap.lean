/-!
# Maps sorted by key

Finite maps from texts, kept as a list of entries in strictly ascending key order. The order of
texts is that of their characters' code points, which is also the order of their UTF-8 bytes.
Because the representation is unique, two maps with the same entries are equal.
-/

namespace StressBatch

/-- Entries ordered by strictly ascending key. -/
def Ascending {α : Type} (entries : List (String × α)) : Prop :=
  entries.Pairwise fun a b => a.1 < b.1

/-- A finite map from texts. -/
structure SortedMap (α : Type) where
  /-- The entries, by ascending key. -/
  entries : List (String × α)
  /-- No key comes twice, and a smaller key comes first. -/
  ascending : Ascending entries

namespace SortedMap

variable {α : Type}

instance [DecidableEq α] : DecidableEq (SortedMap α) := fun m n =>
  decidable_of_iff (m.entries = n.entries)
    ⟨fun h => by cases m; cases n; simp_all, fun h => by rw [h]⟩

instance [Repr α] : Repr (SortedMap α) := ⟨fun m p => reprPrec m.entries p⟩

@[ext] theorem ext {m n : SortedMap α} (h : m.entries = n.entries) : m = n := by
  cases m; cases n; simp_all

/-- The map without entries. -/
def empty : SortedMap α := ⟨[], List.Pairwise.nil⟩

instance : Inhabited (SortedMap α) := ⟨empty⟩

instance : EmptyCollection (SortedMap α) := ⟨empty⟩

/-- Changes the entry of `key` in an ascending list by `f`, which is given the old value. -/
def alterEntries (key : String) (f : Option α → α) : List (String × α) → List (String × α)
  | [] => [(key, f none)]
  | (k, a) :: rest =>
    if key < k then (key, f none) :: (k, a) :: rest
    else if key = k then (key, f (some a)) :: rest
    else (k, a) :: alterEntries key f rest

theorem mem_alterEntries {key : String} {f : Option α → α} {entries : List (String × α)}
    {e : String × α} (h : e ∈ alterEntries key f entries) : e.1 = key ∨ e ∈ entries := by
  induction entries with
  | nil => simp_all [alterEntries]
  | cons hd tl ih => grind [alterEntries]

theorem alterEntries_ascending (key : String) (f : Option α → α) {entries : List (String × α)}
    (h : Ascending entries) : Ascending (alterEntries key f entries) := by
  induction entries with
  | nil => simp [alterEntries, Ascending]
  | cons hd tl ih =>
    obtain ⟨k, a⟩ := hd
    obtain ⟨hk, ht⟩ := List.pairwise_cons.1 h
    unfold alterEntries
    split
    · next hlt =>
      refine List.pairwise_cons.2 ⟨fun b hb => ?_, h⟩
      rcases List.mem_cons.1 hb with rfl | hb
      · exact hlt
      · exact String.lt_trans hlt (hk b hb)
    · next hlt =>
      split
      · next heq => subst heq; exact List.pairwise_cons.2 ⟨fun b hb => hk b hb, ht⟩
      · next hne =>
        refine List.pairwise_cons.2 ⟨fun b hb => ?_, ih ht⟩
        rcases mem_alterEntries hb with hb | hb
        · rw [hb]
          exact Decidable.byContradiction fun hge =>
            hne (String.le_antisymm (String.not_lt.1 hge) (String.not_lt.1 hlt))
        · exact hk b hb

/-- Changes the value of `key` by `f`, which is given the old value if there is one. -/
def alter (m : SortedMap α) (key : String) (f : Option α → α) : SortedMap α :=
  ⟨alterEntries key f m.entries, alterEntries_ascending key f m.ascending⟩

/-- Sets the value of `key`; an older one is lost. -/
def insert (m : SortedMap α) (key : String) (value : α) : SortedMap α :=
  m.alter key fun _ => value

/-- The value of `key`. -/
def get? (m : SortedMap α) (key : String) : Option α :=
  (m.entries.find? fun e => e.1 = key).map (·.2)

/-- The keys, ascending. -/
def keys (m : SortedMap α) : List String :=
  m.entries.map (·.1)

/-- The values, by ascending key. -/
def values (m : SortedMap α) : List α :=
  m.entries.map (·.2)

/-- The number of keys. -/
def size (m : SortedMap α) : Nat :=
  m.entries.length

/-- The map of a list of entries; of two with one key the later counts. -/
def ofList (entries : List (String × α)) : SortedMap α :=
  entries.foldl (fun m e => m.insert e.1 e.2) empty

@[simp] theorem entries_empty : (empty : SortedMap α).entries = [] := rfl

@[simp] theorem keys_empty : (empty : SortedMap α).keys = [] := rfl

end SortedMap

end StressBatch
