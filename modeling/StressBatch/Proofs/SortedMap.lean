import Mathlib.Algebra.Ring.Nat
import Mathlib.Data.List.Nodup
import StressBatch.Proofs.Text.Utf8
import StressBatch.SortedMap

/-!
# Maps and their entries

The entries of a map make up that very map: they come in ascending order, so each one is entered
behind those before it. No key comes twice, so that a map is known by the value of each key.
-/

namespace StressBatch.SortedMap

variable {α : Type} {entries : List (String × α)} {key : String}

theorem alterEntries_of_greater (f : Option α → α) (h : ∀ e ∈ entries, e.1 < key) :
    alterEntries key f entries = entries ++ [(key, f none)] := by
  induction entries with
  | nil => rfl
  | cons e entries ih =>
    obtain ⟨k, a⟩ := e
    have hlt : k < key := h (k, a) List.mem_cons_self
    have hnotBefore : ¬key < k := String.lt_asymm hlt
    have hne : key ≠ k := by
      rintro rfl
      exact String.lt_irrefl key hlt
    rw [alterEntries, if_neg hnotBefore, if_neg hne,
      ih fun other hother => h other (List.mem_cons_of_mem _ hother), List.cons_append]

theorem entries_foldl_insert (m : SortedMap α) (h : Ascending (m.entries ++ entries)) :
    (entries.foldl (fun m e => m.insert e.1 e.2) m).entries = m.entries ++ entries := by
  induction entries generalizing m with
  | nil => simp
  | cons e entries ih =>
    have hbefore : ∀ other ∈ m.entries, other.1 < e.1 := fun other hother =>
      (List.pairwise_append.mp h).2.2 other hother e List.mem_cons_self
    have hinsert : (m.insert e.1 e.2).entries = m.entries ++ [e] :=
      alterEntries_of_greater (fun _ => e.2) hbefore
    have hsame : m.entries ++ e :: entries = (m.insert e.1 e.2).entries ++ entries := by
      rw [hinsert, List.append_assoc, List.singleton_append]
    rw [List.foldl_cons, ih _ (hsame ▸ h), hsame]

/-- No key comes twice. -/
theorem nodup_keys (m : SortedMap α) : m.keys.Nodup := by
  unfold keys List.Nodup
  rw [List.pairwise_map]
  refine m.ascending.imp fun hlt heq => ?_
  rw [heq] at hlt
  exact String.lt_irrefl _ hlt

/-- A map is the map of its entries. -/
theorem ofList_entries (m : SortedMap α) : ofList m.entries = m := by
  have h := entries_foldl_insert empty m.ascending
  exact ext h

/-! ## Changing one value -/

theorem mem_map_fst_alterEntries {f : Option α → α} {k : String} :
    k ∈ (alterEntries key f entries).map (·.1) ↔ k = key ∨ k ∈ entries.map (·.1) := by
  induction entries with
  | nil => simp [alterEntries]
  | cons e entries ih =>
    obtain ⟨first, a⟩ := e
    unfold alterEntries
    split
    · simp
    · split
      · next hsame => simp [hsame]
      · rw [List.map_cons, List.mem_cons, ih, List.map_cons, List.mem_cons]
        exact or_left_comm

/-- Changing the value of a key brings in that key and no other. -/
theorem mem_keys_alter (m : SortedMap α) (f : Option α → α) {k : String} :
    k ∈ (m.alter key f).keys ↔ k = key ∨ k ∈ m.keys :=
  mem_map_fst_alterEntries

theorem sum_alterEntries_add {entries : List (String × Nat)} (n : Nat) :
    ((alterEntries key (fun old => old.getD 0 + n) entries).map (·.2)).sum =
      (entries.map (·.2)).sum + n := by
  induction entries with
  | nil => simp [alterEntries]
  | cons e entries ih =>
    obtain ⟨first, a⟩ := e
    unfold alterEntries
    split
    · simp only [Option.getD_none, Nat.zero_add, List.map_cons, List.sum_cons]
      omega
    · split
      · simp only [Option.getD_some, List.map_cons, List.sum_cons]
        omega
      · simp only [List.map_cons, List.sum_cons, ih]
        omega

/-- Adding to the value of a key adds to the sum of all values. -/
theorem sum_values_alter_add (m : SortedMap Nat) (n : Nat) :
    (m.alter key fun old => old.getD 0 + n).values.sum = m.values.sum + n :=
  sum_alterEntries_add n

/-! ## Looking a key up -/

theorem mem_entries_iff {m : SortedMap α} {k : String} {a : α} :
    (k, a) ∈ m.entries ↔ m.get? k = some a := by
  have hnodup : (m.entries.map (·.1)).Nodup := m.nodup_keys
  unfold get?
  constructor
  · intro hmem
    cases hfind : m.entries.find? fun e => e.1 = k with
    | none => simpa using List.find?_eq_none.mp hfind (k, a) hmem
    | some e =>
      have hkey : e.1 = k := by simpa using List.find?_some hfind
      have hentry : e = (k, a) :=
        List.inj_on_of_nodup_map hnodup (List.mem_of_find?_eq_some hfind) hmem hkey
      rw [hentry, Option.map_some]
  · intro hvalue
    obtain ⟨e, hfind, hsnd⟩ := Option.map_eq_some_iff.mp hvalue
    have hkey : e.1 = k := by simpa using List.find?_some hfind
    rw [← hkey, ← hsnd]
    exact List.mem_of_find?_eq_some hfind

/-- Maps in which every key has the same value are equal. -/
theorem eq_of_get?_eq {m n : SortedMap α} (h : ∀ k, m.get? k = n.get? k) : m = n := by
  have hmem : ∀ e, e ∈ m.entries ↔ e ∈ n.entries := fun ⟨k, a⟩ => by
    rw [mem_entries_iff, mem_entries_iff, h]
  have hperm : m.entries.Perm n.entries :=
    (List.perm_ext_iff_of_nodup (List.Nodup.of_map _ m.nodup_keys)
      (List.Nodup.of_map _ n.nodup_keys)).mpr hmem
  refine ext (hperm.eq_of_pairwise ?_ m.ascending n.ascending)
  intro a b _ _ hlt hgt
  exact absurd hgt (String.lt_asymm hlt)

theorem isSome_get?_iff {m : SortedMap α} {k : String} : (m.get? k).isSome ↔ k ∈ m.keys := by
  unfold get? keys
  rw [Option.isSome_map, List.find?_isSome, List.mem_map]
  simp

theorem find?_alterEntries (f : Option α → α) (h : Ascending entries) (k : String) :
    ((alterEntries key f entries).find? fun e => e.1 = k).map (·.2) =
      if k = key then some (f ((entries.find? fun e => e.1 = key).map (·.2)))
      else (entries.find? fun e => e.1 = k).map (·.2) := by
  induction entries with
  | nil =>
    by_cases hk : k = key
    · simp [alterEntries, hk]
    · simp [alterEntries, hk, Ne.symm hk]
  | cons e entries ih =>
    obtain ⟨first, a⟩ := e
    obtain ⟨hfirst, hrest⟩ := List.pairwise_cons.mp h
    unfold alterEntries
    by_cases hbefore : key < first
    · -- the key is new: the entries start behind it
      have habsent : ((first, a) :: entries).find? (fun e => e.1 = key) = none := by
        refine List.find?_eq_none.mpr fun e he => ?_
        have hlt : key < e.1 := by
          rcases List.mem_cons.mp he with rfl | he
          · exact hbefore
          · exact String.lt_trans hbefore (hfirst e he)
        simpa using fun heq : e.1 = key => String.lt_irrefl key (heq ▸ hlt)
      rw [if_pos hbefore, habsent]
      by_cases hk : k = key
      · simp [hk]
      · simp [hk, Ne.symm hk]
    · by_cases hsame : key = first
      · subst hsame
        rw [if_neg hbefore, if_pos rfl]
        by_cases hk : k = key
        · simp [hk]
        · simp [hk, Ne.symm hk]
      · rw [if_neg hbefore, if_neg hsame]
        by_cases hk : k = first
        · have hother : first ≠ key := Ne.symm hsame
          simp [hk, hother]
        · have hskip : ¬first = k := Ne.symm hk
          have hskipKey : ¬first = key := Ne.symm hsame
          simpa [hskip, hskipKey] using ih hrest

/-- Changing the value of a key changes what is found under that key and under no other. -/
theorem get?_alter (m : SortedMap α) (f : Option α → α) (k : String) :
    (m.alter key f).get? k = if k = key then some (f (m.get? key)) else m.get? k :=
  find?_alterEntries f m.ascending k

/-! ## The order of the keys -/

/-- The keys come in the order of their bytes. -/
theorem keys_ascending (m : SortedMap α) :
    m.keys.Pairwise fun a b => Text.Utf8.encode a < Text.Utf8.encode b := by
  unfold keys
  rw [List.pairwise_map]
  exact m.ascending.imp Text.Utf8.encode_lt_encode

end StressBatch.SortedMap
