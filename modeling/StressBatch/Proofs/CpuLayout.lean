import Mathlib
import StressBatch.CpuLayout

/-!
# The CPU layout as a finite set

A layout is determined by its capacity and its held ids. Acquiring adds ids to the held ones and
giving back takes them away, so a layout whose held ids are made up of several lists can give back
any of these lists, and doing so leaves the others.
-/

namespace StressBatch.CpuLayout

variable {layout : CpuLayout}

/-! ## Held and free ids -/

theorem isHeld_eq_true_iff {id : Nat} : layout.isHeld id = true ↔ layout.held[id]? = some true := by
  unfold isHeld
  cases layout.held[id]? <;> simp

theorem isFree_eq_true_iff {id : Nat} :
    layout.isFree id = true ↔ layout.held[id]? = some false := by
  simp [isFree]

theorem lt_capacity_of_held {id : Nat} {b : Bool} (h : layout.held[id]? = some b) :
    id < layout.capacity := by
  obtain ⟨hlt, -⟩ := List.getElem?_eq_some_iff.mp h
  exact hlt

theorem mem_busy {id : Nat} : id ∈ layout.busy ↔ layout.held[id]? = some true := by
  unfold busy
  rw [List.mem_filter, List.mem_range, isHeld_eq_true_iff]
  exact ⟨fun h => h.2, fun h => ⟨lt_capacity_of_held h, h⟩⟩

theorem mem_free {id : Nat} : id ∈ layout.free ↔ layout.held[id]? = some false := by
  unfold free
  rw [List.mem_filter, List.mem_range, isFree_eq_true_iff]
  exact ⟨fun h => h.2, fun h => ⟨lt_capacity_of_held h, h⟩⟩

theorem busy_ascending (layout : CpuLayout) : layout.busy.Pairwise (· < ·) :=
  List.pairwise_lt_range.filter _

theorem free_ascending (layout : CpuLayout) : layout.free.Pairwise (· < ·) :=
  List.pairwise_lt_range.filter _

theorem nodup_busy (layout : CpuLayout) : layout.busy.Nodup :=
  (busy_ascending layout).imp fun h => Nat.ne_of_lt h

theorem lt_capacity_of_mem_busy {id : Nat} (h : id ∈ layout.busy) : id < layout.capacity :=
  lt_capacity_of_held (mem_busy.mp h)

/-- The count of free ids is the length of their list. -/
theorem length_free (layout : CpuLayout) : layout.free.length = layout.available := by
  have hmap : layout.held =
      (List.range layout.capacity).map fun id => layout.held[id]?.getD true := by
    refine List.ext_getElem? fun id => ?_
    rw [List.getElem?_map]
    by_cases h : id < layout.held.length <;> simp [capacity, h]
  have hcount : layout.available =
      (List.range layout.capacity).countP fun id => layout.held[id]?.getD true == false := by
    conv_lhs => rw [available, hmap, List.countP_map]
    rfl
  rw [hcount, free, ← List.countP_eq_length_filter]
  refine List.countP_congr fun id _ => ?_
  unfold isFree
  cases layout.held[id]? <;> simp

/-- Every id is either held or free. -/
theorem length_busy_add_available (layout : CpuLayout) :
    layout.busy.length + layout.available = layout.capacity := by
  rw [← length_free, busy, free, ← List.countP_eq_length_filter, ← List.countP_eq_length_filter]
  have hfree : (List.range layout.capacity).countP layout.isFree =
      (List.range layout.capacity).countP fun id => !layout.isHeld id := by
    refine List.countP_congr fun id hid => ?_
    have hlt : id < layout.held.length := List.mem_range.mp hid
    simp [isFree, isHeld, hlt]
  have hsplit := List.length_eq_countP_add_countP layout.isHeld (l := List.range layout.capacity)
  simp only [List.length_range, Bool.not_eq_true, Bool.decide_eq_false] at hsplit
  rw [hfree, ← hsplit]

/-- A layout is idle if no id is held. -/
theorem isIdle_iff : layout.isIdle = true ↔ layout.busy = [] := by
  have h := length_busy_add_available layout
  rw [isIdle, beq_iff_eq, ← List.length_eq_zero_iff]
  omega

/-- The capacity and the held ids determine a layout. -/
theorem eq_of_perm {other : CpuLayout} (hcap : layout.capacity = other.capacity)
    (hbusy : layout.busy.Perm other.busy) : layout = other := by
  have hget : ∀ id : Nat, layout.held[id]? = other.held[id]? := by
    intro id
    have hmem : layout.held[id]? = some true ↔ other.held[id]? = some true := by
      rw [← mem_busy, ← mem_busy, hbusy.mem_iff]
    unfold capacity at hcap
    by_cases hlt : id < layout.held.length
    · have hlt' : id < other.held.length := by omega
      rw [List.getElem?_eq_getElem hlt, List.getElem?_eq_getElem hlt'] at hmem ⊢
      cases hb : layout.held[id] <;> cases hc : other.held[id] <;> simp_all
    · rw [List.getElem?_eq_none (by omega), List.getElem?_eq_none (by omega)]
  cases layout
  cases other
  exact congrArg CpuLayout.mk (List.ext_getElem? hget)

/-- At first no id is held. -/
@[simp] theorem busy_ofCapacity (capacity : Nat) : (ofCapacity capacity).busy = [] := by
  refine List.eq_nil_iff_forall_not_mem.mpr fun id hid => ?_
  have hget := mem_busy.mp hid
  unfold ofCapacity at hget
  rw [List.getElem?_replicate] at hget
  split at hget <;> simp at hget

/-- An idle layout is the one that all ids were free in at first. -/
theorem eq_ofCapacity_of_isIdle (h : layout.isIdle = true) :
    layout = .ofCapacity layout.capacity := by
  refine eq_of_perm (by simp) ?_
  rw [isIdle_iff.mp h, busy_ofCapacity]

/-! ## Acquiring -/

@[simp] theorem capacity_hold (layout : CpuLayout) (ids : List Nat) :
    (layout.hold ids).capacity = layout.capacity := by
  have hlen : ∀ (ids : List Nat) (held : List Bool),
      (ids.foldl (fun held id => held.set id true) held).length = held.length := by
    intro ids
    induction ids with
    | nil => intro held; rfl
    | cons id ids ih => intro held; rw [List.foldl_cons, ih, List.length_set]
  exact hlen ids layout.held

theorem mem_busy_hold {ids : List Nat} (hids : ∀ id ∈ ids, id < layout.capacity) {id : Nat} :
    id ∈ (layout.hold ids).busy ↔ id ∈ ids ∨ id ∈ layout.busy := by
  induction ids generalizing layout with
  | nil => simp [hold]
  | cons i ids ih =>
    have hi : i < layout.held.length := hids i List.mem_cons_self
    have hstep : layout.hold (i :: ids) = (⟨layout.held.set i true⟩ : CpuLayout).hold ids := rfl
    have hset : id ∈ (⟨layout.held.set i true⟩ : CpuLayout).busy ↔ id = i ∨ id ∈ layout.busy := by
      rw [mem_busy, mem_busy, List.getElem?_set]
      by_cases h : i = id
      · subst h; simp [hi]
      · simp [h, Ne.symm h]
    rw [hstep, ih, hset, List.mem_cons]
    · tauto
    · intro j hj
      have := hids j (List.mem_cons_of_mem i hj)
      simpa [capacity] using this

/-- What acquiring `n` ids comes to: the ids are ascending and were free, and they are held besides
all others from then on. -/
structure Acquired (layout : CpuLayout) (n : Nat) (ids : List Nat) (after : CpuLayout) : Prop where
  ascending : ids.Pairwise (· < ·)
  length_eq : ids.length = n
  capacity_eq : after.capacity = layout.capacity
  busy_perm : after.busy.Perm (ids ++ layout.busy)

theorem acquired_of_tryAcquire {n : Nat} {ids : List Nat} {after : CpuLayout}
    (h : layout.tryAcquire n = some (ids, after)) : Acquired layout n ids after := by
  unfold tryAcquire at h
  split at h
  · next hn =>
    obtain ⟨rfl, rfl⟩ := Prod.mk.inj (Option.some.inj h)
    have hfree : ∀ id ∈ layout.free.take n, layout.held[id]? = some false := fun id hid =>
      mem_free.mp (List.mem_of_mem_take hid)
    have hlt : ∀ id ∈ layout.free.take n, id < layout.capacity := fun id hid =>
      lt_capacity_of_held (hfree id hid)
    have hasc : (layout.free.take n).Pairwise (· < ·) :=
      (free_ascending layout).sublist (List.take_sublist n _)
    refine ⟨hasc, ?_, capacity_hold _ _, ?_⟩
    · rw [List.length_take, length_free]
      omega
    · refine (List.perm_ext_iff_of_nodup (nodup_busy _) ?_).mpr fun id => ?_
      · refine List.nodup_append.mpr ⟨hasc.imp fun h => Nat.ne_of_lt h, nodup_busy layout, ?_⟩
        rintro a ha b hb rfl
        have hheld := mem_busy.mp hb
        rw [hfree a ha] at hheld
        simp at hheld
      · rw [mem_busy_hold hlt, List.mem_append]
  · simp at h

/-- Acquiring takes the lowest free ids: they are free, and every other free id is above them. -/
theorem lowest_of_tryAcquire {n : Nat} {ids : List Nat} {after : CpuLayout}
    (h : layout.tryAcquire n = some (ids, after)) :
    (∀ id ∈ ids, id ∈ layout.free) ∧ ∀ id ∈ layout.free, id ∉ ids → ∀ low ∈ ids, low < id := by
  unfold tryAcquire at h
  split at h
  · obtain ⟨rfl, -⟩ := Prod.mk.inj (Option.some.inj h)
    refine ⟨fun id hid => List.mem_of_mem_take hid, fun id hid hother low hlow => ?_⟩
    have hasc := free_ascending layout
    rw [← List.take_append_drop n layout.free] at hasc hid
    rcases List.mem_append.mp hid with htaken | hleft
    · exact absurd htaken hother
    · exact (List.pairwise_append.mp hasc).2.2 low hlow id hleft
  · contradiction

theorem tryAcquire_eq_none_iff {n : Nat} :
    layout.tryAcquire n = none ↔ layout.available < n := by
  unfold tryAcquire
  split <;> simp <;> omega

theorem tryAcquire_isSome_iff {n : Nat} :
    (layout.tryAcquire n).isSome = true ↔ n ≤ layout.available := by
  unfold tryAcquire
  split <;> simp [*]

/-- The free ids of a layout with no id held are all ids. -/
theorem free_of_isIdle (h : layout.isIdle = true) : layout.free = List.range layout.capacity := by
  have hlength : layout.free.length = (List.range layout.capacity).length := by
    rw [length_free, List.length_range]
    exact beq_iff_eq.mp h
  exact List.filter_sublist.eq_of_length hlength

/-- When no id is held any number of ids can be taken, lowest first. -/
theorem tryAcquire_of_isIdle (h : layout.isIdle = true) {n : Nat} (hn : n ≤ layout.capacity) :
    layout.tryAcquire n = some (List.range n, layout.hold (List.range n)) := by
  have havailable : layout.available = layout.capacity := beq_iff_eq.mp h
  have htake : layout.free.take n = List.range n := by
    rw [free_of_isIdle h, List.take_range, min_eq_left hn]
  unfold tryAcquire
  rw [if_pos (havailable ▸ hn), htake]

/-! ## Giving back -/

theorem busy_set_false {id : Nat} {rest : List Nat} (h : layout.busy.Perm (id :: rest)) :
    (⟨layout.held.set id false⟩ : CpuLayout).busy.Perm rest := by
  have hnodup : (id :: rest).Nodup := h.nodup_iff.mp (nodup_busy layout)
  obtain ⟨hid, hrest⟩ := List.nodup_cons.mp hnodup
  refine (List.perm_ext_iff_of_nodup (nodup_busy _) hrest).mpr fun j => ?_
  have hj : j ∈ layout.busy ↔ j = id ∨ j ∈ rest := by rw [h.mem_iff, List.mem_cons]
  rw [mem_busy] at hj ⊢
  rw [List.getElem?_set]
  by_cases hji : id = j
  · subst hji
    simp [hid]
  · simp only [hji, if_false]
    rw [hj]
    exact ⟨fun hor => hor.resolve_left fun e => hji e.symm, Or.inr⟩

/-- Ids that are held can be given back, and the others stay held. -/
theorem release_of_perm {ids rest : List Nat} (h : layout.busy.Perm (ids ++ rest)) :
    ∃ after, layout.release ids = (none, after) ∧ after.capacity = layout.capacity ∧
      after.busy.Perm rest := by
  induction ids generalizing layout with
  | nil => exact ⟨layout, rfl, rfl, h⟩
  | cons id ids ih =>
    have hheld : layout.held[id]? = some true := by
      rw [← mem_busy, h.mem_iff]
      exact List.mem_append_left rest List.mem_cons_self
    have hone : layout.releaseOne id = .ok ⟨layout.held.set id false⟩ := by
      unfold releaseOne
      rw [hheld]
    obtain ⟨after, hafter, hcap, hbusy⟩ := ih (busy_set_false h)
    refine ⟨after, ?_, ?_, hbusy⟩
    · rw [release, hone]
      exact hafter
    · rw [hcap]
      simp [capacity]

theorem perm_of_release {ids rest : List Nat} {after : CpuLayout}
    (hperm : layout.busy.Perm (ids ++ rest)) (h : layout.release ids = (none, after)) :
    after.capacity = layout.capacity ∧ after.busy.Perm rest := by
  obtain ⟨found, hfound, hcap, hbusy⟩ := release_of_perm hperm
  obtain rfl : found = after := congrArg Prod.snd (hfound.symm.trans h)
  exact ⟨hcap, hbusy⟩

/-- What has just been acquired can be given back, and that restores the layout. -/
theorem Acquired.release {n : Nat} {ids : List Nat} {after : CpuLayout}
    (h : Acquired layout n ids after) : after.release ids = (none, layout) := by
  obtain ⟨restored, hrelease, hcap, hbusy⟩ := release_of_perm h.busy_perm
  rw [hrelease, eq_of_perm (hcap.trans h.capacity_eq) hbusy]

theorem release_append {ids more : List Nat} {between : CpuLayout}
    (h : layout.release ids = (none, between)) :
    layout.release (ids ++ more) = between.release more := by
  induction ids generalizing layout with
  | nil =>
    obtain ⟨-, rfl⟩ := Prod.mk.inj h
    rfl
  | cons id ids ih =>
    rw [List.cons_append, CpuLayout.release]
    rw [CpuLayout.release] at h
    cases hone : layout.releaseOne id with
    | ok next =>
      rw [hone] at h
      exact ih h
    | error fault =>
      rw [hone] at h
      simp at h

/-- Lists that can be given back together can be given back one after the other. -/
theorem exists_release_of_append {ids more : List Nat} {after : CpuLayout}
    (h : layout.release (ids ++ more) = (none, after)) :
    ∃ between, layout.release ids = (none, between) ∧ between.release more = (none, after) := by
  cases hids : layout.release ids with
  | mk fault between =>
    cases fault with
    | none => exact ⟨between, rfl, by rw [← release_append hids, h]⟩
    | some fault =>
      exfalso
      induction ids generalizing layout with
      | nil => simp at hids
      | cons id ids ih =>
        rw [List.cons_append, CpuLayout.release] at h
        rw [CpuLayout.release] at hids
        cases hone : layout.releaseOne id with
        | ok next =>
          rw [hone] at h hids
          exact ih h hids
        | error fault =>
          rw [hone] at h
          simp at h

end StressBatch.CpuLayout
