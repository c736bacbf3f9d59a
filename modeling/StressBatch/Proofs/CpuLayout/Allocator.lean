import StressBatch.Panic
import StressBatch.Proofs.CpuLayout

/-!
# The CPU layout as an allocator

A layout under any sequence of calls, where a panic is caught and the layout is used further. What
the calls come back with, and which ids are held after them, is told by rules that speak of a set of
ids and of nothing else: `Serves` for one call, `Evolves` for a sequence. The rules leave no choice,
so a layout does exactly what they say.
-/

namespace StressBatch.CpuLayout

/-! ## Calls -/

/-- A call of a layout. -/
inductive Call where
  /-- Ids are asked for. -/
  | acquire (n : Nat)
  /-- Ids are given back. -/
  | release (ids : List Nat)
  deriving DecidableEq, Repr

/-- What a call comes back with. -/
inductive Answer where
  /-- The ids that have been taken, if there were enough. -/
  | acquired (ids : Option (List Nat))
  /-- All ids have been given back. -/
  | released
  /-- An id could not be given back. -/
  | panicked (panic : Panic)
  deriving DecidableEq, Repr

/-- The layout after a call, and what the call comes back with. -/
def call (layout : CpuLayout) : Call → CpuLayout × Answer
  | .acquire n =>
    match layout.tryAcquire n with
    | some (ids, after) => (after, .acquired (some ids))
    | none => (layout, .acquired none)
  | .release ids =>
    match layout.release ids with
    | (none, after) => (after, .released)
    | (some fault, after) => (after, .panicked ⟨fault.message after⟩)

/-- The layout after calls one after the other, whatever they come back with. -/
def history (layout : CpuLayout) : List Call → CpuLayout × List Answer
  | [] => (layout, [])
  | call :: calls =>
    let (next, answer) := layout.call call
    let (last, answers) := next.history calls
    (last, answer :: answers)

/-! ## Sets of held ids -/

section Sets

variable (capacity : Nat) (held : Finset Nat)

/-- The ids below the capacity that are not held. -/
def unheld : Finset Nat := Finset.range capacity \ held

/-- The `n` lowest ids that are not held, ascending. -/
def lowestUnheld (n : Nat) : List Nat := (unheld capacity held).sort.take n

/-- The map of a set of held ids: a mark for every id in it, a dot for every other. -/
def mapOf : String :=
  "[" ++ String.ofList ((List.range capacity).map fun id => if id ∈ held then '#' else '.') ++ "]"

/-- The panic over an id that is not held. -/
def refusalOf (id : Nat) : Panic :=
  if id < capacity then ⟨s!"releasing CPU {id} which is not held ({mapOf capacity held})"⟩
  else ⟨s!"releasing CPU {id} outside of layout ({mapOf capacity held})"⟩

end Sets

/-- What a call does to a set of held ids. -/
inductive Serves (capacity : Nat) : Finset Nat → Call → Answer → Finset Nat → Prop where
  /-- As many ids are free: the lowest of them are taken. -/
  | acquired {held : Finset Nat} {n : Nat} (hn : n ≤ (unheld capacity held).card) :
    Serves capacity held (.acquire n) (.acquired (some (lowestUnheld capacity held n)))
      (held ∪ (lowestUnheld capacity held n).toFinset)
  /-- Too few ids are free: nothing is taken. -/
  | exhausted {held : Finset Nat} {n : Nat} (hn : (unheld capacity held).card < n) :
    Serves capacity held (.acquire n) (.acquired none) held
  /-- No id is repeated and all are held: all are given back. -/
  | released {held : Finset Nat} {ids : List Nat} (hnodup : ids.Nodup)
      (hheld : ∀ id ∈ ids, id ∈ held) :
    Serves capacity held (.release ids) .released (held \ ids.toFinset)
  /-- There is a first id that is not held, or not any more: the ids before it are given back, and
  the panic shows the layout without them. -/
  | panicked {held : Finset Nat} {before more : List Nat} {id : Nat} (hnodup : before.Nodup)
      (hheld : ∀ other ∈ before, other ∈ held) (hid : id ∉ held \ before.toFinset) :
    Serves capacity held (.release (before ++ id :: more))
      (.panicked (refusalOf capacity (held \ before.toFinset) id)) (held \ before.toFinset)

/-- What a sequence of calls does to a set of held ids. -/
inductive Evolves (capacity : Nat) : Finset Nat → List Call → List Answer → Finset Nat → Prop where
  | nil {held : Finset Nat} : Evolves capacity held [] [] held
  | cons {held between after : Finset Nat} {call : Call} {answer : Answer} {calls : List Call}
      {answers : List Answer} (hcall : Serves capacity held call answer between)
      (hcalls : Evolves capacity between calls answers after) :
    Evolves capacity held (call :: calls) (answer :: answers) after

section Rules

variable {capacity : Nat} {held after other : Finset Nat}

/-- In a list that can be given back every id is still held when its turn comes. -/
theorem mem_of_front {front rest : List Nat} {id : Nat} (hnodup : (front ++ id :: rest).Nodup)
    (hheld : ∀ i ∈ front ++ id :: rest, i ∈ held) : id ∈ held \ front.toFinset := by
  have hmem : id ∈ held := hheld id (List.mem_append_right front List.mem_cons_self)
  have hfresh : id ∉ front := fun hfront =>
    (List.nodup_append.mp hnodup).2.2 id hfront id List.mem_cons_self rfl
  simp [hmem, hfresh]

/-- There is one first id that cannot be given back. -/
theorem eq_of_first_refused {before more before' more' : List Nat} {id id' : Nat}
    (hnodup : before.Nodup) (hheld : ∀ i ∈ before, i ∈ held) (hid : id ∉ held \ before.toFinset)
    (hnodup' : before'.Nodup) (hheld' : ∀ i ∈ before', i ∈ held)
    (hid' : id' ∉ held \ before'.toFinset)
    (h : before ++ id :: more = before' ++ id' :: more') : before = before' ∧ id = id' := by
  rcases List.append_eq_append_iff.mp h with ⟨middle, rfl, hrest⟩ | ⟨middle, rfl, hrest⟩
  · cases middle with
    | nil => exact ⟨(List.append_nil before).symm, (List.cons.inj hrest).1⟩
    | cons first middle =>
      obtain ⟨rfl, -⟩ := List.cons.inj hrest
      exact absurd (mem_of_front hnodup' hheld') hid
  · cases middle with
    | nil => exact ⟨List.append_nil before', (List.cons.inj hrest).1.symm⟩
    | cons first middle =>
      obtain ⟨rfl, -⟩ := List.cons.inj hrest
      exact absurd (mem_of_front hnodup hheld) hid'

/-- The rules leave no choice. -/
theorem Serves.unique {call : Call} {answer answer' : Answer}
    (h : Serves capacity held call answer after) (h' : Serves capacity held call answer' other) :
    answer = answer' ∧ after = other := by
  cases call with
  | acquire n =>
    cases h with
    | acquired hn =>
      cases h' with
      | acquired => exact ⟨rfl, rfl⟩
      | exhausted hn' => exact absurd hn (Nat.not_le.mpr hn')
    | exhausted hn =>
      cases h' with
      | acquired hn' => exact absurd hn' (Nat.not_le.mpr hn)
      | exhausted => exact ⟨rfl, rfl⟩
  | release ids =>
    generalize hids : ids = given at h'
    cases h with
    | released hnodup hheld =>
      cases h' with
      | released => exact ⟨rfl, by rw [hids]⟩
      | panicked hnodup' hheld' hid' =>
        subst hids
        exact absurd (mem_of_front hnodup hheld) hid'
    | panicked hnodup hheld hid =>
      cases h' with
      | released hnodup' hheld' =>
        subst hids
        exact absurd (mem_of_front hnodup' hheld') hid
      | panicked hnodup' hheld' hid' =>
        obtain ⟨rfl, rfl⟩ := eq_of_first_refused hnodup hheld hid hnodup' hheld' hid' hids
        exact ⟨rfl, rfl⟩

theorem Evolves.unique {calls : List Call} {answers answers' : List Answer}
    (h : Evolves capacity held calls answers after)
    (h' : Evolves capacity held calls answers' other) : answers = answers' ∧ after = other := by
  induction h generalizing answers' other with
  | nil =>
    cases h'
    exact ⟨rfl, rfl⟩
  | cons hcall _ ih =>
    cases h' with
    | cons hcall' hcalls' =>
      obtain ⟨rfl, rfl⟩ := hcall.unique hcall'
      obtain ⟨rfl, rfl⟩ := ih hcalls'
      exact ⟨rfl, rfl⟩

theorem Serves.nil : Serves capacity held (.release []) .released held := by
  have h : Serves capacity held (.release []) .released (held \ [].toFinset) :=
    .released List.nodup_nil (by simp)
  simpa using h

theorem Serves.refused {id : Nat} (hid : id ∉ held) (ids : List Nat) :
    Serves capacity held (.release (id :: ids)) (.panicked (refusalOf capacity held id)) held := by
  have h : Serves capacity held (.release ([] ++ id :: ids))
      (.panicked (refusalOf capacity (held \ [].toFinset) id)) (held \ [].toFinset) :=
    .panicked List.nodup_nil (by simp) (by simpa using hid)
  simpa using h

/-- Giving back one id more, in front. -/
theorem Serves.cons {id : Nat} {ids : List Nat} {answer : Answer} (hid : id ∈ held)
    (h : Serves capacity (held.erase id) (.release ids) answer after) :
    Serves capacity held (.release (id :: ids)) answer after := by
  have herase : ∀ ids : List Nat, held.erase id \ ids.toFinset = held \ (id :: ids).toFinset := by
    intro ids
    ext i
    simp only [Finset.mem_sdiff, Finset.mem_erase, List.toFinset_cons, Finset.mem_insert]
    tauto
  have hfront : ∀ {front : List Nat}, (∀ i ∈ front, i ∈ held.erase id) → front.Nodup →
      (id :: front).Nodup ∧ ∀ i ∈ id :: front, i ∈ held := by
    intro front hheld hnodup
    refine ⟨List.nodup_cons.mpr ⟨fun hmem => ?_, hnodup⟩, ?_⟩
    · exact Finset.notMem_erase id held (hheld id hmem)
    · exact List.forall_mem_cons.mpr ⟨hid, fun i hi => Finset.mem_of_mem_erase (hheld i hi)⟩
  cases h with
  | released hnodup hheld =>
    obtain ⟨hnodup, hheld⟩ := hfront hheld hnodup
    rw [herase]
    exact .released hnodup hheld
  | panicked hnodup hheld hrefused =>
    obtain ⟨hnodup, hheld⟩ := hfront hheld hnodup
    rw [herase] at hrefused ⊢
    exact .panicked hnodup hheld hrefused

theorem Serves.of_released {ids : List Nat}
    (h : Serves capacity held (.release ids) .released after) :
    ids.Nodup ∧ ∀ id ∈ ids, id ∈ held := by
  cases h with
  | released hnodup hheld => exact ⟨hnodup, hheld⟩

end Rules

/-! ## The layout follows the rules -/

section Layout

variable (layout : CpuLayout)

/-- The held ids as a set. -/
def heldIds : Finset Nat := layout.busy.toFinset

@[simp] theorem heldIds_ofCapacity (capacity : Nat) : (ofCapacity capacity).heldIds = ∅ := by
  simp [heldIds]

variable {layout} in
theorem mem_heldIds {id : Nat} : id ∈ layout.heldIds ↔ layout.held[id]? = some true := by
  rw [heldIds, List.mem_toFinset, mem_busy]

theorem heldIds_subset : layout.heldIds ⊆ Finset.range layout.capacity := by
  intro id hid
  exact Finset.mem_range.mpr (lt_capacity_of_held (mem_heldIds.mp hid))

theorem toFinset_free : layout.free.toFinset = unheld layout.capacity layout.heldIds := by
  ext id
  rw [List.mem_toFinset, mem_free, unheld, Finset.mem_sdiff, Finset.mem_range, mem_heldIds]
  constructor
  · intro hfree
    exact ⟨lt_capacity_of_held hfree, by simp [hfree]⟩
  · rintro ⟨hlt, hid⟩
    have hlt : id < layout.held.length := hlt
    simpa [hlt] using hid

theorem sort_unheld : (unheld layout.capacity layout.heldIds).sort = layout.free := by
  have hascending := free_ascending layout
  rw [← toFinset_free, List.toFinset_sort _ (hascending.imp fun h => Nat.ne_of_lt h)]
  exact hascending.imp fun h => Nat.le_of_lt h

theorem card_unheld : (unheld layout.capacity layout.heldIds).card = layout.available := by
  rw [← Finset.length_sort (· ≤ ·), sort_unheld, length_free]

theorem display_eq_mapOf : layout.display = mapOf layout.capacity layout.heldIds := by
  have hmap : (layout.held.map fun held => if held then '#' else '.') =
      (List.range layout.capacity).map fun id => if id ∈ layout.heldIds then '#' else '.' := by
    refine List.ext_getElem (by simp [capacity]) fun id hid _ => ?_
    have hlt : id < layout.held.length := by simpa using hid
    simp [mem_heldIds, hlt]
  rw [display, mapOf, hmap]

theorem serves_acquire (n : Nat) :
    Serves layout.capacity layout.heldIds (.acquire n) (layout.call (.acquire n)).2
      (layout.call (.acquire n)).1.heldIds := by
  cases hids : layout.tryAcquire n with
  | none =>
    have hfew : layout.available < n := tryAcquire_eq_none_iff.mp hids
    simp only [call, hids]
    exact .exhausted (by rwa [card_unheld])
  | some taken =>
    obtain ⟨ids, after⟩ := taken
    have henough : n ≤ layout.available := tryAcquire_isSome_iff.mp (by rw [hids]; rfl)
    have hlowest : ids = lowestUnheld layout.capacity layout.heldIds n := by
      rw [lowestUnheld, sort_unheld]
      unfold tryAcquire at hids
      rw [if_pos henough] at hids
      exact (congrArg Prod.fst (Option.some.inj hids)).symm
    have hheld : after.heldIds = layout.heldIds ∪ ids.toFinset := by
      rw [heldIds, List.toFinset_eq_of_perm _ _ (acquired_of_tryAcquire hids).busy_perm,
        List.toFinset_append, Finset.union_comm, heldIds]
    simp only [call, hids]
    rw [hheld, hlowest]
    exact .acquired (by rwa [card_unheld])

variable {layout}

theorem call_release_of_ok {next : CpuLayout} {id : Nat} (h : layout.releaseOne id = .ok next)
    (ids : List Nat) : layout.call (.release (id :: ids)) = next.call (.release ids) := by
  simp only [call, release, h]

theorem call_release_of_error {fault : ReleaseFault} {id : Nat}
    (h : layout.releaseOne id = .error fault) (ids : List Nat) :
    layout.call (.release (id :: ids)) = (layout, .panicked ⟨fault.message layout⟩) := by
  simp only [call, release, h]

theorem releaseOne_of_mem {id : Nat} (h : id ∈ layout.heldIds) :
    ∃ next, layout.releaseOne id = .ok next ∧ next.capacity = layout.capacity ∧
      next.heldIds = layout.heldIds.erase id := by
  have hheld := mem_heldIds.mp h
  refine ⟨⟨layout.held.set id false⟩, ?_, List.length_set, ?_⟩
  · simp only [releaseOne, hheld]
  · ext i
    rw [mem_heldIds, Finset.mem_erase, mem_heldIds, List.getElem?_set]
    by_cases hi : id = i
    · subst hi
      simp
    · simp [hi, Ne.symm hi]

theorem releaseOne_of_notMem {id : Nat} (h : id ∉ layout.heldIds) :
    ∃ fault, layout.releaseOne id = .error fault ∧
      (⟨fault.message layout⟩ : Panic) = refusalOf layout.capacity layout.heldIds id := by
  rw [mem_heldIds] at h
  cases hget : layout.held[id]? with
  | none =>
    have hout : ¬ id < layout.capacity := Nat.not_lt.mpr (List.getElem?_eq_none_iff.mp hget)
    have hmessage : (ReleaseFault.outside id).message layout =
        s!"releasing CPU {id} outside of layout ({layout.display})" := rfl
    refine ⟨.outside id, by simp only [releaseOne, hget], ?_⟩
    rw [hmessage, display_eq_mapOf]
    exact (if_neg hout).symm
  | some held =>
    have hfree : held = false := by
      cases held with
      | false => rfl
      | true => exact absurd hget h
    subst hfree
    have hmessage : (ReleaseFault.notHeld id).message layout =
        s!"releasing CPU {id} which is not held ({layout.display})" := rfl
    refine ⟨.notHeld id, by simp only [releaseOne, hget], ?_⟩
    rw [hmessage, display_eq_mapOf]
    exact (if_pos (lt_capacity_of_held hget)).symm

theorem serves_release (layout : CpuLayout) (ids : List Nat) :
    Serves layout.capacity layout.heldIds (.release ids) (layout.call (.release ids)).2
      (layout.call (.release ids)).1.heldIds := by
  induction ids generalizing layout with
  | nil => exact .nil
  | cons id ids ih =>
    by_cases hid : id ∈ layout.heldIds
    · obtain ⟨next, hnext, hcapacity, hheld⟩ := releaseOne_of_mem hid
      rw [call_release_of_ok hnext]
      have hrest := ih next
      rw [hcapacity, hheld] at hrest
      exact hrest.cons hid
    · obtain ⟨fault, hfault, hpanic⟩ := releaseOne_of_notMem hid
      rw [call_release_of_error hfault, hpanic]
      exact .refused hid ids

theorem capacity_call (call : Call) : (layout.call call).1.capacity = layout.capacity := by
  cases call with
  | acquire n =>
    cases hids : layout.tryAcquire n with
    | none => simp only [CpuLayout.call, hids]
    | some taken =>
      simp only [CpuLayout.call, hids]
      exact (acquired_of_tryAcquire hids).capacity_eq
  | release ids =>
    induction ids generalizing layout with
    | nil => rfl
    | cons id ids ih =>
      by_cases hid : id ∈ layout.heldIds
      · obtain ⟨next, hnext, hcapacity, -⟩ := releaseOne_of_mem hid
        rw [call_release_of_ok hnext, ih, hcapacity]
      · obtain ⟨fault, hfault, -⟩ := releaseOne_of_notMem hid
        rw [call_release_of_error hfault]

theorem serves_call (layout : CpuLayout) (call : Call) :
    Serves layout.capacity layout.heldIds call (layout.call call).2
      (layout.call call).1.heldIds := by
  cases call with
  | acquire n => exact serves_acquire layout n
  | release ids => exact serves_release layout ids

theorem capacity_history (calls : List Call) :
    (layout.history calls).1.capacity = layout.capacity := by
  induction calls generalizing layout with
  | nil => rfl
  | cons call calls ih => exact ih.trans (capacity_call call)

theorem evolves_history (layout : CpuLayout) (calls : List Call) :
    Evolves layout.capacity layout.heldIds calls (layout.history calls).2
      (layout.history calls).1.heldIds := by
  induction calls generalizing layout with
  | nil => exact .nil
  | cons call calls ih =>
    have hcall := serves_call layout call
    have hcalls := ih (layout.call call).1
    rw [capacity_call] at hcalls
    exact .cons hcall hcalls

/-- A list is given back as a whole if it has no repetition and all its ids are held. -/
theorem release_eq_none_iff {ids : List Nat} :
    (layout.release ids).1 = none ↔ ids.Nodup ∧ ∀ id ∈ ids, id ∈ layout.heldIds := by
  have hserves := serves_release layout ids
  have hanswer : (layout.release ids).1 = none ↔
      (layout.call (.release ids)).2 = .released := by
    rcases hreleased : layout.release ids with ⟨fault, after⟩
    cases fault <;> simp [call, hreleased]
  rw [hanswer]
  constructor
  · intro hreleased
    rw [hreleased] at hserves
    exact hserves.of_released
  · rintro ⟨hnodup, hheld⟩
    exact (hserves.unique (.released hnodup hheld)).1

end Layout

/-- What a layout shows of itself, by its capacity and the set of held ids. -/
structure Shows (layout : CpuLayout) (capacity : Nat) (held : Finset Nat) : Prop where
  within : held ⊆ Finset.range capacity
  capacity_eq : layout.capacity = capacity
  available_eq : layout.available = (unheld capacity held).card
  isIdle_iff : layout.isIdle = true ↔ held = ∅
  display_eq : layout.display = mapOf capacity held

theorem shows_heldIds (layout : CpuLayout) : Shows layout layout.capacity layout.heldIds where
  within := heldIds_subset layout
  capacity_eq := rfl
  available_eq := (card_unheld layout).symm
  isIdle_iff := by rw [isIdle_iff, heldIds, List.toFinset_eq_empty_iff]
  display_eq := display_eq_mapOf layout

/-- A layout is an allocator of a finite set of ids. After any calls, panics included, the answers
and the held ids are those that the rules for sets of ids lead to, and no others; all that the
layout shows of itself agrees with that set. Ids are there to be taken exactly if as many are free,
a list is given back without a panic exactly if it has no repetition and all its ids are held, and
giving back at once what has just been taken restores the layout. -/
theorem allocates_as_set (capacity : Nat) (calls : List Call) :
    let layout := ((ofCapacity capacity).history calls).1
    (∀ answers held, Evolves capacity ∅ calls answers held ↔
      answers = ((ofCapacity capacity).history calls).2 ∧ held = layout.heldIds) ∧
    Shows layout capacity layout.heldIds ∧
    (∀ n, (layout.tryAcquire n).isSome = true ↔ n ≤ (unheld capacity layout.heldIds).card) ∧
    (∀ ids, (layout.release ids).1 = none ↔ ids.Nodup ∧ ∀ id ∈ ids, id ∈ layout.heldIds) ∧
    ∀ n ids after, layout.tryAcquire n = some (ids, after) →
      after.release ids = (none, layout) := by
  intro layout
  have hcapacity : layout.capacity = capacity :=
    (capacity_history calls).trans (capacity_ofCapacity capacity)
  have hevolves := evolves_history (ofCapacity capacity) calls
  rw [capacity_ofCapacity, heldIds_ofCapacity] at hevolves
  refine ⟨fun answers held => ⟨fun h => h.unique hevolves, ?_⟩, ?_, fun n => ?_, fun ids =>
    release_eq_none_iff, fun n ids after htaken => (acquired_of_tryAcquire htaken).release⟩
  · rintro ⟨rfl, rfl⟩
    exact hevolves
  · exact hcapacity ▸ shows_heldIds layout
  · rw [tryAcquire_isSome_iff, ← card_unheld, hcapacity]

/-- A list with a repetition is given back up to the repetition. -/
example : (ofCapacity 4).history [.acquire 3, .release [2, 0, 2, 1], .acquire 2, .acquire 2] =
    (⟨[true, true, true, false]⟩,
      [.acquired (some [0, 1, 2]), .panicked ⟨"releasing CPU 2 which is not held ([.#..])"⟩,
        .acquired (some [0, 2]), .acquired none]) := by
  decide

end StressBatch.CpuLayout
