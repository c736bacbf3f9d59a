import StressBatch.Proofs.Scheduler.Transition

/-!
# Harvesting in one go

A reap checks on the live workers and then harvests those that are over one after the other. Here
the whole pass is brought into one update of the state, as `Transition.reaped` has it.
-/

namespace StressBatch.Scheduler

/-! ## Live workers -/

namespace State

theorem token_of_worker? {s : State} {token : Token} {worker : Worker}
    (h : s.worker? token = some worker) : worker ∈ s.workers ∧ worker.token = token := by
  unfold worker? at h
  have htoken := List.find?_some h
  exact ⟨List.mem_of_find?_eq_some h, by simpa using htoken⟩

theorem mem_liveTokens_of_worker? {s : State} {token : Token} {worker : Worker}
    (h : s.worker? token = some worker) : token ∈ s.liveTokens := by
  obtain ⟨hmem, htoken⟩ := token_of_worker? h
  exact htoken ▸ List.mem_map_of_mem hmem

theorem worker?_eq_none {s : State} {token : Token} (h : s.worker? token = none) :
    token ∉ s.liveTokens := by
  unfold worker? at h
  intro hmem
  obtain ⟨worker, hworker, htoken⟩ := List.mem_map.mp hmem
  have := List.find?_eq_none.mp h worker hworker
  simp [htoken] at this

theorem eq_of_token_eq {s : State} (hs : s.liveTokens.Nodup) {w v : Worker} (hw : w ∈ s.workers)
    (hv : v ∈ s.workers) (h : w.token = v.token) : w = v :=
  List.inj_on_of_nodup_map hs hw hv h

theorem worker?_of_mem {s : State} (hs : s.liveTokens.Nodup) {worker : Worker}
    (h : worker ∈ s.workers) : s.worker? worker.token = some worker := by
  cases hfind : s.worker? worker.token with
  | none => exact absurd (List.mem_map_of_mem h) (worker?_eq_none hfind)
  | some found =>
    obtain ⟨hmem, htoken⟩ := token_of_worker? hfind
    rw [eq_of_token_eq hs hmem h htoken]

theorem giveBack_of_release {s : State} {cpus : List Nat} {layout : CpuLayout}
    (h : s.layout.release cpus = (none, layout)) :
    s.giveBack cpus = { s with layout := layout } := by
  unfold giveBack
  rw [h]

/-! ## What the checks find -/

/-- In whichever order the live workers are gone through, every one of them is met once. -/
theorem workers_perm {s : State} (hs : s.liveTokens.Nodup) {order : List Token}
    (horder : order.Perm s.liveTokens) : (order.filterMap s.worker?).Perm s.workers := by
  have hall : s.liveTokens.filterMap s.worker? = s.workers := by
    unfold liveTokens
    rw [List.filterMap_map]
    refine (List.filterMap_congr fun worker hworker => ?_).trans List.filterMap_some
    exact worker?_of_mem hs hworker
  refine (horder.filterMap _).trans ?_
  rw [hall]

/-- The workers are checked on one after the other. -/
theorem checks_eq (s : State) (order : List Token) :
    s.checks order = (order.filterMap s.worker?).map Worker.check :=
  (List.map_filterMap ..).symm

/-- In whichever order the live workers are checked on, every one of them is checked on once. -/
theorem checks_perm {s : State} (hs : s.liveTokens.Nodup) {order : List Token}
    (horder : order.Perm s.liveTokens) : (s.checks order).Perm (s.workers.map Worker.check) := by
  rw [checks_eq]
  exact (workers_perm hs horder).map Worker.check

/-- The CPUs of the workers that are over, and those of the others. -/
theorem endings_perm {s : State} (hs : s.liveTokens.Nodup) {order : List Token}
    (horder : order.Perm s.liveTokens) :
    (s.workers.map Worker.ticket).Perm ((s.endings order).map (fun c => c.1.ticket) ++
      (s.workers.filter fun worker => !worker.check.2.isOver).map Worker.ticket) := by
  have hendings : ((s.endings order).map fun c => c.1.ticket).Perm
      ((s.workers.filter fun worker => worker.check.2.isOver).map Worker.ticket) := by
    unfold endings
    refine (((checks_perm hs horder).filter _).map _).trans ?_
    rw [List.filter_map, List.map_map]
    refine List.Perm.of_eq (List.map_congr_left fun worker _ => ?_)
    simp
  refine List.Perm.trans ?_ (hendings.symm.append_right _)
  rw [← List.map_append]
  exact (List.filter_append_perm _ s.workers).symm.map _

/-! ## Harvesting -/

/-- What harvesting some workers that are over comes to. -/
def harvested (s : State) (checked : List (Worker × Checked)) (layout : CpuLayout) : State :=
  { s with
    layout := layout
    workers := s.workers.filter fun worker => worker.token ∉ checked.map fun c => c.1.token
    log := ⟨s.log.results ++ checked.filterMap madeUp?⟩
    summary := { s.summary with
      forkedPassed := s.summary.forkedPassed + checked.countP hasPassed
      synthesizedFailures := s.summary.synthesizedFailures + checked.countP (!hasPassed ·)
      violations := s.summary.violations ++ checked.filterMap violation? } }

/-- A worker whose own result was passed on has not broken the protocol. -/
def Settled (checked : Worker × Checked) : Prop :=
  hasPassed checked = true → violation? checked = none

theorem harvest_eq {s : State} {checked : Worker × Checked} {layout : CpuLayout}
    (hover : checked.2.isOver = true) (hsettled : Settled checked)
    (hrelease : s.layout.release checked.1.cpus = (none, layout)) :
    s.harvest checked.1 checked.2 = (s.harvested [checked] layout, harvestEffects checked) := by
  obtain ⟨worker, found⟩ := checked
  have hgive : ∀ t : State, t.layout = s.layout →
      t.giveBack worker.cpus = { t with layout := layout } := by
    intro t ht
    exact giveBack_of_release (ht ▸ hrelease)
  unfold harvest
  cases found with
  | unfinished => simp [Checked.isOver] at hover
  | violated violation =>
    have hpassed : ¬ worker.phase = .completed true := by
      intro h
      simpa [violation?] using hsettled (by simpa [hasPassed] using h)
    simp only
    rw [hgive _ (by rfl)]
    simp [harvested, removeWorker, noteViolation, report, count, ResultLog.add, madeUp?, violation?,
      hasPassed, harvestEffects, hpassed]
  | finished =>
    simp only
    rw [hgive _ (by rfl)]
    by_cases hpassed : worker.phase = .completed true <;>
      simp [harvested, removeWorker, count, List.filterMap_cons, madeUp?, violation?, hasPassed,
        harvestEffects, hpassed]
  | reported result =>
    simp only
    rw [hgive _ (by rfl)]
    by_cases hpassed : worker.phase = .completed true <;>
      simp [harvested, removeWorker, count, List.filterMap_cons, madeUp?, violation?, hasPassed,
        harvestEffects, hpassed]

/-- Harvesting first one worker and then others is harvesting all of them. -/
theorem harvested_cons (s : State) (checked : Worker × Checked) (rest : List (Worker × Checked))
    (between layout : CpuLayout) :
    (s.harvested [checked] between).harvested rest layout =
      s.harvested (checked :: rest) layout := by
  have hworkers : (s.harvested [checked] between).workers.filter
      (fun worker => worker.token ∉ rest.map fun c => c.1.token) =
      s.workers.filter fun worker => worker.token ∉ (checked :: rest).map fun c => c.1.token := by
    unfold harvested
    rw [List.filter_filter]
    refine List.filter_congr fun worker _ => ?_
    rw [List.map_cons, Bool.eq_iff_iff]
    simp only [Bool.and_eq_true, decide_eq_true_eq, List.map_cons, List.map_nil, List.mem_cons,
      List.not_mem_nil, or_false, not_or, and_comm]
  unfold harvested at hworkers ⊢
  rw [hworkers]
  simp only [List.countP_cons, List.countP_nil, List.filterMap_cons, List.filterMap_nil]
  cases madeUp? checked <;> cases violation? checked <;> simp <;> omega

/-- Harvesting the workers of a pass one after the other is harvesting those that are over, as long
as all their CPUs can be given back. -/
theorem harvestAll_eq {s : State} {checked : List (Worker × Checked)} {layout : CpuLayout}
    (hphase : s.phase.isActive = true) (hsettled : ∀ c ∈ checked, Settled c)
    (hrelease : s.layout.release ((checked.filter fun c => c.2.isOver).flatMap fun c => c.1.cpus) =
      (none, layout)) :
    s.harvestAll checked = (s.harvested (checked.filter fun c => c.2.isOver) layout,
      (checked.filter fun c => c.2.isOver).flatMap harvestEffects) := by
  induction checked generalizing s with
  | nil =>
    obtain ⟨-, rfl⟩ := Prod.mk.inj hrelease
    simp [harvestAll, harvested]
  | cons first rest ih =>
    have hrest : ∀ c ∈ rest, Settled c := fun c hc => hsettled c (List.mem_cons_of_mem first hc)
    unfold harvestAll
    rw [if_pos hphase]
    by_cases hover : first.2.isOver = true
    · rw [List.filter_cons_of_pos (by exact hover), List.flatMap_cons] at hrelease ⊢
      obtain ⟨between, hfirst, hmore⟩ := CpuLayout.exists_release_of_append hrelease
      rw [harvest_eq hover (hsettled first List.mem_cons_self) hfirst]
      simp only
      rw [ih (s := s.harvested [first] between) hphase hrest hmore, harvested_cons]
    · have hfirst : first.2 = .unfinished := by
        cases h : first.2 <;> simp_all [Checked.isOver]
      rw [List.filter_cons_of_neg (by exact hover)] at hrelease ⊢
      rw [hfirst, harvest]
      simp only
      rw [ih hphase hrest hrelease, List.nil_append]

end State

/-! ## What a reap shows -/

/-- What a reap can show: a result that is passed on for a forked job, or a harvest. -/
inductive Effect.OfReap : Effect → Prop where
  /-- A result is passed on. -/
  | passedOn (token : Token) (job : Job) (result : TestResult) :
    OfReap (.passedOn (.forked token job) result)
  /-- A worker is harvested. -/
  | harvested (worker : Worker) (checked : Checked) : OfReap (.harvested worker checked)

theorem ofReap_of_mem {checked endings : List (Worker × Checked)} {effect : Effect}
    (h : effect ∈ checked.filterMap State.reportEffect? ++ endings.flatMap harvestEffects) :
    effect.OfReap := by
  rcases List.mem_append.mp h with hreported | hharvested
  · obtain ⟨c, -, hc⟩ := List.mem_filterMap.mp hreported
    obtain ⟨result, -, rfl⟩ := Option.map_eq_some_iff.mp hc
    exact .passedOn _ _ _
  · obtain ⟨c, -, hc⟩ := List.mem_flatMap.mp hharvested
    unfold harvestEffects at hc
    split at hc
    · rcases List.mem_cons.mp hc with rfl | hlast
      · exact .passedOn _ _ _
      · rw [List.mem_singleton.mp hlast]
        exact .harvested _ _
    · rw [List.mem_singleton.mp hc]
      exact .harvested _ _

end StressBatch.Scheduler
