import StressBatch.Proofs.Scheduler.Harvest

/-!
# The steps of a consistent state

Every step of a consistent state is one of those that `Transition` lists. What has to be shown is
that the CPUs a step gives back are held, that a job which is not refused can be prepared without a
panic, and that a reap is one update of the state.
-/

namespace StressBatch.Scheduler

namespace State

theorem refusal?_eq_none_iff {s : State} {job : Job} :
    s.refusal? job = none ↔ job.Sound ∧ job.threads ≤ s.layout.capacity := by
  rw [← Job.validate_eq_ok_iff]
  unfold refusal?
  cases hvalidate : job.validate with
  | error failure => simp
  | ok u => simp

theorem refusal?_congr {s t : State} (h : t.layout = s.layout) (job : Job) :
    t.refusal? job = s.refusal? job := by
  unfold refusal?
  rw [h]

theorem foldl_report (s : State) (results : List TestResult) :
    results.foldl report s = { s with log := ⟨s.log.results ++ results⟩ } := by
  induction results generalizing s with
  | nil => simp
  | cons result results ih =>
    rw [List.foldl_cons, ih]
    simp [report, ResultLog.add]

/-- What refusing jobs one after the other comes to. -/
theorem foldl_reject (s : State) (jobs : List Job) (reason : String) :
    jobs.foldl (fun s job => (s.count fun c => { c with jobs := c.jobs + 1 }).reject job reason) s =
      { s with
        log := ⟨s.log.results ++ jobs.map fun job => refusal job reason⟩
        summary := { s.summary with
          jobs := s.summary.jobs + jobs.length
          rejected := s.summary.rejected + jobs.length } } := by
  induction jobs generalizing s with
  | nil => simp
  | cons job jobs ih =>
    rw [List.foldl_cons, ih]
    simp [reject, report, count, ResultLog.add]
    omega

end State

section Inversion

variable {setup : Setup} {s after : State} {shown : List Effect} {held : List Ticket}

/-! ## What is held -/

/-- The held CPUs are those of the workers that are over and those of everybody else. -/
theorem Consistent.busy_perm_of_endings (hc : Consistent s held) {order : List Token}
    (horder : order.Perm s.liveTokens) :
    s.layout.busy.Perm ((s.endings order).flatMap (fun c => c.1.cpus) ++
      ((s.workers.filter fun worker => !worker.check.2.isOver).map Worker.ticket ++
        held).flatMap Ticket.cpus) := by
  have hsplit := (State.endings_perm hc.nodup_tokens horder).append_right held
  refine hc.busy_perm.trans ((hsplit.flatMap_right _).trans ?_)
  rw [List.append_assoc, List.flatMap_append, List.flatMap_map]
  exact List.Perm.refl _

/-- An event that gives CPUs back belongs to an embedded job that is outstanding. -/
theorem Consistent.exists_of_released (hc : Consistent s held) {cpus : List Nat}
    {rest : List Event} (hqueue : s.queue = .released cpus :: rest) :
    ∃ ticket gone, ticket.cpus = cpus ∧
      held.Perm (ticket :: (s.tickets ++ s.leaving ++ gone)) ∧
      rest.filterMap Event.cpus? = gone.map Ticket.cpus := by
  obtain ⟨gone, hheld, hgone⟩ := hc.places
  have hhead : (Event.released cpus).cpus? = some cpus := rfl
  rw [hqueue, List.filterMap_cons_some hhead] at hgone
  cases gone with
  | nil => simp at hgone
  | cons ticket gone =>
    obtain ⟨hcpus, hrest⟩ := List.cons.inj hgone
    exact ⟨ticket, gone, hcpus.symm, hheld.trans List.perm_middle, hrest⟩

/-- What is left when an embedded job has given its CPUs back. -/
theorem Consistent.busy_perm_of_held (hc : Consistent s held) {ticket : Ticket}
    {still : List Ticket} (hheld : held.Perm (ticket :: still)) :
    s.layout.busy.Perm (ticket.cpus ++
      (s.workers.map Worker.ticket ++ still).flatMap Ticket.cpus) := by
  have hperm : (s.workers.map Worker.ticket ++ held).Perm
      (ticket :: (s.workers.map Worker.ticket ++ still)) :=
    (hheld.append_left _).trans List.perm_middle
  refine hc.busy_perm.trans ((hperm.flatMap_right _).trans ?_)
  rw [List.flatMap_cons]

/-! ## The steps one by one -/

theorem transition_of_submit {jobs : List Job} (h : s.submit jobs = some (after, shown)) :
    Transition setup s (.submit jobs) after shown := by
  unfold State.submit at h
  split at h
  · next hphase =>
    obtain ⟨rfl, rfl⟩ := Prod.mk.inj (Option.some.inj h)
    exact .submitted jobs hphase
  · next hphase =>
    obtain ⟨rfl, rfl⟩ := Prod.mk.inj (Option.some.inj h)
    rw [State.foldl_reject]
    exact .resubmitted jobs (by rw [hphase]; rfl)
  · next panic hphase =>
    obtain ⟨rfl, rfl⟩ := Prod.mk.inj (Option.some.inj h)
    rw [State.foldl_reject]
    exact .resubmitted jobs (by rw [hphase]; rfl)
  · contradiction

theorem transition_of_startEmbedded {job : Job} {rest : List Job} {cpus : List Nat}
    {layout : CpuLayout} (hphase : s.phase = .dispatching) (hpending : s.pending = job :: rest)
    (hreason : s.refusal? job = none) (hdispatch : job.dispatch = .embedded)
    (hacquire : s.layout.tryAcquire job.threads = some (cpus, layout))
    (h : State.startEmbedded setup { s with
      pending := rest
      layout := layout
      summary := { s.summary with jobs := s.summary.jobs + 1 } } ⟨job, cpus⟩ = (after, shown)) :
    Transition setup s .dispatch after (.started job cpus none :: shown) := by
  unfold State.startEmbedded at h
  cases hrunner : setup.runner job cpus with
  | kept =>
    simp only [hrunner, State.count] at h
    obtain ⟨rfl, rfl⟩ := Prod.mk.inj h
    exact .kept job rest cpus layout hphase hpending hreason hdispatch hacquire hrunner
  | finished result =>
    simp only [hrunner, State.count, State.complete, State.report, State.enqueue] at h
    obtain ⟨rfl, rfl⟩ := Prod.mk.inj h
    have := Transition.endedAtOnce job rest cpus layout result .dispatching hphase hpending hreason
      hdispatch hacquire (by rw [hrunner]; exact .finished result)
    simpa only [← hphase] using this
  | dropped =>
    simp only [hrunner, State.count, State.complete, State.report, State.enqueue] at h
    obtain ⟨rfl, rfl⟩ := Prod.mk.inj h
    have := Transition.endedAtOnce job rest cpus layout _ .dispatching hphase hpending hreason
      hdispatch hacquire (by rw [hrunner]; exact .dropped)
    simpa only [← hphase] using this
  | panicked panic =>
    simp only [hrunner, State.count, State.complete, State.report, State.enqueue,
      State.crash] at h
    obtain ⟨rfl, rfl⟩ := Prod.mk.inj h
    exact .endedAtOnce job rest cpus layout _ (.crashed panic) hphase hpending hreason
      hdispatch hacquire (by rw [hrunner]; exact .panicked panic)

theorem transition_of_startForked {job : Job} {rest : List Job} {cpus : List Nat}
    {layout : CpuLayout} (hphase : s.phase = .dispatching) (hpending : s.pending = job :: rest)
    (hreason : s.refusal? job = none) (hdispatch : job.dispatch = .forked)
    (hacquire : s.layout.tryAcquire job.threads = some (cpus, layout))
    (h : State.startForked setup { s with
      pending := rest
      layout := layout
      summary := { s.summary with jobs := s.summary.jobs + 1 } } job cpus = (after, shown)) :
    Transition setup s .dispatch after
      (.started job cpus (some (State.tokenOf (s.issued + 1))) :: shown) := by
  unfold State.startForked at h
  simp only at h
  cases hprepare : Worker.prepare setup.host setup.settings setup.endpoint
    (State.tokenOf (s.issued + 1)) job cpus with
  | ok worker =>
    simp only [hprepare, State.count] at h
    obtain ⟨rfl, rfl⟩ := Prod.mk.inj h
    exact .forked job rest cpus layout worker hphase hpending hreason hdispatch hacquire hprepare
  | error fault =>
    cases fault with
    | panicked panic =>
      have hsound := (State.refusal?_eq_none_iff.mp hreason).1
      exact absurd hprepare (Worker.prepare_ne_panicked hsound panic)
    | io fault =>
      have hrestore := (CpuLayout.acquired_of_tryAcquire hacquire).release
      simp only [hprepare, State.count, State.report] at h
      rw [State.giveBack_of_release hrestore] at h
      obtain ⟨rfl, rfl⟩ := Prod.mk.inj h
      exact .unprepared job rest cpus layout fault hphase hpending hreason hdispatch hacquire
        hprepare

theorem transition_of_dispatch (h : s.dispatch setup = some (after, shown)) :
    Transition setup s .dispatch after shown := by
  unfold State.dispatch at h
  split at h
  · next job rest hphase hpending =>
    unfold State.dispatchJob at h
    simp only at h
    rw [State.refusal?_congr (s := s) (by rfl)] at h
    cases hreason : s.refusal? job with
    | some reason =>
      simp only [hreason, State.reject, State.report, State.count] at h
      obtain ⟨rfl, rfl⟩ := Prod.mk.inj (Option.some.inj h)
      exact .refused job rest reason hphase hpending hreason
    | none =>
      cases hacquire : s.layout.tryAcquire job.threads with
      | none =>
        simp [State.count, hreason, hacquire] at h
      | some found =>
        obtain ⟨cpus, layout⟩ := found
        simp only [hreason, State.count, hacquire, State.startJob, State.tokenFor,
          Option.some.injEq, Prod.mk.injEq] at h
        cases hdispatch : job.dispatch with
        | embedded =>
          simp only [hdispatch] at h
          obtain ⟨hafter, rfl⟩ := h
          exact transition_of_startEmbedded hphase hpending hreason hdispatch hacquire
            (Prod.ext hafter rfl)
        | forked =>
          simp only [hdispatch] at h
          obtain ⟨hafter, rfl⟩ := h
          exact transition_of_startForked hphase hpending hreason hdispatch hacquire
            (Prod.ext hafter rfl)
  · contradiction

theorem transition_of_drain (h : s.drain = some after) :
    Transition setup s .drain after [] := by
  unfold State.drain at h
  split at h
  · next hphase hpending =>
    obtain rfl := Option.some.inj h
    exact .drained hphase hpending
  · contradiction

theorem transition_of_close {elapsed : Time.Span} (h : s.close elapsed = some after) :
    Transition setup s (.close elapsed) after [] := by
  unfold State.close at h
  split at h
  · next cpus layout hphase hacquire =>
    have hidle : s.layout.isIdle = true := by
      have hle := CpuLayout.tryAcquire_isSome_iff.mp (by rw [hacquire]; rfl)
      have hsum := CpuLayout.length_busy_add_available s.layout
      rw [CpuLayout.isIdle_iff, ← List.length_eq_zero_iff]
      omega
    have hrestore := (CpuLayout.acquired_of_tryAcquire hacquire).release
    rw [State.giveBack_of_release (s := { s with layout := layout }) hrestore] at h
    simp only [hphase, if_true, Option.some.injEq] at h
    subst h
    exact .closed elapsed hphase hidle
  · contradiction

theorem transition_of_handle (hc : Consistent s held) (h : s.handle = some (after, shown)) :
    Transition setup s .handle after shown := by
  unfold State.handle at h
  split at h
  · next event rest hphase hqueue =>
    cases event with
    | pull token =>
      simp only [State.handleEvent, State.worker?] at h
      cases hworker : s.worker? token with
      | none =>
        rw [State.worker?] at hworker
        simp only [hworker] at h
        obtain ⟨rfl, rfl⟩ := Prod.mk.inj (Option.some.inj h)
        exact .pulledUnknown token rest hphase hqueue hworker
      | some worker =>
        rw [State.worker?] at hworker
        simp only [hworker] at h
        obtain ⟨rfl, rfl⟩ := Prod.mk.inj (Option.some.inj h)
        exact .pulled token rest worker hphase hqueue hworker
    | push token result =>
      simp only [State.handleEvent, State.worker?] at h
      cases hworker : s.worker? token with
      | none =>
        rw [State.worker?] at hworker
        simp only [hworker] at h
        obtain ⟨rfl, rfl⟩ := Prod.mk.inj (Option.some.inj h)
        exact .pushedUnknown token result rest hphase hqueue hworker
      | some worker =>
        rw [State.worker?] at hworker
        simp only [hworker] at h
        cases hrecord : worker.record result with
        | ok recorded =>
          simp only [hrecord] at h
          obtain ⟨rfl, rfl⟩ := Prod.mk.inj (Option.some.inj h)
          exact .pushed token result rest worker recorded hphase hqueue hworker hrecord
        | error violation =>
          simp only [hrecord] at h
          obtain ⟨rfl, rfl⟩ := Prod.mk.inj (Option.some.inj h)
          exact .pushedAgain token result rest worker violation hphase hqueue hworker hrecord
    | released cpus =>
      obtain ⟨ticket, gone, rfl, hheld, -⟩ := hc.exists_of_released hqueue
      obtain ⟨layout, hrelease, -, -⟩ := CpuLayout.release_of_perm (hc.busy_perm_of_held hheld)
      simp only [State.handleEvent] at h
      rw [State.giveBack_of_release (s := { s with queue := rest }) hrelease] at h
      simp only [hphase, if_true, State.count] at h
      obtain ⟨rfl, rfl⟩ := Prod.mk.inj (Option.some.inj h)
      exact .reclaimed ticket.cpus rest layout hphase hqueue hrelease
    | kill token =>
      obtain ⟨rfl, rfl⟩ := Prod.mk.inj (Option.some.inj h)
      exact .killed token rest hphase hqueue
  · contradiction

/-- What checking on a live worker comes to can be counted without contradiction. -/
theorem Consistent.settled_check (hc : Consistent s held) {worker : Worker}
    (h : worker ∈ s.workers) : State.Settled worker.check := by
  obtain ⟨process, hprocess⟩ := hc.started worker h
  intro hpassed
  cases hover : process.isOver with
  | false =>
    rw [Worker.check_of_running hprocess hover]
    rfl
  | true =>
    unfold hasPassed at hpassed
    unfold violation?
    have hover := Worker.check_of_over hprocess hover
    generalize worker.check.1 = ended at hover hpassed
    generalize worker.check.2 = found at hover
    cases hover with
    | reported passed result hphase => rfl
    | violated hphase => simp [hphase] at hpassed

/-- The workers that are live after a reap are those that are not over. -/
theorem Consistent.filter_endings (hc : Consistent s held) {order : List Token}
    (horder : order.Perm s.liveTokens) :
    (s.workers.filter fun worker => worker.token ∉ (s.endings order).map fun c => c.1.token) =
      s.workers.filter fun worker => !worker.check.2.isOver := by
  refine List.filter_congr fun worker hworker => ?_
  have hmem : worker.token ∈ (s.endings order).map (fun c => c.1.token) ↔
      worker.check.2.isOver = true := by
    constructor
    · intro h
      obtain ⟨checked, hchecked, htoken⟩ := List.mem_map.mp h
      obtain ⟨hin, hover⟩ := List.mem_filter.mp hchecked
      obtain ⟨found, hfound, rfl⟩ :=
        List.mem_map.mp ((State.checks_perm hc.nodup_tokens horder).mem_iff.mp hin)
      rw [Worker.check_token] at htoken
      rw [← State.eq_of_token_eq hc.nodup_tokens hfound hworker htoken]
      exact hover
    · intro hover
      have hin : worker.check ∈ s.checks order :=
        (State.checks_perm hc.nodup_tokens horder).mem_iff.mpr (List.mem_map_of_mem hworker)
      exact List.mem_map.mpr
        ⟨worker.check, List.mem_filter.mpr ⟨hin, hover⟩, Worker.check_token worker⟩
  rw [Bool.eq_iff_iff, decide_eq_true_iff, hmem]
  simp

theorem transition_of_reap (hc : Consistent s held) {order : List Token}
    (h : s.reap order = some (after, shown)) : Transition setup s (.reap order) after shown := by
  unfold State.reap at h
  split at h
  · next hguard =>
    obtain ⟨hphase, horder⟩ := hguard
    have horder := List.isPerm_iff.mp horder
    obtain ⟨layout, hrelease, -, -⟩ :=
      CpuLayout.release_of_perm (hc.busy_perm_of_endings horder)
    have hsettled : ∀ c ∈ s.checks order, State.Settled c := by
      intro c hmem
      obtain ⟨worker, hworker, rfl⟩ :=
        List.mem_map.mp ((State.checks_perm hc.nodup_tokens horder).mem_iff.mp hmem)
      exact hc.settled_check hworker
    simp only [State.foldl_report] at h
    rw [State.harvestAll_eq (by exact hphase) hsettled (by exact hrelease)] at h
    obtain ⟨rfl, rfl⟩ := Prod.mk.inj (Option.some.inj h)
    have hreaped : Transition setup s (.reap order) _ _ :=
      .reaped order layout hphase horder hrelease
    rw [← hc.filter_endings horder] at hreaped
    exact hreaped
  · contradiction

theorem transition_of_dispose {position : Nat} {result : Ticket → TestResult}
    (h : s.dispose position result = some (after, shown)) :
    ∃ ticket, s.tickets[position]? = some ticket ∧
      after = { s with
        tickets := s.tickets.eraseIdx position
        leaving := s.leaving ++ [ticket]
        log := s.log.add (result ticket) } ∧
      shown = [.passedOn (.embedded ticket) (result ticket)] := by
  unfold State.dispose at h
  obtain ⟨ticket, hticket, heq⟩ := Option.map_eq_some_iff.mp h
  obtain ⟨rfl, rfl⟩ := Prod.mk.inj heq
  exact ⟨ticket, hticket, rfl, rfl⟩

theorem transition_of_notify {position : Nat} (h : s.notify position = some after) :
    Transition setup s (.notify position) after [] := by
  unfold State.notify at h
  obtain ⟨ticket, hticket, rfl⟩ := Option.map_eq_some_iff.mp h
  exact .notified position ticket hticket

/-- Every step of a consistent state is one of the listed ones. -/
theorem transition_of_step? (hc : Consistent s held) {move : Move}
    (h : s.step? setup move = some (after, shown)) : Transition setup s move after shown := by
  cases move with
  | submit jobs => exact transition_of_submit h
  | dispatch => exact transition_of_dispatch h
  | drain =>
    obtain ⟨next, hnext, heq⟩ := Option.map_eq_some_iff.mp h
    obtain ⟨rfl, rfl⟩ := Prod.mk.inj heq
    exact transition_of_drain hnext
  | handle => exact transition_of_handle hc h
  | reap order => exact transition_of_reap hc h
  | close elapsed =>
    obtain ⟨next, hnext, heq⟩ := Option.map_eq_some_iff.mp h
    obtain ⟨rfl, rfl⟩ := Prod.mk.inj heq
    exact transition_of_close hnext
  | request event =>
    simp only [State.step?] at h
    split at h
    · next hevent =>
      obtain ⟨rfl, rfl⟩ := Prod.mk.inj (Option.some.inj h)
      exact .requested event hevent
    · contradiction
  | finish position result =>
    obtain ⟨ticket, hticket, rfl, rfl⟩ := transition_of_dispose h
    exact .finished position result ticket hticket
  | abandon position =>
    obtain ⟨ticket, hticket, rfl, rfl⟩ := transition_of_dispose h
    exact .abandoned position ticket hticket
  | notify position =>
    obtain ⟨next, hnext, heq⟩ := Option.map_eq_some_iff.mp h
    obtain ⟨rfl, rfl⟩ := Prod.mk.inj heq
    exact transition_of_notify hnext
  | exit token exit =>
    obtain ⟨rfl, rfl⟩ := Prod.mk.inj (Option.some.inj h)
    exact .exited token exit
  | lose token fault =>
    obtain ⟨rfl, rfl⟩ := Prod.mk.inj (Option.some.inj h)
    exact .lost token fault

end Inversion

end StressBatch.Scheduler
