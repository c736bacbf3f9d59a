import StressBatch.Proofs.Scheduler.Inversion

/-!
# Keeping the CPU accounts

Nobody but the scheduler knows which embedded jobs are under way; from outside it can be told by
what a run has shown: a job is outstanding from the moment it is started until its CPUs are given
back. Every step keeps the accounts of a state with its outstanding jobs in order.
-/

namespace StressBatch.Scheduler

/-! ## Outstanding jobs -/

/-- The outstanding embedded jobs after an effect. -/
def Effect.hold (held : List Ticket) : Effect → List Ticket
  | .started job cpus none => held ++ [⟨job, cpus⟩]
  | .reclaimed cpus => held.eraseP fun ticket => ticket.cpus = cpus
  | _ => held

/-- The embedded jobs that have been started and have not given their CPUs back. -/
def outstanding (effects : List Effect) : List Ticket := effects.foldl Effect.hold []

/-- Effects that do not concern embedded jobs leave those outstanding that were. -/
theorem foldl_hold_of_inert {effects : List Effect} (held : List Ticket)
    (h : ∀ effect ∈ effects, ∀ held, effect.hold held = held) :
    effects.foldl Effect.hold held = held := by
  induction effects with
  | nil => rfl
  | cons effect effects ih =>
    rw [List.foldl_cons, h effect List.mem_cons_self]
    exact ih fun e he => h e (List.mem_cons_of_mem effect he)

/-! ## Tokens -/

theorem tokenOf_injective : Function.Injective State.tokenOf := by
  intro m n h
  have hrepr : (toString m : String) = toString n := by
    unfold State.tokenOf at h
    simpa using h
  exact Nat.repr_injective hrepr

/-! ## Accounts in order -/

section Steps

variable {s : State} {held : List Ticket}

theorem consistent_ofCapacity (capacity : Nat) : Consistent (.ofCapacity capacity) [] where
  busy_perm := List.Perm.of_eq (CpuLayout.busy_ofCapacity capacity)
  fits := by
    intro ticket h
    simp [State.ofCapacity] at h
  places := ⟨[], List.Perm.refl _, rfl⟩
  nodup_tokens := List.nodup_nil
  issued_tokens := by
    intro token h
    simp [State.liveTokens, State.ofCapacity] at h
  started := by
    intro worker h
    simp [State.ofCapacity] at h
  at_rest := fun _ => ⟨rfl, rfl⟩
  pending_eq_nil := fun _ => rfl

/-- Handling a request gives no CPUs back. -/
theorem cpus_of_dequeued {event : Event} {rest : List Event} (hqueue : s.queue = event :: rest)
    (hevent : event.cpus? = none) :
    rest.filterMap Event.cpus? = s.queue.filterMap Event.cpus? := by
  rw [hqueue, List.filterMap_cons_none hevent]

/-- No request gives CPUs back. -/
theorem cpus_of_requested {event : Event} (hevent : event.isRequest = true) :
    (s.queue ++ [event]).filterMap Event.cpus? = s.queue.filterMap Event.cpus? := by
  have hnone : event.cpus? = none := by
    cases event with
    | released cpus => simp [Event.isRequest] at hevent
    | _ => rfl
  rw [List.filterMap_append, List.filterMap_cons_none hnone, List.filterMap_nil, List.append_nil]

theorem Consistent.dequeue (hc : Consistent s held) {event : Event} {rest : List Event}
    (hqueue : s.queue = event :: rest) (hevent : event.cpus? = none) :
    Consistent { s with queue := rest } held := by
  obtain ⟨gone, hheld, hgone⟩ := hc.places
  exact { hc with places := ⟨gone, hheld, (cpus_of_dequeued hqueue hevent).trans hgone⟩ }

/-- Changing a live worker in a way that keeps its accounts keeps those of all live workers. -/
theorem keeps_updateWorker {token : Token} {f : Worker → Worker}
    (hf : ∀ worker ∈ s.workers, worker.token = token → Worker.Keeps worker (f worker)) :
    ∀ worker ∈ s.workers,
      Worker.Keeps worker (if worker.token = token then f worker else worker) := by
  intro worker hworker
  by_cases htoken : worker.token = token
  · rw [if_pos htoken]
    exact hf worker hworker htoken
  · rw [if_neg htoken]
    exact ⟨rfl, rfl, fun process h => ⟨process, h⟩⟩

/-- Changing the worker of a token changes nothing if the change leaves that worker as it is. -/
theorem State.updateWorker_eq_self {token : Token} {f : Worker → Worker}
    (h : ∀ worker ∈ s.workers, worker.token = token → f worker = worker) :
    s.updateWorker token f = s := by
  have hworkers : (s.workers.map fun worker => if worker.token = token then f worker else worker) =
      s.workers := by
    refine (List.map_congr_left fun worker hworker => ?_).trans (List.map_id s.workers)
    by_cases htoken : worker.token = token
    · rw [if_pos htoken]
      exact h worker hworker htoken
    · exact if_neg htoken
  unfold State.updateWorker
  rw [hworkers]

theorem tickets_updateWorker {token : Token} {f : Worker → Worker}
    (hf : ∀ worker ∈ s.workers, worker.token = token → Worker.Keeps worker (f worker)) :
    (s.updateWorker token f).workers.map Worker.ticket = s.workers.map Worker.ticket := by
  unfold State.updateWorker
  rw [List.map_map]
  exact List.map_congr_left fun worker h => (keeps_updateWorker hf worker h).ticket_eq

theorem tickets_mapProcess (s : State) (token : Token) (f : Process → Process) :
    (s.updateWorker token fun worker => worker.mapProcess f).workers.map Worker.ticket =
      s.workers.map Worker.ticket :=
  tickets_updateWorker fun worker _ _ => Worker.keeps_mapProcess worker f

theorem liveTokens_updateWorker {token : Token} {f : Worker → Worker}
    (hf : ∀ worker ∈ s.workers, worker.token = token → Worker.Keeps worker (f worker)) :
    (s.updateWorker token f).liveTokens = s.liveTokens := by
  unfold State.updateWorker State.liveTokens
  rw [List.map_map]
  exact List.map_congr_left fun worker h => (keeps_updateWorker hf worker h).token_eq

theorem Consistent.updateWorker (hc : Consistent s held) {token : Token} {f : Worker → Worker}
    (hf : ∀ worker ∈ s.workers, worker.token = token → Worker.Keeps worker (f worker)) :
    Consistent (s.updateWorker token f) held := by
  have htokens := liveTokens_updateWorker hf
  refine { hc with
    busy_perm := ?_
    fits := ?_
    nodup_tokens := htokens ▸ hc.nodup_tokens
    issued_tokens := htokens ▸ hc.issued_tokens
    started := ?_
    at_rest := ?_ }
  · -- busy_perm
    rw [tickets_updateWorker hf]
    exact hc.busy_perm
  · -- fits
    rw [tickets_updateWorker hf]
    exact hc.fits
  · -- started
    intro worker hworker
    obtain ⟨old, hold, rfl⟩ := List.mem_map.mp hworker
    obtain ⟨process, hprocess⟩ := hc.started old hold
    exact (keeps_updateWorker hf old hold).started process hprocess
  · -- at_rest
    intro hphase
    obtain ⟨hworkers, hheld⟩ := hc.at_rest hphase
    refine ⟨?_, hheld⟩
    unfold State.updateWorker
    rw [hworkers]
    rfl

/-- Recording a result at the live worker of a token keeps its accounts. -/
theorem keeps_recorded (hs : s.liveTokens.Nodup) {token : Token} {worker recorded : Worker}
    {result : TestResult} (hworker : s.worker? token = some worker)
    (hrecord : worker.record result = .ok recorded) :
    ∀ w ∈ s.workers, w.token = token → Worker.Keeps w recorded := by
  intro w hw hsame
  obtain ⟨hmem, htoken⟩ := State.token_of_worker? hworker
  obtain rfl := State.eq_of_token_eq hs hw hmem (hsame.trans htoken.symm)
  exact Worker.keeps_of_record hrecord

theorem Consistent.keeps_recorded (hc : Consistent s held) {token : Token}
    {worker recorded : Worker} {result : TestResult} (hworker : s.worker? token = some worker)
    (hrecord : worker.record result = .ok recorded) :
    ∀ w ∈ s.workers, w.token = token → Worker.Keeps w recorded :=
  StressBatch.Scheduler.keeps_recorded hc.nodup_tokens hworker hrecord

/-- Acquiring CPUs for one more job keeps the accounts in order. -/
theorem Consistent.busy_perm_of_acquired (hc : Consistent s held) {ticket : Ticket} {n : Nat}
    {layout : CpuLayout} (hacquire : s.layout.tryAcquire n = some (ticket.cpus, layout))
    {active : List Ticket}
    (hactive : active.Perm (ticket :: (s.workers.map Worker.ticket ++ held))) :
    layout.busy.Perm (active.flatMap Ticket.cpus) := by
  have hacquired := CpuLayout.acquired_of_tryAcquire hacquire
  refine hacquired.busy_perm.trans (((hc.busy_perm.append_left ticket.cpus).trans ?_).trans
    (hactive.symm.flatMap_right _))
  rw [List.flatMap_cons]

theorem Consistent.fits_of_acquired (hc : Consistent s held) {job : Job} {cpus : List Nat}
    {layout : CpuLayout} (hreason : s.refusal? job = none)
    (hacquire : s.layout.tryAcquire job.threads = some (cpus, layout)) {active : List Ticket}
    (hactive : active.Perm (⟨job, cpus⟩ :: (s.workers.map Worker.ticket ++ held))) :
    ∀ ticket ∈ active, ticket.Fits := by
  have hacquired := CpuLayout.acquired_of_tryAcquire hacquire
  have hsound := (State.refusal?_eq_none_iff.mp hreason).1
  intro ticket hticket
  rcases List.mem_cons.mp (hactive.mem_iff.mp hticket) with rfl | hold
  · exact ⟨hacquired.ascending, hacquired.length_eq, hsound.threads_pos⟩
  · exact hc.fits ticket hold

/-- The CPUs of active jobs are disjoint. -/
theorem Consistent.disjoint (hc : Consistent s held) :
    (s.workers.map Worker.ticket ++ held).Pairwise fun a b => a.cpus.Disjoint b.cpus := by
  have hnodup := hc.busy_perm.nodup_iff.mp (CpuLayout.nodup_busy s.layout)
  exact (List.nodup_flatMap.mp hnodup).2

/-- Giving back the CPUs of a job makes that job no longer outstanding. -/
theorem Consistent.eraseP_perm (hc : Consistent s held) {ticket : Ticket} {still : List Ticket}
    (hheld : held.Perm (ticket :: still)) :
    (held.eraseP fun other => other.cpus = ticket.cpus).Perm still := by
  have hmem : ticket ∈ held := hheld.mem_iff.mpr List.mem_cons_self
  obtain ⟨found, front, back, -, hfound, heq, herase⟩ :=
    List.exists_of_eraseP (p := fun other : Ticket => other.cpus = ticket.cpus) hmem (by simp)
  have hfoundMem : found ∈ held := by
    rw [heq]
    simp
  have hsame : found = ticket := by
    by_contra hne
    have : Std.Symm fun a b : Ticket => a.cpus.Disjoint b.cpus :=
      ⟨fun _ _ h => List.Disjoint.symm h⟩
    have hdisjoint := hc.disjoint.forall (List.mem_append_right _ hfoundMem)
      (List.mem_append_right _ hmem) hne
    have hfits := hc.fits ticket (List.mem_append_right _ hmem)
    have hlength := hfits.length_eq
    have hpos := hfits.threads_pos
    rw [of_decide_eq_true hfound] at hdisjoint
    cases hcpus : ticket.cpus with
    | nil =>
      rw [hcpus, List.length_nil] at hlength
      omega
    | cons id ids =>
      rw [hcpus] at hdisjoint
      exact hdisjoint List.mem_cons_self List.mem_cons_self
  subst hsame
  rw [herase]
  refine List.Perm.cons_inv (a := found) ?_
  refine List.perm_middle.symm.trans ?_
  rw [← heq]
  exact hheld

/-- Nothing is active when no CPU is held, since every job needs one. -/
theorem Consistent.nil_of_isIdle (hc : Consistent s held) (hidle : s.layout.isIdle = true) :
    s.workers = [] ∧ held = [] := by
  have hnil : (s.workers.map Worker.ticket ++ held).flatMap Ticket.cpus = [] := by
    have hbusy := hc.busy_perm
    rw [CpuLayout.isIdle_iff.mp hidle] at hbusy
    exact hbusy.nil_eq.symm
  have hactive : s.workers.map Worker.ticket ++ held = [] := by
    refine List.eq_nil_iff_forall_not_mem.mpr fun ticket hticket => ?_
    have hfits := hc.fits ticket hticket
    have hlength := hfits.length_eq
    have hpos := hfits.threads_pos
    rw [List.flatMap_eq_nil_iff.mp hnil ticket hticket, List.length_nil] at hlength
    omega
  obtain ⟨hworkers, hheld⟩ := List.append_eq_nil_iff.mp hactive
  exact ⟨List.map_eq_nil_iff.mp hworkers, hheld⟩

/-- CPUs that wait in the queue to be given back are held. -/
theorem Consistent.exists_busy_perm_of_mem (hc : Consistent s held) {cpus : List Nat}
    (h : .released cpus ∈ s.queue) : ∃ still, s.layout.busy.Perm (cpus ++ still) := by
  obtain ⟨gone, hheld, hgone⟩ := hc.places
  have hmem : cpus ∈ gone.map Ticket.cpus := by
    rw [← hgone]
    exact List.mem_filterMap.mpr ⟨_, h, rfl⟩
  obtain ⟨ticket, hticket, rfl⟩ := List.mem_map.mp hmem
  have hin : ticket ∈ held := hheld.mem_iff.mpr (List.mem_append_right _ hticket)
  exact ⟨_, hc.busy_perm_of_held (List.perm_cons_erase hin)⟩

/-! ## What a step preserves -/

/-- An embedded job has been started: it is with its runner, or its CPUs are on their way back. -/
theorem Consistent.embedded (hc : Consistent s held) {job : Job} {rest : List Job}
    {cpus : List Nat} {layout : CpuLayout} {phase : Phase} {tickets : List Ticket}
    {queue : List Event} {log : ResultLog} {summary : Summary Violation}
    (hreason : s.refusal? job = none)
    (hacquire : s.layout.tryAcquire job.threads = some (cpus, layout))
    (hafter : phase = .dispatching ∨ ∃ panic, phase = .crashed panic)
    (hplace : tickets = s.tickets ++ [⟨job, cpus⟩] ∧ queue = s.queue ∨
      tickets = s.tickets ∧ queue = s.queue ++ [.released cpus]) :
    Consistent { s with
      layout := layout
      phase := phase
      pending := rest
      tickets := tickets
      queue := queue
      log := log
      summary := summary } (held ++ [⟨job, cpus⟩]) := by
  have hactive : (s.workers.map Worker.ticket ++ (held ++ [(⟨job, cpus⟩ : Ticket)])).Perm
      (⟨job, cpus⟩ :: (s.workers.map Worker.ticket ++ held)) := by
    rw [← List.append_assoc]
    exact List.perm_append_singleton _ _
  obtain ⟨gone, hheld, hgone⟩ := hc.places
  refine {
    busy_perm := hc.busy_perm_of_acquired hacquire hactive
    fits := hc.fits_of_acquired hreason hacquire hactive
    places := ?_
    nodup_tokens := hc.nodup_tokens
    issued_tokens := hc.issued_tokens
    started := hc.started
    at_rest := ?_
    pending_eq_nil := ?_ }
  · -- places
    rcases hplace with ⟨rfl, rfl⟩ | ⟨rfl, rfl⟩
    · refine ⟨gone, ?_, hgone⟩
      have hlast : (s.tickets ++ [(⟨job, cpus⟩ : Ticket)] ++ s.leaving ++ gone).Perm
          (s.tickets ++ s.leaving ++ gone ++ [⟨job, cpus⟩]) := by
        simp only [List.append_assoc]
        refine List.Perm.append_left _ ?_
        simpa using (List.perm_append_singleton (⟨job, cpus⟩ : Ticket) (s.leaving ++ gone)).symm
      exact (hheld.append_right _).trans hlast.symm
    · refine ⟨gone ++ [⟨job, cpus⟩], ?_, ?_⟩
      · rw [← List.append_assoc]
        exact hheld.append_right _
      · rw [List.filterMap_append, hgone, List.map_append]
        rfl
  · -- at_rest
    rcases hafter with rfl | ⟨panic, rfl⟩ <;> simp
  · -- pending_eq_nil
    rcases hafter with rfl | ⟨panic, rfl⟩ <;> simp

/-- A forked job has been started. -/
theorem Consistent.forked (hc : Consistent s held) {job : Job} {rest : List Job}
    {cpus : List Nat} {layout : CpuLayout} {worker : Worker} {host : Host}
    {summary : Summary Violation} (hphase : s.phase = .dispatching)
    (hreason : s.refusal? job = none)
    (hacquire : s.layout.tryAcquire job.threads = some (cpus, layout))
    (hprepared : Worker.Prepared worker (State.tokenOf (s.issued + 1)) job cpus) :
    Consistent { s with
      layout := layout
      pending := rest
      issued := s.issued + 1
      workers := s.workers ++ [worker.start host]
      summary := summary } held := by
  have hticket : (worker.start host).ticket = ⟨job, cpus⟩ := by
    rw [Worker.start_ticket, Worker.ticket, hprepared.job_eq, hprepared.cpus_eq]
  have hactive : ((s.workers ++ [worker.start host]).map Worker.ticket ++ held).Perm
      (⟨job, cpus⟩ :: (s.workers.map Worker.ticket ++ held)) := by
    rw [List.map_append, List.map_singleton, hticket, List.append_assoc]
    exact List.perm_middle
  have htokens : (s.workers ++ [worker.start host]).map (·.token) =
      s.liveTokens ++ [State.tokenOf (s.issued + 1)] := by
    rw [List.map_append, List.map_singleton, Worker.start_token, hprepared.token_eq]
    rfl
  refine {
    busy_perm := hc.busy_perm_of_acquired hacquire hactive
    fits := hc.fits_of_acquired hreason hacquire hactive
    places := hc.places
    nodup_tokens := ?_
    issued_tokens := ?_
    started := ?_
    at_rest := ?_
    pending_eq_nil := ?_ }
  · -- nodup_tokens
    unfold State.liveTokens
    rw [htokens]
    refine List.nodup_append.mpr ⟨hc.nodup_tokens, List.nodup_singleton _, ?_⟩
    rintro old hold new hnew rfl
    obtain ⟨n, hn, heq⟩ := hc.issued_tokens old hold
    have := tokenOf_injective (heq.symm.trans (List.mem_singleton.mp hnew))
    omega
  · -- issued_tokens
    intro token htoken
    unfold State.liveTokens at htoken
    rw [htokens] at htoken
    rcases List.mem_append.mp htoken with hold | hnew
    · obtain ⟨n, hn, heq⟩ := hc.issued_tokens token hold
      exact ⟨n, by exact Nat.lt_succ_of_lt hn, heq⟩
    · exact ⟨s.issued, by exact Nat.lt_succ_self _, List.mem_singleton.mp hnew⟩
  · -- started
    intro live hlive
    rcases List.mem_append.mp hlive with hold | hnew
    · exact hc.started live hold
    · rw [List.mem_singleton.mp hnew, hprepared.start_eq]
      exact ⟨_, rfl⟩
  · -- at_rest
    intro hrest
    simp [hphase] at hrest
  · -- pending_eq_nil
    intro hrest
    simp [hphase] at hrest

/-- The CPUs of an embedded job have been given back. -/
theorem Consistent.reclaimed (hc : Consistent s held) {cpus : List Nat} {rest : List Event}
    {layout : CpuLayout} {summary : Summary Violation} (hphase : s.phase.isActive = true)
    (hqueue : s.queue = .released cpus :: rest)
    (hrelease : s.layout.release cpus = (none, layout)) :
    Consistent { s with layout := layout, queue := rest, summary := summary }
      (held.eraseP fun ticket => ticket.cpus = cpus) := by
  obtain ⟨ticket, gone, rfl, hheld, hgone⟩ := hc.exists_of_released hqueue
  have hstill := hc.eraseP_perm hheld
  have hbusy := (CpuLayout.perm_of_release (hc.busy_perm_of_held hheld) hrelease).2
  refine { hc with
    busy_perm := hbusy.trans ((hstill.symm.append_left _).flatMap_right _)
    fits := ?_
    places := ⟨gone, hstill, hgone⟩
    at_rest := ?_ }
  · -- fits
    intro active hactive
    refine hc.fits active ?_
    rcases List.mem_append.mp hactive with hworker | hjob
    · exact List.mem_append_left _ hworker
    · exact List.mem_append_right _ (List.mem_of_mem_eraseP hjob)
  · -- at_rest
    intro hrest
    have hactive : s.phase.isActive = false := by
      rcases hrest with h | h <;> rw [show s.phase = _ from h] <;> rfl
    rw [hactive] at hphase
    contradiction

/-- Workers have been harvested. -/
theorem Consistent.reaped (hc : Consistent s held) {order : List Token} {layout : CpuLayout}
    {log : ResultLog} {summary : Summary Violation} (horder : order.Perm s.liveTokens)
    (hrelease : s.layout.release ((s.endings order).flatMap fun c => c.1.cpus) = (none, layout)) :
    Consistent { s with
      layout := layout
      workers := s.workers.filter fun worker => !worker.check.2.isOver
      log := log
      summary := summary } held := by
  have hsub : (s.workers.filter fun worker => !worker.check.2.isOver).Sublist s.workers :=
    List.filter_sublist
  have htokens := hsub.map fun worker => worker.token
  refine { hc with
    busy_perm := (CpuLayout.perm_of_release (hc.busy_perm_of_endings horder) hrelease).2
    fits := ?_
    nodup_tokens := hc.nodup_tokens.sublist htokens
    issued_tokens := fun token h => hc.issued_tokens token (htokens.subset h)
    started := fun worker h => hc.started worker (hsub.subset h)
    at_rest := ?_ }
  · -- fits
    intro ticket hticket
    refine hc.fits ticket ?_
    rcases List.mem_append.mp hticket with hworker | hjob
    · exact List.mem_append_left _ ((hsub.map _).subset hworker)
    · exact List.mem_append_right _ hjob
  · -- at_rest
    intro hrest
    obtain ⟨hworkers, hheld⟩ := hc.at_rest hrest
    refine ⟨?_, hheld⟩
    show s.workers.filter _ = []
    rw [hworkers]
    rfl

/-- A runner is done with an embedded job. -/
theorem Consistent.disposed (hc : Consistent s held) {position : Nat} {ticket : Ticket}
    {log : ResultLog} (hticket : s.tickets[position]? = some ticket) :
    Consistent { s with
      tickets := s.tickets.eraseIdx position
      leaving := s.leaving ++ [ticket]
      log := log } held := by
  obtain ⟨gone, hheld, hgone⟩ := hc.places
  obtain ⟨hlt, rfl⟩ := List.getElem?_eq_some_iff.mp hticket
  refine { hc with places := ⟨gone, hheld.trans (List.Perm.append_right gone ?_), hgone⟩ }
  have hback := (List.getElem_cons_eraseIdx_perm hlt).symm.append_right s.leaving
  refine hback.trans (List.perm_middle.symm.trans (List.Perm.append_left _ ?_))
  exact (List.perm_append_singleton _ _).symm

/-- An embedded job has said that it is done with its CPUs. -/
theorem Consistent.notified (hc : Consistent s held) {position : Nat} {ticket : Ticket}
    (hticket : s.leaving[position]? = some ticket) :
    Consistent { s with
      leaving := s.leaving.eraseIdx position
      queue := s.queue ++ [.released ticket.cpus] } held := by
  obtain ⟨gone, hheld, hgone⟩ := hc.places
  obtain ⟨hlt, rfl⟩ := List.getElem?_eq_some_iff.mp hticket
  refine { hc with places := ⟨gone ++ [s.leaving[position]], hheld.trans ?_, ?_⟩ }
  · have hback := (List.getElem_cons_eraseIdx_perm hlt).symm.append_right gone
    simp only [List.append_assoc]
    refine List.Perm.append_left _ (hback.trans ?_)
    rw [← List.append_assoc]
    exact (List.perm_append_singleton _ _).symm
  · rw [List.filterMap_append, hgone, List.map_append]
    rfl

/-- Every step keeps the accounts in order. -/
theorem Consistent.next (hc : Consistent s held) {setup : Setup} {move : Move} {after : State}
    {shown : List Effect} (h : Transition setup s move after shown) :
    Consistent after (shown.foldl Effect.hold held) := by
  cases h with
  | submitted jobs hphase =>
    have hrest := hc.at_rest (.inl hphase)
    exact { hc with
      at_rest := fun _ => hrest
      pending_eq_nil := by rintro (h | h | h) <;> simp at h }
  | resubmitted jobs hphase =>
    rw [foldl_hold_of_inert]
    · exact { hc with }
    · intro effect heffect held
      obtain ⟨job, -, rfl⟩ := List.mem_map.mp heffect
      rfl
  | refused job rest reason hphase hpending hreason =>
    exact { hc with pending_eq_nil := by rintro (h | h | h) <;> simp [hphase] at h }
  | kept job rest cpus layout hphase hpending hreason hdispatch hacquire hrunner =>
    exact hc.embedded hreason hacquire (.inl hphase) (.inl ⟨rfl, rfl⟩)
  | endedAtOnce job rest cpus layout result phase hphase hpending hreason hdispatch hacquire
      hrunner =>
    have hafter : phase = .dispatching ∨ ∃ panic, phase = .crashed panic := by
      generalize setup.runner job cpus = submission at hrunner
      cases hrunner with
      | finished => exact .inl rfl
      | dropped => exact .inl rfl
      | panicked panic => exact .inr ⟨panic, rfl⟩
    exact hc.embedded hreason hacquire hafter (.inr ⟨rfl, rfl⟩)
  | forked job rest cpus layout worker hphase hpending hreason hdispatch hacquire hprepare =>
    exact hc.forked hphase hreason hacquire (Worker.prepared_of_prepare hprepare)
  | unprepared job rest cpus layout fault hphase hpending hreason hdispatch hacquire hprepare =>
    exact { hc with
      issued_tokens := fun token h => by
        obtain ⟨n, hn, heq⟩ := hc.issued_tokens token h
        exact ⟨n, Nat.lt_succ_of_lt hn, heq⟩
      pending_eq_nil := by rintro (h | h | h) <;> simp [hphase] at h }
  | drained hphase hpending =>
    exact { hc with
      at_rest := by rintro (h | h) <;> simp at h
      pending_eq_nil := fun _ => hpending }
  | closed elapsed hphase hidle =>
    have hnone := (hc.nil_of_isIdle hidle)
    exact { hc with
      at_rest := fun _ => hnone
      pending_eq_nil := fun _ => hc.pending_eq_nil (.inr (.inl hphase)) }
  | pulled token rest worker hphase hqueue hworker =>
    exact (hc.dequeue hqueue rfl).updateWorker fun w _ _ => Worker.keeps_takeJob w
  | pulledUnknown token rest hphase hqueue hworker =>
    exact { hc.dequeue hqueue rfl with }
  | pushed token result rest worker recorded hphase hqueue hworker hrecord =>
    exact (hc.dequeue hqueue rfl).updateWorker (hc.keeps_recorded hworker hrecord)
  | pushedAgain token result rest worker violation hphase hqueue hworker hrecord =>
    exact { hc.dequeue hqueue rfl with }
  | pushedUnknown token result rest hphase hqueue hworker =>
    exact { hc.dequeue hqueue rfl with }
  | reclaimed cpus rest layout hphase hqueue hrelease =>
    exact hc.reclaimed hphase hqueue hrelease
  | killed token rest hphase hqueue =>
    exact (hc.dequeue hqueue rfl).updateWorker fun w _ _ => Worker.keeps_mapProcess w _
  | reaped order layout hphase horder hrelease =>
    rw [foldl_hold_of_inert]
    · exact hc.reaped horder hrelease
    · intro effect heffect held
      cases ofReap_of_mem heffect <;> rfl
  | requested event hevent =>
    obtain ⟨gone, hheld, hgone⟩ := hc.places
    exact { hc with places := ⟨gone, hheld, (cpus_of_requested hevent).trans hgone⟩ }
  | finished position result ticket hticket => exact hc.disposed hticket
  | abandoned position ticket hticket => exact hc.disposed hticket
  | notified position ticket hticket => exact hc.notified hticket
  | exited token exit => exact hc.updateWorker fun w _ _ => Worker.keeps_mapProcess w _
  | lost token fault => exact hc.updateWorker fun w _ _ => Worker.keeps_mapProcess w _

end Steps

end StressBatch.Scheduler
