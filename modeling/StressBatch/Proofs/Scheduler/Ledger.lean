import StressBatch.Proofs.Scheduler.Results

/-!
# The ledger of a run

A ledger relates every job that was handed to a scheduler to the place where it is: pending, with an
embedded runner, with a live worker, or in the log by way of the result that was passed on for it.
Every step keeps the ledger in order, and the counts of the summary with it.
-/

namespace StressBatch.Scheduler

/-! ## Jobs and where they are -/

/-- Whether a scheduler with a number of CPUs refuses a job. -/
def isRefused (capacity : Nat) (job : Job) : Bool :=
  job.validate ≠ .ok () ∨ capacity < job.threads

/-- The mode in which a job was started that a result is passed on for; none if it was refused. -/
def Origin.mode? : Origin → Option DispatchMode
  | .refused _ => none
  | .embedded _ => some .embedded
  | .forked _ _ => some .forked

/-- How the job of an origin is treated by a scheduler with a number of CPUs. -/
def treatment (capacity : Nat) (job : Job) : Option DispatchMode :=
  if isRefused capacity job then none else some job.dispatch

/-- How many results were passed on for jobs that were started in a mode, or refused. -/
def tally (mode : Option DispatchMode) (results : List (Origin × TestResult)) : Nat :=
  results.countP fun r => r.1.mode? = mode

@[simp] theorem tally_append (mode : Option DispatchMode)
    (results more : List (Origin × TestResult)) :
    tally mode (results ++ more) = tally mode results + tally mode more :=
  List.countP_append

@[simp] theorem tally_singleton (mode : Option DispatchMode) (origin : Origin)
    (result : TestResult) :
    tally mode [(origin, result)] = if origin.mode? = mode then 1 else 0 := by
  simp [tally]

/-- The jobs that a move hands over. -/
def Move.jobs? : Move → Option (List Job)
  | .submit jobs => some jobs
  | _ => none

/-- Where the jobs of a run are, and that the counts of the summary agree with it. -/
structure Ledger (capacity : Nat) (jobs : List Job) (s : State)
    (results : List (Origin × TestResult)) : Prop where
  /-- Every job is pending, kept by a runner, with a live worker, or it has a result. -/
  jobs_perm : jobs.Perm (s.pending ++ (s.tickets ++ s.workers.map Worker.ticket).map Ticket.job ++
    results.map fun r => r.1.job)
  /-- All jobs that are not pending have been counted. -/
  jobs_eq : s.summary.jobs + s.pending.length = jobs.length
  /-- The refused jobs have been counted. -/
  rejected_eq : s.summary.rejected = tally none results
  /-- The forked jobs that are over have been counted, each as passed or as made up. -/
  ended_eq : s.summary.forkedPassed + s.summary.synthesizedFailures =
    tally (some .forked) results
  /-- The embedded jobs have been counted when they were started. -/
  dispatched_eq : s.summary.embeddedDispatched =
    tally (some .embedded) results + s.tickets.length
  /-- The embedded jobs have been counted when they gave their CPUs back. -/
  completed_eq : s.summary.embeddedCompleted + s.leaving.length +
    (s.queue.filterMap Event.cpus?).length = tally (some .embedded) results
  /-- A result says truly how its job was treated. -/
  origins : ∀ r ∈ results, r.1.mode? = treatment capacity r.1.job
  /-- Runners keep embedded jobs. -/
  tickets : ∀ ticket ∈ s.tickets, treatment capacity ticket.job = some .embedded
  /-- Live workers have forked jobs. -/
  workers : ∀ ticket ∈ s.workers.map Worker.ticket, treatment capacity ticket.job = some .forked

/-! ## What a step preserves -/

section Steps

variable {capacity : Nat} {jobs : List Job} {s : State} {held : List Ticket}
  {results : List (Origin × TestResult)}

theorem treatment_of_refused {job : Job} {reason : String}
    (h : s.refusal? job = some reason) : treatment s.layout.capacity job = none := by
  have hne : ¬ (job.Sound ∧ job.threads ≤ s.layout.capacity) := by
    rw [← State.refusal?_eq_none_iff, h]
    simp
  unfold treatment
  rw [if_pos]
  unfold isRefused
  rw [decide_eq_true_iff, Ne, Job.validate_eq_ok_iff]
  by_contra hor
  obtain ⟨hsound, hle⟩ := not_or.mp hor
  exact hne ⟨not_not.mp hsound, by omega⟩

theorem treatment_of_accepted {job : Job} (h : s.refusal? job = none) :
    treatment s.layout.capacity job = some job.dispatch := by
  obtain ⟨hsound, hle⟩ := State.refusal?_eq_none_iff.mp h
  unfold treatment
  rw [if_neg]
  unfold isRefused
  rw [decide_eq_true_iff, Ne, Job.validate_eq_ok_iff]
  rintro (hne | hlt)
  · exact hne hsound
  · omega

/-- Workers that keep their accounts keep their place in the ledger. -/
theorem Ledger.of_tickets_eq (hl : Ledger capacity jobs s results) {workers : List Worker}
    {queue : List Event} {violations : List Violation}
    (hworkers : workers.map Worker.ticket = s.workers.map Worker.ticket)
    (hqueue : queue.filterMap Event.cpus? = s.queue.filterMap Event.cpus?) :
    Ledger capacity jobs { s with
      workers := workers
      queue := queue
      summary := { s.summary with violations := violations } } results := by
  refine { hl with jobs_perm := ?_, completed_eq := ?_, workers := ?_ }
  · -- jobs_perm
    rw [hworkers]
    exact hl.jobs_perm
  · -- completed_eq
    rw [hqueue]
    exact hl.completed_eq
  · -- workers
    rw [hworkers]
    exact hl.workers

/-- The first pending job is over at once. -/
theorem Ledger.passed_pending (hl : Ledger capacity jobs s results) {job : Job} {rest : List Job}
    (hpending : s.pending = job :: rest) {origin : Origin} {result : TestResult}
    (horigin : origin.job = job) :
    jobs.Perm (rest ++ (s.tickets ++ s.workers.map Worker.ticket).map Ticket.job ++
      (results ++ [(origin, result)]).map fun r => r.1.job) := by
  have hperm := hl.jobs_perm
  rw [hpending] at hperm
  have hlast : ((results ++ [(origin, result)]).map fun r => r.1.job) =
      (results.map fun r => r.1.job) ++ [job] := by
    rw [List.map_append, ← horigin]
    rfl
  refine hperm.trans ?_
  rw [hlast, List.cons_append, List.cons_append, ← List.append_assoc]
  exact (List.perm_append_singleton _ _).symm

/-- The first pending job is started and stays active. -/
theorem Ledger.started_pending (hl : Ledger capacity jobs s results) {job : Job} {rest : List Job}
    (hpending : s.pending = job :: rest) {active : List Ticket} {cpus : List Nat}
    (hactive : active.Perm (⟨job, cpus⟩ :: (s.tickets ++ s.workers.map Worker.ticket))) :
    jobs.Perm (rest ++ active.map Ticket.job ++ results.map fun r => r.1.job) := by
  have hperm := hl.jobs_perm
  rw [hpending] at hperm
  refine hperm.trans (List.Perm.append_right _ ?_)
  refine List.Perm.trans ?_ ((hactive.symm.map _).append_left rest)
  rw [List.map_cons]
  exact List.perm_middle.symm

theorem Ledger.origins_concat (hl : Ledger capacity jobs s results) {origin : Origin}
    {result : TestResult} (h : origin.mode? = treatment capacity origin.job) :
    ∀ r ∈ results ++ [(origin, result)], r.1.mode? = treatment capacity r.1.job := by
  intro r hr
  rcases List.mem_append.mp hr with hold | hnew
  · exact hl.origins r hold
  · rw [List.mem_singleton.mp hnew]
    exact h

theorem Ledger.refused (hl : Ledger capacity jobs s results) (hcap : s.layout.capacity = capacity)
    {job : Job} {rest : List Job} {reason : String} {result : TestResult}
    (hpending : s.pending = job :: rest) (hreason : s.refusal? job = some reason) :
    Ledger capacity jobs { s with
      pending := rest
      log := s.log.add result
      summary := { s.summary with
        jobs := s.summary.jobs + 1
        rejected := s.summary.rejected + 1 } } (results ++ [(.refused job, result)]) := by
  have hjobs := hl.jobs_eq
  rw [hpending, List.length_cons] at hjobs
  refine {
    jobs_perm := hl.passed_pending hpending rfl
    jobs_eq := by simp only; omega
    rejected_eq := ?_
    ended_eq := ?_
    dispatched_eq := ?_
    completed_eq := ?_
    origins := hl.origins_concat (hcap ▸ (treatment_of_refused hreason).symm)
    tickets := hl.tickets
    workers := hl.workers }
  · simp [hl.rejected_eq, Origin.mode?]
  · simp [hl.ended_eq, Origin.mode?]
  · simp [hl.dispatched_eq, Origin.mode?]
  · simp [hl.completed_eq, Origin.mode?]

theorem Ledger.kept (hl : Ledger capacity jobs s results) (hcap : s.layout.capacity = capacity)
    {job : Job} {rest : List Job} {cpus : List Nat} {layout : CpuLayout}
    (hpending : s.pending = job :: rest) (hreason : s.refusal? job = none)
    (hdispatch : job.dispatch = .embedded) :
    Ledger capacity jobs { s with
      layout := layout
      pending := rest
      tickets := s.tickets ++ [⟨job, cpus⟩]
      summary := { s.summary with
        jobs := s.summary.jobs + 1
        embeddedDispatched := s.summary.embeddedDispatched + 1 } } results := by
  have hjobs := hl.jobs_eq
  rw [hpending, List.length_cons] at hjobs
  have hactive : (s.tickets ++ [(⟨job, cpus⟩ : Ticket)] ++ s.workers.map Worker.ticket).Perm
      (⟨job, cpus⟩ :: (s.tickets ++ s.workers.map Worker.ticket)) := by
    rw [List.append_assoc]
    exact List.perm_middle
  refine { hl with
    jobs_perm := hl.started_pending hpending hactive
    jobs_eq := by simp only; omega
    dispatched_eq := ?_
    tickets := ?_ }
  · -- dispatched_eq
    simp only [hl.dispatched_eq, List.length_append, List.length_singleton]
    omega
  · -- tickets
    intro ticket hticket
    rcases List.mem_append.mp hticket with hold | hnew
    · exact hl.tickets ticket hold
    · rw [List.mem_singleton.mp hnew, ← hcap, treatment_of_accepted hreason, hdispatch]

theorem Ledger.endedAtOnce (hl : Ledger capacity jobs s results)
    (hcap : s.layout.capacity = capacity) {job : Job} {rest : List Job} {cpus : List Nat}
    {layout : CpuLayout} {phase : Phase} {result : TestResult}
    (hpending : s.pending = job :: rest) (hreason : s.refusal? job = none)
    (hdispatch : job.dispatch = .embedded) :
    Ledger capacity jobs { s with
      layout := layout
      phase := phase
      pending := rest
      queue := s.queue ++ [.released cpus]
      log := s.log.add result
      summary := { s.summary with
        jobs := s.summary.jobs + 1
        embeddedDispatched := s.summary.embeddedDispatched + 1 } }
      (results ++ [(.embedded ⟨job, cpus⟩, result)]) := by
  have hjobs := hl.jobs_eq
  rw [hpending, List.length_cons] at hjobs
  have hmode : (Origin.embedded ⟨job, cpus⟩).mode? = treatment capacity job := by
    rw [← hcap, treatment_of_accepted hreason, hdispatch]
    rfl
  refine {
    jobs_perm := hl.passed_pending hpending rfl
    jobs_eq := by simp only; omega
    rejected_eq := ?_
    ended_eq := ?_
    dispatched_eq := ?_
    completed_eq := ?_
    origins := hl.origins_concat hmode
    tickets := hl.tickets
    workers := hl.workers }
  · simp [hl.rejected_eq, Origin.mode?]
  · simp [hl.ended_eq, Origin.mode?]
  · simp [hl.dispatched_eq, Origin.mode?]
    omega
  · have hcompleted := hl.completed_eq
    simp [Origin.mode?, Event.cpus?]
    omega

theorem Ledger.forked (hl : Ledger capacity jobs s results) (hcap : s.layout.capacity = capacity)
    {job : Job} {rest : List Job} {cpus : List Nat} {layout : CpuLayout} {worker : Worker}
    (hpending : s.pending = job :: rest) (hreason : s.refusal? job = none)
    (hdispatch : job.dispatch = .forked) (hticket : worker.ticket = ⟨job, cpus⟩) :
    Ledger capacity jobs { s with
      layout := layout
      pending := rest
      issued := s.issued + 1
      workers := s.workers ++ [worker]
      summary := { s.summary with
        jobs := s.summary.jobs + 1
        forkedDispatched := s.summary.forkedDispatched + 1 } } results := by
  have hjobs := hl.jobs_eq
  rw [hpending, List.length_cons] at hjobs
  have hactive : (s.tickets ++ (s.workers ++ [worker]).map Worker.ticket).Perm
      (⟨job, cpus⟩ :: (s.tickets ++ s.workers.map Worker.ticket)) := by
    rw [List.map_append, List.map_singleton, hticket, ← List.append_assoc]
    exact List.perm_append_singleton _ _
  refine { hl with
    jobs_perm := hl.started_pending hpending hactive
    jobs_eq := by simp only; omega
    workers := ?_ }
  intro ticket h
  rw [List.map_append, List.map_singleton, hticket] at h
  rcases List.mem_append.mp h with hold | hnew
  · exact hl.workers ticket hold
  · rw [List.mem_singleton.mp hnew, ← hcap, treatment_of_accepted hreason, hdispatch]

theorem Ledger.unprepared (hl : Ledger capacity jobs s results)
    (hcap : s.layout.capacity = capacity) {job : Job} {rest : List Job} {token : Token}
    {result : TestResult} (hpending : s.pending = job :: rest) (hreason : s.refusal? job = none)
    (hdispatch : job.dispatch = .forked) :
    Ledger capacity jobs { s with
      pending := rest
      issued := s.issued + 1
      log := s.log.add result
      summary := { s.summary with
        jobs := s.summary.jobs + 1
        synthesizedFailures := s.summary.synthesizedFailures + 1 } }
      (results ++ [(.forked token job, result)]) := by
  have hjobs := hl.jobs_eq
  rw [hpending, List.length_cons] at hjobs
  have hmode : (Origin.forked token job).mode? = treatment capacity job := by
    rw [← hcap, treatment_of_accepted hreason, hdispatch]
    rfl
  refine {
    jobs_perm := hl.passed_pending hpending rfl
    jobs_eq := by simp only; omega
    rejected_eq := ?_
    ended_eq := ?_
    dispatched_eq := ?_
    completed_eq := ?_
    origins := hl.origins_concat hmode
    tickets := hl.tickets
    workers := hl.workers }
  · simp [hl.rejected_eq, Origin.mode?]
  · have hended := hl.ended_eq
    simp [Origin.mode?]
    omega
  · simp [hl.dispatched_eq, Origin.mode?]
  · simp [hl.completed_eq, Origin.mode?]

theorem Ledger.reaped (hl : Ledger capacity jobs s results) (hc : Consistent s held)
    {order : List Token} {layout : CpuLayout} (horder : order.Perm s.liveTokens) :
    Ledger capacity jobs { s with
      layout := layout
      workers := s.workers.filter fun worker => !worker.check.2.isOver
      log := ⟨s.log.results ++ ((s.checks order).filterMap fun c => c.2.result?) ++
        (s.endings order).filterMap madeUp?⟩
      summary := { s.summary with
        forkedPassed := s.summary.forkedPassed + (s.endings order).countP hasPassed
        synthesizedFailures :=
          s.summary.synthesizedFailures + (s.endings order).countP (!hasPassed ·)
        violations := s.summary.violations ++ (s.endings order).filterMap violation? } }
      (results ++ passed ((s.checks order).filterMap State.reportEffect? ++
        (s.endings order).flatMap harvestEffects)) := by
  have hperm := hc.passed_reap horder
  set new := passed ((s.checks order).filterMap State.reportEffect? ++
    (s.endings order).flatMap harvestEffects)
  have horigins : (new.map Prod.fst).Perm
      ((s.workers.filter fun worker => worker.check.2.isOver).map fun worker =>
        .forked worker.token worker.job) := by
    rw [← hc.due_origins]
    exact hperm.map Prod.fst
  have htally : ∀ mode, tally mode new =
      if mode = some .forked then (s.endings order).length else 0 := by
    intro mode
    have hmap : tally mode new = (new.map Prod.fst).countP fun origin => origin.mode? = mode := by
      rw [List.countP_map]
      rfl
    rw [hmap, horigins.countP_eq, List.countP_map, hc.length_endings horder]
    by_cases hmode : mode = some .forked
    · rw [if_pos hmode, List.countP_eq_length]
      intro worker _
      simp [Origin.mode?, hmode]
    · rw [if_neg hmode, List.countP_eq_zero]
      intro worker _
      simp [Origin.mode?, Ne.symm hmode]
  have hjobs : (new.map fun r => r.1.job).Perm
      (((s.workers.filter fun worker => worker.check.2.isOver).map Worker.ticket).map
        Ticket.job) := by
    have := horigins.map Origin.job
    rw [List.map_map, List.map_map] at this
    rw [List.map_map]
    exact this
  have hworkers : (s.workers.map Worker.ticket).Perm
      ((s.workers.filter fun worker => worker.check.2.isOver).map Worker.ticket ++
        (s.workers.filter fun worker => !worker.check.2.isOver).map Worker.ticket) := by
    rw [← List.map_append]
    exact (List.filter_append_perm _ s.workers).symm.map _
  refine { hl with
    jobs_perm := ?_
    rejected_eq := ?_
    ended_eq := ?_
    dispatched_eq := ?_
    completed_eq := ?_
    origins := ?_
    workers := ?_ }
  · -- jobs_perm
    refine hl.jobs_perm.trans ?_
    have hcounts := hworkers.map Ticket.job
    rw [List.perm_iff_count] at hcounts hjobs ⊢
    intro job
    have hworker := hcounts job
    have hjob := hjobs job
    simp only [List.map_append, List.count_append] at hworker hjob ⊢
    omega
  · -- rejected_eq
    rw [tally_append, htally, hl.rejected_eq]
    simp
  · -- ended_eq
    have hended := hl.ended_eq
    have hsplit := List.length_eq_countP_add_countP hasPassed (l := s.endings order)
    rw [tally_append, htally, if_pos rfl]
    simp only [Bool.not_eq_true, Bool.decide_eq_false] at hsplit ⊢
    omega
  · -- dispatched_eq
    rw [tally_append, htally, hl.dispatched_eq]
    simp
  · -- completed_eq
    rw [tally_append, htally, if_neg (by simp)]
    exact hl.completed_eq
  · -- origins
    intro r hr
    rcases List.mem_append.mp hr with hold | hnew
    · exact hl.origins r hold
    · obtain ⟨worker, hworker, horigin⟩ := List.mem_map.mp
        (horigins.mem_iff.mp (List.mem_map_of_mem hnew))
      rw [← horigin]
      exact (hl.workers worker.ticket
        (List.mem_map_of_mem (List.mem_filter.mp hworker).1)).symm
  · -- workers
    intro ticket hticket
    exact hl.workers ticket ((List.filter_sublist.map _).subset hticket)

theorem Ledger.reclaimed (hl : Ledger capacity jobs s results) {cpus : List Nat}
    {rest : List Event} {layout : CpuLayout} (hqueue : s.queue = .released cpus :: rest) :
    Ledger capacity jobs { s with
      layout := layout
      queue := rest
      summary := { s.summary with embeddedCompleted := s.summary.embeddedCompleted + 1 } }
      results := by
  have hcompleted := hl.completed_eq
  have hhead : (Event.released cpus).cpus? = some cpus := rfl
  rw [hqueue, List.filterMap_cons_some hhead, List.length_cons] at hcompleted
  exact { hl with completed_eq := by simp only; omega }

theorem Ledger.disposed (hl : Ledger capacity jobs s results) {position : Nat} {ticket : Ticket}
    (result : TestResult) (hticket : s.tickets[position]? = some ticket) :
    Ledger capacity jobs { s with
      tickets := s.tickets.eraseIdx position
      leaving := s.leaving ++ [ticket]
      log := s.log.add result } (results ++ [(.embedded ticket, result)]) := by
  obtain ⟨hlt, rfl⟩ := List.getElem?_eq_some_iff.mp hticket
  have hperm := List.getElem_cons_eraseIdx_perm hlt
  refine { hl with
    jobs_perm := ?_
    rejected_eq := ?_
    ended_eq := ?_
    dispatched_eq := ?_
    completed_eq := ?_
    origins := hl.origins_concat (hl.tickets _ (List.getElem_mem hlt)).symm
    tickets := fun t h => hl.tickets t (List.mem_of_mem_eraseIdx h) }
  · -- jobs_perm
    refine hl.jobs_perm.trans ?_
    have hcounts := hperm.map Ticket.job
    rw [List.perm_iff_count] at hcounts ⊢
    intro job
    have hcount := hcounts job
    simp only [List.map_append, List.map_cons, List.map_nil, List.count_append, List.count_cons,
      List.count_nil, Origin.job] at hcount ⊢
    omega
  · -- rejected_eq
    simp [hl.rejected_eq, Origin.mode?]
  · -- ended_eq
    simp [hl.ended_eq, Origin.mode?]
  · -- dispatched_eq
    have hdispatched := hl.dispatched_eq
    have hlength := hperm.length_eq
    rw [List.length_cons] at hlength
    simp [Origin.mode?]
    omega
  · -- completed_eq
    have hcompleted := hl.completed_eq
    simp [Origin.mode?]
    omega

theorem Ledger.notified (hl : Ledger capacity jobs s results) {position : Nat} {ticket : Ticket}
    (hticket : s.leaving[position]? = some ticket) :
    Ledger capacity jobs { s with
      leaving := s.leaving.eraseIdx position
      queue := s.queue ++ [.released ticket.cpus] } results := by
  obtain ⟨hlt, rfl⟩ := List.getElem?_eq_some_iff.mp hticket
  have hcompleted := hl.completed_eq
  have hlength := (List.getElem_cons_eraseIdx_perm hlt).length_eq
  rw [List.length_cons] at hlength
  refine { hl with completed_eq := ?_ }
  simp [Event.cpus?]
  omega

/-- Every step other than handing over more jobs keeps the ledger in order. -/
theorem Ledger.next (hl : Ledger capacity jobs s results) (hc : Consistent s held)
    (hcap : s.layout.capacity = capacity) {setup : Setup} {move : Move} {after : State}
    {shown : List Effect} (hmove : move.jobs? = none) (h : Transition setup s move after shown) :
    Ledger capacity jobs after (results ++ passed shown) := by
  have hnone : results = results ++ passed [] := (List.append_nil results).symm
  cases h with
  | submitted jobs hphase => simp [Move.jobs?] at hmove
  | resubmitted jobs hphase => simp [Move.jobs?] at hmove
  | refused job rest reason hphase hpending hreason => exact hl.refused hcap hpending hreason
  | kept job rest cpus layout hphase hpending hreason hdispatch hacquire hrunner =>
    exact hnone ▸ hl.kept hcap hpending hreason hdispatch
  | endedAtOnce job rest cpus layout result phase hphase hpending hreason hdispatch hacquire
      hrunner => exact hl.endedAtOnce hcap hpending hreason hdispatch
  | forked job rest cpus layout worker hphase hpending hreason hdispatch hacquire hprepare =>
    have hprepared := Worker.prepared_of_prepare hprepare
    have hticket : (worker.start setup.host).ticket = ⟨job, cpus⟩ := by
      rw [Worker.start_ticket, Worker.ticket, hprepared.job_eq, hprepared.cpus_eq]
    exact hnone ▸ hl.forked hcap hpending hreason hdispatch hticket
  | unprepared job rest cpus layout fault hphase hpending hreason hdispatch hacquire hprepare =>
    exact hl.unprepared hcap hpending hreason hdispatch
  | drained hphase hpending => exact hnone ▸ { hl with }
  | closed elapsed hphase hidle => exact hnone ▸ { hl with }
  | pulled token rest worker hphase hqueue hworker =>
    have hworkers : (s.updateWorker token fun w => w.takeJob.2).workers.map Worker.ticket =
        s.workers.map Worker.ticket := tickets_updateWorker fun w _ _ => Worker.keeps_takeJob w
    exact hnone ▸ hl.of_tickets_eq hworkers (cpus_of_dequeued hqueue rfl)
  | pulledUnknown token rest hphase hqueue hworker =>
    exact hnone ▸ hl.of_tickets_eq rfl (cpus_of_dequeued hqueue rfl)
  | pushed token result rest worker recorded hphase hqueue hworker hrecord =>
    have hworkers := tickets_updateWorker (hc.keeps_recorded hworker hrecord)
    exact hnone ▸ hl.of_tickets_eq hworkers (cpus_of_dequeued hqueue rfl)
  | pushedAgain token result rest worker violation hphase hqueue hworker hrecord =>
    exact hnone ▸ hl.of_tickets_eq rfl (cpus_of_dequeued hqueue rfl)
  | pushedUnknown token result rest hphase hqueue hworker =>
    exact hnone ▸ hl.of_tickets_eq rfl (cpus_of_dequeued hqueue rfl)
  | reclaimed cpus rest layout hphase hqueue hrelease =>
    exact hnone ▸ hl.reclaimed hqueue
  | killed token rest hphase hqueue =>
    exact hnone ▸ hl.of_tickets_eq (tickets_mapProcess s token _) (cpus_of_dequeued hqueue rfl)
  | reaped order layout hphase horder hrelease => exact hl.reaped hc horder
  | requested event hevent =>
    exact hnone ▸ hl.of_tickets_eq rfl (cpus_of_requested hevent)
  | finished position result ticket hticket => exact hl.disposed result hticket
  | abandoned position ticket hticket => exact hl.disposed _ hticket
  | notified position ticket hticket => exact hnone ▸ hl.notified hticket
  | exited token exit => exact hnone ▸ hl.of_tickets_eq (tickets_mapProcess s token _) rfl
  | lost token fault => exact hnone ▸ hl.of_tickets_eq (tickets_mapProcess s token _) rfl

end Steps

end StressBatch.Scheduler
