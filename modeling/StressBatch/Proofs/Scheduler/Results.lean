import StressBatch.Proofs.Scheduler.Trace

/-!
# Results that are passed on

Which results the effects of a step pass on, and for what. A reap passes on one result for every
worker that is over and none for any other, though not in the order of the workers: the results that
workers report come first, those that have to be made up after them.
-/

namespace StressBatch.Scheduler

/-- The result that an effect passes on, and what for. -/
def Effect.passed? : Effect → Option (Origin × TestResult)
  | .passedOn origin result => some (origin, result)
  | _ => none

/-- The results that are passed on, in order. -/
def passed (effects : List Effect) : List (Origin × TestResult) := effects.filterMap Effect.passed?

@[simp] theorem passed_nil : passed [] = [] := rfl

@[simp] theorem passed_append (effects more : List Effect) :
    passed (effects ++ more) = passed effects ++ passed more :=
  List.filterMap_append

/-- The result that is passed on because of a check, and what for. -/
def owed? (checked : Worker × Checked) : Option (Origin × TestResult) :=
  match checked.2 with
  | .reported result => some (.forked checked.1.token checked.1.job, result)
  | .violated violation =>
    some (.forked checked.1.token checked.1.job, (checked.1.violationResult violation).1)
  | _ => none

/-- The result that a reap passes on for a live worker. -/
def due? (worker : Worker) : Option (Origin × TestResult) := owed? worker.check

/-! ## The results of a reap -/

theorem passed_reported (checked : List (Worker × Checked)) :
    (passed (checked.filterMap State.reportEffect?)).map Prod.snd =
      checked.filterMap fun c => c.2.result? := by
  induction checked with
  | nil => rfl
  | cons first rest ih =>
    obtain ⟨worker, found⟩ := first
    unfold passed at ih ⊢
    cases found <;> simpa [List.filterMap_cons, State.reportEffect?, Checked.result?,
      Effect.passed?] using ih

theorem passed_harvested (checked : List (Worker × Checked)) :
    (passed (checked.flatMap harvestEffects)).map Prod.snd = checked.filterMap madeUp? := by
  induction checked with
  | nil => rfl
  | cons first rest ih =>
    obtain ⟨worker, found⟩ := first
    rw [List.flatMap_cons, passed_append, List.map_append, ih]
    cases found <;> simp [passed, harvestEffects, Effect.passed?, List.filterMap_cons, madeUp?,
      violation?]

/-- A reap passes on what is owed, each result once. -/
theorem passed_reap_perm (checked : List (Worker × Checked)) :
    (passed (checked.filterMap State.reportEffect? ++
      (checked.filter fun c => c.2.isOver).flatMap harvestEffects)).Perm
      (checked.filterMap owed?) := by
  induction checked with
  | nil => exact List.Perm.refl _
  | cons first rest ih =>
    obtain ⟨worker, found⟩ := first
    rw [passed_append] at ih ⊢
    cases found with
    | unfinished => exact ih
    | finished => exact ih
    | reported result => exact ih.cons _
    | violated violation => exact List.perm_middle.trans (ih.cons _)

/-! ## The log -/

/-- Every step puts into the log what it passes on. -/
theorem log_of_transition {s after : State} {setup : Setup} {move : Move} {shown : List Effect}
    (h : Transition setup s move after shown) :
    after.log.results = s.log.results ++ (passed shown).map Prod.snd := by
  cases h with
  | resubmitted jobs hphase =>
    have hpassed : ∀ jobs : List Job, (passed (jobs.map fun job =>
        Effect.passedOn (.refused job) (State.refusal job State.alreadyRun))).map Prod.snd =
        jobs.map fun job => State.refusal job State.alreadyRun := by
      intro jobs
      induction jobs with
      | nil => rfl
      | cons job jobs ih => exact congrArg (List.cons _) ih
    rw [hpassed]
  | reaped order layout hphase horder hrelease =>
    rw [passed_append, List.map_append, passed_reported, passed_harvested, List.append_assoc]
  | refused job rest reason hphase hpending hreason => rfl
  | endedAtOnce job rest cpus layout result phase hphase hpending hreason hdispatch hacquire
      hrunner => rfl
  | unprepared job rest cpus layout fault hphase hpending hreason hdispatch hacquire hprepare =>
    rfl
  | finished position result ticket hticket => rfl
  | abandoned position ticket hticket => rfl
  | _ => exact (List.append_nil s.log.results).symm

/-- The log of a run holds what the run has passed on. -/
theorem log_trace (capacity : Nat) (acts : List Act) :
    ((State.ofCapacity capacity).trace acts).1.log.results =
      (passed ((State.ofCapacity capacity).trace acts).2).map Prod.snd := by
  refine (consistent_ofCapacity capacity).trace_induction
    (P := fun t shown => t.log.results = (passed shown).map Prod.snd) rfl ?_
  intro act before after active shown new _ _ h hbefore
  rw [passed_append, List.map_append, ← hbefore]
  exact log_of_transition h

section Reap

variable {s : State} {held : List Ticket} {order : List Token}

/-- What is owed for the live workers is passed on by a reap, in whichever order it checks. -/
theorem Consistent.passed_reap (hc : Consistent s held) (horder : order.Perm s.liveTokens) :
    (passed ((s.checks order).filterMap State.reportEffect? ++
      (s.endings order).flatMap harvestEffects)).Perm (s.workers.filterMap due?) := by
  refine (passed_reap_perm (s.checks order)).trans ?_
  have hchecks := (State.checks_perm hc.nodup_tokens horder).filterMap owed?
  rw [List.filterMap_map] at hchecks
  exact hchecks

/-- A scheduler that checks on its workers passes on what is owed for them. -/
theorem Consistent.passed_of_reaping (hc : Consistent s held) (hactive : s.phase.isActive = true)
    (horder : order.Perm s.liveTokens) (setup : Setup) :
    (passed (s.step setup (.reap order)).2).Perm (s.workers.filterMap due?) := by
  have h := hc.transition_of_reaping hactive horder setup
  generalize (s.step setup (.reap order)).1 = after, (s.step setup (.reap order)).2 = shown at h
  cases h with
  | reaped order layout hphase horder hrelease => exact hc.passed_reap horder

/-- A worker is owed a result exactly if it is over, and the result is one of its job. -/
theorem Consistent.owed_cases (hc : Consistent s held) {worker : Worker}
    (hworker : worker ∈ s.workers) :
    worker.check.2.isOver = false ∧ due? worker = none ∨
      worker.check.2.isOver = true ∧
        ∃ result, due? worker = some (.forked worker.token worker.job, result) := by
  obtain ⟨process, hprocess⟩ := hc.started worker hworker
  have hjob : worker.check.1.job = worker.job := congrArg Ticket.job (Worker.check_ticket worker)
  have htoken := Worker.check_token worker
  cases hover : process.isOver with
  | false =>
    unfold due?
    rw [Worker.check_of_running hprocess hover]
    exact .inl ⟨rfl, rfl⟩
  | true =>
    have hover := Worker.check_of_over hprocess hover
    refine .inr ⟨hover.isOver, ?_⟩
    unfold due? owed?
    rw [hjob, htoken]
    generalize worker.check.2 = found at hover
    cases hover with
    | reported passed result hphase => exact ⟨_, rfl⟩
    | violated hphase => exact ⟨_, rfl⟩

/-- What the results are passed on for that are owed for live workers. -/
theorem Consistent.due_origins (hc : Consistent s held) :
    (s.workers.filterMap due?).map Prod.fst =
      (s.workers.filter fun worker => worker.check.2.isOver).map fun worker =>
        .forked worker.token worker.job := by
  have hall : ∀ workers : List Worker, (∀ worker ∈ workers, worker ∈ s.workers) →
      (workers.filterMap due?).map Prod.fst =
        (workers.filter fun worker => worker.check.2.isOver).map fun worker =>
          .forked worker.token worker.job := by
    intro workers hsub
    induction workers with
    | nil => rfl
    | cons first rest ih =>
      have hrest := ih fun worker h => hsub worker (List.mem_cons_of_mem first h)
      have hcases := hc.owed_cases (hsub first List.mem_cons_self)
      rcases hcases with ⟨hover, hdue⟩ | ⟨hover, result, hdue⟩
      · rw [List.filterMap_cons_none hdue, List.filter_cons_of_neg (by simp [hover]), hrest]
      · rw [List.filterMap_cons_some hdue, List.filter_cons_of_pos (by exact hover), List.map_cons,
          List.map_cons, hrest]
  exact hall s.workers fun worker h => h

/-- What a step passes a result on for. -/
inductive PassedOn (s : State) : Origin × TestResult → Prop where
  /-- A job is refused. -/
  | refused (job : Job) (reason : String) : PassedOn s (.refused job, State.refusal job reason)
  /-- An embedded job comes to its end. -/
  | embedded (ticket : Ticket) (result : TestResult) : PassedOn s (.embedded ticket, result)
  /-- The worker that is to have the next token cannot be prepared. -/
  | unprepared (job : Job) (fault : IoFault) :
    PassedOn s (.forked (State.tokenOf (s.issued + 1)) job, State.unpreparedResult job fault)
  /-- A live worker is harvested. -/
  | due (worker : Worker) (r : Origin × TestResult) (hworker : worker ∈ s.workers)
      (hdue : due? worker = some r) : PassedOn s r

/-- What a step passes on is one of the listed results. -/
theorem Consistent.passedOn (hc : Consistent s held) {after : State} {setup : Setup} {move : Move}
    {shown : List Effect} (h : Transition setup s move after shown) {r : Origin × TestResult}
    (hr : r ∈ passed shown) : PassedOn s r := by
  cases h with
  | resubmitted jobs hphase =>
    obtain ⟨effect, heffect, hpassed⟩ := List.mem_filterMap.mp hr
    obtain ⟨job, -, rfl⟩ := List.mem_map.mp heffect
    obtain rfl := Option.some.inj hpassed
    exact .refused job _
  | refused job rest reason hphase hpending hreason =>
    obtain rfl := List.mem_singleton.mp hr
    exact .refused job reason
  | endedAtOnce job rest cpus layout result phase hphase hpending hreason hdispatch hacquire
      hrunner =>
    obtain rfl := List.mem_singleton.mp hr
    exact .embedded _ result
  | unprepared job rest cpus layout fault hphase hpending hreason hdispatch hacquire hprepare =>
    obtain rfl := List.mem_singleton.mp hr
    exact .unprepared job fault
  | reaped order layout hphase horder hrelease =>
    obtain ⟨worker, hworker, hdue⟩ :=
      List.mem_filterMap.mp ((hc.passed_reap horder).mem_iff.mp hr)
    exact .due worker r hworker hdue
  | finished position result ticket hticket =>
    obtain rfl := List.mem_singleton.mp hr
    exact .embedded ticket result
  | abandoned position ticket hticket =>
    obtain rfl := List.mem_singleton.mp hr
    exact .embedded ticket _
  | _ => exact absurd hr List.not_mem_nil

/-- As many workers are harvested as are over. -/
theorem Consistent.length_endings (hc : Consistent s held) (horder : order.Perm s.liveTokens) :
    (s.endings order).length =
      (s.workers.filter fun worker => worker.check.2.isOver).length := by
  unfold State.endings
  rw [((State.checks_perm hc.nodup_tokens horder).filter _).length_eq, List.filter_map,
    List.length_map]
  rfl

end Reap

end StressBatch.Scheduler
