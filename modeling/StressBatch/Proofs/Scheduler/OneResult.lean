import StressBatch.Proofs.Scheduler.Ledger

/-!
# One result per job

When a run ends nothing is left in its ledger but the log, so every job has its one result there.
Before a run nothing is counted, and after it every job that is handed over is refused.
-/

namespace StressBatch.Scheduler

/-! ## Before, during and after a run -/

/-- The jobs that an act hands over. -/
def Act.jobs (act : Act) : List Job := act.move.jobs?.getD []

section Runs

variable {s : State} {held : List Ticket}

theorem Consistent.nil_of_at_rest (hc : Consistent s held)
    (hphase : s.phase = .init ∨ s.phase = .terminated) :
    s.tickets = [] ∧ s.leaving = [] ∧ s.queue.filterMap Event.cpus? = [] := by
  obtain ⟨-, rfl⟩ := hc.at_rest hphase
  obtain ⟨gone, hheld, hgone⟩ := hc.places
  have hnil := hheld.nil_eq.symm
  rw [List.append_assoc, List.append_eq_nil_iff, List.append_eq_nil_iff] at hnil
  obtain ⟨htickets, hleaving, rfl⟩ := hnil
  exact ⟨htickets, hleaving, hgone⟩

/-- What happens to a scheduler while it is at rest and no jobs are handed over: requests may come
in, and that is all. -/
theorem Consistent.at_rest_next (hc : Consistent s held)
    (hphase : s.phase = .init ∨ s.phase = .terminated) {setup : Setup} {move : Move}
    {after : State} {shown : List Effect} (hmove : move.jobs? = none)
    (h : Transition setup s move after shown) :
    (∃ queue, after = { s with queue := queue }) ∧ shown = [] := by
  have hactive : s.phase.isActive = false := by
    rcases hphase with h | h <;> rw [h] <;> rfl
  have hdispatching : s.phase ≠ .dispatching := by
    rcases hphase with h | h <;> simp [h]
  have hdraining : s.phase ≠ .draining := by
    rcases hphase with h | h <;> simp [h]
  obtain ⟨htickets, hleaving, -⟩ := hc.nil_of_at_rest hphase
  obtain ⟨hworkers, -⟩ := hc.at_rest hphase
  have hupdate : ∀ token f, s.updateWorker token f = { s with queue := s.queue } := by
    refine fun token f => State.updateWorker_eq_self fun worker hworker => ?_
    rw [hworkers] at hworker
    cases hworker
  cases h with
  | submitted jobs hphase => simp [Move.jobs?] at hmove
  | resubmitted jobs hphase => simp [Move.jobs?] at hmove
  | requested event hevent => exact ⟨⟨_, rfl⟩, rfl⟩
  | exited token exit => exact ⟨⟨_, hupdate token _⟩, rfl⟩
  | lost token fault => exact ⟨⟨_, hupdate token _⟩, rfl⟩
  | finished position result ticket hticket => simp [htickets] at hticket
  | abandoned position ticket hticket => simp [htickets] at hticket
  | notified position ticket hticket => simp [hleaving] at hticket
  | _ => first | contradiction | simp_all

theorem closed_of_transition {setup : Setup} {move : Move} {after : State} {shown : List Effect}
    (h : Transition setup s move after shown) (hbefore : s.phase ≠ .terminated)
    (hafter : after.phase = .terminated) :
    ∃ elapsed, move = .close elapsed ∧ s.phase = .draining ∧ s.layout.isIdle = true := by
  cases h with
  | closed elapsed hphase hidle => exact ⟨elapsed, rfl, hphase, hidle⟩
  | submitted jobs hphase => simp at hafter
  | drained hphase hpending => simp at hafter
  | endedAtOnce job rest cpus layout result phase hphase hpending hreason hdispatch hacquire
      hrunner =>
    obtain rfl : phase = .terminated := hafter
    generalize setup.runner job cpus = submission at hrunner
    cases hrunner
  | _ => exact absurd hafter hbefore

/-- Until jobs are handed over nothing is counted and nothing is passed on. -/
theorem Consistent.trace_of_init (hc : Consistent s held) (hphase : s.phase = .init)
    {acts : List Act} (hacts : ∀ act ∈ acts, act.move.jobs? = none) :
    (∃ queue, (s.trace acts).1 = { s with queue := queue }) ∧ (s.trace acts).2 = [] := by
  induction acts using List.reverseRecOn with
  | nil => exact ⟨⟨s.queue, rfl⟩, rfl⟩
  | append_singleton acts act ih =>
    obtain ⟨⟨queue, hstate⟩, hshown⟩ := ih fun a h => hacts a (List.mem_append_left _ h)
    have hmove := hacts act (List.mem_append_right _ List.mem_cons_self)
    have hbetween := hc.trace acts
    rw [State.trace_concat, hshown, List.nil_append]
    rw [hstate] at hbetween ⊢
    rcases hbetween.step_cases act.setup act.move with h | h
    · rw [h]
      exact ⟨⟨queue, rfl⟩, rfl⟩
    · obtain ⟨⟨next, hnext⟩, hnone⟩ := hbetween.at_rest_next (.inl hphase) hmove h
      exact ⟨⟨next, hnext⟩, hnone⟩

/-- A run keeps the ledger of its jobs in order. -/
theorem Ledger.trace {capacity : Nat} {jobs : List Job} {results : List (Origin × TestResult)}
    (hl : Ledger capacity jobs s results) (hc : Consistent s held)
    (hcap : s.layout.capacity = capacity) {acts : List Act}
    (hacts : ∀ act ∈ acts, act.move.jobs? = none) :
    Ledger capacity jobs (s.trace acts).1 (results ++ passed (s.trace acts).2) := by
  induction acts using List.reverseRecOn with
  | nil =>
    rw [State.trace, passed_nil, List.append_nil]
    exact hl
  | append_singleton acts act ih =>
    have hbefore := ih fun a h => hacts a (List.mem_append_left _ h)
    have hmove := hacts act (List.mem_append_right _ List.mem_cons_self)
    have hbetween := hc.trace acts
    rw [State.trace_concat, passed_append, ← List.append_assoc]
    rcases hbetween.step_cases act.setup act.move with h | h
    · rw [h]
      simpa using hbefore
    · exact hbefore.next hbetween ((hc.capacity_trace acts).trans hcap) hmove h

/-- A run ends with one move, and at that moment nothing is active. -/
theorem Consistent.exists_close (hc : Consistent s held) {acts : List Act}
    (hbefore : s.phase ≠ .terminated) (hafter : (s.trace acts).1.phase = .terminated) :
    ∃ front back setup elapsed, acts = front ++ ⟨setup, .close elapsed⟩ :: back ∧
      (s.trace front).1.phase = .draining ∧ (s.trace front).1.workers = [] ∧
      (s.trace front).1.layout.isIdle = true := by
  induction acts generalizing s held with
  | nil => exact absurd hafter hbefore
  | cons act acts ih =>
    by_cases hphase : (s.step act.setup act.move).1.phase = .terminated
    · rcases hc.step_cases act.setup act.move with h | h
      · rw [h] at hphase
        contradiction
      · obtain ⟨setup, move⟩ := act
        obtain ⟨elapsed, rfl, hdraining, hidle⟩ := closed_of_transition h hbefore hphase
        exact ⟨[], acts, setup, elapsed, rfl, hdraining, (hc.nil_of_isIdle hidle).1, hidle⟩
    · have hnext : ∃ held, Consistent (s.step act.setup act.move).1 held := by
        rcases hc.step_cases act.setup act.move with h | h
        · rw [h]
          exact ⟨held, hc⟩
        · exact ⟨_, hc.next h⟩
      obtain ⟨after, hnext⟩ := hnext
      obtain ⟨front, back, setup, elapsed, rfl, hclose⟩ := ih hnext hphase hafter
      exact ⟨act :: front, back, setup, elapsed, rfl, hclose⟩

/-- Whatever comes after a run, each job that is handed over adds one result, which says that it was
refused, and nothing else changes. -/
theorem Consistent.trace_of_terminated (hc : Consistent s held) (hphase : s.phase = .terminated)
    (acts : List Act) :
    ∃ queue, (s.trace acts).1 = { s with
      queue := queue
      log := ⟨s.log.results ++
        (acts.flatMap Act.jobs).map fun job => State.refusal job State.alreadyRun⟩
      summary := { s.summary with
        jobs := s.summary.jobs + (acts.flatMap Act.jobs).length
        rejected := s.summary.rejected + (acts.flatMap Act.jobs).length } } := by
  induction acts using List.reverseRecOn with
  | nil => exact ⟨s.queue, by simp [State.trace]⟩
  | append_singleton acts act ih =>
    obtain ⟨queue, hstate⟩ := ih
    have hbetween := hc.trace acts
    have hlast : (acts ++ [act]).flatMap Act.jobs = acts.flatMap Act.jobs ++ act.jobs := by simp
    rw [State.trace_concat, hlast, List.map_append, List.length_append]
    rw [hstate] at hbetween ⊢
    cases hmove : act.move.jobs? with
    | some jobs =>
      obtain ⟨setup, move⟩ := act
      cases move with
      | submit handed =>
        refine ⟨queue, ?_⟩
        simp only [State.step, State.step?, State.submit, hphase, State.foldl_reject]
        simp [Act.jobs, Move.jobs?, Nat.add_assoc]
      | _ => simp [Move.jobs?] at hmove
    | none =>
      have hnone : act.jobs = [] := by
        unfold Act.jobs
        rw [hmove]
        rfl
      simp only [hnone, List.map_nil, List.append_nil, List.length_nil, Nat.add_zero]
      rcases hbetween.step_cases act.setup act.move with h | h
      · rw [h]
        exact ⟨queue, rfl⟩
      · obtain ⟨⟨next, hnext⟩, -⟩ := hbetween.at_rest_next (.inr hphase) hmove h
        exact ⟨next, hnext⟩

/-- A scheduler that has just been handed its jobs. -/
def State.handedOver (capacity : Nat) (jobs : List Job) (queue : List Event) : State :=
  { State.ofCapacity capacity with
    phase := .dispatching
    pending := jobs
    queue := queue }

theorem Ledger.submitted (capacity : Nat) (jobs : List Job) {queue : List Event}
    (hqueue : queue.filterMap Event.cpus? = []) :
    Ledger capacity jobs (.handedOver capacity jobs queue) [] where
  jobs_perm := List.Perm.of_eq (by simp [State.handedOver, State.ofCapacity])
  jobs_eq := Nat.zero_add jobs.length
  rejected_eq := rfl
  ended_eq := rfl
  dispatched_eq := rfl
  completed_eq := by simp [State.handedOver, State.ofCapacity, hqueue, tally]
  origins := by simp
  tickets := by simp [State.handedOver, State.ofCapacity]
  workers := by simp [State.handedOver, State.ofCapacity]

/-- When the first jobs are handed over a scheduler has only requests in its queue. -/
theorem trace_handed_over (capacity : Nat) (setup : Setup) (jobs : List Job) {before : List Act}
    (hbefore : ∀ act ∈ before, act.move.jobs? = none) :
    ∃ queue, queue.filterMap Event.cpus? = [] ∧
      Consistent (.handedOver capacity jobs queue) [] ∧
      ∀ acts, (State.ofCapacity capacity).trace (before ++ ⟨setup, .submit jobs⟩ :: acts) =
        (State.handedOver capacity jobs queue).trace acts := by
  have hinit := consistent_ofCapacity capacity
  obtain ⟨⟨queue, hstate⟩, hshown⟩ := hinit.trace_of_init rfl hbefore
  have hhanded := hinit.trace before
  rw [hstate, hshown] at hhanded
  obtain ⟨-, -, hqueue⟩ := hhanded.nil_of_at_rest (.inl rfl)
  have hsubmitted : Transition setup { State.ofCapacity capacity with queue := queue }
      (.submit jobs) (.handedOver capacity jobs queue) [] := .submitted jobs rfl
  refine ⟨queue, hqueue, hhanded.next hsubmitted, fun acts => ?_⟩
  rw [State.trace_append, hstate, hshown]
  rfl

/-- The scheduler at the moment when the first jobs have been handed over. -/
theorem exists_handed_over (capacity : Nat) (setup : Setup) (jobs : List Job) {before : List Act}
    (hbefore : ∀ act ∈ before, act.move.jobs? = none) :
    ∃ start, (∀ acts, (State.ofCapacity capacity).trace
        (before ++ ⟨setup, .submit jobs⟩ :: acts) = start.trace acts) ∧
      Consistent start [] ∧ Ledger capacity jobs start [] ∧
      start.layout.capacity = capacity ∧ start.phase = .dispatching := by
  obtain ⟨queue, hqueue, hc, htrace⟩ := trace_handed_over capacity setup jobs hbefore
  exact ⟨_, htrace, hc, Ledger.submitted capacity jobs hqueue,
    CpuLayout.capacity_ofCapacity capacity, rfl⟩

/-- The ledger of a run that has been handed its jobs is in order. -/
theorem ledger_run (capacity : Nat) (setup : Setup) (jobs : List Job) {before during : List Act}
    (hbefore : ∀ act ∈ before, act.move.jobs? = none)
    (hduring : ∀ act ∈ during, act.move.jobs? = none) :
    let run := (State.ofCapacity capacity).trace (before ++ ⟨setup, .submit jobs⟩ :: during)
    Ledger capacity jobs run.1 (passed run.2) := by
  obtain ⟨start, hrun, hc, hl, hcap, -⟩ := exists_handed_over capacity setup jobs hbefore
  intro run
  have heq : start.trace during = run := (hrun during).symm
  exact heq ▸ hl.trace hc hcap hduring

/-- After a run the CPUs are as they were before it. -/
theorem Consistent.layout_of_terminated (hc : Consistent s held) (hphase : s.phase = .terminated)
    {capacity : Nat} (hcap : s.layout.capacity = capacity) : s.layout = .ofCapacity capacity := by
  obtain ⟨hworkers, rfl⟩ := hc.at_rest (.inr hphase)
  have hbusy := hc.busy_perm
  rw [hworkers] at hbusy
  rw [← hcap]
  exact CpuLayout.eq_ofCapacity_of_isIdle (CpuLayout.isIdle_iff.mpr hbusy.eq_nil)

/-- The results of refused jobs, and those of jobs that were started in a mode, are as many as the
jobs themselves. -/
theorem Ledger.tally_eq {capacity : Nat} {jobs : List Job} {results : List (Origin × TestResult)}
    (hl : Ledger capacity jobs s results) (hjobs : (results.map fun r => r.1.job).Perm jobs)
    (mode : Option DispatchMode) :
    tally mode results = jobs.countP fun job => treatment capacity job = mode := by
  rw [← hjobs.countP_eq, List.countP_map]
  refine List.countP_congr fun r hr => ?_
  simp [hl.origins r hr]

theorem treatment_eq_none_iff {capacity : Nat} {job : Job} :
    treatment capacity job = none ↔ isRefused capacity job = true := by
  unfold treatment
  by_cases h : isRefused capacity job = true <;> simp [h]

theorem treatment_eq_some_iff {capacity : Nat} {job : Job} {mode : DispatchMode} :
    treatment capacity job = some mode ↔
      (!isRefused capacity job && job.dispatch = mode) = true := by
  unfold treatment
  by_cases h : isRefused capacity job = true <;> simp [h]

/-- Every result was passed on for a job of one of the three kinds. -/
theorem tally_sum (results : List (Origin × TestResult)) :
    tally none results + tally (some .embedded) results + tally (some .forked) results =
      results.length := by
  induction results with
  | nil => rfl
  | cons first rest ih =>
    obtain ⟨origin, result⟩ := first
    have hcons : ∀ mode, tally mode ((origin, result) :: rest) =
        tally mode [(origin, result)] + tally mode rest := fun mode => tally_append mode [_] rest
    rw [hcons, hcons, hcons, List.length_cons]
    cases origin <;> simp [Origin.mode?] <;> omega

/-- What the ledger says once a run is over. -/
theorem Ledger.returned {capacity : Nat} {jobs : List Job} {results : List (Origin × TestResult)}
    (hl : Ledger capacity jobs s results) (hc : Consistent s held)
    (hlog : s.log.results = results.map Prod.snd) (hphase : s.phase = .terminated) :
    (results.map fun r => r.1.job).Perm jobs ∧ s.log.size = jobs.length ∧
      s.summary.jobs = jobs.length ∧ s.summary.results = jobs.length ∧
      s.summary.embeddedCompleted = s.summary.embeddedDispatched := by
  obtain ⟨htickets, hleaving, hqueue⟩ := hc.nil_of_at_rest (.inr hphase)
  obtain ⟨hworkers, -⟩ := hc.at_rest (.inr hphase)
  have hpending := hc.pending_eq_nil (.inr (.inr hphase))
  have hperm := hl.jobs_perm
  rw [hpending, htickets, hworkers] at hperm
  simp only [List.map_nil, List.nil_append] at hperm
  have hlength : results.length = jobs.length := by
    rw [← List.length_map (f := fun r : Origin × TestResult => r.1.job)]
    exact hperm.length_eq.symm
  have hcompleted := hl.completed_eq
  have hdispatched := hl.dispatched_eq
  have hjobs := hl.jobs_eq
  have hsum := tally_sum results
  rw [hleaving, hqueue] at hcompleted
  rw [htickets] at hdispatched
  rw [hpending] at hjobs
  simp only [List.length_nil, Nat.add_zero] at hcompleted hdispatched hjobs
  refine ⟨hperm.symm, ?_, hjobs, ?_, hcompleted.trans hdispatched.symm⟩
  · rw [ResultLog.size, hlog, List.length_map, hlength]
  · have hended := hl.ended_eq
    have hrejected := hl.rejected_eq
    unfold Summary.results
    omega

end Runs

/-- One result per job. When the first run of a scheduler is over, the log has one result for each
job and the counts agree with it; nothing was active when the run ended; and from then on each job
that is handed over adds one result, a test error, and nothing is ever active again. -/
theorem one_result_per_job (capacity : Nat) (before during later : List Act) (setup : Setup)
    (jobs : List Job) (hbefore : ∀ act ∈ before, act.move.jobs? = none)
    (hduring : ∀ act ∈ during, act.move.jobs? = none)
    (hreturned : ((State.ofCapacity capacity).trace
      (before ++ ⟨setup, .submit jobs⟩ :: during)).1.phase = .terminated) :
    let run := (State.ofCapacity capacity).trace (before ++ ⟨setup, .submit jobs⟩ :: during)
    let s := run.1
    let t := (s.trace later).1
    (s.log.size = jobs.length ∧
      s.log.results = (passed run.2).map Prod.snd ∧
      ((passed run.2).map fun r => r.1.job).Perm jobs ∧
      s.summary.jobs = jobs.length ∧
      s.summary.jobs = s.summary.results ∧
      s.summary.embeddedCompleted = s.summary.embeddedDispatched ∧
      s.summary.forkedPassed + s.summary.synthesizedFailures =
        jobs.countP (fun job => !isRefused capacity job && job.dispatch = .forked) ∧
      s.summary.rejected = jobs.countP (isRefused capacity) ∧
      s.workers = [] ∧ s.layout = .ofCapacity capacity) ∧
    (∃ front back closing elapsed, during = front ++ ⟨closing, .close elapsed⟩ :: back ∧
      let m := ((State.ofCapacity capacity).trace
        (before ++ ⟨setup, .submit jobs⟩ :: front)).1
      m.phase = .draining ∧ m.workers = [] ∧ m.layout = .ofCapacity capacity) ∧
    (t.phase = .terminated ∧ t.workers = [] ∧ t.layout = .ofCapacity capacity ∧
      t.log.results = s.log.results ++
        (later.flatMap Act.jobs).map (fun job => State.refusal job State.alreadyRun) ∧
      (∀ job, (State.refusal job State.alreadyRun).job = job ∧
        (State.refusal job State.alreadyRun).status = .testError) ∧
      t.summary.jobs = t.summary.results) := by
  intro run s t
  obtain ⟨start, hrun, hc, hl, hcap, hphase⟩ := exists_handed_over capacity setup jobs hbefore
  have heq : start.trace during = run := (hrun during).symm
  have hactive : start.phase ≠ .terminated := by simp [hphase]
  have hover : s.phase = .terminated := hreturned
  have hafter : Consistent run.1 (run.2.foldl Effect.hold []) := heq ▸ hc.trace during
  have hledger : Ledger capacity jobs run.1 (passed run.2) := heq ▸ hl.trace hc hcap hduring
  have hcapacity : run.1.layout.capacity = capacity :=
    heq ▸ (hc.capacity_trace during).trans hcap
  have hlog : s.log.results = (passed run.2).map Prod.snd := log_trace capacity _
  obtain ⟨hjobs, hsize, hcount, hresults, hembedded⟩ := hledger.returned hafter hlog hover
  obtain ⟨hworkers, -⟩ := hafter.at_rest (.inr hover)
  have hlayout : s.layout = .ofCapacity capacity := hafter.layout_of_terminated hover hcapacity
  obtain ⟨front, back, closing, elapsed, hduringEq, hdraining, hidleWorkers, hidle⟩ :=
    hc.exists_close hactive (by rw [heq]; exact hover)
  obtain ⟨queue, hlater⟩ := hafter.trace_of_terminated hover later
  refine ⟨⟨hsize, hlog, hjobs, hcount, hcount.trans hresults.symm, hembedded, ?_, ?_,
    hworkers, hlayout⟩, ⟨front, back, closing, elapsed, hduringEq, ?_⟩, ?_⟩
  · rw [hledger.ended_eq, hledger.tally_eq hjobs]
    exact List.countP_congr fun job _ => decide_eq_true_iff.trans treatment_eq_some_iff
  · rw [hledger.rejected_eq, hledger.tally_eq hjobs]
    exact List.countP_congr fun job _ => decide_eq_true_iff.trans treatment_eq_none_iff
  · rw [hrun front]
    refine ⟨hdraining, hidleWorkers, ?_⟩
    rw [CpuLayout.eq_ofCapacity_of_isIdle hidle, (hc.capacity_trace front).trans hcap]
  · have ht : t = _ := hlater
    rw [ht]
    refine ⟨hover, hworkers, hlayout, rfl, fun job => ⟨rfl, rfl⟩, ?_⟩
    have hsum : run.1.summary.jobs = run.1.summary.results := hcount.trans hresults.symm
    unfold Summary.results at hsum ⊢
    simp only
    omega

/-! ## A run with jobs of every kind -/

/-- A host on which every worker can be prepared and started. -/
def sampleHost : Host where
  facts := ⟨"linux", "x86_64", 1, 2, "2024-01-01T00:00:00+00:00"⟩
  directory := "/opt"
  canPin := false
  scratch := some "/tmp"
  unique := "1"
  execute := fun _ _ => .ok none

/-- The conditions of a run on that host whose runner keeps every job. -/
def sampleSetup : Setup :=
  ⟨sampleHost, ⟨["run"], [], "entry", false, none⟩, ⟨"localhost", 5555⟩, .keeping⟩

/-- An embedded job, a forked one, and one that names no harness. -/
def sampleJobs : List Job :=
  [⟨"first", 1, ["left"], [.interpreted], .embedded, [], "counter"⟩,
    ⟨"second", 2, ["left", "right"], [.tier1, .tier2], .forked, [], "counter"⟩,
    ⟨"third", 1, ["left"], [.interpreted], .forked, [], ""⟩]

/-- A run of these jobs after they have been handed over. The forked job has to wait for the
embedded one; its worker does what it should. -/
def sampleMoves : List Move :=
  [.dispatch, .dispatch, .finish 0 { job := default, status := .normal }, .notify 0, .handle,
    .handle, .dispatch, .request (.pull "fork-token-1"), .handle,
    .request (.push "fork-token-1" { job := default, status := .normal }), .handle,
    .exit "fork-token-1" (.silent (.exited 0)), .reap ["fork-token-1"], .dispatch, .drain,
    .close ⟨1, 0⟩]

theorem one_result_per_job_sample :
    let s := ((State.ofCapacity 2).trace ([⟨sampleSetup, .request (.kill "nobody")⟩] ++
      ⟨sampleSetup, .submit sampleJobs⟩ :: sampleMoves.map (Act.mk sampleSetup))).1
    let t := (s.trace [⟨sampleSetup, .submit sampleJobs⟩]).1
    s.phase = .terminated ∧ s.log.size = 3 ∧ s.summary.forkedPassed = 1 ∧
      s.summary.rejected = sampleJobs.countP (isRefused 2) ∧
      t.phase = .terminated ∧ t.summary.jobs = t.summary.results := by
  have hreturned : ((State.ofCapacity 2).trace ([⟨sampleSetup, .request (.kill "nobody")⟩] ++
      ⟨sampleSetup, .submit sampleJobs⟩ :: sampleMoves.map (Act.mk sampleSetup))).1.phase =
      .terminated := by
    decide +kernel
  obtain ⟨⟨hsize, -, -, -, -, -, -, hrejected, -, -⟩, -, hlater, -, -, -, -, hresults⟩ :=
    one_result_per_job 2 [⟨sampleSetup, .request (.kill "nobody")⟩]
      (sampleMoves.map (Act.mk sampleSetup)) [⟨sampleSetup, .submit sampleJobs⟩] sampleSetup
      sampleJobs (by decide) (by decide) hreturned
  exact ⟨hreturned, hsize, by decide +kernel, hrejected, hlater, hresults⟩

end StressBatch.Scheduler
