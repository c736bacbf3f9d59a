import StressBatch.Proofs.Scheduler.Completion
import StressBatch.Proofs.Scheduler.Modes

/-!
# Faulty jobs

A job that is faulty ends as one result like any other: what is wrong with it is found when it is
dispatched, on its thread, or when its process cannot be started or ends. One fault is not found in
time: a runner with threads panics when it is handed a job whose name contains a NUL, and as this
happens on the scheduler's own thread no later job is dispatched.
-/

namespace StressBatch

/-- A runner with threads. A job that has been handed over is still on its thread, or the thread is
done with it. -/
def EmbeddedRunner.HasThreads (runner : EmbeddedRunner) (registry : Registry)
    (snapshot : Environment) : Prop :=
  ∀ job cpus, runner job cpus = threaded registry snapshot job cpus ∨
    '\x00' ∉ job.name.toList ∧ runner job cpus = .kept

theorem EmbeddedRunner.HasThreads.nul_of_panicked {runner : EmbeddedRunner} {registry : Registry}
    {snapshot : Environment} (h : runner.HasThreads registry snapshot) {job : Job}
    {cpus : List Nat} {panic : Panic} (hrunner : runner job cpus = .panicked panic) :
    '\x00' ∈ job.name.toList := by
  rcases h job cpus with hthread | ⟨-, hkept⟩
  · exact EmbeddedRunner.nul_of_panicked (hthread.symm.trans hrunner)
  · rw [hkept] at hrunner
    contradiction

/-! ## Command lines with a NUL -/

/-- No argument of a command that can be started contains a NUL. -/
theorem Host.nul_free_of_launch {host : Host} {command : List String} {course : Course}
    (h : host.launch command = .ok course) : ∀ arg ∈ command, '\x00' ∉ arg.toList := by
  cases command with
  | nil => exact List.forall_mem_nil _
  | cons program args =>
    intro arg harg hnul
    have hany : ((program :: args).any fun arg => arg.toList.contains '\x00') = true :=
      List.any_eq_true.mpr ⟨arg, harg, List.contains_iff_mem.mpr hnul⟩
    simp only [Host.launch, hany, if_true] at h
    contradiction

namespace Worker

/-- The command line of a worker holds the arguments of its job. -/
theorem mem_command_of_prepare {host : Host} {settings : LaunchSettings}
    {endpoint : Link.Endpoint} {token : Token} {job : Job} {cpus : List Nat} {worker : Worker}
    (h : prepare host settings endpoint token job cpus = .ok worker) {arg : String}
    (harg : arg ∈ job.launchArgs) : arg ∈ worker.command := by
  obtain ⟨file, -, hcommand, -⟩ := exists_of_prepare h
  rw [hcommand, LaunchSettings.commandLine, LaunchSettings.workerArgs]
  simp [harg]

end Worker

namespace Scheduler

/-- An embedded job that is not refused and cannot have a thread. -/
def Unnameable (capacity : Nat) (job : Job) : Prop :=
  isRefused capacity job = false ∧ job.dispatch = .embedded ∧ '\x00' ∈ job.name.toList

instance (capacity : Nat) (job : Job) : Decidable (Unnameable capacity job) :=
  inferInstanceAs (Decidable (_ ∧ _ ∧ _))

/-- Where a job is that has just been taken out of the line of pending jobs. -/
inductive Placed (job : Job) (after : State) (new : List Effect) : Prop where
  /-- Its one result has been passed on. -/
  | ended (origin : Origin) (result : TestResult) (hjob : origin.job = job)
      (hpassed : passed new = [(origin, result)])
  /-- A runner keeps it. -/
  | kept (ticket : Ticket) (hjob : ticket.job = job) (hmem : ticket ∈ after.tickets)
  /-- It has a live worker. The process of the worker runs, with arguments that contain no NUL, or
  the result is due that says why it could not be started. -/
  | live (worker : Worker) (hjob : worker.job = job) (hmem : worker ∈ after.workers)
      (hprocess : worker.isRunning = true ∧ (∀ arg ∈ job.launchArgs, '\x00' ∉ arg.toList) ∨
        ∃ fault : IoFault, due? worker = some (.forked worker.token job,
          worker.failureResult ("Failed to launch worker: " ++ fault.message)))

section Steps

variable {capacity : Nat} {s after : State} {new : List Effect} {held : List Ticket}
  {setup : Setup} {move : Move} {job : Job}

/-- Whatever is wrong with the first job in line, it leaves the line for one of these places. -/
theorem Consistent.placed (hc : Consistent s held) (h : Transition setup s move after new)
    (hpending : s.pending = job :: after.pending) : Placed job after new := by
  have hstays : s.pending ≠ job :: s.pending := fun h => by simpa using congrArg List.length h
  cases h with
  | submitted jobs hphase =>
    rw [hc.pending_eq_nil (.inl hphase)] at hpending
    contradiction
  | refused first rest reason hphase hline hreason =>
    obtain ⟨rfl, -⟩ := List.cons.inj (hline.symm.trans hpending)
    exact .ended (.refused first) _ rfl rfl
  | kept first rest cpus layout hphase hline hreason hdispatch hacquire hrunner =>
    obtain ⟨rfl, -⟩ := List.cons.inj (hline.symm.trans hpending)
    exact .kept ⟨first, cpus⟩ rfl (List.mem_append_right _ List.mem_cons_self)
  | endedAtOnce first rest cpus layout result phase hphase hline hreason hdispatch hacquire
      hrunner =>
    obtain ⟨rfl, -⟩ := List.cons.inj (hline.symm.trans hpending)
    exact .ended (.embedded ⟨first, cpus⟩) result rfl rfl
  | unprepared first rest cpus layout fault hphase hline hreason hdispatch hacquire hprepare =>
    obtain ⟨rfl, -⟩ := List.cons.inj (hline.symm.trans hpending)
    exact .ended (.forked _ first) _ rfl rfl
  | forked first rest cpus layout worker hphase hline hreason hdispatch hacquire hprepare =>
    obtain ⟨rfl, -⟩ := List.cons.inj (hline.symm.trans hpending)
    have hprepared := Worker.prepared_of_prepare hprepare
    refine .live (worker.start setup.host) ?_ (List.mem_append_right _ List.mem_cons_self) ?_
    · rw [hprepared.start_eq]
      exact hprepared.job_eq
    · rw [hprepared.start_eq]
      unfold Host.spawn
      cases hlaunch : setup.host.launch worker.command with
      | ok course =>
        refine .inl ⟨rfl, fun arg harg => ?_⟩
        exact Host.nul_free_of_launch hlaunch arg (Worker.mem_command_of_prepare hprepare harg)
      | error fault =>
        refine .inr ⟨fault, ?_⟩
        rw [← hprepared.job_eq]
        rfl
  | reaped order layout hphase horder hrelease => exact absurd hpending hstays
  | _ => exact absurd hpending hstays

/-! ## Panics -/

/-- After a panic nothing is dispatched any more. -/
theorem stopped_of_crashed {panic : Panic} (hcrash : s.phase = .crashed panic)
    (h : Transition setup s move after new) :
    after.phase = .crashed panic ∧ after.pending = s.pending ∧ launched new = [] := by
  cases h with
  | resubmitted jobs hphase => exact ⟨hcrash, rfl, launched_refused jobs _⟩
  | requested event hevent => exact ⟨hcrash, rfl, rfl⟩
  | finished position result ticket hticket => exact ⟨hcrash, rfl, rfl⟩
  | abandoned position ticket hticket => exact ⟨hcrash, rfl, rfl⟩
  | notified position ticket hticket => exact ⟨hcrash, rfl, rfl⟩
  | exited token exit => exact ⟨hcrash, rfl, rfl⟩
  | lost token fault => exact ⟨hcrash, rfl, rfl⟩
  | _ =>
    exfalso
    simp_all [Phase.isActive]

theorem Consistent.trace_of_crashed (hc : Consistent s held) {panic : Panic}
    (hcrash : s.phase = .crashed panic) (acts : List Act) :
    (s.trace acts).1.phase = .crashed panic ∧ (s.trace acts).1.pending = s.pending ∧
      launched (s.trace acts).2 = [] := by
  refine hc.trace_induction (P := fun t shown => t.phase = .crashed panic ∧
    t.pending = s.pending ∧ launched shown = []) ⟨hcrash, rfl, rfl⟩ ?_
  rintro act before after active shown new - - h ⟨hbefore, hpending, hnone⟩
  obtain ⟨hafter, hsame, hnew⟩ := stopped_of_crashed hbefore h
  refine ⟨hafter, hsame.trans hpending, ?_⟩
  rw [launched, List.filterMap_append]
  exact List.append_eq_nil_iff.mpr ⟨hnone, hnew⟩

/-- A run that has panicked did so at one of its acts, when it handed a job over, and the line of
pending jobs has stayed as it was then. -/
theorem Consistent.exists_panic (hc : Consistent s held) {acts : List Act}
    {panic : Panic} (hgoing : s.phase ≠ .crashed panic)
    (hcrash : (s.trace acts).1.phase = .crashed panic) :
    ∃ front act back job cpus, acts = front ++ act :: back ∧ act.move = .dispatch ∧
      (s.trace front).1.phase = .dispatching ∧
      (s.trace front).1.pending = job :: (s.trace acts).1.pending ∧
      (s.trace front).1.refusal? job = none ∧ job.dispatch = .embedded ∧
      act.setup.runner job cpus = .panicked panic := by
  induction acts using List.reverseRecOn with
  | nil => exact absurd hcrash hgoing
  | append_singleton acts act ih =>
    rw [State.trace_concat] at hcrash ⊢
    have hsame : (s.trace acts).1.phase = .crashed panic →
        ((s.trace acts).1.step act.setup act.move).1.pending = (s.trace acts).1.pending := by
      intro hbefore
      rcases (hc.trace acts).step_cases act.setup act.move with h | h
      · rw [h]
      · exact (stopped_of_crashed hbefore h).2.1
    by_cases hbefore : (s.trace acts).1.phase = .crashed panic
    · obtain ⟨front, other, back, job, cpus, rfl, hmove, hphase, hpending, hpanic⟩ := ih hbefore
      refine ⟨front, other, back ++ [act], job, cpus, by simp, hmove, hphase, ?_, hpanic⟩
      simp only [hsame hbefore]
      exact hpending
    · rcases (hc.trace acts).step_cases act.setup act.move with h | h
      · rw [h] at hcrash
        exact absurd hcrash hbefore
      · rcases handed_of_crashed h hcrash with hold | ⟨hmove, job, cpus, layout, hphase, hpending,
          hreason, hdispatch, -, hrunner⟩
        · exact absurd hold hbefore
        · exact ⟨acts, act, [], job, cpus, rfl, hmove, hphase, hpending, hreason, hdispatch,
            hrunner⟩

end Steps

/-- The accounts of a run: every job is in one place, and is counted unless it is pending; every
result that has been passed on is in the log; and the jobs that have been started are, in order,
those that are not refused and not pending any more. -/
structure Accounted (capacity : Nat) (jobs : List Job) (run : State × List Effect) : Prop where
  jobs_perm : jobs.Perm (run.1.pending ++
    (run.1.tickets ++ run.1.workers.map Worker.ticket).map Ticket.job ++
    (passed run.2).map fun r => r.1.job)
  count_eq : run.1.summary.jobs + run.1.pending.length = jobs.length
  log_eq : run.1.log.results = (passed run.2).map Prod.snd
  launched_eq : launched run.2 ++ run.1.pending.filter (!isRefused capacity ·) =
    jobs.filter (!isRefused capacity ·)

/-- A run that is over with all its jobs: each of them has its one result, and those that are not
refused have been started in order. -/
structure Completed (capacity : Nat) (jobs : List Job) (run : State × List Effect) : Prop where
  phase_eq : run.1.phase = .terminated
  log_eq : run.1.log.results = (passed run.2).map Prod.snd
  jobs_perm : ((passed run.2).map fun r => r.1.job).Perm jobs
  count_eq : run.1.summary.jobs = jobs.length
  launched_eq : launched run.2 = jobs.filter (!isRefused capacity ·)

theorem Accounted.completed {capacity : Nat} {jobs : List Job} {run : State × List Effect}
    {held : List Ticket} (h : Accounted capacity jobs run) (hc : Consistent run.1 held)
    (hphase : run.1.phase = .terminated) : Completed capacity jobs run := by
  obtain ⟨htickets, -, -⟩ := hc.nil_of_at_rest (.inr hphase)
  obtain ⟨hworkers, -⟩ := hc.at_rest (.inr hphase)
  have hpending := hc.pending_eq_nil (.inr (.inr hphase))
  have hperm := h.jobs_perm
  have hcount := h.count_eq
  have hline := h.launched_eq
  rw [hpending, htickets, hworkers] at hperm
  rw [hpending, List.length_nil, Nat.add_zero] at hcount
  rw [hpending, List.filter_nil, List.append_nil] at hline
  exact ⟨hphase, h.log_eq, hperm.symm, hcount, hline⟩

section Runs

variable {capacity : Nat} {setup : Setup} {jobs : List Job} {before during : List Act}

theorem accounted_run (capacity : Nat) (setup : Setup) (jobs : List Job)
    (hbefore : ∀ act ∈ before, act.move.jobs? = none)
    (hduring : ∀ act ∈ during, act.move.jobs? = none) :
    Accounted capacity jobs (runOn capacity (before ++ ⟨setup, .submit jobs⟩ :: during)) where
  jobs_perm := (ledger_run capacity setup jobs hbefore hduring).jobs_perm
  count_eq := (ledger_run capacity setup jobs hbefore hduring).jobs_eq
  log_eq := log_trace capacity _
  launched_eq := by
    obtain ⟨queue, -, hc, htrace⟩ := trace_handed_over capacity setup jobs hbefore
    have hrun : runOn capacity (before ++ ⟨setup, .submit jobs⟩ :: during) =
        (State.handedOver capacity jobs queue).trace during := htrace during
    rw [hrun]
    exact launched_trace hc (by simp [State.handedOver]) (CpuLayout.capacity_ofCapacity capacity)
      during

/-- Once the first jobs have been handed over a run is under way, over, or has panicked. -/
theorem under_way_run (capacity : Nat) (setup : Setup) (jobs : List Job)
    (hbefore : ∀ act ∈ before, act.move.jobs? = none) :
    let s := (runOn capacity (before ++ ⟨setup, .submit jobs⟩ :: during)).1
    (s.phase = .dispatching ∨ s.phase = .draining ∨ s.phase = .terminated) ∨
      ∃ panic, s.phase = .crashed panic := by
  intro s
  obtain ⟨start, hrun, hc, -, -, hphase⟩ := exists_handed_over capacity setup jobs hbefore
  have hs : s = (start.trace during).1 := congrArg Prod.fst (hrun during)
  obtain ⟨hbegun, -⟩ := pending_suffix_trace hc (by rw [hphase]; exact nofun) during
  rw [← hs] at hbegun
  cases h : s.phase with
  | init => exact absurd h hbegun
  | dispatching => exact .inl (.inl rfl)
  | draining => exact .inl (.inr (.inl rfl))
  | terminated => exact .inl (.inr (.inr rfl))
  | crashed panic => exact .inr ⟨panic, rfl⟩

/-- A run that has panicked did so when it handed a job of the list to a runner that panicked. -/
theorem panic_of_run (capacity : Nat) (setup : Setup) (jobs : List Job)
    (hbefore : ∀ act ∈ before, act.move.jobs? = none)
    (hduring : ∀ act ∈ during, act.move.jobs? = none) {panic : Panic}
    (hcrash : (runOn capacity (before ++ ⟨setup, .submit jobs⟩ :: during)).1.phase =
      .crashed panic) :
    ∃ front act back job cpus, during = front ++ act :: back ∧ act.move = .dispatch ∧
      (runOn capacity (before ++ ⟨setup, .submit jobs⟩ :: front)).1.pending =
        job :: (runOn capacity (before ++ ⟨setup, .submit jobs⟩ :: during)).1.pending ∧
      job ∈ jobs ∧ isRefused capacity job = false ∧ job.dispatch = .embedded ∧
      act.setup.runner job cpus = .panicked panic := by
  obtain ⟨start, hrun, hc, -, hcap, hphase⟩ := exists_handed_over capacity setup jobs hbefore
  have hgoing : start.phase ≠ .crashed panic := by
    rw [hphase]
    exact nofun
  have hafter : (start.trace during).1.phase = .crashed panic := hrun during ▸ hcrash
  obtain ⟨front, act, back, job, cpus, rfl, hmove, -, hpending, hreason, hdispatch, hrunner⟩ :=
    hc.exists_panic hgoing hafter
  have hfirst : job ∈ jobs := by
    have hfront : ∀ other ∈ front, other.move.jobs? = none :=
      fun other hother => hduring other (List.mem_append_left _ hother)
    have hperm := (accounted_run capacity setup jobs hbefore hfront).jobs_perm
    refine hperm.mem_iff.mpr (List.mem_append_left _ (List.mem_append_left _ ?_))
    rw [show runOn capacity (before ++ ⟨setup, .submit jobs⟩ :: front) = start.trace front from
      hrun front, hpending]
    exact List.mem_cons_self
  refine ⟨front, act, back, job, cpus, rfl, hmove, ?_, hfirst, ?_, hdispatch, hrunner⟩
  · show ((State.ofCapacity capacity).trace _).1.pending =
      job :: ((State.ofCapacity capacity).trace _).1.pending
    rw [hrun front, hrun (front ++ act :: back), hpending]
  · rw [← (hc.capacity_trace front).trans hcap]
    exact not_isRefused_of_refusal hreason

/-- What the scheduler does of its own accord prolongs a run. -/
theorem exists_more_of_settle (capacity : Nat) (acts : List Act) (final : Setup) :
    let run := runOn capacity acts
    let ended := (⟨run.1, run.2⟩ : Progress).settle final
    ∃ more, (∀ act ∈ more, act.setup = final ∧ act.move.jobs? = none) ∧
      (ended.state, ended.effects) = runOn capacity (acts ++ more) := by
  intro run ended
  obtain ⟨moves, hmoves, hended⟩ := Progress.settle_leads final ⟨run.1, run.2⟩
  refine ⟨moves.map (Act.mk final), fun act hact => ?_, ?_⟩
  · obtain ⟨move, hmove, rfl⟩ := List.mem_map.mp hact
    exact ⟨rfl, jobs?_of_carriesOn (hmoves move hmove)⟩
  · rw [show ended = _ from hended]
    exact (State.trace_append _ _ _).symm

/-- A run can be brought to its end at every moment at which no runner has a job left. -/
theorem completed_of_settle (capacity : Nat) (before during : List Act) (setup : Setup)
    (jobs : List Job) (hbefore : ∀ act ∈ before, act.move.jobs? = none)
    (hduring : ∀ act ∈ during, act.move.jobs? = none) {final : Setup}
    (hfinite : final.host.Finite) (hdone : ∀ job ∈ jobs, isRefused capacity job = false →
      job.dispatch = .embedded → ∀ cpus, (final.runner job cpus).isOver = true) :
    let run := runOn capacity (before ++ ⟨setup, .submit jobs⟩ :: during)
    (∀ panic, run.1.phase ≠ .crashed panic) → run.1.tickets = [] → run.1.leaving = [] →
      (∀ worker ∈ run.1.workers, worker.EndsAlone final.host) →
        let ended := (⟨run.1, run.2⟩ : Progress).settle final
        Completed capacity jobs (ended.state, ended.effects) := by
  intro run hgoing htickets hleaving hends ended
  have hc : Consistent run.1 (outstanding run.2) := consistent_trace capacity _
  have haccounted := accounted_run capacity setup jobs hbefore hduring
  have hsettling : Settling final capacity run.1 := by
    refine ⟨?_, ?_, htickets, hleaving, fun job hjob => hdone job ?_, hends⟩
    · exact ((consistent_ofCapacity capacity).capacity_trace _).trans
        (CpuLayout.capacity_ofCapacity capacity)
    · refine (under_way_run capacity setup jobs hbefore).resolve_right ?_
      rintro ⟨panic, hcrash⟩
      exact hgoing panic hcrash
    · exact haccounted.jobs_perm.mem_iff.mpr (List.mem_append_left _ (List.mem_append_left _ hjob))
  have hover : ended.state.phase = .terminated := Progress.terminated_of_settle hfinite hc hsettling
  obtain ⟨more, hmore, hrun⟩ :=
    exists_more_of_settle capacity (before ++ ⟨setup, .submit jobs⟩ :: during) final
  have hall : ∀ act ∈ during ++ more, act.move.jobs? = none :=
    List.forall_mem_append.mpr ⟨hduring, fun act hact => (hmore act hact).2⟩
  rw [List.append_assoc, List.cons_append] at hrun
  have hended := accounted_run capacity setup jobs hbefore hall
  rw [← hrun] at hended
  have hlast : Consistent ended.state _ := congrArg Prod.fst hrun ▸ consistent_trace capacity _
  exact hended.completed hlast hover

/-- On its own a scheduler runs all jobs, if no runner panics or keeps a job for ever and every
process ends. -/
theorem completed_of_runAll (capacity : Nat) (jobs : List Job) {setup : Setup}
    (hfinite : setup.host.Finite) (hdone : ∀ job ∈ jobs, isRefused capacity job = false →
      job.dispatch = .embedded → ∀ cpus, (setup.runner job cpus).isOver = true) :
    let ended := (State.ofCapacity capacity).runAll setup jobs
    Completed capacity jobs (ended.state, ended.effects) :=
  completed_of_settle capacity [] [] setup jobs (List.forall_mem_nil _) (List.forall_mem_nil _)
    hfinite hdone nofun rfl rfl (List.forall_mem_nil _)

/-! ## Runners with threads -/

section Threads

variable {registry : Registry} {snapshot : Environment}

/-- A run over a runner with threads has panicked on an embedded job that it does not refuse and
whose name contains a NUL. -/
theorem unnameable_of_panic (capacity : Nat) (setup : Setup) (jobs : List Job)
    (hbefore : ∀ act ∈ before, act.move.jobs? = none)
    (hduring : ∀ act ∈ during, act.move.jobs? = none)
    (hthreads : ∀ act ∈ during, act.setup.runner.HasThreads registry snapshot) {panic : Panic}
    (hcrash : (runOn capacity (before ++ ⟨setup, .submit jobs⟩ :: during)).1.phase =
      .crashed panic) :
    ∃ front act back job, during = front ++ act :: back ∧ act.move = .dispatch ∧
      (runOn capacity (before ++ ⟨setup, .submit jobs⟩ :: front)).1.pending =
        job :: (runOn capacity (before ++ ⟨setup, .submit jobs⟩ :: during)).1.pending ∧
      job ∈ jobs ∧ Unnameable capacity job := by
  obtain ⟨front, act, back, job, cpus, heq, hmove, hpending, hjob, haccepted, hdispatch,
    hrunner⟩ := panic_of_run capacity setup jobs hbefore hduring hcrash
  have hthread := hthreads act (by rw [heq]; exact List.mem_append_right _ List.mem_cons_self)
  exact ⟨front, act, back, job, heq, hmove, hpending, hjob, haccepted, hdispatch,
    hthread.nul_of_panicked hrunner⟩

theorem no_panic_of_nameable (capacity : Nat) (setup : Setup) {jobs : List Job}
    (hbefore : ∀ act ∈ before, act.move.jobs? = none)
    (hduring : ∀ act ∈ during, act.move.jobs? = none)
    (hthreads : ∀ act ∈ during, act.setup.runner.HasThreads registry snapshot)
    (hnames : ∀ job ∈ jobs, ¬ Unnameable capacity job) (panic : Panic) :
    (runOn capacity (before ++ ⟨setup, .submit jobs⟩ :: during)).1.phase ≠ .crashed panic := by
  intro hcrash
  obtain ⟨front, act, back, job, -, -, -, hjob, hname⟩ :=
    unnameable_of_panic capacity setup jobs hbefore hduring hthreads hcrash
  exact hnames job hjob hname

/-- All jobs but those that cannot have a thread are over as soon as they have been handed over. -/
theorem isOver_of_nameable (registry : Registry) (snapshot : Environment) {jobs : List Job}
    (hnames : ∀ job ∈ jobs, ¬ Unnameable capacity job) :
    ∀ job ∈ jobs, isRefused capacity job = false → job.dispatch = .embedded →
      ∀ cpus, (EmbeddedRunner.threaded registry snapshot job cpus).isOver = true := by
  intro job hjob haccepted hdispatch
  refine EmbeddedRunner.isOver_threaded fun hnul => ?_
  exact hnames job hjob ⟨haccepted, hdispatch, hnul⟩

end Threads

end Runs

/-- Faulty jobs end alone. Over a runner with threads, whatever the jobs and their workloads are,
every job is at any moment pending, on a thread, with a live worker or in the log by its one result;
when it leaves the line it does so with its result, for a thread, or for a worker, whose process
runs or whose result is due; and the jobs that are not refused are started in order. The scheduler
panics only when it is handed an embedded job that it does not refuse and whose name contains a NUL.
If there is no such job, the run does not panic; when it is over, each job has its one result and
every job that is not refused has been started; and at every moment at which no thread has a job
left it can be brought to its end, in particular when the scheduler is on its own, as long as no
process runs for ever. -/
theorem faults_end_alone (capacity : Nat) (before during : List Act) (setup : Setup)
    (jobs : List Job) (registry : Registry) (snapshot : Environment)
    (hbefore : ∀ act ∈ before, act.move.jobs? = none)
    (hduring : ∀ act ∈ during, act.move.jobs? = none)
    (hthreads : ∀ act ∈ during, act.setup.runner.HasThreads registry snapshot) :
    let run := runOn capacity (before ++ ⟨setup, .submit jobs⟩ :: during)
    Accounted capacity jobs run ∧
    (∀ front act back job, during = front ++ act :: back →
      let s := (runOn capacity (before ++ ⟨setup, .submit jobs⟩ :: front)).1
      let next := s.step act.setup act.move
      s.pending = job :: next.1.pending → Placed job next.1 next.2) ∧
    (∀ panic, run.1.phase = .crashed panic →
      ∃ front act back job, during = front ++ act :: back ∧ act.move = .dispatch ∧
        (runOn capacity (before ++ ⟨setup, .submit jobs⟩ :: front)).1.pending =
          job :: run.1.pending ∧
        job ∈ jobs ∧ Unnameable capacity job) ∧
    ((∀ job ∈ jobs, ¬ Unnameable capacity job) →
      (run.1.phase = .dispatching ∨ run.1.phase = .draining ∨ run.1.phase = .terminated) ∧
      (run.1.phase = .terminated → Completed capacity jobs run) ∧
      ∀ final : Setup, final.runner = .threaded registry snapshot → final.host.Finite →
        (run.1.tickets = [] → run.1.leaving = [] →
          (∀ worker ∈ run.1.workers, worker.EndsAlone final.host) →
            let ended := (⟨run.1, run.2⟩ : Progress).settle final
            Completed capacity jobs (ended.state, ended.effects)) ∧
        let ended := (State.ofCapacity capacity).runAll final jobs
        Completed capacity jobs (ended.state, ended.effects)) := by
  intro run
  have hc : Consistent run.1 (outstanding run.2) := consistent_trace capacity _
  have haccounted := accounted_run capacity setup jobs hbefore hduring
  refine ⟨haccounted, ?_, fun panic hcrash => ?_, fun hnames => ?_⟩
  · -- the places of jobs
    intro front act back job heq s next hpending
    have hs : Consistent s _ := consistent_trace capacity _
    rcases hs.step_cases act.setup act.move with h | h
    · have hnext : next = (s, []) := h
      rw [hnext] at hpending
      simpa using congrArg List.length hpending
    · exact hs.placed h hpending
  · exact unnameable_of_panic capacity setup jobs hbefore hduring hthreads hcrash
  · -- runs without a job that cannot have a thread
    have hgoing := no_panic_of_nameable capacity setup hbefore hduring hthreads hnames
    refine ⟨?_, haccounted.completed hc, fun final hrunner hfinite => ?_⟩
    · refine (under_way_run capacity setup jobs hbefore).resolve_right ?_
      rintro ⟨panic, hcrash⟩
      exact hgoing panic hcrash
    · have hdone := isOver_of_nameable registry snapshot hnames
      rw [← hrunner] at hdone
      exact ⟨completed_of_settle capacity before during setup jobs hbefore hduring hfinite hdone
        hgoing, completed_of_runAll capacity jobs hfinite hdone⟩

/-! ## Runs with faulty jobs -/

/-- The registry of the samples, with a workload that panics as well. -/
def frailRegistry : Registry :=
  ⟨countingRegistry.workloads ++ [⟨"frail", fun _ => .panicked ⟨"frail"⟩⟩]⟩

/-- A host on which every process ends at once, and a runner with threads. -/
def frailSetup : Setup :=
  { sampleSetup with
    host := { sampleHost with execute := fun _ _ => .ok (some (.silent (.exited 0))) }
    runner := .threaded frailRegistry sampleSnapshot }

/-- A job that needs too many CPUs, one whose workload panics, one whose harness nobody answers to,
one whose process cannot be started, and one with which nothing is wrong. -/
def frailJobs : List Job :=
  [{ embeddedJob "wide" with
      threads := 3, roles := ["a", "b", "c"], modes := [.tier1, .tier1, .tier1] },
    { embeddedJob "frail" with harness := "frail" },
    { embeddedJob "lost" with harness := "nobody" },
    { embeddedJob "cut" with dispatch := .forked, launchArgs := ["-x\x00"] },
    embeddedJob "sound"]

theorem finite_frailSetup : frailSetup.host.Finite := by
  intro command
  cases command with
  | nil => simp [Host.launch]
  | cons program args =>
    simp only [Host.launch]
    split
    · exact nofun
    · exact nofun

theorem faults_end_alone_sample :
    let run := runOn 2 ([⟨frailSetup, .request (.kill "nobody")⟩] ++
      ⟨frailSetup, .submit frailJobs⟩ :: [⟨frailSetup, .dispatch⟩, ⟨frailSetup, .dispatch⟩])
    let ended := (⟨run.1, run.2⟩ : Progress).settle frailSetup
    run.1.pending = frailJobs.drop 2 ∧ ended.state.phase = .terminated ∧
      ended.state.log.size = 5 ∧
      (passed ended.effects).map (fun r => r.2.status) =
        [.testError, .testError, .testError, .normal, .vmError] := by
  intro run ended
  obtain ⟨-, -, -, hnamed⟩ := faults_end_alone 2 [⟨frailSetup, .request (.kill "nobody")⟩]
    [⟨frailSetup, .dispatch⟩, ⟨frailSetup, .dispatch⟩] frailSetup frailJobs frailRegistry
    sampleSnapshot (by decide) (by decide) (by simp [frailSetup, EmbeddedRunner.HasThreads])
  obtain ⟨-, -, hends⟩ := hnamed (by decide)
  have hworkers : run.1.workers = [] := by decide +kernel
  have hcompleted : Completed 2 frailJobs (ended.state, ended.effects) := by
    refine (hends frailSetup rfl finite_frailSetup).1 (by decide +kernel) (by decide +kernel) ?_
    rw [hworkers]
    exact List.forall_mem_nil _
  have hsize : ended.state.log.size = 5 := by
    have hlength := hcompleted.jobs_perm.length_eq
    rw [List.length_map] at hlength
    rw [ResultLog.size, hcompleted.log_eq, List.length_map]
    exact hlength
  exact ⟨by decide +kernel, hcompleted.phase_eq, hsize, by decide +kernel⟩

/-- Of two jobs with which nothing is wrong but the NUL in the name of the first one, the second is
never started, whatever happens after the first has been dispatched. -/
theorem nul_name_ends_run :
    let jobs := [embeddedJob "a\x00b", embeddedJob "next"]
    let run := runOn 1 [⟨threadedSetup, .submit jobs⟩, ⟨threadedSetup, .dispatch⟩]
    (∀ job ∈ jobs, job.Sound ∧ isRefused 1 job = false) ∧
      ∀ acts, let later := run.1.trace acts
        (∃ panic, later.1.phase = .crashed panic) ∧ later.1.pending = [embeddedJob "next"] ∧
          launched later.2 = [] := by
  intro jobs run
  refine ⟨by decide, fun acts => ?_⟩
  have hc : Consistent run.1 (outstanding run.2) := consistent_trace 1 _
  have hcrashed : ∃ panic, run.1.phase = .crashed panic := by
    cases hphase : run.1.phase with
    | crashed panic => exact ⟨panic, rfl⟩
    | _ => exact absurd hphase (by decide +kernel)
  obtain ⟨panic, hcrash⟩ := hcrashed
  have hpending : run.1.pending = [embeddedJob "next"] := by decide +kernel
  obtain ⟨hphase, hline, hnone⟩ := hc.trace_of_crashed hcrash acts
  exact ⟨⟨panic, hphase⟩, hline.trans hpending, hnone⟩

end Scheduler

end StressBatch
