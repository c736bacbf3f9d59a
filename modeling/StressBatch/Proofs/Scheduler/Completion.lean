import StressBatch.Proofs.Embedded
import StressBatch.Proofs.Scheduler.Acquisition
import StressBatch.Proofs.Scheduler.Order

/-!
# A run comes to its end

A scheduler that goes on of its own accord waits for nothing but processes. If each of them ends
when it is left alone, and every embedded job is over as soon as it has been handed over, the run
ends. What is left to do are the pending jobs and the running processes: no move that carries the
run on adds to them, and whenever the scheduler has to wait there is a process that runs.
-/

namespace StressBatch

/-- Every process that can be started ends when it is left alone. -/
def Host.Finite (host : Host) : Prop := ∀ command, host.launch command ≠ .ok none

namespace Worker

/-- Whether the process of a worker ends when it is left alone, if it runs. -/
def EndsAlone (host : Host) (worker : Worker) : Prop :=
  worker.isRunning = true → worker.isDying = true ∨ (host.course worker.command).isSome = true

/-- A worker has not become livelier: it runs only if it did, and its process still ends. -/
structure Calms (host : Host) (worker after : Worker) : Prop where
  running : after.isRunning = true → worker.isRunning = true
  ends : worker.EndsAlone host → after.EndsAlone host

section Changes

variable {host : Host} {worker after : Worker}

theorem calms_of_phase (hphase : after.phase = worker.phase)
    (hcommand : after.command = worker.command) : Calms host worker after := by
  have hrunning : after.isRunning = worker.isRunning := by unfold isRunning; rw [hphase]
  have hdying : after.isDying = worker.isDying := by unfold isDying; rw [hphase]
  refine ⟨fun h => hrunning ▸ h, fun h hafter => ?_⟩
  rw [hdying, hcommand]
  exact h (hrunning ▸ hafter)

theorem calms_takeJob : Calms host worker worker.takeJob.2 := by
  refine calms_of_phase worker.takeJob_phase ?_
  unfold takeJob
  split <;> rfl

theorem calms_of_record {result : TestResult} (h : worker.record result = .ok after) :
    Calms host worker after := by
  obtain ⟨-, rfl⟩ := record_eq_ok h
  exact calms_of_phase rfl rfl

/-- A worker that has been killed is as good as ended. -/
theorem calms_kill : Calms host worker worker.kill := by
  cases hphase : worker.phase with
  | started process =>
    unfold kill
    rw [mapProcess_of_started _ hphase]
    cases process with
    | running killed =>
      refine ⟨fun _ => ?_, fun _ _ => .inl rfl⟩
      unfold isRunning
      rw [hphase]
      rfl
    | _ => exact ⟨nofun, fun _ => nofun⟩
  | _ =>
    have hsame : worker.kill = worker := by
      unfold kill mapProcess
      rw [hphase]
    rw [hsame]
    exact calms_of_phase rfl rfl

theorem isRunning_finish (exit : Exit) : (worker.finish exit).isRunning = false := by
  unfold finish mapProcess isRunning
  cases hphase : worker.phase with
  | started process => cases process <;> rfl
  | _ => simp only [hphase]

theorem calms_finish (exit : Exit) : Calms host worker (worker.finish exit) := by
  have hover : (worker.finish exit).isRunning ≠ true := by simp [isRunning_finish]
  exact ⟨fun h => absurd h hover, fun _ h => absurd h hover⟩

theorem Prepared.endsAlone_start {token : Token} {job : Job} {cpus : List Nat}
    (h : Prepared worker token job cpus) (hfinite : host.Finite) :
    (worker.start host).EndsAlone host := by
  rw [h.start_eq]
  intro hrunning
  have hlaunched : ∃ course, host.launch worker.command = .ok course := by
    unfold isRunning Host.spawn at hrunning
    cases hlaunch : host.launch worker.command with
    | ok course => exact ⟨course, rfl⟩
    | error fault =>
      rw [hlaunch] at hrunning
      contradiction
  obtain ⟨course, hlaunch⟩ := hlaunched
  have hends : course.isSome = true := by
    cases course with
    | some exit => rfl
    | none => exact absurd hlaunch (hfinite worker.command)
  refine .inr ?_
  simp only [Host.course, hlaunch, hends]

end Changes

end Worker

namespace Scheduler

/-- Whether a move is one of those that carry a run on: the scheduler's own, or the end of a
process. -/
def Move.carriesOn : Move → Bool
  | .dispatch => true
  | .drain => true
  | .handle => true
  | .reap _ => true
  | .close _ => true
  | .exit _ _ => true
  | _ => false

theorem jobs?_of_carriesOn {move : Move} (h : move.carriesOn = true) : move.jobs? = none := by
  cases move with
  | submit jobs => contradiction
  | _ => rfl

/-- What is left to do: the pending jobs and the running processes. -/
def State.work (s : State) : Nat := s.pending.length + s.workers.countP Worker.isRunning

/-- A run that is not stopped by anything but processes that end: runners have no job left, none of
the jobs to come will stay with one, and every process ends when it is left alone. -/
structure Settling (setup : Setup) (capacity : Nat) (s : State) : Prop where
  capacity_eq : s.layout.capacity = capacity
  under_way : s.phase = .dispatching ∨ s.phase = .draining ∨ s.phase = .terminated
  tickets_eq : s.tickets = []
  leaving_eq : s.leaving = []
  at_once : ∀ job ∈ s.pending, isRefused capacity job = false → job.dispatch = .embedded →
    ∀ cpus, (setup.runner job cpus).isOver = true
  ends : ∀ worker ∈ s.workers, worker.EndsAlone setup.host

section Steps

variable {capacity : Nat} {s after : State} {new : List Effect} {held : List Ticket}
  {setup : Setup} {move : Move}

/-! ## What a move leaves to do -/

theorem calms_updateWorker {host : Host} {token : Token} {f : Worker → Worker}
    (hf : ∀ worker ∈ s.workers, worker.token = token → worker.Calms host (f worker)) :
    ((∀ worker ∈ s.workers, worker.EndsAlone host) →
      ∀ worker ∈ (s.updateWorker token f).workers, worker.EndsAlone host) ∧
    (s.updateWorker token f).workers.countP Worker.isRunning ≤
      s.workers.countP Worker.isRunning := by
  have hcalms : ∀ worker ∈ s.workers,
      worker.Calms host (if worker.token = token then f worker else worker) := by
    intro worker hworker
    by_cases htoken : worker.token = token
    · rw [if_pos htoken]
      exact hf worker hworker htoken
    · rw [if_neg htoken]
      exact Worker.calms_of_phase rfl rfl
  unfold State.updateWorker
  constructor
  · intro hends worker hworker
    obtain ⟨old, hold, rfl⟩ := List.mem_map.mp hworker
    exact (hcalms old hold).ends (hends old hold)
  · rw [List.countP_map]
    exact List.countP_mono_left fun worker hworker => (hcalms worker hworker).running

/-- The worker of a token changes while the run settles. -/
theorem Settling.updateWorker (hs : Settling setup capacity s) {queue : List Event} {token : Token}
    {f : Worker → Worker}
    (hf : ∀ worker ∈ s.workers, worker.token = token → worker.Calms setup.host (f worker)) :
    let t := State.updateWorker { s with queue := queue } token f
    Settling setup capacity t ∧ t.work ≤ s.work := by
  obtain ⟨hends, hcount⟩ := calms_updateWorker (s := { s with queue := queue }) hf
  exact ⟨⟨hs.capacity_eq, hs.under_way, hs.tickets_eq, hs.leaving_eq, hs.at_once, hends hs.ends⟩,
    Nat.add_le_add_left hcount _⟩

/-- Jobs leave the line and workers leave the pool while the run settles. -/
theorem Settling.shrink (hs : Settling setup capacity s)
    (hcapacity : after.layout.capacity = capacity)
    (hphase : after.phase = .dispatching ∨ after.phase = .draining ∨ after.phase = .terminated)
    (htickets : after.tickets = s.tickets) (hleaving : after.leaving = s.leaving)
    (hpending : after.pending <:+ s.pending) (hworkers : after.workers.Sublist s.workers) :
    Settling setup capacity after ∧ after.work ≤ s.work := by
  refine ⟨⟨hcapacity, hphase, htickets.trans hs.tickets_eq, hleaving.trans hs.leaving_eq,
    ?_, ?_⟩, ?_⟩
  · exact fun job hjob => hs.at_once job (hpending.subset hjob)
  · exact fun worker hworker => hs.ends worker (hworkers.subset hworker)
  · exact Nat.add_le_add hpending.length_le hworkers.countP_le

/-- A move that carries the run on does not add to what is left to do. -/
theorem Settling.next (hs : Settling setup capacity s) (hc : Consistent s held)
    (hfinite : setup.host.Finite) (h : Transition setup s move after new)
    (hmove : move.carriesOn = true) : Settling setup capacity after ∧ after.work ≤ s.work := by
  have hcapacity := (hc.capacity_next h).trans hs.capacity_eq
  have hrest : ∀ {job : Job} {rest : List Job}, s.pending = job :: rest → rest <:+ s.pending := by
    intro job rest hpending
    rw [hpending]
    exact List.suffix_cons job rest
  have hfirst : ∀ {job : Job} {rest : List Job}, s.pending = job :: rest → s.refusal? job = none →
      job.dispatch = .embedded → ∀ cpus, (setup.runner job cpus).isOver = true := by
    intro job rest hpending hreason
    exact hs.at_once job (hpending ▸ List.mem_cons_self)
      (hs.capacity_eq ▸ not_isRefused_of_refusal hreason)
  cases h with
  | refused job rest reason hphase hpending hreason =>
    exact hs.shrink hcapacity hs.under_way rfl rfl (hrest hpending) (.refl _)
  | kept job rest cpus layout hphase hpending hreason hdispatch hacquire hrunner =>
    have hdone := hfirst hpending hreason hdispatch cpus
    rw [hrunner] at hdone
    contradiction
  | endedAtOnce job rest cpus layout result phase hphase hpending hreason hdispatch hacquire
      hrunner =>
    have hdone := hfirst hpending hreason hdispatch cpus
    have hgoes : phase = .dispatching := by
      generalize setup.runner job cpus = submission at hrunner hdone
      cases hrunner with
      | panicked panic => contradiction
      | _ => rfl
    exact hs.shrink hcapacity (.inl hgoes) rfl rfl (hrest hpending) (.refl _)
  | forked job rest cpus layout worker hphase hpending hreason hdispatch hacquire hprepare =>
    have hprepared := Worker.prepared_of_prepare hprepare
    refine ⟨⟨hcapacity, hs.under_way, hs.tickets_eq, hs.leaving_eq, ?_, ?_⟩, ?_⟩
    · exact fun other hother => hs.at_once other ((hrest hpending).subset hother)
    · intro live hlive
      rcases List.mem_append.mp hlive with hold | hnew
      · exact hs.ends live hold
      · rw [List.mem_singleton.mp hnew]
        exact hprepared.endsAlone_start hfinite
    · -- the process of the job takes the place of the job
      have hone : [worker.start setup.host].countP Worker.isRunning ≤ 1 := List.countP_le_length
      simp only [State.work, hpending, List.length_cons, List.countP_append]
      omega
  | unprepared job rest cpus layout fault hphase hpending hreason hdispatch hacquire hprepare =>
    exact hs.shrink hcapacity hs.under_way rfl rfl (hrest hpending) (.refl _)
  | drained hphase hpending =>
    exact hs.shrink hcapacity (.inr (.inl rfl)) rfl rfl List.suffix_rfl (.refl _)
  | closed elapsed hphase hidle =>
    exact hs.shrink hcapacity (.inr (.inr rfl)) rfl rfl List.suffix_rfl (.refl _)
  | pulled token rest worker hphase hqueue hworker =>
    exact hs.updateWorker fun w _ _ => Worker.calms_takeJob
  | pushed token result rest worker recorded hphase hqueue hworker hrecord =>
    refine hs.updateWorker fun w hw htoken => ?_
    obtain ⟨hmem, hname⟩ := State.token_of_worker? hworker
    rw [State.eq_of_token_eq hc.nodup_tokens hw hmem (htoken.trans hname.symm)]
    exact Worker.calms_of_record hrecord
  | killed token rest hphase hqueue => exact hs.updateWorker fun w _ _ => Worker.calms_kill
  | exited token exit => exact hs.updateWorker fun w _ _ => Worker.calms_finish exit
  | reaped order layout hphase horder hrelease =>
    exact hs.shrink hcapacity hs.under_way rfl rfl List.suffix_rfl List.filter_sublist
  | pulledUnknown token rest hphase hqueue hworker =>
    exact hs.shrink hcapacity hs.under_way rfl rfl List.suffix_rfl (.refl _)
  | pushedAgain token result rest worker violation hphase hqueue hworker hrecord =>
    exact hs.shrink hcapacity hs.under_way rfl rfl List.suffix_rfl (.refl _)
  | pushedUnknown token result rest hphase hqueue hworker =>
    exact hs.shrink hcapacity hs.under_way rfl rfl List.suffix_rfl (.refl _)
  | reclaimed cpus rest layout hphase hqueue hrelease =>
    exact hs.shrink hcapacity hs.under_way rfl rfl List.suffix_rfl (.refl _)
  | _ => simp [Move.carriesOn] at hmove

theorem Settling.run (hs : Settling setup capacity s) (hc : Consistent s held)
    (hfinite : setup.host.Finite) {moves : List Move}
    (hmoves : ∀ move ∈ moves, move.carriesOn = true) :
    Settling setup capacity (s.run setup moves).1 ∧ (s.run setup moves).1.work ≤ s.work := by
  refine hc.trace_induction (P := fun t _ => Settling setup capacity t ∧ t.work ≤ s.work)
    ⟨hs, Nat.le_refl _⟩ ?_
  rintro act before after active shown new hact hbetween h ⟨hbefore, hwork⟩
  obtain ⟨move, hmove, rfl⟩ := List.mem_map.mp hact
  obtain ⟨hafter, hless⟩ := hbefore.next hbetween hfinite h (hmoves move hmove)
  exact ⟨hafter, hless.trans hwork⟩

/-! ## The scheduler's next move -/

/-- How many moves the scheduler can make before it has to wait. -/
def State.movesLeft (s : State) : Nat :=
  match s.phase with
  | .dispatching => s.pending.length + 2
  | .draining => 1
  | _ => 0

/-- What the next move of a scheduler can be. -/
theorem next?_cases (h : s.next? = some move) :
    move = .drain ∧ s.phase = .dispatching ∧ s.pending = [] ∨
    (∃ job rest, move = .dispatch ∧ s.phase = .dispatching ∧ s.pending = job :: rest ∧
      s.hasRoom job = true) ∨
    move = .close ⟨0, 0⟩ ∧ s.phase = .draining ∧ s.layout.isIdle = true := by
  unfold State.next? at h
  cases hphase : s.phase with
  | dispatching =>
    cases hpending : s.pending with
    | nil =>
      simp only [hphase, hpending, Option.some.injEq] at h
      exact .inl ⟨h.symm, rfl, rfl⟩
    | cons job rest =>
      simp only [hphase, hpending, Option.ite_none_right_eq_some, Option.some.injEq] at h
      exact .inr (.inl ⟨job, rest, h.2.symm, rfl, rfl, h.1⟩)
  | draining =>
    simp only [hphase, Option.ite_none_right_eq_some, Option.some.injEq] at h
    exact .inr (.inr ⟨h.2.symm, rfl, h.1⟩)
  | _ => simp [hphase] at h

theorem carriesOn_of_next? (h : s.next? = some move) : move.carriesOn = true := by
  rcases next?_cases h with ⟨rfl, -⟩ | ⟨job, rest, rfl, -⟩ | ⟨rfl, -⟩ <;> rfl

/-- A job that has room can be dispatched. -/
theorem isSome_dispatchJob {job : Job} (hroom : s.hasRoom job = true) :
    (s.dispatchJob setup job).isSome = true := by
  cases h : s.dispatchJob setup job with
  | some next => rfl
  | none =>
    obtain ⟨hreason, hacquire⟩ := State.unacquired_of_dispatchJob h
    have hfew := CpuLayout.tryAcquire_eq_none_iff.mp hacquire
    simp only [State.hasRoom, hreason, Option.isSome_none, Bool.false_or,
      decide_eq_true_eq] at hroom
    omega

/-- The next move is possible. -/
theorem Consistent.transition_of_next? (hc : Consistent s held) (h : s.next? = some move)
    (setup : Setup) :
    Transition setup s move (s.step setup move).1 (s.step setup move).2 := by
  rcases hc.step?_cases setup move with ⟨hnone, hsame⟩ | htransition
  · exfalso
    rcases next?_cases h with ⟨rfl, hphase, hpending⟩ | ⟨job, rest, rfl, hphase, hpending, hroom⟩ |
      ⟨rfl, hphase, hidle⟩
    · simp [State.step?, State.drain, hphase, hpending] at hnone
    · have hstuck : State.dispatchJob setup { s with pending := rest } job = none := by
        simpa only [State.step?, State.dispatch, hphase, hpending] using hnone
      have hpossible : (State.dispatchJob setup { s with pending := rest } job).isSome = true :=
        isSome_dispatchJob hroom
      rw [hstuck] at hpossible
      contradiction
    · have hover := terminated_of_close hphase hidle setup ⟨0, 0⟩
      rw [hsame, hphase] at hover
      contradiction
  · exact htransition

/-- Every move that the scheduler makes before it has to wait is one move less. -/
theorem movesLeft_lt (hnext : s.next? = some move) (h : Transition setup s move after new) :
    after.movesLeft < s.movesLeft := by
  rcases next?_cases hnext with ⟨rfl, -⟩ | ⟨job, rest, rfl, -⟩ | ⟨rfl, -⟩
  · cases h with
    | drained hphase hpending => simp [State.movesLeft, hphase]
  · cases h with
    | endedAtOnce job rest cpus layout result phase hphase hpending hreason hdispatch hacquire
        hrunner =>
      generalize setup.runner job cpus = submission at hrunner
      cases hrunner <;> simp [State.movesLeft, hphase, hpending]
    | _ => simp_all [State.movesLeft]
  · cases h with
    | closed elapsed hphase hidle => simp [State.movesLeft, hphase]

/-! ## Waiting for CPUs -/

/-- A scheduler that waits: it has handled all events and harvested all workers that are over, and
still it has no next move. -/
structure Waits (s : State) : Prop where
  active : s.phase.isActive = true
  next?_eq : s.next? = none
  queue_eq : s.queue = []
  running : ∀ worker ∈ s.workers, worker.isRunning = true

/-- Neither handling events nor checking on workers changes how far a run has come. -/
theorem kept_of_turning (h : Transition setup s move after new)
    (hmove : move = .handle ∨ ∃ order, move = .reap order) :
    after.phase = s.phase ∧ after.pending = s.pending := by
  rcases hmove with rfl | ⟨order, rfl⟩ <;> cases h <;> exact ⟨rfl, rfl⟩

theorem Consistent.kept_run (hc : Consistent s held) {moves : List Move}
    (hmoves : ∀ move ∈ moves, move = .handle ∨ ∃ order, move = .reap order) (setup : Setup) :
    (s.run setup moves).1.phase = s.phase ∧ (s.run setup moves).1.pending = s.pending := by
  refine hc.trace_induction (P := fun t _ => t.phase = s.phase ∧ t.pending = s.pending)
    ⟨rfl, rfl⟩ ?_
  rintro act before after active shown new hact - h ⟨hphase, hpending⟩
  obtain ⟨move, hmove, rfl⟩ := List.mem_map.mp hact
  obtain ⟨hsame, hline⟩ := kept_of_turning h (hmoves move hmove)
  exact ⟨hsame.trans hphase, hline.trans hpending⟩

theorem turning_of_turn (hmove : move ∈ s.turn) :
    move = .handle ∨ ∃ order, move = .reap order := by
  rcases List.mem_append.mp hmove with hhandle | hreap
  · exact .inl (List.eq_of_mem_replicate hhandle)
  · exact .inr ⟨_, List.mem_singleton.mp hreap⟩

theorem carriesOn_of_turn (hmove : move ∈ s.turn) : move.carriesOn = true := by
  rcases turning_of_turn hmove with rfl | ⟨order, rfl⟩ <;> rfl

theorem Consistent.kept_turn (hc : Consistent s held) (setup : Setup) :
    (s.run setup s.turn).1.phase = s.phase ∧
      (s.run setup s.turn).1.movesLeft = s.movesLeft := by
  have hturning : ∀ move ∈ s.turn, move = .handle ∨ ∃ order, move = .reap order :=
    fun _ => turning_of_turn
  obtain ⟨hphase, hpending⟩ := hc.kept_run hturning setup
  refine ⟨hphase, ?_⟩
  unfold State.movesLeft
  rw [hphase, hpending]

/-- A check on all workers leaves only those whose process runs. -/
theorem Consistent.running_reaped (hc : Consistent s held) (hactive : s.phase.isActive = true)
    {order : List Token} (horder : order.Perm s.liveTokens) (setup : Setup) :
    (s.step setup (.reap order)).1.queue = s.queue ∧
      ∀ worker ∈ (s.step setup (.reap order)).1.workers, worker.isRunning = true := by
  have h := hc.transition_of_reaping hactive horder setup
  generalize (s.step setup (.reap order)).1 = t, (s.step setup (.reap order)).2 = shown at h ⊢
  cases h with
  | reaped order layout hphase horder hrelease =>
    refine ⟨rfl, fun worker hworker => ?_⟩
    obtain ⟨hlive, hunfinished⟩ := List.mem_filter.mp hworker
    obtain ⟨process, hprocess⟩ := hc.started worker hlive
    rw [Worker.isOver_check_eq hprocess] at hunfinished
    unfold Worker.isRunning
    rw [hprocess]
    exact hunfinished

/-- What the scheduler does when it has to wait leaves no event and no worker that is over. -/
theorem Consistent.turned (hc : Consistent s held) (hactive : s.phase.isActive = true)
    (setup : Setup) :
    (s.run setup s.turn).1.queue = [] ∧
      ∀ worker ∈ (s.run setup s.turn).1.workers, worker.isRunning = true := by
  obtain ⟨hnone, hlive⟩ := hc.handled_all hactive setup
  have hhandling : ∀ move ∈ List.replicate s.queue.length Move.handle,
      move = .handle ∨ ∃ order, move = .reap order :=
    fun move hmove => .inl (List.eq_of_mem_replicate hmove)
  obtain ⟨hphase, -⟩ := hc.kept_run hhandling setup
  have hhandled := hc.trace ((List.replicate s.queue.length Move.handle).map (Act.mk setup))
  have horder : s.liveTokens.Perm (s.trace ((List.replicate s.queue.length Move.handle).map
      (Act.mk setup))).1.liveTokens := by
    rw [List.map_replicate, hlive]
  obtain ⟨hqueue, hrunning⟩ := hhandled.running_reaped (hphase ▸ hactive) horder setup
  have hturn : (s.run setup s.turn).1 = ((s.trace ((List.replicate s.queue.length
      Move.handle).map (Act.mk setup))).1.step setup (.reap s.liveTokens)).1 := by
    rw [State.run, State.turn, List.map_append, List.map_singleton, State.trace_concat]
  rw [hturn]
  refine ⟨hqueue.trans ?_, hrunning⟩
  rw [List.map_replicate, hnone]

/-- A scheduler that waits while no embedded job is under way waits for a process. -/
theorem Waits.exists_worker (hw : Waits s) (hc : Consistent s held) (htickets : s.tickets = [])
    (hleaving : s.leaving = []) : s.workers ≠ [] := by
  intro hworkers
  have hheld : held = [] := hc.held_eq_nil htickets hleaving (by rw [hw.queue_eq]; rfl)
  have hbusy := hc.busy_perm
  rw [hworkers, hheld] at hbusy
  have hidle := CpuLayout.isIdle_iff.mpr hbusy.eq_nil
  have hnext := isSome_next? hw.active hidle
  rw [hw.next?_eq] at hnext
  contradiction

/-! ## Processes that come to their ends -/

/-- When processes end, only those run on that are not among them. -/
theorem running_of_exits (setup : Setup) {moves : List Move}
    (hmoves : ∀ move ∈ moves, ∃ token exit, move = .exit token exit) :
    (s.run setup moves).1.pending = s.pending ∧
      ∀ worker ∈ (s.run setup moves).1.workers, worker.isRunning = true →
        worker ∈ s.workers ∧ ∀ exit, .exit worker.token exit ∉ moves := by
  induction moves using List.reverseRecOn with
  | nil => exact ⟨rfl, fun worker hworker _ => ⟨hworker, fun exit => List.not_mem_nil⟩⟩
  | append_singleton moves move ih =>
    obtain ⟨hpending, hrunning⟩ := ih fun m hm => hmoves m (List.mem_append_left _ hm)
    obtain ⟨token, exit, rfl⟩ := hmoves move (List.mem_append_right _ List.mem_cons_self)
    have hlast : (s.run setup (moves ++ [.exit token exit])).1 =
        (s.run setup moves).1.updateWorker token (Worker.finish exit) := by
      rw [State.run, List.map_append, List.map_singleton, State.trace_concat]
      rfl
    rw [hlast]
    refine ⟨hpending, fun worker hworker hrun => ?_⟩
    obtain ⟨old, hold, rfl⟩ := List.mem_map.mp hworker
    by_cases htoken : old.token = token
    · rw [if_pos htoken, Worker.isRunning_finish] at hrun
      contradiction
    · rw [if_neg htoken] at hrun ⊢
      obtain ⟨hmem, hnone⟩ := hrunning old hold hrun
      refine ⟨hmem, fun other hother => ?_⟩
      rcases List.mem_append.mp hother with hbefore | hnow
      · exact hnone other hbefore
      · exact htoken (Move.exit.inj (List.mem_singleton.mp hnow)).1

theorem exit_of_ends (hmove : move ∈ s.ends setup) : ∃ token exit, move = .exit token exit := by
  obtain ⟨worker, -, hsome⟩ := List.mem_filterMap.mp hmove
  by_cases hdying : worker.isDying = true
  · rw [if_pos hdying] at hsome
    exact ⟨_, _, (Option.some.inj hsome).symm⟩
  · rw [if_neg hdying] at hsome
    split at hsome
    · obtain ⟨exit, -, rfl⟩ := Option.map_eq_some_iff.mp hsome
      exact ⟨_, _, rfl⟩
    · contradiction

theorem exists_end {worker : Worker} (hworker : worker ∈ s.workers)
    (hends : worker.EndsAlone setup.host) (hrunning : worker.isRunning = true) :
    ∃ exit, .exit worker.token exit ∈ s.ends setup := by
  by_cases hdying : worker.isDying = true
  · refine ⟨.killed, List.mem_filterMap.mpr ⟨worker, hworker, ?_⟩⟩
    rw [if_pos hdying]
  · obtain ⟨exit, hcourse⟩ := Option.isSome_iff_exists.mp ((hends hrunning).resolve_left hdying)
    refine ⟨exit, List.mem_filterMap.mpr ⟨worker, hworker, ?_⟩⟩
    rw [if_neg hdying, if_pos hrunning, hcourse]
    rfl

/-- While a scheduler waits there are processes that come to their ends, and then less is left to
do. -/
theorem Settling.ended (hs : Settling setup capacity s) (hc : Consistent s held) (hw : Waits s) :
    s.ends setup ≠ [] ∧ (s.run setup (s.ends setup)).1.work < s.work := by
  obtain ⟨worker, hworker⟩ :=
    List.exists_mem_of_ne_nil _ (hw.exists_worker hc hs.tickets_eq hs.leaving_eq)
  have hruns := hw.running worker hworker
  obtain ⟨exit, hexit⟩ := exists_end hworker (hs.ends worker hworker) hruns
  refine ⟨List.ne_nil_of_mem hexit, ?_⟩
  obtain ⟨hpending, hafter⟩ := running_of_exits setup fun move => exit_of_ends
  have hnone : (s.run setup (s.ends setup)).1.workers.countP Worker.isRunning = 0 := by
    refine List.countP_eq_zero.mpr fun left hleft hrunning => ?_
    obtain ⟨hmem, hno⟩ := hafter left hleft hrunning
    obtain ⟨exit, hends⟩ := exists_end hmem (hs.ends left hmem) hrunning
    exact hno exit hends
  have hsome : 0 < s.workers.countP Worker.isRunning :=
    List.countP_pos_iff.mpr ⟨worker, hworker, hruns⟩
  unfold State.work
  rw [hpending, hnone]
  omega

/-- A run that settles is over once it is no longer active, and no process is left. -/
theorem Settling.terminated (hs : Settling setup capacity s) (hc : Consistent s held)
    (hinactive : s.phase.isActive = false) : s.phase = .terminated ∧ s.ends setup = [] := by
  have hphase : s.phase = .terminated := by
    rcases hs.under_way with h | h | h
    · rw [h] at hinactive
      contradiction
    · rw [h] at hinactive
      contradiction
    · exact h
  refine ⟨hphase, ?_⟩
  unfold State.ends
  rw [(hc.at_rest (.inr hphase)).1]
  rfl

end Steps

/-! ## Carrying a run on -/

namespace Progress

variable {setup : Setup} {capacity : Nat} {held : List Ticket}

/-- What carrying a run on leads to: only moves that carry it on are made. -/
def Leads (setup : Setup) (progress after : Progress) : Prop :=
  ∃ moves, (∀ move ∈ moves, move.carriesOn = true) ∧ after = progress.follow setup moves

theorem follow_follow (progress : Progress) (moves more : List Move) :
    (progress.follow setup moves).follow setup more = progress.follow setup (moves ++ more) := by
  unfold follow State.run
  rw [List.map_append, State.trace_append]
  simp only [List.append_assoc]

theorem Leads.refl (progress : Progress) : Leads setup progress progress :=
  ⟨[], List.forall_mem_nil _, by simp [follow, State.run, State.trace]⟩

theorem leads_follow {progress : Progress} {moves : List Move}
    (hmoves : ∀ move ∈ moves, move.carriesOn = true) :
    Leads setup progress (progress.follow setup moves) := ⟨moves, hmoves, rfl⟩

theorem Leads.trans {first middle last : Progress} (h : Leads setup first middle)
    (hlater : Leads setup middle last) : Leads setup first last := by
  obtain ⟨moves, hmoves, rfl⟩ := h
  obtain ⟨more, hmore, rfl⟩ := hlater
  exact ⟨moves ++ more, List.forall_mem_append.mpr ⟨hmoves, hmore⟩, follow_follow first moves more⟩

/-- What is left to do when a run that settles has been carried on. -/
theorem Leads.settling {progress after : Progress} (h : Leads setup progress after)
    (hfinite : setup.host.Finite) (hc : Consistent progress.state held)
    (hs : Settling setup capacity progress.state) :
    (∃ held, Consistent after.state held) ∧ Settling setup capacity after.state ∧
      after.state.work ≤ progress.state.work := by
  obtain ⟨moves, hmoves, rfl⟩ := h
  exact ⟨⟨_, hc.trace _⟩, hs.run hc hfinite hmoves⟩

theorem leads_next {progress : Progress} {move : Move} (h : progress.state.next? = some move) :
    Leads setup progress (progress.follow setup [move]) :=
  leads_follow fun _ hm => List.mem_singleton.mp hm ▸ carriesOn_of_next? h

theorem advance_leads (setup : Setup) (fuel : Nat) (progress : Progress) :
    Leads setup progress (progress.advance setup fuel) := by
  induction fuel generalizing progress with
  | zero => exact .refl progress
  | succ fuel ih =>
    unfold advance
    split
    · next move hmove => exact (leads_next hmove).trans (ih _)
    · split
      · have hturn : Leads setup progress (progress.follow setup progress.state.turn) :=
          leads_follow fun move => carriesOn_of_turn
        simp only
        split
        · next move hmove => exact (hturn.trans (leads_next hmove)).trans (ih _)
        · exact hturn
      · exact .refl progress

theorem leads_ends (setup : Setup) (progress : Progress) :
    Leads setup progress (progress.follow setup (progress.state.ends setup)) := by
  refine leads_follow fun move hmove => ?_
  obtain ⟨token, exit, rfl⟩ := exit_of_ends hmove
  rfl

theorem settleWith_leads (setup : Setup) (fuel : Nat) (progress : Progress) :
    Leads setup progress (progress.settleWith setup fuel) := by
  induction fuel generalizing progress with
  | zero => exact .refl progress
  | succ fuel ih =>
    have hadvance := advance_leads setup progress.moveBound progress
    unfold settleWith
    simp only
    split
    · exact hadvance
    · exact (hadvance.trans (leads_ends setup _)).trans (ih _)

theorem settle_leads (setup : Setup) (progress : Progress) :
    Leads setup progress (progress.settle setup) :=
  settleWith_leads setup _ progress

/-- The scheduler goes on until the run is over, or until it waits. -/
theorem advance_rests (setup : Setup) {fuel : Nat} {progress : Progress}
    (hc : Consistent progress.state held) (hfuel : progress.state.movesLeft ≤ fuel) :
    (progress.advance setup fuel).state.phase.isActive = false ∨
      Waits (progress.advance setup fuel).state := by
  induction fuel generalizing progress held with
  | zero =>
    left
    unfold State.movesLeft at hfuel
    unfold advance
    cases hphase : progress.state.phase with
    | dispatching => simp [hphase] at hfuel
    | draining => simp [hphase] at hfuel
    | _ => rfl
  | succ fuel ih =>
    have hnext : ∀ {p : Progress} {held : List Ticket} {move : Move}, Consistent p.state held →
        p.state.next? = some move → p.state.movesLeft ≤ fuel + 1 →
          ((p.follow setup [move]).advance setup fuel).state.phase.isActive = false ∨
            Waits ((p.follow setup [move]).advance setup fuel).state := by
      intro p held move hp hmove hleft
      have h := hp.transition_of_next? hmove setup
      have hless := movesLeft_lt hmove h
      exact ih (hp.next h) (by exact Nat.le_of_lt_succ (hless.trans_le hleft))
    unfold advance
    split
    · next move hmove => exact hnext hc hmove hfuel
    · split
      · next hnone hactive =>
        obtain ⟨hphase, hleft⟩ := hc.kept_turn setup
        obtain ⟨hqueue, hrunning⟩ := hc.turned hactive setup
        simp only
        split
        · next move hmove =>
          exact hnext (hc.trace _) hmove (hleft.trans_le hfuel)
        · next hstill => exact .inr ⟨hphase ▸ hactive, hstill, hqueue, hrunning⟩
      · next hinactive => exact .inl (Bool.eq_false_iff.mpr hinactive)

theorem movesLeft_le_moveBound (progress : Progress) :
    progress.state.movesLeft ≤ progress.moveBound := by
  unfold State.movesLeft moveBound
  split <;> omega

/-- What is left to do bounds how often processes have to come to their ends. -/
theorem terminated_of_settleWith (setup : Setup) (hfinite : setup.host.Finite) {fuel : Nat}
    {progress : Progress} (hc : Consistent progress.state held)
    (hs : Settling setup capacity progress.state) (hfuel : progress.state.work < fuel) :
    (progress.settleWith setup fuel).state.phase = .terminated := by
  induction fuel generalizing progress held with
  | zero => exact absurd hfuel (Nat.not_lt_zero _)
  | succ fuel ih =>
    have hrests := advance_rests setup hc (movesLeft_le_moveBound progress)
    have hadvance := advance_leads setup progress.moveBound progress
    unfold settleWith
    simp only
    generalize progress.advance setup progress.moveBound = rested at hrests hadvance ⊢
    obtain ⟨⟨now, hnow⟩, hsettling, hwork⟩ := hadvance.settling hfinite hc hs
    rcases hrests with hinactive | hwaits
    · obtain ⟨hover, hends⟩ := hsettling.terminated hnow hinactive
      rw [hends]
      exact hover
    · obtain ⟨hsome, hless⟩ := hsettling.ended hnow hwaits
      obtain ⟨⟨later, hlater⟩, hstill, -⟩ :=
        (leads_ends setup rested).settling hfinite hnow hsettling
      have hfewer : (rested.follow setup (rested.state.ends setup)).state.work < fuel :=
        hless.trans_le (by omega)
      split
      · next hnone => exact absurd hnone hsome
      · exact ih hlater hstill hfewer

/-- A run that is not stopped by anything but processes that end comes to its end. -/
theorem terminated_of_settle {setup : Setup} (hfinite : setup.host.Finite) {progress : Progress}
    (hc : Consistent progress.state held) (hs : Settling setup capacity progress.state) :
    (progress.settle setup).state.phase = .terminated := by
  refine terminated_of_settleWith setup hfinite hc hs ?_
  have hcount : progress.state.workers.countP Worker.isRunning ≤ progress.state.workers.length :=
    List.countP_le_length
  unfold State.work
  omega

end Progress

end Scheduler

end StressBatch
