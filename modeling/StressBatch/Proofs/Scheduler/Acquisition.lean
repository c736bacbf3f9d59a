import StressBatch.Proofs.Scheduler.Conduct
import StressBatch.Scheduler.Run

/-!
# No acquisition is stuck

A scheduler that waits for CPUs handles all events and then checks on all workers, over and over.
Once every process is over and every embedded job has said that it is done with its CPUs, doing so
once is enough: nothing is active after that, so as many CPUs as there are can be had.
-/

namespace StressBatch.Scheduler

/-- Whether a move is made by somebody around the scheduler. -/
def Move.isOutside : Move → Bool
  | .request _ => true
  | .finish _ _ => true
  | .abandon _ => true
  | .notify _ => true
  | .exit _ _ => true
  | .lose _ _ => true
  | _ => false

/-- All work has ended: no process of a live worker runs, no runner has a job left, and every
embedded job that is over has said so. -/
structure Ended (s : State) : Prop where
  workers : ∀ worker ∈ s.workers, worker.isRunning = false
  tickets : s.tickets = []
  leaving : s.leaving = []

/-- One pass of the loop in which the scheduler waits for CPUs, with all that others do meanwhile:
it handles events until there is none, and then checks on all live workers in some order. -/
def IsTurn (s : State) (acts : List Act) : Prop :=
  ∃ handling late setup order, acts = handling ++ late ++ [⟨setup, .reap order⟩] ∧
    (∀ act ∈ handling, act.move = .handle ∨ act.move.isOutside = true) ∧
    (s.trace handling).1.queue = [] ∧
    (∀ act ∈ late, act.move.isOutside = true) ∧
    order.Perm (s.trace (handling ++ late)).1.liveTokens

section Steps

variable {s after : State} {new : List Effect} {held : List Ticket} {setup : Setup} {move : Move}

/-! ## Handling events -/

theorem transition_of_handling (hc : Consistent s held) (hactive : s.phase.isActive = true)
    {event : Event} {rest : List Event} (hqueue : s.queue = event :: rest) (setup : Setup) :
    Transition setup s .handle (s.step setup .handle).1 (s.step setup .handle).2 := by
  have hhandle : s.step? setup .handle =
      some (State.handleEvent { s with queue := rest } event) := by
    simp only [State.step?, State.handle, hactive, hqueue]
  unfold State.step
  rw [hhandle]
  exact transition_of_step? hc hhandle

/-- Handling takes the oldest event from the queue, and the live workers stay live. -/
theorem Consistent.handled (hc : Consistent s held) (h : Transition setup s .handle after new) :
    (∃ event, s.queue = event :: after.queue) ∧ after.phase = s.phase ∧
      after.liveTokens = s.liveTokens := by
  cases h with
  | pulled token rest worker hphase hqueue hworker =>
    exact ⟨⟨_, hqueue⟩, rfl, liveTokens_updateWorker fun w _ _ => w.keeps_takeJob⟩
  | pulledUnknown token rest hphase hqueue hworker => exact ⟨⟨_, hqueue⟩, rfl, rfl⟩
  | pushed token result rest worker recorded hphase hqueue hworker hrecord =>
    exact ⟨⟨_, hqueue⟩, rfl, liveTokens_updateWorker (hc.keeps_recorded hworker hrecord)⟩
  | pushedAgain token result rest worker violation hphase hqueue hworker hrecord =>
    exact ⟨⟨_, hqueue⟩, rfl, rfl⟩
  | pushedUnknown token result rest hphase hqueue hworker => exact ⟨⟨_, hqueue⟩, rfl, rfl⟩
  | reclaimed cpus rest layout hphase hqueue hrelease => exact ⟨⟨_, hqueue⟩, rfl, rfl⟩
  | killed token rest hphase hqueue =>
    exact ⟨⟨_, hqueue⟩, rfl, liveTokens_updateWorker fun w _ _ => w.keeps_mapProcess _⟩

/-- To handle as many events as wait leaves none waiting, if none come in between. -/
theorem Consistent.handled_all (hc : Consistent s held) (hactive : s.phase.isActive = true)
    (setup : Setup) :
    (s.trace (List.replicate s.queue.length ⟨setup, .handle⟩)).1.queue = [] ∧
      (s.trace (List.replicate s.queue.length ⟨setup, .handle⟩)).1.liveTokens =
        s.liveTokens := by
  generalize hqueue : s.queue = queue
  induction queue generalizing s held with
  | nil => exact ⟨hqueue, rfl⟩
  | cons event rest ih =>
    have h := transition_of_handling hc hactive hqueue setup
    obtain ⟨⟨handled, hrest⟩, hphase, htokens⟩ := hc.handled h
    have hqueues := (List.cons.inj (hrest.symm.trans hqueue)).2
    obtain ⟨hnone, hlive⟩ := ih (hc.next h) (hphase ▸ hactive) hqueues
    rw [List.length_cons, List.replicate_succ, State.trace]
    exact ⟨hnone, hlive.trans htokens⟩

/-! ## While all work has ended -/

theorem isRunning_mapProcess {worker : Worker} {f : Process → Process}
    (hf : ∀ process, process.isOver = true → (f process).isOver = true)
    (h : worker.isRunning = false) : (worker.mapProcess f).isRunning = false := by
  cases hphase : worker.phase with
  | created =>
    unfold Worker.mapProcess
    rw [hphase]
    exact h
  | completed passed =>
    unfold Worker.mapProcess
    rw [hphase]
    exact h
  | started process =>
    rw [Worker.mapProcess_of_started f hphase]
    unfold Worker.isRunning at h ⊢
    rw [hphase] at h
    simp only [Bool.not_eq_false'] at h ⊢
    exact hf process h

theorem Ended.updateWorker (he : Ended s) {token : Token} {f : Worker → Worker}
    (hf : ∀ worker ∈ s.workers, worker.token = token → (f worker).isRunning = false) :
    Ended (s.updateWorker token f) := by
  refine ⟨?_, he.tickets, he.leaving⟩
  intro worker hworker
  obtain ⟨old, hold, rfl⟩ := List.mem_map.mp hworker
  by_cases htoken : old.token = token
  · rw [if_pos htoken]
    exact hf old hold htoken
  · rw [if_neg htoken]
    exact he.workers old hold

theorem Ended.mapProcess (he : Ended s) (token : Token) {f : Process → Process}
    (hf : ∀ process, process.isOver = true → (f process).isOver = true) :
    Ended (s.updateWorker token fun worker => worker.mapProcess f) :=
  he.updateWorker fun worker hworker _ => isRunning_mapProcess hf (he.workers worker hworker)

theorem isOver_kill {process : Process} (h : process.isOver = true) :
    process.kill.isOver = true := by
  cases process with
  | running killed => contradiction
  | _ => rfl

theorem isOver_finish (exit : Exit) {process : Process} (h : process.isOver = true) :
    (process.finish exit).isOver = true := by
  cases process with
  | running killed => contradiction
  | _ => rfl

theorem isOver_lose (fault : IoFault) {process : Process} (h : process.isOver = true) :
    (process.lose fault).isOver = true := by
  cases process with
  | running killed => contradiction
  | _ => rfl

/-- Neither handling events nor anything that others do starts work anew. -/
theorem Ended.next (he : Ended s) (h : Transition setup s move after new)
    (hmove : move = .handle ∨ move.isOutside = true) :
    Ended after ∧ after.phase = s.phase := by
  cases h with
  | pulled token rest worker hphase hqueue hworker =>
    refine ⟨Ended.updateWorker (s := { s with queue := rest }) ⟨he.workers, he.tickets, he.leaving⟩
      ?_, rfl⟩
    intro w hw _
    unfold Worker.isRunning
    rw [Worker.takeJob_phase]
    exact he.workers w hw
  | pushed token result rest worker recorded hphase hqueue hworker hrecord =>
    refine ⟨Ended.updateWorker (s := { s with queue := rest }) ⟨he.workers, he.tickets, he.leaving⟩
      ?_, rfl⟩
    intro w hw _
    obtain ⟨-, rfl⟩ := Worker.record_eq_ok hrecord
    exact he.workers worker (State.token_of_worker? hworker).1
  | pulledUnknown token rest hphase hqueue hworker =>
    exact ⟨⟨he.workers, he.tickets, he.leaving⟩, rfl⟩
  | pushedAgain token result rest worker violation hphase hqueue hworker hrecord =>
    exact ⟨⟨he.workers, he.tickets, he.leaving⟩, rfl⟩
  | pushedUnknown token result rest hphase hqueue hworker =>
    exact ⟨⟨he.workers, he.tickets, he.leaving⟩, rfl⟩
  | reclaimed cpus rest layout hphase hqueue hrelease =>
    exact ⟨⟨he.workers, he.tickets, he.leaving⟩, rfl⟩
  | killed token rest hphase hqueue =>
    exact ⟨Ended.mapProcess (s := { s with queue := rest })
      ⟨he.workers, he.tickets, he.leaving⟩ token fun process => isOver_kill, rfl⟩
  | requested event hevent => exact ⟨⟨he.workers, he.tickets, he.leaving⟩, rfl⟩
  | finished position result ticket hticket =>
    rw [he.tickets] at hticket
    contradiction
  | abandoned position ticket hticket =>
    rw [he.tickets] at hticket
    contradiction
  | notified position ticket hticket =>
    rw [he.leaving] at hticket
    contradiction
  | exited token exit => exact ⟨he.mapProcess token fun process => isOver_finish exit, rfl⟩
  | lost token fault => exact ⟨he.mapProcess token fun process => isOver_lose fault, rfl⟩
  | _ => simp [Move.isOutside] at hmove

/-- Nobody gives CPUs back any more. -/
theorem Ended.cpus_next (he : Ended s) (h : Transition setup s move after new)
    (hmove : move.isOutside = true) :
    after.queue.filterMap Event.cpus? = s.queue.filterMap Event.cpus? := by
  cases h with
  | requested event hevent => exact cpus_of_requested hevent
  | exited token exit => rfl
  | lost token fault => rfl
  | finished position result ticket hticket => rfl
  | abandoned position ticket hticket => rfl
  | notified position ticket hticket =>
    rw [he.leaving] at hticket
    contradiction
  | _ => simp [Move.isOutside] at hmove

theorem Ended.trace (he : Ended s) (hc : Consistent s held) {acts : List Act}
    (hacts : ∀ act ∈ acts, act.move = .handle ∨ act.move.isOutside = true) :
    Ended (s.trace acts).1 ∧ (s.trace acts).1.phase = s.phase := by
  refine hc.trace_induction (P := fun t _ => Ended t ∧ t.phase = s.phase) ⟨he, rfl⟩ ?_
  rintro act before after active shown new hact - h ⟨hbefore, hphase⟩
  obtain ⟨hafter, hsame⟩ := hbefore.next h (hacts act hact)
  exact ⟨hafter, hsame.trans hphase⟩

theorem Ended.cpus_trace (he : Ended s) (hc : Consistent s held) {acts : List Act}
    (hacts : ∀ act ∈ acts, act.move.isOutside = true) :
    (s.trace acts).1.queue.filterMap Event.cpus? = s.queue.filterMap Event.cpus? := by
  have htrace : Ended (s.trace acts).1 ∧
      (s.trace acts).1.queue.filterMap Event.cpus? = s.queue.filterMap Event.cpus? := by
    refine hc.trace_induction (P := fun t _ => Ended t ∧
      t.queue.filterMap Event.cpus? = s.queue.filterMap Event.cpus?) ⟨he, rfl⟩ ?_
    rintro act before after active shown new hact - h ⟨hbefore, hcpus⟩
    have hmove := hacts act hact
    exact ⟨(hbefore.next h (.inr hmove)).1, (hbefore.cpus_next h hmove).trans hcpus⟩
  exact htrace.2

/-! ## Checking on the workers -/

/-- No embedded job holds CPUs once none is with its runner, none is leaving and none is about to
give its CPUs back. -/
theorem Consistent.held_eq_nil (hc : Consistent s held) (htickets : s.tickets = [])
    (hleaving : s.leaving = []) (hcpus : s.queue.filterMap Event.cpus? = []) : held = [] := by
  obtain ⟨gone, hheld, hgone⟩ := hc.places
  rw [hcpus, eq_comm, List.map_eq_nil_iff] at hgone
  rw [htickets, hleaving, hgone] at hheld
  exact hheld.eq_nil

/-- The next check on all workers leaves nothing active. -/
theorem Ended.reaped (he : Ended s) (hc : Consistent s held) (hactive : s.phase.isActive = true)
    (hcpus : s.queue.filterMap Event.cpus? = []) {order : List Token}
    (horder : order.Perm s.liveTokens) (setup : Setup) :
    let after := (s.step setup (.reap order)).1
    after.workers = [] ∧ after.layout.isIdle = true ∧ after.phase = s.phase := by
  have hnone : held = [] := hc.held_eq_nil he.tickets he.leaving hcpus
  have hover : ∀ worker ∈ s.workers, worker.check.2.isOver = true := by
    intro worker hworker
    obtain ⟨process, hprocess⟩ := hc.started worker hworker
    have hrunning := he.workers worker hworker
    unfold Worker.isRunning at hrunning
    rw [hprocess] at hrunning
    rw [Worker.isOver_check_eq hprocess]
    simpa using hrunning
  have hworkers : (s.workers.filter fun worker => !worker.check.2.isOver) = [] := by
    rw [List.filter_eq_nil_iff]
    intro worker hworker
    simp [hover worker hworker]
  have h := hc.transition_of_reaping hactive horder setup
  intro after
  have hnext : (s.step setup (.reap order)).1 = after := rfl
  generalize after = next, (s.step setup (.reap order)).2 = shown at hnext h ⊢
  rw [hnext] at h
  cases h with
  | reaped order layout hphase horder hrelease =>
    have hafter := (CpuLayout.perm_of_release (hc.busy_perm_of_endings horder) hrelease).2
    rw [hworkers, hnone] at hafter
    exact ⟨hworkers, CpuLayout.isIdle_iff.mpr hafter.eq_nil, rfl⟩

/-! ## Going on -/

/-- A scheduler none of whose CPUs are held need not wait. -/
theorem isSome_next? (hactive : s.phase.isActive = true) (hidle : s.layout.isIdle = true) :
    s.next?.isSome = true := by
  have havailable : s.layout.available = s.layout.capacity := beq_iff_eq.mp hidle
  have hroom : ∀ job, s.hasRoom job = true := by
    intro job
    unfold State.hasRoom
    cases hrefusal : s.refusal? job with
    | some reason => rfl
    | none =>
      obtain ⟨-, hthreads⟩ := State.refusal?_eq_none_iff.mp hrefusal
      simpa [havailable] using hthreads
  unfold State.next?
  cases hphase : s.phase with
  | dispatching =>
    cases s.pending with
    | nil => rfl
    | cons job rest => simp [hroom job]
  | draining => simp [hidle]
  | init =>
    rw [hphase] at hactive
    contradiction
  | terminated =>
    rw [hphase] at hactive
    contradiction
  | crashed panic =>
    rw [hphase] at hactive
    contradiction

/-- A scheduler that has dispatched all jobs and none of whose CPUs are held can end the run. -/
theorem terminated_of_close (hphase : s.phase = .draining) (hidle : s.layout.isIdle = true)
    (setup : Setup) (elapsed : Time.Span) :
    (s.step setup (.close elapsed)).1.phase = .terminated := by
  have hacquire := CpuLayout.tryAcquire_of_isIdle hidle (Nat.le_refl s.layout.capacity)
  have hrestore := (CpuLayout.acquired_of_tryAcquire hacquire).release
  have hclose : s.close elapsed = some { s with
      phase := .terminated, summary := { s.summary with elapsed := elapsed } } := by
    unfold State.close
    rw [hphase, hacquire]
    simp only
    rw [State.giveBack_of_release hrestore]
    simp only [if_true]
  unfold State.step
  simp only [State.step?, hclose, Option.map_some, Option.getD_some]

/-- The pass in which nobody else does anything. -/
theorem Consistent.isTurn_turn (hc : Consistent s held) (hactive : s.phase.isActive = true)
    (setup : Setup) : IsTurn s (s.turn.map (Act.mk setup)) := by
  obtain ⟨hnone, hlive⟩ := hc.handled_all hactive setup
  refine ⟨List.replicate s.queue.length ⟨setup, .handle⟩, [], setup, s.liveTokens, ?_, ?_, hnone,
    ?_, ?_⟩
  · simp [State.turn]
  · intro act hact
    left
    rw [List.eq_of_mem_replicate hact]
  · intro act hact
    exact absurd hact List.not_mem_nil
  · rw [List.append_nil, hlive]

/-- A pass after all work has ended leaves nothing active. -/
theorem Ended.turn (he : Ended s) (hc : Consistent s held) (hactive : s.phase.isActive = true)
    {acts : List Act} (hturn : IsTurn s acts) :
    (s.trace acts).1.workers = [] ∧ (s.trace acts).1.layout.isIdle = true ∧
      (s.trace acts).1.phase = s.phase := by
  obtain ⟨handling, late, setup, order, rfl, hhandling, hnone, hlate, horder⟩ := hturn
  obtain ⟨hended, hphase⟩ := he.trace hc hhandling
  obtain ⟨hafter, hsame⟩ := hended.trace (hc.trace handling) fun act hact => .inr (hlate act hact)
  have hcpus := hended.cpus_trace (hc.trace handling) hlate
  have hconsistent := hc.trace (handling ++ late)
  rw [hnone, List.filterMap_nil] at hcpus
  rw [State.trace_concat]
  rw [State.trace_append] at horder hconsistent ⊢
  have hreaped := hafter.reaped hconsistent (by rw [hsame, hphase]; exact hactive) hcpus horder
    setup
  obtain ⟨hworkers, hidle, hlast⟩ := hreaped
  exact ⟨hworkers, hidle, hlast.trans (hsame.trans hphase)⟩

end Steps

/-- No acquisition is stuck. Once all work has ended, whatever events still wait, one pass of the
loop in which the scheduler waits for CPUs leaves no worker live and no CPU held, whatever others do
meanwhile and in whatever order the workers are checked; so any number of CPUs can be had that there
are, and the scheduler need not wait. If all jobs have been dispatched, the run can end. The pass in
which nobody else does anything is one of those. -/
theorem acquisition_not_stuck {capacity : Nat} {acts : List Act}
    (hactive : (runOn capacity acts).1.phase.isActive = true)
    (hended : Ended (runOn capacity acts).1) :
    let s := (runOn capacity acts).1
    (∀ setup, IsTurn s (s.turn.map (Act.mk setup))) ∧
    ∀ turn, IsTurn s turn →
      let after := (s.trace turn).1
      after.workers = [] ∧
      after.layout = .ofCapacity capacity ∧
      (∀ n ≤ capacity, ∃ layout, after.layout.tryAcquire n = some (List.range n, layout)) ∧
      after.phase = s.phase ∧
      after.next?.isSome = true ∧
      (s.phase = .draining → ∀ setup elapsed,
        (after.step setup (.close elapsed)).1.phase = .terminated) := by
  intro s
  have hc : Consistent s (outstanding (runOn capacity acts).2) := consistent_trace capacity acts
  refine ⟨hc.isTurn_turn hactive, ?_⟩
  intro turn hturn after
  obtain ⟨hworkers, hidle, hphase⟩ := hended.turn hc hactive hturn
  have hcapacity : after.layout.capacity = capacity := by
    have hbefore : s.layout.capacity = capacity :=
      ((consistent_ofCapacity capacity).capacity_trace acts).trans
        (CpuLayout.capacity_ofCapacity capacity)
    exact (hc.capacity_trace turn).trans hbefore
  refine ⟨hworkers, ?_, ?_, hphase, isSome_next? (hphase ▸ hactive) hidle, ?_⟩
  · -- the layout
    rw [← hcapacity]
    exact CpuLayout.eq_ofCapacity_of_isIdle hidle
  · -- acquiring
    intro n hn
    exact ⟨_, CpuLayout.tryAcquire_of_isIdle hidle (by rw [hcapacity]; exact hn)⟩
  · -- the end of the run
    intro hdraining setup elapsed
    exact terminated_of_close (hphase.trans hdraining) hidle setup elapsed

/-- A run in which the process of the only worker is over while two requests wait. -/
def endedActs : List Act :=
  [.submit [forkedJob], .dispatch, .drain, .request (.kill "nobody"), .exit "fork-token-1" .killed,
    .request (.pull "fork-token-1")].map (Act.mk sampleSetup)

theorem acquisition_not_stuck_sample :
    let s := (runOn 2 endedActs).1
    s.phase = .draining ∧ Ended s ∧ s.queue.length = 2 ∧
      (s.trace (s.turn.map (Act.mk sampleSetup))).1.workers = [] ∧
      (s.trace (s.turn.map (Act.mk sampleSetup))).1.layout = .ofCapacity 2 := by
  intro s
  have hphase : s.phase = .draining := by decide +kernel
  have hended : Ended s := by
    refine ⟨?_, rfl, rfl⟩
    decide +kernel
  obtain ⟨hturn, hafter⟩ := acquisition_not_stuck (by rw [hphase]; rfl) hended
  obtain ⟨hworkers, hlayout, -⟩ := hafter _ (hturn sampleSetup)
  exact ⟨hphase, hended, rfl, hworkers, hlayout⟩

end StressBatch.Scheduler
