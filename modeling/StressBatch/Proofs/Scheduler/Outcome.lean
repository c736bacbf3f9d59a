import StressBatch.Proofs.Scheduler.Conduct
import StressBatch.Proofs.Worker.Life

/-!
# What comes of live workers

The result that a live worker has been handed was pushed under its token by somebody; no live
worker has had its slot emptied. So checking on a live worker comes to one of four things: its
process still runs, or it ended with exit code 0 and left a result, or it ended so and left none, or
it ended in any other way; and only in the second case is what is passed on not made from the
worker's own job.
-/

namespace StressBatch

/-! ## What the end of a process leaves -/

namespace Worker

/-- What a process left that ended with exit code 0: the result that had been handed over by then,
if there was one, and its end. -/
def outcome? (worker : Worker) : Option (Option TestResult × Exit) :=
  match worker.phase with
  | .started (.ended exit) =>
    if exit.ending = .exited 0 then some (worker.slot.result?, exit) else none
  | _ => none

/-- What checking on a worker comes to whose process has been started. -/
inductive Finding (worker : Worker) : Worker → Checked → Prop where
  /-- The process still runs. -/
  | unfinished (houtcome : worker.outcome? = none) : Finding worker worker .unfinished
  /-- The process ended with exit code 0 and left a result, which is passed on. -/
  | passed (after : Worker) (result : TestResult) (exit : Exit)
      (houtcome : worker.outcome? = some (some result, exit))
      (hphase : after.phase = .completed true) :
    Finding worker after (.reported (ownResult result exit))
  /-- The process ended with exit code 0 and left no result. -/
  | silent (after : Worker) (exit : Exit) (houtcome : worker.outcome? = some (none, exit))
      (hphase : after.phase = .completed false) :
    Finding worker after (.violated ⟨worker.token, .noResult⟩)
  /-- The process ended in any other way, and a result of the worker's job says how. -/
  | failed (after : Worker) (result : TestResult) (houtcome : worker.outcome? = none)
      (hphase : after.phase = .completed false) (hjob : result.job = worker.job) :
    Finding worker after (.reported result)

theorem isClean_iff {ending : Ending} : ending.isClean = true ↔ ending = .exited 0 := by
  cases ending <;> simp [Ending.isClean]

theorem outcome?_of_ended {worker : Worker} {exit : Exit}
    (h : worker.phase = .started (.ended exit)) : worker.outcome? =
      if exit.ending = .exited 0 then some (worker.slot.result?, exit) else none := by
  unfold outcome?
  rw [h]

/-- Checking on a worker comes to what its process left. -/
theorem finding_of_check {worker : Worker} {process : Process} {recorded : Option TestResult}
    (hphase : worker.phase = .started process) (hslot : worker.slot = slotOf recorded) :
    Finding worker worker.check.1 worker.check.2 := by
  cases hover : process.isOver with
  | false =>
    rw [check_of_running hphase hover]
    refine .unfinished ?_
    unfold outcome?
    rw [hphase]
    cases process with
    | running killed => rfl
    | _ => contradiction
  | true =>
    obtain ⟨passed, hafter, hcompletion⟩ := completion_of_check hphase hover hslot
    have hleft : worker.slot.result? = recorded := by rw [hslot, result?_slotOf]
    generalize worker.check.1 = after, worker.check.2 = checked at hafter hcompletion ⊢
    cases hcompletion with
    | passed exit result hclean hrecorded =>
      refine .passed after result exit ?_ hafter
      rw [outcome?_of_ended hphase, if_pos (isClean_iff.mp hclean), hleft, hrecorded]
    | violated exit hclean hrecorded =>
      refine .silent after exit ?_ hafter
      rw [outcome?_of_ended hphase, if_pos (isClean_iff.mp hclean), hleft, hrecorded]
    | crashed exit hcrashed =>
      have hexit : exit.ending ≠ .exited 0 := by
        intro h
        rw [isClean_iff.mpr h] at hcrashed
        contradiction
      refine .failed after _ ?_ hafter rfl
      rw [outcome?_of_ended hphase, if_neg hexit]
    | refused fault =>
      refine .failed after _ ?_ hafter rfl
      unfold outcome?
      rw [hphase]
    | lost fault =>
      refine .failed after _ ?_ hafter rfl
      unfold outcome?
      rw [hphase]

/-- The result of its own that a worker leaves, and what for. -/
def own? (worker : Worker) : Option (Scheduler.Origin × TestResult) :=
  match worker.outcome? with
  | some (some result, exit) =>
    some (.forked worker.token worker.job, ownResult result exit)
  | _ => none

/-- A worker that leaves a result of its own has been handed it, and its process has ended with exit
code 0. -/
theorem delivered_of_own? {worker : Worker} {r : Scheduler.Origin × TestResult}
    (h : worker.own? = some r) : ∃ result exit, worker.slot = .delivered result ∧
      exit.ending = .exited 0 ∧
      r = (.forked worker.token worker.job, ownResult result exit) := by
  unfold own? at h
  split at h
  · next result exit houtcome =>
    unfold outcome? at houtcome
    split at houtcome
    · split at houtcome
      · next hclean =>
        obtain ⟨hresult, rfl⟩ := Prod.mk.inj (Option.some.inj houtcome)
        refine ⟨result, _, ?_, hclean, (Option.some.inj h).symm⟩
        cases hslot : worker.slot with
        | delivered handed =>
          rw [hslot] at hresult
          exact congrArg ResultSlot.delivered (Option.some.inj hresult)
        | _ =>
          rw [hslot] at hresult
          contradiction
      · contradiction
    · contradiction
  · contradiction

/-- The breach of the protocol that a worker commits whose process ended with exit code 0 and left
no result. -/
def breach? (worker : Worker) : Option Violation :=
  match worker.outcome? with
  | some (none, _) => some ⟨worker.token, .noResult⟩
  | _ => none

end Worker

namespace Scheduler

/-! ## Where handed results come from -/

/-- Whether an event was put into the queue from outside. -/
def Requested (event : Event) (acts : List Act) : Prop :=
  ∃ act ∈ acts, act.move = .request event

theorem Requested.mono {event : Event} {acts : List Act} (h : Requested event acts)
    (more : List Act) : Requested event (acts ++ more) := by
  obtain ⟨act, hact, hmove⟩ := h
  exact ⟨act, List.mem_append_left more hact, hmove⟩

/-- The results on their way to live workers, and those that live workers have been handed, were
pushed under their tokens. -/
structure Sourced (acts : List Act) (s : State) : Prop where
  queue : ∀ token result, .push token result ∈ s.queue → Requested (.push token result) acts
  slots : ∀ worker ∈ s.workers, ∃ recorded, worker.slot = Worker.slotOf recorded ∧
    ∀ result, recorded = some result → Requested (.push worker.token result) acts

section Steps

variable {acts : List Act} {s after : State} {new : List Effect} {held : List Ticket} {act : Act}

theorem Sourced.more (hs : Sourced acts s) (act : Act) : Sourced (acts ++ [act]) s where
  queue := fun token result h => (hs.queue token result h).mono _
  slots := by
    intro worker hworker
    obtain ⟨recorded, hslot, hpushed⟩ := hs.slots worker hworker
    exact ⟨recorded, hslot, fun result h => (hpushed result h).mono _⟩

/-- Steps that put nothing into the queue and nothing into a slot. -/
theorem Sourced.of_same (hs : Sourced acts s)
    (hqueue : ∀ token result, .push token result ∈ after.queue → .push token result ∈ s.queue)
    (hworkers : ∀ worker ∈ after.workers, ∃ old ∈ s.workers,
      worker.token = old.token ∧ worker.slot = old.slot) : Sourced acts after where
  queue := fun token result h => hs.queue token result (hqueue token result h)
  slots := by
    intro worker hworker
    obtain ⟨old, hold, htoken, hslot⟩ := hworkers worker hworker
    rw [htoken, hslot]
    exact hs.slots old hold

theorem same_of_updateWorker {token : Token} {f : Worker → Worker}
    (hf : ∀ worker ∈ s.workers, worker.token = token →
      (f worker).token = worker.token ∧ (f worker).slot = worker.slot) :
    ∀ worker ∈ (s.updateWorker token f).workers, ∃ old ∈ s.workers,
      worker.token = old.token ∧ worker.slot = old.slot := by
  intro worker hworker
  obtain ⟨old, hold, rfl⟩ := List.mem_map.mp hworker
  refine ⟨old, hold, ?_⟩
  by_cases htoken : old.token = token
  · rw [if_pos htoken]
    exact hf old hold htoken
  · rw [if_neg htoken]
    exact ⟨rfl, rfl⟩

theorem same_of_mapProcess (s : State) (token : Token) (f : Process → Process) :
    ∀ worker ∈ (s.updateWorker token fun worker => worker.mapProcess f).workers,
      ∃ old ∈ s.workers, worker.token = old.token ∧ worker.slot = old.slot :=
  same_of_updateWorker fun worker _ _ =>
    ⟨worker.mapProcess_token f, (worker.alike_mapProcess f).slot_eq⟩

theorem push_mem_of_dequeued {event : Event} {rest : List Event} (hqueue : s.queue = event :: rest)
    (token : Token) (result : TestResult) (h : .push token result ∈ rest) :
    .push token result ∈ s.queue :=
  hqueue ▸ List.mem_cons_of_mem event h

theorem push_mem_of_released {cpus : List Nat} (token : Token) (result : TestResult)
    (h : .push token result ∈ s.queue ++ [.released cpus]) : .push token result ∈ s.queue := by
  rcases List.mem_append.mp h with hold | hnew
  · exact hold
  · exact absurd (List.mem_singleton.mp hnew) nofun

theorem Sourced.next (hs : Sourced acts s) (h : Transition act.setup s act.move after new) :
    Sourced (acts ++ [act]) after := by
  have hmore := hs.more act
  have hworkers : ∀ worker ∈ s.workers, ∃ old ∈ s.workers,
      worker.token = old.token ∧ worker.slot = old.slot := fun worker h => ⟨worker, h, rfl, rfl⟩
  obtain ⟨setup, move⟩ := act
  cases h with
  | submitted jobs hphase => exact hmore.of_same (fun _ _ h => h) hworkers
  | resubmitted jobs hphase => exact hmore.of_same (fun _ _ h => h) hworkers
  | refused job rest reason hphase hpending hreason =>
    exact hmore.of_same (fun _ _ h => h) hworkers
  | kept job rest cpus layout hphase hpending hreason hdispatch hacquire hrunner =>
    exact hmore.of_same (fun _ _ h => h) hworkers
  | endedAtOnce job rest cpus layout result phase hphase hpending hreason hdispatch hacquire
      hrunner => exact hmore.of_same push_mem_of_released hworkers
  | forked job rest cpus layout worker hphase hpending hreason hdispatch hacquire hprepare =>
    refine ⟨hmore.queue, ?_⟩
    intro live hlive
    rcases List.mem_append.mp hlive with hold | hnew
    · exact hmore.slots live hold
    · have hprepared := Worker.prepared_of_prepare hprepare
      rw [List.mem_singleton.mp hnew, (worker.alike_start setup.host).slot_eq, hprepared.slot_eq]
      exact ⟨none, rfl, nofun⟩
  | unprepared job rest cpus layout fault hphase hpending hreason hdispatch hacquire hprepare =>
    exact hmore.of_same (fun _ _ h => h) hworkers
  | drained hphase hpending => exact hmore.of_same (fun _ _ h => h) hworkers
  | closed elapsed hphase hidle => exact hmore.of_same (fun _ _ h => h) hworkers
  | pulled token rest worker hphase hqueue hworker =>
    exact hmore.of_same (push_mem_of_dequeued hqueue)
      (same_of_updateWorker fun w _ _ => ⟨w.takeJob_token, w.takeJob_slot⟩)
  | pulledUnknown token rest hphase hqueue hworker =>
    exact hmore.of_same (push_mem_of_dequeued hqueue) hworkers
  | pushed token result rest worker recorded hphase hqueue hworker hrecord =>
    have hpush : Requested (.push token result) (acts ++ [⟨setup, .handle⟩]) :=
      hmore.queue token result (hqueue ▸ List.mem_cons_self)
    obtain ⟨hmem, htoken⟩ := State.token_of_worker? hworker
    obtain ⟨-, rfl⟩ := Worker.record_eq_ok hrecord
    refine ⟨fun other handed h =>
      hmore.queue other handed (push_mem_of_dequeued hqueue other handed h), ?_⟩
    intro live hlive
    obtain ⟨old, hold, rfl⟩ := List.mem_map.mp hlive
    by_cases hsame : old.token = token
    · rw [if_pos hsame]
      refine ⟨some result, rfl, fun handed h => ?_⟩
      obtain rfl := Option.some.inj h
      exact htoken.symm ▸ hpush
    · rw [if_neg hsame]
      exact hmore.slots old hold
  | pushedAgain token result rest worker violation hphase hqueue hworker hrecord =>
    exact hmore.of_same (push_mem_of_dequeued hqueue) hworkers
  | pushedUnknown token result rest hphase hqueue hworker =>
    exact hmore.of_same (push_mem_of_dequeued hqueue) hworkers
  | reclaimed cpus rest layout hphase hqueue hrelease =>
    exact hmore.of_same (push_mem_of_dequeued hqueue) hworkers
  | killed token rest hphase hqueue =>
    exact hmore.of_same (push_mem_of_dequeued hqueue) (same_of_mapProcess s token _)
  | reaped order layout hphase horder hrelease =>
    exact hmore.of_same (fun _ _ h => h) fun worker h => hworkers worker (List.mem_filter.mp h).1
  | requested event hevent =>
    refine ⟨fun token result h => ?_, hmore.slots⟩
    rcases List.mem_append.mp h with hold | hnew
    · exact hmore.queue token result hold
    · exact ⟨_, List.mem_append_right _ List.mem_cons_self, by rw [List.mem_singleton.mp hnew]⟩
  | finished position result ticket hticket => exact hmore.of_same (fun _ _ h => h) hworkers
  | abandoned position ticket hticket => exact hmore.of_same (fun _ _ h => h) hworkers
  | notified position ticket hticket => exact hmore.of_same push_mem_of_released hworkers
  | exited token exit => exact hmore.of_same (fun _ _ h => h) (same_of_mapProcess s token _)
  | lost token fault => exact hmore.of_same (fun _ _ h => h) (same_of_mapProcess s token _)

end Steps

/-- In every run it is known where results come from. -/
theorem sourced_runOn (capacity : Nat) (acts : List Act) :
    Sourced acts (runOn capacity acts).1 := by
  unfold runOn
  -- from the end, since a request may be long past when its result is handed over
  induction acts using List.reverseRecOn with
  | nil => exact ⟨by simp [State.trace, State.ofCapacity], by simp [State.trace, State.ofCapacity]⟩
  | append_singleton acts act ih =>
    rw [State.trace_concat]
    rcases (consistent_trace capacity acts).step_cases act.setup act.move with h | h
    · rw [h]
      exact ih.more act
    · exact ih.next h

/-! ## What checking on live workers comes to -/

section Checks

variable {acts : List Act} {s : State} {held : List Ticket} {worker : Worker}

theorem Consistent.finding (hc : Consistent s held) (hs : Sourced acts s)
    (hworker : worker ∈ s.workers) : Worker.Finding worker worker.check.1 worker.check.2 := by
  obtain ⟨process, hphase⟩ := hc.started worker hworker
  obtain ⟨recorded, hslot, -⟩ := hs.slots worker hworker
  exact Worker.finding_of_check hphase hslot

theorem Consistent.violation?_check (hc : Consistent s held) (hs : Sourced acts s)
    (hworker : worker ∈ s.workers) : violation? worker.check = worker.breach? := by
  have h := hc.finding hs hworker
  unfold violation? Worker.breach?
  generalize worker.check.1 = after, worker.check.2 = checked at h
  cases h with
  | unfinished houtcome => rw [houtcome]
  | passed after result exit houtcome hphase => rw [houtcome]
  | silent after exit houtcome hphase => rw [houtcome]
  | failed after result houtcome hphase hjob => rw [houtcome]

theorem Consistent.hasPassed_check (hc : Consistent s held) (hs : Sourced acts s)
    (hworker : worker ∈ s.workers) : hasPassed worker.check = worker.own?.isSome := by
  have h := hc.finding hs hworker
  obtain ⟨process, hstarted⟩ := hc.started worker hworker
  unfold hasPassed Worker.own?
  generalize worker.check.1 = after, worker.check.2 = checked at h
  cases h with
  | unfinished houtcome => rw [houtcome, hstarted]; rfl
  | passed after result exit houtcome hphase => rw [houtcome, hphase]; rfl
  | silent after exit houtcome hphase => rw [houtcome, hphase]; rfl
  | failed after result houtcome hphase hjob => rw [houtcome, hphase]; rfl

/-- What is passed on for a live worker is the result of its own that it leaves, or it is a result
of its job. -/
theorem Consistent.due_cases (hc : Consistent s held) (hs : Sourced acts s)
    (hworker : worker ∈ s.workers) :
    due? worker = worker.own? ∨
      worker.own? = none ∧ ∀ r, due? worker = some r → r.2.job = worker.job := by
  have h := hc.finding hs hworker
  have hjob : worker.check.1.job = worker.job := congrArg Ticket.job (Worker.check_ticket worker)
  have htoken := Worker.check_token worker
  unfold due? owed? Worker.own?
  generalize worker.check.1 = after, worker.check.2 = checked at h hjob htoken ⊢
  cases h with
  | unfinished houtcome => rw [houtcome]; exact .inl rfl
  | passed after result exit houtcome hphase =>
    rw [houtcome, hjob, htoken]
    exact .inl rfl
  | silent after exit houtcome hphase =>
    rw [houtcome]
    refine .inr ⟨rfl, fun r hr => ?_⟩
    obtain rfl := Option.some.inj hr
    exact hjob
  | failed after result houtcome hphase hresult =>
    rw [houtcome]
    refine .inr ⟨rfl, fun r hr => ?_⟩
    obtain rfl := Option.some.inj hr
    exact hresult

end Checks

end Scheduler

end StressBatch
