import StressBatch.Proofs.Scheduler.Dealings
import StressBatch.Proofs.Worker.Report

/-!
# Reaping in any order

The live workers are kept under their tokens, and nothing says in which order a reap meets them.
`State.reaped` is what a reap leaves behind, said without an order: the workers that run are left
alone, and those that do not are gone, each with one result and with its CPUs given back. All that
the order decides is in which order results and breaches of the protocol are added.
-/

namespace StressBatch.Scheduler

namespace State

/-- The live workers that are not running: their processes have ended, could not be started or
cannot be waited for. -/
def stopped (s : State) : List Worker := s.workers.filter fun worker => !worker.isRunning

/-- What a reap leaves behind that adds these results and breaches of the protocol. -/
def reaped (s : State) (layout : CpuLayout) (results : List TestResult)
    (noted : List Violation) : State :=
  { s with
    layout := layout
    workers := s.workers.filter Worker.isRunning
    log := ⟨s.log.results ++ results⟩
    summary := { s.summary with
      forkedPassed := s.summary.forkedPassed + s.stopped.countP fun worker => hasPassed worker.check
      synthesizedFailures :=
        s.summary.synthesizedFailures + s.stopped.countP fun worker => !hasPassed worker.check
      violations := s.summary.violations ++ noted } }

section Fields

variable (s : State) (layout : CpuLayout) (results : List TestResult) (noted : List Violation)

@[simp] theorem layout_reaped : (s.reaped layout results noted).layout = layout := rfl

@[simp] theorem workers_reaped :
    (s.reaped layout results noted).workers = s.workers.filter Worker.isRunning := rfl

end Fields

end State

section Reaps

variable {s after : State} {held : List Ticket} {setup : Setup} {shown : List Effect}
  {order : List Token} {worker : Worker}

/-! ## Workers that are over -/

theorem Worker.isRunning_of_started {process : Process} (h : worker.phase = .started process) :
    worker.isRunning = !process.isOver := by
  unfold Worker.isRunning
  rw [h]

/-- A check finds that a live worker is over exactly if the worker is not running. -/
theorem Consistent.isOver_check (hc : Consistent s held) (hworker : worker ∈ s.workers) :
    worker.check.2.isOver = !worker.isRunning := by
  obtain ⟨process, hphase⟩ := hc.started worker hworker
  rw [Worker.isOver_check_eq hphase, Worker.isRunning_of_started hphase, Bool.not_not]

/-- In whichever order live workers are checked on, those that have stopped are harvested. -/
theorem Consistent.endings_perm_stopped (hc : Consistent s held)
    (horder : order.Perm s.liveTokens) :
    (s.endings order).Perm (s.stopped.map Worker.check) := by
  unfold State.endings State.stopped
  refine ((State.checks_perm hc.nodup_tokens horder).filter _).trans (List.Perm.of_eq ?_)
  rw [List.filter_map]
  refine congrArg (List.map Worker.check) (List.filter_congr fun worker hworker => ?_)
  exact hc.isOver_check hworker

/-- What is owed for a live worker is the one result that comes of it. -/
theorem due?_eq_final? (worker : Worker) :
    due? worker =
      worker.final?.map fun result => (.forked worker.token worker.job, result) := by
  have hjob : worker.check.1.job = worker.job := congrArg Ticket.job (Worker.check_ticket worker)
  have htoken := Worker.check_token worker
  unfold due? owed? Worker.final?
  rw [hjob, htoken]
  cases worker.check.2 <;> rfl

/-- A reap passes on under the token of a live worker what is owed for it. -/
theorem Consistent.resultsOf_reaped (hc : Consistent s held) (hworker : worker ∈ s.workers)
    (h : Transition setup s (.reap order) after shown) :
    resultsOf worker.token shown = (due? worker).toList := by
  cases h with
  | reaped order layout hphase horder hrelease =>
    have hperm := passed_reap_perm [worker.check]
    rw [filterMap_singleton owed?] at hperm
    rw [resultsOf_eq, effectsOf_reap hc.nodup_tokens horder,
      State.worker?_of_mem hc.nodup_tokens hworker, Option.map_some, Option.toList_some]
    unfold due?
    cases howed : owed? worker.check with
    | none =>
      rw [howed] at hperm
      exact hperm.eq_nil
    | some r =>
      rw [howed] at hperm
      exact List.perm_singleton.mp hperm

/-! ## The state that a reap leaves -/

/-- What a reap comes to, in whichever order it checks. -/
theorem Consistent.reaped_eq (hc : Consistent s held)
    (h : Transition setup s (.reap order) after shown) :
    ∃ layout noted, after = s.reaped layout ((passed shown).map Prod.snd) noted ∧
      layout.capacity = s.layout.capacity ∧
      s.layout.busy.Perm (s.stopped.flatMap Worker.cpus ++ layout.busy) ∧
      noted.Perm (s.stopped.filterMap fun worker => violation? worker.check) ∧
      (passed shown).Perm (s.workers.filterMap due?) := by
  have hlog := log_of_transition h
  cases h with
  | reaped order layout hphase horder hrelease =>
    have hendings := hc.endings_perm_stopped horder
    have hheld := hc.busy_perm_of_endings horder
    obtain ⟨hcapacity, hbusy⟩ := CpuLayout.perm_of_release hheld hrelease
    have hcpus : ((s.endings order).flatMap fun c => c.1.cpus).Perm
        (s.stopped.flatMap Worker.cpus) := by
      refine (hendings.flatMap_right _).trans (List.Perm.of_eq ?_)
      rw [List.flatMap_map]
      refine congrArg (List.flatMap · s.stopped) (funext fun worker => ?_)
      exact congrArg Ticket.cpus (Worker.check_ticket worker)
    have hstay : (s.workers.filter fun worker => !worker.check.2.isOver) =
        s.workers.filter Worker.isRunning := by
      refine List.filter_congr fun worker hworker => ?_
      rw [hc.isOver_check hworker, Bool.not_not]
    have hpassed : (s.endings order).countP hasPassed =
        s.stopped.countP fun worker => hasPassed worker.check := by
      rw [hendings.countP_eq, List.countP_map]
      rfl
    have hfailed : ((s.endings order).countP fun c => !hasPassed c) =
        s.stopped.countP fun worker => !hasPassed worker.check := by
      rw [hendings.countP_eq, List.countP_map]
      rfl
    refine ⟨layout, (s.endings order).filterMap violation?, ?_, hcapacity,
      hheld.trans (hcpus.append hbusy.symm), ?_, hc.passed_reap horder⟩
    · unfold State.reaped
      rw [← hlog, hstay, hpassed, hfailed]
    · have hnoted := hendings.filterMap violation?
      rw [List.filterMap_map] at hnoted
      exact hnoted

/-! ## What becomes of a worker -/

/-- A worker that has been harvested: it is not live any more, its CPUs are free, and its one result
has been passed on. -/
structure Left (worker : Worker) (after : State) (shown : List Effect) : Prop where
  gone : after.worker? worker.token = none
  freed : ∀ cpu ∈ worker.cpus, cpu ∉ after.layout.busy
  one_result : ∃ result, worker.final? = some result ∧
    resultsOf worker.token shown = [(.forked worker.token worker.job, result)]

/-- A worker that has been left alone. -/
structure Stayed (worker : Worker) (after : State) (shown : List Effect) : Prop where
  live : after.worker? worker.token = some worker
  kept : ∀ cpu ∈ worker.cpus, cpu ∈ after.layout.busy
  no_result : resultsOf worker.token shown = []

theorem Consistent.left (hc : Consistent s held) (hworker : worker ∈ s.workers)
    (hstopped : worker.isRunning = false) (h : Transition setup s (.reap order) after shown) :
    Left worker after shown := by
  have hresults := hc.resultsOf_reaped hworker h
  obtain ⟨layout, noted, rfl, -, hbusy, -⟩ := hc.reaped_eq h
  have hmem : worker ∈ s.stopped := List.mem_filter.mpr ⟨hworker, by rw [hstopped]; rfl⟩
  refine ⟨?_, ?_, ?_⟩
  · -- gone
    cases hfound : (s.reaped layout ((passed shown).map Prod.snd) noted).worker? worker.token with
    | none => rfl
    | some found =>
      obtain ⟨hlive, htoken⟩ := State.token_of_worker? hfound
      rw [State.workers_reaped] at hlive
      obtain ⟨hold, hrunning⟩ := List.mem_filter.mp hlive
      obtain rfl := State.eq_of_token_eq hc.nodup_tokens hold hworker htoken
      rw [hstopped] at hrunning
      contradiction
  · -- freed
    intro cpu hcpu
    have hnodup := hbusy.nodup_iff.mp (CpuLayout.nodup_busy s.layout)
    have hdisjoint := (List.nodup_append'.mp hnodup).2.2
    exact hdisjoint (List.mem_flatMap.mpr ⟨worker, hmem, hcpu⟩)
  · -- one_result
    rcases hc.owed_cases hworker with ⟨hnot, -⟩ | ⟨-, result, hdue⟩
    · rw [hc.isOver_check hworker, hstopped] at hnot
      contradiction
    · rw [hdue] at hresults
      rw [due?_eq_final?] at hdue
      obtain ⟨final, hfinal, hpair⟩ := Option.map_eq_some_iff.mp hdue
      obtain ⟨-, rfl⟩ := Prod.mk.inj hpair
      exact ⟨final, hfinal, hresults⟩

theorem Consistent.stayed (hc : Consistent s held) (hworker : worker ∈ s.workers)
    (hrunning : worker.isRunning = true) (h : Transition setup s (.reap order) after shown) :
    Stayed worker after shown := by
  have hresults := hc.resultsOf_reaped hworker h
  have hnext := hc.next h
  obtain ⟨layout, noted, rfl, -⟩ := hc.reaped_eq h
  have hmem : worker ∈ (s.reaped layout ((passed shown).map Prod.snd) noted).workers := by
    rw [State.workers_reaped]
    exact List.mem_filter.mpr ⟨hworker, hrunning⟩
  refine ⟨State.worker?_of_mem hnext.nodup_tokens hmem, ?_, ?_⟩
  · -- kept
    intro cpu hcpu
    refine hnext.busy_perm.mem_iff.mpr (List.mem_flatMap.mpr ⟨worker.ticket, ?_, hcpu⟩)
    exact List.mem_append_left _ (List.mem_map_of_mem hmem)
  · -- no_result
    rcases hc.owed_cases hworker with ⟨-, hnone⟩ | ⟨hover, -⟩
    · rw [hresults, hnone]
      rfl
    · rw [hc.isOver_check hworker, hrunning] at hover
      contradiction

end Reaps

/-- A reap does not depend on the order in which it meets the live workers. In whichever order they
are checked on, the same workers stay, the same CPUs are free and the counts are the same; the same
results and the same breaches of the protocol are added, each as often. A worker leaves exactly if
its process has ended, could not be started or cannot be waited for: then its CPUs are given back
and its one result is passed on. Nothing else is changed, and no other result is passed on. -/
theorem reap_in_any_order (capacity : Nat) (acts : List Act) (setup : Setup)
    {order other : List Token} (hactive : (runOn capacity acts).1.phase.isActive = true)
    (horder : order.Perm (runOn capacity acts).1.liveTokens)
    (hother : other.Perm (runOn capacity acts).1.liveTokens) :
    let s := (runOn capacity acts).1
    let reap := s.step setup (.reap order)
    let again := s.step setup (.reap other)
    -- the order
    (∃ layout noted reordered,
      reap.1 = s.reaped layout ((passed reap.2).map Prod.snd) noted ∧
      again.1 = s.reaped layout ((passed again.2).map Prod.snd) reordered ∧
      noted.Perm reordered ∧
      layout.capacity = s.layout.capacity ∧
      s.layout.busy.Perm (s.stopped.flatMap Worker.cpus ++ layout.busy)) ∧
    (passed reap.2).Perm (passed again.2) ∧
    -- the workers
    (∀ worker ∈ s.workers, ∃ process, worker.phase = .started process ∧
      (process.isOver = true → Left worker reap.1 reap.2) ∧
      (process.isOver = false → Stayed worker reap.1 reap.2)) ∧
    ((passed reap.2).map Prod.fst).Perm
      (s.stopped.map fun worker => .forked worker.token worker.job) := by
  intro s reap again
  have hc : Consistent s (outstanding (runOn capacity acts).2) := consistent_trace capacity acts
  have hreap : Transition setup s (.reap order) reap.1 reap.2 :=
    hc.transition_of_reaping hactive horder setup
  have hagain : Transition setup s (.reap other) again.1 again.2 :=
    hc.transition_of_reaping hactive hother setup
  obtain ⟨layout, noted, hafter, hcapacity, hbusy, hnoted, hpassed⟩ := hc.reaped_eq hreap
  obtain ⟨same, reordered, hafter', hcapacity', hbusy', hnoted', hpassed'⟩ := hc.reaped_eq hagain
  -- both layouts hold what is left of the same CPUs
  obtain rfl : layout = same := by
    refine CpuLayout.eq_of_perm (hcapacity.trans hcapacity'.symm) ?_
    exact (List.perm_append_left_iff _).mp (hbusy.symm.trans hbusy')
  refine ⟨⟨layout, noted, reordered, hafter, hafter', hnoted.trans hnoted'.symm, hcapacity, hbusy⟩,
    hpassed.trans hpassed'.symm, fun worker hworker => ?_, ?_⟩
  · obtain ⟨process, hphase⟩ := hc.started worker hworker
    have hrunning := Worker.isRunning_of_started hphase
    refine ⟨process, hphase, fun hover => ?_, fun hover => ?_⟩
    · rw [hover] at hrunning
      exact hc.left hworker hrunning hreap
    · rw [hover] at hrunning
      exact hc.stayed hworker hrunning hreap
  · refine (hpassed.map Prod.fst).trans (List.Perm.of_eq ?_)
    rw [hc.due_origins]
    unfold State.stopped
    refine congrArg (List.map _) (List.filter_congr fun worker hworker => ?_)
    exact hc.isOver_check hworker

/-! ## Three workers -/

/-- A run of three workers: one leaves a result of its own, one fails, and one still runs. -/
def unequalActs : List Act :=
  [.submit [forkedJob, forkedJob, forkedJob], .dispatch, .dispatch, .dispatch,
    .request (.push "fork-token-1" { job := forkedJob, status := .normal }), .handle,
    .exit "fork-token-1" (.silent (.exited 0)),
    .exit "fork-token-2" (.silent (.exited 3))].map (Act.mk sampleSetup)

theorem reap_in_any_order_unequal :
    let s := (runOn 6 unequalActs).1
    let reap := s.step sampleSetup (.reap ["fork-token-1", "fork-token-2", "fork-token-3"])
    let again := s.step sampleSetup (.reap ["fork-token-3", "fork-token-2", "fork-token-1"])
    s.phase.isActive = true ∧
      (passed reap.2).length = 2 ∧ passed reap.2 ≠ passed again.2 ∧
      (passed reap.2).Perm (passed again.2) ∧
      reap.1.layout = again.1.layout ∧ reap.1.workers = again.1.workers ∧
      reap.1.liveTokens = ["fork-token-3"] := by
  intro s reap again
  have hactive : s.phase.isActive = true := by decide +kernel
  have horder : ["fork-token-1", "fork-token-2", "fork-token-3"].Perm s.liveTokens := by
    decide +kernel
  have hother : ["fork-token-3", "fork-token-2", "fork-token-1"].Perm s.liveTokens := by
    decide +kernel
  obtain ⟨⟨layout, noted, reordered, hreap, hagain, -⟩, hpassed, -⟩ :=
    reap_in_any_order 6 unequalActs sampleSetup hactive horder hother
  have hlayout : reap.1.layout = again.1.layout := by
    rw [show reap.1 = _ from hreap, show again.1 = _ from hagain, State.layout_reaped,
      State.layout_reaped]
  have hworkers : reap.1.workers = again.1.workers := by
    rw [show reap.1 = _ from hreap, show again.1 = _ from hagain, State.workers_reaped,
      State.workers_reaped]
  exact ⟨hactive, by decide +kernel, by decide +kernel, hpassed, hlayout, hworkers,
    by decide +kernel⟩

end StressBatch.Scheduler
