import StressBatch.Proofs.Worker.Life

/-!
# Results that come after the end

A worker that is over has passed on all that it ever will. Whether its slot takes in a result that
comes later is another matter: the check that completes a worker empties the slot if it knows how
the process ended, and leaves it alone if there was no process or if there is no news of it. So the
slot of a worker that was never launched takes in the first result that comes, and keeps it to
itself.
-/

namespace StressBatch

/-- Whether it is known how the process ended. -/
def Process.hasEnded : Process → Bool
  | .ended _ => true
  | _ => false

namespace Worker

/-! ## The slot -/

section Slot

variable {worker : Worker} {process : Process} {recorded : Option TestResult} {passed : Bool}

theorem slot_conclude (worker : Worker) (exit : Exit) :
    (worker.conclude exit).1.slot = .consumed := by
  unfold conclude
  split
  · split <;> rfl
  · rfl

theorem slot_check_of_hasEnded (hphase : worker.phase = .started process)
    (hended : process.hasEnded = true) : worker.check.1.slot = .consumed := by
  unfold check
  rw [hphase]
  cases process with
  | ended exit => exact slot_conclude worker exit
  | _ => contradiction

/-- A check empties the slot only if it has learnt how the process ended. -/
theorem slot_check_of_not_hasEnded (hphase : worker.phase = .started process)
    (hended : process.hasEnded = false) : worker.check.1.slot = worker.slot := by
  unfold check
  rw [hphase]
  cases process with
  | ended exit => contradiction
  | _ => rfl

theorem call_record_of_pending (h : worker.slot = .pending) (result : TestResult) :
    worker.call (.record result) =
      ({ worker with slot := .delivered result }, .recorded (.ok ())) :=
  call_record_of_ok (record_of_pending h result)

theorem call_record_of_ne_pending (h : worker.slot ≠ .pending) (result : TestResult) :
    worker.call (.record result) =
      (worker, .recorded (.error ⟨worker.token, .publishedTwice⟩)) :=
  call_record_of_error (record_of_ne_pending h result)

/-- Only a check and a result that is handed over can change the slot. -/
theorem slot_call_of_other {call : Call} (hcheck : call ≠ .check) (hresult : call.result? = none) :
    (worker.call call).1.slot = worker.slot := by
  cases call with
  | start host => exact (alike_start worker host).slot_eq
  | takeJob => exact takeJob_slot worker
  | record result => contradiction
  | check => contradiction
  | kill => exact (alike_mapProcess worker _).slot_eq
  | standIn violation => rfl
  | finish exit => exact (alike_mapProcess worker _).slot_eq
  | lose fault => exact (alike_mapProcess worker _).slot_eq

/-- A slot that has been emptied stays so. -/
theorem slot_call_of_consumed (h : worker.slot = .consumed) (call : Call) :
    (worker.call call).1.slot = .consumed := by
  cases call with
  | record result =>
    have hfilled : worker.slot ≠ .pending := by simp [h]
    rwa [call_record_of_ne_pending hfilled]
  | check =>
    cases hphase : worker.phase with
    | created => exact (congrArg (·.1.slot) (check_of_created hphase)).trans h
    | completed passed => exact (congrArg (·.1.slot) (check_of_completed hphase)).trans h
    | started process =>
      cases hended : process.hasEnded with
      | true => exact slot_check_of_hasEnded hphase hended
      | false => exact (slot_check_of_not_hasEnded hphase hended).trans h
  | _ => exact (slot_call_of_other (by simp) rfl).trans h

theorem slot_life_of_consumed (h : worker.slot = .consumed) (calls : List Call) :
    (worker.life calls).1.slot = .consumed := by
  induction calls using List.reverseRecOn with
  | nil => exact h
  | append_singleton calls call ih =>
    rw [life_concat]
    exact slot_call_of_consumed ih call

/-- The slot of a worker that is over, if it has not been emptied, holds what has been handed over,
as it did before. -/
theorem slot_call_of_completed (hdone : worker.phase = .completed passed)
    (hslot : worker.slot = slotOf recorded) (call : Call) :
    (worker.call call).1.slot = slotOf (recorded.or call.result?) := by
  have hsame : call.result? = none → (worker.call call).1.slot = worker.slot →
      (worker.call call).1.slot = slotOf (recorded.or call.result?) := by
    intro hnone hkept
    rw [hkept, hslot, hnone, Option.or_none]
  cases call with
  | record result =>
    cases recorded with
    | none => rw [call_record_of_pending hslot]; rfl
    | some earlier =>
      have hfilled : worker.slot ≠ .pending := by simp [hslot, slotOf]
      rw [call_record_of_ne_pending hfilled]
      exact hslot
  | check => exact hsame rfl (congrArg (·.1.slot) (check_of_completed hdone))
  | _ => exact hsame rfl (slot_call_of_other (by simp) rfl)

theorem slot_life_of_completed (hdone : worker.phase = .completed passed)
    (hslot : worker.slot = slotOf recorded) (calls : List Call) :
    (worker.life calls).1.slot = slotOf (recorded.or (calls.findSome? Call.result?)) := by
  induction calls using List.reverseRecOn with
  | nil => rw [List.findSome?_nil, Option.or_none]; exact hslot
  | append_singleton calls call ih =>
    rw [life_concat, List.findSome?_append, List.findSome?_singleton, ← Option.or_assoc]
    exact slot_call_of_completed (completed_life hdone calls) ih call

end Slot

/-! ## The check that completes a worker -/

section Finish

variable {fresh worker : Worker} {calls : List Call} {passed : Bool}

/-- Among these calls is the check that completed the worker, which found it with this process. -/
def FinishedWith (fresh : Worker) (calls : List Call) (process : Process) : Prop :=
  ∃ before more, calls = before ++ .check :: more ∧
    (fresh.life before).1.phase = .started process ∧ process.isOver = true

/-- Only a check can complete a worker, and only if the process is over. -/
theorem check_of_completes (hbefore : worker.Unfinished) {call : Call}
    (hafter : (worker.call call).1.phase = .completed passed) :
    call = .check ∧ ∃ process, worker.phase = .started process ∧ process.isOver = true := by
  have hstep := stageStep_call worker call
  rw [hafter] at hstep
  generalize hstage : worker.phase.stage = stage at hstep
  generalize hreached : (WorkerPhase.completed passed).stage = reached at hstep
  cases hstep with
  | stays =>
    rw [← hreached] at hstage
    exact absurd (phase_of_stage_completed hstage) (hbefore passed)
  | starts host => contradiction
  | completes other =>
    refine ⟨rfl, ?_⟩
    cases hphase : worker.phase with
    | created => rw [hphase] at hstage; contradiction
    | completed earlier => rw [hphase] at hstage; contradiction
    | started process =>
      refine ⟨process, rfl, ?_⟩
      cases hover : process.isOver with
      | true => rfl
      | false =>
        have hsame : (worker.call .check).1 = worker :=
          congrArg Prod.fst (check_of_running hphase hover)
        rw [hsame] at hafter
        exact absurd hafter (hbefore passed)

theorem exists_finishedWith (hfresh : fresh.Unfinished)
    (hdone : (fresh.life calls).1.phase = .completed passed) :
    ∃ process, FinishedWith fresh calls process := by
  induction calls using List.reverseRecOn with
  | nil => exact absurd hdone (hfresh passed)
  | append_singleton calls call ih =>
    rw [life_concat] at hdone
    by_cases hbefore : (fresh.life calls).1.Unfinished
    · -- the last call completed it
      obtain ⟨rfl, process, hphase, hover⟩ := check_of_completes hbefore hdone
      exact ⟨process, calls, [], rfl, hphase, hover⟩
    · -- an earlier call did
      obtain ⟨earlier, hearlier⟩ := not_forall_not.mp hbefore
      obtain rfl : earlier = passed :=
        WorkerPhase.completed.inj ((completed_call hearlier call).symm.trans hdone)
      obtain ⟨process, before, more, rfl, hrest⟩ := ih hearlier
      exact ⟨process, before, more ++ [call], by simp, hrest⟩

theorem call_of_checked {call : Call} {found : Checked}
    (h : (worker.call call).2 = .checked found) : call = .check ∧ worker.check.2 = found := by
  cases call with
  | check => exact ⟨rfl, Answer.checked.inj h⟩
  | record result =>
    cases hrecord : worker.record result with
    | ok after =>
      rw [call_record_of_ok hrecord] at h
      contradiction
    | error violation =>
      rw [call_record_of_error hrecord] at h
      contradiction
  | _ => contradiction

/-- A check that finds that a worker is over leaves it completed. -/
theorem completed_of_answer (h : worker.check.2.answer ≠ .ok false) :
    ∃ passed, worker.check.1.phase = .completed passed := by
  cases hphase : worker.phase with
  | created =>
    rw [check_of_created hphase] at h
    exact absurd rfl h
  | completed passed => exact ⟨passed, by rw [check_of_completed hphase, hphase]⟩
  | started process =>
    cases hover : process.isOver with
    | false =>
      rw [check_of_running hphase hover] at h
      exact absurd rfl h
    | true => exact (check_of_over hphase hover).completed

theorem checked_mem_life (worker : Worker) (calls : List Call) :
    .checked (worker.life calls).1.check.2 ∈ (worker.life (calls ++ [.check])).2 := by
  rw [life_concat]
  exact List.mem_append_right _ (List.mem_singleton_self _)

/-- A worker that a check has found to be over is over from then on. -/
theorem completed_of_checked {found : Checked} (hfound : .checked found ∈ (fresh.life calls).2)
    (hanswer : found.answer ≠ .ok false) :
    ∃ passed, (fresh.life calls).1.phase = .completed passed := by
  induction calls using List.reverseRecOn with
  | nil => cases hfound
  | append_singleton calls call ih =>
    rw [life_concat] at hfound ⊢
    rcases List.mem_append.mp hfound with hbefore | hlast
    · obtain ⟨passed, hdone⟩ := ih hbefore
      exact ⟨passed, completed_call hdone call⟩
    · obtain ⟨rfl, rfl⟩ := call_of_checked (List.mem_singleton.mp hlast).symm
      exact completed_of_answer hanswer

/-- Nothing is passed on for a worker that is over. -/
theorem added_life_of_completed (hdone : worker.phase = .completed passed) (calls : List Call) :
    (worker.life calls).2.filterMap Answer.added? = [] := by
  induction calls using List.reverseRecOn with
  | nil => rfl
  | append_singleton calls call ih =>
    have hover := completed_life hdone calls
    rw [life_concat, List.filterMap_append, ih, List.nil_append]
    cases hadded : (((worker.life calls).1.call call).2).added? with
    | none => exact List.filterMap_cons_none hadded
    | some result =>
      have hserved := served_call (worker.life calls).1 call
      exact absurd hover ((hserved.added (by rw [hadded]; rfl)).1 passed)

end Finish

/-! ## Late results -/

section Late

variable {fresh : Worker} {token : Token} {job : Job} {cpus : List Nat} {calls : List Call}
  {process : Process}

/-- The slot of a worker that is over: it has been emptied if it is known how the process ended, and
otherwise it is as open as if the worker were not over. -/
theorem slot_of_finishedWith (hprepared : Prepared fresh token job cpus)
    (h : FinishedWith fresh calls process) :
    (fresh.life calls).1.slot =
      if process.hasEnded then .consumed else slotOf (calls.findSome? Call.result?) := by
  obtain ⟨before, more, rfl, hphase, hover⟩ := h
  have hlived : Lived fresh before (fresh.life before).1 (fresh.life before).2 :=
    lived_life hprepared.jobTaken_eq hprepared.slot_eq before
  have hslot := hlived.slot_eq (unfinished_of_started hphase)
  obtain ⟨passed, hdone, -⟩ := completion_of_check hphase hover hslot
  have hsplit : (fresh.life (before ++ .check :: more)).1 =
      ((fresh.life before).1.check.1.life more).1 := by
    rw [life_append]
    rfl
  rw [hsplit]
  cases hended : process.hasEnded with
  | true => exact slot_life_of_consumed (slot_check_of_hasEnded hphase hended) more
  | false =>
    have hkept := (slot_check_of_not_hasEnded hphase hended).trans hslot
    rw [List.findSome?_append]
    exact slot_life_of_completed hdone hkept more

/-- What becomes of a result that is handed over once a check has found that the worker is over. If
it is known how the process ended, however it did, it is refused, and nothing changes. If the
process was never started, or there is no news of it, it is refused only if a result was handed over
before; else it is taken in, and a later one is refused. Either way nothing is passed on any more.
-/
theorem late_results {host : Host} {settings : LaunchSettings} {endpoint : Link.Endpoint}
    (hfresh : prepare host settings endpoint token job cpus = .ok fresh) {found : Checked}
    (hfound : .checked found ∈ (fresh.life calls).2) (hanswer : found.answer ≠ .ok false) :
    let late := (fresh.life calls).1
    let handed := calls.findSome? Call.result?
    (∃ process, FinishedWith fresh calls process) ∧
    (∀ process, FinishedWith fresh calls process →
      (process.hasEnded = true ∨ handed.isSome = true → ∀ result,
        late.call (.record result) = (late, .recorded (.error ⟨token, .publishedTwice⟩))) ∧
      (process.hasEnded = false → handed = none → ∀ result,
        late.call (.record result) =
          ({ late with slot := .delivered result }, .recorded (.ok ())))) ∧
    (∃ passed, ∀ more, (late.life more).1.phase = .completed passed) ∧
    ∀ more, (late.life more).2.filterMap Answer.added? = [] := by
  intro late handed
  have hprepared := prepared_of_prepare hfresh
  have hunfinished : fresh.Unfinished := by
    intro passed hdone
    rw [hprepared.phase_eq] at hdone
    contradiction
  obtain ⟨passed, hdone⟩ := completed_of_checked hfound hanswer
  have htoken : late.token = token :=
    (lived_life hprepared.jobTaken_eq hprepared.slot_eq calls).token_eq.trans hprepared.token_eq
  refine ⟨exists_finishedWith hunfinished hdone, fun process hfinished => ⟨?_, ?_⟩,
    ⟨passed, completed_life hdone⟩, added_life_of_completed hdone⟩
  · -- the slot has been emptied or filled
    intro hclosed result
    have hfilled : late.slot ≠ .pending := by
      rw [slot_of_finishedWith hprepared hfinished]
      rcases hclosed with hended | hsome
      · rw [if_pos hended]
        exact nofun
      · obtain ⟨first, hfirst⟩ := Option.isSome_iff_exists.mp hsome
        rw [show calls.findSome? Call.result? = some first from hfirst]
        split <;> exact nofun
    rw [call_record_of_ne_pending hfilled, htoken]
  · -- the slot is open
    intro hended hnone result
    have hopen : late.slot = .pending := by
      rw [slot_of_finishedWith hprepared hfinished, hended,
        show calls.findSome? Call.result? = none from hnone]
      rfl
    exact call_record_of_pending hopen result

end Late

/-- A result that comes too late. -/
def lateResult : TestResult := { job := default, status := .normal }

/-- The life of a worker that is killed, before it is checked on. -/
def cutLife : List Call := [.start patientHost, .kill, .finish .killed]

theorem late_results_cut :
    let late := (patientWorker.life (cutLife ++ [.check])).1
    prepare patientHost ⟨["run"], [], "entry", false, none⟩ ⟨"localhost", 5555⟩ "fork-token-1"
      default [0] = .ok patientWorker ∧
    (patientWorker.life cutLife).1.check.2.answer ≠ .ok false ∧
    FinishedWith patientWorker (cutLife ++ [.check]) (.ended .killed) ∧
    late.call (.record lateResult) =
      (late, .recorded (.error ⟨"fork-token-1", .publishedTwice⟩)) := by
  intro late
  have hprepared : prepare patientHost ⟨["run"], [], "entry", false, none⟩ ⟨"localhost", 5555⟩
      "fork-token-1" default [0] = .ok patientWorker := by
    decide +kernel
  have hphase : (patientWorker.life cutLife).1.phase = .started (.ended .killed) := by
    decide +kernel
  have hanswer : (patientWorker.life cutLife).1.check.2.answer ≠ .ok false := by
    decide +kernel
  obtain ⟨-, hlate, -⟩ :=
    late_results hprepared (checked_mem_life patientWorker cutLife) hanswer
  have hfinished : FinishedWith patientWorker (cutLife ++ [.check]) (.ended .killed) :=
    ⟨cutLife, [], rfl, hphase, rfl⟩
  exact ⟨hprepared, hanswer, hfinished, (hlate _ hfinished).1 (.inl rfl) lateResult⟩

/-- A machine that has no program to run. -/
def bareHost : Host := { patientHost with execute := fun _ _ => .error .notFound }

/-- A worker that could not be launched takes a result in after the check that found it to be over.
-/
theorem unlaunched_worker_open :
    let life := patientWorker.life [.start bareHost, .check]
    prepare bareHost ⟨["run"], [], "entry", false, none⟩ ⟨"localhost", 5555⟩ "fork-token-1" default
      [0] = .ok patientWorker ∧
    (∃ found, .checked found ∈ life.2 ∧ found.answer = .ok true) ∧
    life.1.call (.record lateResult) =
      ({ life.1 with slot := .delivered lateResult }, .recorded (.ok ())) := by
  intro life
  have hanswer : (patientWorker.life [.start bareHost]).1.check.2.answer = .ok true := by
    decide +kernel
  have hopen : life.1.slot = .pending := by decide +kernel
  refine ⟨by decide +kernel, ⟨_, checked_mem_life patientWorker [.start bareHost], hanswer⟩, ?_⟩
  exact call_record_of_pending hopen lateResult

end Worker

end StressBatch
