import StressBatch.Proofs.Worker

/-!
# The life of a worker

Anything may be done to a worker at any time: results may come before it is started and after it
has completed, it may be started again and checked on for ever, and its process may end in whichever
way at whichever moment. Its life still goes only one way, its job is handed out once, one result is
taken in, and one result is passed on.
-/

namespace StressBatch

/-- How far a worker has come, without what is known of its process. -/
inductive Stage where
  /-- It is prepared. -/
  | created
  /-- Its process has been started. -/
  | started
  /-- It is over; `passed` says whether its own result was passed on. -/
  | completed (passed : Bool)
  deriving DecidableEq, Repr

/-- The stage of a phase. -/
def WorkerPhase.stage : WorkerPhase → Stage
  | .created => .created
  | .started _ => .started
  | .completed passed => .completed passed

namespace Worker

/-- Whether there is still something to come of a worker. -/
def Unfinished (worker : Worker) : Prop := ∀ passed, worker.phase ≠ .completed passed

/-! ## Calls -/

/-- What is done to a worker, and what befalls its process. -/
inductive Call where
  /-- Its process is started. -/
  | start (host : Host)
  /-- Its peer asks for the job. -/
  | takeJob
  /-- Its peer hands a result over. -/
  | record (result : TestResult)
  /-- It is checked on. -/
  | check
  /-- Its process is sent the signal that ends it. -/
  | kill
  /-- A result is made up that stands in for the one it owes. -/
  | standIn (violation : Violation)
  /-- Its process ends. -/
  | finish (exit : Exit)
  /-- The operating system stops giving news of its process. -/
  | lose (fault : IoFault)

/-- What a call is answered. -/
inductive Answer where
  /-- Nothing. -/
  | silence
  /-- The job, or that it has been handed out. -/
  | job (job : Option Job)
  /-- Whether the result is taken in. -/
  | recorded (answer : Except Violation Unit)
  /-- What the check comes to. -/
  | checked (found : Checked)
  /-- The result that stands in. -/
  | standIn (result : TestResult)

/-- The result that a call hands over. -/
def Call.result? : Call → Option TestResult
  | .record result => some result
  | _ => none

/-- Whether a result is taken in. -/
def Answer.isAccepted : Answer → Bool
  | .recorded (.ok ()) => true
  | _ => false

/-- The result that is passed on with an answer. -/
def Answer.added? : Answer → Option TestResult
  | .checked found => found.result?
  | _ => none

/-- Carries out a call. -/
def call (worker : Worker) : Call → Worker × Answer
  | .start host => (worker.start host, .silence)
  | .takeJob => (worker.takeJob.2, .job worker.takeJob.1)
  | .record result =>
    match worker.record result with
    | .ok after => (after, .recorded (.ok ()))
    | .error violation => (worker, .recorded (.error violation))
  | .check => (worker.check.1, .checked worker.check.2)
  | .kill => (worker.kill, .silence)
  | .standIn violation =>
    ((worker.violationResult violation).2, .standIn (worker.violationResult violation).1)
  | .finish exit => (worker.finish exit, .silence)
  | .lose fault => (worker.lose fault, .silence)

/-- Carries out calls one after the other, and collects the answers. -/
def life (worker : Worker) : List Call → Worker × List Answer
  | [] => (worker, [])
  | call :: calls =>
    let (after, answer) := worker.call call
    let (last, answers) := after.life calls
    (last, answer :: answers)

theorem life_append (worker : Worker) (calls more : List Call) :
    worker.life (calls ++ more) =
      (((worker.life calls).1.life more).1,
        (worker.life calls).2 ++ ((worker.life calls).1.life more).2) := by
  induction calls generalizing worker with
  | nil => rfl
  | cons call calls ih =>
    rw [List.cons_append, life, life]
    simp only
    rw [ih, List.cons_append]

theorem life_concat (worker : Worker) (calls : List Call) (call : Call) :
    worker.life (calls ++ [call]) =
      (((worker.life calls).1.call call).1,
        (worker.life calls).2 ++ [((worker.life calls).1.call call).2]) := by
  rw [life_append]
  rfl

/-! ## Stages -/

/-- How the stage of a worker may change with a call. -/
inductive StageStep : Stage → Call → Stage → Prop where
  /-- It stays. -/
  | stays (stage : Stage) (call : Call) : StageStep stage call stage
  /-- A prepared worker is started. -/
  | starts (host : Host) : StageStep .created (.start host) .started
  /-- A check finds that a started worker is over. -/
  | completes (passed : Bool) : StageStep .started .check (.completed passed)

section Stages

variable {worker : Worker} {passed : Bool}

theorem stage_start_of_created (host : Host) (h : worker.phase = .created) :
    (worker.start host).phase.stage = .started := by
  unfold start
  rw [h]
  rfl

theorem start_of_ne_created (host : Host) (h : worker.phase ≠ .created) :
    worker.start host = worker := by
  unfold start
  split
  · contradiction
  · rfl

theorem stage_mapProcess (worker : Worker) (f : Process → Process) :
    (worker.mapProcess f).phase.stage = worker.phase.stage := by
  unfold mapProcess
  split
  · next process hphase =>
    rw [hphase]
    rfl
  · rfl

theorem check_of_created (h : worker.phase = .created) : worker.check = (worker, .unfinished) := by
  unfold check
  rw [h]

theorem check_of_completed (h : worker.phase = .completed passed) :
    worker.check = (worker, .finished) := by
  unfold check
  rw [h]

theorem call_record_of_ok {after : Worker} {result : TestResult}
    (h : worker.record result = .ok after) :
    worker.call (.record result) = (after, .recorded (.ok ())) := by
  simp only [call, h]

theorem call_record_of_error {result : TestResult} {violation : Violation}
    (h : worker.record result = .error violation) :
    worker.call (.record result) = (worker, .recorded (.error violation)) := by
  simp only [call, h]

theorem phase_record {after : Worker} {result : TestResult}
    (h : worker.record result = .ok after) : after.phase = worker.phase := by
  obtain ⟨-, rfl⟩ := record_eq_ok h
  rfl

theorem stageStep_of_eq {stage after : Stage} (h : after = stage) (call : Call) :
    StageStep stage call after := by
  rw [h]
  exact .stays stage call

/-- A call either leaves the stage as it is, or starts the worker, or completes it. -/
theorem stageStep_call (worker : Worker) (call : Call) :
    StageStep worker.phase.stage call (worker.call call).1.phase.stage := by
  cases call with
  | start host =>
    by_cases hcreated : worker.phase = .created
    · have hstage : ((worker.call (.start host)).1).phase.stage = .started :=
        stage_start_of_created host hcreated
      rw [hstage, hcreated]
      exact .starts host
    · have hsame : (worker.call (.start host)).1 = worker := start_of_ne_created host hcreated
      rw [hsame]
      exact .stays _ _
  | takeJob => exact stageStep_of_eq (congrArg WorkerPhase.stage (takeJob_phase worker)) _
  | record result =>
    cases hrecord : worker.record result with
    | ok after =>
      rw [call_record_of_ok hrecord]
      exact stageStep_of_eq (congrArg WorkerPhase.stage (phase_record hrecord)) _
    | error violation =>
      rw [call_record_of_error hrecord]
      exact .stays _ _
  | check =>
    have hcall : (worker.call .check).1 = worker.check.1 := rfl
    rw [hcall]
    cases hphase : worker.phase with
    | created =>
      rw [check_of_created hphase, hphase]
      exact .stays _ _
    | completed passed =>
      rw [check_of_completed hphase, hphase]
      exact .stays _ _
    | started process =>
      cases hover : process.isOver with
      | false =>
        rw [check_of_running hphase hover, hphase]
        exact .stays _ _
      | true =>
        obtain ⟨passed, hafter⟩ := (check_of_over hphase hover).completed
        rw [hafter]
        exact .completes passed
  | kill => exact stageStep_of_eq (stage_mapProcess worker _) _
  | standIn violation => exact .stays _ _
  | finish exit => exact stageStep_of_eq (stage_mapProcess worker _) _
  | lose fault => exact stageStep_of_eq (stage_mapProcess worker _) _

theorem phase_of_stage_completed (h : worker.phase.stage = .completed passed) :
    worker.phase = .completed passed := by
  cases hphase : worker.phase with
  | created => rw [hphase] at h; contradiction
  | started process => rw [hphase] at h; contradiction
  | completed other =>
    rw [hphase] at h
    obtain rfl := Stage.completed.inj h
    rfl

/-- A worker that is over stays over, and its own result has been passed on or not for ever. -/
theorem completed_call (h : worker.phase = .completed passed) (call : Call) :
    (worker.call call).1.phase = .completed passed := by
  have hstep := stageStep_call worker call
  refine phase_of_stage_completed ?_
  rw [h] at hstep
  generalize (worker.call call).1.phase.stage = stage at hstep
  cases hstep
  rfl

theorem completed_life (h : worker.phase = .completed passed) (calls : List Call) :
    (worker.life calls).1.phase = .completed passed := by
  induction calls using List.reverseRecOn with
  | nil => exact h
  | append_singleton calls call ih =>
    rw [life_concat]
    exact completed_call ih call

end Stages

/-! ## Completing -/

section Kept

variable (worker : Worker)

theorem check_jobTaken : worker.check.1.jobTaken = worker.jobTaken := by
  unfold check conclude
  split <;> try rfl
  split <;> try rfl
  split <;> rfl

/-- A check does not reopen a slot. -/
theorem slot_of_check_pending (h : worker.check.1.slot = .pending) : worker.slot = .pending := by
  unfold check conclude at h
  split at h <;> try exact h
  split at h <;> try contradiction
  split at h <;> contradiction

end Kept

/-- What the completion of a worker comes to, given the result that its peer has handed over and the
end of its process: whether its own result is passed on, and what the check finds. Only the first
case has anything to do with the result that was handed over. -/
inductive Completion (token : Token) (job : Job) (recorded : Option TestResult) :
    Process → Bool → Checked → Prop where
  /-- The process ended cleanly, and the peer's result is passed on with its output. -/
  | passed (exit : Exit) (result : TestResult) (hclean : exit.ending.isClean = true)
      (hrecorded : recorded = some result) :
    Completion token job recorded (.ended exit) true (.reported (ownResult result exit))
  /-- The process ended cleanly, and there is no result. -/
  | violated (exit : Exit) (hclean : exit.ending.isClean = true) (hrecorded : recorded = none) :
    Completion token job recorded (.ended exit) false (.violated ⟨token, .noResult⟩)
  /-- The process ended in any other way. -/
  | crashed (exit : Exit) (hcrashed : exit.ending.isClean = false) :
    Completion token job recorded (.ended exit) false
      (.reported (((TestResult.failure job .vmError [exit.ending.message]).addMessages
        exit.outLines).addMessages exit.errLines))
  /-- The process could not be started. -/
  | refused (fault : IoFault) :
    Completion token job recorded (.refused fault) false
      (.reported (.failure job .vmError ["Failed to launch worker: " ++ fault.message]))
  /-- There is no news of the process. -/
  | lost (fault : IoFault) :
    Completion token job recorded (.lost fault) false
      (.reported (.failure job .vmError
        ["Failed to collect worker exit status: " ++ fault.message]))

/-- The slot that holds what the peer has handed over. -/
def slotOf : Option TestResult → ResultSlot
  | none => .pending
  | some result => .delivered result

@[simp] theorem result?_slotOf (recorded : Option TestResult) :
    (slotOf recorded).result? = recorded := by
  cases recorded <;> rfl

section Completing

variable {worker : Worker} {process : Process} {recorded : Option TestResult} {passed : Bool}
  {checked : Checked} {token : Token} {job : Job}

/-- A started worker completes with the first check that finds its process over. -/
theorem completion_of_check (hphase : worker.phase = .started process)
    (hover : process.isOver = true) (hslot : worker.slot = slotOf recorded) :
    ∃ passed, worker.check.1.phase = .completed passed ∧
      Completion worker.token worker.job recorded process passed worker.check.2 := by
  unfold check
  rw [hphase]
  cases process with
  | running killed => contradiction
  | refused fault => exact ⟨false, rfl, .refused fault⟩
  | lost fault => exact ⟨false, rfl, .lost fault⟩
  | ended exit =>
    simp only [conclude]
    by_cases hclean : exit.ending.isClean = true
    · rw [if_pos hclean, hslot, result?_slotOf]
      cases recorded with
      | some result => exact ⟨true, rfl, .passed exit result hclean rfl⟩
      | none => exact ⟨false, rfl, .violated exit hclean rfl⟩
    · rw [if_neg hclean]
      exact ⟨false, rfl, .crashed exit (Bool.eq_false_iff.mpr hclean)⟩

/-- A completion passes one result on, or it is a breach of the protocol and passes none on. -/
theorem Completion.answer_cases (h : Completion token job recorded process passed checked) :
    (checked.answer = .ok true ∧ ∃ result, checked.result? = some result) ∨
      ∃ violation, checked.answer = .error violation ∧ checked.result? = none := by
  cases h with
  | violated exit hclean hrecorded => exact .inr ⟨_, rfl, rfl⟩
  | _ => exact .inl ⟨rfl, _, rfl⟩

/-- What the slot holds makes no difference to a result that is not the peer's. -/
theorem check_setSlot (hphase : worker.phase = .started process) (slot : ResultSlot)
    (h : worker.check.1.phase = .completed false) (hadded : worker.check.2.result?.isSome = true) :
    ({ worker with slot := slot } : Worker).check.2 = worker.check.2 := by
  unfold check at h hadded ⊢
  rw [hphase] at h hadded ⊢
  cases process with
  | running killed => rfl
  | refused fault => rfl
  | lost fault => rfl
  | ended exit =>
    simp only [conclude] at h hadded ⊢
    by_cases hclean : exit.ending.isClean = true
    · -- a clean end that passes a result on passes the peer's on
      rw [if_pos hclean] at h hadded
      cases hresult : worker.slot.result? with
      | some result =>
        rw [hresult] at h
        cases WorkerPhase.completed.inj h
      | none =>
        rw [hresult] at hadded
        contradiction
    · rw [if_neg hclean, if_neg hclean]
      rfl

/-- What a check is that completes a worker to which the peer has handed `recorded`. -/
structure Completes (worker : Worker) (recorded : Option TestResult) (passed : Bool) : Prop where
  /-- The way it completes follows from how its process ended. -/
  completion : ∃ process, worker.phase = .started process ∧
    Completion worker.token worker.job recorded process passed worker.check.2
  /-- Either one result is passed on, or the protocol has been broken and none is. -/
  answer_cases :
    (worker.check.2.answer = .ok true ∧ ∃ result, worker.check.2.result? = some result) ∨
      ∃ violation, worker.check.2.answer = .error violation ∧ worker.check.2.result? = none
  /-- A worker that passes has the peer's result passed on. -/
  own : passed = true → ∃ exit result, recorded = some result ∧
    worker.check.2.result? = some (ownResult result exit)
  /-- What is passed on for one that does not pass is the same whatever the peer handed over. -/
  untrusted : passed = false → worker.check.2.result?.isSome = true → ∀ slot,
    ({ worker with slot := slot } : Worker).check.2 = worker.check.2

/-- A check that leaves a worker completed which was not has completed it. -/
theorem completes_of_check (hslot : worker.slot = slotOf recorded)
    (hbefore : worker.Unfinished)
    (hafter : worker.check.1.phase = .completed passed) : Completes worker recorded passed := by
  cases hphase : worker.phase with
  | created =>
    rw [check_of_created hphase, hphase] at hafter
    contradiction
  | completed earlier => exact absurd hphase (hbefore earlier)
  | started process =>
    cases hover : process.isOver with
    | false =>
      rw [check_of_running hphase hover, hphase] at hafter
      contradiction
    | true =>
      obtain ⟨found, hfound, hcompletion⟩ := completion_of_check hphase hover hslot
      obtain rfl : found = passed := WorkerPhase.completed.inj (hfound.symm.trans hafter)
      refine ⟨⟨process, hphase, hcompletion⟩, hcompletion.answer_cases, ?_, ?_⟩
      · -- own
        rintro rfl
        generalize worker.check.2 = checked at hcompletion
        cases hcompletion with
        | passed exit result hclean hrecorded => exact ⟨exit, result, hrecorded, rfl⟩
      · -- untrusted
        rintro rfl hadded slot
        exact check_setSlot hphase slot hafter hadded

end Completing

/-! ## What a call can do -/

/-- What a call can do, whatever has gone before. -/
structure Served (worker : Worker) (call : Call) (after : Worker) (answer : Answer) : Prop where
  token_eq : after.token = worker.token
  job_eq : after.job = worker.job
  jobTaken_iff : after.jobTaken = true ↔ worker.jobTaken = true ∨ call = .takeJob
  stays_completed : ∀ passed, worker.phase = .completed passed → after.phase = .completed passed
  /-- An open slot has not been filled. -/
  slot_pending : after.slot = .pending → worker.slot = .pending ∧ answer.isAccepted = false
  /-- A result is taken in only as long as the slot is open. -/
  accepted : answer.isAccepted = true → worker.slot = .pending
  /-- Until the worker is over, the slot keeps the first result that is handed over. -/
  slot_eq : after.Unfinished → ∀ recorded, worker.slot = slotOf recorded →
    after.slot = slotOf (recorded.or call.result?)
  /-- A result is passed on only by the call that completes the worker. -/
  added : answer.added?.isSome = true → worker.Unfinished ∧ ¬ after.Unfinished

section Calls

variable {worker after : Worker} {call : Call} {answer : Answer}

theorem unfinished_of_started {process : Process} (h : worker.phase = .started process) :
    worker.Unfinished := by
  intro passed hover
  rw [h] at hover
  contradiction

theorem not_unfinished_of_completed {passed : Bool} (h : worker.phase = .completed passed) :
    ¬ worker.Unfinished :=
  fun hopen => hopen passed h

/-- A call that has to do with neither the job nor a result. -/
theorem served_of_alike (halike : Alike worker after)
    (hover : ∀ passed, worker.phase = .completed passed → after.phase = .completed passed)
    (hcall : call ≠ .takeJob) (hresult : call.result? = none)
    (haccepted : answer.isAccepted = false) (hadded : answer.added? = none) :
    Served worker call after answer where
  token_eq := halike.token_eq
  job_eq := congrArg Ticket.job halike.ticket_eq
  jobTaken_iff := by
    rw [halike.jobTaken_eq]
    exact ⟨.inl, fun h => h.resolve_right hcall⟩
  stays_completed := hover
  slot_pending := fun h => ⟨halike.slot_eq.symm.trans h, haccepted⟩
  accepted := fun h => absurd (h.symm.trans haccepted) nofun
  slot_eq := by
    intro _ recorded hslot
    rw [halike.slot_eq, hslot, hresult, Option.or_none]
  added := fun h => absurd (hadded ▸ h) nofun

theorem served_start (worker : Worker) (host : Host) :
    Served worker (.start host) (worker.start host) .silence := by
  refine served_of_alike (alike_start worker host) ?_ nofun rfl rfl rfl
  intro passed hover
  rw [start_of_ne_created host (by rw [hover]; exact nofun)]
  exact hover

theorem served_mapProcess (worker : Worker) (f : Process → Process) (hcall : call ≠ .takeJob)
    (hresult : call.result? = none) : Served worker call (worker.mapProcess f) .silence := by
  refine served_of_alike (alike_mapProcess worker f) ?_ hcall hresult rfl rfl
  intro passed hover
  rw [mapProcess_of_completed hover f]
  exact hover

theorem served_takeJob (worker : Worker) :
    Served worker .takeJob worker.takeJob.2 (.job worker.takeJob.1) where
  token_eq := takeJob_token worker
  job_eq := congrArg Ticket.job (takeJob_ticket worker)
  jobTaken_iff := by
    unfold Worker.takeJob
    by_cases htaken : worker.jobTaken = true
    · simp [htaken]
    · simp [htaken]
  stays_completed := fun passed h => (takeJob_phase worker).trans h
  slot_pending := fun h => ⟨(takeJob_slot worker).symm.trans h, rfl⟩
  accepted := nofun
  slot_eq := by
    intro _ recorded hslot
    rw [takeJob_slot, hslot]
    exact congrArg slotOf (Option.or_none).symm
  added := nofun

/-- The first result that is handed over is taken in, and no other one. -/
theorem served_record (worker : Worker) (result : TestResult) :
    Served worker (.record result) (worker.call (.record result)).1
      (worker.call (.record result)).2 := by
  cases hrecord : worker.record result with
  | ok after =>
    rw [call_record_of_ok hrecord]
    obtain ⟨hpending, rfl⟩ := record_eq_ok hrecord
    refine {
      token_eq := rfl
      job_eq := rfl
      jobTaken_iff := ⟨.inl, fun h => h.resolve_right nofun⟩
      stays_completed := fun passed h => h
      slot_pending := nofun
      accepted := fun _ => hpending
      slot_eq := ?_
      added := nofun }
    intro _ recorded hslot
    cases recorded with
    | none => rfl
    | some earlier =>
      rw [hpending] at hslot
      contradiction
  | error violation =>
    rw [call_record_of_error hrecord]
    obtain ⟨hfilled, -⟩ := record_eq_error hrecord
    refine {
      token_eq := rfl
      job_eq := rfl
      jobTaken_iff := ⟨.inl, fun h => h.resolve_right nofun⟩
      stays_completed := fun passed h => h
      slot_pending := fun h => absurd h hfilled
      accepted := nofun
      slot_eq := ?_
      added := nofun }
    intro _ recorded hslot
    cases recorded with
    | none => exact absurd hslot hfilled
    | some earlier => exact hslot

/-- A check passes a result on only when it completes the worker. -/
theorem served_check (worker : Worker) :
    Served worker .check worker.check.1 (.checked worker.check.2) := by
  have hsame : ∀ found : Checked, found.result? = none →
      Served worker .check worker (.checked found) :=
    fun found hnone => served_of_alike (.refl worker) (fun _ h => h) nofun rfl rfl hnone
  cases hphase : worker.phase with
  | created =>
    rw [check_of_created hphase]
    exact hsame _ rfl
  | completed passed =>
    rw [check_of_completed hphase]
    exact hsame _ rfl
  | started process =>
    cases hover : process.isOver with
    | false =>
      rw [check_of_running hphase hover]
      exact hsame _ rfl
    | true =>
      obtain ⟨passed, hcompleted⟩ := (check_of_over hphase hover).completed
      have hunfinished := unfinished_of_started hphase
      have hfinished := not_unfinished_of_completed hcompleted
      exact {
        token_eq := check_token worker
        job_eq := congrArg Ticket.job (check_ticket worker)
        jobTaken_iff := by
          rw [check_jobTaken]
          exact ⟨.inl, fun h => h.resolve_right nofun⟩
        stays_completed := fun earlier h => absurd h (hunfinished earlier)
        slot_pending := fun h => ⟨slot_of_check_pending worker h, rfl⟩
        accepted := nofun
        slot_eq := fun h => absurd h hfinished
        added := fun _ => ⟨hunfinished, hfinished⟩ }

theorem served_call (worker : Worker) (call : Call) :
    Served worker call (worker.call call).1 (worker.call call).2 := by
  cases call with
  | start host => exact served_start worker host
  | takeJob => exact served_takeJob worker
  | record result => exact served_record worker result
  | check => exact served_check worker
  | kill => exact served_mapProcess worker _ nofun rfl
  | standIn violation =>
    exact served_of_alike ⟨rfl, rfl, rfl, rfl⟩ (fun _ h => h) nofun rfl rfl rfl
  | finish exit => exact served_mapProcess worker _ nofun rfl
  | lose fault => exact served_mapProcess worker _ nofun rfl

end Calls

/-! ## What has come of a life so far -/

/-- What is known of a worker after some calls and their answers. -/
structure Lived (fresh : Worker) (calls : List Call) (worker : Worker) (answers : List Answer) :
    Prop where
  token_eq : worker.token = fresh.token
  job_eq : worker.job = fresh.job
  jobTaken_iff : worker.jobTaken = true ↔ .takeJob ∈ calls
  /-- Until the worker is over, its slot holds the first result that was handed over. -/
  slot_eq : worker.Unfinished → worker.slot = slotOf (calls.findSome? Call.result?)
  none_accepted : worker.slot = .pending → answers.countP Answer.isAccepted = 0
  accepted_le : answers.countP Answer.isAccepted ≤ 1
  /-- Until the worker is over, no result has been passed on. -/
  none_added : worker.Unfinished → answers.filterMap Answer.added? = []
  added_le : (answers.filterMap Answer.added?).length ≤ 1

section Lives

variable {fresh worker after : Worker} {calls : List Call} {answers : List Answer} {call : Call}
  {answer : Answer}

theorem Lived.next (hl : Lived fresh calls worker answers)
    (h : Served worker call after answer) :
    Lived fresh (calls ++ [call]) after (answers ++ [answer]) := by
  have hbefore : after.Unfinished → worker.Unfinished :=
    fun hopen passed hover => hopen passed (h.stays_completed passed hover)
  have hcount : (answers ++ [answer]).countP Answer.isAccepted =
      answers.countP Answer.isAccepted + if answer.isAccepted then 1 else 0 := by
    rw [List.countP_append, List.countP_singleton]
  have hadded : answer.added? = none →
      (answers ++ [answer]).filterMap Answer.added? = answers.filterMap Answer.added? := by
    intro hnone
    rw [List.filterMap_append, List.filterMap_cons_none hnone, List.filterMap_nil,
      List.append_nil]
  refine {
    token_eq := h.token_eq.trans hl.token_eq
    job_eq := h.job_eq.trans hl.job_eq
    jobTaken_iff := ?_
    slot_eq := ?_
    none_accepted := ?_
    accepted_le := ?_
    none_added := ?_
    added_le := ?_ }
  · -- jobTaken_iff
    rw [h.jobTaken_iff, hl.jobTaken_iff, List.mem_append, List.mem_singleton, eq_comm]
  · -- slot_eq
    intro hopen
    rw [List.findSome?_append, List.findSome?_singleton]
    exact h.slot_eq hopen _ (hl.slot_eq (hbefore hopen))
  · -- none_accepted
    intro hpending
    obtain ⟨hstill, hnot⟩ := h.slot_pending hpending
    rw [hcount, hl.none_accepted hstill, hnot]
    rfl
  · -- accepted_le
    rw [hcount]
    by_cases haccepted : answer.isAccepted = true
    · rw [if_pos haccepted, hl.none_accepted (h.accepted haccepted)]
    · rw [if_neg haccepted]
      exact hl.accepted_le
  · -- none_added
    intro hopen
    cases hanswer : answer.added? with
    | none => exact (hadded hanswer).trans (hl.none_added (hbefore hopen))
    | some result => exact absurd hopen (h.added (hanswer ▸ rfl)).2
  · -- added_le
    cases hanswer : answer.added? with
    | none =>
      rw [hadded hanswer]
      exact hl.added_le
    | some result =>
      rw [List.filterMap_append, hl.none_added (h.added (hanswer ▸ rfl)).1, List.nil_append]
      exact List.length_filterMap_le _ _

/-- What is known of a worker that nothing has been done to. -/
theorem lived_nil (htaken : fresh.jobTaken = false) (hslot : fresh.slot = .pending) :
    Lived fresh [] fresh [] where
  token_eq := rfl
  job_eq := rfl
  jobTaken_iff := by simp [htaken]
  slot_eq := fun _ => hslot
  none_accepted := fun _ => rfl
  accepted_le := Nat.zero_le 1
  none_added := fun _ => rfl
  added_le := Nat.zero_le 1

theorem lived_life (htaken : fresh.jobTaken = false) (hslot : fresh.slot = .pending)
    (calls : List Call) : Lived fresh calls (fresh.life calls).1 (fresh.life calls).2 := by
  induction calls using List.reverseRecOn with
  | nil => exact lived_nil htaken hslot
  | append_singleton calls call ih =>
    rw [life_concat]
    exact ih.next (served_call _ call)

/-- The job is handed out to the first call that asks for it, and to no other. -/
theorem Lived.job_answer (hl : Lived fresh calls worker answers) :
    (.takeJob ∉ calls → (worker.call .takeJob).2 = .job (some fresh.job)) ∧
      (.takeJob ∈ calls → (worker.call .takeJob).2 = .job none) := by
  have hanswer : (worker.call .takeJob).2 = .job worker.takeJob.1 := rfl
  rw [hanswer, Worker.takeJob]
  constructor
  · intro hnot
    rw [if_neg (mt hl.jobTaken_iff.mp hnot), hl.job_eq]
  · intro hmem
    rw [if_pos (hl.jobTaken_iff.mpr hmem)]

end Lives

/-! ## Whole lives -/

/-- The life of a prepared worker. Whatever is done to it, and whatever becomes of its process:
its stage goes one way, and to be completed is final; the job is handed out to the first call that
asks for it; at most one result is taken in and at most one is passed on; the check that completes
it passes on one result, unless the protocol has been broken; and any later check passes on none. -/
theorem worker_life {host : Host} {settings : LaunchSettings} {endpoint : Link.Endpoint}
    {token : Token} {job : Job} {cpus : List Nat} {fresh : Worker}
    (hfresh : prepare host settings endpoint token job cpus = .ok fresh) (calls : List Call) :
    let worker := (fresh.life calls).1
    let answers := (fresh.life calls).2
    -- the stage
    fresh.phase = .created ∧
    (∀ call, StageStep worker.phase.stage call (worker.call call).1.phase.stage) ∧
    (∀ passed, worker.phase = .completed passed →
      ∀ more, (worker.life more).1.phase = .completed passed) ∧
    -- the job
    (.takeJob ∉ calls → (worker.call .takeJob).2 = .job (some job)) ∧
    (.takeJob ∈ calls → (worker.call .takeJob).2 = .job none) ∧
    -- results
    answers.countP Answer.isAccepted ≤ 1 ∧
    (answers.filterMap Answer.added?).length ≤ 1 ∧
    -- completing
    (∀ passed, worker.Unfinished → worker.check.1.phase = .completed passed →
      Completes worker (calls.findSome? Call.result?) passed) ∧
    (∀ process, worker.phase = .started process → process.isOver = true →
      ∃ passed, worker.check.1.phase = .completed passed) ∧
    -- and after that
    ∀ passed, worker.phase = .completed passed → worker.check.1 = worker ∧
      worker.check.2.answer = .ok true ∧ worker.check.2.result? = none := by
  intro worker answers
  have hprepared := prepared_of_prepare hfresh
  have hl : Lived fresh calls worker answers :=
    lived_life hprepared.jobTaken_eq hprepared.slot_eq calls
  obtain ⟨hfirst, hlater⟩ := hl.job_answer
  rw [hprepared.job_eq] at hfirst
  refine ⟨hprepared.phase_eq, stageStep_call worker, ?_, hfirst, hlater, hl.accepted_le,
    hl.added_le, ?_, ?_, ?_⟩
  · -- to be completed is final
    intro passed hover more
    exact completed_life hover more
  · -- the check that completes it
    intro passed hbefore hafter
    exact completes_of_check (hl.slot_eq hbefore) hbefore hafter
  · -- a worker completes as soon as its process is over
    intro process hphase hover
    have hdone := completion_of_check hphase hover
      (hl.slot_eq (unfinished_of_started hphase))
    obtain ⟨passed, hcompleted, -⟩ := hdone
    exact ⟨passed, hcompleted⟩
  · -- checks after that
    intro passed hover
    rw [check_of_completed hover]
    exact ⟨rfl, rfl, rfl⟩

/-- A machine on which no process ends of its own accord. -/
def patientHost : Host where
  facts := ⟨"linux", "x86_64", 1, 2, "2024-01-01T00:00:00+00:00"⟩
  directory := "/opt"
  canPin := false
  scratch := some "/tmp"
  unique := "1"
  execute := fun _ _ => .ok none

/-- A worker that has been prepared on it. -/
def patientWorker : Worker where
  token := "fork-token-1"
  job := default
  cpus := [0]
  command := ["run", "entry", "localhost", "5555", "fork-token-1"]
  directives := none

/-- The life of a worker whose peer hands one result over before the start and another one later.
It is started twice, and checked on while it runs and after it has ended. -/
def busyLife : List Call :=
  [.record { job := default, status := .normal }, .start patientHost, .check, .takeJob,
    .start patientHost, .record { job := default, status := .vmError },
    .finish (.silent (.exited 0)), .check, .kill]

theorem worker_life_busy :
    prepare patientHost ⟨["run"], [], "entry", false, none⟩ ⟨"localhost", 5555⟩ "fork-token-1"
      default [0] = .ok patientWorker ∧
    (patientWorker.life busyLife).1.phase = .completed true ∧
    ((patientWorker.life busyLife).2.filterMap Answer.added?).length ≤ 1 ∧
    ((patientWorker.life busyLife).1.call .takeJob).2 = .job none ∧
    (patientWorker.life busyLife).1.check.1 = (patientWorker.life busyLife).1 := by
  have hprepared : prepare patientHost ⟨["run"], [], "entry", false, none⟩ ⟨"localhost", 5555⟩
      "fork-token-1" default [0] = .ok patientWorker := by
    decide +kernel
  have hcompleted : (patientWorker.life busyLife).1.phase = .completed true := by
    decide +kernel
  obtain ⟨-, -, -, -, hlater, -, hadded, -, -, hfinished⟩ := worker_life hprepared busyLife
  have hmem : Call.takeJob ∈ busyLife := by simp [busyLife]
  exact ⟨hprepared, hcompleted, hadded, hlater hmem, (hfinished true hcompleted).1⟩

end Worker

end StressBatch
