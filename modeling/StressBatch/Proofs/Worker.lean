import Mathlib
import StressBatch.Worker
import StressBatch.Embedded

/-!
# What a worker keeps

A worker keeps its token, its job and its CPUs whatever becomes of it. Preparing one cannot panic on
a sound job, and checking on one whose process has been started comes to one of two things: either
the process still runs and nothing changes, or the worker is over and either reports a result or has
broken the protocol.
-/

namespace StressBatch

/-- Whether the check found that the worker is over. -/
def Checked.isOver : Checked → Bool
  | .unfinished => false
  | _ => true

namespace Worker

/-- The job of a worker with the CPUs that it holds. -/
def ticket (worker : Worker) : Ticket := ⟨worker.job, worker.cpus⟩

/-! ## Preparing -/

/-- The directives of a sound job can be made. -/
theorem exists_ofJob_eq_ok {job : Job} (hjob : job.Sound) (config : DirectivesConfig) :
    ∃ set, DirectiveSet.ofJob job config = .ok set := by
  have hle : job.threads ≤ min job.roles.length job.modes.length := by
    rw [hjob.roles_length, hjob.modes_length, min_self]
  refine ⟨.ofAssignments job config ((job.roles.zip job.modes).take job.threads), ?_⟩
  unfold DirectiveSet.ofJob DirectiveSet.assignments
  simp only [hle, if_true]
  rfl

theorem directiveFile_ne_panicked {host : Host} {settings : LaunchSettings} {token : Token}
    {job : Job} (hjob : job.Sound) (panic : Panic) :
    directiveFile host settings token job ≠ .error (.panicked panic) := by
  unfold directiveFile
  cases settings.directives with
  | none => simp
  | some config =>
    obtain ⟨set, hset⟩ := exists_ofJob_eq_ok hjob config
    cases host.scratchFile token ".directives" with
    | error fault => simp
    | ok path => simp [hset]

/-- Preparing a worker for a sound job does not panic. -/
theorem prepare_ne_panicked {host : Host} {settings : LaunchSettings} {endpoint : Link.Endpoint}
    {token : Token} {job : Job} {cpus : List Nat} (hjob : job.Sound) (panic : Panic) :
    prepare host settings endpoint token job cpus ≠ .error (.panicked panic) := by
  have hfile : directiveFile host settings token job ≠ .error (.panicked panic) :=
    directiveFile_ne_panicked hjob panic
  unfold prepare
  cases host.scratchFile token ".stdout" with
  | error fault => simp [bind, Except.bind, Except.mapError]
  | ok out =>
    cases host.scratchFile token ".stderr" with
    | error fault => simp [bind, Except.bind, Except.mapError]
    | ok err =>
      cases hd : directiveFile host settings token job with
      | error fault =>
        rw [hd] at hfile
        simpa [bind, Except.bind, Except.mapError] using hfile
      | ok file => simp [bind, Except.bind, Except.mapError, pure, Except.pure]

/-- A worker that has just been prepared: it has what it was given, and has not been started. -/
structure Prepared (worker : Worker) (token : Token) (job : Job) (cpus : List Nat) : Prop where
  token_eq : worker.token = token
  job_eq : worker.job = job
  cpus_eq : worker.cpus = cpus
  jobTaken_eq : worker.jobTaken = false
  slot_eq : worker.slot = .pending
  phase_eq : worker.phase = .created

/-- A worker that can be prepared has the command line that names its directive file, if there is
one. -/
theorem exists_of_prepare {host : Host} {settings : LaunchSettings} {endpoint : Link.Endpoint}
    {token : Token} {job : Job} {cpus : List Nat} {worker : Worker}
    (h : prepare host settings endpoint token job cpus = .ok worker) :
    ∃ file, directiveFile host settings token job = .ok file ∧
      worker.command = settings.commandLine job cpus (file.map (·.1)) endpoint token ∧
      Prepared worker token job cpus := by
  unfold prepare at h
  cases hout : host.scratchFile token ".stdout" with
  | error fault => simp [hout, bind, Except.bind, Except.mapError] at h
  | ok out =>
    cases herr : host.scratchFile token ".stderr" with
    | error fault => simp [hout, herr, bind, Except.bind, Except.mapError] at h
    | ok err =>
      cases hd : directiveFile host settings token job with
      | error fault => simp [hout, herr, hd, bind, Except.bind, Except.mapError] at h
      | ok file =>
        simp only [hout, herr, hd, bind, Except.bind, Except.mapError, pure, Except.pure,
          Except.ok.injEq] at h
        subst h
        exact ⟨file, rfl, rfl, rfl, rfl, rfl, rfl, rfl, rfl⟩

theorem prepared_of_prepare {host : Host} {settings : LaunchSettings} {endpoint : Link.Endpoint}
    {token : Token} {job : Job} {cpus : List Nat} {worker : Worker}
    (h : prepare host settings endpoint token job cpus = .ok worker) :
    Prepared worker token job cpus := by
  obtain ⟨-, -, -, hprepared⟩ := exists_of_prepare h
  exact hprepared

/-- What starting a prepared worker comes to. -/
theorem Prepared.start_eq {worker : Worker} {token : Token} {job : Job} {cpus : List Nat}
    (h : Prepared worker token job cpus) (host : Host) :
    worker.start host = { worker with phase := .started (host.spawn worker.command) } := by
  unfold start
  rw [h.phase_eq]

/-! ## What stays -/

section Stays

variable (worker : Worker)

@[simp] theorem start_token (host : Host) : (worker.start host).token = worker.token := by
  unfold start
  split <;> rfl

@[simp] theorem start_ticket (host : Host) : (worker.start host).ticket = worker.ticket := by
  unfold start
  split <;> rfl

@[simp] theorem mapProcess_token (f : Process → Process) :
    (worker.mapProcess f).token = worker.token := by
  unfold mapProcess
  split <;> rfl

@[simp] theorem mapProcess_ticket (f : Process → Process) :
    (worker.mapProcess f).ticket = worker.ticket := by
  unfold mapProcess
  split <;> rfl

@[simp] theorem takeJob_token : worker.takeJob.2.token = worker.token := by
  unfold takeJob
  split <;> rfl

@[simp] theorem takeJob_ticket : worker.takeJob.2.ticket = worker.ticket := by
  unfold takeJob
  split <;> rfl

@[simp] theorem takeJob_phase : worker.takeJob.2.phase = worker.phase := by
  unfold takeJob
  split <;> rfl

@[simp] theorem takeJob_slot : worker.takeJob.2.slot = worker.slot := by
  unfold takeJob
  split <;> rfl

@[simp] theorem check_token : worker.check.1.token = worker.token := by
  unfold check conclude
  split <;> try rfl
  split <;> try rfl
  split <;> rfl

@[simp] theorem check_ticket : worker.check.1.ticket = worker.ticket := by
  unfold check conclude
  split <;> try rfl
  split <;> try rfl
  split <;> rfl

end Stays

theorem record_eq_ok {worker after : Worker} {result : TestResult}
    (h : worker.record result = .ok after) :
    worker.slot = .pending ∧ after = { worker with slot := .delivered result } := by
  unfold record ResultSlot.deliver at h
  cases hslot : worker.slot with
  | pending =>
    rw [hslot] at h
    exact ⟨rfl, (Except.ok.inj h).symm⟩
  | delivered old => rw [hslot] at h; simp at h
  | consumed => rw [hslot] at h; simp at h

theorem record_eq_error {worker : Worker} {result : TestResult} {violation : Violation}
    (h : worker.record result = .error violation) :
    worker.slot ≠ .pending ∧ violation = ⟨worker.token, .publishedTwice⟩ := by
  unfold record ResultSlot.deliver at h
  cases hslot : worker.slot with
  | pending => rw [hslot] at h; simp at h
  | delivered old => rw [hslot] at h; exact ⟨by simp, (Except.error.inj h).symm⟩
  | consumed => rw [hslot] at h; exact ⟨by simp, (Except.error.inj h).symm⟩

theorem record_of_pending {worker : Worker} (h : worker.slot = .pending) (result : TestResult) :
    worker.record result = .ok { worker with slot := .delivered result } := by
  unfold record
  rw [h]
  rfl

theorem record_of_ne_pending {worker : Worker} (h : worker.slot ≠ .pending) (result : TestResult) :
    worker.record result = .error ⟨worker.token, .publishedTwice⟩ := by
  unfold record
  cases hslot : worker.slot with
  | pending => contradiction
  | _ => rfl

theorem mapProcess_of_started {worker : Worker} {process : Process} (f : Process → Process)
    (h : worker.phase = .started process) :
    worker.mapProcess f = { worker with phase := .started (f process) } := by
  unfold mapProcess
  rw [h]

theorem mapProcess_of_completed {worker : Worker} {passed : Bool}
    (h : worker.phase = .completed passed) (f : Process → Process) :
    worker.mapProcess f = worker := by
  unfold mapProcess
  rw [h]

/-- What may become of a worker without its accounts being touched. -/
structure Keeps (worker after : Worker) : Prop where
  token_eq : after.token = worker.token
  ticket_eq : after.ticket = worker.ticket
  started : ∀ process, worker.phase = .started process →
    ∃ process, after.phase = .started process

theorem keeps_mapProcess (worker : Worker) (f : Process → Process) :
    Keeps worker (worker.mapProcess f) where
  token_eq := mapProcess_token worker f
  ticket_eq := mapProcess_ticket worker f
  started := by
    intro process h
    rw [mapProcess_of_started f h]
    exact ⟨f process, rfl⟩

theorem keeps_takeJob (worker : Worker) : Keeps worker worker.takeJob.2 where
  token_eq := takeJob_token worker
  ticket_eq := takeJob_ticket worker
  started := fun process h => ⟨process, (takeJob_phase worker).trans h⟩

theorem keeps_of_record {worker after : Worker} {result : TestResult}
    (h : worker.record result = .ok after) : Keeps worker after := by
  obtain ⟨-, rfl⟩ := record_eq_ok h
  exact ⟨rfl, rfl, fun process h => ⟨process, h⟩⟩

/-- What stays of a worker that neither talks with its peer nor is checked on. -/
structure Alike (worker after : Worker) : Prop where
  token_eq : after.token = worker.token
  ticket_eq : after.ticket = worker.ticket
  jobTaken_eq : after.jobTaken = worker.jobTaken
  slot_eq : after.slot = worker.slot

@[refl] theorem Alike.refl (worker : Worker) : Alike worker worker := ⟨rfl, rfl, rfl, rfl⟩

theorem alike_start (worker : Worker) (host : Host) : Alike worker (worker.start host) := by
  unfold start
  split <;> exact ⟨rfl, rfl, rfl, rfl⟩

theorem alike_mapProcess (worker : Worker) (f : Process → Process) :
    Alike worker (worker.mapProcess f) := by
  unfold mapProcess
  split <;> exact ⟨rfl, rfl, rfl, rfl⟩

/-! ## Checking -/

/-- Checking on a worker whose process still runs changes nothing. -/
theorem check_of_running {worker : Worker} {process : Process}
    (h : worker.phase = .started process) (hover : process.isOver = false) :
    worker.check = (worker, .unfinished) := by
  cases process with
  | running killed =>
    unfold check
    rw [h]
  | refused fault => simp [Process.isOver] at hover
  | ended exit => simp [Process.isOver] at hover
  | lost fault => simp [Process.isOver] at hover

/-- What checking on a worker comes to whose process has been started and is over: it reports a
result, or it has broken the protocol. -/
inductive Over (worker : Worker) : Worker → Checked → Prop where
  /-- The worker completes with a result; `passed` says whether it is its own. -/
  | reported (after : Worker) (passed : Bool) (result : TestResult)
      (hphase : after.phase = .completed passed) : Over worker after (.reported result)
  /-- The worker ended cleanly and left no result. -/
  | violated (after : Worker) (hphase : after.phase = .completed false) :
      Over worker after (.violated ⟨worker.token, .noResult⟩)

theorem check_of_over {worker : Worker} {process : Process}
    (h : worker.phase = .started process) (hover : process.isOver = true) :
    Over worker worker.check.1 worker.check.2 := by
  unfold check
  rw [h]
  cases process with
  | running killed => simp [Process.isOver] at hover
  | refused fault => exact .reported _ false _ rfl
  | lost fault => exact .reported _ false _ rfl
  | ended exit =>
    simp only [conclude]
    split
    · split
      · exact .reported _ true _ rfl
      · exact .violated _ rfl
    · exact .reported _ false _ rfl

theorem Over.isOver {worker after : Worker} {checked : Checked} (h : Over worker after checked) :
    checked.isOver = true := by
  cases h <;> rfl

theorem Over.completed {worker after : Worker} {checked : Checked}
    (h : Over worker after checked) : ∃ passed, after.phase = .completed passed := by
  cases h with
  | reported passed result hphase => exact ⟨passed, hphase⟩
  | violated hphase => exact ⟨false, hphase⟩

/-- The check on a worker whose process has been started finds that it is over exactly if the
process is. -/
theorem isOver_check_eq {worker : Worker} {process : Process}
    (h : worker.phase = .started process) : worker.check.2.isOver = process.isOver := by
  cases hover : process.isOver with
  | false => rw [check_of_running h hover]; rfl
  | true => exact (check_of_over h hover).isOver

end Worker

end StressBatch
