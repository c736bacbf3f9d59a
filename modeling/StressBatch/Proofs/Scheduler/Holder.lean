import StressBatch.Proofs.Embedded
import StressBatch.Scheduler.Step

/-!
# Who holds an embedded job

An embedded job is handed over together with a completion, which keeps the job's CPUs until they are
taken from it. Finishing the job takes them, and so does the destructor, which is run wherever the
completion goes out of scope: after a `finish` as well, when code ends early, when a panic unwinds
it and when a thread that should have had it is never started. Whoever finds the CPUs passes a
result on and gives them back; whoever comes later finds nothing and does nothing.

A `Holder` is code that owns a completion. What a runner does at once, `Submission`, is what the one
who handed the job over sees of such code, and the moves of the scheduler carry out its notices.
-/

namespace StressBatch

/-! ## Completions -/

/-- What a completion does to others. -/
inductive Notice where
  /-- A result is passed on. -/
  | passedOn (result : TestResult)
  /-- The scheduler is told that CPUs are given back, whether it still listens or not. -/
  | released (cpus : List Nat)
  deriving DecidableEq, Repr

/-- The proof of an outstanding embedded job. -/
structure Completion where
  /-- The job. -/
  job : Job
  /-- The job's CPUs, until they are taken. -/
  cpus : Option (List Nat)

namespace Completion

/-- The completion that is handed over with a job. -/
def ofTicket (ticket : Ticket) : Completion := ⟨ticket.job, some ticket.cpus⟩

/-- Takes the CPUs, and if they are there passes a result on before it gives them back. -/
def complete (completion : Completion) (result : TestResult) : Completion × List Notice :=
  match completion.cpus with
  | none => (completion, [])
  | some cpus => ({ completion with cpus := none }, [.passedOn result, .released cpus])

/-- The destructor. -/
def drop (completion : Completion) : List Notice :=
  match completion.cpus with
  | none => []
  | some cpus => (completion.complete (Ticket.abandonedResult ⟨completion.job, cpus⟩)).2

variable {completion : Completion}

theorem drop_of_taken (h : completion.cpus = none) : completion.drop = [] := by
  simp only [drop, h]

theorem cpus_complete (completion : Completion) (result : TestResult) :
    (completion.complete result).1.cpus = none := by
  unfold complete
  split
  · assumption
  · rfl

theorem drop_ofTicket (ticket : Ticket) :
    (ofTicket ticket).drop = [.passedOn ticket.abandonedResult, .released ticket.cpus] := rfl

end Completion

/-! ## Holders -/

/-- Code that owns a completion, up to where the completion goes out of scope. -/
inductive Holder : Type 1 where
  /-- Finishes the job with a result. -/
  | finish (result : TestResult)
  /-- Comes to an end without having finished the job. -/
  | leave
  /-- Computes something, which may panic, and goes on with it. -/
  | compute {Value : Type} (outcome : Except Panic Value) (next : Value → Holder)
  /-- Has a thread started that owns the completion from then on; the operating system may refuse
  the thread. -/
  | spawn (refused : Option IoFault) (body : Holder)

namespace Holder

/-- What is done through the completion. -/
def notices (completion : Completion) : Holder → List Notice
  | finish result =>
    let (completion, done) := completion.complete result
    done ++ completion.drop
  | leave => completion.drop
  | compute (.error _) _ => completion.drop
  | compute (.ok value) next => (next value).notices completion
  | spawn (some _) _ => completion.drop
  | spawn none body => body.notices completion

/-- The result that the job is finished with, if it is finished. -/
def given? : Holder → Option TestResult
  | finish result => some result
  | leave => none
  | compute (.error _) _ => none
  | compute (.ok value) next => (next value).given?
  | spawn (some _) _ => none
  | spawn none body => body.given?

/-- What the one who handed the job over sees once all is done. A panic on a thread of its own is
not seen. -/
def submission : Holder → Submission
  | finish result => .finished result
  | leave => .dropped
  | compute (.error panic) _ => .panicked panic
  | compute (.ok value) next => (next value).submission
  | spawn (some _) _ => .dropped
  | spawn none body =>
    match body.submission with
    | .panicked _ => .dropped
    | seen => seen

/-- The code of the runner with threads. The thread is named after the job before it is started, and
it alone runs the job's workload. -/
def threaded (registry : Registry) (snapshot : Environment) (refused : Option IoFault) (job : Job) :
    Holder :=
  .compute (threadName ("embedded-" ++ job.name)) fun _ =>
    .spawn refused (.compute (registry.execute job) fun result =>
      .finish (result.setEnv snapshot))

/-- The result that is passed on for a job. -/
def result (holder : Holder) (ticket : Ticket) : TestResult :=
  holder.given?.getD ticket.abandonedResult

variable {ticket : Ticket} {registry : Registry} {snapshot : Environment} {job : Job}

/-- Every way out of scope comes to one result and one return of the CPUs, in this order. -/
theorem notices_ofTicket (holder : Holder) (ticket : Ticket) :
    holder.notices (.ofTicket ticket) =
      [.passedOn (holder.result ticket), .released ticket.cpus] := by
  induction holder with
  | finish result =>
    change [_, _] ++ ((Completion.ofTicket ticket).complete result).1.drop = _
    rw [Completion.drop_of_taken (Completion.cpus_complete _ _), List.append_nil]
    rfl
  | leave => exact Completion.drop_ofTicket ticket
  | compute outcome next ih =>
    cases outcome with
    | error panic => exact Completion.drop_ofTicket ticket
    | ok value => exact ih value
  | spawn refused body ih =>
    cases refused with
    | some fault => exact Completion.drop_ofTicket ticket
    | none => exact ih

/-- What is seen of a holder tells what it gave, and it never keeps the job. -/
theorem submission_eq (holder : Holder) :
    holder.submission = .dropped ∧ holder.given? = none ∨
      (∃ panic, holder.submission = .panicked panic ∧ holder.given? = none) ∨
      ∃ result, holder.submission = .finished result ∧ holder.given? = some result := by
  induction holder with
  | finish result => exact .inr (.inr ⟨result, rfl, rfl⟩)
  | leave => exact .inl ⟨rfl, rfl⟩
  | compute outcome next ih =>
    cases outcome with
    | error panic => exact .inr (.inl ⟨panic, rfl, rfl⟩)
    | ok value => exact ih value
  | spawn refused body ih =>
    cases refused with
    | some fault => exact .inl ⟨rfl, rfl⟩
    | none =>
      simp only [submission, given?]
      obtain ⟨hseen, hgiven⟩ | ⟨panic, hseen, hgiven⟩ | ⟨result, hseen, hgiven⟩ := ih
      · exact .inl ⟨by rw [hseen], hgiven⟩
      · exact .inl ⟨by rw [hseen], hgiven⟩
      · exact .inr (.inr ⟨result, by rw [hseen], hgiven⟩)

/-! ## The runner with threads -/

theorem threaded_of_nul (h : '\x00' ∈ job.name.toList) (refused : Option IoFault) :
    (threaded registry snapshot refused job).given? = none := by
  obtain ⟨panic, hname⟩ :=
    threadName_of_nul (EmbeddedRunner.nul_mem_threadName_iff.mpr h)
  simp only [threaded, hname, given?]

/-- The result is given exactly if the workload is run and returns. -/
theorem given?_threaded_eq_some_iff {refused : Option IoFault} {given : TestResult} :
    (threaded registry snapshot refused job).given? = some given ↔
      '\x00' ∉ job.name.toList ∧ refused = none ∧
        ∃ result, registry.execute job = .ok result ∧ given = result.setEnv snapshot := by
  by_cases hnul : '\x00' ∈ job.name.toList
  · simp [threaded_of_nul hnul, hnul]
  · have hname := threadName_of_nul_free (mt EmbeddedRunner.nul_mem_threadName_iff.mp hnul)
    cases refused with
    | some fault => simp [threaded, hname, given?]
    | none =>
      cases hexecute : registry.execute job with
      | error panic => simp [threaded, hname, given?, hexecute]
      | ok result => simp [threaded, hname, given?, hexecute, hnul, eq_comm]

/-- A runner that is granted its threads does what its code does. -/
theorem submission_threaded (registry : Registry) (snapshot : Environment) (job : Job)
    (cpus : List Nat) : (threaded registry snapshot none job).submission =
      EmbeddedRunner.threaded registry snapshot job cpus := by
  unfold threaded EmbeddedRunner.threaded
  cases threadName ("embedded-" ++ job.name) with
  | error panic => rfl
  | ok name => cases registry.execute job <;> rfl

/-! ## In the scheduler -/

/-- The move of a runner that lets go of a job it has kept. -/
def parting (holder : Holder) (position : Nat) : Scheduler.Move :=
  match holder.given? with
  | some result => .finish position result
  | none => .abandon position

end Holder

namespace Scheduler

variable {setup : Setup} {s : State} {holder : Holder} {ticket : Ticket}

/-- A scheduler that hears what is done through a completion. -/
def State.hear (s : State) : Notice → State
  | .passedOn result => s.report result
  | .released cpus => s.enqueue (.released cpus)

theorem complete_eq_foldl (s : State) (holder : Holder) (ticket : Ticket) :
    s.complete ticket (holder.result ticket) =
      (holder.notices (.ofTicket ticket)).foldl State.hear s := by
  rw [holder.notices_ofTicket]
  rfl

/-- What a scheduler makes of a runner that is done with a job at once. -/
theorem startEmbedded_eq (h : setup.runner ticket.job ticket.cpus = holder.submission) :
    ∃ phase, s.startEmbedded setup ticket =
      ({ (holder.notices (.ofTicket ticket)).foldl State.hear (s.count fun c =>
            { c with embeddedDispatched := c.embeddedDispatched + 1 }) with phase := phase },
        [.passedOn (.embedded ticket) (holder.result ticket)]) := by
  rw [← complete_eq_foldl]
  unfold State.startEmbedded
  rw [h]
  obtain ⟨hseen, hgiven⟩ | ⟨panic, hseen, hgiven⟩ | ⟨result, hseen, hgiven⟩ :=
    holder.submission_eq
  · rw [hseen, Holder.result, hgiven]
    exact ⟨s.phase, rfl⟩
  · rw [hseen, Holder.result, hgiven]
    exact ⟨.crashed panic, rfl⟩
  · rw [hseen, Holder.result, hgiven]
    exact ⟨s.phase, rfl⟩

theorem getElem?_middle (before later : List Ticket) (ticket : Ticket) :
    (before ++ ticket :: later)[before.length]? = some ticket := by
  rw [List.getElem?_append_right (Nat.le_refl _), Nat.sub_self, List.getElem?_cons_zero]

theorem eraseIdx_middle (before later : List Ticket) (ticket : Ticket) :
    (before ++ ticket :: later).eraseIdx before.length = before ++ later := by
  rw [List.eraseIdx_append_of_length_le (Nat.le_refl _), Nat.sub_self, List.eraseIdx_cons_zero]

theorem dispose_middle (s : State) (before later : List Ticket) (ticket : Ticket)
    (result : Ticket → TestResult) :
    { s with tickets := before ++ ticket :: later }.dispose before.length result =
      some ({ s with
          tickets := before ++ later
          leaving := s.leaving ++ [ticket] }.report (result ticket),
        [.passedOn (.embedded ticket) (result ticket)]) := by
  simp only [State.dispose, getElem?_middle, eraseIdx_middle, Option.map_some]

/-- A job that a runner has kept leaves its result behind before it gives its CPUs back. -/
theorem step_parting (setup : Setup) (s : State) (holder : Holder) (ticket : Ticket)
    (before later : List Ticket) :
    { s with tickets := before ++ ticket :: later }.step setup (holder.parting before.length) =
      ({ s with
          tickets := before ++ later
          leaving := s.leaving ++ [ticket] }.report (holder.result ticket),
        [.passedOn (.embedded ticket) (holder.result ticket)]) := by
  unfold Holder.parting Holder.result
  cases holder.given? with
  | some result => simp only [State.step, State.step?, dispose_middle, Option.getD_some]
  | none => simp only [State.step, State.step?, dispose_middle, Option.getD_some, Option.getD_none]

theorem step_notify (setup : Setup) (s : State) (ticket : Ticket) (before later : List Ticket) :
    { s with leaving := before ++ ticket :: later }.step setup (.notify before.length) =
      ({ s with leaving := before ++ later }.enqueue (.released ticket.cpus), []) := by
  simp only [State.step, State.step?, State.notify, getElem?_middle, eraseIdx_middle,
    Option.map_some, Option.getD_some]

/-- What becomes of an embedded job whose completion is held by some code. -/
structure Settles (ticket : Ticket) (holder : Holder) (result : TestResult) : Prop where
  /-- The result is the one that the job is finished with, or else an error of the job. -/
  result_eq : holder.given? = some result ∨
    holder.given? = none ∧ result.job = ticket.job ∧ result.status = .testError
  /-- The result is passed on once, and then the CPUs are given back once. -/
  notices_eq : holder.notices (.ofTicket ticket) = [.passedOn result, .released ticket.cpus]
  /-- A scheduler has both as soon as its runner is done. -/
  at_once {setup : Setup} {s : State}
    (h : setup.runner ticket.job ticket.cpus = holder.submission) :
    (s.startEmbedded setup ticket).1.log = s.log.add result ∧
      (s.startEmbedded setup ticket).1.queue = s.queue ++ [.released ticket.cpus] ∧
      (s.startEmbedded setup ticket).2 = [.passedOn (.embedded ticket) result]
  /-- A job that has been kept comes off the kept ones with its result. -/
  parted (setup : Setup) (s : State) (before later : List Ticket) :
    { s with tickets := before ++ ticket :: later }.step setup (holder.parting before.length) =
      ({ s with tickets := before ++ later, leaving := s.leaving ++ [ticket] }.report result,
        [.passedOn (.embedded ticket) result])
  /-- Only then it gives its CPUs back. -/
  notified (setup : Setup) (s : State) (before later : List Ticket) :
    { s with leaving := before ++ ticket :: later }.step setup (.notify before.length) =
      ({ s with leaving := before ++ later }.enqueue (.released ticket.cpus), [])

theorem settles (ticket : Ticket) (holder : Holder) :
    Settles ticket holder (holder.result ticket) where
  result_eq := by
    unfold Holder.result
    cases holder.given? with
    | some result => exact .inl rfl
    | none => exact .inr ⟨rfl, rfl, rfl⟩
  notices_eq := holder.notices_ofTicket ticket
  at_once {setup s} h := by
    obtain ⟨phase, hafter⟩ := startEmbedded_eq (s := s) h
    rw [hafter, holder.notices_ofTicket]
    exact ⟨rfl, rfl, rfl⟩
  parted setup s before later := step_parting setup s holder ticket before later
  notified setup s before later := step_notify setup s ticket before later

/-- An embedded job is reported once and then released once, whatever becomes of the code that holds
its completion. The runner with threads reports what the workload of the job comes to, if that has a
thread and returns. -/
theorem reported_and_released_once (ticket : Ticket) (holder : Holder) (registry : Registry)
    (snapshot : Environment) :
    (∃ result, Settles ticket holder result) ∧
      (∀ refused given,
        (Holder.threaded registry snapshot refused ticket.job).given? = some given ↔
          '\x00' ∉ ticket.job.name.toList ∧ refused = none ∧
            ∃ result, registry.execute ticket.job = .ok result ∧
              given = result.setEnv snapshot) ∧
      EmbeddedRunner.threaded registry snapshot ticket.job ticket.cpus =
        (Holder.threaded registry snapshot none ticket.job).submission :=
  ⟨⟨_, settles ticket holder⟩, fun _ _ => Holder.given?_threaded_eq_some_iff,
    (Holder.submission_threaded registry snapshot ticket.job ticket.cpus).symm⟩

end Scheduler

end StressBatch
