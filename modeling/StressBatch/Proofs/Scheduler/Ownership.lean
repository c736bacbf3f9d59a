import StressBatch.Proofs.Scheduler.Exchange
import StressBatch.Proofs.Scheduler.Order
import StressBatch.Proofs.Scheduler.Outcome

/-!
# Whose job a result is of

What is passed on for a job is made from that job, but for two things: what an embedded runner
reports, and what a peer pushes under the token of a worker whose process then ends with exit code
0. A peer says itself which job its result is of, and nobody compares that with the job its worker
was started for. So results belong to their jobs exactly as far as peers and runners see to it.
-/

namespace StressBatch.Scheduler

/-- Whose job a result is of that is passed on. -/
inductive Owned (acts : List Act) (shown : List Effect) : Origin × TestResult → Prop where
  /-- It is one of the job that it is passed on for. -/
  | belongs (origin : Origin) (result : TestResult) (hjob : result.job = origin.job) :
    Owned acts shown (origin, result)
  /-- An embedded runner has reported it. -/
  | reported (ticket : Ticket) (result : TestResult) : Owned acts shown (.embedded ticket, result)
  /-- It was pushed under the token of a worker whose process ended with exit code 0. -/
  | pushed (token : Token) (job : Job) (cpus : List Nat) (result : TestResult) (exit : Exit)
      (hstarted : .started job cpus (some token) ∈ shown)
      (hpushed : Requested (.push token result) acts) (hexit : exit.ending = .exited 0) :
    Owned acts shown (.forked token job, Worker.ownResult result exit)

/-- Whether the results that are pushed under the token of a job are results of that job. -/
def Honest (acts : List Act) (shown : List Effect) : Prop :=
  ∀ token job cpus result, .started job cpus (some token) ∈ shown →
    Requested (.push token result) acts → result.job = job

section Steps

variable {acts : List Act} {shown new : List Effect} {s after : State} {held : List Ticket}
  {setup : Setup} {move : Move} {r : Origin × TestResult}

theorem Owned.mono (h : Owned acts shown r) (act : Act) (new : List Effect) :
    Owned (acts ++ [act]) (shown ++ new) r := by
  cases h with
  | belongs origin result hjob => exact .belongs origin result hjob
  | reported ticket result => exact .reported ticket result
  | pushed token job cpus result exit hstarted hpushed hexit =>
    exact .pushed token job cpus result exit (List.mem_append_left _ hstarted) (hpushed.mono _)
      hexit

theorem started_of_live (capacity : Nat) (acts : List Act) {worker : Worker}
    (hworker : worker ∈ (runOn capacity acts).1.workers) :
    .started worker.job worker.cpus (some worker.token) ∈ (runOn capacity acts).2 := by
  have hlive := State.worker?_of_mem (consistent_trace capacity acts).nodup_tokens hworker
  obtain ⟨-, hdealt⟩ := (usage_runOn capacity worker.token acts).exists_live hlive
  have hstarts : (runOn capacity acts).2.filterMap (Effect.start? worker.token) =
      [worker.ticket] := congrArg Dealings.starts hdealt
  have hmem : worker.ticket ∈ (runOn capacity acts).2.filterMap (Effect.start? worker.token) := by
    rw [hstarts]
    exact List.mem_cons_self
  obtain ⟨effect, heffect, hstart⟩ := List.mem_filterMap.mp hmem
  cases effect with
  | started job cpus token =>
    simp only [Effect.start?] at hstart
    split at hstart
    · next htoken =>
      obtain ⟨rfl, rfl⟩ := Ticket.mk.inj (Option.some.inj hstart)
      exact htoken ▸ heffect
    · contradiction
  | _ => contradiction

theorem Consistent.owned_of_transition (hc : Consistent s held) (hs : Sourced acts s)
    (hlive : ∀ worker ∈ s.workers,
      .started worker.job worker.cpus (some worker.token) ∈ shown)
    (h : Transition setup s move after new) (hr : r ∈ passed new) : Owned acts shown r := by
  cases hc.passedOn h hr with
  | refused job reason => exact .belongs _ _ rfl
  | embedded ticket result => exact .reported ticket result
  | unprepared job fault => exact .belongs _ _ rfl
  | due worker r hworker hdue =>
    rcases hc.due_cases hs hworker with hown | ⟨-, hjob⟩
    · -- the one case in which the result names its own job
      obtain ⟨result, exit, hslot, hexit, rfl⟩ := Worker.delivered_of_own? (hown.symm.trans hdue)
      obtain ⟨recorded, hrecorded, hpushed⟩ := hs.slots worker hworker
      have hhanded : recorded = some result := by
        rw [← Worker.result?_slotOf recorded, ← hrecorded, hslot]
        rfl
      exact .pushed _ _ worker.cpus result exit (hlive worker hworker) (hpushed result hhanded)
        hexit
    · rcases hc.owed_cases hworker with ⟨-, hnone⟩ | ⟨-, result, hsome⟩
      · rw [hnone] at hdue
        contradiction
      · obtain rfl := Option.some.inj (hsome.symm.trans hdue)
        exact .belongs _ _ (hjob _ hdue)

end Steps

theorem owned_runOn (capacity : Nat) (acts : List Act) :
    ∀ r ∈ passed (runOn capacity acts).2, Owned acts (runOn capacity acts).2 r := by
  induction acts using List.reverseRecOn with
  | nil => exact List.forall_mem_nil _
  | append_singleton acts act ih =>
    intro r hr
    have hc := consistent_trace capacity acts
    have hlive : ∀ worker ∈ (runOn capacity acts).1.workers,
        .started worker.job worker.cpus (some worker.token) ∈ (runOn capacity acts).2 :=
      fun worker hworker => started_of_live capacity acts hworker
    unfold runOn at ih hr hlive ⊢
    rw [State.trace_concat] at hr ⊢
    rw [passed_append] at hr
    rcases List.mem_append.mp hr with hold | hnew
    · exact (ih r hold).mono act _
    · rcases hc.step_cases act.setup act.move with h | h
      · rw [h] at hnew
        exact absurd hnew List.not_mem_nil
      · exact (hc.owned_of_transition (sourced_runOn capacity acts) hlive h hnew).mono act _

theorem Owned.job_eq_of_honest {acts : List Act} {shown : List Effect} {r : Origin × TestResult}
    (h : Owned acts shown r) (hhonest : Honest acts shown)
    (hembedded : ∀ ticket, r.1 = .embedded ticket → r.2.job = ticket.job) :
    r.2.job = r.1.job := by
  cases h with
  | belongs origin result hjob => exact hjob
  | reported ticket result => exact hembedded ticket rfl
  | pushed token job cpus result exit hstarted hpushed hexit =>
    exact hhonest token job cpus result hstarted hpushed

/-- Whose job the result of a forked worker is of. It is the job the worker was started for, unless
somebody pushed a result of another job under its token and its process then ended with exit code 0:
then it is the job that the pushed result names. If everything that is pushed under the token of a
job is a result of that job, each result of a forked worker belongs to its job; and if embedded
runners do not misreport either, the jobs that own the results of a run are those handed over. -/
theorem result_owner (capacity : Nat) (acts : List Act) :
    let run := runOn capacity acts
    (∀ token job result, (.forked token job, result) ∈ passed run.2 →
      result.job = job ∨ ∃ cpus pushed exit, .started job cpus (some token) ∈ run.2 ∧
        Requested (.push token pushed) acts ∧ exit.ending = .exited 0 ∧
        result = Worker.ownResult pushed exit ∧ result.job = pushed.job) ∧
    (Honest acts run.2 →
      (∀ token job result, (.forked token job, result) ∈ passed run.2 → result.job = job) ∧
      ∀ before during setup jobs, acts = before ++ ⟨setup, .submit jobs⟩ :: during →
        (∀ act ∈ before, act.move.jobs? = none) → (∀ act ∈ during, act.move.jobs? = none) →
        run.1.phase = .terminated →
        (∀ ticket result, (.embedded ticket, result) ∈ passed run.2 → result.job = ticket.job) →
          (run.1.log.results.map TestResult.job).Perm jobs) := by
  intro run
  have howned : ∀ r ∈ passed run.2, Owned acts run.2 r := owned_runOn capacity acts
  refine ⟨fun token job result hmem => ?_, fun hhonest => ⟨fun token job result hmem => ?_, ?_⟩⟩
  · -- nothing is assumed of the peers
    have h := howned _ hmem
    generalize hr : ((.forked token job, result) : Origin × TestResult) = r at h
    cases h with
    | belongs origin other hjob =>
      obtain ⟨rfl, rfl⟩ := Prod.mk.inj hr
      exact .inl hjob
    | reported ticket other => exact absurd (Prod.mk.inj hr).1 nofun
    | pushed name other cpus handed exit hstarted hpushed hexit =>
      obtain ⟨horigin, rfl⟩ := Prod.mk.inj hr
      obtain ⟨rfl, rfl⟩ := Origin.forked.inj horigin
      exact .inr ⟨cpus, handed, exit, hstarted, hpushed, hexit, rfl, rfl⟩
  · exact (howned _ hmem).job_eq_of_honest hhonest nofun
  · -- neither peers nor runners misreport
    rintro before during setup jobs rfl hbefore hduring hreturned hembedded
    have hc : Consistent run.1 (outstanding run.2) := consistent_trace capacity _
    have hledger : Ledger capacity jobs run.1 (passed run.2) :=
      ledger_run capacity setup jobs hbefore hduring
    have hlog : run.1.log.results = (passed run.2).map Prod.snd := log_trace capacity _
    obtain ⟨hjobs, -⟩ := hledger.returned hc hlog hreturned
    have hsame : run.1.log.results.map TestResult.job =
        (passed run.2).map fun r => r.1.job := by
      rw [hlog, List.map_map]
      refine List.map_congr_left fun r hr => ?_
      refine (howned r hr).job_eq_of_honest hhonest fun ticket horigin => ?_
      exact hembedded ticket r.2 (horigin ▸ hr)
    exact hsame ▸ hjobs

/-! ## An honest peer, and one that is not -/

/-- A run of the forked sample job whose peer pushes a result. -/
def pushingActs (result : TestResult) : List Act :=
  ⟨sampleSetup, .submit [forkedJob]⟩ :: [.dispatch, .request (.push "fork-token-1" result), .handle,
    .exit "fork-token-1" (.silent (.exited 0)), .reap ["fork-token-1"], .drain,
    .close ⟨1, 0⟩].map (Act.mk sampleSetup)

/-- A result of the forked sample job. -/
def forkedResult : TestResult := { job := forkedJob, status := .normal }

theorem honest_sample :
    Honest (pushingActs forkedResult) (runOn 2 (pushingActs forkedResult)).2 := by
  rintro token job cpus result hstarted ⟨act, hact, hmove⟩
  have hlaunched : launched (runOn 2 (pushingActs forkedResult)).2 = [forkedJob] := by
    decide +kernel
  have hjob : job ∈ launched (runOn 2 (pushingActs forkedResult)).2 :=
    List.mem_filterMap.mpr ⟨_, hstarted, rfl⟩
  rw [hlaunched, List.mem_singleton] at hjob
  simp only [pushingActs, List.map_cons, List.map_nil, List.mem_cons, List.not_mem_nil,
    or_false] at hact
  rcases hact with rfl | rfl | rfl | rfl | rfl | rfl | rfl | rfl <;> cases hmove
  exact hjob.symm

theorem result_owner_sample :
    let run := runOn 2 (pushingActs forkedResult)
    run.1.phase = .terminated ∧ Honest (pushingActs forkedResult) run.2 ∧
      (run.1.log.results.map TestResult.job).Perm [forkedJob] := by
  intro run
  have hreturned : run.1.phase = .terminated := by decide +kernel
  have horigins : ∀ r ∈ passed run.2, r.1.mode? = some .forked := by decide +kernel
  obtain ⟨-, hhonest⟩ := result_owner 2 (pushingActs forkedResult)
  obtain ⟨-, hjobs⟩ := hhonest honest_sample
  refine ⟨hreturned, honest_sample, hjobs [] _ sampleSetup [forkedJob] rfl (by decide) (by decide)
    hreturned fun ticket result hmem => ?_⟩
  exact absurd (horigins _ hmem) nofun

/-- A result of a job that nobody has handed over. -/
def foreignResult : TestResult := { job := { forkedJob with name := "other" }, status := .normal }

/-- A peer can have a result of another job passed on for its worker. The run counts as clean, and
the job that was handed over owns no result. -/
theorem result_of_another_job :
    let run := runOn 2 (pushingActs foreignResult)
    run.1.phase = .terminated ∧
      passed run.2 = [(.forked "fork-token-1" forkedJob, foreignResult)] ∧
      foreignResult.job ≠ forkedJob ∧
      ¬ (run.1.log.results.map TestResult.job).Perm [forkedJob] ∧
      run.1.summary.isClean = true := by
  decide +kernel

end StressBatch.Scheduler
