import StressBatch.Proofs.Scheduler.Ownership
import StressBatch.Proofs.Worker.Report

/-!
# Requests that are refused

A request under a token that names no live worker, a second result for a live worker and a second
pull of its job come to nothing. `Refused` lists them; handling one of them takes it out of the
queue and may note a breach of the protocol, and changes nothing else. So the result that a worker
was handed first is the only one that can ever be passed on for it.
-/

namespace StressBatch.Scheduler

/-- A request that is refused, or for which there is nothing to do: the breach of the protocol that
is noted because of it, if any, and how it is answered. -/
inductive Refused (s : State) : Event → Option Violation → List Effect → Prop where
  /-- A pull under a token that names no live worker. -/
  | unknownPull (token : Token) (hworker : s.worker? token = none) :
    Refused s (.pull token) (some ⟨token, .unknownToken⟩)
      [.pulled token (.error (.unknownToken token))]
  /-- A result under a token that names no live worker. -/
  | unknownPush (token : Token) (result : TestResult) (hworker : s.worker? token = none) :
    Refused s (.push token result) (some ⟨token, .unknownToken⟩)
      [.pushed token (.error (.unknownToken token))]
  /-- The killing of a worker that is not live. -/
  | unknownKill (token : Token) (hworker : s.worker? token = none) :
    Refused s (.kill token) none []
  /-- A pull of a job that has been handed out. -/
  | pulledAgain (token : Token) (worker : Worker) (hworker : s.worker? token = some worker)
      (htaken : worker.jobTaken = true) :
    Refused s (.pull token) none [.pulled token (.ok none)]
  /-- A result for a live worker that has one. -/
  | pushedAgain (token : Token) (result earlier : TestResult) (worker : Worker)
      (hworker : s.worker? token = some worker) (hslot : worker.slot = .delivered earlier) :
    Refused s (.push token result) (some ⟨token, .publishedTwice⟩)
      [.pushed token (.error (.protocol (Violation.message ⟨token, .publishedTwice⟩)))]

/-- A request that is granted, and how it is answered. -/
inductive Granted (s : State) : Event → List Effect → Prop where
  /-- The job of a live worker is handed out. -/
  | job (token : Token) (worker : Worker) (hworker : s.worker? token = some worker)
      (htaken : worker.jobTaken = false) :
    Granted s (.pull token) [.pulled token (.ok (some worker.job))]
  /-- A live worker that has no result is handed one. -/
  | takenIn (token : Token) (result : TestResult) (worker : Worker)
      (hworker : s.worker? token = some worker) (hslot : worker.slot = .pending) :
    Granted s (.push token result) [.pushed token (.ok ())]
  /-- A live worker is killed. -/
  | killed (token : Token) (worker : Worker) (hworker : s.worker? token = some worker) :
    Granted s (.kill token) []

section Requests

variable {s after : State} {held : List Ticket} {acts : List Act} {setup : Setup} {move : Move}
  {token : Token} {event : Event} {rest : List Event} {noted : Option Violation}
  {shown new : List Effect} {result : TestResult}

/-! ## What a refused request changes -/

/-- A refused request leaves the queue, and a breach may be noted; nothing else changes. -/
theorem step_of_refused (hs : s.liveTokens.Nodup) (hphase : s.phase.isActive = true)
    (hqueue : s.queue = event :: rest) (h : Refused s event noted shown) :
    s.step setup .handle =
      ({ s with
          queue := rest
          summary := { s.summary with
            violations := s.summary.violations ++ noted.toList } }, shown) := by
  have hlive : ∀ token, State.worker? { s with queue := rest } token = s.worker? token :=
    fun _ => rfl
  have hnothing : s.summary.violations ++ (none : Option Violation).toList =
      s.summary.violations := List.append_nil _
  rw [State.step_handle hphase hqueue]
  cases h with
  | unknownPull token hworker =>
    simp only [State.handleEvent, hlive, hworker]
    rfl
  | unknownPush token result hworker =>
    simp only [State.handleEvent, hlive, hworker]
    rfl
  | unknownKill token hworker =>
    have hsame : State.updateWorker { s with queue := rest } token Worker.kill =
        { s with queue := rest } := by
      refine State.updateWorker_eq_self fun worker hmem htoken => ?_
      exact absurd (htoken ▸ List.mem_map_of_mem hmem) (State.worker?_eq_none hworker)
    rw [State.handleEvent, hsame, hnothing]
  | pulledAgain token worker hworker htaken =>
    have htake : worker.takeJob = (none, worker) := if_pos htaken
    have hsame : State.updateWorker { s with queue := rest } token (fun w => w.takeJob.2) =
        { s with queue := rest } := by
      refine State.updateWorker_eq_self fun other hmem htoken => ?_
      have hfound := State.worker?_of_mem hs hmem
      obtain rfl : other = worker := Option.some.inj (hfound.symm.trans (htoken ▸ hworker))
      rw [htake]
    simp only [State.handleEvent, hlive, hworker]
    rw [hsame, hnothing, htake]
  | pushedAgain token result earlier worker hworker hslot =>
    obtain ⟨-, rfl⟩ := State.token_of_worker? hworker
    have hfilled : worker.slot ≠ .pending := by simp [hslot]
    have hrecord := Worker.record_of_ne_pending hfilled result
    simp only [State.handleEvent, hlive, hworker, hrecord]
    rfl

/-! ## Which requests are refused -/

/-- Every request is refused or granted. -/
theorem Sourced.refused_or_granted (hs : Sourced acts s) (hevent : event.isRequest = true) :
    (∃ noted shown, Refused s event noted shown) ∨ ∃ shown, Granted s event shown := by
  cases event with
  | released cpus => contradiction
  | pull token =>
    cases hworker : s.worker? token with
    | none => exact .inl ⟨_, _, .unknownPull token hworker⟩
    | some worker =>
      cases htaken : worker.jobTaken with
      | true => exact .inl ⟨_, _, .pulledAgain token worker hworker htaken⟩
      | false => exact .inr ⟨_, .job token worker hworker htaken⟩
  | push token result =>
    cases hworker : s.worker? token with
    | none => exact .inl ⟨_, _, .unknownPush token result hworker⟩
    | some worker =>
      obtain ⟨recorded, hslot, -⟩ := hs.slots worker (State.token_of_worker? hworker).1
      cases recorded with
      | none => exact .inr ⟨_, .takenIn token result worker hworker hslot⟩
      | some earlier => exact .inl ⟨_, _, .pushedAgain token result earlier worker hworker hslot⟩
  | kill token =>
    cases hworker : s.worker? token with
    | none => exact .inl ⟨_, _, .unknownKill token hworker⟩
    | some worker => exact .inr ⟨_, .killed token worker hworker⟩

theorem shown_of_granted (hphase : s.phase.isActive = true) (hqueue : s.queue = event :: rest)
    (h : Granted s event shown) : (s.step setup .handle).2 = shown := by
  have hlive : ∀ token, State.worker? { s with queue := rest } token = s.worker? token :=
    fun _ => rfl
  rw [State.step_handle hphase hqueue]
  cases h with
  | job token worker hworker htaken =>
    have htake : worker.takeJob.1 = some worker.job := by
      unfold Worker.takeJob
      rw [htaken]
      rfl
    simp only [State.handleEvent, hlive, hworker, htake]
  | takenIn token result worker hworker hslot =>
    simp only [State.handleEvent, hlive, hworker, Worker.record_of_pending hslot]
  | killed token worker hworker => rfl

/-- Whatever is requested under the token is refused, since it names no live worker. -/
def Spurned (s : State) (token : Token) : Prop :=
  Refused s (.pull token) (some ⟨token, .unknownToken⟩)
      [.pulled token (.error (.unknownToken token))] ∧
    (∀ result, Refused s (.push token result) (some ⟨token, .unknownToken⟩)
      [.pushed token (.error (.unknownToken token))]) ∧
    Refused s (.kill token) none []

/-! ## The result that is passed on -/

/-- What can be passed on for a job whose worker has been handed a result: that result, if the
process ended with exit code 0, and else one that only says what went wrong. -/
inductive Forwarded (result : TestResult) (job : Job) : TestResult → Prop where
  /-- The result that was handed over, with the output of the process. -/
  | own (exit : Exit) (hclean : exit.ending = .exited 0) :
    Forwarded result job (Worker.ownResult result exit)
  /-- A result that is made up. -/
  | madeUp (lines : List String) : Forwarded result job (.failure job .vmError lines)

/-- The worker of a token, if it is live, has been handed this result. -/
def Handed (token : Token) (result : TestResult) (s : State) : Prop :=
  ∀ worker, s.worker? token = some worker → worker.slot = .delivered result

theorem forwarded_of_due {worker : Worker} {process : Process} {r : Origin × TestResult}
    (hphase : worker.phase = .started process) (hslot : worker.slot = .delivered result)
    (hdue : due? worker = some r) : Forwarded result worker.job r.2 := by
  unfold due? owed? at hdue
  cases hover : process.isOver with
  | false =>
    rw [Worker.check_of_running hphase hover] at hdue
    contradiction
  | true =>
    have hdelivered : worker.slot = Worker.slotOf (some result) := hslot
    obtain ⟨passed, -, hcompletion⟩ := Worker.completion_of_check hphase hover hdelivered
    generalize worker.check.2 = found at hdue hcompletion
    cases hcompletion with
    | passed exit own hclean hrecorded =>
      obtain rfl := Option.some.inj hrecorded
      obtain rfl := Option.some.inj hdue
      exact .own exit (Worker.isClean_iff.mp hclean)
    | violated exit hclean hrecorded => contradiction
    | crashed exit hcrashed =>
      obtain rfl := Option.some.inj hdue
      rw [TestResult.addMessages_failure, TestResult.addMessages_failure]
      exact .madeUp _
    | refused fault =>
      obtain rfl := Option.some.inj hdue
      exact .madeUp _
    | lost fault =>
      obtain rfl := Option.some.inj hdue
      exact .madeUp _

/-- A process that ends with exit code 0 has the result passed on that its worker was handed. -/
theorem due_of_recorded {worker : Worker} {exit : Exit}
    (hphase : worker.phase = .started (.ended exit)) (hclean : exit.ending = .exited 0)
    (hslot : worker.slot = .delivered result) :
    due? worker = some (.forked worker.token worker.job, Worker.ownResult result exit) := by
  unfold due?
  rw [Worker.check_of_recorded hphase hclean hslot]
  rfl

/-- No step replaces a result that has been handed over. -/
theorem Dealing.handed {step : Dealings} (hd : Dealing token s after step)
    (hissued : Issued token s) (h : Handed token result s) : Handed token result after := by
  intro later hlater
  cases hd with
  | apart hsame hworker =>
    rw [hlater] at hworker
    generalize hnow : s.worker? token = now at hworker
    cases hworker with
    | @some worker found halike => exact halike.slot_eq.trans (h worker hnow)
  | started ticket hnew hafter hworker => contradiction
  | pulled worker hsame hworker hafter =>
    obtain rfl := Option.some.inj (hafter.symm.trans hlater)
    exact worker.takeJob_slot.trans (h worker hworker)
  | pushed worker recorded other hsame hworker hrecord hafter =>
    obtain ⟨hpending, -⟩ := Worker.record_eq_ok hrecord
    exact absurd (hpending.symm.trans (h worker hworker)) nofun
  | harvested worker hsame hworker hafter => exact absurd (hafter.symm.trans hlater) nofun

/-- What a step passes on for the worker of a token that has been handed a result. -/
theorem Consistent.forwarded (hc : Consistent s held) (hissued : Issued token s)
    (hhanded : Handed token result s) (h : Transition setup s move after new) {job : Job}
    {r : TestResult} (hr : (.forked token job, r) ∈ passed new) : Forwarded result job r := by
  have hpassed := hc.passedOn h hr
  generalize hpair : ((.forked token job, r) : Origin × TestResult) = pair at hpassed
  cases hpassed with
  | refused other reason => exact absurd (Prod.mk.inj hpair).1 nofun
  | embedded ticket other => exact absurd (Prod.mk.inj hpair).1 nofun
  | unprepared other fault =>
    obtain ⟨rfl, -⟩ := Origin.forked.inj (Prod.mk.inj hpair).1
    exact absurd hissued (not_issued_next s)
  | due worker _ hworker hdue =>
    subst hpair
    obtain ⟨process, hphase⟩ := hc.started worker hworker
    have hlive := State.worker?_of_mem hc.nodup_tokens hworker
    rcases hc.owed_cases hworker with ⟨-, hnone⟩ | ⟨-, other, hsome⟩
    · exact absurd (hnone.symm.trans hdue) nofun
    · obtain ⟨horigin, -⟩ := Prod.mk.inj (Option.some.inj (hsome.symm.trans hdue))
      obtain ⟨rfl, rfl⟩ := Origin.forked.inj horigin
      exact forwarded_of_due hphase (hhanded worker hlive) hdue

/-- Once the worker of a token has been handed a result, it keeps that result as long as it is live,
and nothing else but a result that is made up is passed on for it. -/
theorem Consistent.forwarded_trace (hc : Consistent s held) (hissued : Issued token s)
    (hhanded : Handed token result s) (more : List Act) :
    Handed token result (s.trace more).1 ∧
      ∀ job r, (.forked token job, r) ∈ passed (s.trace more).2 → Forwarded result job r := by
  have hall : Issued token (s.trace more).1 ∧ Handed token result (s.trace more).1 ∧
      ∀ job r, (.forked token job, r) ∈ passed (s.trace more).2 → Forwarded result job r := by
    refine hc.trace_induction (P := fun t shown => Issued token t ∧ Handed token result t ∧
      ∀ job r, (.forked token job, r) ∈ passed shown → Forwarded result job r)
      ⟨hissued, hhanded, fun _ _ hr => absurd hr List.not_mem_nil⟩ ?_
    rintro act before after active shown new - hbetween h ⟨hold, hkept, hforwarded⟩
    refine ⟨issued_kept hold h, (hbetween.dealing h).handed hold hkept, fun job r hr => ?_⟩
    rw [passed_append] at hr
    rcases List.mem_append.mp hr with hbefore | hnew
    · exact hforwarded job r hbefore
    · exact hbetween.forwarded hold hkept h hnew
  exact hall.2

/-- The result of a push that is granted is the one that its worker then has. -/
theorem Consistent.handed_of_granted (hc : Consistent s held) (hphase : s.phase.isActive = true)
    (hqueue : s.queue = .push token result :: rest)
    (h : Granted s (.push token result) shown) :
    Handed token result (s.step setup .handle).1 ∧
      token ∈ (s.step setup .handle).1.liveTokens := by
  cases h with
  | takenIn token result worker hworker hslot =>
    have hrecord := Worker.record_of_pending hslot result
    have hafter : (s.step setup .handle).1.worker? token =
        some { worker with slot := .delivered result } := by
      have hlive : State.worker? { s with queue := rest } token = s.worker? token := rfl
      rw [State.step_handle hphase hqueue]
      simp only [State.handleEvent, hlive, hworker, hrecord]
      exact worker?_of_token_eq (s := { s with queue := rest })
        (hc.keeps_recorded hworker hrecord) hworker
    refine ⟨fun later hlater => ?_, State.mem_liveTokens_of_worker? hafter⟩
    obtain rfl := Option.some.inj (hafter.symm.trans hlater)
    rfl

end Requests

/-- What a refused request changes in a run. It is taken out of the queue, and a breach is noted if
it bears a token that names no live worker, or hands a second result over; a second pull, and the
killing of a worker that is not live, leave no trace at all. Refused are the requests under a token
that has not been issued or whose worker has been harvested, a pull of a job that has been handed
out and a result for a worker that has been handed one; every other request is granted. And once a
result has been taken in, it is the one that its worker keeps, and that is passed on if the process
ends with exit code 0; nothing but a result that is made up can be passed on in its stead. -/
theorem refused_requests_change_nothing (capacity : Nat) (acts : List Act) :
    let run := runOn capacity acts
    let happened (token : Token) := dealings token run.2
    -- what is changed
    (∀ setup event rest noted shown, run.1.phase.isActive = true → run.1.queue = event :: rest →
      Refused run.1 event noted shown →
      run.1.step setup .handle =
        ({ run.1 with
            queue := rest
            summary := { run.1.summary with
              violations := run.1.summary.violations ++ noted.toList } }, shown)) ∧
    -- what is refused
    (∀ token, token ∉ issuedTokens run.2 ∨ (happened token).harvests ≠ [] →
      Spurned run.1 token) ∧
    (∀ token worker, run.1.worker? token = some worker →
      ((happened token).handedOut ≠ [] →
        Refused run.1 (.pull token) none [.pulled token (.ok none)]) ∧
      ((happened token).takenIn ≠ 0 → ∀ result,
        Refused run.1 (.push token result) (some ⟨token, .publishedTwice⟩)
          [.pushed token (.error (.protocol (Violation.message ⟨token, .publishedTwice⟩)))])) ∧
    (∀ setup event rest, run.1.phase.isActive = true → run.1.queue = event :: rest →
      event.isRequest = true →
      (∃ noted, Refused run.1 event noted (run.1.step setup .handle).2) ∨
        Granted run.1 event (run.1.step setup .handle).2) ∧
    -- what is passed on
    ∀ setup rest token result, run.1.phase.isActive = true →
      run.1.queue = .push token result :: rest →
      (run.1.step setup .handle).2 = [.pushed token (.ok ())] → ∀ more,
      let later := (run.1.step setup .handle).1.trace more
      Handed token result later.1 ∧
      (∀ job r, (.forked token job, r) ∈ passed later.2 → Forwarded result job r) ∧
      ∀ order worker exit, later.1.phase.isActive = true → order.Perm later.1.liveTokens →
        later.1.worker? token = some worker → worker.phase = .started (.ended exit) →
        exit.ending = .exited 0 →
        (.forked token worker.job, Worker.ownResult result exit) ∈
          passed (later.1.step setup (.reap order)).2 := by
  intro run happened
  have hc : Consistent run.1 (outstanding run.2) := consistent_trace capacity acts
  have hs : Sourced acts run.1 := sourced_runOn capacity acts
  have hdecided : ∀ setup event rest, run.1.phase.isActive = true →
      run.1.queue = event :: rest → event.isRequest = true →
      (∃ noted, Refused run.1 event noted (run.1.step setup .handle).2) ∨
        Granted run.1 event (run.1.step setup .handle).2 := by
    intro setup event rest hactive hqueue hevent
    rcases hs.refused_or_granted hevent with ⟨noted, shown, h⟩ | ⟨shown, h⟩
    · rw [step_of_refused hc.nodup_tokens hactive hqueue h]
      exact .inl ⟨noted, h⟩
    · rw [shown_of_granted hactive hqueue h]
      exact .inr h
  refine ⟨?_, ?_, ?_, hdecided, ?_⟩
  · -- a refused request
    intro setup event rest noted shown hactive hqueue h
    exact step_of_refused hc.nodup_tokens hactive hqueue h
  · -- tokens that name no live worker
    intro token hgone
    have hnone : run.1.worker? token = none := by
      have hu : Usage token run.1 (happened token) := usage_runOn capacity token acts
      rcases hgone with hnever | hharvested
      · cases hworker : run.1.worker? token with
        | none => rfl
        | some worker =>
          obtain ⟨n, hn, rfl⟩ :=
            hc.issued_tokens token (State.mem_liveTokens_of_worker? hworker)
          refine absurd ?_ hnever
          rw [issuedTokens_runOn]
          exact List.mem_map_of_mem (List.mem_range.mpr hn)
      · exact (hu.gone_of_harvests hharvested).2
    exact ⟨.unknownPull token hnone, fun result => .unknownPush token result hnone,
      .unknownKill token hnone⟩
  · -- live workers
    intro token worker hworker
    have hu : Usage token run.1 (happened token) := usage_runOn capacity token acts
    have hdealt : happened token = dealt worker := (hu.exists_live hworker).2
    obtain ⟨recorded, hslot, -⟩ := hs.slots worker (State.token_of_worker? hworker).1
    rw [hdealt]
    refine ⟨fun hhanded => ?_, fun htaken result => ?_⟩
    · refine .pulledAgain token worker hworker ?_
      by_contra hnot
      exact hhanded (if_neg hnot)
    · cases recorded with
      | none => exact absurd (if_pos hslot) htaken
      | some earlier => exact .pushedAgain token result earlier worker hworker hslot
  · -- the first result
    intro setup rest token result hactive hqueue htaken more later
    have hgranted : Granted run.1 (.push token result) (run.1.step setup .handle).2 := by
      rcases hdecided setup _ rest hactive hqueue rfl with ⟨noted, h⟩ | h
      · rw [htaken] at h
        cases h
      · exact h
    obtain ⟨hhanded, hlive⟩ := hc.handed_of_granted hactive hqueue hgranted
    have hnext : Consistent (run.1.step setup .handle).1
        ((run.1.step setup .handle).2.foldl Effect.hold (outstanding run.2)) :=
      hc.step setup .handle
    obtain ⟨hkept, hforwarded⟩ :=
      hnext.forwarded_trace (hnext.issued_tokens token hlive) hhanded more
    refine ⟨hkept, hforwarded, fun order worker exit hgoing horder hworker hphase hclean => ?_⟩
    have hlater : Consistent later.1 _ := hnext.trace more
    obtain ⟨hmem, rfl⟩ := State.token_of_worker? hworker
    have hdue := due_of_recorded hphase hclean (hkept worker hworker)
    refine (hlater.passed_of_reaping hgoing horder setup).mem_iff.mpr ?_
    exact List.mem_filterMap.mpr ⟨worker, hmem, hdue⟩

/-! ## Two results for one worker -/

/-- A run in whose queue two results for the one worker and the pull of a stranger wait. -/
def pressingActs : List Act :=
  [.submit [forkedJob], .dispatch, .request (.push "fork-token-1" forkedResult),
    .request (.push "fork-token-1" foreignResult),
    .request (.pull "nobody")].map (Act.mk sampleSetup)

theorem refused_requests_change_nothing_pressing :
    let taken := (runOn 2 pressingActs).1.step sampleSetup .handle
    let refused := taken.1.step sampleSetup .handle
    let ended := taken.1.trace ([.handle, .handle,
      .exit "fork-token-1" (.silent (.exited 0))].map (Act.mk sampleSetup))
    taken.2 = [.pushed "fork-token-1" (.ok ())] ∧
      refused.1 = { taken.1 with
        queue := [.pull "nobody"]
        summary := { taken.1.summary with
          violations := [⟨"fork-token-1", .publishedTwice⟩] } } ∧
      (.forked "fork-token-1" forkedJob, Worker.ownResult forkedResult (.silent (.exited 0))) ∈
        passed (ended.1.step sampleSetup (.reap ["fork-token-1"])).2 := by
  intro taken refused ended
  have hacts : runOn 2 (pressingActs ++ [⟨sampleSetup, .handle⟩]) =
      (taken.1, (runOn 2 pressingActs).2 ++ taken.2) := State.trace_concat _ _ _
  obtain ⟨-, -, -, -, hfirst⟩ := refused_requests_change_nothing 2 pressingActs
  obtain ⟨hchange, -, hlive, -⟩ :=
    refused_requests_change_nothing 2 (pressingActs ++ [⟨sampleSetup, .handle⟩])
  rw [hacts] at hchange hlive
  have htaken : taken.2 = [.pushed "fork-token-1" (.ok ())] := rfl
  refine ⟨htaken, ?_, ?_⟩
  · -- the second result
    have hworker : ∃ worker, taken.1.worker? "fork-token-1" = some worker :=
      Option.isSome_iff_exists.mp (by decide +kernel)
    obtain ⟨worker, hworker⟩ := hworker
    have hrefused := (hlive "fork-token-1" worker hworker).2 (by decide +kernel) foreignResult
    have hqueue : taken.1.queue =
        [.push "fork-token-1" foreignResult, .pull "nobody"] := by decide +kernel
    have hnone : taken.1.summary.violations = [] := by decide +kernel
    have hstep := hchange sampleSetup _ _ _ _ (by decide +kernel) hqueue hrefused
    rw [hnone] at hstep
    exact congrArg Prod.fst hstep
  · -- the end of the process
    have hqueue : (runOn 2 pressingActs).1.queue = [.push "fork-token-1" forkedResult,
        .push "fork-token-1" foreignResult, .pull "nobody"] := by decide +kernel
    obtain ⟨-, -, hreap⟩ := hfirst sampleSetup _ _ _ (by decide +kernel) hqueue htaken
      ([.handle, .handle, .exit "fork-token-1" (.silent (.exited 0))].map (Act.mk sampleSetup))
    have hended : (ended.1.worker? "fork-token-1").map (fun worker => (worker.phase, worker.job)) =
        some (.started (.ended (.silent (.exited 0))), forkedJob) := by decide +kernel
    obtain ⟨worker, hworker, hpair⟩ := Option.map_eq_some_iff.mp hended
    obtain ⟨hphase, hjob⟩ := Prod.mk.inj hpair
    rw [← hjob]
    exact hreap ["fork-token-1"] worker _ (by decide +kernel) (by decide +kernel) hworker hphase rfl

end StressBatch.Scheduler
