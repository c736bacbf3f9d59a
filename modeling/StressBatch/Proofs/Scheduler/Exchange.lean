import StressBatch.Proofs.Scheduler.Dealings

/-!
# What a token is good for

A token is issued once, for one job, and names at most one worker. Under it the job is handed out
once and one result is taken in, whoever asks and in whatever order. Once its worker has been
harvested it is good for nothing, so a late request reaches nobody.
-/

namespace StressBatch.Scheduler

section Requests

variable {token : Token} {s after : State} {new : List Effect} {held : List Ticket}
  {setup : Setup} {move : Move}

/-! ## Answers -/

/-- The token of the request that an effect answers. -/
def Effect.answered? : Effect → Option Token
  | .pulled token _ => some token
  | .pushed token _ => some token
  | _ => none

/-- How a request under a token is answered. -/
inductive Answered (token : Token) (s : State) : Effect → Prop where
  | job (worker : Worker) (hworker : s.worker? token = some worker) :
    Answered token s (.pulled token (.ok worker.takeJob.1))
  | takenIn (worker : Worker) (hworker : s.worker? token = some worker)
      (hslot : worker.slot = .pending) : Answered token s (.pushed token (.ok ()))
  | turnedDown (worker : Worker) (hworker : s.worker? token = some worker)
      (hslot : worker.slot ≠ .pending) :
    Answered token s
      (.pushed token (.error (.protocol (Violation.message ⟨token, .publishedTwice⟩))))
  | unknownPull (hworker : s.worker? token = none) :
    Answered token s (.pulled token (.error (.unknownToken token)))
  | unknownPush (hworker : s.worker? token = none) :
    Answered token s (.pushed token (.error (.unknownToken token)))

theorem not_answered_of_reap {checked endings : List (Worker × Checked)} {effect : Effect}
    (h : effect ∈ checked.filterMap State.reportEffect? ++ endings.flatMap harvestEffects) :
    effect.answered? = none := by
  cases ofReap_of_mem h <;> rfl

/-- Every answer is one of the listed ones, and the workers of other tokens are left alone. -/
theorem Consistent.answered (hc : Consistent s held) (h : Transition setup s move after new)
    {effect : Effect} (hmem : effect ∈ new) (htoken : effect.answered? = some token) :
    Answered token s effect ∧ ∀ other, other ≠ token → after.worker? other = s.worker? other := by
  cases h with
  | pulled asked rest worker hphase hqueue hworker =>
    obtain rfl := List.mem_singleton.mp hmem
    obtain rfl : asked = token := Option.some.inj htoken
    exact ⟨.job worker hworker, fun other hne =>
      worker?_of_token_ne (fun w _ _ => w.keeps_takeJob) hne⟩
  | pulledUnknown asked rest hphase hqueue hworker =>
    obtain rfl := List.mem_singleton.mp hmem
    obtain rfl : asked = token := Option.some.inj htoken
    exact ⟨.unknownPull hworker, fun other hne => rfl⟩
  | pushed asked result rest worker recorded hphase hqueue hworker hrecord =>
    obtain rfl := List.mem_singleton.mp hmem
    obtain rfl : asked = token := Option.some.inj htoken
    obtain ⟨hslot, -⟩ := Worker.record_eq_ok hrecord
    exact ⟨.takenIn worker hworker hslot, fun other hne =>
      worker?_of_token_ne (hc.keeps_recorded hworker hrecord) hne⟩
  | pushedAgain asked result rest worker violation hphase hqueue hworker hrecord =>
    obtain rfl := List.mem_singleton.mp hmem
    obtain rfl : asked = token := Option.some.inj htoken
    obtain ⟨hslot, rfl⟩ := Worker.record_eq_error hrecord
    obtain ⟨-, rfl⟩ := State.token_of_worker? hworker
    exact ⟨.turnedDown worker hworker hslot, fun other hne => rfl⟩
  | pushedUnknown asked result rest hphase hqueue hworker =>
    obtain rfl := List.mem_singleton.mp hmem
    obtain rfl : asked = token := Option.some.inj htoken
    exact ⟨.unknownPush hworker, fun other hne => rfl⟩
  | reaped order layout hphase horder hrelease =>
    rw [not_answered_of_reap hmem] at htoken
    contradiction
  | resubmitted jobs hphase =>
    obtain ⟨job, -, rfl⟩ := List.mem_map.mp hmem
    contradiction
  | endedAtOnce job rest cpus layout result phase hphase hpending hreason hdispatch hacquire
      hrunner =>
    rcases List.mem_pair.mp hmem with rfl | rfl <;> contradiction
  | unprepared job rest cpus layout fault hphase hpending hreason hdispatch hacquire hprepare =>
    rcases List.mem_pair.mp hmem with rfl | rfl <;> contradiction
  | refused job rest reason hphase hpending hreason =>
    obtain rfl := List.mem_singleton.mp hmem
    contradiction
  | kept job rest cpus layout hphase hpending hreason hdispatch hacquire hrunner =>
    obtain rfl := List.mem_singleton.mp hmem
    contradiction
  | forked job rest cpus layout worker hphase hpending hreason hdispatch hacquire hprepare =>
    obtain rfl := List.mem_singleton.mp hmem
    contradiction
  | reclaimed cpus rest layout hphase hqueue hrelease =>
    obtain rfl := List.mem_singleton.mp hmem
    contradiction
  | finished position result ticket hticket =>
    obtain rfl := List.mem_singleton.mp hmem
    contradiction
  | abandoned position ticket hticket =>
    obtain rfl := List.mem_singleton.mp hmem
    contradiction
  | _ => contradiction

/-- A request that is handled is answered. -/
theorem exists_answered (hphase : s.phase.isActive = true) {event : Event} {rest : List Event}
    (hqueue : s.queue = event :: rest) (hcaller : event.caller? = some token) :
    ∃ effect ∈ (s.step setup .handle).2, effect.answered? = some token := by
  have hone : ∃ effect, (State.handleEvent { s with queue := rest } event).2 = [effect] ∧
      effect.answered? = some token := by
    unfold State.handleEvent
    cases event with
    | released cpus => contradiction
    | kill other => contradiction
    | pull other =>
      obtain rfl : other = token := Option.some.inj hcaller
      simp only
      split <;> exact ⟨_, rfl, rfl⟩
    | push other result =>
      obtain rfl : other = token := Option.some.inj hcaller
      simp only
      split
      · split <;> exact ⟨_, rfl, rfl⟩
      · exact ⟨_, rfl, rfl⟩
  obtain ⟨effect, heffect, htoken⟩ := hone
  refine ⟨effect, ?_, htoken⟩
  rw [State.step_handle hphase hqueue, heffect]
  exact List.mem_singleton_self effect

/-- An answer that says that the token names nobody. -/
def Unrecognized (token : Token) (effect : Effect) : Prop :=
  effect = .pulled token (.error (.unknownToken token)) ∨
    effect = .pushed token (.error (.unknownToken token))

theorem Answered.unrecognized {effect : Effect} (h : Answered token s effect)
    (hnone : s.worker? token = none) : Unrecognized token effect := by
  cases h with
  | unknownPull hworker => exact .inl rfl
  | unknownPush hworker => exact .inr rfl
  | job worker hworker => exact absurd (hnone.symm.trans hworker) nofun
  | takenIn worker hworker hslot => exact absurd (hnone.symm.trans hworker) nofun
  | turnedDown worker hworker hslot => exact absurd (hnone.symm.trans hworker) nofun

/-- What a live worker is answered follows from what has happened under its token. -/
theorem Answered.of_live {effect : Effect} {worker : Worker} (h : Answered token s effect)
    (hlive : s.worker? token = some worker) :
    effect = .pulled token (.ok (if (dealt worker).handedOut = [] then some worker.job else none)) ∨
      effect = .pushed token (if (dealt worker).takenIn = 0 then .ok () else
        .error (.protocol (Violation.message ⟨token, .publishedTwice⟩))) := by
  cases h with
  | job found hworker =>
    obtain rfl := Option.some.inj (hlive.symm.trans hworker)
    left
    unfold dealt Worker.takeJob
    by_cases htaken : worker.jobTaken = true
    · simp [htaken]
    · simp [htaken]
  | takenIn found hworker hslot =>
    obtain rfl := Option.some.inj (hlive.symm.trans hworker)
    right
    simp [dealt, hslot]
  | turnedDown found hworker hslot =>
    obtain rfl := Option.some.inj (hlive.symm.trans hworker)
    right
    simp [dealt, hslot]
  | unknownPull hworker =>
    rw [hlive] at hworker
    contradiction
  | unknownPush hworker =>
    rw [hlive] at hworker
    contradiction

/-! ## Runs -/

/-- Once a token that has been issued names nobody, it never names anybody again, and nobody who
uses it is recognized. -/
theorem unrecognized_trace (hc : Consistent s held)
    (hissued : Issued token s) (hnone : s.worker? token = none) (acts : List Act) :
    Issued token (s.trace acts).1 ∧ (s.trace acts).1.worker? token = none ∧
      ∀ effect ∈ (s.trace acts).2, effect.answered? = some token → Unrecognized token effect := by
  have hstart : ∀ effect ∈ ([] : List Effect), effect.answered? = some token →
      Unrecognized token effect := fun effect heffect => absurd heffect List.not_mem_nil
  refine hc.trace_induction (P := fun t shown => Issued token t ∧ t.worker? token = none ∧
    ∀ effect ∈ shown, effect.answered? = some token → Unrecognized token effect)
    ⟨hissued, hnone, hstart⟩ ?_
  rintro act before after active shown new - hbetween h ⟨hbefore, hgone, hanswers⟩
  refine ⟨issued_kept hbefore h, (hbetween.dealing h).worker?_eq_none hbefore hgone, ?_⟩
  intro effect heffect htoken
  rcases List.mem_append.mp heffect with hold | hnew
  · exact hanswers effect hold htoken
  · exact (hbetween.answered h hnew htoken).1.unrecognized hgone

end Requests

/-- What a token is good for in a run, whoever uses it. No token is issued twice, and at most one
job is started under each; the worker of a token is always the one for that job. At most that job
is handed out, once, and at most one result is taken in. What is answered next follows from that,
and leaves the workers of all other tokens alone. Once the worker has been harvested, nobody who
uses the token is recognized, for all time. -/
theorem token_exchange_safe (capacity : Nat) (acts : List Act) (token : Token) :
    let run := runOn capacity acts
    let happened := dealings token run.2
    -- tokens
    (issuedTokens run.2).Nodup ∧
    happened.starts.length ≤ 1 ∧
    (∀ worker, run.1.worker? token = some worker → happened.starts = [worker.ticket]) ∧
    (∀ more worker later, run.1.worker? token = some worker →
      (run.1.trace more).1.worker? token = some later → later.ticket = worker.ticket) ∧
    -- what happens once
    happened.handedOut.Sublist (happened.starts.map Ticket.job) ∧
    happened.takenIn ≤ 1 ∧
    (happened.harvests.map fun c => c.1.ticket).Sublist happened.starts ∧
    -- the next answer
    (∀ setup event rest, run.1.phase.isActive = true → run.1.queue = event :: rest →
      event.caller? = some token →
      ∃ effect ∈ (run.1.step setup .handle).2, effect.answered? = some token) ∧
    (∀ act : Act, ∀ effect ∈ (run.1.step act.setup act.move).2, effect.answered? = some token →
      (∀ worker, run.1.worker? token = some worker →
        effect = .pulled token (.ok (if happened.handedOut = [] then some worker.job else none)) ∨
        effect = .pushed token (if happened.takenIn = 0 then .ok () else
          .error (.protocol (Violation.message ⟨token, .publishedTwice⟩)))) ∧
      (run.1.worker? token = none → Unrecognized token effect) ∧
      ∀ other, other ≠ token →
        (run.1.step act.setup act.move).1.worker? other = run.1.worker? other) ∧
    -- after the harvest
    (happened.harvests ≠ [] → ∀ more,
      (run.1.trace more).1.worker? token = none ∧
      ∀ effect ∈ (run.1.trace more).2, effect.answered? = some token →
        Unrecognized token effect) := by
  intro run happened
  have hc : Consistent run.1 (outstanding run.2) := consistent_trace capacity acts
  have hu : Usage token run.1 happened := usage_runOn capacity token acts
  have hlive : ∀ worker, run.1.worker? token = some worker → happened = dealt worker :=
    fun worker hworker => (hu.exists_live hworker).2
  obtain ⟨hstarts, hjobs, hresults, hharvests⟩ := hu.bounds
  refine ⟨?_, hstarts, ?_, ?_, hjobs, hresults, hharvests, ?_, ?_, ?_⟩
  · -- no token is issued twice
    have hinjective : Function.Injective fun n => State.tokenOf (n + 1) := by
      intro n m h
      have := tokenOf_injective h
      omega
    rw [issuedTokens_runOn]
    exact (List.nodup_range).map hinjective
  · -- a live worker is the one for the job that was started
    intro worker hworker
    rw [hlive worker hworker]
    rfl
  · -- and so it is at any later time
    intro more worker later hworker hlater
    have hall : Usage token (runOn capacity (acts ++ more)).1
        (dealings token (runOn capacity (acts ++ more)).2) := usage_runOn capacity token _
    have hnow : happened.starts = [worker.ticket] := by
      rw [hlive worker hworker]
      rfl
    unfold runOn at hall
    rw [State.trace_append, dealings_append] at hall
    have hthen := congrArg Dealings.starts (hall.exists_live hlater).2
    have hprefix : happened.starts ++ (dealings token (run.1.trace more).2).starts =
        [later.ticket] := hthen
    rw [hnow] at hprefix
    exact (List.cons.inj hprefix).1.symm
  · -- a request that is handled is answered
    intro setup event rest hphase hqueue hcaller
    exact exists_answered hphase hqueue hcaller
  · -- the next answer
    intro act effect heffect htoken
    rcases hc.step_cases act.setup act.move with h | h
    · rw [h] at heffect
      contradiction
    · obtain ⟨hanswered, hothers⟩ := hc.answered h heffect htoken
      refine ⟨?_, hanswered.unrecognized, hothers⟩
      intro worker hworker
      rw [hlive worker hworker]
      exact hanswered.of_live hworker
  · -- after the harvest
    intro hharvested more
    obtain ⟨hissued, hnone⟩ := hu.gone_of_harvests hharvested
    obtain ⟨-, hgone, hanswers⟩ := unrecognized_trace hc hissued hnone more
    exact ⟨hgone, hanswers⟩

end StressBatch.Scheduler
