import StressBatch.Proofs.Scheduler.Bystander

/-!
# The talk with a worker

A worker that behaves well asks for its job and then hands one result over. The talk with it goes
through few stages, since what it asks waits in the queue and is answered in order; when its process
has ended the talk is finished, so whichever reap comes first finds its result.
-/

namespace StressBatch.Scheduler

/-! ## The talk with a worker -/

/-- How far the talk with a worker has come: what it has asked, what of that waits in the queue,
whether its job has been handed out, and where its result is kept. -/
inductive Talk (token : Token) (own : TestResult) :
    List Event → List Event → Bool → ResultSlot → Prop where
  /-- Nothing has been asked. -/
  | silent : Talk token own [] [] false .pending
  /-- The pull waits. -/
  | pulling : Talk token own [.pull token] [.pull token] false .pending
  /-- The pull has been answered. -/
  | working : Talk token own [.pull token] [] true .pending
  /-- The push waits behind the pull. -/
  | hasty : Talk token own [.pull token, .push token own] [.pull token, .push token own] false
      .pending
  /-- The push waits. -/
  | pushing : Talk token own [.pull token, .push token own] [.push token own] true .pending
  /-- The push has been answered. -/
  | served : Talk token own [.pull token, .push token own] [] true (.delivered own)

namespace Talk

variable {token : Token} {own : TestResult} {calls waiting : List Event} {taken : Bool}
  {slot : ResultSlot}

theorem ask (h : Talk token own calls waiting taken slot) {event : Event}
    (hcalls : calls ++ [event] <+: [.pull token, .push token own]) :
    Talk token own (calls ++ [event]) (waiting ++ [event]) taken slot := by
  have hlength := hcalls.length_le
  obtain ⟨rest, hrest⟩ := hcalls
  cases h with
  | silent =>
    obtain ⟨rfl, -⟩ := List.cons.inj hrest
    exact .pulling
  | pulling =>
    obtain ⟨rfl, -⟩ := List.cons.inj (List.cons.inj hrest).2
    exact .hasty
  | working =>
    obtain ⟨rfl, -⟩ := List.cons.inj (List.cons.inj hrest).2
    exact .pushing
  | hasty => simp at hlength
  | pushing => simp at hlength
  | served => simp at hlength

theorem pull_answered {rest : List Event}
    (h : Talk token own calls (.pull token :: rest) taken slot) :
    taken = false ∧ slot = .pending ∧ Talk token own calls rest true slot := by
  cases h with
  | pulling => exact ⟨rfl, rfl, .working⟩
  | hasty => exact ⟨rfl, rfl, .pushing⟩

theorem push_answered {result : TestResult} {rest : List Event}
    (h : Talk token own calls (.push token result :: rest) taken slot) :
    result = own ∧ slot = .pending ∧ Talk token own calls rest taken (.delivered own) := by
  cases h with
  | pushing => exact ⟨rfl, rfl, .served⟩

theorem finished (h : Talk token own calls waiting taken (.delivered own)) :
    calls = [.pull token, .push token own] ∧ waiting = [] := by
  cases h with
  | served => exact ⟨rfl, rfl⟩

end Talk

/-! ## Standing -/

/-- The effect is a favourable answer to what a worker asks. -/
def Effect.Favours (token : Token) (job : Job) (effect : Effect) : Prop :=
  effect = .pulled token (.ok (some job)) ∨ effect = .pushed token (.ok ())

/-- A well-behaved worker that is live: its process runs, or has ended cleanly after the result
came, and all that has been shown under the token are favourable answers. `ended` says of an exit
that the process ended with it. -/
structure Live (token : Token) (job : Job) (own : TestResult) (ended : Exit → Prop)
    (calls : List Event) (s : State) (shown : List Effect) (worker : Worker) : Prop where
  found : s.worker? token = some worker
  job_eq : worker.job = job
  talk : Talk token own calls (callsOf token s.queue) worker.jobTaken worker.slot
  process : (∃ killed, worker.phase = .started (.running killed)) ∨
    ∃ exit, ended exit ∧ exit.ending = .exited 0 ∧ worker.slot = .delivered own ∧
      worker.phase = .started (.ended exit)
  favours : ∀ effect ∈ effectsOf token shown, effect.Favours token job
  answered : ∀ answer, .pushed token answer ∈ shown → worker.slot = .delivered own

/-- A well-behaved worker that has been harvested: all has been asked that there is to ask. What has
been shown under the token are favourable answers, then the worker's own result, and at last that it
was harvested as one that passed. -/
structure Gone (token : Token) (job : Job) (own : TestResult) (ended : Exit → Prop)
    (calls : List Event) (s : State) (shown : List Effect) : Prop where
  no_worker : s.worker? token = none
  no_call : callsOf token s.queue = []
  calls_eq : calls = [.pull token, .push token own]
  shown_eq : ∃ exit answers harvested, ended exit ∧
    (∀ effect ∈ answers, Effect.Favours token job effect) ∧
    harvested.phase = .completed true ∧
    effectsOf token shown = answers ++
      [.passedOn (.forked token job) (Worker.ownResult own exit),
        .harvested harvested (.reported (Worker.ownResult own exit))]

/-- How a well-behaved worker stands: its token has been issued, nothing is held against it, and it
is live or has been harvested. -/
structure Standing (token : Token) (job : Job) (own : TestResult) (ended : Exit → Prop)
    (calls : List Event) (s : State) (shown : List Effect) : Prop where
  issued : ∃ n < s.issued, token = State.tokenOf (n + 1)
  clean : ∀ violation ∈ s.summary.violations, violation.token ≠ token
  status : (∃ worker, Live token job own ended calls s shown worker) ∨
    Gone token job own ended calls s shown

/-- Whether the process of the worker of a token runs. -/
def IsRunning (s : State) (token : Token) : Prop :=
  ∃ worker, s.worker? token = some worker ∧ worker.isRunning = true

section Steps

variable {token : Token} {job : Job} {own : TestResult} {ended : Exit → Prop}
  {calls : List Event} {s after : State} {shown new : List Effect} {worker : Worker}
  {held : List Ticket} {setup : Setup} {move : Move}

theorem isRunning_of_phase {killed : Bool} (h : worker.phase = .started (.running killed)) :
    worker.isRunning = true := by
  unfold Worker.isRunning
  rw [h]
  rfl

theorem mem_effectsOf {effect : Effect} (h : effect ∈ shown) (htoken : effect.token? = some token) :
    effect ∈ effectsOf token shown :=
  List.mem_filter.mpr ⟨h, by simpa using htoken⟩

/-! ## Steps of a live worker -/

/-- What does not concern the worker leaves it as it is. -/
theorem Live.untouched (hl : Live token job own ended calls s shown worker)
    (hu : Untouched token s after new) :
    Live token job own ended calls after (shown ++ new) worker where
  found := hu.worker_eq.trans hl.found
  job_eq := hl.job_eq
  talk := by
    rw [hu.calls_eq]
    exact hl.talk
  process := hl.process
  favours := by
    rw [effectsOf_append, hu.effects_eq, List.append_nil]
    exact hl.favours
  answered := by
    intro answer h
    rcases List.mem_append.mp h with hold | hnew
    · exact hl.answered answer hold
    · have hmem : _ ∈ effectsOf token new := mem_effectsOf hnew rfl
      rw [hu.effects_eq] at hmem
      contradiction

theorem Live.mono (hl : Live token job own ended calls s shown worker) {more : Exit → Prop}
    (h : ∀ exit, ended exit → more exit) : Live token job own more calls s shown worker := by
  refine { hl with process := hl.process.imp_right ?_ }
  rintro ⟨exit, hended, hrest⟩
  exact ⟨exit, h exit hended, hrest⟩

theorem Live.requested (hl : Live token job own ended calls s shown worker) {event : Event}
    (hcaller : event.caller? = some token)
    (hcalls : calls ++ [event] <+: [.pull token, .push token own]) :
    Live token job own ended (calls ++ [event]) { s with queue := s.queue ++ [event] } shown
      worker := by
  refine { hl with talk := ?_ }
  have hone : callsOf token [event] = [event] := by
    unfold callsOf
    rw [List.filter_cons_of_pos (by simpa using hcaller), List.filter_nil]
  rw [callsOf_append, hone]
  exact hl.talk.ask hcalls

theorem callsOf_cons_of_eq {event : Event} (h : event.caller? = some token)
    (rest : List Event) : callsOf token (event :: rest) = event :: callsOf token rest := by
  unfold callsOf
  rw [List.filter_cons_of_pos (by simpa using h)]

/-- The worker's pull is answered with its job. -/
theorem Live.pulled (hl : Live token job own ended calls s shown worker) {rest : List Event}
    (hqueue : s.queue = .pull token :: rest) :
    worker.takeJob.1 = some job ∧
      Live token job own ended calls
        (State.updateWorker { s with queue := rest } token fun w => w.takeJob.2)
        (shown ++ [.pulled token (.ok (some job))]) worker.takeJob.2 := by
  have htalk := hl.talk
  rw [hqueue, callsOf_cons_of_eq rfl] at htalk
  obtain ⟨htaken, hslot, hnext⟩ := htalk.pull_answered
  have htake : worker.takeJob = (some job, { worker with jobTaken := true }) := by
    unfold Worker.takeJob
    rw [htaken, hl.job_eq]
    rfl
  have hfound : (State.updateWorker { s with queue := rest } token fun w => w.takeJob.2).worker?
      token = some worker.takeJob.2 :=
    worker?_of_token_eq (fun w _ _ => Worker.keeps_takeJob w) hl.found
  rw [htake] at hfound ⊢
  refine ⟨rfl, ?_⟩
  refine {
    found := hfound
    job_eq := hl.job_eq
    talk := hnext
    process := hl.process
    favours := ?_
    answered := ?_ }
  · -- favours
    intro effect heffect
    rw [effectsOf_append] at heffect
    rcases List.mem_append.mp heffect with hold | hnew
    · exact hl.favours effect hold
    · exact .inl (List.mem_singleton.mp (List.mem_filter.mp hnew).1)
  · -- answered
    intro answer h
    rcases List.mem_append.mp h with hold | hnew
    · exact hl.answered answer hold
    · simp at hnew

/-- The worker's push is accepted. -/
theorem Live.pushed (hl : Live token job own ended calls s shown worker) {result : TestResult}
    {rest : List Event} (hc : Consistent s held)
    (hqueue : s.queue = .push token result :: rest) :
    ∃ recorded, worker.record result = .ok recorded ∧
      Live token job own ended calls
        (State.updateWorker { s with queue := rest } token fun _ => recorded)
        (shown ++ [.pushed token (.ok ())]) recorded := by
  have htalk := hl.talk
  rw [hqueue, callsOf_cons_of_eq rfl] at htalk
  obtain ⟨rfl, hslot, hnext⟩ := htalk.push_answered
  have hrecord := Worker.record_of_pending hslot result
  refine ⟨_, hrecord, ?_⟩
  have hfound : (State.updateWorker { s with queue := rest } token fun _ =>
      { worker with slot := .delivered result }).worker? token =
      some { worker with slot := .delivered result } :=
    worker?_of_token_eq (hc.keeps_recorded hl.found hrecord) hl.found
  refine {
    found := hfound
    job_eq := hl.job_eq
    talk := hnext
    process := ?_
    favours := ?_
    answered := fun _ _ => rfl }
  · -- process
    refine hl.process.imp_right ?_
    rintro ⟨exit, hended, hclean, -, hphase⟩
    exact ⟨exit, hended, hclean, rfl, hphase⟩
  · -- favours
    intro effect heffect
    rw [effectsOf_append] at heffect
    rcases List.mem_append.mp heffect with hold | hnew
    · exact hl.favours effect hold
    · exact .inr (List.mem_singleton.mp (List.mem_filter.mp hnew).1)

/-- What happens to the worker's process leaves the talk as it is. -/
theorem Live.mapProcess (hl : Live token job own ended calls s shown worker)
    {f : Process → Process} {queue : List Event}
    (hqueue : callsOf token queue = callsOf token s.queue)
    (hprocess : (∃ killed, (worker.mapProcess f).phase = .started (.running killed)) ∨
      ∃ exit, ended exit ∧ exit.ending = .exited 0 ∧ worker.slot = .delivered own ∧
        (worker.mapProcess f).phase = .started (.ended exit)) :
    Live token job own ended calls
      (State.updateWorker { s with queue := queue } token fun w => w.mapProcess f) shown
      (worker.mapProcess f) := by
  have hfound : (State.updateWorker { s with queue := queue } token fun w =>
      w.mapProcess f).worker? token = some (worker.mapProcess f) :=
    worker?_of_token_eq (fun w _ _ => Worker.keeps_mapProcess w f) hl.found
  have hslot : (worker.mapProcess f).slot = worker.slot := by
    unfold Worker.mapProcess
    split <;> rfl
  have htaken : (worker.mapProcess f).jobTaken = worker.jobTaken := by
    unfold Worker.mapProcess
    split <;> rfl
  have hjob : (worker.mapProcess f).job = worker.job :=
    congrArg Ticket.job (Worker.mapProcess_ticket worker f)
  refine {
    found := hfound
    job_eq := hjob.trans hl.job_eq
    talk := ?_
    process := ?_
    favours := hl.favours
    answered := ?_ }
  · -- talk
    rw [hslot, htaken]
    exact hqueue ▸ hl.talk
  · -- process
    rw [hslot]
    exact hprocess
  · -- answered
    rw [hslot]
    exact hl.answered

/-- The worker is killed, and may still end the way it is about to. -/
theorem Live.killed (hl : Live token job own ended calls s shown worker) {rest : List Event}
    (hqueue : s.queue = .kill token :: rest) :
    Live token job own ended calls (State.updateWorker { s with queue := rest } token Worker.kill)
      shown worker.kill := by
  refine hl.mapProcess (by rw [hqueue, callsOf_cons_of_ne (by simp [Event.caller?])]) ?_
  rcases hl.process with ⟨killed, hphase⟩ | ⟨exit, hended, hclean, hslot, hphase⟩
  · exact .inl ⟨true, by rw [Worker.mapProcess_of_started _ hphase]; rfl⟩
  · exact .inr ⟨exit, hended, hclean, hslot, by rw [Worker.mapProcess_of_started _ hphase]; rfl⟩

/-- The process of the worker ends, if it has not ended before. -/
theorem Live.exited (hl : Live token job own ended calls s shown worker) {exit : Exit}
    (hexit : IsRunning s token → ended exit ∧ exit.ending = .exited 0 ∧
      ∃ answer, .pushed token answer ∈ shown) :
    Live token job own ended calls (s.updateWorker token (Worker.finish exit)) shown
      (worker.finish exit) := by
  refine hl.mapProcess (f := Process.finish exit) rfl ?_
  rcases hl.process with ⟨killed, hphase⟩ | ⟨before, hended, hclean, hslot, hphase⟩
  · obtain ⟨hended, hclean, answer, hanswer⟩ :=
      hexit ⟨worker, hl.found, isRunning_of_phase hphase⟩
    exact .inr ⟨exit, hended, hclean, hl.answered answer hanswer, by
      rw [Worker.mapProcess_of_started _ hphase]
      rfl⟩
  · exact .inr ⟨before, hended, hclean, hslot, by
      rw [Worker.mapProcess_of_started _ hphase]
      rfl⟩

/-- The worker's process is not lost sight of while it runs. -/
theorem Live.lost (hl : Live token job own ended calls s shown worker) (fault : IoFault)
    (hlose : ¬ IsRunning s token) :
    Live token job own ended calls (s.updateWorker token (Worker.lose fault)) shown
      (worker.lose fault) := by
  refine hl.mapProcess (f := Process.lose fault) rfl ?_
  rcases hl.process with ⟨killed, hphase⟩ | ⟨exit, hended, hclean, hslot, hphase⟩
  · exact absurd ⟨worker, hl.found, isRunning_of_phase hphase⟩ hlose
  · exact .inr ⟨exit, hended, hclean, hslot, by
      rw [Worker.mapProcess_of_started _ hphase]
      rfl⟩

/-- When the worker is over its process has ended cleanly, and what is reported is its result. -/
theorem Live.check_eq (hl : Live token job own ended calls s shown worker)
    (hover : worker.check.2.isOver = true) :
    ∃ exit, ended exit ∧ worker.slot = .delivered own ∧
      worker.check = ({ worker with slot := .consumed, phase := .completed true },
        .reported (Worker.ownResult own exit)) := by
  rcases hl.process with ⟨killed, hphase⟩ | ⟨exit, hended, hclean, hslot, hphase⟩
  · rw [Worker.check_of_running hphase rfl] at hover
    contradiction
  · refine ⟨exit, hended, hslot, ?_⟩
    unfold Worker.check Worker.conclude
    rw [hphase]
    simp only
    rw [hclean, hslot]
    rfl

/-- The worker is harvested, and its own result is passed on. -/
theorem Live.reaped (hl : Live token job own ended calls s shown worker) (hc : Consistent s held)
    {order : List Token} (horder : order.Perm s.liveTokens) {layout : CpuLayout}
    {log : ResultLog} {summary : Summary Violation} (hover : worker.check.2.isOver = true) :
    Gone token job own ended calls { s with
      layout := layout
      workers := s.workers.filter fun worker => !worker.check.2.isOver
      log := log
      summary := summary }
      (shown ++ ((s.checks order).filterMap State.reportEffect? ++
        (s.endings order).flatMap harvestEffects)) := by
  obtain ⟨exit, hended, hslot, hcheck⟩ := hl.check_eq hover
  have htalk := hl.talk
  rw [hslot] at htalk
  obtain ⟨hcalls, hwaiting⟩ := htalk.finished
  obtain ⟨-, htoken⟩ := State.token_of_worker? hl.found
  refine {
    no_worker := ?_
    no_call := hwaiting
    calls_eq := hcalls
    shown_eq := ⟨exit, effectsOf token shown, worker.check.1, hended, hl.favours, ?_, ?_⟩ }
  · -- no_worker
    refine (worker?_reaped hc.nodup_tokens).trans ?_
    rw [hl.found]
    exact Option.filter_some_neg (by simp [hover])
  · -- the worker passes
    rw [hcheck]
  · -- what is shown
    rw [effectsOf_append, effectsOf_reap hc.nodup_tokens horder, hl.found, Option.map_some, hcheck]
    have hjob := hl.job_eq
    subst hjob htoken
    rfl

/-- No breach of the protocol is noted for the worker when it is harvested. -/
theorem Live.no_violation (hl : Live token job own ended calls s shown worker)
    (hc : Consistent s held) {order : List Token} (horder : order.Perm s.liveTokens)
    (hover : worker.check.2.isOver = true) :
    ∀ violation ∈ (s.endings order).filterMap violation?, violation.token ≠ token := by
  intro violation hviolation htoken
  obtain ⟨checked, hchecked, hfound⟩ := List.mem_filterMap.mp hviolation
  obtain ⟨hin, -⟩ := List.mem_filter.mp hchecked
  obtain ⟨other, hother, rfl⟩ :=
    List.mem_map.mp ((State.checks_perm hc.nodup_tokens horder).mem_iff.mp hin)
  have hsame : violation.token = other.token := hc.token_of_violation hother hfound
  have hlive := State.worker?_of_mem hc.nodup_tokens hother
  rw [← hsame, htoken, hl.found] at hlive
  obtain rfl := Option.some.inj hlive
  obtain ⟨exit, -, -, hcheck⟩ := hl.check_eq hover
  rw [hcheck] at hfound
  contradiction

/-! ## Steps of any worker that behaves well -/

/-- What a well-behaved worker has to do with a move: it asks in order, it ends cleanly after its
push has been answered, and nobody loses sight of it before. -/
structure Proper (token : Token) (own : TestResult) (ended : Exit → Prop) (calls : List Event)
    (s : State) (shown : List Effect) (move : Move) : Prop where
  call : ∀ event, move = .request event → event.caller? = some token →
    calls ++ [event] <+: [.pull token, .push token own]
  exit : ∀ exit, move = .exit token exit → IsRunning s token →
    ended exit ∧ exit.ending = .exited 0 ∧ ∃ answer, .pushed token answer ∈ shown
  lose : ∀ fault, move = .lose token fault → ¬ IsRunning s token

/-- Tokens are issued in order. -/
theorem issued_le_of_transition (h : Transition setup s move after new) :
    s.issued ≤ after.issued := by
  cases h with
  | forked job rest cpus layout worker hphase hpending hreason hdispatch hacquire hprepare =>
    exact Nat.le_succ s.issued
  | unprepared job rest cpus layout fault hphase hpending hreason hdispatch hacquire hprepare =>
    exact Nat.le_succ s.issued
  | _ => exact Nat.le_refl s.issued

theorem issued_kept (hissued : ∃ n < s.issued, token = State.tokenOf (n + 1))
    (h : Transition setup s move after new) :
    ∃ n < after.issued, token = State.tokenOf (n + 1) := by
  obtain ⟨n, hn, rfl⟩ := hissued
  exact ⟨n, Nat.lt_of_lt_of_le hn (issued_le_of_transition h), rfl⟩

/-- A token that has been issued is not issued again. -/
theorem not_next_of_issued (hissued : ∃ n < s.issued, token = State.tokenOf (n + 1)) :
    token ≠ State.tokenOf (s.issued + 1) := by
  obtain ⟨n, hn, rfl⟩ := hissued
  intro h
  have := tokenOf_injective h
  omega

theorem Untouched.clean (hu : Untouched token s after new)
    (hclean : ∀ violation ∈ s.summary.violations, violation.token ≠ token) :
    ∀ violation ∈ after.summary.violations, violation.token ≠ token := by
  intro violation hviolation htoken
  exact hclean violation (hu.violations violation hviolation htoken) htoken

theorem Apart.no_call (ha : Apart token s move after) :
    callsOf token move.call?.toList = [] := by
  cases move with
  | request event => exact callsOf_cons_of_ne (ha.call event rfl) []
  | _ => rfl

theorem Gone.apart (hg : Gone token job own ended calls s shown)
    (hp : Proper token own ended calls s shown move)
    (hissue : s.issued < after.issued → token ≠ State.tokenOf (s.issued + 1)) :
    Apart token s move after where
  call := by
    intro event hmove hcaller
    have hlength := (hp.call event hmove hcaller).length_le
    rw [hg.calls_eq] at hlength
    simp at hlength
  handle := by
    intro event rest _ hqueue hcaller
    have hnone := hg.no_call
    rw [hqueue, callsOf_cons_of_eq hcaller] at hnone
    contradiction
  issue := hissue
  live := by
    intro worker hworker
    rw [hg.no_worker] at hworker
    contradiction

theorem Gone.untouched (hg : Gone token job own ended calls s shown)
    (hu : Untouched token s after new) : Gone token job own ended calls after (shown ++ new) where
  no_worker := hu.worker_eq.trans hg.no_worker
  no_call := hu.calls_eq.trans hg.no_call
  calls_eq := hg.calls_eq
  shown_eq := by
    rw [effectsOf_append, hu.effects_eq, List.append_nil]
    exact hg.shown_eq

/-- The worker's pull is handled. -/
theorem Live.next_pull (hl : Live token job own ended calls s shown worker) {rest : List Event}
    (hqueue : s.queue = .pull token :: rest) (h : Transition setup s .handle after new) :
    after.summary.violations = s.summary.violations ∧
      ∃ worker, Live token job own ended calls after (shown ++ new) worker := by
  obtain ⟨htake, hnext⟩ := hl.pulled hqueue
  cases h with
  | pulled other others found hphase hhead hworker =>
    obtain ⟨hevent, rfl⟩ := List.cons.inj (hqueue.symm.trans hhead)
    obtain rfl := Event.pull.inj hevent
    obtain rfl := Option.some.inj (hl.found.symm.trans hworker)
    rw [htake]
    exact ⟨rfl, _, hnext⟩
  | pulledUnknown other others hphase hhead hworker =>
    obtain ⟨hevent, rfl⟩ := List.cons.inj (hqueue.symm.trans hhead)
    obtain rfl := Event.pull.inj hevent
    rw [hl.found] at hworker
    contradiction
  | pushed other result others found recorded hphase hhead hworker hrecord =>
    simp [hqueue] at hhead
  | pushedAgain other result others found violation hphase hhead hworker hrecord =>
    simp [hqueue] at hhead
  | pushedUnknown other result others hphase hhead hworker => simp [hqueue] at hhead
  | reclaimed cpus others layout hphase hhead hrelease => simp [hqueue] at hhead
  | killed other others hphase hhead => simp [hqueue] at hhead

/-- The worker's push is handled. -/
theorem Live.next_push (hl : Live token job own ended calls s shown worker)
    (hc : Consistent s held) {result : TestResult} {rest : List Event}
    (hqueue : s.queue = .push token result :: rest) (h : Transition setup s .handle after new) :
    after.summary.violations = s.summary.violations ∧
      ∃ worker, Live token job own ended calls after (shown ++ new) worker := by
  obtain ⟨expected, haccept, hnext⟩ := hl.pushed hc hqueue
  cases h with
  | pushed other given others found recorded hphase hhead hworker hrecord =>
    obtain ⟨hevent, rfl⟩ := List.cons.inj (hqueue.symm.trans hhead)
    obtain ⟨rfl, rfl⟩ := Event.push.inj hevent
    obtain rfl := Option.some.inj (hl.found.symm.trans hworker)
    obtain rfl := Except.ok.inj (haccept.symm.trans hrecord)
    exact ⟨rfl, _, hnext⟩
  | pushedAgain other given others found violation hphase hhead hworker hrecord =>
    obtain ⟨hevent, rfl⟩ := List.cons.inj (hqueue.symm.trans hhead)
    obtain ⟨rfl, rfl⟩ := Event.push.inj hevent
    obtain rfl := Option.some.inj (hl.found.symm.trans hworker)
    rw [haccept] at hrecord
    contradiction
  | pushedUnknown other given others hphase hhead hworker =>
    obtain ⟨hevent, rfl⟩ := List.cons.inj (hqueue.symm.trans hhead)
    obtain ⟨rfl, rfl⟩ := Event.push.inj hevent
    rw [hl.found] at hworker
    contradiction
  | pulled other others found hphase hhead hworker => simp [hqueue] at hhead
  | pulledUnknown other others hphase hhead hworker => simp [hqueue] at hhead
  | reclaimed cpus others layout hphase hhead hrelease => simp [hqueue] at hhead
  | killed other others hphase hhead => simp [hqueue] at hhead

/-- The worker is killed. -/
theorem Live.next_kill (hl : Live token job own ended calls s shown worker) {rest : List Event}
    (hqueue : s.queue = .kill token :: rest) (h : Transition setup s .handle after new) :
    after.summary.violations = s.summary.violations ∧
      ∃ worker, Live token job own ended calls after (shown ++ new) worker := by
  cases h with
  | killed other others hphase hhead =>
    obtain ⟨hevent, rfl⟩ := List.cons.inj (hqueue.symm.trans hhead)
    obtain rfl := Event.kill.inj hevent
    rw [List.append_nil]
    exact ⟨rfl, _, hl.killed hqueue⟩
  | pulled other others found hphase hhead hworker => simp [hqueue] at hhead
  | pulledUnknown other others hphase hhead hworker => simp [hqueue] at hhead
  | pushed other given others found recorded hphase hhead hworker hrecord =>
    simp [hqueue] at hhead
  | pushedAgain other given others found violation hphase hhead hworker hrecord =>
    simp [hqueue] at hhead
  | pushedUnknown other given others hphase hhead hworker => simp [hqueue] at hhead
  | reclaimed cpus others layout hphase hhead hrelease => simp [hqueue] at hhead

/-- A live worker that behaves well goes on standing well. -/
theorem Live.next (hl : Live token job own ended calls s shown worker) (hc : Consistent s held)
    (hissued : ∃ n < s.issued, token = State.tokenOf (n + 1))
    (hclean : ∀ violation ∈ s.summary.violations, violation.token ≠ token)
    (hp : Proper token own ended calls s shown move) (h : Transition setup s move after new) :
    Standing token job own ended (calls ++ callsOf token move.call?.toList) after
      (shown ++ new) := by
  have hkept := issued_kept hissued h
  have hissue := not_next_of_issued hissued
  have frame : Apart token s move after →
      Standing token job own ended (calls ++ callsOf token move.call?.toList) after
        (shown ++ new) := by
    intro ha
    have hu := untouched_of_apart hc ha h
    rw [ha.no_call, List.append_nil]
    exact ⟨hkept, hu.clean hclean, .inl ⟨worker, hl.untouched hu⟩⟩
  have hshown : shown = shown ++ [] := (List.append_nil shown).symm
  have hcalls : calls = calls ++ callsOf token [] := (List.append_nil calls).symm
  cases move with
  | request event =>
    by_cases hcaller : event.caller? = some token
    · cases h with
      | requested event hevent =>
        have hone : callsOf token [event] = [event] := callsOf_cons_of_eq hcaller []
        refine ⟨hkept, hclean, .inl ⟨worker, ?_⟩⟩
        rw [← hshown]
        exact hone ▸ hl.requested hcaller (hp.call event rfl hcaller)
    · refine frame ⟨?_, by simp, fun _ => hissue, fun w _ => ⟨by simp, by simp, by simp, by simp⟩⟩
      rintro other ⟨⟩
      exact hcaller
  | handle =>
    cases hqueue : s.queue with
    | nil =>
      refine frame ⟨by simp, ?_, fun _ => hissue, fun w _ => ⟨?_, by simp, by simp, by simp⟩⟩
      · intro event rest _ hcons
        simp [hqueue] at hcons
      · intro rest _ hcons
        simp [hqueue] at hcons
    | cons event rest =>
      by_cases hcaller : event.caller? = some token
      · have hnext : after.summary.violations = s.summary.violations ∧
            ∃ worker, Live token job own ended calls after (shown ++ new) worker := by
          cases event with
          | pull other =>
            obtain rfl := Option.some.inj hcaller
            exact hl.next_pull hqueue h
          | push other result =>
            obtain rfl := Option.some.inj hcaller
            exact hl.next_push hc hqueue h
          | released cpus => simp [Event.caller?] at hcaller
          | kill other => simp [Event.caller?] at hcaller
        exact ⟨hkept, hnext.1 ▸ hclean, .inl (hcalls ▸ hnext.2)⟩
      · by_cases hkill : event = .kill token
        · subst hkill
          have hnext := hl.next_kill hqueue h
          exact ⟨hkept, hnext.1 ▸ hclean, .inl (hcalls ▸ hnext.2)⟩
        · refine frame ⟨by simp, ?_, fun _ => hissue, fun w _ => ⟨?_, by simp, by simp, by simp⟩⟩
          · intro other others _ hhead
            obtain ⟨rfl, -⟩ := List.cons.inj (hqueue.symm.trans hhead)
            exact hcaller
          · intro others _ hhead
            exact hkill (List.cons.inj (hqueue.symm.trans hhead)).1
  | reap order =>
    by_cases hover : worker.check.2.isOver = true
    · cases h with
      | reaped order layout hphase horder hrelease =>
        refine ⟨hkept, ?_, .inr (hcalls ▸ hl.reaped hc horder hover)⟩
        intro violation hviolation
        rcases List.mem_append.mp hviolation with hold | hnew
        · exact hclean violation hold
        · exact hl.no_violation hc horder hover violation hnew
    · refine frame ⟨by simp, by simp, fun _ => hissue, fun w hw => ⟨by simp, by simp, by simp, ?_⟩⟩
      rintro other ⟨⟩
      rw [Option.some.inj (hw.symm.trans hl.found)]
      simpa using hover
  | exit other exit =>
    by_cases htoken : other = token
    · subst htoken
      cases h with
      | exited token exit =>
        have hnext := hl.exited (hp.exit exit rfl)
        exact ⟨hkept, hclean, .inl ⟨_, hshown ▸ hcalls ▸ hnext⟩⟩
    · refine frame ⟨by simp, by simp, fun _ => hissue, fun w _ => ⟨by simp, ?_, by simp, by simp⟩⟩
      rintro ending ⟨⟩
      exact htoken rfl
  | lose other fault =>
    by_cases htoken : other = token
    · subst htoken
      cases h with
      | lost token fault =>
        have hnext := hl.lost fault (hp.lose fault rfl)
        exact ⟨hkept, hclean, .inl ⟨_, hshown ▸ hcalls ▸ hnext⟩⟩
    · refine frame ⟨by simp, by simp, fun _ => hissue, fun w _ => ⟨by simp, by simp, ?_, by simp⟩⟩
      rintro cause ⟨⟩
      exact htoken rfl
  | _ =>
    exact frame ⟨by simp, by simp, fun _ => hissue,
      fun w _ => ⟨by simp, by simp, by simp, by simp⟩⟩

/-- A worker that behaves well goes on standing well. -/
theorem Standing.next (hs : Standing token job own ended calls s shown) (hc : Consistent s held)
    (hp : Proper token own ended calls s shown move) (h : Transition setup s move after new) :
    Standing token job own ended (calls ++ callsOf token move.call?.toList) after
      (shown ++ new) := by
  rcases hs.status with ⟨worker, hl⟩ | hg
  · exact hl.next hc hs.issued hs.clean hp h
  · have ha : Apart token s move after := hg.apart hp fun _ => not_next_of_issued hs.issued
    have hu := untouched_of_apart hc ha h
    rw [ha.no_call, List.append_nil]
    exact ⟨issued_kept hs.issued h, hu.clean hs.clean, .inr (hg.untouched hu)⟩

theorem Standing.mono (hs : Standing token job own ended calls s shown) {more : Exit → Prop}
    (h : ∀ exit, ended exit → more exit) : Standing token job own more calls s shown where
  issued := hs.issued
  clean := hs.clean
  status := by
    rcases hs.status with ⟨worker, hl⟩ | hg
    · exact .inl ⟨worker, hl.mono h⟩
    · obtain ⟨exit, answers, harvested, hended, hrest⟩ := hg.shown_eq
      exact .inr { hg with shown_eq := ⟨exit, answers, harvested, h exit hended, hrest⟩ }

end Steps

end StressBatch.Scheduler
