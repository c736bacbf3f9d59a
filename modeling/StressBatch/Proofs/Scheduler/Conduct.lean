import StressBatch.Proofs.Scheduler.OneResult
import StressBatch.Proofs.Scheduler.Talk

/-!
# Well-behaved workers

A worker that pulls its job, pushes one result and ends cleanly once the push has been answered is
served whatever everybody else does in the meantime: it stands well from its launch on, and before
that nothing is known under its token.
-/

namespace StressBatch.Scheduler

section Launch

variable {token : Token} {job : Job} {own : TestResult} {s after : State}
  {shown new : List Effect} {worker : Worker} {held : List Ticket} {setup : Setup} {move : Move}

/-! ## Before a worker is launched -/

/-- Until a token is issued nothing is known under it: it names no live worker, no request bears it,
nothing is shown under it and nothing is held against it. -/
structure Unheard (token : Token) (s : State) (shown : List Effect) : Prop where
  no_worker : s.worker? token = none
  no_call : callsOf token s.queue = []
  no_effect : effectsOf token shown = []
  clean : ∀ violation ∈ s.summary.violations, violation.token ≠ token

theorem Unheard.next (hun : Unheard token s shown) (hc : Consistent s held)
    (hcall : callsOf token move.call?.toList = [])
    (hissue : s.issued < after.issued → token ≠ State.tokenOf (s.issued + 1))
    (h : Transition setup s move after new) : Unheard token after (shown ++ new) := by
  have ha : Apart token s move after := by
    refine ⟨?_, ?_, hissue, ?_⟩
    · intro event hmove hcaller
      rw [hmove] at hcall
      have hone : callsOf token [event] = [event] := callsOf_cons_of_eq hcaller []
      simp [Move.call?, hone] at hcall
    · intro event rest _ hqueue hcaller
      have hnone := hun.no_call
      rw [hqueue, callsOf_cons_of_eq hcaller] at hnone
      contradiction
    · intro worker hworker
      rw [hun.no_worker] at hworker
      contradiction
  have hu := untouched_of_apart hc ha h
  refine ⟨hu.worker_eq.trans hun.no_worker, hu.calls_eq.trans hun.no_call, ?_, hu.clean hun.clean⟩
  rw [effectsOf_append, hun.no_effect, hu.effects_eq, List.append_nil]

/-- Whether an act starts a job under a token and its process runs then. -/
def Launches (s : State) (act : Act) (token : Token) (job : Job) : Prop :=
  (∃ cpus, .started job cpus (some token) ∈ (s.step act.setup act.move).2) ∧
    IsRunning (s.step act.setup act.move).1 token

/-- No live worker has the token that is issued next. -/
theorem Consistent.worker?_next (hc : Consistent s held) :
    s.worker? (State.tokenOf (s.issued + 1)) = none := by
  cases h : s.worker? (State.tokenOf (s.issued + 1)) with
  | none => rfl
  | some worker =>
    obtain ⟨hmem, htoken⟩ := State.token_of_worker? h
    obtain ⟨n, hn, heq⟩ := hc.issued_tokens worker.token (List.mem_map_of_mem hmem)
    have := tokenOf_injective (htoken.symm.trans heq)
    omega

/-- What a launch comes to: the next token is issued, and its worker has been asked for nothing. -/
structure Launched (token : Token) (job : Job) (s : State) (move : Move) (after : State)
    (new : List Effect) (worker : Worker) : Prop where
  move_eq : move = .dispatch
  token_eq : token = State.tokenOf (s.issued + 1)
  issued_eq : after.issued = s.issued + 1
  queue_eq : after.queue = s.queue
  violations_eq : after.summary.violations = s.summary.violations
  shown_eq : ∃ cpus, new = [.started job cpus (some token)]
  job_eq : worker.job = job
  jobTaken_eq : worker.jobTaken = false
  slot_eq : worker.slot = .pending

theorem launched_of_transition (hc : Consistent s held) (h : Transition setup s move after new)
    {cpus : List Nat} (hstarted : .started job cpus (some token) ∈ new)
    (hlive : after.worker? token = some worker) :
    Launched token job s move after new worker := by
  cases h with
  | forked started rest acquired layout prepared hphase hpending hreason hdispatch hacquire
      hprepare =>
    obtain ⟨rfl, rfl, heq⟩ := Effect.started.inj (List.mem_singleton.mp hstarted)
    obtain rfl := Option.some.inj heq
    have hprepared := Worker.prepared_of_prepare hprepare
    have hfound : (s.workers ++ [prepared.start setup.host]).find?
        (fun worker => worker.token == State.tokenOf (s.issued + 1)) =
        some (prepared.start setup.host) := by
      have hnone := hc.worker?_next
      unfold State.worker? at hnone
      rw [List.find?_append, hnone, Option.none_or, List.find?_cons_of_pos]
      simp [hprepared.token_eq]
    obtain rfl := Option.some.inj (hfound.symm.trans hlive)
    rw [hprepared.start_eq]
    exact ⟨rfl, rfl, rfl, rfl, rfl, ⟨_, rfl⟩, hprepared.job_eq, hprepared.jobTaken_eq,
      hprepared.slot_eq⟩
  | unprepared started rest acquired layout fault hphase hpending hreason hdispatch hacquire
      hprepare =>
    have hmem : job = started ∧ cpus = acquired ∧ token = State.tokenOf (s.issued + 1) := by
      simpa using hstarted
    have hnone : s.worker? token = none := hmem.2.2 ▸ hc.worker?_next
    have hsome : s.worker? token = some worker := hlive
    rw [hnone] at hsome
    contradiction
  | reaped order layout hphase horder hrelease => cases ofReap_of_mem hstarted
  | resubmitted jobs hphase => simp at hstarted
  | _ => simp at hstarted

/-- After its launch a worker stands well. -/
theorem Launched.standing (hlaunched : Launched token job s move after new worker)
    (hun : Unheard token s shown) (hlive : after.worker? token = some worker)
    (hstarted : ∃ process, worker.phase = .started process) (hrunning : worker.isRunning = true) :
    Standing token job own ended [] after (shown ++ new) := by
  obtain ⟨process, hprocess⟩ := hstarted
  obtain ⟨cpus, hnew⟩ := hlaunched.shown_eq
  have heffects : effectsOf token (shown ++ new) = [] := by
    rw [effectsOf_append, hun.no_effect, hnew]
    rfl
  refine ⟨⟨s.issued, ?_, hlaunched.token_eq⟩, hlaunched.violations_eq ▸ hun.clean,
    .inl ⟨worker, ?_⟩⟩
  · rw [hlaunched.issued_eq]
    exact Nat.lt_succ_self _
  · refine {
      found := hlive
      job_eq := hlaunched.job_eq
      talk := ?_
      process := ?_
      favours := ?_
      answered := ?_ }
    · -- talk
      rw [hlaunched.queue_eq, hun.no_call, hlaunched.jobTaken_eq, hlaunched.slot_eq]
      exact .silent
    · -- process
      unfold Worker.isRunning at hrunning
      rw [hprocess] at hrunning
      cases process with
      | running killed => exact .inl ⟨killed, hprocess⟩
      | refused fault => contradiction
      | ended exit => contradiction
      | lost fault => contradiction
    · -- favours
      rw [heffects]
      simp
    · -- answered
      intro answer hanswer
      have hmem : _ ∈ effectsOf token (shown ++ new) := mem_effectsOf hanswer rfl
      rw [heffects] at hmem
      contradiction

end Launch

/-! ## Runs -/

/-- The results that are passed on for the worker of a token. -/
def resultsOf (token : Token) (effects : List Effect) : List (Origin × TestResult) :=
  (passed effects).filter fun r => r.1.token? = some token

/-- The worker that an effect shows to be harvested, and what checking on it came to. -/
def Effect.harvested? : Effect → Option (Worker × Checked)
  | .harvested worker checked => some (worker, checked)
  | _ => none

/-- The harvests of the worker of a token. -/
def harvestsOf (token : Token) (effects : List Effect) : List (Worker × Checked) :=
  (effects.filterMap Effect.harvested?).filter fun c => c.1.token = token

theorem resultsOf_eq (token : Token) (effects : List Effect) :
    resultsOf token effects = passed (effectsOf token effects) := by
  unfold resultsOf passed effectsOf
  induction effects with
  | nil => rfl
  | cons effect effects ih =>
    by_cases h : effect.token? = some token <;> cases effect <;>
      simp_all [List.filterMap_cons, Effect.passed?, Effect.token?]

theorem harvestsOf_eq (token : Token) (effects : List Effect) :
    harvestsOf token effects = (effectsOf token effects).filterMap Effect.harvested? := by
  unfold harvestsOf effectsOf
  induction effects with
  | nil => rfl
  | cons effect effects ih =>
    by_cases h : effect.token? = some token <;> cases effect <;>
      simp_all [List.filterMap_cons, Effect.harvested?, Effect.token?]

/-- How a scheduler with a number of CPUs, and what it has shown, are after some acts. -/
abbrev runOn (capacity : Nat) (acts : List Act) : State × List Effect :=
  (State.ofCapacity capacity).trace acts

/-- A worker that is launched, pulls under its token, pushes one result under it, and ends cleanly
once the push has been answered; nobody else uses its token. -/
structure WellBehaved (capacity : Nat) (front : List Act) (launch : Act) (back : List Act)
    (token : Token) (job : Job) (own : TestResult) : Prop where
  /-- Its process is launched. -/
  launches : Launches (runOn capacity front).1 launch token job
  /-- Before that nobody uses its token. -/
  unused : asked token front = []
  /-- After that its token is used for one pull and then one push. -/
  calls : asked token back <+: [.pull token, .push token own]
  /-- Its process ends with exit code 0, and not before the push has been answered. -/
  exits : ∀ mid setup exit rest, back = mid ++ ⟨setup, .exit token exit⟩ :: rest →
    IsRunning (runOn capacity (front ++ launch :: mid)).1 token →
      exit.ending = .exited 0 ∧
        ∃ answer, .pushed token answer ∈ (runOn capacity (front ++ launch :: mid)).2
  /-- The operating system says when its process ends. -/
  seen : ∀ mid setup fault rest, back = mid ++ ⟨setup, .lose token fault⟩ :: rest →
    ¬ IsRunning (runOn capacity (front ++ launch :: mid)).1 token

/-- Whether the process of the worker of a token, once launched, has ended in the given way. -/
def EndedWith (capacity : Nat) (front : List Act) (launch : Act) (back : List Act) (token : Token)
    (exit : Exit) : Prop :=
  ∃ mid setup rest, back = mid ++ ⟨setup, .exit token exit⟩ :: rest ∧
    IsRunning (runOn capacity (front ++ launch :: mid)).1 token

section Runs

variable {capacity : Nat} {front back : List Act} {launch : Act} {token : Token} {job : Job}
  {own : TestResult}

theorem issued_le_step (s : State) {held : List Ticket} (hc : Consistent s held) (setup : Setup)
    (move : Move) : s.issued ≤ (s.step setup move).1.issued := by
  rcases hc.step_cases setup move with h | h
  · rw [h]
  · exact issued_le_of_transition h

theorem asked_concat (token : Token) (acts : List Act) (act : Act) :
    asked token (acts ++ [act]) = asked token acts ++ callsOf token act.move.call?.toList := by
  rw [asked_append]
  rfl

/-- Until a token is issued nothing is known under it, if nobody uses it. -/
theorem unheard_after {m : Nat} (hissued : (runOn capacity front).1.issued ≤ m)
    (hunused : asked (State.tokenOf (m + 1)) front = []) :
    Unheard (State.tokenOf (m + 1)) (runOn capacity front).1 (runOn capacity front).2 := by
  induction front using List.reverseRecOn with
  | nil => exact ⟨rfl, rfl, rfl, by simp [runOn, State.trace, State.ofCapacity]⟩
  | append_singleton front act ih =>
    have hc := consistent_trace capacity front
    have hle := issued_le_step _ hc act.setup act.move
    rw [asked_concat, List.append_eq_nil_iff] at hunused
    unfold runOn at hissued ih ⊢
    rw [State.trace_concat] at hissued ⊢
    have hun := ih (hle.trans hissued) hunused.1
    rcases hc.step_cases act.setup act.move with h | h
    · rw [h]
      simpa using hun
    · refine hun.next hc hunused.2 ?_ h
      intro hlt heq
      have := tokenOf_injective heq
      omega

/-- A link request is always possible, so a step that does nothing is none. -/
theorem no_call_of_step_eq {s : State} {setup : Setup} {move : Move}
    (h : s.step setup move = (s, [])) : callsOf token move.call?.toList = [] := by
  cases move with
  | request event =>
    refine callsOf_cons_of_ne ?_ []
    intro hcaller
    have hrequest : event.isRequest = true := by
      cases event with
      | released cpus => simp [Event.caller?] at hcaller
      | _ => rfl
    simp only [State.step, State.step?, hrequest, if_true, Option.getD_some] at h
    have hqueue : s.queue ++ [event] = s.queue := congrArg (fun r => r.1.queue) h
    simp at hqueue
  | _ => rfl

/-- A worker that has behaved well so far. -/
theorem WellBehaved.init {act : Act}
    (h : WellBehaved capacity front launch (back ++ [act]) token job own) :
    WellBehaved capacity front launch back token job own where
  launches := h.launches
  unused := h.unused
  calls := by
    have hcalls := h.calls
    rw [asked_concat] at hcalls
    exact (List.prefix_append _ _).trans hcalls
  exits := by
    rintro mid setup exit rest rfl
    exact h.exits mid setup exit (rest ++ [act]) (by simp)
  seen := by
    rintro mid setup fault rest rfl
    exact h.seen mid setup fault (rest ++ [act]) (by simp)

/-- A well-behaved worker stands well at every moment. -/
theorem WellBehaved.standing (h : WellBehaved capacity front launch back token job own) :
    Standing token job own (EndedWith capacity front launch back token) (asked token back)
      (runOn capacity (front ++ launch :: back)).1
      (runOn capacity (front ++ launch :: back)).2 := by
  induction back using List.reverseRecOn with
  | nil =>
    have hc := consistent_trace capacity front
    obtain ⟨⟨cpus, hstarted⟩, worker, hlive, hrunning⟩ := h.launches
    rcases hc.step_cases launch.setup launch.move with hstep | hstep
    · unfold runOn at hstarted
      rw [hstep] at hstarted
      contradiction
    · have hlaunched := launched_of_transition hc hstep hstarted hlive
      have hun : Unheard token (runOn capacity front).1 (runOn capacity front).2 := by
        rw [hlaunched.token_eq]
        refine unheard_after (Nat.le_refl _) ?_
        rw [← hlaunched.token_eq]
        exact h.unused
      have hnext := hc.next hstep
      have hprocess := hnext.started worker (State.token_of_worker? hlive).1
      unfold runOn
      rw [State.trace_concat]
      exact hlaunched.standing hun hlive hprocess hrunning
  | append_singleton back act ih =>
    have hc := consistent_trace capacity (front ++ launch :: back)
    have hs := ih h.init
    have hmore : ∀ exit, EndedWith capacity front launch back token exit →
        EndedWith capacity front launch (back ++ [act]) token exit := by
      rintro exit ⟨mid, setup, rest, rfl, hrunning⟩
      exact ⟨mid, setup, rest ++ [act], by simp, hrunning⟩
    have hproper : Proper token own (EndedWith capacity front launch (back ++ [act]) token)
        (asked token back) (runOn capacity (front ++ launch :: back)).1
        (runOn capacity (front ++ launch :: back)).2 act.move := by
      obtain ⟨setup, move⟩ := act
      refine ⟨?_, ?_, ?_⟩
      · rintro event rfl hcaller
        have hcalls := h.calls
        have hone : callsOf token [event] = [event] := callsOf_cons_of_eq hcaller []
        rw [asked_concat] at hcalls
        exact hone ▸ hcalls
      · rintro exit rfl hrunning
        obtain ⟨hclean, hanswer⟩ := h.exits back setup exit [] rfl hrunning
        exact ⟨⟨back, setup, [], rfl, hrunning⟩, hclean, hanswer⟩
      · rintro fault rfl
        exact h.seen back setup fault [] rfl
    have hsplit : front ++ launch :: (back ++ [act]) = (front ++ launch :: back) ++ [act] := by
      simp
    unfold runOn at hs hproper ⊢
    rw [hsplit, State.trace_concat, asked_concat]
    rcases hc.step_cases act.setup act.move with hstep | hstep
    · rw [hstep, no_call_of_step_eq hstep]
      simpa using hs.mono hmore
    · exact (hs.mono hmore).next hc hproper hstep

end Runs

theorem passed_of_favours {token : Token} {job : Job} {effects : List Effect}
    (h : ∀ effect ∈ effects, effect.Favours token job) : passed effects = [] := by
  refine List.filterMap_eq_nil_iff.mpr fun effect heffect => ?_
  rcases h effect heffect with rfl | rfl <;> rfl

theorem harvested_of_favours {token : Token} {job : Job} {effects : List Effect}
    (h : ∀ effect ∈ effects, effect.Favours token job) :
    effects.filterMap Effect.harvested? = [] := by
  refine List.filterMap_eq_nil_iff.mpr fun effect heffect => ?_
  rcases h effect heffect with rfl | rfl <;> rfl

/-- What is answered to a worker that stands well is favourable. -/
theorem Standing.favours {token : Token} {job : Job} {own : TestResult} {ended : Exit → Prop}
    {calls : List Event} {s : State} {shown : List Effect} {effect : Effect}
    (hs : Standing token job own ended calls s shown) (hmem : effect ∈ effectsOf token shown) :
    effect.Favours token job ∨ effect.passed?.isSome = true ∨
      effect.harvested?.isSome = true := by
  rcases hs.status with ⟨worker, hl⟩ | hg
  · exact .inl (hl.favours effect hmem)
  · obtain ⟨exit, answers, worker, -, hfavours, -, hshown⟩ := hg.shown_eq
    rw [hshown] at hmem
    rcases List.mem_append.mp hmem with hold | hnew
    · exact .inl (hfavours effect hold)
    · rcases List.mem_cons.mp hnew with rfl | hlast
      · exact .inr (.inl rfl)
      · rw [List.mem_singleton.mp hlast]
        exact .inr (.inr rfl)

/-- The first reap after the process has ended harvests the worker. -/
theorem Standing.worker?_reap {token : Token} {job : Job} {own : TestResult}
    {ended : Exit → Prop} {calls : List Event} {s : State} {shown : List Effect}
    {held : List Ticket} (hs : Standing token job own ended calls s shown)
    (hc : Consistent s held) (hended : ¬ IsRunning s token) {setup : Setup} {order : List Token}
    (hactive : s.phase.isActive = true) (horder : order.Perm s.liveTokens) :
    (s.step setup (.reap order)).1.worker? token = none := by
  have h := hc.transition_of_reaping hactive horder setup
  generalize (s.step setup (.reap order)).1 = after, (s.step setup (.reap order)).2 = new at h ⊢
  cases h with
  | reaped order layout hphase horder hrelease =>
    refine (worker?_reaped hc.nodup_tokens).trans ?_
    rcases hs.status with ⟨worker, hl⟩ | hg
    · have hover : worker.check.2.isOver = true := by
        rcases hl.process with ⟨killed, hphase⟩ | ⟨exit, -, -, -, hphase⟩
        · exact absurd ⟨worker, hl.found, isRunning_of_phase hphase⟩ hended
        · rw [Worker.isOver_check_eq hphase]
          rfl
      rw [hl.found]
      exact Option.filter_some_neg (by simp [hover])
    · rw [hg.no_worker]
      rfl

/-- Giving CPUs back does not touch the counts. -/
theorem summary_giveBack (s : State) (cpus : List Nat) :
    (s.giveBack cpus).summary = s.summary := by
  unfold State.giveBack
  split <;> rfl

/-- Harvesting a worker whose own result was passed on counts it as passed, and nothing as made
up. -/
theorem counts_of_harvest (s : State) {worker : Worker} (h : worker.phase = .completed true)
    (result : TestResult) :
    (s.harvest worker (.reported result)).1.summary.forkedPassed = s.summary.forkedPassed + 1 ∧
      (s.harvest worker (.reported result)).1.summary.synthesizedFailures =
        s.summary.synthesizedFailures := by
  unfold State.harvest
  simp only
  rw [summary_giveBack, h]
  exact ⟨rfl, rfl⟩

/-- A well-behaved worker is never blamed, whatever everybody else does. Every answer it gets is
favourable and nothing is held against it; as long as it is live no result is passed on for it, and
once it is not, exactly one has been, which is its own with the output of its process, and it has
been harvested once, as one that passed. The first reap after its process has ended harvests it, and
when the run is over it is not live. -/
theorem well_behaved_worker_served (capacity : Nat) (front : List Act) (launch : Act)
    (back : List Act) (token : Token) (job : Job) (own : TestResult)
    (h : WellBehaved capacity front launch back token job own) :
    let run := runOn capacity (front ++ launch :: back)
    (∀ answer, .pulled token answer ∈ run.2 → answer = .ok (some job)) ∧
    (∀ answer, .pushed token answer ∈ run.2 → answer = .ok ()) ∧
    (∀ violation ∈ run.1.summary.violations, violation.token ≠ token) ∧
    run.1.log.results = (passed run.2).map Prod.snd ∧
    ((∃ worker, run.1.worker? token = some worker) ∧ resultsOf token run.2 = [] ∧
        harvestsOf token run.2 = [] ∨
      run.1.worker? token = none ∧
        ∃ exit worker checked, EndedWith capacity front launch back token exit ∧
          resultsOf token run.2 = [(.forked token job, { own with
            vmOut := own.vmOut ++ TestResult.keptLines exit.outLines
            vmErr := own.vmErr ++ TestResult.keptLines exit.errLines })] ∧
          harvestsOf token run.2 = [(worker, checked)] ∧
          ∀ s : State, (s.harvest worker checked).1.summary.forkedPassed =
              s.summary.forkedPassed + 1 ∧
            (s.harvest worker checked).1.summary.synthesizedFailures =
              s.summary.synthesizedFailures) ∧
    (¬ IsRunning run.1 token → ∀ (setup : Setup) (order : List Token),
      run.1.phase.isActive = true → order.Perm run.1.liveTokens →
        (run.1.step setup (.reap order)).1.worker? token = none) ∧
    (run.1.phase = .terminated → run.1.worker? token = none) := by
  intro run
  have hc : Consistent run.1 (outstanding run.2) := consistent_trace capacity _
  have hs : Standing token job own (EndedWith capacity front launch back token) _ run.1 run.2 :=
    h.standing
  refine ⟨fun answer hanswer => ?_, fun answer hanswer => ?_, hs.clean, log_trace capacity _, ?_,
    fun hended setup order hactive horder => ?_, fun hphase => ?_⟩
  · rcases hs.favours (mem_effectsOf hanswer rfl) with (hfavours | hfavours) | hother | hother
    · exact (Effect.pulled.inj hfavours).2
    all_goals contradiction
  · rcases hs.favours (mem_effectsOf hanswer rfl) with (hfavours | hfavours) | hother | hother
    · contradiction
    · exact (Effect.pushed.inj hfavours).2
    all_goals contradiction
  · rw [resultsOf_eq, harvestsOf_eq]
    rcases hs.status with ⟨worker, hl⟩ | hg
    · exact .inl ⟨⟨worker, hl.found⟩, passed_of_favours hl.favours,
        harvested_of_favours hl.favours⟩
    · obtain ⟨exit, answers, worker, hended, hfavours, hpassed, hshown⟩ := hg.shown_eq
      refine .inr ⟨hg.no_worker, exit, worker, .reported (Worker.ownResult own exit), hended, ?_,
        ?_, fun s => counts_of_harvest s hpassed (Worker.ownResult own exit)⟩
      · rw [hshown, passed_append, passed_of_favours hfavours]
        rfl
      · rw [hshown, List.filterMap_append, harvested_of_favours hfavours]
        rfl
  · exact hs.worker?_reap hc hended hactive horder
  · unfold State.worker?
    rw [(hc.at_rest (.inr hphase)).1]
    rfl

/-! ## A worker that is served -/

/-- What the worker of the forked sample job asks, does and comes to, once it has been launched. -/
def servedActs : List Act :=
  [.request (.pull "fork-token-1"), .handle,
    .request (.push "fork-token-1" { job := default, status := .normal }), .handle,
    .exit "fork-token-1" (.silent (.exited 0)), .reap ["fork-token-1"]].map (Act.mk sampleSetup)

/-- A forked job for two CPUs. -/
def forkedJob : Job := ⟨"second", 2, ["left", "right"], [.tier1, .tier2], .forked, [], "counter"⟩

theorem wellBehaved_sample : WellBehaved 2 [⟨sampleSetup, .submit [forkedJob]⟩]
    ⟨sampleSetup, .dispatch⟩ servedActs "fork-token-1" forkedJob
    { job := default, status := .normal } where
  launches := by
    refine ⟨⟨[0, 1], ?_⟩, ?_⟩
    · exact List.mem_cons_self
    · exact ⟨_, rfl, rfl⟩
  unused := rfl
  calls := by
    exact ⟨[], rfl⟩
  exits := by
    intro mid setup exit rest hback hrunning
    rcases mid with _ | ⟨a, _ | ⟨b, _ | ⟨c, _ | ⟨d, _ | ⟨e, _ | ⟨f, mid⟩⟩⟩⟩⟩⟩ <;>
      simp [servedActs] at hback
    obtain ⟨rfl, rfl, rfl, rfl, ⟨-, rfl⟩, -⟩ := hback
    exact ⟨rfl, .ok (), List.mem_of_mem_getLast? rfl⟩
  seen := by
    intro mid setup fault rest hback
    rcases mid with _ | ⟨a, _ | ⟨b, _ | ⟨c, _ | ⟨d, _ | ⟨e, _ | ⟨f, mid⟩⟩⟩⟩⟩⟩ <;>
      simp [servedActs] at hback

theorem well_behaved_worker_served_sample :
    let run := runOn 2 ([⟨sampleSetup, .submit [forkedJob]⟩] ++
      ⟨sampleSetup, .dispatch⟩ :: servedActs)
    (∀ answer, .pulled "fork-token-1" answer ∈ run.2 → answer = .ok (some forkedJob)) ∧
      (∀ violation ∈ run.1.summary.violations, violation.token ≠ "fork-token-1") ∧
      (resultsOf "fork-token-1" run.2).length = 1 ∧
      (harvestsOf "fork-token-1" run.2).length = 1 := by
  intro run
  obtain ⟨hpulled, -, hclean, -, hstatus, -, -⟩ := well_behaved_worker_served 2
    [⟨sampleSetup, .submit [forkedJob]⟩] ⟨sampleSetup, .dispatch⟩ servedActs "fork-token-1"
    forkedJob { job := default, status := .normal } wellBehaved_sample
  have hnone : run.1.worker? "fork-token-1" = none := by decide +kernel
  rcases hstatus with ⟨⟨worker, hworker⟩, -, -⟩ |
    ⟨-, exit, worker, checked, -, hresults, hharvests, -⟩
  · rw [hnone] at hworker
    contradiction
  · exact ⟨hpulled, hclean, by rw [hresults]; rfl, by rw [hharvests]; rfl⟩

end StressBatch.Scheduler
