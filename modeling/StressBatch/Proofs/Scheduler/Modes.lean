import StressBatch.Proofs.Scheduler.Tickets
import StressBatch.Proofs.StressWorker

/-!
# Both dispatch modes report the same outcome

An embedded job is run on a thread of the scheduler's own process, and a forked one by the bundled
worker at the other end of the link. What the registry makes of the job is the same in both cases,
and one result says it: as it is for an embedded job, and with the output of the worker's process
for a forked one.
-/

namespace StressBatch.Scheduler

/-! ## A worker that runs the bundled program -/

/-- What a request of a worker is to the scheduler. -/
def Event.ofRequest : Link.Request → Event
  | .pull token => .pull token
  | .push token result => .push token result

/-- A worker that is launched for a job and runs the bundled program: what it asks for and how it
ends is what the program does on the answers that the worker has been given by then. Nobody else
uses its token, and it is not put to an end by anybody else. -/
structure RunsProgram (capacity : Nat) (front : List Act) (launch : Act) (back : List Act)
    (token : Token) (job : Job) (registry : Registry) (snapshot : Environment)
    (connection : StressWorker.Connection) : Prop where
  /-- Its process is launched. -/
  launches : Launches (runOn capacity front).1 launch token job
  /-- Before that nobody uses its token. -/
  unused : asked token front = []
  /-- It asks for nothing but its job until it has been answered. -/
  waits : ∀ mid setup event rest, back = mid ++ ⟨setup, .request event⟩ :: rest →
    event.caller? = some token →
    (∀ pulled, .pulled token pulled ∉ (runOn capacity (front ++ launch :: mid)).2) →
      asked token mid ++ [event] <+: [.pull token]
  /-- Then it asks for what the program asks for. -/
  asks : ∀ mid setup event rest pulled, back = mid ++ ⟨setup, .request event⟩ :: rest →
    event.caller? = some token →
    .pulled token pulled ∈ (runOn capacity (front ++ launch :: mid)).2 →
      asked token mid ++ [event] <+: (StressWorker.played registry snapshot connection token pulled
        (.ok ())).2.map Event.ofRequest
  /-- Its process ends as the program does, once it has been answered all. -/
  exits : ∀ mid setup exit rest, back = mid ++ ⟨setup, .exit token exit⟩ :: rest →
    IsRunning (runOn capacity (front ++ launch :: mid)).1 token →
      ∃ pulled pushed, .pulled token pulled ∈ (runOn capacity (front ++ launch :: mid)).2 ∧
        .pushed token pushed ∈ (runOn capacity (front ++ launch :: mid)).2 ∧
        exit.ending =
          (StressWorker.played registry snapshot connection token pulled pushed).1.ending
  /-- The operating system says when its process ends. -/
  seen : ∀ mid setup fault rest, back = mid ++ ⟨setup, .lose token fault⟩ :: rest →
    ¬ IsRunning (runOn capacity (front ++ launch :: mid)).1 token

section Programs

variable {capacity : Nat} {front back : List Act} {launch act : Act} {token : Token} {job : Job}
  {registry : Registry} {snapshot : Environment} {connection : StressWorker.Connection}
  {own : TestResult}

theorem RunsProgram.init (h : RunsProgram capacity front launch (back ++ [act]) token job registry
      snapshot connection) :
    RunsProgram capacity front launch back token job registry snapshot connection where
  launches := h.launches
  unused := h.unused
  waits := by
    rintro mid setup event rest rfl
    exact h.waits mid setup event (rest ++ [act]) (by simp)
  asks := by
    rintro mid setup event rest pulled rfl
    exact h.asks mid setup event (rest ++ [act]) pulled (by simp)
  exits := by
    rintro mid setup exit rest rfl
    exact h.exits mid setup exit (rest ++ [act]) (by simp)
  seen := by
    rintro mid setup fault rest rfl
    exact h.seen mid setup fault (rest ++ [act]) (by simp)

theorem Standing.pulled_eq {ended : Exit → Prop} {calls : List Event} {s : State}
    {shown : List Effect} (hs : Standing token job own ended calls s shown)
    {answer : Except Link.Failure (Option Job)} (h : .pulled token answer ∈ shown) :
    answer = .ok (some job) := by
  rcases hs.favours (mem_effectsOf h rfl) with (hfavours | hfavours) | hother | hother
  · exact (Effect.pulled.inj hfavours).2
  all_goals contradiction

theorem Standing.pushed_eq {ended : Exit → Prop} {calls : List Event} {s : State}
    {shown : List Effect} (hs : Standing token job own ended calls s shown)
    {answer : Except Link.Failure Unit} (h : .pushed token answer ∈ shown) : answer = .ok () := by
  rcases hs.favours (mem_effectsOf h rfl) with (hfavours | hfavours) | hother | hother
  · contradiction
  · exact (Effect.pushed.inj hfavours).2
  all_goals contradiction

/-- What the worker asks for next. -/
theorem RunsProgram.asked_prefix {setup : Setup} {event : Event}
    (h : RunsProgram capacity front launch (back ++ [⟨setup, .request event⟩]) token job registry
      snapshot connection)
    (hbefore : WellBehaved capacity front launch back token job own)
    (hcarries : connection.Carries token job own)
    (hresult : StressWorker.resultOf registry snapshot job = .ok own)
    (hcaller : event.caller? = some token) :
    asked token back ++ [event] <+: [.pull token, .push token own] := by
  by_cases hanswered : ∃ pulled,
      .pulled token pulled ∈ (runOn capacity (front ++ launch :: back)).2
  · obtain ⟨pulled, hpulled⟩ := hanswered
    have hasks := h.asks back setup event [] pulled rfl hcaller hpulled
    rw [hbefore.standing.pulled_eq hpulled,
      StressWorker.played_of_granted hcarries hresult] at hasks
    exact hasks
  · have hwaits := h.waits back setup event [] rfl hcaller (not_exists.mp hanswered)
    exact hwaits.trans (List.prefix_append [_] [_])

/-- A worker that runs the bundled program behaves well. -/
theorem RunsProgram.wellBehaved
    (h : RunsProgram capacity front launch back token job registry snapshot connection)
    (hcarries : connection.Carries token job own)
    (hresult : StressWorker.resultOf registry snapshot job = .ok own) :
    WellBehaved capacity front launch back token job own := by
  induction back using List.reverseRecOn with
  | nil => exact ⟨h.launches, h.unused, List.nil_prefix, by simp, by simp⟩
  | append_singleton back act ih =>
    have hbefore := ih h.init
    refine ⟨h.launches, h.unused, ?_, ?_, h.seen⟩
    · rw [asked_concat]
      obtain ⟨setup, move⟩ := act
      cases move with
      | request event =>
        show asked token back ++ callsOf token [event] <+: _
        by_cases hcaller : event.caller? = some token
        · rw [callsOf_cons_of_eq hcaller]
          exact h.asked_prefix hbefore hcarries hresult hcaller
        · rw [callsOf_cons_of_ne hcaller]
          exact (List.append_nil _).symm ▸ hbefore.calls
      | _ => exact (List.append_nil _).symm ▸ hbefore.calls
    · intro mid setup exit rest heq hrunning
      rcases List.eq_nil_or_concat rest with rfl | ⟨rest, last, rfl⟩
      · -- the process ends just now
        obtain ⟨rfl, hlast⟩ := List.append_inj' heq rfl
        have hs := hbefore.standing
        obtain ⟨pulled, pushed, hpulled, hpushed, hending⟩ :=
          h.exits back setup exit [] heq hrunning
        rw [hs.pulled_eq hpulled, hs.pushed_eq hpushed,
          StressWorker.played_of_granted hcarries hresult] at hending
        exact ⟨hending, pushed, hpushed⟩
      · have hearlier : back = mid ++ ⟨setup, .exit token exit⟩ :: rest := by
          rw [List.concat_eq_append, ← List.cons_append, ← List.append_assoc] at heq
          exact (List.append_inj' heq rfl).1
        exact hbefore.exits mid setup exit rest hearlier hrunning

/-- What comes of a worker that behaves well: no result as long as it is live, and then its own with
the output of its process. -/
theorem Standing.result {ended : Exit → Prop} {calls : List Event} {s : State}
    {shown : List Effect} (hs : Standing token job own ended calls s shown) :
    (∃ worker, s.worker? token = some worker) ∧ resultsOf token shown = [] ∨
      s.worker? token = none ∧ ∃ exit, ended exit ∧
        resultsOf token shown = [(.forked token job, Worker.ownResult own exit)] := by
  rw [resultsOf_eq]
  rcases hs.status with ⟨worker, hl⟩ | hg
  · exact .inl ⟨⟨worker, hl.found⟩, passed_of_favours hl.favours⟩
  · obtain ⟨exit, answers, worker, hended, hfavours, -, hshown⟩ := hg.shown_eq
    refine .inr ⟨hg.no_worker, exit, hended, ?_⟩
    rw [hshown, passed_append, passed_of_favours hfavours]
    rfl

end Programs

/-- A job whose name contains a NUL is abandoned by the runner with threads, and to hand it over is
a panic. -/
theorem abandoned_of_nul {s after : State} {setup : Setup} {move : Move} {new : List Effect}
    {job : Job} {cpus : List Nat} {registry : Registry} {snapshot : Environment}
    (h : Transition setup s move after new) (hstarted : .started job cpus none ∈ new)
    (hrunner : setup.runner job cpus = EmbeddedRunner.threaded registry snapshot job cpus)
    (hname : '\x00' ∈ job.name.toList) :
    new = [.started job cpus none,
        .passedOn (.embedded ⟨job, cpus⟩) (Ticket.abandonedResult ⟨job, cpus⟩)] ∧
      ∃ panic, after.phase = .crashed panic := by
  obtain ⟨panic, hpanicked⟩ := EmbeddedRunner.threaded_of_nul hname cpus
  rw [hpanicked] at hrunner
  cases h with
  | kept started rest acquired layout hphase hpending hreason hdispatch hacquire hkept =>
    obtain ⟨rfl, rfl, -⟩ := Effect.started.inj (List.mem_singleton.mp hstarted)
    rw [hrunner] at hkept
    contradiction
  | endedAtOnce started rest acquired layout found phase hphase hpending hreason hdispatch hacquire
      hends =>
    have hsame : job = started ∧ cpus = acquired := by simpa using hstarted
    obtain ⟨rfl, rfl⟩ := hsame
    rw [hrunner] at hends
    cases hends
    exact ⟨rfl, panic, rfl⟩
  | reaped order layout hphase horder hrelease =>
    have hnone := (unconcerned_reap ⟨job, cpus⟩ (s.checks order) (s.endings order)).1
    exact absurd hnone (begun_ne_zero_iff.mpr hstarted)
  | resubmitted jobs hphase => simp at hstarted
  | _ => simp at hstarted

/-- On a scheduler with enough CPUs a sound job is not refused, and if its workload returns, the
same outcome is reported for it in both dispatch modes: what the registry makes of the job, with the
snapshot of the one who ran it. An embedded job on a thread gets just this; but one whose name
contains a NUL gets no thread, and is abandoned. For a forked job the output of the worker's process
is added. In both modes there is one result for every start, and none only as long as the job is
under way. -/
theorem modes_report_alike (capacity : Nat) (front : List Act) (launch : Act) (back : List Act)
    (job : Job) (registry : Registry) (snapshot : Environment) (result : TestResult)
    (hsound : job.Sound) (hbudget : job.threads ≤ capacity)
    (hexecute : registry.execute job = .ok result) :
    let run := runOn capacity (front ++ launch :: back)
    let started := (runOn capacity front).1.step launch.setup launch.move
    let shown := shownFrom capacity front launch back
    run.1.refusal? job = none ∧
    run.1.log.results = (passed run.2).map Prod.snd ∧
    (∀ cpus, OnThread capacity front launch back ⟨job, cpus⟩ registry snapshot →
      '\x00' ∉ job.name.toList →
      resultsFor ⟨job, cpus⟩ shown = [] ∧ ⟨job, cpus⟩ ∈ run.1.tickets ∨
        ∃ others, resultsFor ⟨job, cpus⟩ shown = { result with env := some snapshot } :: others ∧
          1 + others.length + run.1.tickets.count ⟨job, cpus⟩ = begun ⟨job, cpus⟩ shown) ∧
    (∀ cpus, .started job cpus none ∈ started.2 →
      launch.setup.runner job cpus = EmbeddedRunner.threaded registry snapshot job cpus →
      '\x00' ∈ job.name.toList →
      started.2 = [.started job cpus none,
          .passedOn (.embedded ⟨job, cpus⟩) (Ticket.abandonedResult ⟨job, cpus⟩)] ∧
        ∃ panic, started.1.phase = .crashed panic) ∧
    (∀ token connection,
      RunsProgram capacity front launch back token job registry snapshot connection →
      connection.Carries token job { result with env := some snapshot } →
      ((∃ worker, run.1.worker? token = some worker) ∧ resultsOf token run.2 = [] ∨
        run.1.worker? token = none ∧
          ∃ exit, EndedWith capacity front launch back token exit ∧
            resultsOf token run.2 = [(.forked token job, { result with
              env := some snapshot
              vmOut := result.vmOut ++ TestResult.keptLines exit.outLines
              vmErr := result.vmErr ++ TestResult.keptLines exit.errLines })]) ∧
      (¬ IsRunning run.1 token → ∀ (setup : Setup) (order : List Token),
        run.1.phase.isActive = true → order.Perm run.1.liveTokens →
          (run.1.step setup (.reap order)).1.worker? token = none)) ∧
    (run.1.phase = .terminated → run.1.tickets = [] ∧ ∀ token, run.1.worker? token = none) := by
  intro run started shown
  have hc : Consistent run.1 (outstanding run.2) := consistent_trace capacity _
  refine ⟨?_, log_trace capacity _, fun cpus honThread hname => ?_,
    fun cpus hstarted hrunner hname => ?_, fun token connection hprogram hcarries => ?_,
    fun hphase => ?_⟩
  · have hcapacity : run.1.layout.capacity = capacity :=
      ((consistent_ofCapacity capacity).capacity_trace _).trans
        (CpuLayout.capacity_ofCapacity capacity)
    rw [State.refusal?_eq_none_iff, hcapacity]
    exact ⟨hsound, hbudget⟩
  · exact honThread.result (EmbeddedRunner.threaded_of_execute hname hexecute cpus)
  · rcases (consistent_trace capacity front).step_cases launch.setup launch.move with h | h
    · have hnone : started.2 = [] := congrArg Prod.snd h
      rw [hnone] at hstarted
      contradiction
    · exact abandoned_of_nul h hstarted hrunner hname
  · have hresult : StressWorker.resultOf registry snapshot job =
        .ok { result with env := some snapshot } := by
      rw [StressWorker.resultOf, hexecute]
      rfl
    have hs := (hprogram.wellBehaved hcarries hresult).standing
    exact ⟨hs.result, fun hended setup order => hs.worker?_reap hc hended⟩
  · obtain ⟨htickets, -, -⟩ := hc.nil_of_at_rest (.inr hphase)
    obtain ⟨hworkers, -⟩ := hc.at_rest (.inr hphase)
    refine ⟨htickets, fun token => ?_⟩
    rw [State.worker?, hworkers]
    rfl

/-! ## A job in each mode -/

/-- What a workload makes of a job that counts two observations. -/
def countedResult (job : Job) : TestResult :=
  { job := job, status := .normal, states := SortedMap.empty.insert "2" 2 }

/-- A registry with this workload. -/
def countingRegistry : Registry := ⟨[⟨"counter", fun job => .returned (countedResult job)⟩]⟩

/-- The snapshot of the host of the samples. -/
def sampleSnapshot : Environment := .capture sampleHost.facts

/-- The result of the job with the snapshot. -/
def snapshotResult (job : Job) : TestResult :=
  { countedResult job with env := some sampleSnapshot }

/-- An embedded job for one CPU. -/
def embeddedJob (name : String) : Job :=
  ⟨name, 1, ["left"], [.interpreted], .embedded, [], "counter"⟩

/-- A connection of the samples. -/
def sampleConnection : StressWorker.Connection :=
  ⟨[1], Link.defaultPatience, ⟨Link.sharedNow, ⟨Link.sharedNow, .zero⟩⟩,
    ⟨Link.sharedNow, ⟨Link.sharedNow, .zero⟩⟩⟩

/-- What the worker of the forked sample job does when it runs the bundled program. -/
def programActs : List Act :=
  [.request (.pull "fork-token-1"), .handle,
    .request (.push "fork-token-1" (snapshotResult forkedJob)), .handle,
    .exit "fork-token-1" (.silent (.exited 0)), .reap ["fork-token-1"]].map (Act.mk sampleSetup)

theorem carries_sample :
    sampleConnection.Carries "fork-token-1" forkedJob (snapshotResult forkedJob) := by
  constructor <;> decide +kernel

theorem onThread_sample : OnThread 1 [⟨sampleSetup, .submit [embeddedJob "first"]⟩]
    ⟨sampleSetup, .dispatch⟩ [⟨sampleSetup, .finish 0 (snapshotResult (embeddedJob "first"))⟩]
    ⟨embeddedJob "first", [0]⟩ countingRegistry sampleSnapshot where
  starts := List.mem_cons_self
  submits := .inl rfl
  finishes := by
    intro mid setup position result rest hback _ _
    rcases mid with _ | ⟨act, mid⟩
    · obtain ⟨hact, -⟩ := List.cons.inj hback
      obtain ⟨-, rfl⟩ := Move.finish.inj (Act.mk.inj hact).2
      exact EmbeddedRunner.threaded_of_execute (by decide) rfl [0]
    · simp at hback
  drops := by
    intro mid setup position rest hback
    rcases mid with _ | ⟨act, mid⟩ <;> simp at hback

/-- What is shown until the worker of the sample has been served, one effect for every two acts. -/
def servedEffects : List Effect :=
  [.started forkedJob [0, 1] (some "fork-token-1"),
    .pulled "fork-token-1" (.ok (some forkedJob)), .pushed "fork-token-1" (.ok ())]

theorem shown_sample (n : Nat) (hn : n ≤ 2) :
    (runOn 2 ([⟨sampleSetup, .submit [forkedJob]⟩] ++
      ⟨sampleSetup, .dispatch⟩ :: programActs.take (2 * n))).2 = servedEffects.take (n + 1) := by
  rcases n with _ | _ | _ | n
  · rfl
  · rfl
  · rfl
  · omega

theorem runsProgram_sample : RunsProgram 2 [⟨sampleSetup, .submit [forkedJob]⟩]
    ⟨sampleSetup, .dispatch⟩ programActs "fork-token-1" forkedJob countingRegistry sampleSnapshot
    sampleConnection where
  launches := ⟨⟨[0, 1], List.mem_cons_self⟩, _, rfl, rfl⟩
  unused := rfl
  waits := by
    intro mid setup event rest hback _ hnone
    rcases mid with _ | ⟨a, _ | ⟨b, _ | ⟨c, _ | ⟨d, _ | ⟨e, _ | ⟨f, mid⟩⟩⟩⟩⟩⟩ <;>
      simp [programActs] at hback
    · obtain ⟨⟨-, rfl⟩, -⟩ := hback
      exact List.prefix_refl _
    · obtain ⟨rfl, rfl, ⟨-, rfl⟩, -⟩ := hback
      exact absurd (List.mem_of_mem_getLast? rfl) (hnone (.ok (some forkedJob)))
  asks := by
    intro mid setup event rest pulled hback _ hpulled
    rcases mid with _ | ⟨a, _ | ⟨b, _ | ⟨c, _ | ⟨d, _ | ⟨e, _ | ⟨f, mid⟩⟩⟩⟩⟩⟩ <;>
      simp [programActs] at hback
    · have hshown := shown_sample 0 (by omega)
      rw [show programActs.take (2 * 0) = [] from rfl] at hshown
      rw [hshown] at hpulled
      simp [servedEffects] at hpulled
    · obtain ⟨rfl, rfl, ⟨-, rfl⟩, -⟩ := hback
      have hshown := shown_sample 1 (by omega)
      have hgiven : pulled = .ok (some forkedJob) := by
        have hmem : Effect.pulled "fork-token-1" pulled ∈ servedEffects.take 2 := hshown ▸ hpulled
        simpa [servedEffects] using hmem
      rw [hgiven, StressWorker.played_of_granted carries_sample rfl]
      exact List.prefix_refl _
  exits := by
    intro mid setup exit rest hback hrunning
    rcases mid with _ | ⟨a, _ | ⟨b, _ | ⟨c, _ | ⟨d, _ | ⟨e, _ | ⟨f, mid⟩⟩⟩⟩⟩⟩ <;>
      simp [programActs] at hback
    obtain ⟨rfl, rfl, rfl, rfl, ⟨-, rfl⟩, -⟩ := hback
    have hshown := shown_sample 2 (by omega)
    refine ⟨.ok (some forkedJob), .ok (), ?_, ?_, ?_⟩
    · exact hshown ▸ (by simp [servedEffects] : _ ∈ servedEffects.take 3)
    · exact hshown ▸ (by simp [servedEffects] : _ ∈ servedEffects.take 3)
    · rw [StressWorker.played_of_granted carries_sample rfl]
      rfl
  seen := by
    intro mid setup fault rest hback
    rcases mid with _ | ⟨a, _ | ⟨b, _ | ⟨c, _ | ⟨d, _ | ⟨e, _ | ⟨f, mid⟩⟩⟩⟩⟩⟩ <;>
      simp [programActs] at hback

theorem modes_report_alike_sample :
    let shown := shownFrom 1 [⟨sampleSetup, .submit [embeddedJob "first"]⟩] ⟨sampleSetup, .dispatch⟩
      [⟨sampleSetup, .finish 0 (snapshotResult (embeddedJob "first"))⟩]
    let run := runOn 2 ([⟨sampleSetup, .submit [forkedJob]⟩] ++
      ⟨sampleSetup, .dispatch⟩ :: programActs)
    resultsFor ⟨embeddedJob "first", [0]⟩ shown = [snapshotResult (embeddedJob "first")] ∧
      ∃ exit, EndedWith 2 [⟨sampleSetup, .submit [forkedJob]⟩] ⟨sampleSetup, .dispatch⟩ programActs
          "fork-token-1" exit ∧
        resultsOf "fork-token-1" run.2 = [(.forked "fork-token-1" forkedJob,
          { snapshotResult forkedJob with
            vmOut := TestResult.keptLines exit.outLines
            vmErr := TestResult.keptLines exit.errLines })] := by
  intro shown run
  obtain ⟨-, -, hembedded, -, -, -⟩ := modes_report_alike 1
    [⟨sampleSetup, .submit [embeddedJob "first"]⟩] ⟨sampleSetup, .dispatch⟩
    [⟨sampleSetup, .finish 0 (snapshotResult (embeddedJob "first"))⟩] (embeddedJob "first")
    countingRegistry sampleSnapshot (countedResult (embeddedJob "first")) (by decide) (by decide)
    rfl
  obtain ⟨-, -, -, -, hforked, -⟩ := modes_report_alike 2 [⟨sampleSetup, .submit [forkedJob]⟩]
    ⟨sampleSetup, .dispatch⟩ programActs forkedJob countingRegistry sampleSnapshot
    (countedResult forkedJob) (by decide) (by decide) rfl
  constructor
  · have hbegun : begun ⟨embeddedJob "first", [0]⟩ shown = 1 := by decide +kernel
    rcases hembedded [0] onThread_sample (by decide) with ⟨-, hkept⟩ | ⟨others, hresults, hcount⟩
    · exact absurd hkept (by decide +kernel)
    · have hone := hcount.trans hbegun
      have hothers : others.length = 0 := by omega
      rw [List.length_eq_zero_iff.mp hothers] at hresults
      exact hresults
  · have hnone : run.1.worker? "fork-token-1" = none := by decide +kernel
    obtain ⟨hresult, -⟩ := hforked "fork-token-1" sampleConnection runsProgram_sample carries_sample
    rcases hresult with ⟨⟨worker, hworker⟩, -⟩ | ⟨-, exit, hended, hresults⟩
    · exact absurd (hnone.symm.trans hworker) (Option.some_ne_none worker).symm
    · exact ⟨exit, hended, hresults⟩

/-- The conditions of the samples with a runner that has threads. -/
def threadedSetup : Setup :=
  { sampleSetup with runner := .threaded countingRegistry sampleSnapshot }

/-- The registry has a result for the job, and nothing is wrong with the job but the NUL in its
name: the one result that is reported for it is that of a runner that has dropped it, and the run
ends in a panic. -/
theorem nul_named_job_abandoned :
    let job := embeddedJob "a\x00b"
    let run := runOn 1 [⟨threadedSetup, .submit [job]⟩, ⟨threadedSetup, .dispatch⟩]
    job.Sound ∧ job.threads ≤ 1 ∧ countingRegistry.execute job = .ok (countedResult job) ∧
      run.1.log.results = [.failure job .testError
        ["Embedded runner finished without reporting a result"]] ∧
      ∃ panic, run.1.phase = .crashed panic := by
  refine ⟨by decide, by decide, rfl, by decide +kernel, ?_⟩
  exact ⟨_, rfl⟩

end StressBatch.Scheduler
