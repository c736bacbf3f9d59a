import StressBatch.Proofs.Scheduler.Conduct

/-!
# Jobs in line

Pending jobs form a line. A step leaves the line as it is and neither starts nor refuses a job of
it, or it disposes of the first job in it: refuses it, or starts it on the lowest free CPUs. So jobs
are started in the order in which they were handed over, and as long as the first job has to wait
nothing happens to those behind it.
-/

namespace StressBatch.Scheduler

/-! ## Starts and refusals -/

/-- The job that an effect shows to be started. -/
def Effect.launched? : Effect → Option Job
  | .started job _ _ => some job
  | _ => none

/-- The jobs that effects show to be started, in order. -/
def launched (effects : List Effect) : List Job := effects.filterMap Effect.launched?

/-- Whether an effect shows that a job is started or refused. -/
def Effect.disposes : Effect → Bool
  | .started _ _ _ => true
  | .passedOn (.refused _) _ => true
  | _ => false

section Steps

variable {capacity : Nat} {s after : State} {new : List Effect} {held : List Ticket}
  {setup : Setup} {move : Move} {job : Job} {rest : List Job}

theorem isRefused_of_refusal {reason : String} (h : s.refusal? job = some reason) :
    isRefused s.layout.capacity job = true :=
  treatment_eq_none_iff.mp (treatment_of_refused h)

theorem not_isRefused_of_refusal (h : s.refusal? job = none) :
    isRefused s.layout.capacity job = false := by
  have haccepted := treatment_of_accepted h
  rw [treatment_eq_some_iff] at haccepted
  simp only [Bool.and_eq_true, Bool.not_eq_true'] at haccepted
  exact haccepted.1

/-- What a step does to the line of pending jobs. -/
inductive Served (s after : State) : List Effect → Prop where
  /-- The line stays as it is. -/
  | waiting (new : List Effect) (hpending : after.pending = s.pending)
      (hnew : ∀ effect ∈ new, effect.disposes = false) : Served s after new
  /-- The first job is refused. -/
  | refused (job : Job) (result : TestResult) (hpending : s.pending = job :: after.pending)
      (hrefused : isRefused s.layout.capacity job = true) :
    Served s after [.passedOn (.refused job) result]
  /-- The first job is started on the lowest free CPUs. -/
  | started (job : Job) (cpus : List Nat) (layout : CpuLayout) (token : Option Token)
      (new : List Effect) (hpending : s.pending = job :: after.pending)
      (haccepted : isRefused s.layout.capacity job = false)
      (hacquire : s.layout.tryAcquire job.threads = some (cpus, layout))
      (htoken : token.isSome = true ↔ job.dispatch = .forked)
      (hnew : ∀ effect ∈ new, effect.disposes = false) :
    Served s after (.started job cpus token :: new)
  /-- The line is formed. -/
  | formed (hphase : s.phase = .init) : Served s after []
  /-- The run is over, and jobs that come too late are refused. -/
  | closed (jobs : List Job) (hphase : s.phase.isOver = true)
      (hpending : after.pending = s.pending) :
    Served s after
      (jobs.map fun job => .passedOn (.refused job) (State.refusal job State.alreadyRun))

/-- Every step leaves the line as it is or disposes of the first job in it, but for those that form
the line and those after the run. -/
theorem served_of_transition (h : Transition setup s move after new) : Served s after new := by
  cases h with
  | submitted jobs hphase => exact .formed hphase
  | resubmitted jobs hphase => exact .closed jobs hphase rfl
  | refused job rest reason hphase hpending hreason =>
    exact .refused job _ hpending (isRefused_of_refusal hreason)
  | kept job rest cpus layout hphase hpending hreason hdispatch hacquire hrunner =>
    exact .started job cpus layout none [] hpending (not_isRefused_of_refusal hreason) hacquire
      (by simp [hdispatch]) (List.forall_mem_nil _)
  | endedAtOnce job rest cpus layout result phase hphase hpending hreason hdispatch hacquire
      hrunner =>
    refine .started job cpus layout none _ hpending (not_isRefused_of_refusal hreason) hacquire
      (by simp [hdispatch]) fun effect heffect => ?_
    rw [List.mem_singleton.mp heffect]
    rfl
  | forked job rest cpus layout worker hphase hpending hreason hdispatch hacquire hprepare =>
    exact .started job cpus layout _ [] hpending (not_isRefused_of_refusal hreason) hacquire
      (by simp [hdispatch]) (List.forall_mem_nil _)
  | unprepared job rest cpus layout fault hphase hpending hreason hdispatch hacquire hprepare =>
    refine .started job cpus layout _ _ hpending (not_isRefused_of_refusal hreason) hacquire
      (by simp [hdispatch]) fun effect heffect => ?_
    rw [List.mem_singleton.mp heffect]
    rfl
  | reaped order layout hphase horder hrelease =>
    refine .waiting _ rfl fun effect heffect => ?_
    cases ofReap_of_mem heffect <;> rfl
  | _ => exact .waiting _ rfl (by simp [Effect.disposes])

/-! ## The order of starts -/

theorem launched_eq_nil (h : ∀ effect ∈ new, effect.disposes = false) : launched new = [] := by
  refine List.filterMap_eq_nil_iff.mpr fun effect heffect => ?_
  have hinert := h effect heffect
  cases effect with
  | started job cpus token => contradiction
  | _ => rfl

theorem launched_refused (jobs : List Job) (result : Job → TestResult) :
    launched (jobs.map fun job => .passedOn (.refused job) (result job)) = [] := by
  refine List.filterMap_eq_nil_iff.mpr fun effect heffect => ?_
  obtain ⟨job, -, rfl⟩ := List.mem_map.mp heffect
  rfl

/-- A step starts the jobs that are then no longer to be started. -/
theorem Served.launched_eq (hserved : Served s after new) (hbegun : s.phase ≠ .init) :
    launched new ++ after.pending.filter (!isRefused s.layout.capacity ·) =
      s.pending.filter (!isRefused s.layout.capacity ·) := by
  cases hserved with
  | waiting new hpending hnew => rw [launched_eq_nil hnew, hpending, List.nil_append]
  | refused job result hpending hrefused =>
    rw [hpending, List.filter_cons_of_neg (by simp [hrefused])]
    rfl
  | started job cpus layout token new hpending haccepted hacquire htoken hnew =>
    have hone : launched (.started job cpus token :: new) = [job] :=
      congrArg (job :: ·) (launched_eq_nil hnew)
    rw [hone, hpending, List.filter_cons_of_pos (by simp [haccepted])]
    rfl
  | formed hphase => contradiction
  | closed jobs hphase hpending => rw [launched_refused, hpending, List.nil_append]

theorem begun_next (hbegun : s.phase ≠ .init) (h : Transition setup s move after new) :
    after.phase ≠ .init := by
  cases h with
  | submitted jobs hphase => contradiction
  | drained hphase hpending => exact nofun
  | closed elapsed hphase hidle => exact nofun
  | endedAtOnce job rest cpus layout result phase hphase hpending hreason hdispatch hacquire
      hrunner =>
    generalize setup.runner job cpus = submission at hrunner
    cases hrunner <;> exact nofun
  | _ => exact hbegun

/-- A run that has come to an end stays as it has ended. -/
theorem phase_eq_of_over (hover : s.phase.isOver = true) (h : Transition setup s move after new) :
    after.phase = s.phase := by
  cases h with
  | submitted jobs hphase => simp [hphase, Phase.isOver] at hover
  | drained hphase hpending => simp [hphase, Phase.isOver] at hover
  | closed elapsed hphase hidle => simp [hphase, Phase.isOver] at hover
  | endedAtOnce job rest cpus layout result phase hphase hpending hreason hdispatch hacquire
      hrunner => simp [hphase, Phase.isOver] at hover
  | _ => rfl

theorem Consistent.over_trace (hc : Consistent s held) (hover : s.phase.isOver = true)
    (acts : List Act) : (s.trace acts).1.phase.isOver = true := by
  refine hc.trace_induction (P := fun t _ => t.phase.isOver = true) hover ?_
  rintro act before after active shown new - - h hbefore
  rw [phase_eq_of_over hbefore h]
  exact hbefore

/-- The jobs that have been started, and those that are still to be, are all that are not refused,
in order. -/
theorem launched_trace (hc : Consistent s held) (hbegun : s.phase ≠ .init)
    (hcap : s.layout.capacity = capacity) (acts : List Act) :
    launched (s.trace acts).2 ++ (s.trace acts).1.pending.filter (!isRefused capacity ·) =
      s.pending.filter (!isRefused capacity ·) := by
  have htrace : (s.trace acts).1.phase ≠ .init ∧ (s.trace acts).1.layout.capacity = capacity ∧
      launched (s.trace acts).2 ++ (s.trace acts).1.pending.filter (!isRefused capacity ·) =
        s.pending.filter (!isRefused capacity ·) := by
    refine hc.trace_induction (P := fun t shown => t.phase ≠ .init ∧
      t.layout.capacity = capacity ∧
      launched shown ++ t.pending.filter (!isRefused capacity ·) =
        s.pending.filter (!isRefused capacity ·)) ⟨hbegun, hcap, rfl⟩ ?_
    rintro act before after active shown new - hbetween h ⟨hbefore, hcapacity, hline⟩
    have hstep := (served_of_transition h).launched_eq hbefore
    rw [hcapacity] at hstep
    refine ⟨begun_next hbefore h, (hbetween.capacity_next h).trans hcapacity, ?_⟩
    rw [launched, List.filterMap_append, List.append_assoc, ← hline, ← hstep]
    rfl
  exact htrace.2.2

/-- A job is started on the lowest CPUs that are free, as many as it has threads. -/
theorem Served.lowest (hserved : Served s after new) {cpus : List Nat} {token : Option Token}
    (hstarted : .started job cpus token ∈ new) :
    cpus.Pairwise (· < ·) ∧ cpus.length = job.threads ∧ (∀ id ∈ cpus, id ∈ s.layout.free) ∧
      (∀ id ∈ s.layout.free, id ∉ cpus → ∀ low ∈ cpus, low < id) ∧
      (token.isSome = true ↔ job.dispatch = .forked) := by
  cases hserved with
  | waiting new hpending hnew => exact absurd (hnew _ hstarted) nofun
  | refused other result hpending hrefused => exact absurd (List.mem_singleton.mp hstarted) nofun
  | started other taken layout issued new hpending haccepted hacquire htoken hnew =>
    rcases List.mem_cons.mp hstarted with heq | hlater
    · obtain ⟨rfl, rfl, rfl⟩ := Effect.started.inj heq
      have hacquired := CpuLayout.acquired_of_tryAcquire hacquire
      obtain ⟨hfree, hlowest⟩ := CpuLayout.lowest_of_tryAcquire hacquire
      exact ⟨hacquired.ascending, hacquired.length_eq, hfree, hlowest, htoken⟩
    · exact absurd (hnew _ hlater) nofun
  | formed hphase => exact absurd hstarted List.not_mem_nil
  | closed jobs hphase hpending =>
    obtain ⟨other, -, heq⟩ := List.mem_map.mp hstarted
    contradiction

/-! ## Waiting in line -/

theorem Served.pending_suffix (hserved : Served s after new) (hbegun : s.phase ≠ .init) :
    after.pending <:+ s.pending := by
  cases hserved with
  | waiting new hpending hnew => rw [hpending]
  | refused job result hpending hrefused =>
    rw [hpending]
    exact List.suffix_cons job _
  | started job cpus layout token new hpending haccepted hacquire htoken hnew =>
    rw [hpending]
    exact List.suffix_cons job _
  | formed hphase => contradiction
  | closed jobs hphase hpending => rw [hpending]

/-- Nobody joins the line once it has been formed. -/
theorem pending_suffix_trace (hc : Consistent s held) (hbegun : s.phase ≠ .init)
    (acts : List Act) :
    (s.trace acts).1.phase ≠ .init ∧ (s.trace acts).1.pending <:+ s.pending := by
  refine hc.trace_induction (P := fun t _ => t.phase ≠ .init ∧ t.pending <:+ s.pending)
    ⟨hbegun, List.suffix_refl _⟩ ?_
  rintro act before after active shown new - hbetween h ⟨hbefore, hsuffix⟩
  exact ⟨begun_next hbefore h,
    ((served_of_transition h).pending_suffix hbefore).trans hsuffix⟩

theorem Consistent.begun_of_pending (hc : Consistent s held) (hpending : s.pending = job :: rest) :
    s.phase ≠ .init := by
  intro hphase
  rw [hc.pending_eq_nil (.inl hphase)] at hpending
  contradiction

/-- A step that leaves the line as it is starts no job, and refuses only jobs that come when the run
has ended. -/
theorem Consistent.late_of_same (hc : Consistent s held) (hpending : s.pending = job :: rest)
    (hafter : (s.step setup move).1.pending = job :: rest) {effect : Effect}
    (heffect : effect ∈ (s.step setup move).2) (hdisposes : effect.disposes = true) :
    s.phase.isOver = true ∧
      ∃ late, effect = .passedOn (.refused late) (State.refusal late State.alreadyRun) := by
  have hbegun := hc.begun_of_pending hpending
  rcases hc.step_cases setup move with h | h
  · rw [h] at heffect
    exact absurd heffect List.not_mem_nil
  · have hserved := served_of_transition h
    generalize (s.step setup move).1 = after, (s.step setup move).2 = new at *
    cases hserved with
    | waiting new hsame hnew =>
      rw [hnew effect heffect] at hdisposes
      contradiction
    | refused other result hline hrefused =>
      rw [hafter, hpending] at hline
      simp at hline
    | started other cpus layout token new hline haccepted hacquire htoken hnew =>
      rw [hafter, hpending] at hline
      simp at hline
    | formed hphase => contradiction
    | closed jobs hphase hsame =>
      obtain ⟨late, -, rfl⟩ := List.mem_map.mp heffect
      exact ⟨hphase, late, rfl⟩

theorem State.unacquired_of_dispatchJob (h : s.dispatchJob setup job = none) :
    s.refusal? job = none ∧ s.layout.tryAcquire job.threads = none := by
  simp only [State.dispatchJob] at h
  split at h
  · contradiction
  · next hreason =>
    split at h
    · next hacquire => exact ⟨hreason, hacquire⟩
    · contradiction

theorem pending_of_dispatched (h : Transition setup s .dispatch after new) :
    ∃ job, s.pending = job :: after.pending := by
  cases h with
  | refused job rest reason hphase hpending hreason => exact ⟨job, hpending⟩
  | kept job rest cpus layout hphase hpending hreason hdispatch hacquire hrunner =>
    exact ⟨job, hpending⟩
  | endedAtOnce job rest cpus layout result phase hphase hpending hreason hdispatch hacquire
      hrunner => exact ⟨job, hpending⟩
  | forked job rest cpus layout worker hphase hpending hreason hdispatch hacquire hprepare =>
    exact ⟨job, hpending⟩
  | unprepared job rest cpus layout fault hphase hpending hreason hdispatch hacquire hprepare =>
    exact ⟨job, hpending⟩

/-- An attempt to dispatch a job that leaves it in line found too few CPUs free. -/
theorem Consistent.few_of_same (hc : Consistent s held) (hphase : s.phase = .dispatching)
    (hpending : s.pending = job :: rest)
    (hafter : (s.step setup .dispatch).1.pending = job :: rest) :
    s.layout.free.length < job.threads ∧ isRefused s.layout.capacity job = false := by
  have hnone : s.step? setup .dispatch = none := by
    rcases hc.step?_cases setup .dispatch with ⟨hnone, -⟩ | h
    · exact hnone
    · obtain ⟨other, hline⟩ := pending_of_dispatched h
      rw [hafter, hpending] at hline
      simp at hline
  have hdispatch : State.dispatchJob setup { s with pending := rest } job = none := by
    simpa only [State.step?, State.dispatch, hphase, hpending] using hnone
  obtain ⟨hreason, hacquire⟩ := State.unacquired_of_dispatchJob hdispatch
  rw [CpuLayout.length_free]
  exact ⟨CpuLayout.tryAcquire_eq_none_iff.mp hacquire,
    not_isRefused_of_refusal (s := { s with pending := rest }) hreason⟩

/-- While a job is first in line at the beginning and at the end it is so in between. -/
theorem Consistent.pending_between (hc : Consistent s held) (hpending : s.pending = job :: rest)
    {mid back : List Act} (hafter : (s.trace (mid ++ back)).1.pending = job :: rest) :
    (s.trace mid).1.pending = job :: rest := by
  obtain ⟨hbegun, hfront⟩ := pending_suffix_trace hc (hc.begun_of_pending hpending) mid
  obtain ⟨-, hback⟩ := pending_suffix_trace (hc.trace mid) hbegun back
  rw [State.trace_append] at hafter
  rw [hafter] at hback
  rw [hpending] at hfront
  exact (hback.eq_of_length_le hfront.length_le).symm

end Steps

/-- Jobs are started in order, on the lowest free CPUs, and none is overtaken. The jobs that are
started are, in the order in which they were handed over, those that are not refused, and when all
have been dispatched each of them has been started. A job is started on as many CPUs as it has
threads, the lowest that are free at that moment. And as long as a job is first in line no job is
started or refused, but for those that are handed over when a panic has ended the run, and every
attempt to dispatch it finds fewer CPUs free than it has threads. -/
theorem dispatch_in_order (capacity : Nat) (before during : List Act) (setup : Setup)
    (jobs : List Job) (hbefore : ∀ act ∈ before, act.move.jobs? = none) :
    let run := runOn capacity (before ++ ⟨setup, .submit jobs⟩ :: during)
    (launched run.2 ++ run.1.pending.filter (!isRefused capacity ·) =
        jobs.filter (!isRefused capacity ·) ∧
      (run.1.phase = .draining ∨ run.1.phase = .terminated →
        launched run.2 = jobs.filter (!isRefused capacity ·))) ∧
    (∀ (front : List Act) (act : Act) (job : Job) (cpus : List Nat) (token : Option Token),
      let s := (runOn capacity front).1
      .started job cpus token ∈ (s.step act.setup act.move).2 →
        cpus.Pairwise (· < ·) ∧ cpus.length = job.threads ∧ (∀ id ∈ cpus, id ∈ s.layout.free) ∧
        (∀ id ∈ s.layout.free, id ∉ cpus → ∀ low ∈ cpus, low < id) ∧
        (token.isSome = true ↔ job.dispatch = .forked)) ∧
    (∀ (front mid : List Act) (job : Job) (rest : List Job),
      let s := (runOn capacity front).1
      s.pending = job :: rest → (s.trace mid).1.pending = job :: rest →
        (∀ effect ∈ (s.trace mid).2, effect.disposes = true →
          (s.trace mid).1.phase.isOver = true ∧
            ∃ late, effect = .passedOn (.refused late) (State.refusal late State.alreadyRun)) ∧
        ∀ first act back, mid = first ++ act :: back → act.move = .dispatch →
          (s.trace first).1.phase = .dispatching →
            (s.trace first).1.layout.free.length < job.threads ∧
            isRefused capacity job = false) := by
  intro run
  refine ⟨?_, ?_, ?_⟩
  · -- the order of starts
    obtain ⟨queue, -, hc, htrace⟩ := trace_handed_over capacity setup jobs hbefore
    have hrun : run = (State.handedOver capacity jobs queue).trace during := htrace during
    have hline : launched run.2 ++ run.1.pending.filter (!isRefused capacity ·) =
        jobs.filter (!isRefused capacity ·) := by
      rw [hrun]
      exact launched_trace hc (by simp [State.handedOver]) (CpuLayout.capacity_ofCapacity capacity)
        during
    refine ⟨hline, fun hphase => ?_⟩
    have hover := (consistent_trace capacity _).pending_eq_nil (.inr hphase)
    rw [hover, List.filter_nil, List.append_nil] at hline
    exact hline
  · -- the lowest free CPUs
    intro front act job cpus token s hstarted
    rcases (consistent_trace capacity front).step_cases act.setup act.move with h | h
    · rw [h] at hstarted
      exact absurd hstarted List.not_mem_nil
    · exact (served_of_transition h).lowest hstarted
  · -- waiting in line
    intro front mid job rest s hpending hafter
    have hc : Consistent s _ := consistent_trace capacity front
    have hbetween : ∀ first act back, mid = first ++ act :: back →
        (s.trace first).1.pending = job :: rest ∧
          ((s.trace first).1.step act.setup act.move).1.pending = job :: rest := by
      rintro first act back rfl
      refine ⟨hc.pending_between hpending hafter, ?_⟩
      have hnext : first ++ act :: back = (first ++ [act]) ++ back := by simp
      rw [hnext] at hafter
      have hstep := hc.pending_between hpending hafter
      rwa [State.trace_concat] at hstep
    refine ⟨fun effect heffect hdisposes => ?_, ?_⟩
    · obtain ⟨first, act, back, hmid, hmem⟩ := State.exists_of_mem_trace heffect
      obtain ⟨hfirst, hnext⟩ := hbetween first act back hmid
      obtain ⟨hover, hlate⟩ := (hc.trace first).late_of_same hfirst hnext hmem hdisposes
      refine ⟨?_, hlate⟩
      rw [hmid, State.trace_append]
      exact (hc.trace first).over_trace hover (act :: back)
    · rintro first ⟨conditions, move⟩ back hmid rfl hphase
      obtain ⟨hfirst, hnext⟩ := hbetween first ⟨conditions, .dispatch⟩ back hmid
      obtain ⟨hfew, haccepted⟩ := (hc.trace first).few_of_same hphase hfirst hnext
      have hcap : (s.trace first).1.layout.capacity = capacity :=
        ((hc.capacity_trace first).trans
          ((consistent_ofCapacity capacity).capacity_trace front)).trans
            (CpuLayout.capacity_ofCapacity capacity)
      exact ⟨hfew, hcap ▸ haccepted⟩

/-! ## A line in which a job has to wait -/

/-- The beginning of the sample run: the embedded job has been started. -/
def lineActs : List Act :=
  [⟨sampleSetup, .request (.kill "nobody")⟩, ⟨sampleSetup, .submit sampleJobs⟩,
    ⟨sampleSetup, .dispatch⟩]

/-- The forked job cannot be dispatched until the embedded one has given its CPU back. -/
def waitingActs : List Act :=
  [.dispatch, .finish 0 { job := default, status := .normal }, .notify 0, .handle,
    .handle].map (Act.mk sampleSetup)

theorem dispatch_in_order_sample :
    let run := runOn 2 ([⟨sampleSetup, .request (.kill "nobody")⟩] ++
      ⟨sampleSetup, .submit sampleJobs⟩ :: sampleMoves.map (Act.mk sampleSetup))
    let s := (runOn 2 lineActs).1
    run.1.phase = .terminated ∧ launched run.2 = sampleJobs.take 2 ∧
      s.pending = sampleJobs.drop 1 ∧ (s.trace waitingActs).1.pending = sampleJobs.drop 1 ∧
      s.layout.free.length < 2 ∧
      (∀ effect ∈ (s.trace waitingActs).2, effect.disposes = false) ∧
      ∀ id ∈ (runOn 2 (lineActs.take 2)).1.layout.free, id ∉ [0] → 0 < id := by
  intro run s
  obtain ⟨⟨-, hall⟩, hlowest, hwaiting⟩ := dispatch_in_order 2
    [⟨sampleSetup, .request (.kill "nobody")⟩] (sampleMoves.map (Act.mk sampleSetup)) sampleSetup
    sampleJobs (by decide)
  have hphase : run.1.phase = .terminated := by decide +kernel
  have hpending : s.pending = sampleJobs.drop 1 := by decide +kernel
  have hafter : (s.trace waitingActs).1.pending = sampleJobs.drop 1 := by decide +kernel
  obtain ⟨hlate, hfew⟩ := hwaiting lineActs waitingActs _ _ hpending hafter
  have hgoing : (s.trace waitingActs).1.phase.isOver ≠ true := by decide +kernel
  have hinert : ∀ effect ∈ (s.trace waitingActs).2, effect.disposes = false :=
    fun effect heffect => Bool.eq_false_iff.mpr (mt (fun h => (hlate effect heffect h).1) hgoing)
  obtain ⟨-, -, -, hlow, -⟩ := hlowest (lineActs.take 2) ⟨sampleSetup, .dispatch⟩
    ⟨"first", 1, ["left"], [.interpreted], .embedded, [], "counter"⟩ [0] none List.mem_cons_self
  refine ⟨hphase, (hall (.inr hphase)).trans (by decide), hpending, hafter, ?_, hinert,
    fun id hid hother => hlow id hid hother 0 List.mem_cons_self⟩
  exact (hfew [] ⟨sampleSetup, .dispatch⟩ _ rfl rfl (by decide +kernel)).1

end StressBatch.Scheduler
