import StressBatch.Proofs.Scheduler.Outcome

/-!
# The ledger of violations

What counts as a breach of the protocol is said here of a state and the move that is carried out in
it, apart from how the scheduler goes about it. What a run notes is exactly what its moves come to,
in order. And when a run is over it was clean exactly if nothing was noted and every job ended well:
an embedded one, or a forked one whose worker left a result of its own.
-/

namespace StressBatch.Scheduler

namespace State

/-! ## Breaches -/

/-- The breach of the protocol that an event is: a request under a token that names no live worker,
or a result for a live worker that has one. -/
def breach? (s : State) : Event → Option Violation
  | .pull token => if token ∈ s.liveTokens then none else some ⟨token, .unknownToken⟩
  | .push token _ =>
    match s.worker? token with
    | none => some ⟨token, .unknownToken⟩
    | some worker => if worker.slot.result?.isSome then some ⟨token, .publishedTwice⟩ else none
  | .kill _ => none
  | .released _ => none

/-- The event that a move handles. -/
def handled? (s : State) : Move → Option Event
  | .handle => if s.phase.isActive then s.queue.head? else none
  | _ => none

/-- The workers that a move checks on, in order. -/
def checkedOn (s : State) : Move → List Worker
  | .reap order =>
    if s.phase.isActive ∧ order.Perm s.liveTokens then order.filterMap s.worker? else []
  | _ => []

/-- The breaches of the protocol that are met when a move is carried out, in order: by the event
that is handled, and by the workers that are harvested. -/
def breaches (s : State) (move : Move) : List Violation :=
  ((s.handled? move).bind s.breach?).toList ++ (s.checkedOn move).filterMap Worker.breach?

/-- The results of their own that workers leave which a move harvests, in order. -/
def own (s : State) (move : Move) : List (Origin × TestResult) :=
  (s.checkedOn move).filterMap Worker.own?

/-- What `f` makes of the moves of a run, each in the state that it is carried out in. -/
def along {α : Type} (f : State → Move → List α) (s : State) : List Act → List α
  | [] => []
  | act :: acts => f s act.move ++ (s.step act.setup act.move).1.along f acts

theorem along_concat {α : Type} (f : State → Move → List α) (s : State) (acts : List Act)
    (act : Act) : s.along f (acts ++ [act]) = s.along f acts ++ f (s.trace acts).1 act.move := by
  induction acts generalizing s with
  | nil => simp [along, trace]
  | cons first acts ih =>
    rw [List.cons_append, along, along, trace]
    simp only
    rw [ih, List.append_assoc]

end State

/-! ## What a step notes -/

section Steps

variable {acts : List Act} {s after : State} {new : List Effect} {held : List Ticket}
  {setup : Setup} {move : Move} {order : List Token}

theorem State.handled?_of_queue {event : Event} {rest : List Event}
    (hphase : s.phase.isActive = true) (hqueue : s.queue = event :: rest) :
    s.handled? .handle = some event := by
  unfold State.handled?
  rw [if_pos hphase, hqueue]
  rfl

theorem State.checkedOn_reap (hphase : s.phase.isActive = true)
    (horder : order.Perm s.liveTokens) :
    s.checkedOn (.reap order) = order.filterMap s.worker? :=
  if_pos ⟨hphase, horder⟩

/-- A move that is not possible handles no event and checks on no worker. -/
theorem State.idle_of_step?_eq_none (h : s.step? setup move = none) :
    s.handled? move = none ∧ s.checkedOn move = [] := by
  cases move with
  | handle =>
    refine ⟨?_, rfl⟩
    simp only [State.handled?]
    split
    · next hactive =>
      cases hqueue : s.queue with
      | nil => rfl
      | cons event rest => simp [State.step?, State.handle, hactive, hqueue] at h
    · rfl
  | reap order =>
    refine ⟨rfl, ?_⟩
    simp only [State.checkedOn]
    split
    · next hreap => simp [State.step?, State.reap, hreap.1, List.isPerm_iff.mpr hreap.2] at h
    · rfl
  | _ => exact ⟨rfl, rfl⟩

theorem State.breaches_of_step?_eq_none (h : s.step? setup move = none) :
    s.breaches move = [] := by
  obtain ⟨hhandled, hchecked⟩ := State.idle_of_step?_eq_none h
  unfold State.breaches
  rw [hhandled, hchecked]
  rfl

theorem State.own_of_step?_eq_none (h : s.step? setup move = none) : s.own move = [] := by
  unfold State.own
  rw [(State.idle_of_step?_eq_none h).2]
  rfl

theorem State.breaches_handle {event : Event} {rest : List Event}
    (hphase : s.phase.isActive = true) (hqueue : s.queue = event :: rest) :
    s.breaches .handle = (s.breach? event).toList := by
  unfold State.breaches
  rw [State.handled?_of_queue hphase hqueue]
  exact List.append_nil _

/-- A live worker that takes no result has one. -/
theorem Sourced.isSome_of_refused (hs : Sourced acts s) {token : Token} {worker : Worker}
    {result : TestResult} {violation : Violation} (hworker : s.worker? token = some worker)
    (hrecord : worker.record result = .error violation) :
    worker.slot.result?.isSome = true ∧ violation = ⟨token, .publishedTwice⟩ := by
  obtain ⟨hmem, htoken⟩ := State.token_of_worker? hworker
  obtain ⟨hslot, rfl⟩ := Worker.record_eq_error hrecord
  obtain ⟨recorded, hrecorded, -⟩ := hs.slots worker hmem
  refine ⟨?_, by rw [htoken]⟩
  rw [hrecorded] at hslot ⊢
  rw [Worker.result?_slotOf]
  cases recorded with
  | none => contradiction
  | some handed => rfl

/-- The breaches that are found when some workers are harvested are those that were found when they
were checked on. -/
theorem violations_of_over (checked : List (Worker × Checked)) :
    (checked.filter fun c => c.2.isOver).filterMap violation? = checked.filterMap violation? := by
  induction checked with
  | nil => rfl
  | cons first rest ih =>
    obtain ⟨worker, found⟩ := first
    cases found <;> simpa [Checked.isOver, List.filterMap_cons, violation?] using ih

/-- What is noted of workers that are harvested are the breaches that they commit. -/
theorem Consistent.violations_of_endings (hc : Consistent s held) (hs : Sourced acts s)
    (order : List Token) :
    (s.endings order).filterMap violation? =
      (order.filterMap s.worker?).filterMap Worker.breach? := by
  unfold State.endings
  rw [violations_of_over, State.checks_eq, List.filterMap_map]
  refine List.filterMap_congr fun worker hworker => ?_
  obtain ⟨token, -, hfound⟩ := List.mem_filterMap.mp hworker
  exact hc.violation?_check hs (State.token_of_worker? hfound).1

/-- A step notes the breaches of the protocol that it meets, and nothing else. -/
theorem Consistent.violations_next (hc : Consistent s held) (hs : Sourced acts s)
    (h : Transition setup s move after new) :
    after.summary.violations = s.summary.violations ++ s.breaches move := by
  cases h with
  | pulled token rest worker hphase hqueue hworker =>
    have hnone : s.breach? (.pull token) = none :=
      if_pos (State.mem_liveTokens_of_worker? hworker)
    rw [State.breaches_handle hphase hqueue, hnone]
    exact (List.append_nil _).symm
  | pulledUnknown token rest hphase hqueue hworker =>
    have hbreach : s.breach? (.pull token) = some ⟨token, .unknownToken⟩ :=
      if_neg (State.worker?_eq_none hworker)
    rw [State.breaches_handle hphase hqueue, hbreach]
    rfl
  | pushed token result rest worker recorded hphase hqueue hworker hrecord =>
    have hnone : s.breach? (.push token result) = none := by
      simp [State.breach?, hworker, (Worker.record_eq_ok hrecord).1, ResultSlot.result?]
    rw [State.breaches_handle hphase hqueue, hnone]
    exact (List.append_nil _).symm
  | pushedAgain token result rest worker violation hphase hqueue hworker hrecord =>
    obtain ⟨hfull, rfl⟩ := hs.isSome_of_refused hworker hrecord
    have hbreach : s.breach? (.push token result) = some ⟨token, .publishedTwice⟩ := by
      simp [State.breach?, hworker, hfull]
    rw [State.breaches_handle hphase hqueue, hbreach]
    rfl
  | pushedUnknown token result rest hphase hqueue hworker =>
    have hbreach : s.breach? (.push token result) = some ⟨token, .unknownToken⟩ := by
      simp [State.breach?, hworker]
    rw [State.breaches_handle hphase hqueue, hbreach]
    rfl
  | reclaimed cpus rest layout hphase hqueue hrelease =>
    rw [State.breaches_handle hphase hqueue]
    exact (List.append_nil _).symm
  | killed token rest hphase hqueue =>
    rw [State.breaches_handle hphase hqueue]
    exact (List.append_nil _).symm
  | reaped order layout hphase horder hrelease =>
    rw [hc.violations_of_endings hs order, ← State.checkedOn_reap hphase horder]
    rfl
  | _ => exact (List.append_nil _).symm

theorem Consistent.passed_of_endings (hc : Consistent s held) (hs : Sourced acts s)
    (order : List Token) :
    (s.endings order).countP hasPassed =
      ((order.filterMap s.worker?).filterMap Worker.own?).length := by
  unfold State.endings
  rw [List.countP_filter, State.checks_eq, List.countP_map, List.length_filterMap_eq_countP]
  refine List.countP_congr fun worker hworker => ?_
  obtain ⟨token, -, hfound⟩ := List.mem_filterMap.mp hworker
  obtain ⟨hmem, -⟩ := State.token_of_worker? hfound
  have hpassed := hc.hasPassed_check hs hmem
  have hdue := hc.due_cases hs hmem
  have howed := hc.owed_cases hmem
  simp only [Function.comp_apply, hpassed, Bool.and_eq_true, and_iff_left_iff_imp]
  -- a worker that leaves a result of its own is over, so it is harvested
  intro hown
  rcases howed with ⟨-, hnone⟩ | ⟨hover, -⟩
  · rcases hdue with hdue | ⟨hnot, -⟩
    · rw [← hdue, hnone] at hown
      contradiction
    · rw [hnot] at hown
      contradiction
  · exact hover

theorem Consistent.own_sublist (hc : Consistent s held) (hs : Sourced acts s) :
    (s.workers.filterMap Worker.own?).Sublist (s.workers.filterMap due?) := by
  have hall : ∀ workers : List Worker, (∀ worker ∈ workers, worker ∈ s.workers) →
      (workers.filterMap Worker.own?).Sublist (workers.filterMap due?) := by
    intro workers hsub
    induction workers with
    | nil => exact List.Sublist.refl _
    | cons first rest ih =>
      have hrest := ih fun worker h => hsub worker (List.mem_cons_of_mem first h)
      have hcases := hc.due_cases hs (hsub first List.mem_cons_self)
      cases hown : first.own? with
      | none =>
        rw [List.filterMap_cons_none hown]
        refine hrest.trans ?_
        exact (List.sublist_cons_self first rest).filterMap due?
      | some r =>
        have hdue : due? first = some r := by
          rcases hcases with hsame | ⟨hnone, -⟩
          · exact hsame.trans hown
          · rw [hnone] at hown
            contradiction
        rw [List.filterMap_cons_some hown, List.filterMap_cons_some hdue]
        exact hrest.cons_cons r
  exact hall s.workers fun worker h => h

/-- A step counts as passed the results of their own that workers leave, and these are among the
results that it passes on. -/
theorem Consistent.own_next (hc : Consistent s held) (hs : Sourced acts s)
    (h : Transition setup s move after new) :
    after.summary.forkedPassed = s.summary.forkedPassed + (s.own move).length ∧
      (s.own move).Subperm (passed new) := by
  cases h with
  | reaped order layout hphase horder hrelease =>
    unfold State.own
    rw [State.checkedOn_reap hphase horder]
    refine ⟨congrArg (s.summary.forkedPassed + ·) (hc.passed_of_endings hs order), ?_⟩
    have hperm := (State.workers_perm hc.nodup_tokens horder).filterMap Worker.own?
    refine hperm.subperm.trans ((hc.own_sublist hs).subperm.trans ?_)
    exact (hc.passed_reap horder).symm.subperm
  | _ => exact ⟨rfl, List.nil_subperm⟩

end Steps

/-! ## What a run notes -/

section Runs

variable (capacity : Nat)

theorem violations_runOn (acts : List Act) :
    (runOn capacity acts).1.summary.violations =
      (State.ofCapacity capacity).along State.breaches acts := by
  induction acts using List.reverseRecOn with
  | nil => rfl
  | append_singleton acts act ih =>
    have hc := consistent_trace capacity acts
    rw [State.along_concat, ← ih]
    unfold runOn
    rw [State.trace_concat]
    rcases hc.step?_cases act.setup act.move with ⟨hnone, hstep⟩ | h
    · rw [hstep, State.breaches_of_step?_eq_none hnone, List.append_nil, List.append_nil]
    · exact hc.violations_next (sourced_runOn capacity acts) h

/-- The results of their own that workers have left in a run. -/
def ownResults (acts : List Act) : List (Origin × TestResult) :=
  (State.ofCapacity capacity).along State.own acts

theorem own_runOn (acts : List Act) :
    (runOn capacity acts).1.summary.forkedPassed = (ownResults capacity acts).length ∧
      (ownResults capacity acts).Subperm (passed (runOn capacity acts).2) := by
  induction acts using List.reverseRecOn with
  | nil => exact ⟨rfl, List.nil_subperm⟩
  | append_singleton acts act ih =>
    obtain ⟨hcount, hsub⟩ := ih
    have hc := consistent_trace capacity acts
    unfold ownResults at hcount hsub ⊢
    unfold runOn at hcount hsub ⊢
    rw [State.along_concat, List.length_append, State.trace_concat, ← hcount]
    rcases hc.step?_cases act.setup act.move with ⟨hnone, hstep⟩ | h
    · rw [hstep, State.own_of_step?_eq_none hnone, List.append_nil, List.append_nil]
      exact ⟨rfl, hsub⟩
    · obtain ⟨hnext, hnew⟩ := hc.own_next (sourced_runOn capacity acts) h
      rw [passed_append]
      exact ⟨hnext, hsub.append hnew⟩

theorem State.mem_along {α : Type} {f : State → Move → List α} {s : State} {acts : List Act} {a : α}
    (h : a ∈ s.along f acts) : ∃ t move, a ∈ f t move := by
  induction acts generalizing s with
  | nil => exact absurd h List.not_mem_nil
  | cons act acts ih =>
    rcases List.mem_append.mp h with hfirst | hrest
    · exact ⟨s, act.move, hfirst⟩
    · exact ih hrest

theorem mode?_of_own {acts : List Act} {r : Origin × TestResult}
    (h : r ∈ ownResults capacity acts) : r.1.mode? = some .forked := by
  obtain ⟨s, move, hmem⟩ := State.mem_along h
  obtain ⟨worker, -, hown⟩ := List.mem_filterMap.mp hmem
  unfold Worker.own? at hown
  split at hown
  · obtain rfl := Option.some.inj hown
    rfl
  · contradiction

/-- The results of the jobs that ended well in a run: those of embedded jobs, and those of their own
that the workers of forked jobs have left. -/
def endedWell (acts : List Act) : List (Origin × TestResult) :=
  (passed (runOn capacity acts).2).filter (fun r => r.1.mode? = some .embedded) ++
    ownResults capacity acts

theorem endedWell_subperm (acts : List Act) :
    (endedWell capacity acts).Subperm (passed (runOn capacity acts).2) := by
  have hforked : (ownResults capacity acts).filter (fun r => !(r.1.mode? = some .embedded : Bool)) =
      ownResults capacity acts := by
    refine List.filter_eq_self.mpr fun r hr => ?_
    rw [mode?_of_own capacity hr]
    rfl
  have hown := (own_runOn capacity acts).2.filter
    fun r : Origin × TestResult => !(r.1.mode? = some .embedded : Bool)
  rw [hforked] at hown
  refine ((List.Subperm.refl _).append hown).trans ?_
  exact (List.filter_append_perm _ _).subperm

theorem length_endedWell (acts : List Act) :
    (endedWell capacity acts).length = tally (some .embedded) (passed (runOn capacity acts).2) +
      (runOn capacity acts).1.summary.forkedPassed := by
  unfold endedWell
  rw [List.length_append, (own_runOn capacity acts).1, ← List.countP_eq_length_filter]
  rfl

end Runs

theorem subperm_map {α β : Type} (f : α → β) {xs ys : List α} (h : xs.Subperm ys) :
    (xs.map f).Subperm (ys.map f) := by
  obtain ⟨zs, hperm, hsub⟩ := h
  exact ⟨zs.map f, hperm.map f, hsub.map f⟩

/-- A summary that accounts for all jobs is clean exactly if it notes nothing and counts all jobs as
well ended. -/
theorem isClean_iff_of_results {summary : Summary Violation}
    (h : summary.results = summary.jobs) : summary.isClean = true ↔
      summary.violations = [] ∧
        summary.embeddedCompleted + summary.forkedPassed = summary.jobs := by
  unfold Summary.results at h
  simp only [Summary.isClean, Bool.and_eq_true, List.isEmpty_iff, beq_iff_eq]
  constructor
  · rintro ⟨⟨hnone, hmade⟩, hrejected⟩
    exact ⟨hnone, by omega⟩
  · rintro ⟨hnone, hall⟩
    exact ⟨⟨hnone, by omega⟩, by omega⟩

/-- The ledger of violations. A run notes the breaches of the protocol that it meets, each once and
in order, under the token of whoever commits them, and nothing else. When the first run of a
scheduler is over it was clean exactly if nothing is noted and every job ended well; the results of
the jobs that did are in the log, and whether all did can be told from the counts. The same counts
say whether things are clean after more jobs have been handed over. -/
theorem violation_ledger (capacity : Nat) :
    (∀ acts, let s := (runOn capacity acts).1
      let met := (State.ofCapacity capacity).along State.breaches acts
      s.summary.violations = met ∧ s.summary.violations.map Violation.message =
        met.map fun v => "protocol violation by " ++ v.token ++ ": " ++ v.reason.message) ∧
    ∀ before during later setup jobs, (∀ act ∈ before, act.move.jobs? = none) →
      (∀ act ∈ during, act.move.jobs? = none) →
      let acts := before ++ ⟨setup, .submit jobs⟩ :: during
      let run := runOn capacity acts
      run.1.phase = .terminated →
      let well := endedWell capacity acts
      let t := (run.1.trace later).1
      (run.1.summary.isClean = true ↔
        run.1.summary.violations = [] ∧ (well.map fun r => r.1.job).Perm jobs) ∧
      ((well.map fun r => r.1.job).Perm jobs ↔
        run.1.summary.embeddedCompleted + run.1.summary.forkedPassed = run.1.summary.jobs) ∧
      (well.map Prod.snd).Subperm run.1.log.results ∧ run.1.summary.jobs = jobs.length ∧
      (t.summary.isClean = true ↔ t.summary.violations = [] ∧
        t.summary.embeddedCompleted + t.summary.forkedPassed = t.summary.jobs) := by
  refine ⟨fun acts => ?_, ?_⟩
  · -- what is noted
    intro s met
    have hmet : s.summary.violations = met := violations_runOn capacity acts
    exact ⟨hmet, congrArg (List.map Violation.message) hmet⟩
  · -- what counts as clean
    intro before during later setup jobs hbefore hduring acts run hreturned well t
    have hc : Consistent run.1 (outstanding run.2) := consistent_trace capacity acts
    have hledger : Ledger capacity jobs run.1 (passed run.2) :=
      ledger_run capacity setup jobs hbefore hduring
    have hlog : run.1.log.results = (passed run.2).map Prod.snd := log_trace capacity acts
    obtain ⟨hjobs, -, hcount, hresults, hcompleted⟩ := hledger.returned hc hlog hreturned
    obtain ⟨htickets, -, -⟩ := hc.nil_of_at_rest (.inr hreturned)
    have hsum : run.1.summary.results = run.1.summary.jobs := hresults.trans hcount.symm
    have hsub : well.Subperm (passed run.2) := endedWell_subperm capacity acts
    have hlength : well.length =
        run.1.summary.embeddedCompleted + run.1.summary.forkedPassed := by
      have htally := hledger.dispatched_eq
      rw [htickets, List.length_nil, Nat.add_zero] at htally
      rw [hcompleted, htally]
      exact length_endedWell capacity acts
    -- the jobs that ended well are among those handed over, so only their number matters
    have hall : (well.map fun r => r.1.job).Perm jobs ↔
        run.1.summary.embeddedCompleted + run.1.summary.forkedPassed = run.1.summary.jobs := by
      rw [← hlength, hcount, ← List.length_map (f := fun r : Origin × TestResult => r.1.job)]
      refine ⟨List.Perm.length_eq, fun h => ?_⟩
      exact ((subperm_map _ hsub).trans hjobs.subperm).perm_of_length_le (Nat.le_of_eq h.symm)
    refine ⟨?_, hall, hlog ▸ subperm_map Prod.snd hsub, hcount, ?_⟩
    · rw [hall]
      exact isClean_iff_of_results hsum
    · obtain ⟨queue, hlater⟩ := hc.trace_of_terminated hreturned later
      refine isClean_iff_of_results ?_
      have ht : t = _ := hlater
      rw [ht]
      unfold Summary.results at hsum ⊢
      simp only
      omega

/-! ## A run that breaks the protocol, and one that does not -/

/-- Two workers: a stranger pulls, one worker pushes twice, nobody is killed, and the other worker
ends without a result. -/
def rudeActs : List Act :=
  [.submit [forkedJob, forkedJob], .dispatch, .dispatch, .request (.pull "nobody"), .handle,
    .request (.push "fork-token-1" { job := default, status := .normal }), .handle,
    .request (.push "fork-token-1" { job := default, status := .vmError }), .handle,
    .request (.kill "nobody"), .handle, .exit "fork-token-2" (.silent (.exited 0)),
    .reap ["fork-token-2", "fork-token-1"]].map (Act.mk sampleSetup)

theorem violation_ledger_sample :
    let acts := [⟨sampleSetup, .request (.kill "nobody")⟩] ++
      ⟨sampleSetup, .submit (sampleJobs.take 2)⟩ :: sampleMoves.map (Act.mk sampleSetup)
    let s := (runOn 2 acts).1
    (runOn 4 rudeActs).1.summary.violations =
        [⟨"nobody", .unknownToken⟩, ⟨"fork-token-1", .publishedTwice⟩,
          ⟨"fork-token-2", .noResult⟩] ∧
      s.phase = .terminated ∧ s.summary.isClean = true ∧
      ((endedWell 2 acts).map fun r => r.1.job).Perm (sampleJobs.take 2) := by
  intro acts s
  obtain ⟨hrude, -⟩ := violation_ledger 4
  obtain ⟨-, hwell⟩ := violation_ledger 2
  have hreturned : s.phase = .terminated := by decide +kernel
  have hclean : s.summary.isClean = true := by decide +kernel
  obtain ⟨hiff, -⟩ := hwell [⟨sampleSetup, .request (.kill "nobody")⟩]
    (sampleMoves.map (Act.mk sampleSetup)) [] sampleSetup (sampleJobs.take 2) (by decide)
    (by decide) hreturned
  refine ⟨(hrude rudeActs).1.trans ?_, hreturned, hclean, (hiff.mp hclean).2⟩
  decide +kernel

end StressBatch.Scheduler
