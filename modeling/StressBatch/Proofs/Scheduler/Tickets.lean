import StressBatch.Proofs.Embedded
import StressBatch.Proofs.Scheduler.Conduct
import StressBatch.Scheduler.Session

/-!
# The results of embedded jobs

An embedded job gets one result for every time it is started, and gets it from its runner: at once,
or when the runner finishes or drops the job. As long as a runner keeps a job nobody else can be
started on its CPUs, so the first result after a start is the one for that start.
-/

namespace StressBatch.Scheduler

/-- How often an embedded job was started on its CPUs. -/
def begun (ticket : Ticket) (effects : List Effect) : Nat :=
  (effects.filterMap Effect.ticket?).count ticket

/-- The result that an effect passes on for an embedded job. -/
def Effect.resultFor? (ticket : Ticket) : Effect → Option TestResult
  | .passedOn origin result => if origin = .embedded ticket then some result else none
  | _ => none

/-- The results that were passed on for an embedded job on its CPUs. -/
def resultsFor (ticket : Ticket) (effects : List Effect) : List TestResult :=
  effects.filterMap (Effect.resultFor? ticket)

section Steps

variable {setup : Setup} {s after : State} {move : Move} {new effects more : List Effect}
  {held : List Ticket} {ticket : Ticket} {own : TestResult}

@[simp] theorem begun_nil : begun ticket [] = 0 := rfl

@[simp] theorem begun_cons (effect : Effect) : begun ticket (effect :: effects) =
    begun ticket effects + if effect.ticket? = some ticket then 1 else 0 := by
  rw [begun, List.filterMap_cons]
  cases h : effect.ticket? <;> simp [begun, List.count_cons]

@[simp] theorem begun_append :
    begun ticket (effects ++ more) = begun ticket effects + begun ticket more := by
  rw [begun, List.filterMap_append, List.count_append]
  rfl

@[simp] theorem resultsFor_nil : resultsFor ticket [] = [] := rfl

@[simp] theorem resultsFor_cons (effect : Effect) : resultsFor ticket (effect :: effects) =
    (effect.resultFor? ticket).toList ++ resultsFor ticket effects := by
  rw [resultsFor, List.filterMap_cons]
  cases h : effect.resultFor? ticket <;> simp [resultsFor]

@[simp] theorem resultsFor_append :
    resultsFor ticket (effects ++ more) = resultsFor ticket effects ++ resultsFor ticket more :=
  List.filterMap_append

theorem begun_ne_zero_iff :
    begun ticket effects ≠ 0 ↔ .started ticket.job ticket.cpus none ∈ effects := by
  rw [begun, ← Nat.pos_iff_ne_zero, List.count_pos_iff, List.mem_filterMap]
  constructor
  · rintro ⟨effect, hmem, hticket⟩
    unfold Effect.ticket? at hticket
    split at hticket
    · obtain rfl := Option.some.inj hticket
      exact hmem
    · contradiction
  · intro hmem
    exact ⟨_, hmem, rfl⟩

/-- Effects that concern no embedded job. -/
theorem unconcerned_of_forall
    (h : ∀ effect ∈ effects, effect.ticket? = none ∧ effect.resultFor? ticket = none) :
    begun ticket effects = 0 ∧ resultsFor ticket effects = [] := by
  have hbegun : effects.filterMap Effect.ticket? = [] :=
    List.filterMap_eq_nil_iff.mpr fun effect heffect => (h effect heffect).1
  exact ⟨by rw [begun, hbegun, List.count_nil],
    List.filterMap_eq_nil_iff.mpr fun effect heffect => (h effect heffect).2⟩

theorem unconcerned_reap (ticket : Ticket) (checked endings : List (Worker × Checked)) :
    begun ticket (checked.filterMap State.reportEffect? ++ endings.flatMap harvestEffects) = 0 ∧
      resultsFor ticket
        (checked.filterMap State.reportEffect? ++ endings.flatMap harvestEffects) = [] := by
  refine unconcerned_of_forall fun effect heffect => ?_
  cases ofReap_of_mem heffect <;> exact ⟨rfl, rfl⟩

theorem unconcerned_resubmitted (ticket : Ticket) (jobs : List Job) (result : Job → TestResult) :
    begun ticket (jobs.map fun job => .passedOn (.refused job) (result job)) = 0 ∧
      resultsFor ticket (jobs.map fun job => .passedOn (.refused job) (result job)) = [] := by
  refine unconcerned_of_forall fun effect heffect => ?_
  obtain ⟨job, -, rfl⟩ := List.mem_map.mp heffect
  exact ⟨rfl, rfl⟩

theorem count_eraseIdx {position : Nat} {found : Ticket}
    (hfound : s.tickets[position]? = some found) :
    s.tickets.count ticket =
      (s.tickets.eraseIdx position).count ticket + if found = ticket then 1 else 0 := by
  obtain ⟨hlt, rfl⟩ := List.getElem?_eq_some_iff.mp hfound
  rw [← (List.getElem_cons_eraseIdx_perm hlt).count_eq, List.count_cons]
  simp

/-- A start of an embedded job is answered with a result, or its runner keeps it. -/
theorem balance_of_transition (ticket : Ticket) (h : Transition setup s move after new) :
    (resultsFor ticket new).length + after.tickets.count ticket =
      s.tickets.count ticket + begun ticket new := by
  cases h with
  | kept job rest cpus layout hphase hpending hreason hdispatch hacquire hrunner =>
    simp [Effect.resultFor?, Effect.ticket?, List.count_cons]
  | endedAtOnce job rest cpus layout result phase hphase hpending hreason hdispatch hacquire
      hrunner =>
    by_cases heq : (⟨job, cpus⟩ : Ticket) = ticket
    · simp [Effect.resultFor?, Effect.ticket?, heq, Nat.add_comm]
    · simp [Effect.resultFor?, Effect.ticket?, heq]
  | finished position result found hfound =>
    rw [count_eraseIdx hfound]
    by_cases heq : found = ticket
    · simp [Effect.resultFor?, Effect.ticket?, heq, Nat.add_comm]
    · simp [Effect.resultFor?, Effect.ticket?, heq]
  | abandoned position found hfound =>
    rw [count_eraseIdx hfound]
    by_cases heq : found = ticket
    · simp [Effect.resultFor?, Effect.ticket?, heq, Nat.add_comm]
    · simp [Effect.resultFor?, Effect.ticket?, heq]
  | resubmitted jobs hphase =>
    obtain ⟨hbegun, hresults⟩ := unconcerned_resubmitted ticket jobs fun job =>
      State.refusal job State.alreadyRun
    rw [hbegun, hresults]
    simp
  | reaped order layout hphase horder hrelease =>
    obtain ⟨hbegun, hresults⟩ := unconcerned_reap ticket (s.checks order) (s.endings order)
    rw [hbegun, hresults]
    simp
  | _ =>
    simp [Effect.resultFor?, Effect.ticket?, State.updateWorker, State.noteViolation, State.count]

/-- A run gives as many results for an embedded job as there are starts of it that no runner keeps.
-/
theorem Consistent.balance (hc : Consistent s held) (ticket : Ticket) (acts : List Act) :
    (resultsFor ticket (s.trace acts).2).length + (s.trace acts).1.tickets.count ticket =
      s.tickets.count ticket + begun ticket (s.trace acts).2 := by
  refine hc.trace_induction (P := fun t shown => (resultsFor ticket shown).length +
    t.tickets.count ticket = s.tickets.count ticket + begun ticket shown) (by simp) ?_
  intro act before after active shown new _ _ h hbefore
  have hstep := balance_of_transition ticket h
  rw [resultsFor_append, List.length_append, begun_append]
  omega

/-- What is acquired is none of the CPUs of a job that a runner keeps. -/
theorem Consistent.cpus_ne_of_acquire (hc : Consistent s held) {job : Job} {cpus : List Nat}
    {layout : CpuLayout} (hreason : s.refusal? job = none)
    (hacquire : s.layout.tryAcquire job.threads = some (cpus, layout))
    (hkept : ticket ∈ s.tickets) : ticket.cpus ≠ cpus := by
  rintro rfl
  obtain ⟨hsound, -⟩ := State.refusal?_eq_none_iff.mp hreason
  have hacquired := CpuLayout.acquired_of_tryAcquire hacquire
  obtain ⟨gone, hheld, -⟩ := hc.places
  obtain ⟨id, hid⟩ : ∃ id, id ∈ ticket.cpus := by
    refine List.exists_mem_of_length_pos ?_
    rw [hacquired.length_eq]
    exact hsound.threads_pos
  have hactive : ticket ∈ s.workers.map Worker.ticket ++ held := by
    refine List.mem_append_right _ (hheld.mem_iff.mpr ?_)
    exact List.mem_append_left _ (List.mem_append_left _ hkept)
  have hbusy : id ∈ s.layout.busy :=
    hc.busy_perm.mem_iff.mpr (List.mem_flatMap.mpr ⟨ticket, hactive, hid⟩)
  have hnodup := hacquired.busy_perm.nodup_iff.mp (CpuLayout.nodup_busy layout)
  exact (List.nodup_append.mp hnodup).2.2 id hid id hbusy rfl

/-- A job is not started on the CPUs of one that a runner keeps. -/
theorem Consistent.not_mem_tickets_of_begun (hc : Consistent s held)
    (h : Transition setup s move after new) (hbegun : begun ticket new ≠ 0) :
    ticket ∉ s.tickets := by
  intro hkept
  have hstarted := begun_ne_zero_iff.mp hbegun
  cases h with
  | kept job rest cpus layout hphase hpending hreason hdispatch hacquire hrunner =>
    have hsame : ticket.job = job ∧ ticket.cpus = cpus := by simpa using hstarted
    exact hc.cpus_ne_of_acquire hreason hacquire hkept hsame.2
  | endedAtOnce job rest cpus layout result phase hphase hpending hreason hdispatch hacquire
      hrunner =>
    have hsame : ticket.job = job ∧ ticket.cpus = cpus := by simpa using hstarted
    exact hc.cpus_ne_of_acquire hreason hacquire hkept hsame.2
  | resubmitted jobs hphase => exact hbegun (unconcerned_resubmitted ticket jobs _).1
  | reaped order layout hphase horder hrelease => exact hbegun (unconcerned_reap ticket _ _).1
  | _ => simp at hstarted

/-- What a result comes from that is passed on for an embedded job: the job was started and was over
at once, or its runner had kept it. -/
theorem cause_of_result {result : TestResult} (h : Transition setup s move after new)
    (hresult : result ∈ resultsFor ticket new) :
    resultsFor ticket new = [result] ∧
      (begun ticket new ≠ 0 ∧
          (∃ phase, EndsAtOnce ticket (setup.runner ticket.job ticket.cpus) result phase) ∨
        ∃ position, s.tickets[position]? = some ticket ∧
          (move = .finish position result ∨
            move = .abandon position ∧ result = ticket.abandonedResult)) := by
  cases h with
  | endedAtOnce job rest cpus layout found phase hphase hpending hreason hdispatch hacquire
      hrunner =>
    by_cases hsame : (⟨job, cpus⟩ : Ticket) = ticket
    · subst hsame
      obtain rfl : result = found := by simpa [Effect.resultFor?] using hresult
      exact ⟨by simp [Effect.resultFor?], .inl ⟨by simp [Effect.ticket?], phase, hrunner⟩⟩
    · simp [Effect.resultFor?, hsame] at hresult
  | finished position found kept hkept =>
    by_cases hsame : kept = ticket
    · subst hsame
      obtain rfl : result = found := by simpa [Effect.resultFor?] using hresult
      exact ⟨by simp [Effect.resultFor?], .inr ⟨position, hkept, .inl rfl⟩⟩
    · simp [Effect.resultFor?, hsame] at hresult
  | abandoned position kept hkept =>
    by_cases hsame : kept = ticket
    · subst hsame
      obtain rfl : result = kept.abandonedResult := by simpa [Effect.resultFor?] using hresult
      exact ⟨by simp [Effect.resultFor?], .inr ⟨position, hkept, .inr ⟨rfl, rfl⟩⟩⟩
    · simp [Effect.resultFor?, hsame] at hresult
  | resubmitted jobs hphase =>
    rw [(unconcerned_resubmitted ticket jobs _).2] at hresult
    contradiction
  | reaped order layout hphase horder hrelease =>
    rw [(unconcerned_reap ticket _ _).2] at hresult
    contradiction
  | _ => simp [Effect.resultFor?] at hresult

end Steps

/-! ## A job on a thread -/

/-- What a run shows from a launch on. -/
def shownFrom (capacity : Nat) (front : List Act) (launch : Act) (back : List Act) : List Effect :=
  ((runOn capacity front).1.trace (launch :: back)).2

/-- An embedded job that is started with a launch and run on a thread. The runner does with it what
`EmbeddedRunner.threaded` does: at once, or by keeping it until its thread is done. -/
structure OnThread (capacity : Nat) (front : List Act) (launch : Act) (back : List Act)
    (ticket : Ticket) (registry : Registry) (snapshot : Environment) : Prop where
  /-- The job is started. -/
  starts : .started ticket.job ticket.cpus none ∈
    ((runOn capacity front).1.step launch.setup launch.move).2
  /-- It is handed to a thread. -/
  submits : launch.setup.runner ticket.job ticket.cpus = .kept ∨
    launch.setup.runner ticket.job ticket.cpus =
      EmbeddedRunner.threaded registry snapshot ticket.job ticket.cpus
  /-- The thread finishes it with what there is to finish it with. -/
  finishes : ∀ mid setup position result rest,
    back = mid ++ ⟨setup, .finish position result⟩ :: rest →
    (runOn capacity (front ++ launch :: mid)).1.tickets[position]? = some ticket →
    resultsFor ticket (shownFrom capacity front launch mid) = [] →
      EmbeddedRunner.threaded registry snapshot ticket.job ticket.cpus = .finished result
  /-- The thread drops it if there is nothing to finish it with. -/
  drops : ∀ mid setup position rest, back = mid ++ ⟨setup, .abandon position⟩ :: rest →
    (runOn capacity (front ++ launch :: mid)).1.tickets[position]? = some ticket →
    resultsFor ticket (shownFrom capacity front launch mid) = [] →
      EmbeddedRunner.threaded registry snapshot ticket.job ticket.cpus = .dropped

section Threads

variable {capacity : Nat} {front back : List Act} {launch act : Act} {ticket : Ticket}
  {registry : Registry} {snapshot : Environment} {own : TestResult}

theorem runOn_state (capacity : Nat) (front : List Act) (launch : Act) (back : List Act) :
    ((runOn capacity front).1.trace (launch :: back)).1 =
      (runOn capacity (front ++ launch :: back)).1 := by
  rw [runOn, runOn, State.trace_append]

theorem shownFrom_concat (capacity : Nat) (front : List Act) (launch : Act) (back : List Act)
    (act : Act) : shownFrom capacity front launch (back ++ [act]) =
      shownFrom capacity front launch back ++
        ((runOn capacity (front ++ launch :: back)).1.step act.setup act.move).2 := by
  rw [shownFrom, ← List.cons_append, State.trace_concat, runOn_state]
  rfl

theorem OnThread.init
    (h : OnThread capacity front launch (back ++ [act]) ticket registry snapshot) :
    OnThread capacity front launch back ticket registry snapshot where
  starts := h.starts
  submits := h.submits
  finishes := by
    rintro mid setup position result rest rfl
    exact h.finishes mid setup position result (rest ++ [act]) (by simp)
  drops := by
    rintro mid setup position rest rfl
    exact h.drops mid setup position (rest ++ [act]) (by simp)

theorem OnThread.begun_launch (h : OnThread capacity front launch back ticket registry snapshot) :
    begun ticket ((runOn capacity front).1.step launch.setup launch.move).2 ≠ 0 :=
  begun_ne_zero_iff.mpr h.starts

theorem OnThread.transition (h : OnThread capacity front launch back ticket registry snapshot) :
    Transition launch.setup (runOn capacity front).1 launch.move
      ((runOn capacity front).1.step launch.setup launch.move).1
      ((runOn capacity front).1.step launch.setup launch.move).2 := by
  rcases (consistent_trace capacity front).step_cases launch.setup launch.move with hstep | hstep
  · have hstarts := h.starts
    rw [runOn, hstep] at hstarts
    contradiction
  · exact hstep

theorem OnThread.balance (h : OnThread capacity front launch back ticket registry snapshot) :
    (resultsFor ticket (shownFrom capacity front launch back)).length +
        (runOn capacity (front ++ launch :: back)).1.tickets.count ticket =
      begun ticket (shownFrom capacity front launch back) := by
  have hc := consistent_trace capacity front
  have hnone : (runOn capacity front).1.tickets.count ticket = 0 :=
    List.count_eq_zero.mpr (hc.not_mem_tickets_of_begun h.transition h.begun_launch)
  have hbalance := hc.balance ticket (launch :: back)
  rw [← runOn, runOn_state, hnone, Nat.zero_add] at hbalance
  exact hbalance

theorem OnThread.begun_pos (h : OnThread capacity front launch back ticket registry snapshot) :
    0 < begun ticket (shownFrom capacity front launch back) := by
  have hlaunch := h.begun_launch
  rw [shownFrom, State.trace, begun_append]
  omega

/-- What is passed on for the job when it is started. -/
theorem OnThread.result_of_launch
    (h : OnThread capacity front launch back ticket registry snapshot)
    (hown : EmbeddedRunner.threaded registry snapshot ticket.job ticket.cpus = .finished own)
    {result : TestResult} (hresult : result ∈ resultsFor ticket
      ((runOn capacity front).1.step launch.setup launch.move).2) : result = own := by
  have hc := consistent_trace capacity front
  obtain ⟨-, ⟨-, phase, hends⟩ | ⟨position, hkept, -⟩⟩ := cause_of_result h.transition hresult
  · rcases h.submits with hsubmits | hsubmits
    · rw [hsubmits] at hends
      cases hends
    · rw [hsubmits, hown] at hends
      cases hends
      rfl
  · exact absurd (List.mem_of_getElem? hkept)
      (hc.not_mem_tickets_of_begun h.transition h.begun_launch)

/-- What is passed on for the job later, if nothing has been before. -/
theorem OnThread.result_of_next
    (h : OnThread capacity front launch (back ++ [act]) ticket registry snapshot)
    (hown : EmbeddedRunner.threaded registry snapshot ticket.job ticket.cpus = .finished own)
    (hnone : resultsFor ticket (shownFrom capacity front launch back) = [])
    {result : TestResult} (hresult : result ∈ resultsFor ticket
      ((runOn capacity (front ++ launch :: back)).1.step act.setup act.move).2) :
    result = own := by
  have hc := consistent_trace capacity (front ++ launch :: back)
  rcases hc.step_cases act.setup act.move with hstep | hstep
  · rw [runOn, hstep] at hresult
    contradiction
  · obtain ⟨-, ⟨hbegun, -⟩ | ⟨position, hkept, hmove⟩⟩ := cause_of_result hstep hresult
    · -- the runner still keeps the job, so it is not started again
      have hbalance := h.init.balance
      have hpos := h.init.begun_pos
      rw [hnone, List.length_nil, Nat.zero_add] at hbalance
      rw [← hbalance, List.count_pos_iff] at hpos
      exact absurd hpos (hc.not_mem_tickets_of_begun hstep hbegun)
    · obtain ⟨setup, move⟩ := act
      rcases hmove with rfl | ⟨rfl, -⟩
      · have hthread := h.finishes back setup position result [] rfl hkept hnone
        exact Submission.finished.inj (hthread.symm.trans hown)
      · have hthread := h.drops back setup position [] rfl hkept hnone
        rw [hown] at hthread
        contradiction

/-- The first result that is passed on for the job from its start on is the one that its thread has
to finish it with. -/
theorem OnThread.first (h : OnThread capacity front launch back ticket registry snapshot)
    (hown : EmbeddedRunner.threaded registry snapshot ticket.job ticket.cpus = .finished own) :
    ∀ result ∈ (resultsFor ticket (shownFrom capacity front launch back)).head?, result = own := by
  induction back using List.reverseRecOn with
  | nil =>
    intro result hresult
    simp only [shownFrom, State.trace, List.append_nil] at hresult
    exact h.result_of_launch hown (List.mem_of_mem_head? hresult)
  | append_singleton back act ih =>
    intro result hresult
    rw [shownFrom_concat, resultsFor_append] at hresult
    cases hbefore : resultsFor ticket (shownFrom capacity front launch back) with
    | nil =>
      rw [hbefore, List.nil_append] at hresult
      exact h.result_of_next hown hbefore (List.mem_of_mem_head? hresult)
    | cons first others =>
      rw [hbefore, List.cons_append, List.head?_cons] at hresult
      refine ih h.init result ?_
      rw [hbefore]
      exact hresult

/-- A job on a thread gets the result of its thread, and the runner keeps it until then. Any other
result for the same job on the same CPUs belongs to a later start. -/
theorem OnThread.result (h : OnThread capacity front launch back ticket registry snapshot)
    (hown : EmbeddedRunner.threaded registry snapshot ticket.job ticket.cpus = .finished own) :
    let shown := shownFrom capacity front launch back
    let kept := (runOn capacity (front ++ launch :: back)).1.tickets
    resultsFor ticket shown = [] ∧ ticket ∈ kept ∨
      ∃ others, resultsFor ticket shown = own :: others ∧
        1 + others.length + kept.count ticket = begun ticket shown := by
  intro shown kept
  have hbalance := h.balance
  have hfirst := h.first hown
  cases hresults : resultsFor ticket shown with
  | nil =>
    have hpos := h.begun_pos
    rw [← hbalance, hresults, List.length_nil, Nat.zero_add, List.count_pos_iff] at hpos
    exact .inl ⟨rfl, hpos⟩
  | cons first others =>
    rw [hresults] at hbalance hfirst
    obtain rfl := hfirst first rfl
    refine .inr ⟨others, rfl, ?_⟩
    rw [← hbalance, List.length_cons, Nat.add_comm 1]

end Threads

end StressBatch.Scheduler
