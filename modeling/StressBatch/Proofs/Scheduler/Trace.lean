import StressBatch.Proofs.Scheduler.Accounting

/-!
# The CPU accounts of a run

What holds of every step holds of every run. The held CPUs of a run are at every moment exactly
those of the active jobs, no CPUs are ever given back that are not held, and the scheduler's own
thread panics only if an embedded runner does.
-/

namespace StressBatch.Scheduler

/-! ## From steps to runs -/

namespace State

theorem trace_append (s : State) (acts more : List Act) :
    s.trace (acts ++ more) = (((s.trace acts).1.trace more).1,
      (s.trace acts).2 ++ ((s.trace acts).1.trace more).2) := by
  induction acts generalizing s with
  | nil => simp [trace]
  | cons act acts ih =>
    rw [List.cons_append, trace, trace]
    simp only
    rw [ih, List.append_assoc]

theorem trace_concat (s : State) (acts : List Act) (act : Act) :
    s.trace (acts ++ [act]) = (((s.trace acts).1.step act.setup act.move).1,
      (s.trace acts).2 ++ ((s.trace acts).1.step act.setup act.move).2) := by
  rw [trace_append]
  simp [trace]

/-- What a run shows is shown by one of its steps. -/
theorem exists_of_mem_trace {s : State} {acts : List Act} {effect : Effect}
    (h : effect ∈ (s.trace acts).2) : ∃ front act back, acts = front ++ act :: back ∧
      effect ∈ ((s.trace front).1.step act.setup act.move).2 := by
  induction acts generalizing s with
  | nil => exact absurd h List.not_mem_nil
  | cons act acts ih =>
    rcases List.mem_append.mp h with hfirst | hrest
    · exact ⟨[], act, acts, rfl, hfirst⟩
    · obtain ⟨front, other, back, rfl, hmem⟩ := ih hrest
      exact ⟨act :: front, other, back, rfl, hmem⟩

end State

/-- A move is not possible and changes nothing, or its step is one of the listed ones. -/
theorem Consistent.step?_cases {s : State} {held : List Ticket} (hc : Consistent s held)
    (setup : Setup) (move : Move) :
    s.step? setup move = none ∧ s.step setup move = (s, []) ∨
      Transition setup s move (s.step setup move).1 (s.step setup move).2 := by
  unfold State.step
  cases h : s.step? setup move with
  | none => exact .inl ⟨rfl, rfl⟩
  | some next => exact .inr (transition_of_step? hc h)

/-- A step does nothing, or it is one of the listed ones. -/
theorem Consistent.step_cases {s : State} {held : List Ticket} (hc : Consistent s held)
    (setup : Setup) (move : Move) :
    s.step setup move = (s, []) ∨
      Transition setup s move (s.step setup move).1 (s.step setup move).2 :=
  (hc.step?_cases setup move).imp_left And.right

/-- The scheduler of an active run handles the oldest event. -/
theorem State.step_handle {s : State} {event : Event} {rest : List Event}
    (hactive : s.phase.isActive = true) (hqueue : s.queue = event :: rest) (setup : Setup) :
    s.step setup .handle = State.handleEvent { s with queue := rest } event := by
  simp only [State.step, State.step?, State.handle, hactive, hqueue, Option.getD_some]

/-- The scheduler can check on its workers in any order. -/
theorem Consistent.transition_of_reaping {s : State} {held : List Ticket} (hc : Consistent s held)
    (hactive : s.phase.isActive = true) {order : List Token} (horder : order.Perm s.liveTokens)
    (setup : Setup) :
    Transition setup s (.reap order) (s.step setup (.reap order)).1
      (s.step setup (.reap order)).2 := by
  have hreap : (s.step? setup (.reap order)).isSome = true := by
    simp only [State.step?, State.reap]
    rw [if_pos ⟨hactive, List.isPerm_iff.mpr horder⟩]
    rfl
  obtain ⟨next, hnext⟩ := Option.isSome_iff_exists.mp hreap
  unfold State.step
  rw [hnext]
  exact transition_of_step? hc hnext

/-- Whatever is tried, the accounts stay in order. -/
theorem Consistent.step {s : State} {held : List Ticket} (hc : Consistent s held) (setup : Setup)
    (move : Move) :
    Consistent (s.step setup move).1 ((s.step setup move).2.foldl Effect.hold held) := by
  rcases hc.step_cases setup move with h | h
  · rw [h]
    exact hc
  · exact hc.next h

/-- The accounts of a run are in order at every moment. -/
theorem Consistent.trace {s : State} {held : List Ticket} (hc : Consistent s held)
    (acts : List Act) :
    Consistent (s.trace acts).1 ((s.trace acts).2.foldl Effect.hold held) := by
  induction acts using List.reverseRecOn with
  | nil => exact hc
  | append_singleton acts act ih =>
    rw [State.trace_concat, List.foldl_append]
    exact ih.step act.setup act.move

theorem consistent_trace (capacity : Nat) (acts : List Act) :
    Consistent ((State.ofCapacity capacity).trace acts).1
      (outstanding ((State.ofCapacity capacity).trace acts).2) :=
  (consistent_ofCapacity capacity).trace acts

/-- What holds at first and is kept by every step of a consistent state holds after every run. -/
theorem Consistent.trace_induction {s : State} {held : List Ticket} (hc : Consistent s held)
    {P : State → List Effect → Prop} {acts : List Act} (hstart : P s [])
    (hstep : ∀ act before after active shown new, act ∈ acts → Consistent before active →
      Transition act.setup before act.move after new → P before shown → P after (shown ++ new)) :
    P (s.trace acts).1 (s.trace acts).2 := by
  induction acts using List.reverseRecOn with
  | nil => exact hstart
  | append_singleton acts act ih =>
    have hbefore : P (s.trace acts).1 (s.trace acts).2 :=
      ih fun other before after active shown new hother =>
        hstep other before after active shown new (List.mem_append_left _ hother)
    rw [State.trace_concat]
    rcases (hc.trace acts).step_cases act.setup act.move with h | h
    · rw [h, List.append_nil]
      exact hbefore
    · have hact : act ∈ acts ++ [act] := List.mem_append_right _ (List.mem_singleton_self act)
      exact hstep act _ _ _ _ _ hact (hc.trace acts) h hbefore

/-- No step changes the number of CPUs. -/
theorem Consistent.capacity_next {s : State} {held : List Ticket} (hc : Consistent s held)
    {setup : Setup} {move : Move} {after : State} {shown : List Effect}
    (h : Transition setup s move after shown) : after.layout.capacity = s.layout.capacity := by
  cases h with
  | kept job rest cpus layout hphase hpending hreason hdispatch hacquire hrunner =>
    exact (CpuLayout.acquired_of_tryAcquire hacquire).capacity_eq
  | endedAtOnce job rest cpus layout result phase hphase hpending hreason hdispatch hacquire
      hrunner =>
    exact (CpuLayout.acquired_of_tryAcquire hacquire).capacity_eq
  | forked job rest cpus layout worker hphase hpending hreason hdispatch hacquire hprepare =>
    exact (CpuLayout.acquired_of_tryAcquire hacquire).capacity_eq
  | reclaimed cpus rest layout hphase hqueue hrelease =>
    obtain ⟨ticket, gone, rfl, hheld, -⟩ := hc.exists_of_released hqueue
    exact (CpuLayout.perm_of_release (hc.busy_perm_of_held hheld) hrelease).1
  | reaped order layout hphase horder hrelease =>
    exact (CpuLayout.perm_of_release (hc.busy_perm_of_endings horder) hrelease).1
  | _ => rfl

theorem Consistent.capacity_trace {s : State} {held : List Ticket} (hc : Consistent s held)
    (acts : List Act) : (s.trace acts).1.layout.capacity = s.layout.capacity := by
  refine hc.trace_induction (P := fun t _ => t.layout.capacity = s.layout.capacity) rfl ?_
  intro act before after active shown new _ hbetween h hbefore
  exact (hbetween.capacity_next h).trans hbefore

/-! ## The CPUs of a run -/

/-- A scheduler panics when it has handed the first pending job, one that it does not refuse, to a
runner that panics. -/
theorem handed_of_crashed {s after : State} {setup : Setup} {move : Move} {shown : List Effect}
    {panic : Panic} (h : Transition setup s move after shown)
    (hcrash : after.phase = .crashed panic) :
    s.phase = .crashed panic ∨ move = .dispatch ∧ ∃ job cpus layout,
      s.phase = .dispatching ∧ s.pending = job :: after.pending ∧ s.refusal? job = none ∧
      job.dispatch = .embedded ∧ s.layout.tryAcquire job.threads = some (cpus, layout) ∧
      setup.runner job cpus = .panicked panic := by
  cases h with
  | submitted jobs hphase => simp at hcrash
  | drained hphase hpending => simp at hcrash
  | closed elapsed hphase hidle => simp at hcrash
  | endedAtOnce job rest cpus layout result phase hphase hpending hreason hdispatch hacquire
      hrunner =>
    have hpanicked : setup.runner job cpus = .panicked panic := by
      obtain rfl : phase = .crashed panic := hcrash
      generalize setup.runner job cpus = submission at hrunner
      cases hrunner
      rfl
    exact .inr ⟨rfl, job, cpus, layout, hphase, hpending, hreason, hdispatch, hacquire, hpanicked⟩
  | _ => exact .inl hcrash

/-- Only a runner that panics makes a scheduler panic. -/
theorem crashed_of_transition {s after : State} {setup : Setup} {move : Move}
    {shown : List Effect} {panic : Panic} (h : Transition setup s move after shown)
    (hcrash : after.phase = .crashed panic) :
    s.phase = .crashed panic ∨ move = .dispatch ∧ ∃ job rest cpus layout,
      s.pending = job :: rest ∧ job.dispatch = .embedded ∧
      s.layout.tryAcquire job.threads = some (cpus, layout) ∧
      setup.runner job cpus = .panicked panic := by
  refine (handed_of_crashed h hcrash).imp_right ?_
  rintro ⟨hmove, job, cpus, layout, -, hpending, -, hdispatch, hacquire, hrunner⟩
  exact ⟨hmove, job, _, cpus, layout, hpending, hdispatch, hacquire, hrunner⟩

/-- The CPU accounts of every run. At any moment the held CPUs are those of the live workers and of
the embedded jobs that have not given theirs back, each CPU once; every active job has as many CPUs
as threads, all of them existing; whatever is on its way back can be given back; and the scheduler's
own thread panics only if an embedded runner does. -/
theorem busy_perm_active (capacity : Nat) (acts : List Act) :
    let s := ((State.ofCapacity capacity).trace acts).1
    let active := s.workers.map Worker.ticket ++
      outstanding ((State.ofCapacity capacity).trace acts).2
    s.layout.capacity = capacity ∧
    s.layout.busy.Perm (active.flatMap Ticket.cpus) ∧
    (∀ ticket ∈ active, ticket.cpus.Pairwise (· < ·) ∧ (∀ id ∈ ticket.cpus, id < capacity) ∧
      ticket.cpus ≠ [] ∧ ticket.cpus.length = ticket.job.threads) ∧
    active.Pairwise (fun a b => a.cpus.Disjoint b.cpus) ∧
    (∀ cpus, .released cpus ∈ s.queue → (s.layout.release cpus).1 = none) ∧
    ∀ (act : Act) (panic : Panic), (s.step act.setup act.move).1.phase = .crashed panic →
      s.phase = .crashed panic ∨ act.move = .dispatch ∧ ∃ job rest cpus layout,
        s.pending = job :: rest ∧ job.dispatch = .embedded ∧
        s.layout.tryAcquire job.threads = some (cpus, layout) ∧
        act.setup.runner job cpus = .panicked panic := by
  intro s active
  have hc : Consistent s (outstanding ((State.ofCapacity capacity).trace acts).2) :=
    consistent_trace capacity acts
  have hcapacity : s.layout.capacity = capacity :=
    ((consistent_ofCapacity capacity).capacity_trace acts).trans
      (CpuLayout.capacity_ofCapacity capacity)
  refine ⟨hcapacity, hc.busy_perm, ?_, hc.disjoint, ?_, ?_⟩
  · intro ticket hticket
    have hfits := hc.fits ticket hticket
    refine ⟨hfits.ascending, ?_, ?_, hfits.length_eq⟩
    · intro id hid
      rw [← hcapacity]
      refine CpuLayout.lt_capacity_of_mem_busy (hc.busy_perm.mem_iff.mpr ?_)
      exact List.mem_flatMap.mpr ⟨ticket, hticket, hid⟩
    · intro hnil
      have hlength := hfits.length_eq
      have hpos := hfits.threads_pos
      rw [hnil, List.length_nil] at hlength
      omega
  · intro cpus hcpus
    obtain ⟨still, hbusy⟩ := hc.exists_busy_perm_of_mem hcpus
    obtain ⟨after, hrelease, -⟩ := CpuLayout.release_of_perm hbusy
    rw [hrelease]
  · intro act panic hcrash
    rcases hc.step_cases act.setup act.move with h | h
    · rw [h] at hcrash
      exact .inl hcrash
    · exact crashed_of_transition h hcrash

end StressBatch.Scheduler
