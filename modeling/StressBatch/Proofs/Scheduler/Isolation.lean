import StressBatch.Proofs.Scheduler.Exchange

/-!
# Tokens do not interfere

All peers of a scheduler share its queue, its live workers and its counts. Still only the events
that bear a token matter to the peer that holds it: how its requests are answered and what becomes
of its worker follow from the worker and those events alone, whatever is handled in between.
`attendAll` is what that peer would see if it were alone with its worker, and handling a queue comes
to just that.
-/

namespace StressBatch.Scheduler

/-! ## Events and answers under a token -/

/-- The token that an event bears. -/
def Event.token? : Event → Option Token
  | .pull token => some token
  | .push token _ => some token
  | .kill token => some token
  | .released _ => none

/-- The events in a list that bear a token, in order. -/
def bearing (token : Token) (events : List Event) : List Event :=
  events.filter fun event => event.token? = some token

/-- The answers to the requests that bear a token, in order. -/
def answersTo (token : Token) (effects : List Effect) : List Effect :=
  effects.filter fun effect => effect.answered? = some token

/-- Whether a scheduler whose embedded jobs hold CPUs as given can find the events in its queue.
There may be any requests, but no embedded job says twice that it is done with its CPUs. -/
def Receivable (held : List Ticket) (events : List Event) : Prop :=
  (events.filterMap Event.cpus?).Subperm (held.map Ticket.cpus)

/-- Handles events one after the other, in place of those that are in the queue. -/
def State.handling (setup : Setup) (s : State) (events : List Event) : State × List Effect :=
  { s with queue := events }.trace (List.replicate events.length ⟨setup, .handle⟩)

section Alone

variable (token : Token)

/-- What becomes of the worker of a token because of an event that bears the token, and the answer
if the event is a request. -/
def serve (worker? : Option Worker) : Event → Option Worker × List Effect
  | .pull _ =>
    match worker? with
    | some worker => (some worker.takeJob.2, [.pulled token (.ok worker.takeJob.1)])
    | none => (none, [.pulled token (.error (.unknownToken token))])
  | .push _ result =>
    match worker? with
    | some worker =>
      match worker.record result with
      | .ok recorded => (some recorded, [.pushed token (.ok ())])
      | .error violation => (some worker, [.pushed token (.error (.protocol violation.message))])
    | none => (none, [.pushed token (.error (.unknownToken token))])
  | .kill _ => (worker?.map Worker.kill, [])
  | .released _ => (worker?, [])

/-- What a peer that is alone with its worker would see of an event: nothing, unless it bears the
token. -/
def attend (worker? : Option Worker) (event : Event) : Option Worker × List Effect :=
  if event.token? = some token then serve token worker? event else (worker?, [])

/-- What a peer that is alone with its worker would see of events. -/
def attendAll (worker? : Option Worker) : List Event → Option Worker × List Effect
  | [] => (worker?, [])
  | event :: rest =>
    ((attendAll (attend token worker? event).1 rest).1,
      (attend token worker? event).2 ++ (attendAll (attend token worker? event).1 rest).2)

variable {token} {event : Event}

theorem attend_of_eq (h : event.token? = some token) (worker? : Option Worker) :
    attend token worker? event = serve token worker? event :=
  if_pos h

theorem attend_of_ne (h : event.token? ≠ some token) (worker? : Option Worker) :
    attend token worker? event = (worker?, []) :=
  if_neg h

variable (token)

/-- The events that do not bear the token make no difference. -/
theorem attendAll_bearing (worker? : Option Worker) (events : List Event) :
    attendAll token worker? (bearing token events) = attendAll token worker? events := by
  induction events generalizing worker? with
  | nil => rfl
  | cons event rest ih =>
    by_cases htoken : event.token? = some token
    · have hhead : bearing token (event :: rest) = event :: bearing token rest :=
        List.filter_cons_of_pos (by simpa using htoken)
      rw [hhead, attendAll, attendAll, ih]
    · have hhead : bearing token (event :: rest) = bearing token rest :=
        List.filter_cons_of_neg (by simpa using htoken)
      rw [hhead, ih, attendAll, attend_of_ne htoken]
      rfl

theorem length_attend (worker? : Option Worker) (event : Event) :
    (attend token worker? event).2.length = (callsOf token [event]).length := by
  by_cases htoken : event.token? = some token
  · rw [attend_of_eq htoken]
    cases event with
    | pull other =>
      rw [callsOf_cons_of_eq (by exact htoken)]
      cases worker? <;> rfl
    | push other result =>
      rw [callsOf_cons_of_eq (by exact htoken)]
      cases worker? with
      | none => rfl
      | some worker =>
        simp only [serve]
        cases worker.record result <;> rfl
    | kill other => rfl
    | released cpus => contradiction
  · have hcaller : event.caller? ≠ some token := by
      cases event with
      | pull other => exact htoken
      | push other result => exact htoken
      | kill other => simp [Event.caller?]
      | released cpus => simp [Event.caller?]
    rw [attend_of_ne htoken, callsOf_cons_of_ne hcaller]
    rfl

theorem length_attendAll (worker? : Option Worker) (events : List Event) :
    (attendAll token worker? events).2.length = (callsOf token events).length := by
  induction events generalizing worker? with
  | nil => rfl
  | cons event rest ih =>
    have hcons := callsOf_append token [event] rest
    rw [List.singleton_append] at hcons
    rw [attendAll, hcons, List.length_append, List.length_append, ih, length_attend]

end Alone

/-! ## Handling one event -/

/-- Whether the events in the queue can be handled without a fault: live workers are told apart by
their tokens, and the CPUs that are on their way back are held. -/
structure Ready (s : State) : Prop where
  nodup_tokens : s.liveTokens.Nodup
  held : ∃ still, s.layout.busy.Perm ((s.queue.filterMap Event.cpus?).flatten ++ still)

/-- What it comes to for the peer of a token that the oldest event is handled. -/
structure Attended (token : Token) (s : State) (event : Event) (rest : List Event) (after : State)
    (shown : List Effect) : Prop where
  ready : Ready after
  phase_eq : after.phase = s.phase
  queue_eq : after.queue = rest
  worker_eq : after.worker? token = (attend token (s.worker? token) event).1
  answers_eq : answersTo token shown = (attend token (s.worker? token) event).2

section Handling

variable {s : State} {held : List Ticket} {token other : Token} {event : Event} {rest : List Event}

theorem Consistent.ready (hc : Consistent s held) {events : List Event}
    (h : Receivable held events) : Ready { s with queue := events } := by
  obtain ⟨back, hback, hsub⟩ := h
  obtain ⟨others, hothers⟩ := hsub.exists_perm_append
  have hheld : (held.flatMap Ticket.cpus).Perm
      ((events.filterMap Event.cpus?).flatten ++ others.flatten) := by
    rw [List.flatMap_def, ← List.flatten_append]
    exact (hothers.trans (hback.append_right others)).flatten
  refine ⟨hc.nodup_tokens, others.flatten ++ (s.workers.map Worker.ticket).flatMap Ticket.cpus, ?_⟩
  refine hc.busy_perm.trans ?_
  rw [List.flatMap_append, ← List.append_assoc]
  exact List.perm_append_comm.trans (hheld.append_right _)

/-- What the queue of a run holds is receivable. -/
theorem Consistent.receivable (hc : Consistent s held) : Receivable held s.queue := by
  obtain ⟨gone, hheld, hgone⟩ := hc.places
  have hsub : (gone.map Ticket.cpus).Sublist
      ((s.tickets ++ s.leaving ++ gone).map Ticket.cpus) :=
    (List.sublist_append_right _ gone).map _
  unfold Receivable
  rw [hgone]
  exact hsub.subperm.trans (hheld.map Ticket.cpus).symm.subperm

/-- What bears a token gives no CPUs back, so it is always receivable. -/
theorem receivable_bearing (held : List Ticket) (token : Token) (events : List Event) :
    Receivable held (bearing token events) := by
  have hnone : (bearing token events).filterMap Event.cpus? = [] := by
    refine List.filterMap_eq_nil_iff.mpr fun event hevent => ?_
    have htoken := (List.mem_filter.mp hevent).2
    cases event with
    | released cpus => simp [Event.token?] at htoken
    | _ => rfl
  unfold Receivable
  rw [hnone]
  exact List.nil_subperm

theorem answersTo_append (token : Token) (effects more : List Effect) :
    answersTo token (effects ++ more) = answersTo token effects ++ answersTo token more :=
  List.filter_append ..

/-- Handling a request keeps a state ready, whatever becomes of the worker. -/
theorem Ready.dequeued (hr : Ready s) (hqueue : s.queue = event :: rest)
    (hcpus : event.cpus? = none) {after : State} (htokens : after.liveTokens = s.liveTokens)
    (hlayout : after.layout = s.layout) (hrest : after.queue = rest) : Ready after := by
  obtain ⟨still, hheld⟩ := hr.held
  refine ⟨htokens ▸ hr.nodup_tokens, still, ?_⟩
  rw [hlayout, hrest, cpus_of_dequeued hqueue hcpus]
  exact hheld

theorem cpus?_of_token? (h : event.token? = some other) : event.cpus? = none := by
  cases event with
  | released cpus => contradiction
  | _ => rfl

theorem Ready.attended_request (hr : Ready s) (hqueue : s.queue = event :: rest)
    (hother : event.token? = some other) {after : State} {shown : List Effect}
    (htokens : after.liveTokens = s.liveTokens) (hlayout : after.layout = s.layout)
    (hphase : after.phase = s.phase) (hrest : after.queue = rest)
    (hserve : (after.worker? other, shown) = serve other (s.worker? other) event)
    (hworkers : ∀ token, token ≠ other → after.worker? token = s.worker? token)
    (hshown : ∀ effect ∈ shown, effect.answered? = some other) :
    Attended token s event rest after shown := by
  have hown : (after.worker? token, answersTo token shown) =
      attend token (s.worker? token) event := by
    unfold answersTo
    by_cases htoken : token = other
    · subst htoken
      have hall : shown.filter (fun effect => effect.answered? = some token) = shown :=
        List.filter_eq_self.mpr fun effect heffect => by simpa using hshown effect heffect
      rw [attend_of_eq hother, hall, hserve]
    · have hne : event.token? ≠ some token := by
        rw [hother]
        exact fun h => htoken (Option.some.inj h).symm
      have hnone : shown.filter (fun effect => effect.answered? = some token) = [] := by
        refine List.filter_eq_nil_iff.mpr fun effect heffect => ?_
        rw [hshown effect heffect, ← hother]
        simpa using hne
      rw [attend_of_ne hne, hnone, hworkers token htoken]
  obtain ⟨hworker, hanswers⟩ := Prod.mk.inj hown
  exact ⟨hr.dequeued hqueue (cpus?_of_token? hother) htokens hlayout hrest, hphase, hrest, hworker,
    hanswers⟩

/-- Handling the oldest event is, for the peer of a token, what it would be if the peer were alone
with its worker. -/
theorem Ready.attended (hr : Ready s) (hactive : s.phase.isActive = true)
    (hqueue : s.queue = event :: rest) (setup : Setup) (token : Token) :
    Attended token s event rest (s.step setup .handle).1 (s.step setup .handle).2 := by
  have hlive : ∀ name, State.worker? { s with queue := rest } name = s.worker? name := fun _ => rfl
  rw [State.step_handle hactive hqueue]
  cases event with
  | pull other =>
    cases hworker : s.worker? other with
    | none =>
      simp only [State.handleEvent, hlive, hworker]
      refine hr.attended_request hqueue rfl rfl rfl rfl rfl ?_ (fun _ _ => rfl)
        (by simp [Effect.answered?])
      simp only [serve, hworker]
      exact congrArg (·, _) hworker
    | some worker =>
      have hkeeps : ∀ w ∈ s.workers, w.token = other → Worker.Keeps w w.takeJob.2 :=
        fun w _ _ => w.keeps_takeJob
      simp only [State.handleEvent, hlive, hworker]
      refine hr.attended_request hqueue rfl (liveTokens_updateWorker hkeeps) rfl rfl rfl ?_
        (fun _ hne => worker?_of_token_ne (s := { s with queue := rest }) hkeeps hne)
        (by simp [Effect.answered?])
      simp only [serve, hworker]
      exact congrArg (·, _) (worker?_of_token_eq (s := { s with queue := rest }) hkeeps hworker)
  | push other result =>
    cases hworker : s.worker? other with
    | none =>
      simp only [State.handleEvent, hlive, hworker]
      refine hr.attended_request hqueue rfl rfl rfl rfl rfl ?_ (fun _ _ => rfl)
        (by simp [Effect.answered?])
      simp only [serve, hworker]
      exact congrArg (·, _) hworker
    | some worker =>
      cases hrecord : worker.record result with
      | ok recorded =>
        have hkeeps := keeps_recorded hr.nodup_tokens hworker hrecord
        simp only [State.handleEvent, hlive, hworker, hrecord]
        refine hr.attended_request hqueue rfl (liveTokens_updateWorker hkeeps) rfl rfl rfl ?_
          (fun _ hne => worker?_of_token_ne (s := { s with queue := rest }) hkeeps hne)
          (by simp [Effect.answered?])
        simp only [serve, hworker, hrecord]
        exact congrArg (·, _) (worker?_of_token_eq (s := { s with queue := rest }) hkeeps hworker)
      | error violation =>
        simp only [State.handleEvent, hlive, hworker, hrecord]
        refine hr.attended_request hqueue rfl rfl rfl rfl rfl ?_ (fun _ _ => rfl)
          (by simp [Effect.answered?])
        simp only [serve, hworker, hrecord]
        exact congrArg (·, _) hworker
  | kill other =>
    have hkeeps : ∀ w ∈ s.workers, w.token = other → Worker.Keeps w w.kill :=
      fun w _ _ => w.keeps_mapProcess Process.kill
    simp only [State.handleEvent]
    refine hr.attended_request hqueue rfl (liveTokens_updateWorker hkeeps) rfl rfl rfl ?_
      (fun _ hne => worker?_of_token_ne (s := { s with queue := rest }) hkeeps hne) (by simp)
    simp only [serve]
    refine congrArg (·, _) ?_
    cases hworker : s.worker? other with
    | none =>
      rw [worker?_updateWorker { s with queue := rest } other hkeeps, hlive, hworker]
      rfl
    | some worker => exact worker?_of_token_eq (s := { s with queue := rest }) hkeeps hworker
  | released cpus =>
    obtain ⟨still, hheld⟩ := hr.held
    rw [hqueue, List.filterMap_cons_some (by rfl), List.flatten_cons, List.append_assoc] at hheld
    obtain ⟨layout, hrelease, -, hbusy⟩ := CpuLayout.release_of_perm hheld
    have hgive : State.giveBack { s with queue := rest } cpus =
        { s with queue := rest, layout := layout } := State.giveBack_of_release (by exact hrelease)
    simp only [State.handleEvent, hgive, hactive, if_true]
    have hattend : attend token (s.worker? token) (.released cpus) = (s.worker? token, []) :=
      attend_of_ne (by simp [Event.token?]) _
    refine ⟨⟨hr.nodup_tokens, still, hbusy⟩, rfl, rfl, ?_, ?_⟩
    · rw [hattend]
      rfl
    · rw [hattend]
      rfl

/-! ## Handling a queue -/

/-- Handling all events in the queue is, for the peer of a token, what it would be if the peer were
alone with its worker. -/
theorem Ready.attended_all (hr : Ready s) (hactive : s.phase.isActive = true) (setup : Setup)
    (token : Token) :
    let last := s.trace (List.replicate s.queue.length ⟨setup, .handle⟩)
    (last.1.worker? token, answersTo token last.2) =
        attendAll token (s.worker? token) s.queue ∧
      last.1.phase = s.phase ∧ last.1.queue = [] := by
  generalize hqueue : s.queue = queue
  -- on the queue; no event is added to it, and what is left can again be handled without a fault
  induction queue generalizing s with
  | nil => exact ⟨rfl, rfl, hqueue⟩
  | cons event rest ih =>
    have hone := hr.attended hactive hqueue setup token
    obtain ⟨hall, hphase, hnone⟩ :=
      ih hone.ready (by rw [hone.phase_eq]; exact hactive) hone.queue_eq
    obtain ⟨hworker, hanswers⟩ := Prod.mk.inj hall
    refine ⟨?_, hphase.trans hone.phase_eq, hnone⟩
    rw [attendAll, List.length_cons, List.replicate_succ, State.trace]
    simp only
    rw [answersTo_append, ← hone.worker_eq, ← hone.answers_eq, ← hworker, ← hanswers]

theorem trace_handle_of_idle (hidle : s.phase.isActive = false) (setup : Setup) (n : Nat) :
    s.trace (List.replicate n ⟨setup, .handle⟩) = (s, []) := by
  have hstep : s.step setup .handle = (s, []) := by
    simp only [State.step, State.step?, State.handle, hidle, Option.getD_none]
  induction n with
  | zero => rfl
  | succ n ih =>
    rw [List.replicate_succ, State.trace]
    simp only [hstep, ih, List.append_nil]

/-- Handling events comes to the same for the peer of a token as handling those that bear it. -/
theorem Consistent.handling_bearing (hc : Consistent s held) {events : List Event}
    (hevents : Receivable held events) (setup : Setup) (token : Token) :
    (s.handling setup events).1.worker? token =
        (s.handling setup (bearing token events)).1.worker? token ∧
      answersTo token (s.handling setup events).2 =
        answersTo token (s.handling setup (bearing token events)).2 := by
  cases hactive : s.phase.isActive with
  | true =>
    obtain ⟨hall, -, -⟩ := (hc.ready hevents).attended_all hactive setup token
    obtain ⟨hown, -, -⟩ :=
      (hc.ready (receivable_bearing held token events)).attended_all hactive setup token
    exact Prod.mk.inj (hall.trans ((attendAll_bearing token _ events).symm.trans hown.symm))
  | false =>
    unfold State.handling
    rw [trace_handle_of_idle (by exact hactive), trace_handle_of_idle (by exact hactive)]
    exact ⟨rfl, rfl⟩

end Handling

/-- Tokens do not interfere. In whatever state a run is, and whatever events its scheduler then
finds in the queue, the peer of a token gets the same answers, and its worker comes to be the same,
as if only the events that bear the token were handled; so the peer cannot tell queues apart that
agree on these. While a run is going on all events are handled, and each request is answered. The
events that are in the queue of a run are among those considered. -/
theorem tokens_do_not_interfere (capacity : Nat) (acts : List Act) (token : Token)
    (setup : Setup) :
    let run := runOn capacity acts
    let held := outstanding run.2
    let handled := run.1.handling setup
    Receivable held run.1.queue ∧
    ∀ events, Receivable held events →
      (answersTo token (handled events).2 =
          answersTo token (handled (bearing token events)).2 ∧
        (handled events).1.worker? token =
          (handled (bearing token events)).1.worker? token) ∧
      (∀ others, Receivable held others → bearing token others = bearing token events →
        answersTo token (handled others).2 = answersTo token (handled events).2 ∧
        (handled others).1.worker? token = (handled events).1.worker? token) ∧
      (run.1.phase.isActive = true →
        (handled events).1.queue = [] ∧
        (answersTo token (handled events).2).length = (callsOf token events).length) := by
  intro run held handled
  have hc : Consistent run.1 held := consistent_trace capacity acts
  refine ⟨hc.receivable, fun events hevents => ?_⟩
  obtain ⟨hworker, hanswers⟩ := hc.handling_bearing hevents setup token
  refine ⟨⟨hanswers, hworker⟩, ?_, ?_⟩
  · -- queues that agree on the token
    intro others hothers hsame
    obtain ⟨hother, hmore⟩ := hc.handling_bearing hothers setup token
    rw [hsame] at hother hmore
    exact ⟨hmore.trans hanswers.symm, hother.trans hworker.symm⟩
  · -- a run that is going on
    intro hactive
    obtain ⟨hall, -, hnone⟩ := (hc.ready hevents).attended_all hactive setup token
    refine ⟨hnone, ?_⟩
    rw [← length_attendAll token (run.1.worker? token)]
    exact congrArg (fun pair => pair.2.length) hall

/-! ## A crowded queue -/

/-- A run in which an embedded job and two forked ones are under way. -/
def crowdedActs : List Act :=
  [.submit (sampleJobs.take 1 ++ [forkedJob, forkedJob]), .dispatch, .dispatch,
    .dispatch].map (Act.mk sampleSetup)

/-- Events of two peers, of the user, of the embedded job and of a stranger. -/
def crowdedEvents : List Event :=
  [.pull "fork-token-2", .push "fork-token-1" { job := default, status := .normal }, .released [0],
    .kill "fork-token-2", .pull "fork-token-1", .pull "nobody",
    .push "fork-token-1" { job := default, status := .vmError }]

theorem tokens_do_not_interfere_crowded :
    let run := runOn 5 crowdedActs
    let handled := run.1.handling sampleSetup
    let own := crowdedEvents.filter fun event => event.token? = some "fork-token-1"
    Receivable (outstanding run.2) crowdedEvents ∧ run.1.phase.isActive = true ∧
      own.length = 3 ∧ (callsOf "fork-token-1" crowdedEvents).length = 3 ∧
      answersTo "fork-token-1" (handled crowdedEvents).2 =
        answersTo "fork-token-1" (handled own).2 ∧
      (answersTo "fork-token-1" (handled crowdedEvents).2).length = 3 ∧
      (handled crowdedEvents).1.worker? "fork-token-1" =
        (handled own).1.worker? "fork-token-1" := by
  intro run handled own
  have hevents : Receivable (outstanding run.2) crowdedEvents := by
    have hheld : (outstanding run.2).map Ticket.cpus = [[0]] := by decide +kernel
    unfold Receivable
    rw [hheld]
    exact List.Subperm.refl _
  obtain ⟨-, hall⟩ := tokens_do_not_interfere 5 crowdedActs "fork-token-1" sampleSetup
  obtain ⟨⟨hanswers, hworker⟩, -, hactive⟩ := hall crowdedEvents hevents
  have hphase : run.1.phase.isActive = true := by decide +kernel
  exact ⟨hevents, hphase, by decide, by decide, hanswers, (hactive hphase).2, hworker⟩

end StressBatch.Scheduler
