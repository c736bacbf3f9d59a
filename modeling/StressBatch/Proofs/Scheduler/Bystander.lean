import StressBatch.Proofs.Scheduler.Results

/-!
# Steps that do not concern a token

A step concerns a token if it handles a request that bears it, harvests its worker or gives the
token to a new worker. All other steps leave everything that is known under the token as it was.
-/

namespace StressBatch.Scheduler

/-! ## What bears a token -/

/-- The token that a link request bears. -/
def Event.caller? : Event → Option Token
  | .pull token => some token
  | .push token _ => some token
  | _ => none

/-- The link request that a move makes. -/
def Move.call? : Move → Option Event
  | .request event => some event
  | _ => none

/-- The link requests in a list that bear a token, in order. -/
def callsOf (token : Token) (events : List Event) : List Event :=
  events.filter fun event => event.caller? = some token

/-- The link requests that are made under a token, in order. -/
def asked (token : Token) (acts : List Act) : List Event :=
  callsOf token (acts.filterMap fun act => act.move.call?)

/-- The token of the worker that a result is passed on for. -/
def Origin.token? : Origin → Option Token
  | .forked token _ => some token
  | _ => none

/-- The token that an effect concerns. -/
def Effect.token? : Effect → Option Token
  | .passedOn origin _ => origin.token?
  | .pulled token _ => some token
  | .pushed token _ => some token
  | .harvested worker _ => some worker.token
  | _ => none

/-- The effects that concern a token, in order. -/
def effectsOf (token : Token) (effects : List Effect) : List Effect :=
  effects.filter fun effect => effect.token? = some token

section Append

variable (token : Token)

@[simp] theorem callsOf_append (events more : List Event) :
    callsOf token (events ++ more) = callsOf token events ++ callsOf token more :=
  List.filter_append ..

@[simp] theorem effectsOf_append (effects more : List Effect) :
    effectsOf token (effects ++ more) = effectsOf token effects ++ effectsOf token more :=
  List.filter_append ..

@[simp] theorem effectsOf_nil : effectsOf token [] = [] := rfl

theorem asked_append (acts more : List Act) :
    asked token (acts ++ more) = asked token acts ++ asked token more := by
  unfold asked
  rw [List.filterMap_append, callsOf_append]

theorem effectsOf_eq_nil {effects : List Effect}
    (h : ∀ effect ∈ effects, effect.token? ≠ some token) : effectsOf token effects = [] := by
  unfold effectsOf
  rw [List.filter_eq_nil_iff]
  intro effect heffect
  simpa using h effect heffect

end Append

/-! ## The worker of a token -/

theorem worker?_updateWorker (s : State) {token : Token} {f : Worker → Worker} (other : Token)
    (hf : ∀ worker ∈ s.workers, worker.token = token → Worker.Keeps worker (f worker)) :
    (s.updateWorker token f).worker? other =
      (s.worker? other).map fun worker => if worker.token = token then f worker else worker := by
  unfold State.worker? State.updateWorker
  rw [List.find?_map]
  congr 1
  refine List.find?_congr fun worker hworker => ?_
  have htoken := (keeps_updateWorker hf worker hworker).token_eq
  simp only [Function.comp_apply]
  rw [htoken]

theorem worker?_of_token_ne {s : State} {token other : Token} {f : Worker → Worker}
    (hf : ∀ worker ∈ s.workers, worker.token = token → Worker.Keeps worker (f worker))
    (hne : other ≠ token) : (s.updateWorker token f).worker? other = s.worker? other := by
  rw [worker?_updateWorker s other hf]
  cases h : s.worker? other with
  | none => rfl
  | some worker =>
    obtain ⟨-, htoken⟩ := State.token_of_worker? h
    rw [Option.map_some, if_neg (htoken ▸ hne)]

theorem worker?_of_token_eq {s : State} {token : Token} {f : Worker → Worker} {worker : Worker}
    (hf : ∀ worker ∈ s.workers, worker.token = token → Worker.Keeps worker (f worker))
    (h : s.worker? token = some worker) :
    (s.updateWorker token f).worker? token = some (f worker) := by
  obtain ⟨-, htoken⟩ := State.token_of_worker? h
  rw [worker?_updateWorker s token hf, h, Option.map_some, if_pos htoken]

theorem worker?_concat {s : State} {new : Worker} {token : Token} (hne : new.token ≠ token) :
    (s.workers ++ [new]).find? (fun worker => worker.token == token) = s.worker? token := by
  unfold State.worker?
  rw [List.find?_append]
  simp [hne]

/-- The worker of a token is harvested if it is over, and stays live otherwise. -/
theorem worker?_reaped {s : State} {token : Token} (hs : s.liveTokens.Nodup) :
    (s.workers.filter fun worker => !worker.check.2.isOver).find?
        (fun worker => worker.token == token) =
      (s.worker? token).filter fun worker => !worker.check.2.isOver := by
  cases h : s.worker? token with
  | none =>
    have hnone := State.worker?_eq_none h
    rw [Option.filter_none, List.find?_eq_none]
    intro worker hworker htoken
    refine hnone (List.mem_map.mpr ⟨worker, (List.mem_filter.mp hworker).1, ?_⟩)
    simpa using htoken
  | some worker =>
    obtain ⟨hmem, htoken⟩ := State.token_of_worker? h
    by_cases hover : worker.check.2.isOver = true
    · rw [Option.filter_some_neg (by simp [hover]), List.find?_eq_none]
      intro other hother hsame
      obtain ⟨hlive, hnot⟩ := List.mem_filter.mp hother
      have heq := State.eq_of_token_eq hs hlive hmem (by rw [htoken]; simpa using hsame)
      simp [heq, hover] at hnot
    · rw [Option.filter_some_pos (by simpa using hover)]
      have hstays : worker ∈ s.workers.filter fun worker => !worker.check.2.isOver :=
        List.mem_filter.mpr ⟨hmem, by simpa using hover⟩
      have hsub : (s.workers.filter fun worker => !worker.check.2.isOver).Sublist s.workers :=
        List.filter_sublist
      have hnodup := List.Nodup.sublist (hsub.map fun worker : Worker => worker.token) hs
      have hfound := State.worker?_of_mem (s := { s with
        workers := s.workers.filter fun worker => !worker.check.2.isOver }) hnodup hstays
      rw [htoken] at hfound
      exact hfound

/-! ## What a reap shows under a token -/

theorem workers_filter_token {s : State} (hs : s.liveTokens.Nodup) (token : Token) :
    (s.workers.filter fun worker => worker.token = token) = (s.worker? token).toList := by
  cases h : s.worker? token with
  | none =>
    have hnone := State.worker?_eq_none h
    rw [Option.toList_none, List.filter_eq_nil_iff]
    intro worker hworker htoken
    exact hnone (List.mem_map.mpr ⟨worker, hworker, by simpa using htoken⟩)
  | some worker =>
    obtain ⟨hmem, htoken⟩ := State.token_of_worker? h
    have hnodup : s.workers.Nodup := List.Nodup.of_map _ hs
    refine List.perm_singleton.mp ((List.perm_ext_iff_of_nodup (hnodup.filter _)
      (List.nodup_singleton worker)).mpr fun other => ?_)
    rw [List.mem_filter, decide_eq_true_iff, List.mem_singleton]
    constructor
    · rintro ⟨hother, hsame⟩
      exact State.eq_of_token_eq hs hother hmem (hsame.trans htoken.symm)
    · rintro rfl
      exact ⟨hmem, htoken⟩

theorem checks_filter_token {s : State} (hs : s.liveTokens.Nodup) {order : List Token}
    (horder : order.Perm s.liveTokens) (token : Token) :
    ((s.checks order).filter fun c => c.1.token = token) =
      ((s.worker? token).map Worker.check).toList := by
  have hperm := (State.checks_perm hs horder).filter fun c => c.1.token = token
  have hworkers : ((s.workers.map Worker.check).filter fun c => c.1.token = token) =
      ((s.worker? token).map Worker.check).toList := by
    rw [List.filter_map]
    have hfilter : (s.workers.filter ((fun c => decide (c.1.token = token)) ∘ Worker.check)) =
        s.workers.filter fun worker => worker.token = token :=
      List.filter_congr fun worker _ => by simp
    rw [hfilter, workers_filter_token hs]
    cases s.worker? token <;> rfl
  rw [hworkers] at hperm
  cases h : s.worker? token with
  | none =>
    rw [h] at hperm
    exact hperm.eq_nil
  | some worker =>
    rw [h] at hperm
    exact List.perm_singleton.mp hperm

/-- What a reap shows under a token is what it shows of the check on the worker of the token. -/
theorem effectsOf_reap {s : State} (hs : s.liveTokens.Nodup) {order : List Token}
    (horder : order.Perm s.liveTokens) (token : Token) :
    effectsOf token ((s.checks order).filterMap State.reportEffect? ++
      (s.endings order).flatMap harvestEffects) =
      ((s.worker? token).map Worker.check).toList.filterMap State.reportEffect? ++
        (((s.worker? token).map Worker.check).toList.filter fun c => c.2.isOver).flatMap
          harvestEffects := by
  have hall : ∀ checked : List (Worker × Checked),
      effectsOf token (checked.filterMap State.reportEffect?) =
        (checked.filter fun c => c.1.token = token).filterMap State.reportEffect? ∧
      effectsOf token ((checked.filter fun c => c.2.isOver).flatMap harvestEffects) =
        ((checked.filter fun c => c.1.token = token).filter fun c => c.2.isOver).flatMap
          harvestEffects := by
    intro checked
    induction checked with
    | nil => exact ⟨rfl, rfl⟩
    | cons first rest ih =>
      obtain ⟨worker, found⟩ := first
      obtain ⟨hreported, hharvested⟩ := ih
      unfold effectsOf at hreported hharvested ⊢
      by_cases htoken : worker.token = token <;> cases found <;>
        simp_all [List.filterMap_cons, State.reportEffect?, Checked.result?, Checked.isOver,
          harvestEffects, Effect.token?, Origin.token?]
  obtain ⟨hreported, hharvested⟩ := hall (s.checks order)
  rw [← checks_filter_token hs horder token, effectsOf_append, hreported]
  unfold State.endings
  rw [hharvested]

/-! ## Steps apart from a token -/

/-- A move that does not concern a token: it neither is nor handles a request that bears the token,
it does not issue the token, and it does not reach its worker. -/
structure Apart (token : Token) (s : State) (move : Move) (after : State) : Prop where
  call : ∀ event, move = .request event → event.caller? ≠ some token
  handle : ∀ event rest, move = .handle → s.queue = event :: rest → event.caller? ≠ some token
  issue : s.issued < after.issued → token ≠ State.tokenOf (s.issued + 1)
  live : ∀ worker, s.worker? token = some worker →
    (∀ rest, move = .handle → s.queue ≠ .kill token :: rest) ∧
    (∀ exit, move ≠ .exit token exit) ∧ (∀ fault, move ≠ .lose token fault) ∧
    (∀ order, move = .reap order → worker.check.2.isOver = false)

/-- What a step leaves as it was that does not concern a token: its worker and its requests in the
queue. Nothing is shown under the token, and nothing more is held against it. -/
structure Untouched (token : Token) (s after : State) (shown : List Effect) : Prop where
  worker_eq : after.worker? token = s.worker? token
  calls_eq : callsOf token after.queue = callsOf token s.queue
  effects_eq : effectsOf token shown = []
  violations : ∀ violation ∈ after.summary.violations, violation.token = token →
    violation ∈ s.summary.violations

section Apart

variable {token : Token} {s after : State} {held : List Ticket} {setup : Setup} {move : Move}
  {shown : List Effect}

theorem callsOf_cons_of_ne {event : Event} (h : event.caller? ≠ some token) (rest : List Event) :
    callsOf token (event :: rest) = callsOf token rest := by
  unfold callsOf
  rw [List.filter_cons_of_neg (by simpa using h)]

theorem callsOf_concat_of_ne {event : Event} (h : event.caller? ≠ some token)
    (events : List Event) : callsOf token (events ++ [event]) = callsOf token events := by
  rw [callsOf_append, callsOf_cons_of_ne h]
  exact List.append_nil _

/-- Changing the process of the worker of a token changes nothing under another one. -/
theorem worker?_mapProcess_of_apart {other : Token} {f : Process → Process}
    (h : ∀ worker, s.worker? token = some worker → other ≠ token) :
    (s.updateWorker other fun worker => worker.mapProcess f).worker? token =
      s.worker? token := by
  have hf : ∀ worker ∈ s.workers, worker.token = other →
      Worker.Keeps worker (worker.mapProcess f) :=
    fun worker _ _ => Worker.keeps_mapProcess worker f
  cases hworker : s.worker? token with
  | none => rw [worker?_updateWorker s token hf, hworker, Option.map_none]
  | some worker => rw [worker?_of_token_ne hf (h worker hworker).symm, hworker]

theorem violations_noted {violation : Violation} (h : violation.token ≠ token) :
    ∀ v ∈ s.summary.violations ++ [violation], v.token = token → v ∈ s.summary.violations := by
  intro v hv htoken
  rcases List.mem_append.mp hv with hold | hnew
  · exact hold
  · rw [List.mem_singleton.mp hnew] at htoken
    contradiction

theorem Consistent.token_of_violation (hc : Consistent s held) {worker : Worker}
    (hworker : worker ∈ s.workers) {violation : Violation}
    (h : violation? worker.check = some violation) : violation.token = worker.token := by
  obtain ⟨process, hprocess⟩ := hc.started worker hworker
  unfold violation? at h
  cases hover : process.isOver with
  | false =>
    rw [Worker.check_of_running hprocess hover] at h
    contradiction
  | true =>
    have hover := Worker.check_of_over hprocess hover
    generalize worker.check.2 = found at h hover
    cases hover with
    | reported passed result hphase => contradiction
    | violated hphase =>
      obtain rfl := Option.some.inj h
      rfl

/-- A reap under a token whose worker is not over. -/
theorem Consistent.untouched_of_reaped (hc : Consistent s held) {order : List Token}
    (horder : order.Perm s.liveTokens)
    (hlive : ∀ worker, s.worker? token = some worker → worker.check.2.isOver = false) :
    effectsOf token ((s.checks order).filterMap State.reportEffect? ++
      (s.endings order).flatMap harvestEffects) = [] ∧
    (∀ violation ∈ (s.endings order).filterMap violation?, violation.token ≠ token) ∧
    (s.worker? token).filter (fun worker => !worker.check.2.isOver) = s.worker? token := by
  refine ⟨?_, ?_, ?_⟩
  · rw [effectsOf_reap hc.nodup_tokens horder]
    cases h : s.worker? token with
    | none => rfl
    | some worker =>
      obtain ⟨hmem, -⟩ := State.token_of_worker? h
      obtain ⟨process, hprocess⟩ := hc.started worker hmem
      have hrunning : process.isOver = false := by
        rw [← Worker.isOver_check_eq hprocess]
        exact hlive worker h
      rw [Option.map_some, Worker.check_of_running hprocess hrunning]
      rfl
  · intro violation hviolation htoken
    obtain ⟨checked, hchecked, hfound⟩ := List.mem_filterMap.mp hviolation
    obtain ⟨hin, hover⟩ := List.mem_filter.mp hchecked
    obtain ⟨worker, hworker, rfl⟩ :=
      List.mem_map.mp ((State.checks_perm hc.nodup_tokens horder).mem_iff.mp hin)
    have hsame : violation.token = worker.token := hc.token_of_violation hworker hfound
    have hlivehere := State.worker?_of_mem hc.nodup_tokens hworker
    rw [← hsame, htoken] at hlivehere
    rw [hlive worker hlivehere] at hover
    contradiction
  · cases h : s.worker? token with
    | none => rfl
    | some worker => exact Option.filter_some_pos (by simp [hlive worker h])

/-- A step that does not concern a token leaves everything known under it as it was. -/
theorem untouched_of_apart (hc : Consistent s held) (ha : Apart token s move after)
    (h : Transition setup s move after shown) : Untouched token s after shown := by
  cases h with
  | submitted jobs hphase => exact ⟨rfl, rfl, rfl, fun v hv _ => hv⟩
  | resubmitted jobs hphase =>
    refine ⟨rfl, rfl, effectsOf_eq_nil token ?_, fun v hv _ => hv⟩
    intro effect heffect
    obtain ⟨job, -, rfl⟩ := List.mem_map.mp heffect
    simp [Effect.token?, Origin.token?]
  | refused job rest reason hphase hpending hreason => exact ⟨rfl, rfl, rfl, fun v hv _ => hv⟩
  | kept job rest cpus layout hphase hpending hreason hdispatch hacquire hrunner =>
    exact ⟨rfl, rfl, rfl, fun v hv _ => hv⟩
  | endedAtOnce job rest cpus layout result phase hphase hpending hreason hdispatch hacquire
      hrunner =>
    exact ⟨rfl, callsOf_concat_of_ne (by simp [Event.caller?]) _, rfl, fun v hv _ => hv⟩
  | forked job rest cpus layout worker hphase hpending hreason hdispatch hacquire hprepare =>
    have hne := ha.issue (Nat.lt_succ_self _)
    refine ⟨worker?_concat ?_, rfl, rfl, fun v hv _ => hv⟩
    rw [Worker.start_token, (Worker.prepared_of_prepare hprepare).token_eq]
    exact hne.symm
  | unprepared job rest cpus layout fault hphase hpending hreason hdispatch hacquire hprepare =>
    have hne := ha.issue (Nat.lt_succ_self _)
    refine ⟨rfl, rfl, effectsOf_eq_nil token ?_, fun v hv _ => hv⟩
    intro effect heffect
    rcases List.mem_cons.mp heffect with rfl | hlast
    · simp [Effect.token?]
    · rw [List.mem_singleton.mp hlast]
      simpa [Effect.token?, Origin.token?] using hne.symm
  | drained hphase hpending => exact ⟨rfl, rfl, rfl, fun v hv _ => hv⟩
  | closed elapsed hphase hidle => exact ⟨rfl, rfl, rfl, fun v hv _ => hv⟩
  | pulled other rest worker hphase hqueue hworker =>
    have hcaller := ha.handle _ rest rfl hqueue
    have hne : other ≠ token := by simpa [Event.caller?] using hcaller
    refine ⟨worker?_of_token_ne (fun w _ _ => Worker.keeps_takeJob w) hne.symm, ?_,
      effectsOf_eq_nil token (by simpa [Effect.token?] using hne), fun v hv _ => hv⟩
    rw [hqueue, callsOf_cons_of_ne hcaller]
    rfl
  | pulledUnknown other rest hphase hqueue hworker =>
    have hcaller := ha.handle _ rest rfl hqueue
    have hne : other ≠ token := by simpa [Event.caller?] using hcaller
    refine ⟨rfl, ?_, effectsOf_eq_nil token (by simpa [Effect.token?] using hne),
      violations_noted hne⟩
    rw [hqueue, callsOf_cons_of_ne hcaller]
    rfl
  | pushed other result rest worker recorded hphase hqueue hworker hrecord =>
    have hcaller := ha.handle _ rest rfl hqueue
    have hne : other ≠ token := by simpa [Event.caller?] using hcaller
    refine ⟨worker?_of_token_ne (hc.keeps_recorded hworker hrecord) hne.symm, ?_,
      effectsOf_eq_nil token (by simpa [Effect.token?] using hne), fun v hv _ => hv⟩
    rw [hqueue, callsOf_cons_of_ne hcaller]
    rfl
  | pushedAgain other result rest worker violation hphase hqueue hworker hrecord =>
    have hcaller := ha.handle _ rest rfl hqueue
    have hne : other ≠ token := by simpa [Event.caller?] using hcaller
    obtain ⟨-, rfl⟩ := Worker.record_eq_error hrecord
    obtain ⟨-, htoken⟩ := State.token_of_worker? hworker
    refine ⟨rfl, ?_, effectsOf_eq_nil token (by simpa [Effect.token?] using hne),
      violations_noted (htoken ▸ hne)⟩
    rw [hqueue, callsOf_cons_of_ne hcaller]
    rfl
  | pushedUnknown other result rest hphase hqueue hworker =>
    have hcaller := ha.handle _ rest rfl hqueue
    have hne : other ≠ token := by simpa [Event.caller?] using hcaller
    refine ⟨rfl, ?_, effectsOf_eq_nil token (by simpa [Effect.token?] using hne),
      violations_noted hne⟩
    rw [hqueue, callsOf_cons_of_ne hcaller]
    rfl
  | reclaimed cpus rest layout hphase hqueue hrelease =>
    refine ⟨rfl, ?_, rfl, fun v hv _ => hv⟩
    rw [hqueue, callsOf_cons_of_ne (by simp [Event.caller?])]
  | killed other rest hphase hqueue =>
    refine ⟨worker?_mapProcess_of_apart fun worker hworker => ?_, ?_, rfl, fun v hv _ => hv⟩
    · rintro rfl
      exact (ha.live worker hworker).1 rest rfl hqueue
    · rw [hqueue, callsOf_cons_of_ne (by simp [Event.caller?])]
      rfl
  | reaped order layout hphase horder hrelease =>
    have hlive : ∀ worker, s.worker? token = some worker → worker.check.2.isOver = false :=
      fun worker hworker => (ha.live worker hworker).2.2.2 order rfl
    obtain ⟨heffects, hviolations, hworker⟩ := hc.untouched_of_reaped horder hlive
    refine ⟨(worker?_reaped hc.nodup_tokens).trans hworker, rfl, heffects, ?_⟩
    intro violation hviolation htoken
    rcases List.mem_append.mp hviolation with hold | hnew
    · exact hold
    · exact absurd htoken (hviolations violation hnew)
  | requested event hevent =>
    exact ⟨rfl, callsOf_concat_of_ne (ha.call event rfl) _, rfl, fun v hv _ => hv⟩
  | finished position result ticket hticket => exact ⟨rfl, rfl, rfl, fun v hv _ => hv⟩
  | abandoned position ticket hticket => exact ⟨rfl, rfl, rfl, fun v hv _ => hv⟩
  | notified position ticket hticket =>
    exact ⟨rfl, callsOf_concat_of_ne (by simp [Event.caller?]) _, rfl, fun v hv _ => hv⟩
  | exited other exit =>
    refine ⟨worker?_mapProcess_of_apart fun worker hworker => ?_, rfl, rfl, fun v hv _ => hv⟩
    rintro rfl
    exact (ha.live worker hworker).2.1 exit rfl
  | lost other fault =>
    refine ⟨worker?_mapProcess_of_apart fun worker hworker => ?_, rfl, rfl, fun v hv _ => hv⟩
    rintro rfl
    exact (ha.live worker hworker).2.2.1 fault rfl

end Apart

end StressBatch.Scheduler
