import StressBatch.Proofs.Scheduler.Conduct

/-!
# What happens under a token

`Dealing` lists what a step can do under a token that may be done only once: start a job, hand it
out, take a result in, harvest the worker. `Usage` says what has come of a token so far: it has not
been issued, or its worker is live and knows what has happened, or it names nobody any more.
-/

namespace StressBatch.Scheduler

/-! ## What is shown under a token -/

/-- The token that an effect shows to be issued. -/
def Effect.issued? : Effect → Option Token
  | .started _ _ token => token
  | _ => none

/-- The tokens that are issued, in order. -/
def issuedTokens (effects : List Effect) : List Token := effects.filterMap Effect.issued?

/-- The job that an effect shows to be started under a token, with its CPUs. -/
def Effect.start? (token : Token) : Effect → Option Ticket
  | .started job cpus issued => if issued = some token then some ⟨job, cpus⟩ else none
  | _ => none

/-- The job that an effect shows to be handed out. -/
def Effect.handedOut? : Effect → Option Job
  | .pulled _ (.ok job) => job
  | _ => none

/-- Whether an effect shows that a result is taken in. -/
def Effect.takesIn : Effect → Bool
  | .pushed _ (.ok ()) => true
  | _ => false

/-- What may happen once under a token. -/
structure Dealings where
  /-- The jobs that are started, with their CPUs. -/
  starts : List Ticket
  /-- The jobs that are handed out. -/
  handedOut : List Job
  /-- How many results are taken in. -/
  takenIn : Nat
  /-- The workers that are harvested, and what checking on them came to. -/
  harvests : List (Worker × Checked)

/-- What effects show to have happened under a token. -/
def dealings (token : Token) (effects : List Effect) : Dealings where
  starts := effects.filterMap (Effect.start? token)
  handedOut := (effectsOf token effects).filterMap Effect.handedOut?
  takenIn := (effectsOf token effects).countP Effect.takesIn
  harvests := (effectsOf token effects).filterMap Effect.harvested?

namespace Dealings

/-- Nothing has happened. -/
def none : Dealings := ⟨[], [], 0, []⟩

/-- What has happened, and then more. -/
def append (before new : Dealings) : Dealings where
  starts := before.starts ++ new.starts
  handedOut := before.handedOut ++ new.handedOut
  takenIn := before.takenIn + new.takenIn
  harvests := before.harvests ++ new.harvests

@[simp] theorem append_none (before : Dealings) : before.append none = before := by
  simp [append, none]

end Dealings

theorem dealings_append (token : Token) (effects more : List Effect) :
    dealings token (effects ++ more) =
      (dealings token effects).append (dealings token more) := by
  unfold dealings Dealings.append
  rw [effectsOf_append, List.filterMap_append, List.filterMap_append, List.filterMap_append,
    List.countP_append]

theorem filterMap_singleton {α β : Type} (f : α → Option β) (a : α) :
    [a].filterMap f = (f a).toList := by
  rw [List.filterMap_cons]
  cases f a <;> rfl

/-- What bears another token has no part in it. -/
theorem dealings_singleton_of_ne {token : Token} {effect : Effect}
    (hstart : effect.start? token = .none) (htoken : effect.token? ≠ some token) :
    dealings token [effect] = .none := by
  have heffects : effectsOf token [effect] = [] :=
    effectsOf_eq_nil token fun other hother => List.mem_singleton.mp hother ▸ htoken
  unfold dealings
  rw [heffects, List.filterMap_cons_none hstart]
  rfl

theorem dealings_singleton {token : Token} {effect : Effect} (htoken : effect.token? = some token) :
    dealings token [effect] = ⟨(effect.start? token).toList, effect.handedOut?.toList,
      if effect.takesIn then 1 else 0, effect.harvested?.toList⟩ := by
  have heffects : effectsOf token [effect] = [effect] := by
    unfold effectsOf
    exact List.filter_cons_of_pos (by simpa using htoken)
  unfold dealings
  rw [heffects, List.countP_singleton, filterMap_singleton, filterMap_singleton,
    filterMap_singleton]

/-! ## Issuing -/

/-- The token has been issued. -/
def Issued (token : Token) (s : State) : Prop := ∃ n < s.issued, token = State.tokenOf (n + 1)

section Steps

variable {token : Token} {s after : State} {new : List Effect} {held : List Ticket}
  {setup : Setup} {move : Move}

theorem issued_of_next (h : after.issued = s.issued + 1) :
    Issued token after ↔ Issued token s ∨ token = State.tokenOf (s.issued + 1) := by
  unfold Issued
  rw [h]
  constructor
  · rintro ⟨n, hn, rfl⟩
    by_cases hlast : n = s.issued
    · right
      rw [hlast]
    · left
      exact ⟨n, by omega, rfl⟩
  · rintro (⟨n, hn, rfl⟩ | rfl)
    · exact ⟨n, by omega, rfl⟩
    · exact ⟨s.issued, by omega, rfl⟩

theorem not_issued_next (s : State) : ¬ Issued (State.tokenOf (s.issued + 1)) s :=
  fun h => not_next_of_issued h rfl

/-- A step issues the next token or none. -/
theorem issuedTokens_of_transition (h : Transition setup s move after new) :
    (after.issued = s.issued ∧ issuedTokens new = []) ∨
      (after.issued = s.issued + 1 ∧ issuedTokens new = [State.tokenOf (s.issued + 1)]) := by
  cases h with
  | forked job rest cpus layout worker hphase hpending hreason hdispatch hacquire hprepare =>
    exact .inr ⟨rfl, rfl⟩
  | unprepared job rest cpus layout fault hphase hpending hreason hdispatch hacquire hprepare =>
    exact .inr ⟨rfl, rfl⟩
  | resubmitted jobs hphase =>
    refine .inl ⟨rfl, List.filterMap_eq_nil_iff.mpr ?_⟩
    intro effect heffect
    obtain ⟨job, -, rfl⟩ := List.mem_map.mp heffect
    rfl
  | reaped order layout hphase horder hrelease =>
    refine .inl ⟨rfl, List.filterMap_eq_nil_iff.mpr fun effect heffect => ?_⟩
    cases ofReap_of_mem heffect <;> rfl
  | _ => exact .inl ⟨rfl, rfl⟩

/-! ## What a step does under a token -/

/-- What a step does under a token. -/
inductive Dealing (token : Token) (s after : State) : Dealings → Prop where
  /-- Nothing that may happen only once. -/
  | apart (hissued : Issued token after ↔ Issued token s)
      (hworker : Option.Rel Worker.Alike (s.worker? token) (after.worker? token)) :
    Dealing token s after .none
  /-- A job is started under it. -/
  | started (ticket : Ticket) (hnew : ¬ Issued token s) (hissued : Issued token after)
      (hworker : ∀ worker, after.worker? token = some worker →
        worker.ticket = ticket ∧ worker.jobTaken = false ∧ worker.slot = .pending) :
    Dealing token s after ⟨[ticket], [], 0, []⟩
  /-- A pull is answered. -/
  | pulled (worker : Worker) (hissued : Issued token after ↔ Issued token s)
      (hworker : s.worker? token = some worker)
      (hafter : after.worker? token = some worker.takeJob.2) :
    Dealing token s after ⟨[], worker.takeJob.1.toList, 0, []⟩
  /-- A result is taken in. -/
  | pushed (worker recorded : Worker) (result : TestResult)
      (hissued : Issued token after ↔ Issued token s) (hworker : s.worker? token = some worker)
      (hrecord : worker.record result = .ok recorded)
      (hafter : after.worker? token = some recorded) :
    Dealing token s after ⟨[], [], 1, []⟩
  /-- The worker is harvested. -/
  | harvested (worker : Worker) (hissued : Issued token after ↔ Issued token s)
      (hworker : s.worker? token = some worker) (hafter : after.worker? token = none) :
    Dealing token s after ⟨[], [], 0, [worker.check]⟩

theorem alike_refl (worker : Option Worker) : Option.Rel Worker.Alike worker worker := by
  cases worker with
  | none => exact .none
  | some worker => exact .some (.refl worker)

/-- A step that leaves the worker of a token as it is and shows nothing under the token. -/
theorem dealing_of_same (hissued : after.issued = s.issued)
    (hworkers : after.worker? token = s.worker? token) (hnew : dealings token new = .none) :
    Dealing token s after (dealings token new) := by
  rw [hnew]
  refine .apart ?_ ?_
  · unfold Issued
    rw [hissued]
  · rw [hworkers]
    exact alike_refl _

/-- A step that changes at most the process of a worker. -/
theorem dealing_of_mapProcess (other : Token) (f : Process → Process) (queue : List Event) :
    Dealing token s
      (State.updateWorker { s with queue := queue } other fun worker => worker.mapProcess f)
      (dealings token []) := by
  refine .apart Iff.rfl ?_
  have hfound : (State.updateWorker { s with queue := queue } other fun worker =>
      worker.mapProcess f).worker? token = (s.worker? token).map fun worker =>
        if worker.token = other then worker.mapProcess f else worker :=
    worker?_updateWorker { s with queue := queue } token fun w _ _ => w.keeps_mapProcess f
  rw [hfound]
  cases s.worker? token with
  | none => exact .none
  | some worker =>
    refine .some ?_
    by_cases htoken : worker.token = other
    · simp only [if_pos htoken]
      exact worker.alike_mapProcess f
    · simp only [if_neg htoken]
      exact .refl worker

/-- What a reap shows under a token is the harvest of its worker, if that is over. -/
theorem dealings_reap (hc : Consistent s held) {order : List Token}
    (horder : order.Perm s.liveTokens) :
    dealings token ((s.checks order).filterMap State.reportEffect? ++
      (s.endings order).flatMap harvestEffects) =
      ⟨[], [], 0, ((s.worker? token).map Worker.check).toList.filter fun c => c.2.isOver⟩ := by
  have hstarts : ((s.checks order).filterMap State.reportEffect? ++
      (s.endings order).flatMap harvestEffects).filterMap (Effect.start? token) = [] := by
    refine List.filterMap_eq_nil_iff.mpr fun effect heffect => ?_
    cases ofReap_of_mem heffect <;> rfl
  unfold dealings
  rw [hstarts, effectsOf_reap hc.nodup_tokens horder]
  cases s.worker? token with
  | none => rfl
  | some worker =>
    rw [Option.map_some]
    obtain ⟨checked, found⟩ := worker.check
    cases found <;> rfl

/-- A job that is started under the next token. -/
theorem dealing_of_started {job : Job} {cpus : List Nat}
    {rest : List Effect} (hissued : after.issued = s.issued + 1)
    (hworker : ∀ worker, after.worker? (State.tokenOf (s.issued + 1)) = some worker →
      worker.ticket = ⟨job, cpus⟩ ∧ worker.jobTaken = false ∧ worker.slot = .pending)
    (hother : token ≠ State.tokenOf (s.issued + 1) → after.worker? token = s.worker? token)
    (hrest : dealings token rest = .none) :
    Dealing token s after
      (dealings token (.started job cpus (some (State.tokenOf (s.issued + 1))) :: rest)) := by
  have hcons := dealings_append token
    [.started job cpus (some (State.tokenOf (s.issued + 1)))] rest
  rw [List.singleton_append, hrest, Dealings.append_none] at hcons
  rw [hcons]
  by_cases htoken : token = State.tokenOf (s.issued + 1)
  · subst htoken
    have hnew : dealings (State.tokenOf (s.issued + 1))
        [.started job cpus (some (State.tokenOf (s.issued + 1)))] = ⟨[⟨job, cpus⟩], [], 0, []⟩ := by
      unfold dealings
      rw [filterMap_singleton, Effect.start?, if_pos rfl]
      rfl
    rw [hnew]
    exact .started _ (not_issued_next s) ((issued_of_next hissued).mpr (.inr rfl)) hworker
  · have hnone : dealings token [.started job cpus (some (State.tokenOf (s.issued + 1)))] =
        .none := by
      refine dealings_singleton_of_ne ?_ nofun
      unfold Effect.start?
      exact if_neg fun h => htoken (Option.some.inj h).symm
    rw [hnone]
    refine .apart ?_ ?_
    · rw [issued_of_next hissued]
      exact ⟨fun h => h.resolve_right htoken, .inl⟩
    · rw [hother htoken]
      exact alike_refl _

/-- A request under the token is answered, or one under another token. -/
theorem dealing_of_answered {other : Token} {effect : Effect} (hissued : after.issued = s.issued)
    (htoken : effect.token? = some other)
    (hother : other ≠ token → after.worker? token = s.worker? token)
    (hown : other = token → Dealing token s after (dealings token [effect]))
    (hstart : effect.start? token = none) : Dealing token s after (dealings token [effect]) := by
  by_cases heq : other = token
  · exact hown heq
  · refine dealing_of_same hissued (hother heq) (dealings_singleton_of_ne hstart ?_)
    rw [htoken]
    exact fun h => heq (Option.some.inj h)

/-- A request that is turned down. -/
theorem dealings_of_turned_down {effect : Effect} (hstart : effect.start? token = none)
    (hjob : effect.handedOut? = none) (hresult : effect.takesIn = false)
    (hharvest : effect.harvested? = none) : dealings token [effect] = .none := by
  by_cases htoken : effect.token? = some token
  · rw [dealings_singleton htoken, hstart, hjob, hresult, hharvest]
    rfl
  · exact dealings_singleton_of_ne hstart htoken

/-- What a step does under a token is one of the listed things. -/
theorem Consistent.dealing (hc : Consistent s held) (h : Transition setup s move after new) :
    Dealing token s after (dealings token new) := by
  cases h with
  | submitted jobs hphase => exact dealing_of_same rfl rfl rfl
  | resubmitted jobs hphase =>
    refine dealing_of_same rfl rfl ?_
    have hnone : ∀ effect ∈ jobs.map fun job => Effect.passedOn (.refused job)
        (State.refusal job State.alreadyRun), effect.start? token = none ∧
          effect.token? ≠ some token := by
      intro effect heffect
      obtain ⟨job, -, rfl⟩ := List.mem_map.mp heffect
      exact ⟨rfl, nofun⟩
    unfold dealings
    rw [effectsOf_eq_nil token fun effect heffect => (hnone effect heffect).2,
      List.filterMap_eq_nil_iff.mpr fun effect heffect => (hnone effect heffect).1]
    rfl
  | refused job rest reason hphase hpending hreason => exact dealing_of_same rfl rfl rfl
  | kept job rest cpus layout hphase hpending hreason hdispatch hacquire hrunner =>
    exact dealing_of_same rfl rfl rfl
  | endedAtOnce job rest cpus layout result phase hphase hpending hreason hdispatch hacquire
      hrunner =>
    exact dealing_of_same rfl rfl rfl
  | forked job rest cpus layout worker hphase hpending hreason hdispatch hacquire hprepare =>
    have hprepared := Worker.prepared_of_prepare hprepare
    have hnone : s.worker? (State.tokenOf (s.issued + 1)) = none := hc.worker?_next
    refine dealing_of_started rfl ?_ ?_ rfl
    · -- the new worker
      intro found hfound
      have hlast : (s.workers ++ [worker.start setup.host]).find?
          (fun worker => worker.token == State.tokenOf (s.issued + 1)) =
          some (worker.start setup.host) := by
        unfold State.worker? at hnone
        rw [List.find?_append, hnone, Option.none_or, List.find?_cons_of_pos]
        simp [hprepared.token_eq]
      obtain rfl := Option.some.inj (hlast.symm.trans hfound)
      rw [hprepared.start_eq]
      refine ⟨?_, hprepared.jobTaken_eq, hprepared.slot_eq⟩
      exact congrArg₂ Ticket.mk hprepared.job_eq hprepared.cpus_eq
    · -- the other ones
      intro htoken
      refine worker?_concat ?_
      rw [Worker.start_token, hprepared.token_eq]
      exact htoken.symm
  | unprepared job rest cpus layout fault hphase hpending hreason hdispatch hacquire hprepare =>
    refine dealing_of_started rfl ?_ ?_ ?_
    · intro worker hworker
      have hnone : s.worker? (State.tokenOf (s.issued + 1)) = none := hc.worker?_next
      exact absurd (hnone.symm.trans hworker) nofun
    · exact fun _ => rfl
    · exact dealings_of_turned_down rfl rfl rfl rfl
  | drained hphase hpending => exact dealing_of_same rfl rfl rfl
  | closed elapsed hphase hidle => exact dealing_of_same rfl rfl rfl
  | pulled other rest worker hphase hqueue hworker =>
    have hkeeps : ∀ w ∈ s.workers, w.token = other → Worker.Keeps w w.takeJob.2 :=
      fun w _ _ => w.keeps_takeJob
    refine dealing_of_answered rfl rfl ?_ ?_ rfl
    · exact fun hne => worker?_of_token_ne hkeeps hne.symm
    · rintro rfl
      rw [dealings_singleton rfl]
      have hafter := worker?_of_token_eq hkeeps hworker
      have hshown : (Effect.pulled other (.ok worker.takeJob.1)).handedOut?.toList =
          worker.takeJob.1.toList := rfl
      rw [hshown]
      exact .pulled worker Iff.rfl hworker hafter
  | pulledUnknown other rest hphase hqueue hworker =>
    exact dealing_of_same rfl rfl (dealings_of_turned_down rfl rfl rfl rfl)
  | pushed other result rest worker recorded hphase hqueue hworker hrecord =>
    have hkeeps := hc.keeps_recorded hworker hrecord
    refine dealing_of_answered rfl rfl ?_ ?_ rfl
    · exact fun hne => worker?_of_token_ne hkeeps hne.symm
    · rintro rfl
      rw [dealings_singleton rfl]
      have hafter := worker?_of_token_eq hkeeps hworker
      exact .pushed worker recorded result Iff.rfl hworker hrecord hafter
  | pushedAgain other result rest worker violation hphase hqueue hworker hrecord =>
    exact dealing_of_same rfl rfl (dealings_of_turned_down rfl rfl rfl rfl)
  | pushedUnknown other result rest hphase hqueue hworker =>
    exact dealing_of_same rfl rfl (dealings_of_turned_down rfl rfl rfl rfl)
  | reclaimed cpus rest layout hphase hqueue hrelease => exact dealing_of_same rfl rfl rfl
  | killed other rest hphase hqueue => exact dealing_of_mapProcess other Process.kill rest
  | reaped order layout hphase horder hrelease =>
    have hlive : State.worker? { s with
        workers := s.workers.filter fun worker => !worker.check.2.isOver } token =
        (s.worker? token).filter fun worker => !worker.check.2.isOver :=
      worker?_reaped hc.nodup_tokens
    have hnew : dealings token ((s.checks order).filterMap State.reportEffect? ++
        (s.endings order).flatMap harvestEffects) = _ := dealings_reap hc horder
    cases hworker : s.worker? token with
    | none =>
      refine dealing_of_same rfl ?_ ?_
      · exact hlive.trans (by rw [hworker]; rfl)
      · rw [hnew, hworker]
        rfl
    | some worker =>
      by_cases hover : worker.check.2.isOver = true
      · have hone : [worker.check].filter (fun c => c.2.isOver) = [worker.check] := by
          simp [hover]
        rw [hnew, hworker, Option.map_some, Option.toList_some, hone]
        refine .harvested worker Iff.rfl hworker (hlive.trans ?_)
        rw [hworker]
        exact Option.filter_some_neg (by simp [hover])
      · refine dealing_of_same rfl ?_ ?_
        · refine hlive.trans ?_
          rw [hworker]
          exact Option.filter_some_pos (by simp [hover])
        · have hnone : [worker.check].filter (fun c => c.2.isOver) = [] := by simp [hover]
          rw [hnew, hworker, Option.map_some, Option.toList_some, hnone]
          rfl
  | requested event hevent => exact dealing_of_same rfl rfl rfl
  | finished position result ticket hticket => exact dealing_of_same rfl rfl rfl
  | abandoned position ticket hticket => exact dealing_of_same rfl rfl rfl
  | notified position ticket hticket => exact dealing_of_same rfl rfl rfl
  | exited other exit => exact dealing_of_mapProcess other (Process.finish exit) s.queue
  | lost other fault => exact dealing_of_mapProcess other (Process.lose fault) s.queue

/-! ## What has come of a token -/

/-- What a live worker knows to have happened under its token. -/
def dealt (worker : Worker) : Dealings where
  starts := [worker.ticket]
  handedOut := if worker.jobTaken then [worker.job] else []
  takenIn := if worker.slot = .pending then 0 else 1
  harvests := []

theorem dealt_of_alike {worker later : Worker} (h : Worker.Alike worker later) :
    dealt later = dealt worker := by
  have hjob : later.job = worker.job := congrArg Ticket.job h.ticket_eq
  unfold dealt
  rw [h.ticket_eq, hjob, h.jobTaken_eq, h.slot_eq]

theorem dealt_takeJob (worker : Worker) :
    (dealt worker).append ⟨[], worker.takeJob.1.toList, 0, []⟩ = dealt worker.takeJob.2 := by
  unfold dealt Worker.takeJob
  by_cases htaken : worker.jobTaken = true
  · simp [htaken, Dealings.append]
  · simp [htaken, Dealings.append, Worker.ticket]

theorem dealt_record {worker recorded : Worker} {result : TestResult}
    (h : worker.record result = .ok recorded) :
    (dealt worker).append ⟨[], [], 1, []⟩ = dealt recorded := by
  obtain ⟨hpending, rfl⟩ := Worker.record_eq_ok h
  simp [dealt, Dealings.append, Worker.ticket, hpending]

theorem dealt_fresh {worker : Worker} (htaken : worker.jobTaken = false)
    (hslot : worker.slot = .pending) : dealt worker = ⟨[worker.ticket], [], 0, []⟩ := by
  unfold dealt
  rw [htaken, hslot]
  rfl

theorem handedOut_dealt (worker : Worker) :
    (dealt worker).handedOut.Sublist [worker.ticket.job] := by
  by_cases htaken : worker.jobTaken = true
  · simp [dealt, htaken, Worker.ticket]
  · simp [dealt, htaken]

theorem takenIn_dealt (worker : Worker) : (dealt worker).takenIn ≤ 1 := by
  by_cases hslot : worker.slot = .pending
  · simp [dealt, hslot]
  · simp [dealt, hslot]

/-- What has come of a token, given what has happened under it. -/
inductive Usage (token : Token) (s : State) : Dealings → Prop where
  /-- It has not been issued. -/
  | unissued (hissued : ¬ Issued token s) (hworker : s.worker? token = none) :
    Usage token s .none
  /-- Its worker is live, and knows what has happened. -/
  | live (worker : Worker) (hissued : Issued token s) (hworker : s.worker? token = some worker) :
    Usage token s (dealt worker)
  /-- It names nobody any more. -/
  | retired (ticket : Ticket) (jobs : List Job) (results : Nat)
      (harvests : List (Worker × Checked)) (hissued : Issued token s)
      (hworker : s.worker? token = none) (hjobs : jobs.Sublist [ticket.job])
      (hresults : results ≤ 1)
      (hharvests : (harvests.map fun c => c.1.ticket).Sublist [ticket]) :
    Usage token s ⟨[ticket], jobs, results, harvests⟩

variable {before step : Dealings}

/-- What has happened under the token of a live worker is what the worker knows. -/
theorem Usage.exists_live {worker : Worker} (hu : Usage token s before)
    (hworker : s.worker? token = some worker) : Issued token s ∧ before = dealt worker := by
  cases hu with
  | unissued hnot hnone => exact absurd (hnone.symm.trans hworker) nofun
  | live found hissued hlive =>
    obtain rfl := Option.some.inj (hlive.symm.trans hworker)
    exact ⟨hissued, rfl⟩
  | retired ticket jobs results harvests hissued hnone hjobs hresults hharvests =>
    exact absurd (hnone.symm.trans hworker) nofun

theorem Usage.apart (hu : Usage token s before) (hissued : Issued token after ↔ Issued token s)
    (hworker : Option.Rel Worker.Alike (s.worker? token) (after.worker? token)) :
    Usage token after before := by
  generalize hlater : after.worker? token = later at hworker
  generalize hnow : s.worker? token = now at hworker
  cases hworker with
  | @some worker found halike =>
    obtain ⟨hold, rfl⟩ := hu.exists_live hnow
    rw [← dealt_of_alike halike]
    exact .live found (hissued.mpr hold) hlater
  | none =>
    cases hu with
    | unissued hnot hnone => exact .unissued (mt hissued.mp hnot) hlater
    | live worker hold hlive => exact absurd (hlive.symm.trans hnow) nofun
    | retired ticket jobs results harvests hold hnone hjobs hresults hharvests =>
      exact .retired ticket jobs results harvests (hissued.mpr hold) hlater hjobs hresults
        hharvests

theorem Usage.started (hu : Usage token s before) {ticket : Ticket} (hnew : ¬ Issued token s)
    (hissued : Issued token after)
    (hworker : ∀ worker, after.worker? token = some worker →
      worker.ticket = ticket ∧ worker.jobTaken = false ∧ worker.slot = .pending) :
    Usage token after (before.append ⟨[ticket], [], 0, []⟩) := by
  cases hu with
  | live worker hold hlive => contradiction
  | retired earlier jobs results harvests hold hnone hjobs hresults hharvests => contradiction
  | unissued hnot hnone =>
    have happend : Dealings.none.append ⟨[ticket], [], 0, []⟩ = ⟨[ticket], [], 0, []⟩ := rfl
    rw [happend]
    cases hafter : after.worker? token with
    | none =>
      exact .retired ticket [] 0 [] hissued hafter (List.nil_sublist _) (Nat.zero_le 1)
        (List.nil_sublist _)
    | some worker =>
      obtain ⟨rfl, htaken, hslot⟩ := hworker worker hafter
      rw [← dealt_fresh htaken hslot]
      exact .live worker hissued hafter

theorem Usage.harvested (hu : Usage token s before) {worker : Worker}
    (hissued : Issued token after ↔ Issued token s) (hworker : s.worker? token = some worker)
    (hafter : after.worker? token = none) :
    Usage token after (before.append ⟨[], [], 0, [worker.check]⟩) := by
  obtain ⟨hold, rfl⟩ := hu.exists_live hworker
  have happend : (dealt worker).append ⟨[], [], 0, [worker.check]⟩ =
      ⟨[worker.ticket], (dealt worker).handedOut, (dealt worker).takenIn, [worker.check]⟩ := by
    simp [dealt, Dealings.append]
  rw [happend]
  refine .retired worker.ticket _ _ _ (hissued.mpr hold) hafter (handedOut_dealt worker)
    (takenIn_dealt worker) ?_
  rw [List.map_singleton, Worker.check_ticket]

/-- Whatever a step does, what has come of a token agrees with what has happened under it. -/
theorem Usage.next (hu : Usage token s before) (hd : Dealing token s after step) :
    Usage token after (before.append step) := by
  cases hd with
  | apart hissued hworker =>
    rw [Dealings.append_none]
    exact hu.apart hissued hworker
  | started ticket hnew hissued hworker => exact hu.started hnew hissued hworker
  | pulled worker hissued hworker hafter =>
    obtain ⟨hold, rfl⟩ := hu.exists_live hworker
    rw [dealt_takeJob]
    exact .live worker.takeJob.2 (hissued.mpr hold) hafter
  | pushed worker recorded result hissued hworker hrecord hafter =>
    obtain ⟨hold, rfl⟩ := hu.exists_live hworker
    rw [dealt_record hrecord]
    exact .live recorded (hissued.mpr hold) hafter
  | harvested worker hissued hworker hafter => exact hu.harvested hissued hworker hafter

/-- Nothing happens twice under a token. -/
theorem Usage.bounds (hu : Usage token s before) :
    before.starts.length ≤ 1 ∧ before.handedOut.Sublist (before.starts.map Ticket.job) ∧
      before.takenIn ≤ 1 ∧
      (before.harvests.map fun c => c.1.ticket).Sublist before.starts := by
  cases hu with
  | unissued hnot hnone =>
    exact ⟨Nat.zero_le 1, List.nil_sublist _, Nat.zero_le 1, List.nil_sublist _⟩
  | live worker hissued hworker =>
    exact ⟨Nat.le_refl 1, handedOut_dealt worker, takenIn_dealt worker, List.nil_sublist _⟩
  | retired ticket jobs results harvests hissued hworker hjobs hresults hharvests =>
    exact ⟨Nat.le_refl 1, hjobs, hresults, hharvests⟩

theorem Usage.gone_of_harvests (hu : Usage token s before) (h : before.harvests ≠ []) :
    Issued token s ∧ s.worker? token = none := by
  cases hu with
  | unissued hnot hnone => contradiction
  | live worker hissued hworker => contradiction
  | retired ticket jobs results harvests hissued hworker hjobs hresults hharvests =>
    exact ⟨hissued, hworker⟩

/-- A token whose worker is gone names nobody again. -/
theorem Dealing.worker?_eq_none (hd : Dealing token s after step) (hissued : Issued token s)
    (hnone : s.worker? token = none) : after.worker? token = none := by
  cases hd with
  | apart hsame hworker =>
    rw [hnone] at hworker
    generalize after.worker? token = found at hworker
    cases hworker
    rfl
  | started ticket hnew hafter hworker => contradiction
  | pulled worker hsame hworker hafter => exact absurd (hnone.symm.trans hworker) nofun
  | pushed worker recorded result hsame hworker hrecord hafter =>
    exact absurd (hnone.symm.trans hworker) nofun
  | harvested worker hsame hworker hafter => exact hafter

end Steps

/-! ## Runs -/

section Runs

variable (capacity : Nat) (token : Token)

theorem usage_runOn (acts : List Act) :
    Usage token (runOn capacity acts).1 (dealings token (runOn capacity acts).2) := by
  have hstart : Usage token (State.ofCapacity capacity) .none := by
    refine .unissued ?_ rfl
    rintro ⟨n, hn, -⟩
    exact absurd hn (Nat.not_lt_zero n)
  refine (consistent_ofCapacity capacity).trace_induction
    (P := fun t shown => Usage token t (dealings token shown)) hstart ?_
  intro act before after active shown new _ hc h hbefore
  rw [dealings_append]
  exact hbefore.next (hc.dealing h)

/-- The tokens of a run are those of the first numbers, each issued once. -/
theorem issuedTokens_runOn (acts : List Act) :
    issuedTokens (runOn capacity acts).2 =
      (List.range (runOn capacity acts).1.issued).map fun n => State.tokenOf (n + 1) := by
  refine (consistent_ofCapacity capacity).trace_induction
    (P := fun t shown => issuedTokens shown =
      (List.range t.issued).map fun n => State.tokenOf (n + 1)) rfl ?_
  intro act before after active shown new _ hc h hbefore
  have hnew := issuedTokens_of_transition h
  unfold issuedTokens at hbefore hnew ⊢
  rw [List.filterMap_append, hbefore]
  rcases hnew with ⟨hsame, hnone⟩ | ⟨hnext, hone⟩
  · rw [hnone, hsame, List.append_nil]
  · rw [hone, hnext, List.range_succ, List.map_append]
    rfl

end Runs

end StressBatch.Scheduler
