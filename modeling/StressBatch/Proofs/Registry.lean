import Mathlib.Data.Finset.Card
import StressBatch.Proofs.TestResult
import StressBatch.RacyCounter

/-!
# Laws of the workload registry

Only registrations change a registry, and one that is refused changes nothing. What a registry holds
is therefore settled by the workloads that it has been offered so far: of those that answer to one
harness, the first.

Workloads act on the world around them, and what they make of a job may depend on it. `executeIn` is
the execution of a job together with what it does to such a world. It says how often a workload was
run: a job that is not sound leaves the world alone, and for any other the world is afterwards what
the look-up and at most one run have made of it.
-/

namespace StressBatch

/-- No failure has a blank text, so none is dropped from a result. -/
theorem Failure.isBlank_message (failure : Failure) : Text.isBlank failure.message = false := by
  have hio : Text.isBlank "IO error: " = false := by decide +kernel
  have hsyntax : Text.isBlank "Config parse error: " = false := by decide +kernel
  have hconfig : Text.isBlank "Config error: " = false := by decide +kernel
  have hinvalid : Text.isBlank "Invalid job '" = false := by decide +kernel
  have hduplicate : Text.isBlank "Workload for harness '" = false := by decide +kernel
  have hunknown : Text.isBlank "No workload registered for harness: " = false := by decide +kernel
  have hworkload : Text.isBlank "Workload failed: " = false := by decide +kernel
  unfold message
  cases failure with
  | @configSyntax account =>
    cases account with
    | none => decide +kernel
    | some account => rw [Text.isBlank_append, hsyntax, Bool.false_and]
  | _ => simp only [Text.isBlank_append, Bool.false_and, hio, hconfig, hinvalid, hduplicate,
      hunknown, hworkload]

/-- The answer to a job that an attempt leads to. -/
def Attempt.answer (job : Job) : Attempt → Except Panic TestResult
  | .returned result => .ok result
  | .failed failure => .ok (.failure job .testError [failure.message])
  | .panicked panic => .error panic

theorem Registry.execute_eq_answer (registry : Registry) (job : Job) :
    registry.execute job = (registry.attempt job).answer job := rfl

theorem Attempt.answer_failed (job : Job) (failure : Failure) :
    (Attempt.failed failure).answer job =
      .ok { job := job, status := .testError, messages := [failure.message] } := by
  rw [answer, TestResult.failure_singleton _ _ failure.isBlank_message]

namespace Registry

variable {registry : Registry} {offered : List Workload} {workload : Workload}

/-! ## Registrations -/

/-- One call of `register` on a registry that is there to stay: the answer, and the registry that
the call leaves behind. -/
def offer (registry : Registry) (workload : Workload) : Except Failure Unit × Registry :=
  match registry.register workload with
  | .ok grown => (.ok (), grown)
  | .error failure => (.error failure, registry)

/-- The registry after a sequence of calls. -/
def offerAll (registry : Registry) (calls : List Workload) : Registry :=
  calls.foldl (fun current workload => (current.offer workload).2) registry

/-- A registry holds the first of the offered workloads for each harness, and nothing else. -/
structure Holds (registry : Registry) (offered : List Workload) : Prop where
  /-- There is one workload for every harness that has been offered. -/
  size_eq : registry.size = (offered.map (·.harness)).toFinset.card
  /-- The first offer for a harness stands. -/
  get?_eq (harness : String) :
    registry.get? harness = offered.find? fun workload => workload.harness == harness

/-- How a registry that has been offered some workloads answers to one more. -/
structure Answers (registry : Registry) (offered : List Workload) (workload : Workload) :
    Prop where
  /-- A harness that is taken is refused, and no other is. -/
  refused_iff : (registry.offer workload).1 = .error (.duplicateHarness workload.harness) ↔
    workload.harness ∈ offered.map (·.harness)
  /-- There is no other failure. -/
  accepted_iff : (registry.offer workload).1 = .ok () ↔
    workload.harness ∉ offered.map (·.harness)
  /-- A refused call changes nothing. -/
  unchanged (hmem : workload.harness ∈ offered.map (·.harness)) :
    (registry.offer workload).2 = registry

theorem holds_empty : empty.Holds [] := ⟨rfl, fun _ => rfl⟩

theorem Holds.isSome_get?_iff (h : registry.Holds offered) {harness : String} :
    (registry.get? harness).isSome = true ↔ harness ∈ offered.map (·.harness) := by
  rw [h.get?_eq, List.find?_isSome, List.mem_map]
  simp only [beq_iff_eq]

theorem Holds.offer_of_mem (h : registry.Holds offered)
    (hmem : workload.harness ∈ offered.map (·.harness)) :
    registry.offer workload = (.error (.duplicateHarness workload.harness), registry) := by
  simp only [offer, register, if_pos (h.isSome_get?_iff.mpr hmem)]

theorem Holds.offer_of_not_mem (h : registry.Holds offered)
    (hmem : workload.harness ∉ offered.map (·.harness)) :
    registry.offer workload = (.ok (), ⟨registry.workloads ++ [workload]⟩) := by
  simp only [offer, register, if_neg (mt h.isSome_get?_iff.mp hmem)]

theorem Holds.answers (h : registry.Holds offered) (workload : Workload) :
    registry.Answers offered workload := by
  by_cases hmem : workload.harness ∈ offered.map (·.harness)
  · have hoffer := h.offer_of_mem hmem
    exact ⟨by simp [hoffer, hmem], by simp [hoffer, hmem], fun _ => by rw [hoffer]⟩
  · have hoffer := h.offer_of_not_mem hmem
    exact ⟨by simp [hoffer, hmem], by simp [hoffer, hmem], fun hmem' => absurd hmem' hmem⟩

theorem toFinset_concat (offered : List Workload) (workload : Workload) :
    ((offered ++ [workload]).map (·.harness)).toFinset =
      insert workload.harness (offered.map (·.harness)).toFinset := by
  ext harness
  simp

/-- A refused offer is hidden behind the one that stands. -/
theorem Holds.refused (h : registry.Holds offered)
    (hmem : workload.harness ∈ offered.map (·.harness)) :
    registry.Holds (offered ++ [workload]) where
  size_eq := by
    rw [toFinset_concat, Finset.insert_eq_of_mem (List.mem_toFinset.mpr hmem), h.size_eq]
  get?_eq harness := by
    rw [h.get?_eq, List.find?_append]
    cases hfind : offered.find? (fun workload => workload.harness == harness) with
    | some found => rfl
    | none =>
      have hother : workload.harness ≠ harness := by
        rintro rfl
        have hsome := h.isSome_get?_iff.mpr hmem
        rw [h.get?_eq, hfind] at hsome
        contradiction
      simp [hother]

/-- An accepted offer is the first for its harness. -/
theorem Holds.accepted (h : registry.Holds offered)
    (hmem : workload.harness ∉ offered.map (·.harness)) :
    Holds ⟨registry.workloads ++ [workload]⟩ (offered ++ [workload]) where
  size_eq := by
    have hsize := h.size_eq
    rw [size] at hsize ⊢
    rw [toFinset_concat, Finset.card_insert_of_notMem (mt List.mem_toFinset.mp hmem), ← hsize,
      List.length_append, List.length_singleton]
  get?_eq harness := by
    have hget := h.get?_eq harness
    rw [get?] at hget ⊢
    rw [List.find?_append, List.find?_append, hget]

theorem Holds.step (h : registry.Holds offered) (workload : Workload) :
    (registry.offer workload).2.Holds (offered ++ [workload]) := by
  by_cases hmem : workload.harness ∈ offered.map (·.harness)
  · rw [h.offer_of_mem hmem]
    exact h.refused hmem
  · rw [h.offer_of_not_mem hmem]
    exact h.accepted hmem

theorem Holds.offerAll (h : registry.Holds offered) (calls : List Workload) :
    (registry.offerAll calls).Holds (offered ++ calls) := by
  induction calls generalizing registry offered with
  | nil => rwa [List.append_nil]
  | cons workload calls ih =>
    rw [List.append_cons]
    exact ih (h.step workload)

/-- The built-in workloads are registered like any other. -/
theorem withBuiltins_eq_offerAll :
    withBuiltins = empty.offerAll [RacyCounter.workload RacyCounter.defaultRounds] := rfl

/-- The registries that a program starts from. -/
def IsFresh (registry : Registry) : Prop := registry = empty ∨ registry = withBuiltins

theorem IsFresh.holds (h : registry.IsFresh) : registry.Holds registry.workloads := by
  obtain rfl | rfl := h
  · exact holds_empty
  · rw [withBuiltins_eq_offerAll]
    exact holds_empty.offerAll _

/-! ## Executions -/

section Executions

variable {World : Type} {job : Job} {world : World}

/-- What is done to a world by looking a harness up and by running a workload. -/
structure Effects (World : Type) where
  /-- The world after a harness has been looked up. -/
  lookUp : String → World → World
  /-- What a run of a workload on a job comes to, and the world after it. -/
  run : Workload → Job → World → Attempt × World

variable {effects : Effects World}

/-- `Registry.attempt` in a world. -/
def attemptIn (registry : Registry) (effects : Effects World) (job : Job) (world : World) :
    Attempt × World :=
  match job.validate with
  | .error failure => (.failed failure, world)
  | .ok () =>
    match registry.get? job.harness with
    | none => (.failed (.unknownHarness job.harness), effects.lookUp job.harness world)
    | some workload => effects.run workload job (effects.lookUp job.harness world)

/-- `Registry.execute` in a world. -/
def executeIn (registry : Registry) (effects : Effects World) (job : Job) (world : World) :
    Except Panic TestResult × World :=
  let (attempt, after) := registry.attemptIn effects job world
  (attempt.answer job, after)

/-- What executing a job in a world comes to. -/
structure Executes (registry : Registry) (effects : Effects World) (job : Job) (world : World) :
    Prop where
  /-- There is one result. -/
  returns : ∃ result, (registry.executeIn effects job world).1 = .ok result
  /-- A job that is not sound is refused, and nothing is looked up or run. -/
  invalid {failure : Failure} (hjob : job.validate = .error failure) :
    registry.executeIn effects job world =
      (.ok { job := job, status := .testError, messages := [failure.message] }, world)
  /-- A harness without a workload is named, and nothing is run. -/
  unknown (hjob : job.validate = .ok ()) (hget : registry.get? job.harness = none) :
    registry.executeIn effects job world =
      (.ok { job := job, status := .testError,
             messages := ["No workload registered for harness: " ++ job.harness] },
        effects.lookUp job.harness world)
  /-- The workload is run once on the job, and its result is the answer; in place of a failure there
  is a result that carries its text. -/
  known {workload : Workload} (hjob : job.validate = .ok ())
    (hget : registry.get? job.harness = some workload) :
    ∃ result after, registry.executeIn effects job world = (.ok result, after) ∧
      (effects.run workload job (effects.lookUp job.harness world) = (.returned result, after) ∨
        ∃ failure, effects.run workload job (effects.lookUp job.harness world) =
            (.failed failure, after) ∧
          result = { job := job, status := .testError, messages := [failure.message] })
  /-- Where the world has no say in what workloads come to, the answer is that of `execute`. -/
  answer (hrun : ∀ workload world, (effects.run workload job world).1 = workload.run job) :
    (registry.executeIn effects job world).1 = registry.execute job

theorem executeIn_of_attemptIn {attempt : Attempt} {after : World}
    (h : registry.attemptIn effects job world = (attempt, after)) :
    registry.executeIn effects job world = (attempt.answer job, after) := by
  rw [executeIn, h]

theorem attemptIn_known {workload : Workload} (hjob : job.validate = .ok ())
    (hget : registry.get? job.harness = some workload) (effects : Effects World) (world : World) :
    registry.attemptIn effects job world =
      effects.run workload job (effects.lookUp job.harness world) := by
  simp only [attemptIn, hjob, hget]

theorem attemptIn_fst
    (hrun : ∀ workload world, (effects.run workload job world).1 = workload.run job) :
    (registry.attemptIn effects job world).1 = registry.attempt job := by
  unfold attemptIn attempt
  cases job.validate with
  | error failure => rfl
  | ok _ =>
    cases registry.get? job.harness with
    | none => rfl
    | some workload => exact hrun workload _

theorem executeIn_invalid {failure : Failure} (hjob : job.validate = .error failure) :
    registry.executeIn effects job world =
      (.ok { job := job, status := .testError, messages := [failure.message] }, world) := by
  have hattempt : registry.attemptIn effects job world = (.failed failure, world) := by
    simp only [attemptIn, hjob]
  rw [executeIn_of_attemptIn hattempt, Attempt.answer_failed]

theorem executeIn_unknown (hjob : job.validate = .ok ())
    (hget : registry.get? job.harness = none) :
    registry.executeIn effects job world =
      (.ok { job := job, status := .testError,
             messages := ["No workload registered for harness: " ++ job.harness] },
        effects.lookUp job.harness world) := by
  have hattempt : registry.attemptIn effects job world =
      (.failed (.unknownHarness job.harness), effects.lookUp job.harness world) := by
    simp only [attemptIn, hjob, hget]
  exact (executeIn_of_attemptIn hattempt).trans (congrArg (·, _) (Attempt.answer_failed job _))

theorem executeIn_known {workload : Workload} (hjob : job.validate = .ok ())
    (hget : registry.get? job.harness = some workload)
    (hreturns : ∀ world panic, (effects.run workload job world).1 ≠ .panicked panic) :
    ∃ result after, registry.executeIn effects job world = (.ok result, after) ∧
      (effects.run workload job (effects.lookUp job.harness world) = (.returned result, after) ∨
        ∃ failure, effects.run workload job (effects.lookUp job.harness world) =
            (.failed failure, after) ∧
          result = { job := job, status := .testError, messages := [failure.message] }) := by
  have hattempt := attemptIn_known hjob hget effects world
  generalize hran : effects.run workload job (effects.lookUp job.harness world) = ran at hattempt
  obtain ⟨attempt, after⟩ := ran
  rw [executeIn_of_attemptIn hattempt]
  cases attempt with
  | returned result => exact ⟨result, after, rfl, .inl rfl⟩
  | failed failure =>
    rw [Attempt.answer_failed]
    exact ⟨_, after, rfl, .inr ⟨failure, rfl, rfl⟩⟩
  | panicked panic => exact absurd (congrArg Prod.fst hran) (hreturns _ panic)

theorem executes (hreturns : ∀ workload, registry.get? job.harness = some workload →
      ∀ world panic, (effects.run workload job world).1 ≠ .panicked panic) (world : World) :
    registry.Executes effects job world where
  returns := by
    cases hjob : job.validate with
    | error failure =>
      rw [executeIn_invalid hjob]
      exact ⟨_, rfl⟩
    | ok _ =>
      cases hget : registry.get? job.harness with
      | none =>
        rw [executeIn_unknown hjob hget]
        exact ⟨_, rfl⟩
      | some workload =>
        obtain ⟨result, after, hexecuted, -⟩ := executeIn_known hjob hget (hreturns workload hget)
        rw [hexecuted]
        exact ⟨result, rfl⟩
  invalid := executeIn_invalid
  unknown := executeIn_unknown
  known hjob hget := executeIn_known hjob hget (hreturns _ hget)
  answer hrun := by
    rw [execute_eq_answer, ← attemptIn_fst hrun]
    rfl

end Executions

/-- A registry answers to one more call by what it has been offered before, whatever that is, and so
to every call of a sequence. It serves every sound job with the first workload that has been
registered for its harness, runs it once, and turns whatever stands in the way of a result into a
result. -/
theorem serves_first_registered {start : Registry} (hstart : start.IsFresh)
    (calls : List Workload) (workload : Workload) {World : Type} (effects : Effects World)
    (job : Job)
    (hreturns : ∀ workload, (start.offerAll calls).get? job.harness = some workload →
      ∀ world panic, (effects.run workload job world).1 ≠ .panicked panic) (world : World) :
    (start.offerAll calls).Holds (start.workloads ++ calls) ∧
      (start.offerAll calls).Answers (start.workloads ++ calls) workload ∧
      (start.offerAll calls).Executes effects job world := by
  have hholds := hstart.holds.offerAll calls
  exact ⟨hholds, hholds.answers workload, executes hreturns world⟩

/-- Of two workloads for one harness the first stands, and it is run once although it fails with
what the reader of a configuration says. -/
theorem serves_first_registered_of_two :
    let flaky : Workload := ⟨"disk", fun _ => .failed (@Failure.configSyntax (some "invalid key"))⟩
    let steady : Workload := ⟨"disk", fun job => .returned { job := job, status := .normal }⟩
    let registry := withBuiltins.offerAll [flaky, steady]
    let logging : Effects (List String) :=
      { lookUp := fun harness log => log ++ ["look up " ++ harness]
        run := fun workload job log => (workload.run job, log ++ ["run " ++ job.name]) }
    let job := Job.uniform "t.Write" "disk" ["writer"] .tier1 .embedded
    withBuiltins.IsFresh ∧
      (∀ workload, registry.get? job.harness = some workload →
        ∀ world panic, (logging.run workload job world).1 ≠ .panicked panic) ∧
      registry.size = 2 ∧ (registry.offer steady).1 = .error (.duplicateHarness "disk") ∧
      registry.executeIn logging job [] =
        (.ok { job := job, status := .testError, messages := ["Config parse error: invalid key"] },
          ["look up disk", "run t.Write"]) := by
  intro flaky steady registry logging job
  have hfresh : withBuiltins.IsFresh := .inr rfl
  have hget : registry.get? job.harness = some flaky := rfl
  have hreturns : ∀ workload, registry.get? job.harness = some workload →
      ∀ world panic, (logging.run workload job world).1 ≠ .panicked panic := by
    intro workload hworkload world panic
    obtain rfl := Option.some.inj (hget.symm.trans hworkload)
    exact Attempt.noConfusion
  obtain ⟨hholds, hanswers, hexecutes⟩ :=
    serves_first_registered hfresh [flaky, steady] steady logging job hreturns []
  refine ⟨hfresh, hreturns, ?_, ?_, ?_⟩
  · rw [hholds.size_eq]
    decide +kernel
  · exact hanswers.refused_iff.mpr (by decide +kernel)
  · obtain ⟨result, after, hexecuted, hran⟩ := hexecutes.known rfl hget
    rw [hexecuted]
    obtain hran | ⟨failure, hran, rfl⟩ := hran
    · cases hran
    · cases hran
      rfl

end Registry

end StressBatch
