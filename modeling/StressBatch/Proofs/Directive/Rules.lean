import Mathlib.Data.List.Basic
import StressBatch.Directive

/-!
# The rules of a job

What the directive file of a sound job says: how its rules line up with the threads of the job and
with their modes.
-/

namespace StressBatch.DirectiveSet

variable {job : Job} {config : DirectivesConfig}

/-! ## What the rules are -/

section Statement

variable (job : Job) (config : DirectivesConfig)

/-- The request for an assembly listing, if the settings want one. -/
def listing : List Directive := if config.printAssembly then [.printAssembly] else []

/-- The rule for the run loop of a role, by the mode of the role. -/
inductive RunRule (role : String) : ExecutionMode → Rule → Prop where
  | interpreted : RunRule role .interpreted
      { pattern := job.harness ++ "::run_" ++ role
        directives :=
          [.inlining true (job.harness ++ "::aux_*"), .inlining false (job.name ++ "::" ++ role),
            .backgroundCompilation false] }
  | tier1 : RunRule role .tier1
      { pattern := job.harness ++ "::run_" ++ role
        directives :=
          [.inlining true (job.harness ++ "::aux_*"), .inlining true (job.name ++ "::" ++ role),
            .exclude .tier2] ++ listing config ++ [.backgroundCompilation false] }
  | tier2 : RunRule role .tier2
      { pattern := job.harness ++ "::run_" ++ role
        directives :=
          [.inlining true (job.harness ++ "::aux_*"), .inlining true (job.name ++ "::" ++ role),
            .exclude .tier1] ++ listing config ++ [.backgroundCompilation false] }

/-- The roles that stay in the interpreter, in the order of their threads. -/
def interpretedRoles : List String :=
  (List.range job.threads).filterMap fun thread =>
    match job.role? thread with
    | some (role, .interpreted) => some role
    | _ => none

/-- Whether the last directive of a rule, and no other, is about background compilation, and forbids
it. -/
def EndsSynchronous (rule : Rule) : Prop :=
  ∃ before, rule.directives = before ++ [.backgroundCompilation false] ∧
    ∀ on, .backgroundCompilation on ∉ before

/-- Whether rules are those of a job, one after the other. -/
structure FollowsModes (rules : List Rule) : Prop where
  task : rules[0]? = some
    { pattern := job.harness ++ "::task_*"
      directives :=
        [.inlining false (job.harness ++ "::run_*"), .inlining true (job.harness ++ "::aux_*"),
          .inlining true (config.syncHelper ++ "::*")] ++
        config.extraInline.map (.inlining true) ++ [.backgroundCompilation false] }
  sync : rules[1]? = some
    { pattern := config.syncHelper ++ "::*"
      directives := [.inlining true "*::*", .backgroundCompilation false] }
  run : ∀ thread < job.threads, ∃ role mode rule, job.role? thread = some (role, mode) ∧
    rules[2 + thread]? = some rule ∧ RunRule job config role mode rule
  interpreted : rules.drop (2 + job.threads) = (interpretedRoles job).map fun role =>
    { pattern := "+" ++ (job.name ++ "::" ++ role)
      directives := [.exclude .tier1, .exclude .tier2] }
  length_eq : rules.length = 2 + job.threads + job.modes.count .interpreted
  synchronous : ∀ rule ∈ rules.take (2 + job.threads), EndsSynchronous rule

end Statement

/-! ## Roles and modes by thread -/

theorem assignments_of_sound (h : job.Sound) :
    assignments job = .ok (job.roles.zip job.modes) := by
  have hroles := h.roles_length
  have hmodes := h.modes_length
  have htake : (job.roles.zip job.modes).take job.threads = job.roles.zip job.modes :=
    List.take_of_length_le (by rw [List.length_zip]; omega)
  unfold assignments
  rw [if_pos (by omega), htake]

theorem ofJob_of_sound (h : job.Sound) :
    ofJob job config = .ok (ofAssignments job config (job.roles.zip job.modes)) := by
  rw [ofJob, assignments_of_sound h]
  rfl

theorem length_assigned (h : job.Sound) : (job.roles.zip job.modes).length = job.threads := by
  rw [List.length_zip, h.roles_length, h.modes_length, Nat.min_self]

theorem getElem?_assigned (job : Job) (thread : Nat) :
    (job.roles.zip job.modes)[thread]? = job.role? thread := by
  unfold Job.role?
  cases hrole : job.roles[thread]? <;> cases hmode : job.modes[thread]? <;>
    simp [List.getElem?_zip_eq_some, Option.eq_none_iff_forall_ne_some, hrole, hmode]

theorem map_role? (h : job.Sound) :
    (List.range job.threads).map job.role? = (job.roles.zip job.modes).map some := by
  have hlength := length_assigned h
  refine List.ext_getElem (by simp [hlength]) fun thread hrange hassigned => ?_
  have hlt : thread < (job.roles.zip job.modes).length := by simpa using hassigned
  rw [List.getElem_map, List.getElem_map, List.getElem_range, ← getElem?_assigned,
    List.getElem?_eq_getElem hlt]

theorem interpretedRoles_eq (h : job.Sound) :
    interpretedRoles job =
      ((job.roles.zip job.modes).filter fun a => a.2.isInterpreted).map Prod.fst := by
  have hpick : ∀ assigned : List (String × ExecutionMode),
      (assigned.map some).filterMap (fun
        | some (role, .interpreted) => some role
        | _ => none) = (assigned.filter fun a => a.2.isInterpreted).map Prod.fst := by
    intro assigned
    induction assigned with
    | nil => rfl
    | cons a assigned ih =>
      obtain ⟨role, mode⟩ := a
      cases mode <;> simpa [ExecutionMode.isInterpreted] using ih
  rw [← hpick, ← map_role? h, List.filterMap_map]
  rfl

theorem length_interpretedRoles (h : job.Sound) :
    (interpretedRoles job).length = job.modes.count .interpreted := by
  have hmodes : (job.roles.zip job.modes).map Prod.snd = job.modes :=
    List.map_snd_zip (Nat.le_of_eq (h.modes_length.trans h.roles_length.symm))
  rw [interpretedRoles_eq h, List.length_map, ← List.countP_eq_length_filter]
  conv_rhs => rw [← hmodes, List.count, List.countP_map]
  refine List.countP_congr fun a _ => ?_
  obtain ⟨role, mode⟩ := a
  cases mode <;> simp [ExecutionMode.isInterpreted]

/-! ## The rules one by one -/

theorem runRule_of_mode (role : String) (mode : ExecutionMode) :
    RunRule job config role mode (runRule job config role mode) := by
  cases mode with
  | interpreted =>
    have hlisting : (config.printAssembly && ExecutionMode.interpreted.isCompiled) = false :=
      Bool.and_false _
    rw [runRule, hlisting]
    exact .interpreted
  | tier1 =>
    have hlisting : (config.printAssembly && ExecutionMode.tier1.isCompiled) =
        config.printAssembly := Bool.and_true _
    rw [runRule, hlisting]
    exact .tier1
  | tier2 =>
    have hlisting : (config.printAssembly && ExecutionMode.tier2.isCompiled) =
        config.printAssembly := Bool.and_true _
    rw [runRule, hlisting]
    exact .tier2

theorem endsSynchronous_taskRule : EndsSynchronous (taskRule job config) :=
  ⟨_, rfl, fun on hmem => by simp at hmem⟩

theorem endsSynchronous_syncRule : EndsSynchronous (syncRule config) :=
  ⟨[.inlining true "*::*"], rfl, fun on hmem => by simp at hmem⟩

theorem RunRule.endsSynchronous {role : String} {mode : ExecutionMode} {rule : Rule}
    (h : RunRule job config role mode rule) : EndsSynchronous rule := by
  have hlisting : ∀ on, .backgroundCompilation on ∉ listing config := by
    intro on
    unfold listing
    split <;> simp
  cases h with
  | interpreted =>
    exact ⟨[.inlining true _, .inlining false _], rfl, fun on hmem => by simp at hmem⟩
  | tier1 => exact ⟨_, rfl, fun on hmem => by simp [hlisting] at hmem⟩
  | tier2 => exact ⟨_, rfl, fun on hmem => by simp [hlisting] at hmem⟩

/-- For a job that is accepted there are directives, and its rules follow its modes: first the rule
for the scheduling loops, then that for the methods that synchronize threads, then a rule for the
run loop of every thread by the mode of its role, and last, for every thread whose role is
interpreted, a rule that keeps both tiers away from the method of the role. Every rule but those of
the last kind makes callers wait for the compiler, and says so once, at its end. -/
theorem rules_follow_modes (hjob : job.validate = .ok ()) (config : DirectivesConfig) :
    ∃ set, ofJob job config = .ok set ∧ FollowsModes job config set.rules := by
  have hsound : job.Sound := Job.validate_eq_ok_iff.mp hjob
  have hlength := length_assigned hsound
  refine ⟨_, ofJob_of_sound hsound, ?_⟩
  set assigned := job.roles.zip job.modes with hassigned
  -- the rules for interpreted roles are all that stands behind the first `2 + threads`
  let front := [taskRule job config, syncRule config] ++
    assigned.map fun a => runRule job config a.1 a.2
  have hrules : (ofAssignments job config assigned).rules = front ++
      (interpretedRoles job).map (interpreterRule job) := by
    rw [interpretedRoles_eq hsound, List.map_map]
    rfl
  have hfront : front.length = 2 + job.threads := by
    simp only [front, List.length_append, List.length_map, hlength, List.length_cons,
      List.length_nil]
  refine ⟨rfl, rfl, ?_, ?_, ?_, ?_⟩
  · intro thread hthread
    have hlt : thread < assigned.length := by omega
    have hget : assigned[thread]? = some assigned[thread] := List.getElem?_eq_getElem hlt
    refine ⟨assigned[thread].1, assigned[thread].2, _, ?_, ?_, runRule_of_mode _ _⟩
    · rw [← getElem?_assigned, ← hassigned, hget]
    · rw [hrules, List.getElem?_append_left (by omega), Nat.add_comm]
      simp [front, hget]
  · rw [hrules, List.drop_left' hfront]
    rfl
  · rw [hrules, List.length_append, hfront, List.length_map, length_interpretedRoles hsound]
  · intro rule hrule
    rw [hrules, List.take_left' hfront] at hrule
    rcases List.mem_append.mp hrule with hfirst | hrun
    · rcases List.mem_pair.mp hfirst with rfl | rfl
      · exact endsSynchronous_taskRule
      · exact endsSynchronous_syncRule
    · obtain ⟨a, -, rfl⟩ := List.mem_map.mp hrun
      exact (runRule_of_mode a.1 a.2).endsSynchronous

/-- Four threads in all modes, one of them of a role that another one has too. -/
def motleyJob : Job where
  name := "t.Motley"
  threads := 4
  roles := ["reader", "writer", "reader", "closer"]
  modes := [.interpreted, .tier1, .interpreted, .tier2]
  dispatch := .forked
  harness := "t.Motley_Harness"

theorem rules_follow_modes_motley :
    motleyJob.validate = .ok () ∧
    ∃ set, ofJob motleyJob { printAssembly := true } = .ok set ∧
      FollowsModes motleyJob { printAssembly := true } set.rules := by
  have hjob : motleyJob.validate = .ok () := by decide
  exact ⟨hjob, rules_follow_modes hjob _⟩

end StressBatch.DirectiveSet
