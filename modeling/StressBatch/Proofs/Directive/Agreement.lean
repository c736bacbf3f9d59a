import Mathlib.Data.List.Infix
import StressBatch.Proofs.Directive.Rules

/-!
# Rules that agree with each other

A directive names the methods it is for by a pattern, so two rules can be for one method though
neither spells it out. The rules of a job agree about the methods of its roles exactly if every role
has one mode and no pattern of an interpreted role reaches a method that is inlined into a run loop
by force, be it a compiled role's or one that passes for a helper of the harness. Nothing of this is
looked at when a job is accepted.
-/

namespace StressBatch.DirectiveSet

/-! ## Patterns -/

/-- Whether a text is an instance of a pattern, in which a star stands for any characters. -/
def covers : (pattern text : List Char) → Bool
  | [], text => text.isEmpty
  | c :: pattern, text =>
    if c = '*' then text.tails.any (covers pattern)
    else text.head? == some c && covers pattern text.tail

section Patterns

variable {c d : Char} {front pattern text : List Char}

theorem covers_star : covers ('*' :: pattern) text = true ↔
    ∃ back, back <:+ text ∧ covers pattern back = true := by
  rw [covers, if_pos rfl, List.any_eq_true]
  simp only [List.mem_tails]

theorem covers_cons (hc : c ≠ '*') : covers (c :: pattern) text = true ↔
    ∃ rest, text = c :: rest ∧ covers pattern rest = true := by
  rw [covers, if_neg hc, Bool.and_eq_true, beq_iff_eq, List.head?_eq_some_iff]
  constructor
  · rintro ⟨⟨rest, rfl⟩, hrest⟩
    exact ⟨rest, rfl, hrest⟩
  · rintro ⟨rest, rfl, hrest⟩
    exact ⟨⟨rest, rfl⟩, hrest⟩

theorem covers_self (text : List Char) : covers text text = true := by
  induction text with
  | nil => rfl
  | cons c text ih =>
    by_cases hc : c = '*'
    · subst hc
      exact covers_star.mpr ⟨text, List.suffix_cons _ text, ih⟩
    · exact (covers_cons hc).mpr ⟨text, rfl, ih⟩

/-- What stands in front of the first star is taken literally. -/
theorem covers_append (hfront : '*' ∉ front) : covers (front ++ pattern) text = true ↔
    ∃ rest, text = front ++ rest ∧ covers pattern rest = true := by
  induction front generalizing text with
  | nil => simp
  | cons c front ih =>
    have hc : c ≠ '*' := fun h => hfront (h ▸ List.mem_cons_self)
    have hrest : '*' ∉ front := fun h => hfront (List.mem_cons_of_mem c h)
    rw [List.cons_append, covers_cons hc]
    constructor
    · rintro ⟨rest, rfl, hcovers⟩
      obtain ⟨back, rfl, hback⟩ := (ih hrest).mp hcovers
      exact ⟨back, rfl, hback⟩
    · rintro ⟨back, rfl, hback⟩
      exact ⟨front ++ back, rfl, (ih hrest).mpr ⟨back, rfl, hback⟩⟩

theorem covers_of_starless (hpattern : '*' ∉ pattern) :
    covers pattern text = true ↔ text = pattern := by
  have hnil : ∀ rest, covers [] rest = true ↔ rest = [] := fun rest => List.isEmpty_iff
  rw [← List.append_nil pattern, covers_append hpattern]
  simp only [hnil, exists_eq_right]

theorem covers_star_end (hfront : '*' ∉ front) :
    covers (front ++ ['*']) text = true ↔ front <+: text := by
  rw [covers_append hfront]
  constructor
  · rintro ⟨rest, rfl, -⟩
    exact List.prefix_append front rest
  · rintro ⟨rest, rfl⟩
    exact ⟨rest, rfl, covers_star.mpr ⟨[], List.nil_suffix, rfl⟩⟩

end Patterns

/-! ## One mode for every method -/

/-- Whether a method is one of those that a pattern is for. -/
def Matches (pattern method : String) : Prop := covers pattern.toList method.toList = true

instance (pattern method : String) : Decidable (Matches pattern method) :=
  inferInstanceAs (Decidable (_ = true))

/-- Whether a rule has a method inlined by force. -/
def Forces (rule : Rule) (method : String) : Prop :=
  ∃ pattern, .inlining true pattern ∈ rule.directives ∧ Matches pattern method

/-- Whether a rule keeps a method away from both tiers. -/
def Bars (rule : Rule) (method : String) : Prop :=
  (∃ pattern, rule.pattern = "+" ++ pattern ∧ Matches pattern method) ∧
    .exclude .tier1 ∈ rule.directives ∧ .exclude .tier2 ∈ rule.directives

/-- The rules for the run loops of a job, among all its rules. -/
def runRules (job : Job) (rules : List Rule) : List Rule := (rules.drop 2).take job.threads

/-- Whether the rules of a job agree with each other: no method of a role is inlined by force into a
run loop and kept away from both tiers, and rules for the same run loop say the same. -/
structure Agrees (job : Job) (rules : List Rule) : Prop where
  inlined_or_excluded : ∀ role ∈ job.roles, ∀ run ∈ runRules job rules, ∀ rule ∈ rules,
    Forces run (workloadMethod job role) → ¬Bars rule (workloadMethod job role)
  directives_eq : ∀ run ∈ runRules job rules, ∀ other ∈ runRules job rules,
    run.pattern = other.pattern → run.directives = other.directives

/-- Whether a job gives each of its roles one mode, and the methods that the patterns of its
interpreted roles are for are neither helpers of the harness nor meant by a compiled role. -/
structure OneModeEach (job : Job) : Prop where
  mode_eq : ∀ a ∈ job.roles.zip job.modes, ∀ b ∈ job.roles.zip job.modes, a.1 = b.1 → a.2 = b.2
  apart : ∀ a ∈ job.roles.zip job.modes, a.2 = .interpreted → ∀ role ∈ job.roles,
    Matches (workloadMethod job a.1) (workloadMethod job role) →
      ¬Matches (helpers job.harness) (workloadMethod job role) ∧
      ∀ b ∈ job.roles.zip job.modes,
        Matches (workloadMethod job b.1) (workloadMethod job role) → b.2 = .interpreted

/-- Whether a job gives each of its roles one mode, and no interpreted role has a method whose name
starts like those of the helpers of the harness. -/
structure OneModeByName (job : Job) : Prop where
  mode_eq : ∀ a ∈ job.roles.zip job.modes, ∀ b ∈ job.roles.zip job.modes, a.1 = b.1 → a.2 = b.2
  no_helper : ∀ a ∈ job.roles.zip job.modes, a.2 = .interpreted →
    ¬(job.harness ++ "::aux_").toList <+: (workloadMethod job a.1).toList

/-- Whether there is no star in the names of a job. -/
structure Starless (job : Job) : Prop where
  name : '*' ∉ job.name.toList
  harness : '*' ∉ job.harness.toList
  roles : ∀ role ∈ job.roles, '*' ∉ role.toList

instance (job : Job) : Decidable (OneModeEach job) :=
  decidable_of_iff
    ((∀ a ∈ job.roles.zip job.modes, ∀ b ∈ job.roles.zip job.modes, a.1 = b.1 → a.2 = b.2) ∧
      ∀ a ∈ job.roles.zip job.modes, a.2 = .interpreted → ∀ role ∈ job.roles,
        Matches (workloadMethod job a.1) (workloadMethod job role) →
          ¬Matches (helpers job.harness) (workloadMethod job role) ∧
          ∀ b ∈ job.roles.zip job.modes,
            Matches (workloadMethod job b.1) (workloadMethod job role) → b.2 = .interpreted)
    ⟨fun h => ⟨h.1, h.2⟩, fun h => ⟨h.mode_eq, h.apart⟩⟩

instance (job : Job) : Decidable (OneModeByName job) :=
  decidable_of_iff
    ((∀ a ∈ job.roles.zip job.modes, ∀ b ∈ job.roles.zip job.modes, a.1 = b.1 → a.2 = b.2) ∧
      ∀ a ∈ job.roles.zip job.modes, a.2 = .interpreted →
        ¬(job.harness ++ "::aux_").toList <+: (workloadMethod job a.1).toList)
    ⟨fun h => ⟨h.1, h.2⟩, fun h => ⟨h.mode_eq, h.no_helper⟩⟩

instance (job : Job) : Decidable (Starless job) :=
  decidable_of_iff
    ('*' ∉ job.name.toList ∧ '*' ∉ job.harness.toList ∧ ∀ role ∈ job.roles, '*' ∉ role.toList)
    ⟨fun h => ⟨h.1, h.2.1, h.2.2⟩, fun h => ⟨h.name, h.harness, h.roles⟩⟩

section Agreement

variable {job : Job} {config : DirectivesConfig} {role other method : String}
  {mode : ExecutionMode}

theorem matches_self (method : String) : Matches method method := covers_self method.toList

theorem matches_helpers_iff (h : '*' ∉ job.harness.toList) : Matches (helpers job.harness) method ↔
    (job.harness ++ "::aux_").toList <+: method.toList := by
  have hfront : '*' ∉ (job.harness ++ "::aux_").toList := by
    rw [String.toList_append, List.mem_append]
    exact fun hmem => hmem.elim h (by decide)
  have hhelpers : (helpers job.harness).toList = (job.harness ++ "::aux_").toList ++ ['*'] := by
    simp [helpers]
  rw [Matches, hhelpers, covers_star_end hfront]

theorem workloadMethod_inj :
    workloadMethod job role = workloadMethod job other ↔ role = other := by
  simp [workloadMethod]

theorem Starless.matches_iff (h : Starless job) (hrole : role ∈ job.roles) :
    Matches (workloadMethod job role) (workloadMethod job other) ↔ other = role := by
  have hmethod : '*' ∉ (workloadMethod job role).toList := by
    simp [workloadMethod, h.name, h.roles role hrole]
  rw [Matches, covers_of_starless hmethod, String.toList_inj, workloadMethod_inj]

theorem OneModeEach.byName (h : OneModeEach job) (hstarless : Starless job) :
    OneModeByName job where
  mode_eq := h.mode_eq
  no_helper := by
    intro a ha hinterpreted hhelper
    have hrole : a.1 ∈ job.roles := (List.of_mem_zip ha).1
    obtain ⟨hapart, -⟩ := h.apart a ha hinterpreted a.1 hrole (matches_self _)
    exact hapart ((matches_helpers_iff hstarless.harness).mpr hhelper)

/-- Without stars in the names it is enough to look at the names. -/
theorem OneModeByName.oneModeEach (h : OneModeByName job) (hstarless : Starless job) :
    OneModeEach job where
  mode_eq := h.mode_eq
  apart := by
    intro a ha hinterpreted role _ hmatches
    have hroles : ∀ b ∈ job.roles.zip job.modes, b.1 ∈ job.roles := by
      intro b hb
      exact (List.of_mem_zip hb).1
    obtain rfl : role = a.1 := (hstarless.matches_iff (hroles a ha)).mp hmatches
    constructor
    · intro hhelper
      exact h.no_helper a ha hinterpreted ((matches_helpers_iff hstarless.harness).mp hhelper)
    · intro b hb hsame
      have hrole : a.1 = b.1 := (hstarless.matches_iff (hroles b hb)).mp hsame
      exact (h.mode_eq a ha b hb hrole).symm.trans hinterpreted

theorem runLoop_inj {harness : String} :
    runLoop harness role = runLoop harness other ↔ role = other := by
  simp [runLoop]

/-- The rule for a run loop inlines the helpers by force, and the method of its role if the role is
compiled. -/
theorem forces_runRule_iff : Forces (runRule job config role mode) method ↔
    Matches (helpers job.harness) method ∨
      mode ≠ .interpreted ∧ Matches (workloadMethod job role) method := by
  have hinlining : ∀ pattern, .inlining true pattern ∈ (runRule job config role mode).directives ↔
      pattern = helpers job.harness ∨
        mode ≠ .interpreted ∧ pattern = workloadMethod job role := by
    intro pattern
    cases mode <;> simp [runRule, modeDirectives]
  unfold Forces
  simp only [hinlining, or_and_right, exists_or, exists_eq_left, and_assoc, exists_and_left]

theorem bars_interpreterRule_iff :
    Bars (interpreterRule job role) method ↔ Matches (workloadMethod job role) method := by
  simp [Bars, interpreterRule, eq_comm]

theorem mode_eq_of_runRule {other : ExecutionMode}
    (h : (runRule job config role mode).directives = (runRule job config role other).directives) :
    mode = other := by
  cases mode <;> cases other <;> simp_all [runRule, modeDirectives]

theorem not_excluded_by_runRule : ¬(.exclude .tier1 ∈ (runRule job config role mode).directives ∧
    .exclude .tier2 ∈ (runRule job config role mode).directives) := by
  cases mode <;> simp [runRule, modeDirectives]

variable {assigned : List (String × ExecutionMode)}

theorem mem_runRules (hlength : assigned.length = job.threads) {run : Rule} :
    run ∈ runRules job (ofAssignments job config assigned).rules ↔
      ∃ a ∈ assigned, run = runRule job config a.1 a.2 := by
  have hruns : runRules job (ofAssignments job config assigned).rules =
      assigned.map fun a => runRule job config a.1 a.2 := by
    have hlength : (assigned.map fun a => runRule job config a.1 a.2).length = job.threads := by
      rw [List.length_map, hlength]
    exact List.take_left' hlength
  rw [hruns, List.mem_map]
  simp only [eq_comm]

/-- Only the rules for interpreted roles keep both tiers away from a method. -/
theorem exists_of_excluded {rule : Rule} (h : rule ∈ (ofAssignments job config assigned).rules)
    (hexcluded : .exclude .tier1 ∈ rule.directives ∧ .exclude .tier2 ∈ rule.directives) :
    ∃ a ∈ assigned, a.2 = .interpreted ∧ rule = interpreterRule job a.1 := by
  rcases List.mem_append.mp h with hfront | hlast
  · exfalso
    rcases List.mem_append.mp hfront with hfirst | hrun
    · rcases List.mem_pair.mp hfirst with rfl | rfl
      · simp [taskRule] at hexcluded
      · simp [syncRule] at hexcluded
    · obtain ⟨a, -, rfl⟩ := List.mem_map.mp hrun
      exact not_excluded_by_runRule hexcluded
  · obtain ⟨a, ha, rfl⟩ := List.mem_map.mp hlast
    obtain ⟨ha, hinterpreted⟩ := List.mem_filter.mp ha
    refine ⟨a, ha, ?_, rfl⟩
    cases hmode : a.2 with
    | interpreted => rfl
    | tier1 => simp [hmode, ExecutionMode.isInterpreted] at hinterpreted
    | tier2 => simp [hmode, ExecutionMode.isInterpreted] at hinterpreted

theorem interpreterRule_mem {a : String × ExecutionMode} (ha : a ∈ assigned)
    (hmode : a.2 = .interpreted) :
    interpreterRule job a.1 ∈ (ofAssignments job config assigned).rules := by
  refine List.mem_append_right _ (List.mem_map.mpr ⟨a, List.mem_filter.mpr ⟨ha, ?_⟩, rfl⟩)
  rw [hmode]
  rfl

theorem Agrees.oneModeEach (hlength : (job.roles.zip job.modes).length = job.threads)
    (h : Agrees job (ofAssignments job config (job.roles.zip job.modes)).rules) :
    OneModeEach job where
  mode_eq := by
    intro a ha b hb hrole
    -- two threads of a role have rules for the same run loop
    have hruns := h.directives_eq _ ((mem_runRules hlength).mpr ⟨a, ha, rfl⟩)
      _ ((mem_runRules hlength).mpr ⟨b, hb, rfl⟩) (runLoop_inj.mpr hrole)
    rw [hrole] at hruns
    exact mode_eq_of_runRule hruns
  apart := by
    intro a ha hinterpreted role hrole hmatches
    have hfree : ∀ b ∈ job.roles.zip job.modes,
        ¬Forces (runRule job config b.1 b.2) (workloadMethod job role) := by
      intro b hb hforces
      exact h.inlined_or_excluded role hrole _ ((mem_runRules hlength).mpr ⟨b, hb, rfl⟩)
        _ (interpreterRule_mem ha hinterpreted) hforces (bars_interpreterRule_iff.mpr hmatches)
    constructor
    · intro hhelper
      exact hfree a ha (forces_runRule_iff.mpr (.inl hhelper))
    · intro b hb hsame
      by_contra hcompiled
      exact hfree b hb (forces_runRule_iff.mpr (.inr ⟨hcompiled, hsame⟩))

theorem OneModeEach.agrees (hlength : (job.roles.zip job.modes).length = job.threads)
    (h : OneModeEach job) :
    Agrees job (ofAssignments job config (job.roles.zip job.modes)).rules where
  inlined_or_excluded := by
    intro role hrole run hrun rule hrule hforces hbars
    obtain ⟨a, ha, rfl⟩ := (mem_runRules hlength).mp hrun
    obtain ⟨b, hb, hinterpreted, rfl⟩ := exists_of_excluded hrule hbars.2
    obtain ⟨hapart, hmodes⟩ :=
      h.apart b hb hinterpreted role hrole (bars_interpreterRule_iff.mp hbars)
    rcases forces_runRule_iff.mp hforces with hhelper | ⟨hcompiled, hsame⟩
    · exact hapart hhelper
    · exact hcompiled (hmodes a ha hsame)
  directives_eq := by
    intro run hrun other hother hpattern
    obtain ⟨a, ha, rfl⟩ := (mem_runRules hlength).mp hrun
    obtain ⟨b, hb, rfl⟩ := (mem_runRules hlength).mp hother
    have hrole : a.1 = b.1 := runLoop_inj.mp hpattern
    rw [hrole, h.mode_eq a ha b hb hrole]

/-- The rules of a job that is accepted agree with each other exactly if the job gives each of its
roles one mode and nothing that an interpreted role stands for is a helper of the harness or stood
for by a compiled role. If there is no star in the names of the job, then an interpreted role stands
for its own method only, and a helper is what starts like one. -/
theorem agree_iff_one_mode (hjob : job.validate = .ok ()) (config : DirectivesConfig) :
    ∃ set, ofJob job config = .ok set ∧ (Agrees job set.rules ↔ OneModeEach job) ∧
      (Starless job → (Agrees job set.rules ↔ OneModeByName job)) := by
  have hsound : job.Sound := Job.validate_eq_ok_iff.mp hjob
  have hlength := length_assigned hsound
  refine ⟨_, ofJob_of_sound hsound, ⟨Agrees.oneModeEach hlength, OneModeEach.agrees hlength⟩, ?_⟩
  intro hstarless
  constructor
  · intro hagrees
    exact (hagrees.oneModeEach hlength).byName hstarless
  · intro hnames
    exact (hnames.oneModeEach hstarless).agrees hlength

theorem agree_iff_one_mode_motley :
    motleyJob.validate = .ok () ∧ OneModeEach motleyJob ∧ Starless motleyJob ∧
    OneModeByName motleyJob ∧
    ∃ set, ofJob motleyJob { printAssembly := true } = .ok set ∧ Agrees motleyJob set.rules := by
  have hjob : motleyJob.validate = .ok () := by decide
  have hstarless : Starless motleyJob := by decide
  have hnames : OneModeByName motleyJob := by decide +kernel
  obtain ⟨set, hset, hagrees, hbyName⟩ := agree_iff_one_mode hjob { printAssembly := true }
  have hagree : Agrees motleyJob set.rules := (hbyName hstarless).mpr hnames
  exact ⟨hjob, hagrees.mp hagree, hstarless, hnames, set, hset, hagree⟩

/-- An interpreted role that goes by a name of the harness's helpers. -/
def helperRoleJob : Job where
  name := "t.Helper"
  threads := 1
  roles := ["aux_load"]
  modes := [.interpreted]
  dispatch := .forked
  harness := "t.Helper"

-- every role has one mode here, and yet the loop of the role inlines its method by force
example : helperRoleJob.validate = .ok () ∧ ¬OneModeEach helperRoleJob := by decide +kernel

/-- Two threads of one role, the first interpreted and the second compiled. -/
def sharedRoleJob : Job where
  name := "t.Shared"
  threads := 2
  roles := ["actor", "actor"]
  modes := [.interpreted, .tier2]
  dispatch := .forked
  harness := "t.Shared_Harness"

/-- The rules for the run loops of the two threads, between the rules in front and the last rule. -/
def sharedRoleRules : List Rule :=
  [taskRule sharedRoleJob {}, syncRule {}, runRule sharedRoleJob {} "actor" .interpreted,
    runRule sharedRoleJob {} "actor" .tier2, interpreterRule sharedRoleJob "actor"]

/-- A job whose threads share a role in two modes is accepted, and its rules contradict each
other. -/
theorem shared_role_in_two_modes :
    sharedRoleJob.validate = .ok () ∧
    ∃ set, ofJob sharedRoleJob {} = .ok set ∧ ¬Agrees sharedRoleJob set.rules ∧
      (∃ run ∈ runRules sharedRoleJob set.rules, ∃ rule ∈ set.rules,
        .inlining true "t.Shared::actor" ∈ run.directives ∧ rule.pattern = "+t.Shared::actor" ∧
        .exclude .tier1 ∈ rule.directives ∧ .exclude .tier2 ∈ rule.directives) ∧
      ∃ run ∈ runRules sharedRoleJob set.rules, ∃ other ∈ runRules sharedRoleJob set.rules,
        run.pattern = other.pattern ∧ run.directives ≠ other.directives := by
  have hclash : ∃ run ∈ runRules sharedRoleJob sharedRoleRules, ∃ rule ∈ sharedRoleRules,
      .inlining true "t.Shared::actor" ∈ run.directives ∧ rule.pattern = "+t.Shared::actor" ∧
      .exclude .tier1 ∈ rule.directives ∧ .exclude .tier2 ∈ rule.directives := by
    decide +kernel
  have hdiffer : ∃ run ∈ runRules sharedRoleJob sharedRoleRules,
      ∃ other ∈ runRules sharedRoleJob sharedRoleRules,
        run.pattern = other.pattern ∧ run.directives ≠ other.directives := by
    decide +kernel
  refine ⟨by decide, ⟨sharedRoleRules⟩, by decide +kernel, fun hagrees => ?_, hclash, hdiffer⟩
  obtain ⟨run, hrun, other, hother, hpattern, hdirectives⟩ := hdiffer
  exact hdirectives (hagrees.directives_eq run hrun other hother hpattern)

end Agreement

end StressBatch.DirectiveSet
