import StressBatch.Proofs.Config
import StressBatch.Proofs.Dotenv
import StressBatch.Proofs.Text.Decimal

/-!
# How the layers of a configuration add up

A configuration has four layers: the defaults, what is written down, the variables of the process
and those of a variable file. Six settings can be overridden by variables; each of them is as its
variable says, if that is set and says something, and as the layers below have it otherwise. Only
what comes out in the end is checked, so a fault of a lower layer does no harm once it is covered.
A variable is a name with a text: one whose value is no text counts as missing, for a variable file
as well as for a setting.
-/

namespace StressBatch.Config

open Dotenv (Variables valueIn)

variable {base config : Config} {vars : Variables}

/-! ## Configurations without faults -/

/-- A configuration that can be used. -/
structure Valid (config : Config) : Prop where
  delay_pos : 0 < config.spinWaitDelayMs
  linkHost_visible : Text.isBlank config.linkHost = false
  entryPoint_visible : Text.isBlank config.runtime.entryPoint = false
  flag_given : config.runtime.directives.enabled = true → config.runtime.directives.flag ≠ ""

theorem fault?_eq_none_iff : config.fault? = none ↔ config.Valid := by
  constructor
  · intro h
    unfold fault? at h
    split at h
    · contradiction
    split at h
    · contradiction
    split at h
    · contradiction
    split at h
    · contradiction
    next hdelay hhost hentry hflag =>
      exact ⟨Nat.pos_of_ne_zero hdelay, by simpa using hhost, by simpa using hentry,
        fun henabled hempty => hflag ⟨henabled, hempty⟩⟩
  · intro h
    have hdelay : config.spinWaitDelayMs ≠ 0 := Nat.ne_of_gt h.delay_pos
    have hflag : ¬(config.runtime.directives.enabled = true ∧
        config.runtime.directives.flag = "") := fun hboth => h.flag_given hboth.1 hboth.2
    unfold fault?
    rw [if_neg hdelay, if_neg (by simp [h.linkHost_visible]),
      if_neg (by simp [h.entryPoint_visible]), if_neg hflag]

/-! ## Settings that variables override -/

/-- A setting that a variable overrides. -/
inductive Setting where
  | maxThreads
  | spinWaitDelayMs
  | linkHost
  | affinity
  | directives
  | printAssembly
  deriving DecidableEq, Repr

namespace Setting

/-- The variable that overrides a setting. -/
def variableName : Setting → String
  | .maxThreads => "FORKSTRESS_MAX_THREADS"
  | .spinWaitDelayMs => "FORKSTRESS_SPIN_WAIT_DELAY_MS"
  | .linkHost => "FORKSTRESS_LINK_HOST"
  | .affinity => "FORKSTRESS_AFFINITY"
  | .directives => "FORKSTRESS_DIRECTIVES"
  | .printAssembly => "FORKSTRESS_PRINT_ASSEMBLY"

/-- The values of a setting. -/
abbrev Value : Setting → Type
  | .maxThreads | .spinWaitDelayMs => Nat
  | .linkHost => String
  | .affinity => AffinityMode
  | .directives | .printAssembly => Bool

/-- The value of a setting in a configuration. -/
def valueOf : (setting : Setting) → Config → setting.Value
  | .maxThreads, config => config.maxThreads
  | .spinWaitDelayMs, config => config.spinWaitDelayMs
  | .linkHost, config => config.linkHost
  | .affinity, config => config.runtime.affinity
  | .directives, config => config.runtime.directives.enabled
  | .printAssembly, config => config.runtime.directives.printAssembly

/-- What a text says for a setting: a number in decimal digits, any text for a host, the name of a
mode, or one of the words `true` and `false`. -/
def Means : (setting : Setting) → String → setting.Value → Prop
  | .maxThreads, s, n | .spinWaitDelayMs, s, n => Text.IsNumeral Text.word64 s n
  | .linkHost, s, host => s = host
  | .affinity, s, mode => s = mode.name
  | .directives, s, b | .printAssembly, s, b => s = toString b

/-- Reads the text of a variable as a value of its setting. -/
def read? : (setting : Setting) → String → Option setting.Value
  | .maxThreads | .spinWaitDelayMs => Text.numeral? Text.word64
  | .linkHost => some
  | .affinity => AffinityMode.ofName?
  | .directives | .printAssembly => truth?

/-- The value of a setting in a configuration that a variable with the given text lies over: what
the text says, unless it is missing, is empty or says nothing. -/
inductive Picked (setting : Setting) (text : Option String) (below : setting.Value) :
    setting.Value → Prop
  | overridden {s : String} {a : setting.Value} (hset : text = some s) (hne : s ≠ "")
      (hmeans : setting.Means s a) : Picked setting text below a
  | kept (h : ∀ s a, text = some s → s ≠ "" → ¬setting.Means s a) :
      Picked setting text below below

end Setting

theorem truth?_eq_some_iff {s : String} {b : Bool} : truth? s = some b ↔ s = toString b := by
  unfold truth?
  cases b with
  | false =>
    by_cases htrue : s = "true"
    · simp [htrue, toString]
    · simp [htrue, toString]
  | true =>
    by_cases htrue : s = "true"
    · simp [htrue, toString]
    · by_cases hfalse : s = "false" <;> simp [htrue, hfalse, toString]

theorem ofName?_eq_some_iff {s : String} {mode : AffinityMode} :
    AffinityMode.ofName? s = some mode ↔ s = mode.name := by
  constructor
  · intro h
    unfold AffinityMode.ofName? at h
    split at h
    · next hs => cases h; exact hs
    split at h
    · next hs => cases h; exact hs
    split at h
    · next hs => cases h; exact hs
    · contradiction
  · rintro rfl
    cases mode <;> rfl

variable {setting : Setting}

theorem read?_eq_some_iff {s : String} {a : setting.Value} :
    setting.read? s = some a ↔ setting.Means s a := by
  cases setting with
  | maxThreads => exact Text.numeral?_eq_some_iff
  | spinWaitDelayMs => exact Text.numeral?_eq_some_iff
  | linkHost => exact Option.some_inj
  | affinity => exact ofName?_eq_some_iff
  | directives => exact truth?_eq_some_iff
  | printAssembly => exact truth?_eq_some_iff

theorem override?_eq_some_iff {a : setting.Value} :
    override? vars setting.variableName setting.read? = some a ↔
      ∃ s, vars.get? setting.variableName = some s ∧ s ≠ "" ∧ setting.Means s a := by
  simp only [override?, Dotenv.Variables.nonEmpty?, Option.bind_eq_some_iff,
    Option.filter_eq_some_iff, read?_eq_some_iff, decide_eq_true_eq, and_assoc]

theorem picked_iff {below a : setting.Value} :
    setting.Picked (vars.get? setting.variableName) below a ↔
      a = (override? vars setting.variableName setting.read?).getD below := by
  constructor
  · intro h
    cases h with
    | overridden hset hne hmeans =>
      rw [override?_eq_some_iff.mpr ⟨_, hset, hne, hmeans⟩]
      rfl
    | kept h =>
      cases hread : override? vars setting.variableName setting.read? with
      | none => rfl
      | some b =>
        obtain ⟨s, hset, hne, hmeans⟩ := override?_eq_some_iff.mp hread
        exact absurd hmeans (h s b hset hne)
  · rintro rfl
    cases hread : override? vars setting.variableName setting.read? with
    | none =>
      refine .kept fun s a hset hne hmeans => ?_
      rw [override?_eq_some_iff.mpr ⟨s, hset, hne, hmeans⟩] at hread
      contradiction
    | some a =>
      obtain ⟨s, hset, hne, hmeans⟩ := override?_eq_some_iff.mp hread
      exact .overridden hset hne hmeans

/-! ## One layer over another -/

/-- A configuration made from a lower layer and variables, given by their texts. -/
structure Overridden (base : Config) (text : String → Option String) (config : Config) :
    Prop where
  settings : ∀ setting : Setting, setting.Picked (text setting.variableName)
    (setting.valueOf base) (setting.valueOf config)
  elsewhere : config = { base with
    maxThreads := config.maxThreads
    spinWaitDelayMs := config.spinWaitDelayMs
    linkHost := config.linkHost
    runtime := { base.runtime with
      affinity := config.runtime.affinity
      directives := { base.runtime.directives with
        enabled := config.runtime.directives.enabled
        printAssembly := config.runtime.directives.printAssembly } } }

theorem valueOf_applyOverrides (setting : Setting) :
    setting.valueOf (base.applyOverrides vars) =
      (override? vars setting.variableName setting.read?).getD (setting.valueOf base) := by
  cases setting <;> rfl

theorem overridden_iff : Overridden base vars.get? config ↔ config = base.applyOverrides vars := by
  constructor
  · intro h
    have hvalue : ∀ setting : Setting,
        setting.valueOf config = setting.valueOf (base.applyOverrides vars) := fun setting =>
      (picked_iff.mp (h.settings setting)).trans (valueOf_applyOverrides setting).symm
    have hthreads : config.maxThreads = _ := hvalue .maxThreads
    have hdelay : config.spinWaitDelayMs = _ := hvalue .spinWaitDelayMs
    have hhost : config.linkHost = _ := hvalue .linkHost
    have haffinity : config.runtime.affinity = _ := hvalue .affinity
    have henabled : config.runtime.directives.enabled = _ := hvalue .directives
    have hassembly : config.runtime.directives.printAssembly = _ := hvalue .printAssembly
    rw [h.elsewhere, hthreads, hdelay, hhost, haffinity, henabled, hassembly]
    rfl
  · rintro rfl
    exact ⟨fun setting => picked_iff.mpr (valueOf_applyOverrides setting), rfl⟩

/-- Only what the variables say for their settings matters. -/
theorem applyOverrides_congr {others : Variables}
    (h : ∀ setting : Setting, override? vars setting.variableName setting.read? =
      override? others setting.variableName setting.read?) :
    base.applyOverrides vars = base.applyOverrides others := by
  refine overridden_iff.mp ⟨fun setting => picked_iff.mpr ?_, rfl⟩
  rw [valueOf_applyOverrides, h setting]

theorem applyOverrides_idem :
    (base.applyOverrides vars).applyOverrides vars = base.applyOverrides vars := by
  refine (overridden_iff.mp ⟨fun setting => picked_iff.mpr ?_, rfl⟩).symm
  rw [valueOf_applyOverrides]
  cases override? vars setting.variableName setting.read? with
  | none => rfl
  | some a => rfl

theorem override?_eq_none {s : String} (hset : vars.get? setting.variableName = some s)
    (hvoid : s = "" ∨ ∀ a, ¬setting.Means s a) :
    override? vars setting.variableName setting.read? = none := by
  rw [Option.eq_none_iff_forall_ne_some]
  intro a hread
  obtain ⟨t, hsame, hne, hmeans⟩ := override?_eq_some_iff.mp hread
  rw [hset] at hsame
  cases hsame
  exact hvoid.elim hne (· a hmeans)

theorem variableName_injective : Function.Injective Setting.variableName := by
  intro a b h
  cases a <;> cases b <;> first | rfl | exact absurd h (by decide)

/-- A variable that says nothing for its setting might as well be missing. -/
theorem applyOverrides_unset {s : String} (hset : vars.get? setting.variableName = some s)
    (hvoid : s = "" ∨ ∀ a, ¬setting.Means s a) :
    base.applyOverrides (vars.unset setting.variableName) = base.applyOverrides vars := by
  refine applyOverrides_congr fun other => ?_
  by_cases hsame : other = setting
  · subst hsame
    rw [override?_eq_none hset hvoid]
    simp [override?, Dotenv.Variables.nonEmpty?, Dotenv.get?_unset]
  · have hname : other.variableName ≠ setting.variableName :=
      fun h => hsame (variableName_injective h)
    simp only [override?, Dotenv.Variables.nonEmpty?, Dotenv.get?_unset, if_neg hname]

/-! ## Sources -/

/-- Where the layer below the variables comes from. -/
inductive Source where
  /-- A TOML text. -/
  | toml (text : String)
  /-- A file. -/
  | file (content : FileContent)
  /-- Nothing is written down. -/
  | defaults

/-- The layer that is written in a text. -/
def writtenIn (text : String) : Except Failure Config :=
  match baseOfToml? text with
  | none => .error (@Failure.configSyntax none)
  | some base => .ok base

theorem ofToml_eq {text : String} : ofToml text vars = (writtenIn text).bind (layered · vars) := by
  unfold ofToml writtenIn baseOfToml?
  cases (Toml.parse? text).bind (Config.ofDocument? .toml) with
  | none => rfl
  | some base => rfl

namespace Source

/-- The layer below the variables. -/
def below : Source → Except Failure Config
  | .toml text => writtenIn text
  | .file content =>
    match content.read with
    | .error fault => .error (.io fault)
    | .ok text => writtenIn text
  | .defaults => .ok {}

/-- Loads a configuration. -/
def load (vars : Variables) : Source → Except Failure Config
  | .toml text => ofToml text vars
  | .file content => ofFile content vars
  | .defaults => ofVariables vars

theorem load_eq (source : Source) : source.load vars = source.below.bind (layered · vars) := by
  cases source with
  | toml text => exact ofToml_eq
  | file content =>
    simp only [load, ofFile, below]
    cases content.read with
    | error fault => rfl
    | ok text => exact ofToml_eq
  | defaults => rfl

end Source

/-! ## Mending -/

/-- Some variables cover every fault of a lower layer but a blank entry point, which no variable
overrides. -/
theorem exists_layered_iff :
    (∃ vars config, layered base vars = .ok config) ↔
      Text.isBlank base.runtime.entryPoint = false := by
  constructor
  · rintro ⟨vars, config, h⟩
    obtain ⟨rfl, hfaultless⟩ := layered_eq_ok_iff.mp h
    exact (fault?_eq_none_iff.mp hfaultless).entryPoint_visible
  · intro hentry
    let vars : Variables := [("FORKSTRESS_SPIN_WAIT_DELAY_MS", "1"),
      ("FORKSTRESS_LINK_HOST", "localhost"), ("FORKSTRESS_DIRECTIVES", "false")]
    have hdelay : (base.applyOverrides vars).spinWaitDelayMs = 1 := rfl
    have hhost : (base.applyOverrides vars).linkHost = "localhost" := rfl
    have henabled : (base.applyOverrides vars).runtime.directives.enabled = false := rfl
    refine ⟨vars, base.applyOverrides vars, layered_eq_ok_iff.mpr ⟨rfl, ?_⟩⟩
    refine fault?_eq_none_iff.mpr ⟨?_, ?_, hentry, ?_⟩
    · rw [hdelay]
      exact Nat.one_pos
    · rw [hhost]
      decide
    · rw [henabled]
      exact fun h => absurd h (by decide)

/-! ## Loading -/

theorem get?_adopt_eq (process : Variables) (assignments : List (String × String)) :
    (process.adopt assignments).get? = valueIn process assignments :=
  funext fun _ => Dotenv.get?_adopt assignments

/-- A configuration is loaded as its layers add up to, exactly if that is valid. The variables of
the process lie over those of a variable file, and both over what is written down or the defaults.
A variable whose text says nothing might as well be missing, to override twice is to override once,
and of all faults of a lower layer only a blank entry point cannot be covered. -/
theorem layers_add_up (source : Source) (process : Variables)
    (assignments : List (String × String)) (hbelow : source.below = .ok base) :
    let vars := process.adopt assignments
    let text := valueIn process assignments
    (∀ config, source.load vars = .ok config ↔
      Overridden base text config ∧ config.validate = .ok ()) ∧
    (∃ config, (∀ other, Overridden base text other ↔ other = config) ∧
      source.load vars = config.validate.map fun _ => config) ∧
    (∀ (setting : Setting) (s : String), text setting.variableName = some s →
      (s = "" ∨ ∀ a, ¬setting.Means s a) →
      source.load (vars.unset setting.variableName) = source.load vars) ∧
    (∀ config, Overridden base text config → config.applyOverrides vars = config) ∧
    ((∃ others config, source.load others = .ok config) ↔
      Text.isBlank base.runtime.entryPoint = false) ∧
    (∀ file, ∃ assigned, Dotenv.loadBytes process file = process.adopt assigned) := by
  intro vars text
  have htext : vars.get? = text := get?_adopt_eq process assignments
  have hover : ∀ config, Overridden base text config ↔ config = base.applyOverrides vars :=
    fun config => by rw [← htext, overridden_iff]
  have hload : ∀ vars, source.load vars = layered base vars := fun vars => by
    rw [Source.load_eq, hbelow]
    rfl
  refine ⟨fun config => ?_, ⟨base.applyOverrides vars, hover, ?_⟩, ?_, ?_, ?_, ?_⟩
  · rw [hload, layered_eq_ok_iff, hover, validate_eq_ok_iff]
    exact ⟨fun h => ⟨h.eq_overrides, h.faultless⟩, fun h => ⟨h.1, h.2⟩⟩
  · rw [hload, layered]
    cases (base.applyOverrides vars).validate with
    | ok _ => rfl
    | error failure => rfl
  · intro setting s hset hvoid
    rw [← htext] at hset
    rw [hload, hload, layered, layered, applyOverrides_unset hset hvoid]
  · intro config h
    rw [(hover config).mp h]
    exact applyOverrides_idem
  · simp only [hload, exists_layered_iff]
  · exact Dotenv.exists_adopt_of_loadBytes process

/-- A delay of zero is no fault once a variable file covers it; what it says about the host does not
count, because the process has set that variable, if only to an empty text. -/
theorem layers_add_up_over_fault :
    let written := "spin_wait_delay_ms = 0\n[runtime]\naffinity = \"never\"\n"
    let source := Source.toml written
    let base : Config := { spinWaitDelayMs := 0, runtime := { affinity := .never } }
    let process : Variables := [("FORKSTRESS_LINK_HOST", ""), ("FORKSTRESS_MAX_THREADS", "many")]
    let assignments := [("FORKSTRESS_SPIN_WAIT_DELAY_MS", "+05"),
      ("FORKSTRESS_LINK_HOST", "localhost"), ("FORKSTRESS_MAX_THREADS", "4")]
    source.below = .ok base ∧ base.validate ≠ .ok () ∧
      source.load (process.adopt assignments) = .ok { base with spinWaitDelayMs := 5 } := by
  intro written source base process assignments
  have hwritten : baseOfToml? written = some base := by decide +kernel
  have hbelow : source.below = .ok base := by simp only [source, Source.below, writtenIn, hwritten]
  have hover : Overridden base (valueIn process assignments)
      { base with spinWaitDelayMs := 5 } := by
    rw [← get?_adopt_eq, overridden_iff]
    decide
  have hfault : base.validate ≠ .ok () := mt validate_eq_ok_iff.mp (by decide)
  exact ⟨hbelow, hfault, ((layers_add_up source process assignments hbelow).1 _).mpr
    ⟨hover, validate_eq_ok_iff.mpr (by decide)⟩⟩

end StressBatch.Config
