import StressBatch.Failure
import StressBatch.Text.Blank
import StressBatch.Time.Span

/-!
# Configuration

The settings of a batch run: the CPU budget, the link, and how workers are launched. A configuration
is checked before it is used; `Config.fault?` tells the first setting that is not allowed.
-/

namespace StressBatch

/-- Whether worker command lines pin the process to its CPUs. -/
inductive AffinityMode where
  /-- If the host has the program for it. -/
  | auto
  /-- In any case. -/
  | always
  /-- Not at all. -/
  | never
  deriving DecidableEq, Repr, Inhabited

namespace AffinityMode

/-- All modes, in the order of their declaration. -/
def all : List AffinityMode := [.auto, .always, .never]

/-- The name of a mode. -/
def name : AffinityMode → String
  | .auto => "auto"
  | .always => "always"
  | .never => "never"

/-- The mode of a name. -/
def ofName? (name : String) : Option AffinityMode :=
  if name = "auto" then some .auto
  else if name = "always" then some .always
  else if name = "never" then some .never
  else none

end AffinityMode

/-- Settings for the directive files of workers. -/
structure DirectivesConfig where
  /-- Whether the runtime of workers takes a directive file. -/
  enabled : Bool := false
  /-- The flag that the path of the file is appended to. -/
  flag : String := "-XX:CompilerDirectivesFile="
  /-- The owner of the helper methods that synchronize threads. -/
  syncHelper : String := "forkstress.runtime.WorkerSync"
  /-- More patterns to be inlined into the loop that schedules a test. -/
  extraInline : List String := ["java.util.concurrent.atomic.*::*"]
  /-- Whether compiled roles ask for an assembly listing. -/
  printAssembly : Bool := false
  deriving DecidableEq, Repr, Inhabited

/-- How workers are launched. -/
structure RuntimeConfig where
  /-- The program and its first arguments; empty for the bundled worker. -/
  invoke : List String := []
  /-- Arguments for every worker. -/
  args : List String := []
  /-- The entry point, right in front of the link coordinates. -/
  entryPoint : String := "run"
  /-- Whether workers are pinned to their CPUs. -/
  affinity : AffinityMode := .auto
  /-- Settings for directive files. -/
  directives : DirectivesConfig := {}
  deriving DecidableEq, Repr, Inhabited

/-- The settings of a batch run. -/
structure Config where
  /-- The CPU budget; zero for what the host has. -/
  maxThreads : Nat := 0
  /-- The pause between two attempts to get CPUs, in milliseconds. -/
  spinWaitDelayMs : Nat := 100
  /-- The interface that the link server listens on. -/
  linkHost : String := "127.0.0.1"
  /-- How workers are launched. -/
  runtime : RuntimeConfig := {}
  deriving DecidableEq, Repr, Inhabited

/-- What can be wrong with a configuration. -/
inductive ConfigFault where
  /-- There is no pause between attempts. -/
  | noDelay
  /-- The interface of the link server is blank. -/
  | noLinkHost
  /-- The entry point is blank. -/
  | noEntryPoint
  /-- Directive files are enabled without a flag. -/
  | noDirectiveFlag
  deriving DecidableEq, Repr

/-- The text of a fault. -/
def ConfigFault.message : ConfigFault → String
  | .noDelay => "spin_wait_delay_ms must be positive"
  | .noLinkHost => "link_host must not be empty"
  | .noEntryPoint => "runtime.entry_point must not be empty"
  | .noDirectiveFlag => "runtime.directives.flag is required when directives are enabled"

/-- The file name of the bundled worker. -/
def workerBinary : String := "stress-worker"

/-- The program and first arguments of workers; `directory` is where the bundled worker lies. -/
def RuntimeConfig.resolvedInvoke (runtime : RuntimeConfig) (directory : String) : List String :=
  if runtime.invoke.isEmpty then [directory ++ "/" ++ workerBinary] else runtime.invoke

namespace Config

/-- The first setting that is not allowed. -/
def fault? (config : Config) : Option ConfigFault :=
  if config.spinWaitDelayMs = 0 then some .noDelay
  else if Text.isBlank config.linkHost then some .noLinkHost
  else if Text.isBlank config.runtime.entryPoint then some .noEntryPoint
  else if config.runtime.directives.enabled ∧ config.runtime.directives.flag = "" then
    some .noDirectiveFlag
  else none

/-- Accepts a configuration without faults; for any other the first fault is the failure. -/
def validate (config : Config) : Except Failure Unit :=
  match config.fault? with
  | none => .ok ()
  | some fault => .error (.config fault.message)

/-- The CPU budget on a host that can run `parallelism` threads at once. -/
def resolvedMaxThreads (config : Config) (parallelism : Nat) : Nat :=
  if config.maxThreads = 0 then parallelism else config.maxThreads

/-- The pause between two attempts to get CPUs. -/
def spinWaitDelay (config : Config) : Time.Span := Time.Span.ofMillis config.spinWaitDelayMs

end Config

end StressBatch
