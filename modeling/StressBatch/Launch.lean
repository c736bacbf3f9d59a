import StressBatch.Config.Basic
import StressBatch.Link.Endpoint

/-!
# Launching workers

The command line of a forked worker: the program that pins it to its CPUs, the runtime, arguments of
the configuration and of the job, the directive file, and at the end the entry point with the link
coordinates and the token.
-/

namespace StressBatch

/-- Launch settings once everything that depends on the host is known. -/
structure LaunchSettings where
  /-- The program and its first arguments. -/
  invoke : List String
  /-- Arguments for every worker. -/
  args : List String
  /-- The entry point. -/
  entryPoint : String
  /-- Whether the process is pinned to its CPUs. -/
  affinity : Bool
  /-- The settings for directive files, if the runtime takes one. -/
  directives : Option DirectivesConfig
  deriving DecidableEq, Repr, Inhabited

namespace LaunchSettings

/-- Settles the settings on a host: `canPin` says whether it can pin a process to CPUs, `directory`
is where the bundled worker lies. -/
def resolve (runtime : RuntimeConfig) (canPin : Bool) (directory : String) : LaunchSettings where
  invoke := runtime.resolvedInvoke directory
  args := runtime.args
  entryPoint := runtime.entryPoint
  affinity :=
    match runtime.affinity with
    | .auto => canPin
    | .always => true
    | .never => false
  directives := if runtime.directives.enabled then some runtime.directives else none

/-- The part of a command line that pins a process to CPUs. -/
def affinityArgs (settings : LaunchSettings) (cpus : List Nat) : List String :=
  if settings.affinity ∧ cpus ≠ [] then
    ["taskset", "-c", String.intercalate "," (cpus.map fun id => toString id)]
  else []

/-- The flag that names the directive file. A path that is no UTF-8 stands here by its lossy text.
-/
def directiveArgs (settings : LaunchSettings) (directiveFile : Option String) : List String :=
  match settings.directives, directiveFile with
  | some config, some path => [config.flag ++ path]
  | _, _ => []

/-- What follows the runtime invocation on a command line. -/
def workerArgs (settings : LaunchSettings) (job : Job) (directiveFile : Option String)
    (endpoint : Link.Endpoint) (token : String) : List String :=
  settings.args ++ job.launchArgs ++ settings.directiveArgs directiveFile ++
    [settings.entryPoint, endpoint.host, endpoint.portText, token]

/-- The command line of a worker. -/
def commandLine (settings : LaunchSettings) (job : Job) (cpus : List Nat)
    (directiveFile : Option String) (endpoint : Link.Endpoint) (token : String) : List String :=
  settings.affinityArgs cpus ++ settings.invoke ++
    settings.workerArgs job directiveFile endpoint token

end LaunchSettings

end StressBatch
