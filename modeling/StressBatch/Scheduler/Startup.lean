import StressBatch.Config.Basic
import StressBatch.Link.Network
import StressBatch.Scheduler.State

/-!
# Setting a scheduler up

A scheduler is ready once its link server listens; if the server cannot, there is no scheduler. This
is the only failure of a scheduler itself: whatever befalls a job becomes the job's result.
-/

namespace StressBatch.Scheduler

/-- Why there is no scheduler: its link server could not start. -/
structure StartupFault where
  /-- What the link said. -/
  cause : Link.Failure
  deriving DecidableEq, Repr

/-- The text of a fault. -/
def StartupFault.message (fault : StartupFault) : String :=
  "link server failed to start: " ++ fault.cause.message

/-- Starts the link server and settles what does not change during a run. -/
def Setup.ofConfig (host : Host) (network : Link.Network) (runner : EmbeddedRunner)
    (config : Config) : Except StartupFault Setup :=
  match network.listen config.linkHost with
  | .error failure => .error ⟨failure⟩
  | .ok endpoint =>
    .ok {
      host := host
      settings := .resolve config.runtime host.canPin host.directory
      endpoint := endpoint
      runner := runner }

/-- A scheduler with the CPU budget of a configuration that has not run. -/
def State.ofConfig (host : Host) (config : Config) : State :=
  .ofCapacity (config.resolvedMaxThreads host.facts.parallelism)

end StressBatch.Scheduler
