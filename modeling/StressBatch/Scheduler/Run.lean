import StressBatch.Scheduler.Step

/-!
# Carrying a run on

What the scheduler does of its own accord. It dispatches as long as it can. When a job has to wait
it handles all events and checks on all workers, and tries once more; if that fails too it waits.
While it waits, processes that need nobody to go on come to their ends. Every function here takes
moves of `Scheduler.Move` only, so whatever it reaches is reached by a run.
-/

namespace StressBatch.Scheduler

/-- A state together with all that was shown on the way to it. -/
structure Progress where
  /-- The state. -/
  state : State
  /-- What the steps showed, oldest first. -/
  effects : List Effect := []

namespace Progress

/-- Carries out moves. -/
def follow (setup : Setup) (progress : Progress) (moves : List Move) : Progress :=
  let (state, effects) := progress.state.run setup moves
  ⟨state, progress.effects ++ effects⟩

end Progress

namespace State

/-- Whether a job need not wait for CPUs. -/
def hasRoom (s : State) (job : Job) : Bool :=
  (s.refusal? job).isSome || job.threads ≤ s.layout.available

/-- The scheduler's next move, unless it has to wait or has nothing left to do. -/
def next? (s : State) : Option Move :=
  match s.phase, s.pending with
  | .dispatching, [] => some .drain
  | .dispatching, job :: _ => if s.hasRoom job then some .dispatch else none
  | .draining, _ => if s.layout.isIdle then some (.close ⟨0, 0⟩) else none
  | _, _ => none

/-- What the scheduler does when it has to wait: it handles all events and checks on all workers. -/
def turn (s : State) : List Move :=
  List.replicate s.queue.length .handle ++ [.reap s.liveTokens]

/-- The ends that processes come to when they are left alone. -/
def ends (setup : Setup) (s : State) : List Move :=
  s.workers.filterMap fun worker =>
    if worker.isDying then some (.exit worker.token .killed)
    else if worker.isRunning then (setup.host.course worker.command).map (.exit worker.token)
    else none

end State

namespace Progress

/-- Goes on until the scheduler has to wait. The fuel bounds the number of its moves. -/
def advance (setup : Setup) : (fuel : Nat) → Progress → Progress
  | 0, progress => progress
  | fuel + 1, progress =>
    match progress.state.next? with
    | some move => advance setup fuel (progress.follow setup [move])
    | none =>
      if progress.state.phase.isActive then
        let progress := progress.follow setup progress.state.turn
        match progress.state.next? with
        | some move => advance setup fuel (progress.follow setup [move])
        | none => progress
      else progress

/-- How often the scheduler can move before it has to wait: once per pending job, and twice to end
the run. -/
def moveBound (progress : Progress) : Nat := progress.state.pending.length + 2

/-- Goes on until the scheduler waits for something that will not come of its own accord, or until
the run is over. The fuel bounds how often processes come to their ends in between. -/
def settleWith (setup : Setup) : (fuel : Nat) → Progress → Progress
  | 0, progress => progress
  | fuel + 1, progress =>
    let progress := progress.advance setup progress.moveBound
    match progress.state.ends setup with
    | [] => progress
    | moves => settleWith setup fuel (progress.follow setup moves)

/-- Goes on until the scheduler waits for something that will not come of its own accord, or until
the run is over. Every time processes come to their ends there is at least one worker fewer, so they
cannot do so more often than there are jobs. -/
def settle (setup : Setup) (progress : Progress) : Progress :=
  progress.settleWith setup (progress.state.pending.length + progress.state.workers.length + 1)

end Progress

namespace State

/-- Hands jobs over and goes on as far as that leads. -/
def runAll (setup : Setup) (s : State) (jobs : List Job) : Progress :=
  ((⟨s, []⟩ : Progress).follow setup [.submit jobs]).settle setup

end State

end StressBatch.Scheduler
