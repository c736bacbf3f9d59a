import StressBatch.Config.Loading
import StressBatch.ErrorReport
import StressBatch.RacyCounter
import StressBatch.Scheduler.Run
import StressBatch.Scheduler.Startup
import StressBatch.Text.Quoted

/-!
# Batches

The whole program: it loads a configuration and a file of jobs, has a scheduler run the jobs, and
logs a line for every result. A batch fails if something cannot be loaded, if the scheduler cannot
be set up, or if a peer broke the protocol; a job that fails does not make its batch fail.
-/

namespace StressBatch

/-! ## The log -/

/-- How much a line of the log matters. -/
inductive LogLevel where
  /-- Things go as they should. -/
  | info
  /-- Something went wrong. -/
  | warn
  deriving DecidableEq, Repr

/-- The name of a level. -/
def LogLevel.name : LogLevel → String
  | .info => "INFO"
  | .warn => "WARN"

/-- A line of the log: a message, and values by name. -/
structure LogLine where
  /-- How much the line matters. -/
  level : LogLevel
  /-- What happened. -/
  message : String
  /-- The values, in the order they are shown. -/
  fields : List (String × String) := []
  deriving DecidableEq, Repr

/-- The text of a line, without its level. -/
def LogLine.text (line : LogLine) : String :=
  String.intercalate " " (line.message :: line.fields.map fun field => field.1 ++ "=" ++ field.2)

namespace Batch

/-! ## The command line -/

/-- What the command line asks for. -/
structure Arguments where
  /-- The path of the jobs file. -/
  jobs : String
  /-- The path of the configuration. -/
  config : Option String := none
  /-- The CPU budget, instead of the configured one. -/
  threads : Option Nat := none
  deriving DecidableEq, Repr

/-- The variable that names a configuration when no option does. -/
def configVariable : String := "FORKSTRESS_CONFIG"

/-- The options, which all take a value. -/
def optionNames : List String := ["--config", "--threads"]

/-- Splits an argument behind the first equals sign. -/
def splitOption (arg : String) : String × Option String :=
  let name := arg.toList.takeWhile (· ≠ '=')
  if name.length = arg.toList.length then (arg, none)
  else (String.ofList name, some (String.ofList (arg.toList.drop (name.length + 1))))

/-- Sorts arguments into options with their values and all others. An option that is not known or
has no value is refused; behind two hyphens nothing is an option. -/
def sortArgs? : List String → Option (List (String × String) × List String)
  | [] => some ([], [])
  | "--" :: rest => some ([], rest)
  | arg :: rest =>
    match splitOption arg with
    | (name, some value) =>
      if optionNames.contains name then
        (sortArgs? rest).map fun (options, others) => ((name, value) :: options, others)
      else if arg.toList.head? = some '-' then none
      else (sortArgs? rest).map fun (options, others) => (options, arg :: others)
    | (name, none) =>
      if optionNames.contains name then
        match rest with
        | value :: rest =>
          if value.toList.head? = some '-' ∧ value ≠ "-" then none
          else (sortArgs? rest).map fun (options, others) => ((name, value) :: options, others)
        | [] => none
      else if arg.toList.head? = some '-' ∧ arg ≠ "-" then none
      else (sortArgs? rest).map fun (options, others) => (options, arg :: others)

/-- Reads the arguments of the command line; a variable may name the configuration instead. A path
is never empty, and no option is given twice. -/
def Arguments.ofArgs? (args : List String) (vars : Dotenv.Variables) : Option Arguments := do
  match ← sortArgs? args with
  | (options, [jobs]) =>
    let valuesOf := fun name => (options.filter (·.1 == name)).map (·.2)
    let config ←
      match valuesOf "--config" with
      | [] => some (vars.get? configVariable)
      | [path] => some (some path)
      | _ => none
    let threads ←
      match valuesOf "--threads" with
      | [] => some none
      | [value] => (Text.numeral? Text.word64 value).map some
      | _ => none
    if jobs = "" ∨ config = some "" then none else some ⟨jobs, config, threads⟩
  | _ => none

/-- The files that the command line names. -/
def Arguments.paths (args : Arguments) : List String := args.jobs :: args.config.toList

/-! ## What a batch is made of -/

/-- What the program finds around it. -/
structure Surroundings where
  /-- The machine. -/
  host : Host
  /-- The network. -/
  network : Link.Network
  /-- What paths lead to. -/
  files : String → Config.FileContent
  /-- The variables. -/
  vars : Dotenv.Variables

/-- Loads the configuration that the command line asks for. -/
def loadConfig (around : Surroundings) (args : Arguments) : Except ErrorReport Config :=
  let loaded : Except ErrorReport Config :=
    match args.config with
    | some path =>
      (Config.ofFile (around.files path) around.vars).mapError fun failure =>
        ⟨"loading " ++ path, failure.chain⟩
    | none => (Config.ofVariables around.vars).mapError fun failure => ⟨failure.message, []⟩
  loaded.map fun config => { config with maxThreads := args.threads.getD config.maxThreads }

/-- Loads the jobs. -/
def loadJobs (around : Surroundings) (args : Arguments) : Except ErrorReport (List Job) :=
  match (around.files args.jobs).read with
  | .error fault => .error ⟨"reading " ++ args.jobs, [fault.message]⟩
  | .ok text =>
    match jobsOfToml? text with
    | none => .error ⟨"parsing " ++ args.jobs, []⟩
    | some jobs => .ok jobs

/-! ## What is logged -/

/-- The line that tells how many jobs there are. -/
def loadedLine (jobs : List Job) : LogLine :=
  ⟨.info, "loaded jobs", [("count", toString jobs.length)]⟩

/-- The line for a result. -/
def resultLine (result : TestResult) : LogLine :=
  if result.status.isFailure then
    ⟨.warn, "job failed", [("job", result.name), ("status", result.status.name),
      ("messages", Text.quotedList result.messages)]⟩
  else
    ⟨.info, "job passed", [("job", result.name), ("states", toString result.states.size),
      ("samples", toString result.totalCount)]⟩

/-- The line that sums the batch up. -/
def doneLine (summary : Summary Violation) : LogLine :=
  ⟨.info, "done", [("jobs", toString summary.jobs), ("forked", toString summary.forkedDispatched),
    ("embedded", toString summary.embeddedDispatched),
    ("failures", toString (summary.synthesizedFailures + summary.rejected)),
    ("violations", toString summary.violations.length), ("elapsed", summary.elapsed.text)]⟩

/-! ## Running -/

/-- How a batch ends. -/
inductive Ending where
  /-- All jobs have been run. -/
  | finished
  /-- The run of the jobs never ends. -/
  | unfinished
  /-- The batch failed. -/
  | failed (report : ErrorReport)
  /-- The scheduler panicked. -/
  | panicked (panic : Panic)
  /-- The command line cannot be read. -/
  | misused
  deriving DecidableEq, Repr

/-- The exit code of the program. One that never ends by itself has none; whoever waits for it gets
the code of a program that is terminated by a signal. -/
def Ending.exitCode : Ending → Nat
  | .finished => 0
  | .unfinished => 143
  | .failed _ => 1
  | .panicked _ => 101
  | .misused => 2

/-- What the program writes to standard error. -/
def Ending.errorLines : Ending → List String
  | .finished | .unfinished => []
  | .failed report => report.lines
  | .panicked panic => [panic.text]
  | .misused => ["usage: forkstress JOBS [--config FILE] [--threads N]"]

/-- What a batch logs and how it ends. -/
structure Outcome where
  /-- The log, oldest line first. -/
  log : List LogLine := []
  /-- How the batch ended. -/
  ending : Ending
  deriving DecidableEq, Repr

/-- How a batch ends whose run has ended. -/
def verdict (summary : Summary Violation) : Ending :=
  if summary.violations = [] then .finished
  else .failed ⟨toString summary.violations.length ++ " protocol violations", []⟩

/-- What a batch logs about a run, and how it ends. Nothing is logged before the run is over. -/
def conclude (state : Scheduler.State) : Outcome :=
  match state.phase with
  | .crashed panic => ⟨[], .panicked panic⟩
  | .terminated =>
    ⟨state.log.results.map resultLine ++ [doneLine state.summary], verdict state.summary⟩
  | _ => ⟨[], .unfinished⟩

/-- Has a scheduler run the jobs. -/
def runJobs (around : Surroundings) (config : Config) (jobs : List Job) : Outcome :=
  let runner := EmbeddedRunner.threaded .withBuiltins (.capture around.host.facts)
  match Scheduler.Setup.ofConfig around.host around.network runner config with
  | .error fault => ⟨[], .failed ⟨fault.message, fault.cause.message :: fault.cause.causes⟩⟩
  | .ok setup => conclude ((Scheduler.State.ofConfig around.host config).runAll setup jobs).state

/-- Runs the batch that the command line asks for. -/
def run (around : Surroundings) (args : Arguments) : Outcome :=
  match loadConfig around args with
  | .error report => ⟨[], .failed report⟩
  | .ok config =>
    match loadJobs around args with
    | .error report => ⟨[], .failed report⟩
    | .ok jobs =>
      let outcome := runJobs around config jobs
      { outcome with log := loadedLine jobs :: outcome.log }

/-- Runs the program on the arguments of its command line. -/
def invoke (around : Surroundings) (args : List String) : Outcome :=
  match Arguments.ofArgs? args around.vars with
  | none => ⟨[], .misused⟩
  | some args => run around args

end Batch

end StressBatch
