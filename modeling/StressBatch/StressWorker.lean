import StressBatch.ErrorReport
import StressBatch.Link.Network
import StressBatch.Link.Service
import StressBatch.Process
import StressBatch.RacyCounter

/-!
# The bundled worker

The program that runs one job of a batch in a process of its own. It is given the link's coordinates
and a token, pulls the job of the token, runs it through its registry of workloads, and pushes the
result. It exits cleanly once the result has been accepted, or if there is no job to run.
-/

namespace StressBatch.StressWorker

/-! ## The command line -/

/-- What the command line tells. -/
structure Invocation where
  /-- The directive file, of which the workloads make no use. -/
  directives : Option String
  /-- Where the link server listens. -/
  endpoint : Link.Endpoint
  /-- The worker's token. -/
  token : Token
  deriving DecidableEq, Repr

/-- The option that names a directive file. -/
def directivesFlag : String := "--directives"

/-- The command that has the worker run a job. -/
def runCommand : String := "run"

/-- Whether an argument looks like an option. -/
def isOption (arg : String) : Bool := arg.toList.head? == some '-' && arg != "-"

/-- Whether an argument can be the path of a directive file. -/
def isPath (arg : String) : Bool := arg != "" && !isOption arg

/-- Sorts arguments into the directive files that options name and all others. An option that is not
known is refused; behind two hyphens nothing is an option. In front of a command (`leading`) only
options are looked at, and there have to be no two hyphens. -/
def sortArgs? (leading : Bool) : List String → Option (List String × List String)
  | [] => some ([], [])
  | arg :: rest =>
    if arg = directivesFlag then
      match rest with
      | path :: rest =>
        if isPath path then
          (sortArgs? leading rest).map fun (files, others) => (path :: files, others)
        else none
      | [] => none
    else if (directivesFlag ++ "=").isPrefixOf arg then
      let path := String.ofList (arg.toList.drop (directivesFlag.length + 1))
      if path = "" then none
      else (sortArgs? leading rest).map fun (files, others) => (path :: files, others)
    else if arg = "--" ∧ !leading then some ([], rest)
    else if isOption arg then none
    else if leading then some ([], arg :: rest)
    else (sortArgs? leading rest).map fun (files, others) => (files, arg :: others)

/-- Reads the arguments of the command line. A directive file may be named once in front of the
command and once behind it; the latter counts. -/
def Invocation.ofArgs? (args : List String) : Option Invocation := do
  match ← sortArgs? true args with
  | (outer, command :: args) =>
    match ← sortArgs? false args with
    | (inner, [host, port, token]) =>
      let number ← Text.numeral? Text.word16 port
      if command = runCommand ∧ outer.length ≤ 1 ∧ inner.length ≤ 1 then
        return ⟨inner.head?.or outer.head?, ⟨host, UInt16.ofNat number⟩, token⟩
      else none
    | _ => none
  | _ => none

/-! ## Reports -/

/-- The text of lines. -/
def textOf (lines : List String) : Bytes :=
  Text.Utf8.encode (String.join (lines.map (· ++ "\n")))

/-- The end of a worker that failed after it had written some lines. -/
def failedExit (out : List String) (report : ErrorReport) : Exit :=
  ⟨.exited 1, .bytes (textOf out), .bytes (textOf report.lines)⟩

/-- The end of a worker that failed because of the link. -/
def linkExit (out : List String) (failure : Link.Failure) : Exit :=
  failedExit out ⟨failure.message, failure.causes⟩

/-- The end of a worker whose command line cannot be read. -/
def usageExit : Exit := .silent (.exited 2)

/-! ## Running a job -/

/-- What the worker announces on its standard output before it runs a job. -/
def banner (token : Token) (job : Job) : String :=
  token ++ ": " ++ job.name ++ " on " ++ toString job.threads ++ " threads"

/-- The result that the worker pushes for a job. -/
def resultOf (registry : Registry) (snapshot : Environment) (job : Job) : Except Panic TestResult :=
  (registry.execute job).map fun result => result.setEnv snapshot

/-- Pulls the job of a token, runs it and pushes the result. -/
def serve {σ : Type} (registry : Registry) (snapshot : Environment) (service : Link.Service σ)
    (token : Token) (s : σ) : Exit × σ :=
  match service.pull token s with
  | (.error failure, s) => (linkExit [] failure, s)
  | (.ok none, s) => (.silent (.exited 0), s)
  | (.ok (some job), s) =>
    match resultOf registry snapshot job with
    | .error panic => (failedExit [banner token job] ⟨panic.text, []⟩, s)
    | .ok result =>
      match service.push token result s with
      | (.error failure, s) => (linkExit [banner token job] failure, s)
      | (.ok (), s) => (⟨.exited 0, .bytes (textOf [banner token job]), .bytes []⟩, s)

/-- How the worker ends when it cannot get through to the link, or with a command line that it
cannot read. In any other case that is up to the link. -/
def exit? (network : Link.Network) (args : List String) : Option Exit :=
  match Invocation.ofArgs? args with
  | none => some usageExit
  | some invocation =>
    match network.connect invocation.endpoint with
    | .error failure => some (linkExit [] failure)
    | .ok () => none

end StressBatch.StressWorker
