import StressBatch.Batch
import StressBatch.Host.Programs

/-!
# The program

Reads the variables and the files that the command line names, has the batch run, prints its log and
its errors, and leaves with its exit code. Everything else is decided by `Batch`.
-/

namespace StressBatch.Batch

/-- What a path leads to. -/
def fileAt (path : String) : IO Config.FileContent := do
  try
    return .bytes (← IO.FS.readBinFile path).toList
  catch
    | .noFileOrDirectory .. => return .missing
    | _ => return .directory

/-- The variables of this process, which are separated by NULs. -/
def ownVariables : IO Dotenv.Variables := do
  match ← fileAt "/proc/self/environ" with
  | .bytes content =>
    let texts := (Text.Utf8.decodeLossy content).splitOn "\x00"
    return texts.filterMap fun text =>
      match splitOption text with
      | (name, some value) => some (name, value)
      | (_, none) => none
  | _ => return []

/-- The nearest file of variables, in this directory or in one above it. -/
def variablesFile : (height : Nat) → (path : String) → IO (Option Bytes)
  | 0, _ => return none
  | height + 1, path => do
    match ← fileAt path with
    | .bytes content => return some content
    | _ => variablesFile height ("../" ++ path)

/-- How many threads this machine can run at once. -/
def parallelism : IO Nat := do
  match ← fileAt "/proc/cpuinfo" with
  | .bytes content =>
    return max 1 ((Text.linesOfBytes content).countP fun line => "processor".isPrefixOf line)
  | _ => return 1

/-- Where the bundled worker is looked for. -/
def workerDirectory : String := "/usr/local/bin"

/-- This machine, as far as a batch can tell. -/
def thisHost (network : Link.Network) : IO Host := do
  return {
    facts := ⟨"linux", "x86_64", 0, ← parallelism, "1970-01-01T00:00:00+00:00"⟩
    directory := workerDirectory
    canPin := false
    scratch := some "/tmp"
    unique := toString (← IO.monoNanosNow)
    execute := Host.programs workerDirectory network }

end StressBatch.Batch

open StressBatch StressBatch.Batch in
/-- Runs a batch. -/
def main (args : List String) : IO UInt32 := do
  let network : Link.Network := ⟨some .unreachable, 49152⟩
  let file ← variablesFile 64 ".env"
  let own ← ownVariables
  let vars := file.elim own (Dotenv.loadBytes own)
  let paths := ((Arguments.ofArgs? args vars).map Arguments.paths).getD []
  let files ← paths.mapM fun path => return (path, ← fileAt path)
  let around : Surroundings := {
    host := ← thisHost network
    network := network
    files := fun path => (files.lookup path).getD .missing
    vars := vars }
  let outcome := invoke around args
  for line in outcome.log do
    IO.println (line.level.name ++ " " ++ line.text)
  for line in outcome.ending.errorLines do
    IO.eprintln line
  return UInt32.ofNat outcome.ending.exitCode
