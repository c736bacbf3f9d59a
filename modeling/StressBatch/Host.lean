import StressBatch.Process
import StressBatch.Launch
import StressBatch.TestResult
import StressBatch.Text.Utf8

/-!
# Hosts

What a run needs to know about the machine it is on: where scratch files can be made, and what
becomes of a command line.
-/

namespace StressBatch

/-- How a process ends when it is left alone; `none` if it waits for ever. -/
abbrev Course := Option Exit

/-- A machine that workers run on. -/
structure Host where
  /-- What a snapshot of the machine shows. -/
  facts : HostFacts
  /-- Where the bundled worker lies. -/
  directory : String
  /-- Whether a process can be pinned to CPUs. -/
  canPin : Bool
  /-- The directory for scratch files, if there is one. -/
  scratch : Option String
  /-- The part of a scratch file's name that keeps it apart from all others. -/
  unique : String
  /-- Starts a program with its arguments. -/
  execute : String → List String → Except IoFault Course

namespace Host

/-- The longest name that a file can have, in bytes. -/
def nameLimit : Nat := 255

/-- The name of a scratch file for a token. -/
def scratchName (host : Host) (token suffix : String) : String :=
  "forkstress-" ++ token ++ "-" ++ host.unique ++ suffix

/-- Makes a scratch file and gives its path. A name with a slash in it leads into a directory that
does not exist. -/
def scratchFile (host : Host) (token suffix : String) : Except IoFault String :=
  let name := host.scratchName token suffix
  match host.scratch with
  | none => .error .notFound
  | some directory =>
    if name.toList.contains '\x00' then .error .nulByte
    else if nameLimit < (Text.Utf8.encode name).length then .error .nameTooLong
    else if name.toList.contains '/' then .error .notFound
    else .ok (directory ++ "/" ++ name)

/-- What becomes of a command line. Nothing is started if there is no program or if a NUL would cut
an argument short. -/
def launch (host : Host) : List String → Except IoFault Course
  | [] => .error .emptyCommand
  | program :: args =>
    if (program :: args).any fun arg => arg.toList.contains '\x00' then .error .nulByte
    else host.execute program args

/-- The process of a command line. -/
def spawn (host : Host) (command : List String) : Process :=
  match host.launch command with
  | .ok _ => .running false
  | .error fault => .refused fault

/-- How the process of a command line ends when it is left alone. -/
def course (host : Host) (command : List String) : Course :=
  match host.launch command with
  | .ok course => course
  | .error _ => none

end Host

end StressBatch
