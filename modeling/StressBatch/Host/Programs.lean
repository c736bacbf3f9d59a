import StressBatch.Host
import StressBatch.Host.Shell
import StressBatch.StressWorker

/-!
# Programs of a host

What becomes of a program when it is executed. A host has the shell, a few small programs beside it,
and the bundled worker; it cannot execute a directory, and it does not have anything else.
-/

namespace StressBatch.Host

/-- The last part of a path. -/
def baseName (path : String) : String :=
  String.ofList ((path.toList.reverse.takeWhile (· != '/')).reverse)

/-- The directories that programs are looked for in. -/
def programDirectories : List String := ["/bin", "/usr/bin"]

/-- Directories that every host has. -/
def directories : List String :=
  ["/", ".", "..", "/bin", "/usr", "/usr/bin", "/etc", "/tmp", "/var", "/home", "/root", "/dev",
    "/proc", "/sys", "/opt", "/lib"]

/-- The name of a program that is given by its name, or by a path into one of the directories where
programs are looked for. -/
def programName? (program : String) : Option String :=
  if program.toList.contains '/' then
    if programDirectories.any fun directory => program == directory ++ "/" ++ baseName program then
      some (baseName program)
    else none
  else some program

/-- How the small programs of a host end. -/
def smallProgram? (name : String) (args : List String) : Option Exit :=
  if name = "sh" then
    match args with
    | "-c" :: script :: params => some (Shell.run script params)
    | _ => some (.silent (.exited 2))
  else if name = "true" then some (.silent (.exited 0))
  else if name = "false" then some (.silent (.exited 1))
  else if name = "echo" then
    some ⟨.exited 0, .bytes (Text.Utf8.encode (String.intercalate " " args ++ "\n")), .bytes []⟩
  else none

/-- Executes the programs that every host has, and the bundled worker, which lies in a directory of
its own. -/
def programs (directory : String) (network : Link.Network) (program : String) (args : List String) :
    Except IoFault Course :=
  if program = directory ++ "/" ++ workerBinary then .ok (StressWorker.exit? network args)
  else if directories.contains program ∧ program.toList.contains '/' then .error .permissionDenied
  else
    match (programName? program).bind fun name => smallProgram? name args with
    | some exit => .ok (some exit)
    | none => .error .notFound

end StressBatch.Host
