import StressBatch.Job

/-!
# Failures

Why an operation on the host, a configuration or a workload failed. Every failure is a cause; its
text is made in one place, `message`.
-/

namespace StressBatch

/-- Why the host refused an operation on a file or a process. -/
inductive IoFault where
  /-- There is no such file. -/
  | notFound
  /-- The file may not be used that way. -/
  | permissionDenied
  /-- The path names a directory. -/
  | isDirectory
  /-- The file's content is no UTF-8. -/
  | notUtf8
  /-- A text for the operating system contains a NUL. -/
  | nulByte
  /-- There is no program to start. -/
  | emptyCommand
  /-- A file name is longer than the file system allows. -/
  | nameTooLong
  /-- Any other cause, in the host's own words. -/
  | other (text : String)
  deriving DecidableEq, Repr

/-- The host's text for a fault. -/
def IoFault.message : IoFault → String
  | .notFound => "No such file or directory (os error 2)"
  | .permissionDenied => "Permission denied (os error 13)"
  | .isDirectory => "Is a directory (os error 21)"
  | .notUtf8 => "stream did not contain valid UTF-8"
  | .nulByte => "nul byte found in provided data"
  | .emptyCommand => "empty command line"
  | .nameTooLong => "File name too long (os error 36)"
  | .other text => text

/-- Why a configuration could not be loaded or a workload not run. -/
inductive Failure where
  /-- The host refused an operation. -/
  | io (fault : IoFault)
  /-- The configuration is no document of the expected shape, for the reason that its reader gives.
  The reader of this library gives none. -/
  | configSyntax {account : Option String}
  /-- The configuration has a value that is not allowed. -/
  | config (reason : String)
  /-- The job is not sound. -/
  | invalidJob (name reason : String)
  /-- A workload for the harness is there already. -/
  | duplicateHarness (harness : String)
  /-- No workload answers to the harness. -/
  | unknownHarness (harness : String)
  /-- The workload itself failed. -/
  | workload (reason : String)
  deriving DecidableEq, Repr

/-- The text of a failure. -/
def Failure.message : Failure → String
  | .io fault => "IO error: " ++ fault.message
  | @Failure.configSyntax (some account) => "Config parse error: " ++ account
  | @Failure.configSyntax none => "Config parse error"
  | .config reason => "Config error: " ++ reason
  | .invalidJob name reason => "Invalid job '" ++ name ++ "': " ++ reason
  | .duplicateHarness harness => "Workload for harness '" ++ harness ++ "' is already registered"
  | .unknownHarness harness => "No workload registered for harness: " ++ harness
  | .workload reason => "Workload failed: " ++ reason

/-- Accepts a sound job; for any other the first fault is the failure. -/
def Job.validate (job : Job) : Except Failure Unit :=
  match job.fault? with
  | none => .ok ()
  | some fault => .error (.invalidJob job.name fault.message)

theorem Job.validate_eq_ok_iff {job : Job} : job.validate = .ok () ↔ job.Sound := by
  rw [← Job.fault?_eq_none_iff]
  unfold Job.validate
  split <;> simp_all

end StressBatch
