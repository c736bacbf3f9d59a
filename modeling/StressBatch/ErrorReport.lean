import StressBatch.Failure

/-!
# Error reports

How a program, or a library that it uses, tells why it failed: what failed on the first line, and
beneath it what lay behind it.
-/

namespace StressBatch

/-- Why something failed. -/
structure ErrorReport where
  /-- What failed. -/
  message : String
  /-- What lay behind it, from the top down. -/
  causes : List String := []
  deriving DecidableEq, Repr

namespace ErrorReport

/-- The lines of the causes; they are numbered unless there is only one. -/
def causeLines : List String → List String
  | [] => []
  | [cause] => ["", "Caused by:", "    " ++ cause]
  | causes => ["", "Caused by:"] ++ causes.zipIdx.map fun c => "    " ++ toString c.2 ++ ": " ++ c.1

/-- The first line of a report. -/
def headline (report : ErrorReport) : String := "Error: " ++ report.message

/-- The lines of a report. -/
def lines (report : ErrorReport) : List String := report.headline :: causeLines report.causes

end ErrorReport

/-- A failure and what lay behind it, from the top down. -/
def Failure.chain (failure : Failure) : List String :=
  match failure with
  | .io fault => [failure.message, fault.message]
  | @Failure.configSyntax (some account) => [failure.message, account]
  | _ => [failure.message]

end StressBatch
