import StressBatch.TestResult

/-!
# The result log

Where finished results go, in order of arrival.
-/

namespace StressBatch

/-- The results that have arrived, oldest first. -/
structure ResultLog where
  /-- The results, oldest first. -/
  results : List TestResult := []
  deriving DecidableEq, Repr, Inhabited

namespace ResultLog

/-- The log without results. -/
def empty : ResultLog := {}

/-- Adds a result behind the ones that are there. -/
def add (log : ResultLog) (result : TestResult) : ResultLog := ⟨log.results ++ [result]⟩

/-- How many results there are. -/
def size (log : ResultLog) : Nat := log.results.length

/-- Whether no result is there. -/
def isEmpty (log : ResultLog) : Bool := log.size == 0

/-- Takes all results out. -/
def drain (log : ResultLog) : List TestResult × ResultLog := (log.results, empty)

@[simp] theorem size_add (log : ResultLog) (result : TestResult) :
    (log.add result).size = log.size + 1 := by
  simp [add, size]

end ResultLog

end StressBatch
