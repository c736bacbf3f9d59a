import StressBatch.Proofs.SortedMap
import StressBatch.TestResult

/-!
# What a result has counted and what it tells

The states of a result are a multiset that only grows: an observation adds to one state and to the
total, and leaves the rest of the result alone. A line makes a message unless it is blank.
-/

namespace StressBatch.TestResult

variable {result : TestResult} {label : String} {n : Nat}

theorem totalCount_eq_sum : result.totalCount = result.states.values.sum :=
  List.sum_eq_foldr.symm

theorem totalCount_addState : (result.addState label n).totalCount = result.totalCount + n := by
  rw [totalCount_eq_sum, totalCount_eq_sum]
  exact SortedMap.sum_values_alter_add result.states n

theorem mem_keys_addState {other : String} :
    other ∈ (result.addState label n).states.keys ↔ other = label ∨ other ∈ result.states.keys :=
  SortedMap.mem_keys_alter result.states _

@[simp] theorem status_addState : (result.addState label n).status = result.status := rfl

theorem failure_singleton (job : Job) (status : Status) {line : String}
    (h : Text.isBlank line = false) :
    failure job status [line] = { job := job, status := status, messages := [line] } := by
  unfold failure addMessages
  rw [keptLines_singleton h, List.nil_append]

end StressBatch.TestResult
