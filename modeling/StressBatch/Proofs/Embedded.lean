import StressBatch.Embedded
import StressBatch.Proofs.Text.Utf8

/-!
# What the runner with threads does

A thread of `EmbeddedRunner.threaded` finishes its job with what the workload gave, or drops it if
the workload panicked. It takes a name to have a thread: a job whose name contains a NUL gets none,
and to hand it over is a panic.
-/

namespace StressBatch

theorem nulPosition?_eq_none_iff {bytes : Bytes} : nulPosition? bytes = none ↔ 0 ∉ bytes := by
  rw [nulPosition?, List.findIdx?_eq_none_iff]
  constructor
  · intro h hzero
    simpa using h 0 hzero
  · intro h byte hbyte
    rw [beq_eq_false_iff_ne]
    rintro rfl
    exact h hbyte

theorem threadName_of_nul_free {name : String} (h : '\x00' ∉ name.toList) :
    threadName name = .ok name := by
  have hnone : nulPosition? (Text.Utf8.encode name) = none :=
    nulPosition?_eq_none_iff.mpr fun hzero => h (Text.Utf8.zero_mem_encode_iff.mp hzero)
  simp only [threadName, hnone]

theorem threadName_of_nul {name : String} (h : '\x00' ∈ name.toList) :
    ∃ panic, threadName name = .error panic := by
  cases hposition : nulPosition? (Text.Utf8.encode name) with
  | none =>
    exact absurd (Text.Utf8.zero_mem_encode_iff.mpr h) (nulPosition?_eq_none_iff.mp hposition)
  | some position =>
    simp only [threadName, hposition]
    exact ⟨_, rfl⟩

/-- Whether a runner is done with a job as soon as the job has been handed over. -/
def Submission.isOver : Submission → Bool
  | .finished _ => true
  | .dropped => true
  | _ => false

namespace EmbeddedRunner

variable {registry : Registry} {snapshot : Environment} {job : Job} {result : TestResult}

theorem nul_mem_threadName_iff : '\x00' ∈ ("embedded-" ++ job.name).toList ↔
    '\x00' ∈ job.name.toList := by
  rw [String.toList_append, List.mem_append]
  exact or_iff_right (by decide)

/-- A workload that returns has its job finished with what it gave. -/
theorem threaded_of_execute (hname : '\x00' ∉ job.name.toList)
    (hexecute : registry.execute job = .ok result) (cpus : List Nat) :
    threaded registry snapshot job cpus = .finished (result.setEnv snapshot) := by
  have hthread := threadName_of_nul_free (mt nul_mem_threadName_iff.mp hname)
  simp only [threaded, hthread, hexecute]

/-- A job with a NUL in its name is not run at all. -/
theorem threaded_of_nul (hname : '\x00' ∈ job.name.toList) (cpus : List Nat) :
    ∃ panic, threaded registry snapshot job cpus = .panicked panic := by
  obtain ⟨panic, hthread⟩ := threadName_of_nul (nul_mem_threadName_iff.mpr hname)
  exact ⟨panic, by simp only [threaded, hthread]⟩

/-- Whatever becomes of its workload, a job that has a thread is over with it. -/
theorem isOver_threaded (hname : '\x00' ∉ job.name.toList) (cpus : List Nat) :
    (threaded registry snapshot job cpus).isOver = true := by
  have hthread := threadName_of_nul_free (mt nul_mem_threadName_iff.mp hname)
  simp only [threaded, hthread]
  cases registry.execute job with
  | ok result => rfl
  | error panic => rfl

/-- Only a NUL in a name keeps a job from having a thread. -/
theorem nul_of_panicked {cpus : List Nat} {panic : Panic}
    (h : threaded registry snapshot job cpus = .panicked panic) : '\x00' ∈ job.name.toList := by
  refine Decidable.byContradiction fun hname => ?_
  have hover : (threaded registry snapshot job cpus).isOver = true := isOver_threaded hname cpus
  rw [h] at hover
  contradiction

end EmbeddedRunner

end StressBatch
