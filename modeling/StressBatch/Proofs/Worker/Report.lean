import StressBatch.Proofs.TestResult
import StressBatch.Proofs.Worker.Life

/-!
# What a terminated worker reports

The two captures of a process are read once it has ended, and their lines that are not blank go into
the one result that is passed on for its worker. In which of the three lists of the result they end
up depends on how the process ended and on whether a result had been handed over, but they all end
up there, each once.
-/

namespace StressBatch

/-! ## Lines -/

/-- The messages that describe how a process ended are not blank, so they are never dropped. -/
theorem Ending.isBlank_message (ending : Ending) : Text.isBlank ending.message = false := by
  have hexited : Text.isBlank "Worker exited with code " = false := by decide +kernel
  have hsignaled : Text.isBlank "Worker terminated abnormally (" = false := by decide +kernel
  unfold message
  cases ending with
  | exited code => rw [Text.isBlank_append, hexited, Bool.false_and]
  | signaled signal =>
    rw [Text.isBlank_append, Text.isBlank_append, hsignaled, Bool.false_and, Bool.false_and]

theorem Violation.isBlank_message (violation : Violation) :
    Text.isBlank violation.message = false := by
  have hlabel : Text.isBlank "protocol violation by " = false := by decide +kernel
  unfold message
  simp only [Text.isBlank_append, hlabel, Bool.false_and]

/-- A stream that cannot be read counts as one line, which is kept. -/
theorem keptLines_unreadable (stream : String) (fault : IoFault) :
    TestResult.keptLines ((Capture.unreadable fault).lines stream) =
      ["Failed to read " ++ stream ++ ": " ++ fault.message] := by
  have hlabel : Text.isBlank "Failed to read " = false := by decide +kernel
  exact TestResult.keptLines_singleton (by simp [hlabel])

/-- The lines of both captures that are not blank. -/
def Exit.captured (exit : Exit) : List String :=
  TestResult.keptLines exit.outLines ++ TestResult.keptLines exit.errLines

/-- All lines of a result, in whichever list they are. -/
def TestResult.lines (result : TestResult) : List String :=
  result.messages ++ result.vmOut ++ result.vmErr

namespace Worker

/-! ## Results -/

section Results

variable (worker : Worker) (exit : Exit)

theorem crashResult_eq : worker.crashResult exit =
    { job := worker.job, status := .vmError
      messages := exit.ending.message :: exit.captured } := by
  unfold crashResult failureResult Exit.captured
  rw [TestResult.failure_singleton _ _ exit.ending.isBlank_message]
  simp [TestResult.addMessages]

theorem violationResult_eq (violation : Violation) : (worker.violationResult violation).1 =
    { job := worker.job, status := .vmError, messages := [violation.message],
      vmOut := TestResult.keptLines worker.heldOut,
      vmErr := TestResult.keptLines worker.heldErr } := by
  unfold violationResult failureResult
  rw [TestResult.failure_singleton _ _ violation.isBlank_message]
  rfl

/-- The lines of an own result are those that the peer handed over and those that were captured. -/
theorem lines_ownResult (result : TestResult) :
    (ownResult result exit).lines.Perm (result.lines ++ exit.captured) := by
  have hlines : (ownResult result exit).lines =
      result.messages ++ (result.vmOut ++ TestResult.keptLines exit.outLines) ++
        (result.vmErr ++ TestResult.keptLines exit.errLines) := rfl
  rw [hlines]
  unfold TestResult.lines Exit.captured
  simp only [List.append_assoc]
  -- the captured output moves behind the errors that the peer handed over
  refine List.Perm.append_left _ (List.Perm.append_left _ ?_)
  exact List.perm_append_comm_assoc _ _ _

end Results

/-! ## Checks on a worker whose process has ended -/

section Checks

variable {worker : Worker} {exit : Exit}

theorem check_of_ended (hphase : worker.phase = .started (.ended exit)) :
    worker.check = worker.conclude exit := by
  unfold check
  rw [hphase]

/-- The process exited with code 0, and a result had been handed over. -/
theorem check_of_recorded (hphase : worker.phase = .started (.ended exit))
    (hclean : exit.ending = .exited 0) {result : TestResult}
    (hslot : worker.slot = .delivered result) :
    worker.check = ({ worker with slot := .consumed, phase := .completed true },
      .reported (ownResult result exit)) := by
  rw [check_of_ended hphase]
  unfold conclude
  rw [hclean, hslot]
  rfl

/-- The process exited with code 0, and no result had been handed over. -/
theorem check_of_silent (hphase : worker.phase = .started (.ended exit))
    (hclean : exit.ending = .exited 0) (hslot : worker.slot = .pending) :
    worker.check = ({ worker with
        slot := .consumed
        heldOut := exit.outLines
        heldErr := exit.errLines
        phase := .completed false }, .violated ⟨worker.token, .noResult⟩) := by
  rw [check_of_ended hphase]
  unfold conclude
  rw [hclean, hslot]
  rfl

/-- The process exited with another code, or a signal put an end to it. -/
theorem check_of_crashed (hphase : worker.phase = .started (.ended exit))
    (hcrashed : exit.ending ≠ .exited 0) :
    worker.check = ({ worker with slot := .consumed, phase := .completed false },
      .reported { job := worker.job, status := .vmError,
                  messages := exit.ending.message :: exit.captured }) := by
  have hnot : ¬ exit.ending.isClean = true := by
    intro hclean
    cases hending : exit.ending with
    | exited code =>
      rw [hending] at hclean hcrashed
      exact hcrashed (congrArg Ending.exited (beq_iff_eq.mp hclean))
    | signaled signal =>
      rw [hending] at hclean
      contradiction
  rw [check_of_ended hphase, ← crashResult_eq]
  unfold conclude
  rw [if_neg hnot]

theorem check_of_refused {fault : IoFault} (hphase : worker.phase = .started (.refused fault)) :
    worker.check = ({ worker with phase := .completed false },
      .reported { job := worker.job, status := .vmError,
                  messages := ["Failed to launch worker: " ++ fault.message] }) := by
  have hlabel : Text.isBlank "Failed to launch worker: " = false := by decide +kernel
  unfold check
  rw [hphase]
  simp only [failureResult]
  rw [TestResult.failure_singleton _ _ (by simp [hlabel])]

theorem check_of_lost {fault : IoFault} (hphase : worker.phase = .started (.lost fault)) :
    worker.check = ({ worker with phase := .completed false },
      .reported { job := worker.job, status := .vmError,
                  messages := ["Failed to collect worker exit status: " ++ fault.message] }) := by
  have hlabel : Text.isBlank "Failed to collect worker exit status: " = false := by decide +kernel
  unfold check
  rw [hphase]
  simp only [failureResult]
  rw [TestResult.failure_singleton _ _ (by simp [hlabel])]

end Checks

/-! ## The stash -/

section Stash

variable {worker : Worker} {passed : Bool}

/-- Only its peer, and whoever wants a stand-in, can still change a worker that is over. -/
theorem call_of_completed (h : worker.phase = .completed passed) {call : Call}
    (hjob : call ≠ .takeJob) (hresult : call.result? = none)
    (hstandIn : ∀ violation, call ≠ .standIn violation) : (worker.call call).1 = worker := by
  cases call with
  | start host => exact start_of_ne_created host (by simp [h])
  | takeJob => contradiction
  | record result => contradiction
  | check => exact congrArg Prod.fst (check_of_completed h)
  | kill => exact mapProcess_of_completed h _
  | standIn violation => exact absurd rfl (hstandIn violation)
  | finish exit => exact mapProcess_of_completed h _
  | lose fault => exact mapProcess_of_completed h _

/-- What is held back for a stand-in stays until a stand-in is made. -/
theorem violationResult_call (h : worker.phase = .completed passed) {call : Call}
    (hcall : ∀ violation, call ≠ .standIn violation) (violation : Violation) :
    ((worker.call call).1.violationResult violation).1 = (worker.violationResult violation).1 := by
  cases call with
  | standIn other => exact absurd rfl (hcall other)
  | takeJob =>
    simp only [Worker.call, takeJob]
    split <;> rfl
  | record result =>
    cases hrecord : worker.record result with
    | ok after =>
      obtain ⟨-, rfl⟩ := record_eq_ok hrecord
      rw [call_record_of_ok hrecord]
      rfl
    | error other => rw [call_record_of_error hrecord]
  | _ => rw [call_of_completed h (by simp) rfl (by simp)]

theorem violationResult_life (h : worker.phase = .completed passed) {calls : List Call}
    (hcalls : ∀ violation, .standIn violation ∉ calls) (violation : Violation) :
    ((worker.life calls).1.violationResult violation).1 =
      (worker.violationResult violation).1 := by
  induction calls using List.reverseRecOn with
  | nil => rfl
  | append_singleton calls call ih =>
    have hbefore : ∀ violation, .standIn violation ∉ calls :=
      fun other hmem => hcalls other (List.mem_append_left _ hmem)
    have hcall : ∀ violation, call ≠ .standIn violation := by
      rintro other rfl
      exact hcalls other (List.mem_append_right _ (List.mem_singleton_self _))
    rw [life_concat, violationResult_call (completed_life h calls) hcall, ih hbefore]

/-- Once a stand-in has been made, another one carries no lines but its message. -/
theorem violationResult_again (worker : Worker) (violation other : Violation) :
    ((worker.violationResult violation).2.violationResult other).1 =
      { job := worker.job, status := .vmError, messages := [other.message] } := by
  rw [violationResult_eq]
  rfl

end Stash

/-! ## Reports -/

/-- The result that comes of a worker that is over: the one that the check finds, or the one that
stands in for it. -/
def final? (worker : Worker) : Option TestResult :=
  match worker.check.2 with
  | .reported result => some result
  | .violated violation => some (worker.check.1.violationResult violation).1
  | _ => none

/-- What is in the result of a worker whose process has ended besides the captured lines: what the
peer handed over, or one message. -/
def ownLines (worker : Worker) (exit : Exit) (recorded : Option TestResult) : List String :=
  if exit.ending = .exited 0 then
    match recorded with
    | some result => result.lines
    | none => [Violation.message ⟨worker.token, .noResult⟩]
  else [exit.ending.message]

/-- However its process ended, each line that was captured of a worker is once in its result. -/
theorem lines_final {worker : Worker} {exit : Exit} {recorded : Option TestResult}
    (hphase : worker.phase = .started (.ended exit)) (hslot : worker.slot = slotOf recorded) :
    ∃ result, worker.final? = some result ∧
      result.lines.Perm (worker.ownLines exit recorded ++ exit.captured) := by
  unfold final? ownLines
  by_cases hclean : exit.ending = .exited 0
  · rw [if_pos hclean]
    cases recorded with
    | some result =>
      rw [check_of_recorded hphase hclean hslot]
      exact ⟨_, rfl, lines_ownResult exit result⟩
    | none =>
      rw [check_of_silent hphase hclean hslot]
      refine ⟨_, rfl, ?_⟩
      rw [violationResult_eq]
      unfold TestResult.lines Exit.captured
      rw [List.append_assoc]
  · rw [if_neg hclean, check_of_crashed hphase hclean]
    refine ⟨_, rfl, List.Perm.of_eq ?_⟩
    unfold TestResult.lines
    simp

/-- What is reported of a worker whose process has been started and is over, with whatever its peer
has handed over by then. A process that exited with code 0 has its output added to the peer's
result; if there is none, the protocol has been broken and the output is kept, whatever is done to
the worker meanwhile, for the result that stands in. Any other end makes a message of all output,
and the peer's result is not used. A process that was never started, or of which there is no news,
has one message. So each line of output that is not blank is passed on once. -/
theorem terminated_worker_report {worker : Worker} {process : Process}
    {recorded : Option TestResult} (hphase : worker.phase = .started process)
    (hslot : worker.slot = slotOf recorded) :
    let found := worker.check.2
    let out (exit : Exit) := TestResult.keptLines exit.outLines
    let err (exit : Exit) := TestResult.keptLines exit.errLines
    -- exit code 0, with a result
    (∀ exit result, process = .ended exit → exit.ending = .exited 0 → recorded = some result →
      found = .reported { result with
        vmOut := result.vmOut ++ out exit
        vmErr := result.vmErr ++ err exit }) ∧
    -- exit code 0, without one
    (∀ exit, process = .ended exit → exit.ending = .exited 0 → recorded = none →
      found = .violated ⟨worker.token, .noResult⟩ ∧
      ∀ calls : List Call, (∀ violation, .standIn violation ∉ calls) → ∀ violation : Violation,
        let later := (worker.check.1.life calls).1
        (later.violationResult violation).1 =
          { job := worker.job, status := .vmError, messages := [violation.message],
            vmOut := out exit, vmErr := err exit } ∧
        ∀ other, ((later.violationResult violation).2.violationResult other).1 =
          { job := worker.job, status := .vmError, messages := [other.message] }) ∧
    -- another exit code, or a signal
    (∀ exit, process = .ended exit → exit.ending ≠ .exited 0 →
      found = .reported
        { job := worker.job, status := .vmError,
          messages := exit.ending.message :: (out exit ++ err exit) }) ∧
    -- no process, or no news of it
    (∀ fault, process = .refused fault → found = .reported
      { job := worker.job, status := .vmError,
        messages := ["Failed to launch worker: " ++ fault.message] }) ∧
    (∀ fault, process = .lost fault → found = .reported
      { job := worker.job, status := .vmError,
        messages := ["Failed to collect worker exit status: " ++ fault.message] }) ∧
    -- a capture that cannot be read
    (∀ (exit : Exit) (fault : IoFault),
      (exit.out = .unreadable fault →
        out exit = ["Failed to read stdout: " ++ fault.message]) ∧
      (exit.err = .unreadable fault →
        err exit = ["Failed to read stderr: " ++ fault.message])) ∧
    -- no line is lost, and none is passed on twice
    (∀ exit, process = .ended exit → ∃ result, worker.final? = some result ∧
      result.lines.Perm (worker.ownLines exit recorded ++ (out exit ++ err exit))) := by
  intro found out err
  refine ⟨?_, ?_, ?_, ?_, ?_, ?_, ?_⟩
  · -- exit code 0, with a result
    rintro exit result rfl hclean rfl
    exact congrArg Prod.snd (check_of_recorded hphase hclean hslot)
  · -- exit code 0, without one
    rintro exit rfl hclean rfl
    have hcheck := check_of_silent hphase hclean hslot
    have hdone : worker.check.1.phase = .completed false := by rw [hcheck]
    refine ⟨congrArg Prod.snd hcheck, fun calls hcalls violation => ⟨?_, fun other => ?_⟩⟩
    · rw [violationResult_life hdone hcalls, hcheck, violationResult_eq]
    · have hjob : (worker.check.1.life calls).1.job = worker.job := by
        have hkept := violationResult_life hdone hcalls violation
        rw [violationResult_eq, violationResult_eq] at hkept
        rw [(TestResult.mk.inj hkept).1, hcheck]
      rw [violationResult_again, hjob]
  · -- another exit code, or a signal
    rintro exit rfl hcrashed
    exact congrArg Prod.snd (check_of_crashed hphase hcrashed)
  · rintro fault rfl
    exact congrArg Prod.snd (check_of_refused hphase)
  · rintro fault rfl
    exact congrArg Prod.snd (check_of_lost hphase)
  · -- a capture that cannot be read
    intro exit fault
    constructor
    · intro hout
      simp only [out, Exit.outLines, hout]
      exact keptLines_unreadable "stdout" fault
    · intro herr
      simp only [err, Exit.errLines, herr]
      exact keptLines_unreadable "stderr" fault
  · rintro exit rfl
    exact lines_final hphase hslot

/-- The end of a process whose output has a blank line in it, and whose errors cannot be read. -/
def partlyReadable : Exit :=
  ⟨.exited 0, .bytes (Text.Utf8.encode "one\n \ntwo\n"), .unreadable .notFound⟩

/-- A worker whose process has ended so before anything came from its peer. -/
def silentWorker : Worker := { patientWorker with phase := .started (.ended partlyReadable) }

theorem terminated_worker_report_silent :
    silentWorker.phase = .started (.ended partlyReadable) ∧ silentWorker.slot = slotOf none ∧
    silentWorker.check.2 = .violated ⟨"fork-token-1", .noResult⟩ ∧
    ((silentWorker.check.1.life [.kill, .takeJob, .check]).1.violationResult
      ⟨"fork-token-1", .noResult⟩).1 =
      { job := default, status := .vmError,
        messages := ["protocol violation by fork-token-1: " ++
          "worker exited cleanly without publishing a result"],
        vmOut := ["one", "two"],
        vmErr := ["Failed to read stderr: No such file or directory (os error 2)"] } := by
  have hphase : silentWorker.phase = .started (.ended partlyReadable) := rfl
  have hslot : silentWorker.slot = slotOf none := rfl
  obtain ⟨-, hsilent, -⟩ := terminated_worker_report hphase hslot
  obtain ⟨hfound, hkept⟩ := hsilent partlyReadable rfl rfl rfl
  obtain ⟨hstandIn, -⟩ :=
    hkept [.kill, .takeJob, .check] (by simp) ⟨"fork-token-1", .noResult⟩
  have hout : TestResult.keptLines partlyReadable.outLines = ["one", "two"] := by decide +kernel
  have herr : TestResult.keptLines partlyReadable.errLines =
      ["Failed to read stderr: No such file or directory (os error 2)"] := by decide +kernel
  simp only [hout, herr] at hstandIn
  exact ⟨hphase, hslot, hfound, hstandIn⟩

end Worker

end StressBatch
