import StressBatch.Msgpack.Record
import StressBatch.TestResult
import StressBatch.Text.Decimal

/-!
# Payloads

What requests and replies carry, and the values it is written as. Every payload is a record that is
written as a map of its fields in order, and choices are written by name. A job is taken as it
comes; whether it is sound is another question.
-/

namespace StressBatch

open Msgpack

/-! ## Jobs -/

/-- The value of a job. -/
def Job.toValue (job : Job) : Value :=
  .record [("name", .text job.name), ("threads", .uint job.threads),
    ("roles", .list .text job.roles), ("modes", .list (.text ∘ ExecutionMode.name) job.modes),
    ("dispatch", .text job.dispatch.name), ("launch_args", .list .text job.launchArgs),
    ("harness", .text job.harness)]

/-- Reads a job. Only the launch arguments may be left out. -/
def Job.ofValue? (value : Value) : Option Job := do
  let fields ← value.fields? fieldNames
  return {
    name := ← fields.required 0 Value.text?
    threads := ← fields.required 1 (Value.natBelow? Text.word64)
    roles := ← fields.required 2 (Value.listOf? Value.text?)
    modes := ← fields.required 3 (Value.listOf? (Value.choice? ExecutionMode.choices))
    dispatch := ← fields.required 4 (Value.choice? DispatchMode.choices)
    launchArgs := ← fields.orDefault 5 [] (Value.listOf? Value.text?)
    harness := ← fields.required 6 Value.text? }

/-! ## Results -/

/-- The value of a map from texts. -/
def SortedMap.toValue {α : Type} (value : α → Value) (m : SortedMap α) : Value :=
  .map (m.entries.map fun entry => (.text entry.1, value entry.2))

/-- Reads a map from texts; of two entries with one key the later counts. -/
def SortedMap.ofValue? {α : Type} (read : Value → Option α) (value : Value) :
    Option (SortedMap α) :=
  (value.entriesOf? read).map ofList

/-- The names of the fields of an environment. -/
def Environment.fieldNames : List String := ["entries"]

/-- The value of an environment. -/
def Environment.toValue (env : Environment) : Value :=
  .record [("entries", env.entries.toValue .text)]

/-- Reads an environment. -/
def Environment.ofValue? (value : Value) : Option Environment := do
  let fields ← value.fields? fieldNames
  return ⟨← fields.required 0 (SortedMap.ofValue? Value.text?)⟩

/-- The names of the fields of a result, in order of their positions. -/
def TestResult.fieldNames : List String :=
  ["job", "status", "states", "env", "messages", "vm_out", "vm_err"]

/-- The value of a result. -/
def TestResult.toValue (result : TestResult) : Value :=
  .record [("job", result.job.toValue), ("status", .text result.status.name),
    ("states", result.states.toValue .uint), ("env", .optional Environment.toValue result.env),
    ("messages", .list .text result.messages), ("vm_out", .list .text result.vmOut),
    ("vm_err", .list .text result.vmErr)]

/-- Reads a result. Blank lines stay where they are. -/
def TestResult.ofValue? (value : Value) : Option TestResult := do
  let fields ← value.fields? fieldNames
  return {
    job := ← fields.required 0 Job.ofValue?
    status := ← fields.required 1 (Value.choice? Status.choices)
    states := ← fields.required 2 (SortedMap.ofValue? (Value.natBelow? Text.word64))
    env := ← fields.optional 3 Environment.ofValue?
    messages := ← fields.required 4 (Value.listOf? Value.text?)
    vmOut := ← fields.required 5 (Value.listOf? Value.text?)
    vmErr := ← fields.required 6 (Value.listOf? Value.text?) }

namespace Link

/-! ## Requests -/

/-- A worker asks for its job. -/
structure PullJob where
  /-- The worker's token. -/
  token : String
  deriving DecidableEq, Repr

/-- The value of a pull. -/
def PullJob.toValue (pull : PullJob) : Value := .record [("token", .text pull.token)]

/-- Reads a pull. -/
def PullJob.ofValue? (value : Value) : Option PullJob := do
  let fields ← value.fields? ["token"]
  return ⟨← fields.required 0 Value.text?⟩

/-- A worker hands its result over. -/
structure PushResult where
  /-- The worker's token. -/
  token : String
  /-- Its result. -/
  result : TestResult
  deriving DecidableEq, Repr

/-- The value of a push. -/
def PushResult.toValue (push : PushResult) : Value :=
  .record [("token", .text push.token), ("result", push.result.toValue)]

/-- Reads a push. -/
def PushResult.ofValue? (value : Value) : Option PushResult := do
  let fields ← value.fields? ["token", "result"]
  return ⟨← fields.required 0 Value.text?, ← fields.required 1 TestResult.ofValue?⟩

/-! ## Replies -/

/-- The reply to a pull: the job, unless it was handed out before. -/
structure JobReply where
  /-- The job. -/
  job : Option Job
  deriving DecidableEq, Repr

/-- The value of a reply to a pull. -/
def JobReply.toValue (reply : JobReply) : Value :=
  .record [("job", .optional Job.toValue reply.job)]

/-- Reads a reply to a pull. -/
def JobReply.ofValue? (value : Value) : Option JobReply := do
  let fields ← value.fields? ["job"]
  return ⟨← fields.optional 0 Job.ofValue?⟩

/-- The reply to a request that is refused. -/
structure ErrorReply where
  /-- Why it is refused. -/
  reason : String
  deriving DecidableEq, Repr

/-- The value of a refusal. -/
def ErrorReply.toValue (reply : ErrorReply) : Value := .record [("reason", .text reply.reason)]

/-- Reads a refusal. -/
def ErrorReply.ofValue? (value : Value) : Option ErrorReply := do
  let fields ← value.fields? ["reason"]
  return ⟨← fields.required 0 Value.text?⟩

/-- Reads a payload that says nothing. -/
def unitOfValue? : Value → Option Unit
  | .nil => some ()
  | _ => none

end Link

end StressBatch
