import StressBatch.Link.Payload
import StressBatch.Proofs.Msgpack.Reading
import StressBatch.Proofs.Msgpack.Record
import StressBatch.Proofs.SortedMap

/-!
# Payloads are read as they were written

Whatever a request or a reply carries is read back, as it was, from every form of its record, as
long as its numbers are 64-bit numbers. The value that is written for it is one of these forms, and
nothing but its size can keep it from being written.
-/

namespace StressBatch

open Msgpack

/-! ## Jobs -/

/-- Whether the numbers of a job are 64-bit numbers. -/
def Job.Sized (job : Job) : Prop := job.threads < Text.word64

instance (job : Job) : Decidable job.Sized := inferInstanceAs (Decidable (_ < _))

theorem ExecutionMode.choice?_name (mode : ExecutionMode) :
    Value.choice? choices (.text mode.name) = some mode := by
  cases mode <;> rfl

theorem DispatchMode.choice?_name (dispatch : DispatchMode) :
    Value.choice? choices (.text dispatch.name) = some dispatch := by
  cases dispatch <;> rfl

theorem listOf?_texts (lines : List String) :
    Value.listOf? Value.text? (.list .text lines) = some lines :=
  Value.listOf?_list fun line _ => Value.text?_text line

/-- The fields of a job's record. -/
def Job.fields (job : Job) : List RecordField :=
  [.exactly "name" (.text job.name), .exactly "threads" (.uint job.threads),
    .exactly "roles" (.list .text job.roles),
    .exactly "modes" (.list (.text ∘ ExecutionMode.name) job.modes),
    .exactly "dispatch" (.text job.dispatch.name),
    { RecordField.exactly "launch_args" (.list .text job.launchArgs) with
      omissible := job.launchArgs = [] },
    .exactly "harness" (.text job.harness)]

theorem Job.forms_toValue (job : Job) : Forms job.fields job.toValue :=
  forms_record (.give rfl (.give rfl (.give rfl (.give rfl (.give rfl (.give rfl
    (.give rfl .nil)))))))

theorem Job.ofValue?_of_forms {job : Job} (h : job.Sized) {value : Value}
    (hforms : Forms job.fields value) : Job.ofValue? value = some job := by
  obtain ⟨found, hfields, hshows⟩ := fields?_of_forms fieldNames rfl (by decide) hforms
  have hname := required_of_exactly (hshows 0 _ rfl) (Value.text?_text job.name)
  have hthreads := required_of_exactly (hshows 1 _ rfl) (Value.natBelow?_uint h)
  have hroles := required_of_exactly (hshows 2 _ rfl) (listOf?_texts job.roles)
  have hmodes := required_of_exactly (hshows 3 _ rfl)
    (Value.listOf?_list fun mode _ => ExecutionMode.choice?_name mode)
  have hdispatch := required_of_exactly (hshows 4 _ rfl) job.dispatch.choice?_name
  have hargs : found.orDefault 5 [] (Value.listOf? Value.text?) = some job.launchArgs := by
    refine orDefault_of_shows (hshows 5 _ rfl) id ?_
    rintro v rfl
    exact listOf?_texts job.launchArgs
  have hharness := required_of_exactly (hshows 6 _ rfl) (Value.text?_text job.harness)
  rw [ofValue?, hfields]
  simp [hname, hthreads, hroles, hmodes, hdispatch, hargs, hharness]

theorem limitedBySize_texts {depth : Nat} (lines : List String) :
    Value.LimitedBySize (depth + 1) (.list .text lines) :=
  Value.limitedBySize_list fun line _ => Value.limitedBySize_text line

theorem Job.limitedBySize {job : Job} (h : job.Sized) (depth : Nat) :
    job.toValue.LimitedBySize (depth + 2) := by
  refine Value.limitedBySize_record fun field hfield => ?_
  simp only [List.mem_cons, List.not_mem_nil, or_false] at hfield
  rcases hfield with rfl | rfl | rfl | rfl | rfl | rfl | rfl
  · exact Value.limitedBySize_text _
  · exact Value.limitedBySize_uint h
  · exact limitedBySize_texts _
  · exact Value.limitedBySize_list fun mode _ => Value.limitedBySize_text _
  · exact Value.limitedBySize_text _
  · exact limitedBySize_texts _
  · exact Value.limitedBySize_text _

/-! ## Maps -/

theorem SortedMap.ofValue?_toValue {α : Type} {read : Value → Option α} {value : α → Value}
    {m : SortedMap α} (h : ∀ entry ∈ m.entries, read (value entry.2) = some entry.2) :
    SortedMap.ofValue? read (m.toValue value) = some m := by
  rw [SortedMap.ofValue?, SortedMap.toValue, Value.entriesOf?_map h, Option.map_some,
    ofList_entries]

theorem SortedMap.limitedBySize {α : Type} {value : α → Value} {m : SortedMap α} {depth : Nat}
    (h : ∀ entry ∈ m.entries, (value entry.2).LimitedBySize depth) :
    (m.toValue value).LimitedBySize (depth + 1) := by
  refine Value.limitedBySize_map fun entry hentry => ?_
  obtain ⟨source, hsource, rfl⟩ := List.mem_map.mp hentry
  exact ⟨Value.limitedBySize_text source.1, h source hsource⟩

/-! ## Results -/

theorem Status.choice?_name (status : Status) :
    Value.choice? choices (.text status.name) = some status := by
  cases status <;> rfl

/-- The fields of an environment's record. -/
def Environment.fields (env : Environment) : List RecordField :=
  [.exactly "entries" (env.entries.toValue .text)]

theorem Environment.forms_toValue (env : Environment) : Forms env.fields env.toValue :=
  forms_record (.give rfl .nil)

theorem Environment.ofValue?_of_forms {env : Environment} {value : Value}
    (hforms : Forms env.fields value) : Environment.ofValue? value = some env := by
  obtain ⟨found, hfields, hshows⟩ := fields?_of_forms fieldNames rfl (by decide) hforms
  have hentries : SortedMap.ofValue? Value.text? (env.entries.toValue .text) = some env.entries :=
    SortedMap.ofValue?_toValue fun entry _ => Value.text?_text entry.2
  have hfound := required_of_exactly (hshows 0 _ rfl) hentries
  rw [ofValue?, hfields]
  simp [hfound]

theorem Environment.limitedBySize (env : Environment) (depth : Nat) :
    env.toValue.LimitedBySize (depth + 2) := by
  refine Value.limitedBySize_record fun field hfield => ?_
  obtain rfl := List.mem_singleton.mp hfield
  exact SortedMap.limitedBySize fun entry _ => Value.limitedBySize_text entry.2

/-- Whether the numbers of a result and of its job are 64-bit numbers. -/
structure TestResult.Sized (result : TestResult) : Prop where
  job : result.job.Sized
  states : ∀ entry ∈ result.states.entries, entry.2 < Text.word64

instance (result : TestResult) : Decidable result.Sized :=
  decidable_of_iff
    (result.job.Sized ∧ ∀ entry ∈ result.states.entries, entry.2 < Text.word64)
    ⟨fun h => ⟨h.1, h.2⟩, fun h => ⟨h.job, h.states⟩⟩

/-- The fields of a result's record. -/
def TestResult.fields (result : TestResult) : List RecordField :=
  [{ name := "job", holds := Forms result.job.fields },
    .exactly "status" (.text result.status.name), .exactly "states" (result.states.toValue .uint),
    { name := "env", holds := OptionalForms Environment.fields result.env,
      omissible := result.env = none },
    .exactly "messages" (.list .text result.messages), .exactly "vm_out" (.list .text result.vmOut),
    .exactly "vm_err" (.list .text result.vmErr)]

theorem TestResult.forms_toValue (result : TestResult) : Forms result.fields result.toValue := by
  have henv : OptionalForms Environment.fields result.env
      (.optional Environment.toValue result.env) := by
    cases result.env with
    | none => rfl
    | some env => exact env.forms_toValue
  exact forms_record (.give result.job.forms_toValue (.give rfl (.give rfl (.give henv (.give rfl
    (.give rfl (.give rfl .nil)))))))

theorem TestResult.ofValue?_of_forms {result : TestResult} (h : result.Sized) {value : Value}
    (hforms : Forms result.fields value) : TestResult.ofValue? value = some result := by
  obtain ⟨found, hfields, hshows⟩ := fields?_of_forms fieldNames rfl (by decide) hforms
  have hstates : SortedMap.ofValue? (Value.natBelow? Text.word64) (result.states.toValue .uint) =
      some result.states :=
    SortedMap.ofValue?_toValue fun entry hentry => Value.natBelow?_uint (h.states entry hentry)
  have hjob : found.required 0 Job.ofValue? = some result.job :=
    required_of_shows (hshows 0 _ rfl) not_false fun _ => Job.ofValue?_of_forms h.job
  have hstatus := required_of_exactly (hshows 1 _ rfl) result.status.choice?_name
  have hcounts := required_of_exactly (hshows 2 _ rfl) hstates
  have henv : found.optional 3 Environment.ofValue? = some result.env :=
    optional_of_shows (hshows 3 _ rfl) id fun _ hholds =>
      optional?_of_forms hholds fun _ _ => Environment.ofValue?_of_forms
  have hmessages := required_of_exactly (hshows 4 _ rfl) (listOf?_texts result.messages)
  have hout := required_of_exactly (hshows 5 _ rfl) (listOf?_texts result.vmOut)
  have herr := required_of_exactly (hshows 6 _ rfl) (listOf?_texts result.vmErr)
  rw [ofValue?, hfields]
  simp [hjob, hstatus, hcounts, henv, hmessages, hout, herr]

theorem TestResult.limitedBySize {result : TestResult} (h : result.Sized) (depth : Nat) :
    result.toValue.LimitedBySize (depth + 3) := by
  refine Value.limitedBySize_record fun field hfield => ?_
  simp only [List.mem_cons, List.not_mem_nil, or_false] at hfield
  rcases hfield with rfl | rfl | rfl | rfl | rfl | rfl | rfl
  · exact Job.limitedBySize h.job depth
  · exact Value.limitedBySize_text _
  · exact SortedMap.limitedBySize fun entry hentry =>
      Value.limitedBySize_uint (h.states entry hentry)
  · exact Value.limitedBySize_optional fun env _ => env.limitedBySize depth
  · exact limitedBySize_texts _
  · exact limitedBySize_texts _
  · exact limitedBySize_texts _

namespace Link

/-! ## Requests -/

/-- The fields of a pull's record. -/
def PullJob.fields (pull : PullJob) : List RecordField := [.exactly "token" (.text pull.token)]

theorem PullJob.forms_toValue (pull : PullJob) : Forms pull.fields pull.toValue :=
  forms_record (.give rfl .nil)

theorem PullJob.ofValue?_of_forms {pull : PullJob} {value : Value}
    (hforms : Forms pull.fields value) : PullJob.ofValue? value = some pull := by
  obtain ⟨found, hfields, hshows⟩ := fields?_of_forms ["token"] rfl (by decide) hforms
  have htoken := required_of_exactly (hshows 0 _ rfl) (Value.text?_text pull.token)
  rw [ofValue?, hfields]
  simp [htoken]

theorem PullJob.ofValue?_toValue (pull : PullJob) : PullJob.ofValue? pull.toValue = some pull :=
  ofValue?_of_forms pull.forms_toValue

theorem PullJob.limitedBySize (pull : PullJob) (depth : Nat) :
    pull.toValue.LimitedBySize (depth + 1) := by
  refine Value.limitedBySize_record fun field hfield => ?_
  obtain rfl := List.mem_singleton.mp hfield
  exact Value.limitedBySize_text _

/-- The fields of a push's record. -/
def PushResult.fields (push : PushResult) : List RecordField :=
  [.exactly "token" (.text push.token), { name := "result", holds := Forms push.result.fields }]

theorem PushResult.forms_toValue (push : PushResult) : Forms push.fields push.toValue :=
  forms_record (.give rfl (.give push.result.forms_toValue .nil))

theorem PushResult.ofValue?_of_forms {push : PushResult} (h : push.result.Sized) {value : Value}
    (hforms : Forms push.fields value) : PushResult.ofValue? value = some push := by
  obtain ⟨found, hfields, hshows⟩ :=
    fields?_of_forms ["token", "result"] rfl (by decide) hforms
  have htoken := required_of_exactly (hshows 0 _ rfl) (Value.text?_text push.token)
  have hresult : found.required 1 TestResult.ofValue? = some push.result :=
    required_of_shows (hshows 1 _ rfl) not_false fun _ => TestResult.ofValue?_of_forms h
  rw [ofValue?, hfields]
  simp [htoken, hresult]

theorem PushResult.ofValue?_toValue {push : PushResult} (h : push.result.Sized) :
    PushResult.ofValue? push.toValue = some push := ofValue?_of_forms h push.forms_toValue

theorem PushResult.limitedBySize {push : PushResult} (h : push.result.Sized) (depth : Nat) :
    push.toValue.LimitedBySize (depth + 4) := by
  refine Value.limitedBySize_record fun field hfield => ?_
  simp only [List.mem_cons, List.not_mem_nil, or_false] at hfield
  rcases hfield with rfl | rfl
  · exact Value.limitedBySize_text _
  · exact TestResult.limitedBySize h depth

/-! ## Replies -/

/-- The fields of the record of a reply to a pull. -/
def JobReply.fields (reply : JobReply) : List RecordField :=
  [{ name := "job", holds := OptionalForms Job.fields reply.job, omissible := reply.job = none }]

theorem JobReply.forms_toValue (reply : JobReply) : Forms reply.fields reply.toValue := by
  have hjob : OptionalForms Job.fields reply.job (.optional Job.toValue reply.job) := by
    cases reply.job with
    | none => rfl
    | some job => exact job.forms_toValue
  exact forms_record (.give hjob .nil)

theorem JobReply.ofValue?_of_forms {reply : JobReply} (h : ∀ job ∈ reply.job, job.Sized)
    {value : Value} (hforms : Forms reply.fields value) : JobReply.ofValue? value = some reply := by
  obtain ⟨found, hfields, hshows⟩ := fields?_of_forms ["job"] rfl (by decide) hforms
  have hjob : found.optional 0 Job.ofValue? = some reply.job :=
    optional_of_shows (hshows 0 _ rfl) id fun _ hholds =>
      optional?_of_forms hholds fun job hmem => Job.ofValue?_of_forms (h job hmem)
  rw [ofValue?, hfields]
  simp [hjob]

theorem JobReply.ofValue?_toValue {reply : JobReply} (h : ∀ job ∈ reply.job, job.Sized) :
    JobReply.ofValue? reply.toValue = some reply := ofValue?_of_forms h reply.forms_toValue

theorem JobReply.limitedBySize {reply : JobReply} (h : ∀ job ∈ reply.job, job.Sized)
    (depth : Nat) : reply.toValue.LimitedBySize (depth + 3) := by
  refine Value.limitedBySize_record fun field hfield => ?_
  obtain rfl := List.mem_singleton.mp hfield
  exact Value.limitedBySize_optional fun job hjob => Job.limitedBySize (h job hjob) depth

/-- The fields of a refusal's record. -/
def ErrorReply.fields (reply : ErrorReply) : List RecordField :=
  [.exactly "reason" (.text reply.reason)]

theorem ErrorReply.forms_toValue (reply : ErrorReply) : Forms reply.fields reply.toValue :=
  forms_record (.give rfl .nil)

theorem ErrorReply.ofValue?_of_forms {reply : ErrorReply} {value : Value}
    (hforms : Forms reply.fields value) : ErrorReply.ofValue? value = some reply := by
  obtain ⟨found, hfields, hshows⟩ := fields?_of_forms ["reason"] rfl (by decide) hforms
  have hreason := required_of_exactly (hshows 0 _ rfl) (Value.text?_text reply.reason)
  rw [ofValue?, hfields]
  simp [hreason]

theorem ErrorReply.ofValue?_toValue (reply : ErrorReply) :
    ErrorReply.ofValue? reply.toValue = some reply := ofValue?_of_forms reply.forms_toValue

theorem ErrorReply.limitedBySize (reply : ErrorReply) (depth : Nat) :
    reply.toValue.LimitedBySize (depth + 1) := by
  refine Value.limitedBySize_record fun field hfield => ?_
  obtain rfl := List.mem_singleton.mp hfield
  exact Value.limitedBySize_text _

end Link

end StressBatch
