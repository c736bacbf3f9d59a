import StressBatch.Proofs.Link.Envelope
import StressBatch.Proofs.Link.Payload

/-!
# Payloads go through an envelope and back

Whatever the requests and replies of the link carry is read back, as it was, from any envelope that
is made of it. The format sets a bound to every text and every list on its own: each has to be
shorter than 2^32. There is no bound on a payload as a whole.
-/

namespace StressBatch

open Msgpack

/-! ## What there is room for -/

/-- Whether the format has room for the keys of a map. -/
def SortedMap.KeysFit {α : Type} (m : SortedMap α) : Prop :=
  m.size < Value.sizeBound ∧ ∀ entry ∈ m.entries, TextFits entry.1

instance {α : Type} (m : SortedMap α) : Decidable m.KeysFit := inferInstanceAs (Decidable (_ ∧ _))

/-- Whether the format has room for a job. -/
structure Job.Fits (job : Job) : Prop where
  name : TextFits job.name
  threads : job.Sized
  roles : TextsFit job.roles
  modes : job.modes.length < Value.sizeBound
  launchArgs : TextsFit job.launchArgs
  harness : TextFits job.harness

/-- Whether the format has room for an environment. -/
structure Environment.Fits (env : Environment) : Prop where
  keys : env.entries.KeysFit
  values : ∀ entry ∈ env.entries.entries, TextFits entry.2

/-- Whether the format has room for a result. -/
structure TestResult.Fits (result : TestResult) : Prop where
  job : result.job.Fits
  labels : result.states.KeysFit
  counts : ∀ entry ∈ result.states.entries, entry.2 < Text.word64
  env : ∀ env ∈ result.env, env.Fits
  messages : TextsFit result.messages
  vmOut : TextsFit result.vmOut
  vmErr : TextsFit result.vmErr

theorem TestResult.Fits.sized {result : TestResult} (h : result.Fits) : result.Sized :=
  ⟨h.job.threads, h.counts⟩

section Writable

variable {depth : Nat}

theorem SortedMap.writable_toValue {α : Type} {value : α → Value} {m : SortedMap α}
    (hkeys : m.KeysFit) (h : ∀ entry ∈ m.entries, (value entry.2).Writable depth) :
    (m.toValue value).Writable (depth + 1) := by
  have hlength : (m.entries.map fun entry => (Value.text entry.1, value entry.2)).length <
      Value.sizeBound := by
    rw [List.length_map]
    exact hkeys.1
  refine Value.writable_map hlength fun entry hentry => ?_
  obtain ⟨source, hsource, rfl⟩ := List.mem_map.mp hentry
  exact ⟨Value.writable_text (hkeys.2 source hsource), h source hsource⟩

theorem Job.writable_toValue {job : Job} (h : job.Fits) : job.toValue.Writable (depth + 2) := by
  have hmodes : ∀ mode ∈ job.modes, (Value.text (ExecutionMode.name mode)).Writable depth := by
    intro mode _
    cases mode <;> exact Value.writable_text (by decide)
  have hdispatch : (Value.text job.dispatch.name).Writable (depth + 1) := by
    cases job.dispatch <;> exact Value.writable_text (by decide)
  refine Value.writable_record (by decide : TextsFit Job.fieldNames) fun field hfield => ?_
  simp only [List.mem_cons, List.not_mem_nil, or_false] at hfield
  rcases hfield with rfl | rfl | rfl | rfl | rfl | rfl | rfl
  · exact Value.writable_text h.name
  · exact h.threads
  · exact Value.writable_texts h.roles
  · exact Value.writable_list h.modes hmodes
  · exact hdispatch
  · exact Value.writable_texts h.launchArgs
  · exact Value.writable_text h.harness

theorem Environment.writable_toValue {env : Environment} (h : env.Fits) :
    env.toValue.Writable (depth + 2) := by
  have hentries : (env.entries.toValue .text).Writable (depth + 1) :=
    SortedMap.writable_toValue h.keys fun entry hentry =>
      Value.writable_text (h.values entry hentry)
  refine Value.writable_record (by decide : TextsFit Environment.fieldNames) fun field hfield => ?_
  obtain rfl := List.mem_singleton.mp hfield
  exact hentries

theorem TestResult.writable_toValue {result : TestResult} (h : result.Fits) :
    result.toValue.Writable (depth + 3) := by
  have hstatus : (Value.text result.status.name).Writable (depth + 2) := by
    cases result.status <;> exact Value.writable_text (by decide)
  have hstates : (result.states.toValue .uint).Writable (depth + 2) :=
    SortedMap.writable_toValue h.labels fun entry hentry => h.counts entry hentry
  have henv : (Value.optional Environment.toValue result.env).Writable (depth + 2) :=
    Value.writable_optional fun env henv => Environment.writable_toValue (h.env env henv)
  refine Value.writable_record (by decide : TextsFit TestResult.fieldNames) fun field hfield => ?_
  simp only [List.mem_cons, List.not_mem_nil, or_false] at hfield
  rcases hfield with rfl | rfl | rfl | rfl | rfl | rfl | rfl
  · exact Job.writable_toValue h.job
  · exact hstatus
  · exact hstates
  · exact henv
  · exact Value.writable_texts h.messages
  · exact Value.writable_texts h.vmOut
  · exact Value.writable_texts h.vmErr

end Writable

namespace Link

theorem PullJob.writable_toValue {pull : PullJob} (h : TextFits pull.token) {depth : Nat} :
    pull.toValue.Writable (depth + 1) := by
  refine Value.writable_record (by decide : TextsFit ["token"]) fun field hfield => ?_
  obtain rfl := List.mem_singleton.mp hfield
  exact Value.writable_text h

theorem JobReply.writable_toValue {reply : JobReply} (h : ∀ job ∈ reply.job, job.Fits)
    {depth : Nat} : reply.toValue.Writable (depth + 3) := by
  refine Value.writable_record (by decide : TextsFit ["job"]) fun field hfield => ?_
  obtain rfl := List.mem_singleton.mp hfield
  exact Value.writable_optional fun job hjob => Job.writable_toValue (h job hjob)

theorem PushResult.writable_toValue {push : PushResult} (htoken : TextFits push.token)
    (hresult : push.result.Fits) {depth : Nat} : push.toValue.Writable (depth + 4) := by
  refine Value.writable_record (by decide : TextsFit ["token", "result"]) fun field hfield => ?_
  simp only [List.mem_cons, List.not_mem_nil, or_false] at hfield
  rcases hfield with rfl | rfl
  · exact Value.writable_text htoken
  · exact TestResult.writable_toValue hresult

theorem ErrorReply.writable_toValue {reply : ErrorReply} (h : TextFits reply.reason)
    {depth : Nat} : reply.toValue.Writable (depth + 1) := by
  refine Value.writable_record (by decide : TextsFit ["reason"]) fun field hfield => ?_
  obtain rfl := List.mem_singleton.mp hfield
  exact Value.writable_text h

/-! ## Through the envelope -/

/-- Whether every envelope that is made of a payload, request or reply, is decoded to `a`. -/
def Conveys {α : Type} (payload : Value) (read : Value → Option α) (a : α) : Prop :=
  (∀ stamp topic, (Envelope.request stamp topic payload).decode? read = some a) ∧
    ∀ request now topic, (Envelope.reply request now topic payload).decode? read = some a

theorem conveys_of_writable {α : Type} {payload : Value} {read : Value → Option α} {a : α}
    (hwritable : payload.Writable maxDepth) (hread : read payload = some a) :
    Conveys payload read a := by
  have hdecoded : (Value.ofBytes? payload.encode).bind read = some a := by
    rw [Value.ofBytes?_encode hwritable, Option.bind_some, hread]
  exact ⟨fun _ _ => hdecoded, fun _ _ _ => hdecoded⟩

/-- Whatever a request or a reply carries is decoded to just that, whichever envelope it travels in:
the token of a pull, the optional job of its answer, the token and the whole result of a push, the
reason of a refusal, and the payload that says nothing. -/
theorem payload_round_trip :
    (∀ pull : PullJob, TextFits pull.token → Conveys pull.toValue PullJob.ofValue? pull) ∧
    (∀ reply : JobReply, (∀ job ∈ reply.job, job.Fits) →
      Conveys reply.toValue JobReply.ofValue? reply) ∧
    (∀ push : PushResult, TextFits push.token → push.result.Fits →
      Conveys push.toValue PushResult.ofValue? push) ∧
    (∀ refusal : ErrorReply, TextFits refusal.reason →
      Conveys refusal.toValue ErrorReply.ofValue? refusal) ∧
    Conveys .nil unitOfValue? () := by
  refine ⟨fun pull htoken => ?_, fun reply hjob => ?_, fun push htoken hresult => ?_,
    fun refusal hreason => ?_, ?_⟩
  · exact conveys_of_writable (PullJob.writable_toValue htoken) pull.ofValue?_toValue
  · have hsized : ∀ job ∈ reply.job, job.Sized := fun job hmem => (hjob job hmem).threads
    exact conveys_of_writable (JobReply.writable_toValue hjob) (JobReply.ofValue?_toValue hsized)
  · exact conveys_of_writable (PushResult.writable_toValue htoken hresult)
      (PushResult.ofValue?_toValue hresult.sized)
  · exact conveys_of_writable (ErrorReply.writable_toValue hreason) refusal.ofValue?_toValue
  · exact conveys_of_writable trivial rfl

/-- A job that asks for as many threads as can be counted. -/
def widestJob : Job where
  name := "Wide"
  threads := 0xffffffffffffffff
  roles := ["left", ""]
  modes := [.interpreted, .tier1, .tier2]
  dispatch := .forked
  launchArgs := ["-Xint"]
  harness := "häkchen"

/-- A result in which one state has been observed as often as can be counted. -/
def widestResult : TestResult where
  job := widestJob
  status := .checkTestError
  states := (SortedMap.empty.insert "2" 0xffffffffffffffff).insert "10" 0
  env := some (Environment.empty.put "os" "linux")
  messages := ["", "done"]

theorem widestJob_fits : widestJob.Fits :=
  ⟨by decide, by decide, by decide, by decide, by decide, by decide⟩

theorem widestResult_fits : widestResult.Fits where
  job := widestJob_fits
  labels := by decide +kernel
  counts := by decide +kernel
  env := by
    rintro env ⟨⟩
    exact ⟨by decide +kernel, by decide +kernel⟩
  messages := by decide
  vmOut := by decide
  vmErr := by decide

theorem payload_round_trip_widest :
    Conveys (⟨"fork-token-1"⟩ : PullJob).toValue PullJob.ofValue? ⟨"fork-token-1"⟩ ∧
      Conveys (⟨some widestJob⟩ : JobReply).toValue JobReply.ofValue? ⟨some widestJob⟩ ∧
      Conveys (⟨"fork-token-1", widestResult⟩ : PushResult).toValue PushResult.ofValue?
        ⟨"fork-token-1", widestResult⟩ ∧
      Conveys (⟨"unknown token: "⟩ : ErrorReply).toValue ErrorReply.ofValue?
        ⟨"unknown token: "⟩ := by
  obtain ⟨hpull, hreply, hpush, hrefusal, -⟩ := payload_round_trip
  refine ⟨hpull _ (by decide), hreply _ ?_, hpush _ (by decide) widestResult_fits,
    hrefusal _ (by decide)⟩
  rintro job ⟨⟩
  exact widestJob_fits

end Link

end StressBatch
