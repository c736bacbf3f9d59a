import StressBatch.Link.Client
import StressBatch.Proofs.Link.Envelope
import StressBatch.Proofs.Link.Payload

/-!
# A call over the link is a call on the service

A client that asks a service over the network gets what the service itself would have answered, and
the service is asked once, for just that. Only a refusal comes back as something else: as a breach
of the protocol that gives the text of the failure.

The request and the reply each pass through the same stages: the payload is written, then the
envelope, then its frames; the other side takes the frames apart, reads the envelope, its version
and topic, and at last the payload. Each stage undoes its counterpart.
-/

namespace StressBatch.Link

section

variable {σ : Type} {service : Service σ} {s : σ} {identity : Bytes} {now : Time.Timestamp}
  {stamp : Envelope.Stamp} {token : Token} {result : TestResult} {request : Envelope}
  {asked : Request} {topic : String} {failure : Failure}

/-- What a caller at the other end of the link gets to know of a failure. -/
def Failure.relayed (failure : Failure) : Failure := .protocol failure.message

/-- The topics of all requests and replies. -/
def topics : List String := [pullTopic, jobTopic, pushTopic, ackTopic, errorTopic]

theorem deliverable_of_topic (htopic : request.topic ∈ topics) (hsound : request.timestamp.Sound)
    (hfits : request.Fits) : request.Deliverable := by
  have htopics : ∀ topic ∈ topics, topic ≠ "" ∧
      (Text.Utf8.encode topic).length < Msgpack.Value.sizeBound := by decide
  obtain ⟨hne, hlength⟩ := htopics _ htopic
  exact ⟨hsound, hne, hlength, hfits⟩

/-! ## Requests -/

theorem ofEnvelope_pullRequest (hfits : (pullRequest stamp token).Fits) :
    Request.ofEnvelope (pullRequest stamp token) = .ok (.pull token) := by
  have hversion : (pullRequest stamp token).version = Envelope.currentVersion := rfl
  have htopic : (pullRequest stamp token).topic = pullTopic := rfl
  have hread : (pullRequest stamp token).decode? PullJob.ofValue? = some ⟨token⟩ := by
    rw [Envelope.decode?_of_payload hfits rfl (PullJob.limitedBySize _ 1022),
      PullJob.ofValue?_toValue]
  rw [Request.ofEnvelope, if_neg (not_not_intro hversion), if_pos htopic, hread]

theorem ofEnvelope_pushRequest (hfits : (pushRequest stamp token result).Fits)
    (hsized : result.Sized) :
    Request.ofEnvelope (pushRequest stamp token result) = .ok (.push token result) := by
  have hversion : (pushRequest stamp token result).version = Envelope.currentVersion := rfl
  have htopic : (pushRequest stamp token result).topic = pushTopic := rfl
  have hother : pushTopic ≠ pullTopic := by decide
  have hread : (pushRequest stamp token result).decode? PushResult.ofValue? =
      some ⟨token, result⟩ := by
    rw [Envelope.decode?_of_payload hfits rfl (PushResult.limitedBySize hsized 1019),
      PushResult.ofValue?_toValue hsized]
  rw [Request.ofEnvelope, if_neg (not_not_intro hversion), htopic, if_neg hother, if_pos rfl, hread]

/-! ## Replies -/

theorem expectTopic_granted (h : request.topic = topic) : expectTopic request topic = .ok () :=
  if_pos h

theorem expectTopic_refused (hfits : (replyTo request now (.error failure)).Fits)
    (htopic : errorTopic ≠ topic) :
    expectTopic (replyTo request now (.error failure)) topic = .error failure.relayed := by
  have herror : (replyTo request now (.error failure)).topic = errorTopic := rfl
  have hread : (replyTo request now (.error failure)).decode? ErrorReply.ofValue? =
      some ⟨failure.message⟩ := by
    rw [Envelope.decode?_of_payload hfits rfl (ErrorReply.limitedBySize _ 1022),
      ErrorReply.ofValue?_toValue]
  rw [expectTopic, herror, if_neg htopic, if_pos rfl, hread]
  rfl

/-- The reply to a pull says what the service said. -/
theorem jobOfReply_replyTo {outcome : Except Failure (Option Job)}
    (hsized : ∀ job, outcome = .ok (some job) → job.Sized)
    (hfits : (replyTo request now (outcome.map .job)).Fits) :
    jobOfReply (replyTo request now (outcome.map .job)) = outcome.mapError Failure.relayed := by
  cases outcome with
  | error failure => rw [jobOfReply, Except.map, expectTopic_refused hfits (by decide)]; rfl
  | ok job =>
    have hjob : ∀ inner ∈ job, inner.Sized := by
      rintro inner rfl
      exact hsized inner rfl
    have htopic : expectTopic (replyTo request now (.ok (.job job))) jobTopic = .ok () :=
      expectTopic_granted rfl
    have hjobFits : (replyTo request now (.ok (.job job))).Fits := hfits
    have hread : (replyTo request now (.ok (.job job))).decode? JobReply.ofValue? = some ⟨job⟩ := by
      rw [Envelope.decode?_of_payload hjobFits rfl (JobReply.limitedBySize hjob 1020),
        JobReply.ofValue?_toValue hjob]
    rw [jobOfReply, Except.map, htopic, hread]
    rfl

/-- The reply to a push says what the service said. -/
theorem ackOfReply_replyTo {outcome : Except Failure Unit}
    (hfits : (replyTo request now (outcome.map fun _ => .accepted)).Fits) :
    ackOfReply (replyTo request now (outcome.map fun _ => .accepted)) =
      outcome.mapError Failure.relayed := by
  cases outcome with
  | error failure => exact expectTopic_refused hfits (by decide)
  | ok => exact expectTopic_granted rfl

/-! ## One exchange -/

theorem exists_replyTo (request : Envelope) (now : Time.Timestamp)
    (outcome : Except Failure Grant) :
    ∃ topic ∈ topics, ∃ payload, replyTo request now outcome = request.reply now topic payload := by
  cases outcome with
  | error failure => exact ⟨errorTopic, by decide, _, rfl⟩
  | ok grant =>
    cases grant with
    | job job => exact ⟨jobTopic, by decide, _, rfl⟩
    | accepted => exact ⟨ackTopic, by decide, _, rfl⟩

theorem correlationId_replyTo (outcome : Except Failure Grant) :
    (replyTo request now outcome).correlationId = request.correlationId := by
  obtain ⟨topic, -, payload, heq⟩ := exists_replyTo request now outcome
  rw [heq]
  rfl

theorem deliverable_replyTo {outcome : Except Failure Grant} (hnow : now.Sound)
    (hfits : (replyTo request now outcome).Fits) : (replyTo request now outcome).Deliverable := by
  obtain ⟨topic, htopic, payload, heq⟩ := exists_replyTo request now outcome
  rw [heq] at hfits ⊢
  exact deliverable_of_topic htopic hnow hfits

theorem replyAmong?_singleton {frames : List Bytes} {reply : Envelope}
    (hframes : envelopeOfFrames? frames = some reply)
    (hid : reply.correlationId = request.correlationId) :
    replyAmong? request [frames] = some reply := by
  simp [replyAmong?, Client.run, Client.step, Client.receive, Client.caller?, Client.withoutId,
    hframes, hid]

/-- What a client gets for a request that the server understands. -/
theorem exchange_of_request (service : Service σ) (s : σ) (identity : Bytes)
    (hrequest : request.Deliverable)
    (hasked : Request.ofEnvelope request = .ok asked) (hnow : now.Sound)
    (hfits : (replyTo request now (service.serve s asked).1).Fits) :
    service.exchange identity now request s =
      (some (replyTo request now (service.serve s asked).1), (service.serve s asked).2) := by
  have hsplit : splitRequest? (identity :: request.frames) = some (identity, request) := by
    rw [splitRequest?, envelopeOfFrames?_frames hrequest, Option.map_some]
  have hanswer : service.answer now request s =
      (replyTo request now (service.serve s asked).1, (service.serve s asked).2) := by
    simp only [Service.answer, hasked]
  have hreply := envelopeOfFrames?_frames (deliverable_replyTo hnow hfits)
  have hback := replyAmong?_singleton hreply (correlationId_replyTo _)
  simp only [Service.exchange, Service.respond, hsplit, hanswer, replyFrames, Option.map_some,
    List.drop_succ_cons, List.drop_zero, Option.toList_some, hback]

theorem remote_pull (service : Service σ) (identity : Bytes) (patience : Time.Span)
    (hnow : now.Sound) (hstamp : stamp.timestamp.Sound) (hrequest : (pullRequest stamp token).Fits)
    (hjob : ∀ job, (service.pull token s).1 = .ok (some job) → job.Sized)
    (hreply : (replyTo (pullRequest stamp token) now ((service.pull token s).1.map .job)).Fits) :
    (service.remote identity now stamp patience).pull token s =
      ((service.pull token s).1.mapError Failure.relayed, (service.pull token s).2) := by
  have hdeliverable : (pullRequest stamp token).Deliverable :=
    deliverable_of_topic (by simp [pullRequest, Envelope.request, topics]) hstamp hrequest
  have hexchange := exchange_of_request service s identity hdeliverable
    (ofEnvelope_pullRequest hrequest) hnow hreply
  simp only [Service.remote, hexchange, Service.serve, jobOfReply_replyTo hjob hreply]

theorem remote_push (service : Service σ) (identity : Bytes) (patience : Time.Span)
    (hnow : now.Sound) (hstamp : stamp.timestamp.Sound)
    (hrequest : (pushRequest stamp token result).Fits) (hresult : result.Sized)
    (hreply : (replyTo (pushRequest stamp token result) now
      ((service.push token result s).1.map fun _ => .accepted)).Fits) :
    (service.remote identity now stamp patience).push token result s =
      ((service.push token result s).1.mapError Failure.relayed,
        (service.push token result s).2) := by
  have hdeliverable : (pushRequest stamp token result).Deliverable :=
    deliverable_of_topic (by simp [pushRequest, Envelope.request, topics]) hstamp hrequest
  have hexchange := exchange_of_request service s identity hdeliverable
    (ofEnvelope_pushRequest hrequest hresult) hnow hreply
  simp only [Service.remote, hexchange, Service.serve, ackOfReply_replyTo hreply]

/-! ## What the service is asked for -/

/-- A service that also keeps what it has been asked for, oldest first. -/
def Service.recorded (service : Service σ) : Service (σ × List Request) where
  pull token s := ((service.pull token s.1).1, (service.pull token s.1).2, s.2 ++ [.pull token])
  push token result s :=
    ((service.push token result s.1).1, (service.push token result s.1).2,
      s.2 ++ [.push token result])

end

/-- A call over the link asks the service once, for just what the caller asked for, and brings back
just what the service said: the same job or none, the same acceptance, and of a failure its text.
The format counts the bytes of a payload in 32 bits, and numbers have 64. -/
theorem remote_call_is_local {σ : Type} (service : Service σ) (identity : Bytes)
    (now : Time.Timestamp) (stamp : Envelope.Stamp) (patience : Time.Span) (hnow : now.Sound)
    (hstamp : stamp.timestamp.Sound) (s : σ) (asked : List Request) :
    (∀ token, (pullRequest stamp token).Fits →
      (∀ job, (service.pull token s).1 = .ok (some job) → job.Sized) →
      (replyTo (pullRequest stamp token) now ((service.pull token s).1.map .job)).Fits →
      (service.recorded.remote identity now stamp patience).pull token (s, asked) =
        ((service.pull token s).1.mapError Failure.relayed, (service.pull token s).2,
          asked ++ [.pull token])) ∧
    ∀ token result, (pushRequest stamp token result).Fits → result.Sized →
      (replyTo (pushRequest stamp token result) now
        ((service.push token result s).1.map fun _ => .accepted)).Fits →
      (service.recorded.remote identity now stamp patience).push token result (s, asked) =
        ((service.push token result s).1.mapError Failure.relayed, (service.push token result s).2,
          asked ++ [.push token result]) := by
  constructor
  · intro token hrequest hjob hreply
    exact remote_pull service.recorded identity patience hnow hstamp hrequest hjob hreply
  · intro token result hrequest hresult hreply
    exact remote_push service.recorded identity patience hnow hstamp hrequest hresult hreply

/-- A job for two threads. -/
def sharedJob : Job := .uniform "Counter" "builtin.racy_counter" ["left", "right"] .tier1 .forked

/-- What a run of the job comes to. -/
def sharedResult : TestResult where
  job := sharedJob
  status := .normal
  states := SortedMap.empty.insert "2" 7
  env := some (Environment.empty.put "os" "linux")
  messages := ["done"]

/-- A service that hands one job out once, to one token, and cannot read what it should take in. -/
def sharedService : Service Bool where
  pull token taken :=
    if token = "fork-token-1" then (.ok (if taken then none else some sharedJob), true)
    else (.error (.unknownToken token), taken)
  push _ _ taken := (.error (.deserialization (some ⟨"invalid marker", ["end of file"]⟩)), taken)

/-- The start of 2026. -/
def sharedNow : Time.Timestamp := ⟨1767225600, 0⟩

theorem remote_call_is_local_sample :
    (sharedService.recorded.remote [1] sharedNow ⟨sharedNow, .zero⟩ defaultPatience).pull
        "fork-token-1" (false, []) =
      (.ok (some sharedJob), true, [.pull "fork-token-1"]) ∧
    (sharedService.recorded.remote [1] sharedNow ⟨sharedNow, .zero⟩ defaultPatience).push
        "stray" sharedResult (false, []) =
      (.error (.protocol "deserialization error: invalid marker"), false,
        [.push "stray" sharedResult]) := by
  have hnow : sharedNow.Sound := by decide
  have hlocal := remote_call_is_local sharedService [1] sharedNow ⟨sharedNow, .zero⟩
    defaultPatience hnow hnow false []
  constructor
  · refine hlocal.1 "fork-token-1" (by decide +kernel) ?_ (by decide +kernel)
    intro job hjob
    obtain rfl := Option.some.inj (Except.ok.inj hjob)
    decide
  · exact hlocal.2 "stray" sharedResult (by decide +kernel) (by decide +kernel)
      (by decide +kernel)

end StressBatch.Link
