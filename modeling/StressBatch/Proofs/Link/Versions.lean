import StressBatch.Proofs.Link.Handling
import StressBatch.Proofs.Link.RoundTrip
import StressBatch.Proofs.Link.Switchboard

/-!
# Envelopes of another version

A server turns every request of a version it does not know down, before it looks at anything else of
it, and tells the peer so. A client looks at the topic and the payload of a reply and at nothing
else: a reply of another version counts as if it were of its own.
-/

namespace StressBatch.Link

open Msgpack

section Refusals

variable {envelope request reply : Envelope} {now : Time.Timestamp}

/-- Why an envelope of a version that a server does not know is turned down. -/
def unknownVersion (version : UInt16) : Failure :=
  .protocol s!"unsupported envelope version {version.toNat}"

/-- Whether a reply tells the sender of a request that its version is unknown. -/
structure RefusesVersion (request reply : Envelope) : Prop where
  topic : reply.topic = "link.error"
  correlationId : reply.correlationId = request.correlationId
  reason : reply.decode? ErrorReply.ofValue? = some ⟨(unknownVersion request.version).message⟩

theorem length_toString_version (version : UInt16) : (toString version.toNat).length ≤ 5 := by
  have hlt : version.toNat < 10 ^ 5 := by
    have := version.toNat_lt
    omega
  exact Nat.repr_length _ 5 (by omega) hlt

theorem message_unknownVersion (version : UInt16) : (unknownVersion version).message =
    "protocol violation: " ++ ("unsupported envelope version " ++ toString version.toNat) := rfl

theorem textFits_unknownVersion (version : UInt16) :
    TextFits (unknownVersion version).message := by
  have hdigits := length_toString_version version
  have hprefix : "protocol violation: ".length = 20 := by decide
  have hwords : "unsupported envelope version ".length = 29 := by decide
  have hlength : (unknownVersion version).message.toList.length ≤ 60 := by
    rw [message_unknownVersion, String.length_toList, String.length_append, String.length_append]
    omega
  have hbytes := Text.Utf8.length_encode_le (unknownVersion version).message
  have hbound : Value.sizeBound = 4294967296 := rfl
  unfold TextFits
  omega

theorem refusesVersion_replyTo (request : Envelope) (now : Time.Timestamp) :
    RefusesVersion request (replyTo request now (.error (unknownVersion request.version))) where
  topic := rfl
  correlationId := rfl
  reason := by
    have hwritable : (ErrorReply.toValue ⟨(unknownVersion request.version).message⟩).Writable
        maxDepth := ErrorReply.writable_toValue (textFits_unknownVersion request.version)
    exact (conveys_of_writable hwritable (ErrorReply.ofValue?_toValue _)).2 request now errorTopic

theorem ofEnvelope_of_version (hversion : envelope.version ≠ 1) :
    Request.ofEnvelope envelope = .error (unknownVersion envelope.version) := by
  have hcurrent : envelope.version ≠ Envelope.currentVersion := hversion
  rw [Request.ofEnvelope, if_pos hcurrent]
  rfl

theorem respond_of_version {σ : Type} (service : Service σ) (s : σ) {identity : Bytes}
    {frames : List Bytes} (hversion : envelope.version ≠ 1)
    (hsplit : splitRequest? frames = some (identity, envelope)) :
    service.respond now frames s =
      (some (replyFrames identity (replyTo envelope now
        (.error (unknownVersion envelope.version)))), s) := by
  have hrefused := ofEnvelope_of_version hversion
  simp only [Service.respond, hsplit, Service.answer, hrefused]

end Refusals

/-! ## Among other requests -/

namespace Server

variable {moves : List Move} {position : Nat} {handling : Handling}

/-- A request of another version is never put to the service, and whatever it is told is that its
version is unknown. -/
theorem handled_of_version {server : Server} (h : Handled moves server position handling)
    (hversion : handling.request.version ≠ 1) :
    server.callsFor position = [] ∧ handling.call = none ∧
      ∀ reply ∈ handling.reply, RefusesVersion handling.request reply := by
  have hcall : handling.call = none := by
    cases hcall : handling.call with
    | none => rfl
    | some call =>
      have hasks : AsksFor handling.request call := h.asks call hcall
      have hserved : handling.request.version = 1 := by
        cases call with
        | pull token => exact hasks.1
        | push token result => exact hasks.1
      exact absurd hserved hversion
  have hcalls : server.callsFor position = [] := by
    rw [h.calls_eq, hcall]
    rfl
  refine ⟨hcalls, hcall, fun reply hreply => ?_⟩
  rcases h.tells reply hreply with ⟨-, now, failure, hfailure, heq⟩ | ⟨call, -, -, hasked, -⟩
  · rw [ofEnvelope_of_version hversion] at hfailure
    obtain rfl : unknownVersion handling.request.version = failure := Except.error.inj hfailure
    rw [heq]
    exact refusesVersion_replyTo handling.request now
  · rw [hcall] at hasked
    contradiction

/-- Once such a request has been looked at it has its reply. -/
theorem ask_of_version {server : Server} (now : Time.Timestamp)
    (hfound : server.handlings[position]? = some handling) (hcall : handling.call = none)
    (hversion : handling.request.version ≠ 1) :
    ∃ after reply, (server.ask position now).handlings[position]? = some after ∧
      after.request = handling.request ∧ after.reply = some reply := by
  cases hreply : handling.reply with
  | some reply =>
    refine ⟨handling, reply, ?_, rfl, hreply⟩
    simp [ask, hfound, hreply]
  | none =>
    obtain ⟨hlt, -⟩ := List.getElem?_eq_some_iff.mp hfound
    have hrefused := ofEnvelope_of_version hversion
    let reply := replyTo handling.request now (.error (unknownVersion handling.request.version))
    refine ⟨{ handling with reply := some reply }, reply, ?_, rfl, rfl⟩
    have hask : server.ask position now = server.send position handling reply := by
      simp [ask, hfound, hcall, hreply, hrefused, reply]
    rw [hask]
    simp [send, hlt]

end Server

/-! ## Replies -/

section Replies

variable {reply : Envelope}

theorem expectTopic_eq_ok_iff {topic : String} :
    expectTopic reply topic = .ok () ↔ reply.topic = topic := by
  by_cases htopic : reply.topic = topic
  · simp [expectTopic, htopic]
  · have hrefused : expectTopic reply topic ≠ .ok () := by
      rw [expectTopic, if_neg htopic]
      split
      · split <;> simp
      · simp
    exact iff_of_false hrefused htopic

theorem jobOfReply_eq_ok_iff {job : Option Job} :
    jobOfReply reply = .ok job ↔
      reply.topic = jobTopic ∧ reply.decode? JobReply.ofValue? = some ⟨job⟩ := by
  cases hgranted : expectTopic reply jobTopic with
  | error failure =>
    have htopic : reply.topic ≠ jobTopic := by
      rw [ne_eq, ← expectTopic_eq_ok_iff, hgranted]
      simp
    simp [jobOfReply, hgranted, htopic]
  | ok =>
    have htopic : reply.topic = jobTopic := expectTopic_eq_ok_iff.mp hgranted
    cases hread : reply.decode? JobReply.ofValue? with
    | none => simp [jobOfReply, hgranted, hread]
    | some answer =>
      obtain ⟨found⟩ := answer
      simp [jobOfReply, hgranted, hread, htopic]

/-- Whatever its version, a reply to a call that waits for it is the one that the call returns. -/
theorem Switchboard.answered_of_reply {board : Switchboard} {position : Nat} {call : Call}
    {frames : List Bytes} (hlisted : board.pending.lookup reply.correlationId = some position)
    (hfound : board.calls[position]? = some call) (hwaiting : call.phase = .waiting)
    (hframes : envelopeOfFrames? frames = some reply) :
    (board.run [.receive frames, .turn position .collect]).calls[position]? =
      some { call with reply := some reply, phase := .answered reply } := by
  obtain ⟨hlt, rfl⟩ := List.getElem?_eq_some_iff.mp hfound
  simp [run, step, receive, turn, hframes, hlisted, hlt, Call.next?, hwaiting]

end Replies

/-- The version of an envelope is looked at by a server and not by a client. A request of a version
other than 1 reaches nobody but the server, alone or among others, and the reply to it says that its
version is unknown. A reply of such a version is the one that the call under its id returns, and its
topic and its payload alone decide whether a pull or a push succeeds. -/
theorem unknown_versions {σ : Type} (service : Service σ) (s : σ) (asked : List Request)
    (now : Time.Timestamp) (envelope : Envelope) (hversion : envelope.version ≠ 1) :
    (∀ identity frames, splitRequest? frames = some (identity, envelope) →
      ∃ reply, service.recorded.respond now frames (s, asked) =
          (some (replyFrames identity reply), s, asked) ∧
        RefusesVersion envelope reply) ∧
    (∀ moves position handling, (Server.run {} moves).handlings[position]? = some handling →
      handling.request = envelope →
      (Server.run {} moves).callsFor position = [] ∧
      (∀ reply ∈ handling.reply, RefusesVersion envelope reply) ∧
      ∃ after reply, (Server.run {} (moves ++ [.ask position now])).handlings[position]? =
          some after ∧
        after.reply = some reply ∧ RefusesVersion envelope reply) ∧
    (∀ (board : Switchboard) position call frames,
      board.pending.lookup envelope.correlationId = some position →
      board.calls[position]? = some call → call.phase = .waiting →
      envelopeOfFrames? frames = some envelope →
      (board.run [.receive frames, .turn position .collect]).calls[position]? =
        some { call with reply := some envelope, phase := .answered envelope }) ∧
    (∀ job, jobOfReply envelope = .ok job ↔
      envelope.topic = "link.job.reply" ∧ envelope.decode? JobReply.ofValue? = some ⟨job⟩) ∧
    (ackOfReply envelope = .ok () ↔ envelope.topic = "link.result.ack") := by
  refine ⟨fun identity frames hsplit => ?_, fun moves position handling hfound hrequest => ?_, ?_,
    fun job => jobOfReply_eq_ok_iff, expectTopic_eq_ok_iff⟩
  · refine ⟨replyTo envelope now (.error (unknownVersion envelope.version)), ?_,
      refusesVersion_replyTo envelope now⟩
    exact respond_of_version service.recorded (s, asked) hversion hsplit
  · subst hrequest
    have horderly : Server.Orderly moves (Server.run {} moves) := Server.orderly_run moves
    obtain ⟨hcalls, hcall, hreplies⟩ :=
      Server.handled_of_version (horderly.handled position handling hfound) hversion
    refine ⟨hcalls, hreplies, ?_⟩
    obtain ⟨after, reply, hafter, hrequest, hreply⟩ :=
      Server.ask_of_version now hfound hcall hversion
    have hrun : Server.run {} (moves ++ [.ask position now]) =
        (Server.run {} moves).ask position now := by
      rw [Server.run, List.foldl_append]
      rfl
    have hnext : Server.Orderly (moves ++ [.ask position now])
        (Server.run {} (moves ++ [.ask position now])) := Server.orderly_run _
    rw [hrun] at hnext ⊢
    have hlater := hrequest ▸ hversion
    obtain ⟨-, -, hafterReplies⟩ :=
      Server.handled_of_version (hnext.handled position after hafter) hlater
    exact ⟨after, reply, hafter, hreply, hrequest ▸ hafterReplies reply hreply⟩
  · intro board position call frames hlisted hfound hwaiting hframes
    exact Switchboard.answered_of_reply hlisted hfound hwaiting hframes

/-- The reply to a pull, but of version 2. -/
def laterReply : Envelope :=
  { replyTo (pullUnder "fork-token-1") sharedNow (.ok (.job (some sharedJob))) with version := 2 }

/-- The reply to a push that was accepted, but of version 2. -/
def laterAck : Envelope :=
  { replyTo (pushRequest ⟨sharedNow, .zero⟩ "fork-token-1" sharedResult) sharedNow
      (.ok .accepted) with version := 2 }

theorem unknown_versions_later :
    laterReply.version ≠ 1 ∧
    (∃ reply, sharedService.recorded.respond sharedNow ([7] :: laterReply.frames) (false, []) =
        (some (replyFrames [7] reply), false, []) ∧
      RefusesVersion laterReply reply) ∧
    ((Switchboard.run {} [.register (pullUnder "fork-token-1"), .turn 0 .send]).run
        [.receive laterReply.frames, .turn 0 .collect]).calls[0]? =
      some ⟨pullUnder "fork-token-1", some laterReply, .answered laterReply⟩ := by
  have hversion : laterReply.version ≠ 1 := by decide
  have hframes : envelopeOfFrames? laterReply.frames = some laterReply := by decide +kernel
  obtain ⟨hserver, -, hclient, -, -⟩ :=
    unknown_versions sharedService false [] sharedNow laterReply hversion
  refine ⟨hversion, hserver [7] _ ?_, ?_⟩
  · rw [splitRequest?, hframes]
    rfl
  · exact hclient _ 0 ⟨pullUnder "fork-token-1", none, .waiting⟩ _ (by decide) (by decide) rfl
      hframes

/-- Replies of a version that a server would turn down make a pull and a push succeed. -/
theorem later_replies_accepted :
    laterReply.version ≠ Envelope.currentVersion ∧
    laterReply.correlationId = (pullUnder "fork-token-1").correlationId ∧
    envelopeOfFrames? laterReply.frames = some laterReply ∧
    replyAmong? (pullUnder "fork-token-1") [laterReply.frames] = some laterReply ∧
    jobOfReply laterReply = .ok (some sharedJob) ∧
    laterAck.version ≠ Envelope.currentVersion ∧
    envelopeOfFrames? laterAck.frames = some laterAck ∧
    ackOfReply laterAck = .ok () := by
  refine ⟨by decide, rfl, by decide +kernel, ?_, by decide +kernel, by decide, by decide +kernel,
    rfl⟩
  exact replyAmong?_singleton (by decide +kernel) rfl

end StressBatch.Link
