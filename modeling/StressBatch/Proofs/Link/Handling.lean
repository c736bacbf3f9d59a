import Mathlib
import StressBatch.Proofs.Link.Remote

/-!
# Every request gets one reply, and it is its own

What can be read as a request gets exactly one reply, which goes back to where the request came
from. The service is asked at most once on its account, for just what it says, and only if it is a
request for something that the service offers. Nothing else reaches the service, and nothing else is
answered.

All of this stays true while a server has many requests in its hands and the service takes its time:
the moves of `Server` interleave in any way, and what is kept by each of them is kept for each
request on its own.
-/

namespace StressBatch.Link

/-! ## What a request asks for -/

/-- Whether an envelope asks the service for something: it is of version 1, and what it carries is
read as what the operation of its topic needs. -/
def AsksFor (envelope : Envelope) : Request → Prop
  | .pull token => envelope.version = 1 ∧ envelope.topic = "link.job.pull" ∧
      envelope.decode? PullJob.ofValue? = some ⟨token⟩
  | .push token result => envelope.version = 1 ∧ envelope.topic = "link.result.push" ∧
      envelope.decode? PushResult.ofValue? = some ⟨token, result⟩

section Requests

variable {envelope request : Envelope} {call : Request} {now : Time.Timestamp}
  {outcome : Except Failure Grant} {identity : Bytes} {frames : List Bytes}

theorem ofEnvelope_eq_ok_iff : Request.ofEnvelope envelope = .ok call ↔ AsksFor envelope call := by
  have hother : pushTopic ≠ pullTopic := by decide
  by_cases hversion : envelope.version = Envelope.currentVersion
  · rw [Request.ofEnvelope, if_neg (not_not_intro hversion)]
    by_cases hpull : envelope.topic = pullTopic
    · rw [if_pos hpull]
      have hpush : envelope.topic ≠ pushTopic := fun h => hother (h.symm.trans hpull)
      cases hread : envelope.decode? PullJob.ofValue? with
      | none => cases call <;> simp_all [AsksFor, pushTopic]
      | some payload =>
        obtain ⟨token⟩ := payload
        cases call <;> simp_all [AsksFor, pushTopic, pullTopic, Envelope.currentVersion]
    · rw [if_neg hpull]
      by_cases hpush : envelope.topic = pushTopic
      · rw [if_pos hpush]
        cases hread : envelope.decode? PushResult.ofValue? with
        | none => cases call <;> simp_all [AsksFor, pullTopic]
        | some payload =>
          obtain ⟨token, result⟩ := payload
          cases call <;> simp_all [AsksFor, pushTopic, pullTopic, Envelope.currentVersion]
      · rw [if_neg hpush]
        cases call <;> simp_all [AsksFor, pushTopic, pullTopic]
  · rw [Request.ofEnvelope, if_pos hversion]
    cases call <;> simp_all [AsksFor, Envelope.currentVersion]

/-! ## What a reply is -/

/-- The topics of replies. -/
def replyTopics : List String := ["link.job.reply", "link.result.ack", "link.error"]

/-- Whether a message is a reply to a request: it leads with the identity of the request's sender,
and its envelope bears the request's correlation id, the version 1, and one of the topics of
replies, which its own frame repeats. -/
structure RepliesTo (identity : Bytes) (request reply : Envelope) (message : List Bytes) :
    Prop where
  frames : message = [identity, Text.Utf8.encode reply.topic, reply.toBytes]
  correlationId : reply.correlationId = request.correlationId
  version : reply.version = 1
  topic : reply.topic ∈ replyTopics

theorem repliesTo_replyTo (identity : Bytes) (request : Envelope) (now : Time.Timestamp)
    (outcome : Except Failure Grant) :
    RepliesTo identity request (replyTo request now outcome)
      (replyFrames identity (replyTo request now outcome)) := by
  refine ⟨rfl, correlationId_replyTo outcome, ?_, ?_⟩
  · obtain ⟨topic, -, payload, heq⟩ := exists_replyTo request now outcome
    rw [heq]
    rfl
  · cases outcome with
    | error failure => show errorTopic ∈ replyTopics; decide
    | ok grant =>
      cases grant with
      | job job => show jobTopic ∈ replyTopics; decide
      | accepted => show ackTopic ∈ replyTopics; decide

theorem topic_replyTo_ne_iff :
    (replyTo request now outcome).topic ≠ "link.error" ↔ ∃ grant, outcome = .ok grant := by
  cases outcome with
  | error failure => simp [replyTo, Envelope.reply, errorTopic]
  | ok grant => cases grant <;> simp [replyTo, Envelope.reply, jobTopic, ackTopic]

/-! ## What is read as a request -/

theorem splitRequest?_of_unreadable
    (h : frames.length < 2 ∨ ((frames.drop 1).dropWhile List.isEmpty).length < 2 ∨
      ∃ bytes, ((frames.drop 1).dropWhile List.isEmpty)[1]? = some bytes ∧
        Envelope.ofBytes? bytes = none) :
    splitRequest? frames = none := by
  cases frames with
  | nil => rfl
  | cons identity rest =>
    rw [splitRequest?, Option.map_eq_none_iff, envelopeOfFrames?]
    rw [List.drop_succ_cons, List.drop_zero] at h
    have hshort := (List.dropWhile_sublist (List.isEmpty (α := UInt8)) (l := rest)).length_le
    rcases hdata : rest.dropWhile List.isEmpty with _ | ⟨topic, _ | ⟨bytes, more⟩⟩
    · rfl
    · rfl
    · rw [hdata] at h hshort
      simp only [List.length_cons] at h hshort
      rcases h with h | h | ⟨found, hfound, hread⟩
      · omega
      · omega
      · obtain rfl : bytes = found := by simpa using hfound
        exact hread

theorem splitRequest?_of_readable {bytes : Bytes}
    (hdata : ((frames.drop 1).dropWhile List.isEmpty)[1]? = some bytes)
    (hread : Envelope.ofBytes? bytes = some request) :
    ∃ identity, frames.head? = some identity ∧ splitRequest? frames = some (identity, request) := by
  cases frames with
  | nil => simp at hdata
  | cons identity rest =>
    refine ⟨identity, rfl, ?_⟩
    rw [List.drop_succ_cons, List.drop_zero] at hdata
    rw [splitRequest?, envelopeOfFrames?]
    rcases hrest : rest.dropWhile List.isEmpty with _ | ⟨topic, _ | ⟨found, more⟩⟩
    · simp [hrest] at hdata
    · simp [hrest] at hdata
    · rw [hrest] at hdata
      obtain rfl : found = bytes := by simpa using hdata
      simp only [hread, Option.map_some]

end Requests

/-! ## One request -/

section One

variable {σ : Type} (service : Service σ) (s : σ) (now : Time.Timestamp) (asked : List Request)
  {frames : List Bytes} {identity : Bytes} {request : Envelope}

theorem serve_recorded (call : Request) :
    service.recorded.serve (s, asked) call =
      ((service.serve s call).1, (service.serve s call).2, asked ++ [call]) := by
  cases call <;> rfl

/-- What comes of a request that can be read. -/
theorem respond_of_request (hsplit : splitRequest? frames = some (identity, request)) :
    ∃ outcome calls,
      (service.recorded.respond now frames (s, asked)).1 =
        some (replyFrames identity (replyTo request now outcome)) ∧
      (service.recorded.respond now frames (s, asked)).2.2 = asked ++ calls ∧
      calls.length ≤ 1 ∧ (∀ call, call ∈ calls ↔ AsksFor request call) ∧
      ((∃ grant, outcome = .ok grant) ↔
        ∃ call ∈ calls, ∃ grant, (service.serve s call).1 = .ok grant) := by
  have hresponse : service.recorded.respond now frames (s, asked) =
      (some (replyFrames identity (service.recorded.answer now request (s, asked)).1),
        (service.recorded.answer now request (s, asked)).2) := by
    simp only [Service.respond, hsplit]
  rw [hresponse]
  cases hasked : Request.ofEnvelope request with
  | error failure =>
    refine ⟨.error failure, [], ?_, ?_, Nat.zero_le 1, fun call => ?_, by simp⟩
    · simp only [Service.answer, hasked]
    · simp only [Service.answer, hasked, List.append_nil]
    · have hnone : ¬ AsksFor request call := by
        rw [← ofEnvelope_eq_ok_iff, hasked]
        simp
      simp [hnone]
  | ok call =>
    refine ⟨(service.serve s call).1, [call], ?_, ?_, Nat.le_refl 1, fun other => ?_, by simp⟩
    · simp only [Service.answer, hasked, serve_recorded]
    · simp only [Service.answer, hasked, serve_recorded]
    · rw [← ofEnvelope_eq_ok_iff, hasked]
      simp [eq_comm]

end One

/-! ## Lists in which one item is replaced -/

section Replaced

variable {α β : Type} {l : List α} {i : Nat} {a x : α}

theorem map_set_of_eq {f : α → β} (ha : l[i]? = some a) (h : f x = f a) :
    (l.set i x).map f = l.map f := by
  obtain ⟨hi, rfl⟩ := List.getElem?_eq_some_iff.mp ha
  rw [List.map_set, h, ← List.getElem_map f (h := by rwa [List.length_map]), List.set_getElem_self]

theorem filterMap_set_of_eq {f : α → Option β} (ha : l[i]? = some a) (h : f x = f a) :
    (l.set i x).filterMap f = l.filterMap f := by
  calc (l.set i x).filterMap f = ((l.set i x).map f).filterMap id := by rw [List.filterMap_map]; rfl
    _ = (l.map f).filterMap id := by rw [map_set_of_eq ha h]
    _ = l.filterMap f := by rw [List.filterMap_map]; rfl

theorem filterMap_set_perm {f : α → Option β} {b : β} (ha : l[i]? = some a) (hnone : f a = none)
    (hsome : f x = some b) : ((l.set i x).filterMap f).Perm (l.filterMap f ++ [b]) := by
  induction l generalizing i with
  | nil => simp at ha
  | cons first l ih =>
    cases i with
    | zero =>
      obtain rfl : first = a := by simpa using ha
      rw [List.set_cons_zero, List.filterMap_cons_some hsome, List.filterMap_cons_none hnone]
      exact (List.perm_append_singleton b _).symm
    | succ i =>
      have hrest := ih (by simpa using ha)
      rw [List.set_cons_succ, List.filterMap_cons, List.filterMap_cons]
      cases f first with
      | none => exact hrest
      | some c => exact hrest.cons c

end Replaced

/-! ## Many requests -/

namespace Server

variable {moves : List Move} {move : Move} {server : Server} {position : Nat} {handling : Handling}
  {reply : Envelope} {call : Request}

/-- The request that arrives with a move. -/
def Move.arrival? : Move → Option (Bytes × Envelope)
  | .receive frames => splitRequest? frames
  | _ => none

/-- The requests that arrive, with their senders. -/
def arrivals (moves : List Move) : List (Bytes × Envelope) := moves.filterMap Move.arrival?

/-- What the service has been asked on account of the request at a position. -/
def callsFor (server : Server) (position : Nat) : List Request :=
  (server.calls.filter fun call => call.1 = position).map (·.2)

/-- What the reply to the request at a position tells: why the request cannot be served, or what the
service answered when it was asked on its account. -/
def Tells (moves : List Move) (position : Nat) (handling : Handling) (reply : Envelope) : Prop :=
  (handling.call = none ∧ ∃ now failure, Request.ofEnvelope handling.request = .error failure ∧
    reply = replyTo handling.request now (.error failure)) ∨
  ∃ call now outcome, handling.call = some call ∧ .answer position now outcome ∈ moves ∧
    reply = replyTo handling.request now outcome

/-- How the request at a position is handled: the service has been asked what its handling says, the
request asks for that, and the reply tells what came of it. -/
structure Handled (moves : List Move) (server : Server) (position : Nat) (handling : Handling) :
    Prop where
  calls_eq : server.callsFor position = handling.call.toList
  asks : ∀ call ∈ handling.call, AsksFor handling.request call
  tells : ∀ reply ∈ handling.reply, Tells moves position handling reply

/-- What the moves of a server keep. -/
structure Orderly (moves : List Move) (server : Server) : Prop where
  arrived : server.handlings.map (fun handling => (handling.identity, handling.request)) =
    arrivals moves
  handled : ∀ position handling, server.handlings[position]? = some handling →
    Handled moves server position handling
  placed : ∀ call ∈ server.calls, call.1 < server.handlings.length
  sent : server.sent.Perm (server.handlings.filterMap Handling.message?)

theorem arrivals_concat (moves : List Move) (move : Move) :
    arrivals (moves ++ [move]) = arrivals moves ++ move.arrival?.toList := by
  rw [arrivals, List.filterMap_append]
  cases h : move.arrival? <;> simp [arrivals, h]

theorem Tells.mono (h : Tells moves position handling reply) (move : Move) :
    Tells (moves ++ [move]) position handling reply := by
  refine h.imp_right ?_
  rintro ⟨call, now, outcome, hcall, hmem, heq⟩
  exact ⟨call, now, outcome, hcall, List.mem_append_left _ hmem, heq⟩

/-- A move that brings no request and is not carried out. -/
theorem Orderly.mono (h : Orderly moves server) (harrival : move.arrival? = none) :
    Orderly (moves ++ [move]) server where
  arrived := by
    rw [arrivals_concat, harrival, h.arrived, Option.toList_none, List.append_nil]
  handled := by
    intro position handling hfound
    obtain ⟨hcalls, hasks, htells⟩ := h.handled position handling hfound
    exact ⟨hcalls, hasks, fun reply hreply => (htells reply hreply).mono move⟩
  placed := h.placed
  sent := h.sent

/-- A request arrives. -/
theorem Orderly.received (h : Orderly moves server) {identity : Bytes} {request : Envelope}
    (harrival : move.arrival? = some (identity, request)) :
    Orderly (moves ++ [move])
      { server with
          handlings := server.handlings ++ [{ identity := identity, request := request }] } where
  arrived := by
    rw [arrivals_concat, harrival, List.map_append, h.arrived]
    rfl
  handled := by
    intro position handling hfound
    rw [List.getElem?_append] at hfound
    split at hfound
    · obtain ⟨hcalls, hasks, htells⟩ := h.handled position handling hfound
      exact ⟨hcalls, hasks, fun reply hreply => (htells reply hreply).mono move⟩
    · -- the new request, on whose account nothing has been asked
      next hlast =>
      obtain rfl : handling = { identity := identity, request := request } := by
        rw [List.getElem?_singleton] at hfound
        split at hfound
        · exact (Option.some.inj hfound).symm
        · contradiction
      have hnone : server.calls.filter (fun call => call.1 = position) = [] := by
        rw [List.filter_eq_nil_iff]
        intro call hcall
        have hlt := h.placed call hcall
        simp only [decide_eq_true_eq]
        omega
      exact ⟨by simp [callsFor, hnone], by simp, by simp⟩
  placed := by
    intro call hcall
    have hlt := h.placed call hcall
    rw [List.length_append]
    exact Nat.lt_add_right _ hlt
  sent := by
    have hnone : [({ identity := identity, request := request } : Handling)].filterMap
        Handling.message? = [] := rfl
    rw [List.filterMap_append, hnone, List.append_nil]
    exact h.sent

/-- The service is asked. -/
theorem Orderly.asked (h : Orderly moves server)
    (hfound : server.handlings[position]? = some handling) (hcall : handling.call = none)
    (hreply : handling.reply = none) (hasks : AsksFor handling.request call) :
    Orderly moves
      { server with
          handlings := server.handlings.set position { handling with call := some call }
          calls := server.calls ++ [(position, call)] } where
  arrived := by
    rw [← h.arrived]
    exact map_set_of_eq hfound rfl
  handled := by
    intro other found hother
    rw [List.getElem?_set] at hother
    split at hother
    · -- the request that is looked at
      next heq =>
      subst heq
      obtain ⟨hlt, -⟩ := List.getElem?_eq_some_iff.mp hfound
      rw [if_pos hlt] at hother
      obtain rfl := Option.some.inj hother
      have hbefore := (h.handled position handling hfound).calls_eq
      rw [hcall, callsFor] at hbefore
      refine ⟨?_, ?_, by simp [hreply]⟩
      · rw [callsFor, List.filter_append, List.map_append, hbefore]
        simp
      · rintro call ⟨⟩
        exact hasks
    · next hne =>
      obtain ⟨hcalls, hrest, htells⟩ := h.handled other found hother
      refine ⟨?_, hrest, htells⟩
      rw [← hcalls, callsFor, List.filter_append]
      simp [callsFor, hne]
  placed := by
    intro other hother
    rw [List.length_set]
    rcases List.mem_append.mp hother with hold | hnew
    · exact h.placed other hold
    · obtain ⟨hlt, -⟩ := List.getElem?_eq_some_iff.mp hfound
      rw [List.mem_singleton.mp hnew]
      exact hlt
  sent := by
    have hmessage : Handling.message? { handling with call := some call } = handling.message? := rfl
    rw [filterMap_set_of_eq hfound hmessage]
    exact h.sent

/-- A reply is sent. -/
theorem Orderly.replied (h : Orderly moves server)
    (hfound : server.handlings[position]? = some handling) (hreply : handling.reply = none)
    (htells : Tells moves position handling reply) :
    Orderly moves (server.send position handling reply) where
  arrived := by
    rw [← h.arrived]
    exact map_set_of_eq hfound rfl
  handled := by
    intro other found hother
    simp only [send, List.getElem?_set] at hother
    split at hother
    · -- the request that is replied to
      next heq =>
      subst heq
      obtain ⟨hlt, -⟩ := List.getElem?_eq_some_iff.mp hfound
      rw [if_pos hlt] at hother
      obtain rfl := Option.some.inj hother
      obtain ⟨hcalls, hasks, -⟩ := h.handled position handling hfound
      refine ⟨hcalls, hasks, ?_⟩
      rintro reply ⟨⟩
      exact htells
    · obtain ⟨hcalls, hasks, htold⟩ := h.handled other found hother
      exact ⟨hcalls, hasks, htold⟩
  placed := by
    intro call hcall
    rw [send, List.length_set]
    exact h.placed call hcall
  sent := by
    have hnone : handling.message? = none := by simp [Handling.message?, hreply]
    exact (h.sent.append_right _).trans (filterMap_set_perm hfound hnone rfl).symm

/-- What is kept is kept by every move. -/
theorem Orderly.next (h : Orderly moves server) (move : Move) :
    Orderly (moves ++ [move]) (server.step move) := by
  cases move with
  | receive frames =>
    simp only [step, receive]
    split
    · next hsplit => exact h.mono hsplit
    · next identity request hsplit => exact h.received hsplit
  | ask position now =>
    have hkept : Orderly (moves ++ [.ask position now]) server := h.mono rfl
    simp only [step, ask]
    split
    · exact hkept
    · next handling hfound =>
      split
      · next hfresh =>
        obtain ⟨hcall, hreply⟩ := hfresh
        rw [Option.isNone_iff_eq_none] at hcall hreply
        split
        · next failure hrequest =>
          exact hkept.replied hfound hreply (.inl ⟨hcall, now, failure, hrequest, rfl⟩)
        · next call hrequest =>
          exact hkept.asked hfound hcall hreply (ofEnvelope_eq_ok_iff.mp hrequest)
      · exact hkept
  | answer position now outcome =>
    have hkept : Orderly (moves ++ [.answer position now outcome]) server := h.mono rfl
    simp only [step, answer]
    split
    · exact hkept
    · next handling hfound =>
      split
      · next call hcall hreply =>
        split
        · have hmem : Move.answer position now outcome ∈ moves ++ [.answer position now outcome] :=
            List.mem_append_right _ List.mem_cons_self
          exact hkept.replied hfound hreply (.inr ⟨call, now, outcome, hcall, hmem, rfl⟩)
        · exact hkept
      · exact hkept

theorem orderly_run (moves : List Move) : Orderly moves (run {} moves) := by
  induction moves using List.reverseRecOn with
  | nil => exact ⟨rfl, by simp [run], by simp [run], List.Perm.nil⟩
  | append_singleton moves move ih =>
    rw [run, List.foldl_append]
    exact ih.next move

/-! ## A request alone -/

theorem suits_serve {σ : Type} (service : Service σ) (s : σ) (call : Request) :
    (service.serve s call).1.toOption.all (·.suits call) = true := by
  cases call with
  | pull token =>
    show ((service.pull token s).1.map Grant.job).toOption.all (·.suits (.pull token)) = true
    cases (service.pull token s).1 <;> rfl
  | push token result =>
    show ((service.push token result s).1.map fun _ => Grant.accepted).toOption.all
      (·.suits (.push token result)) = true
    cases (service.push token result s).1 <;> rfl

/-- A server that has one request in its hands sends what the service responds to it. -/
theorem sent_alone {σ : Type} (service : Service σ) (s : σ) (now : Time.Timestamp)
    (frames : List Bytes) :
    let server := run {} [.receive frames, .ask 0 now]
    (server.run (server.calls.map fun call =>
      .answer call.1 now (service.serve s call.2).1)).sent =
      (service.respond now frames s).1.toList := by
  intro server
  cases hsplit : splitRequest? frames with
  | none =>
    have hserver : server = {} := by simp [server, run, step, receive, ask, hsplit]
    simp [hserver, run, Service.respond, hsplit]
  | some read =>
    obtain ⟨identity, request⟩ := read
    cases hrequest : Request.ofEnvelope request with
    | error failure =>
      simp [server, run, step, receive, ask, send, Service.respond, Service.answer, hsplit,
        hrequest]
    | ok call =>
      have hsuits := suits_serve service s call
      simp [server, run, step, receive, ask, answer, send, Service.respond, Service.answer, hsplit,
        hrequest, hsuits]

end Server

/-- What can be read as a request gets exactly one reply of its own, and the service is asked on its
account just for what it says; nothing else gets a reply or reaches the service. A server that has
one request in its hands sends just that. On a server that has many every message that is sent
belongs to one of them, and whatever the order in which they are looked at and answered, a reply
tells what came of its own request. -/
theorem request_handling {σ : Type} (service : Service σ) (s : σ) (asked : List Request)
    (now : Time.Timestamp) (frames : List Bytes) (moves : List Server.Move) :
    let data := (frames.drop 1).dropWhile List.isEmpty
    let response := service.recorded.respond now frames (s, asked)
    let alone := Server.run {} [.receive frames, .ask 0 now]
    let server := Server.run {} moves
    (frames.length < 2 ∨ data.length < 2 ∨
        (∃ bytes, data[1]? = some bytes ∧ Envelope.ofBytes? bytes = none) →
      response = (none, s, asked)) ∧
    (∀ bytes request, data[1]? = some bytes → Envelope.ofBytes? bytes = some request →
      ∃ identity reply message calls, frames.head? = some identity ∧
        response.1 = some message ∧ response.2.2 = asked ++ calls ∧
        RepliesTo identity request reply message ∧
        (now.Sound → reply.Fits → Envelope.ofBytes? reply.toBytes = some reply) ∧
        calls.length ≤ 1 ∧ (∀ call, call ∈ calls ↔ AsksFor request call) ∧
        (reply.topic ≠ "link.error" ↔
          ∃ call ∈ calls, ∃ grant, (service.serve s call).1 = .ok grant)) ∧
    (alone.run (alone.calls.map fun call =>
      .answer call.1 now (service.serve s call.2).1)).sent = response.1.toList ∧
    server.handlings.map (fun handling => (handling.identity, handling.request)) =
      Server.arrivals moves ∧
    server.sent.Perm (server.handlings.filterMap Handling.message?) ∧
    ∀ position handling, server.handlings[position]? = some handling →
      server.callsFor position = handling.call.toList ∧
      (∀ call ∈ handling.call, AsksFor handling.request call) ∧
      ∀ reply ∈ handling.reply,
        RepliesTo handling.identity handling.request reply
          (replyFrames handling.identity reply) ∧
        Server.Tells moves position handling reply := by
  intro data response alone server
  have horderly : Server.Orderly moves server := Server.orderly_run moves
  have halone := Server.sent_alone service.recorded (s, asked) now frames
  simp only [serve_recorded] at halone
  refine ⟨fun hunreadable => ?_, fun bytes request hdata hread => ?_, halone, horderly.arrived,
    horderly.sent, fun position handling hfound => ?_⟩
  · have hsplit : splitRequest? frames = none := splitRequest?_of_unreadable hunreadable
    simp only [response, Service.respond, hsplit]
  · obtain ⟨identity, hhead, hsplit⟩ := splitRequest?_of_readable hdata hread
    obtain ⟨outcome, calls, hmessage, hasked, hlength, hcalls, hgranted⟩ :=
      respond_of_request service s now asked hsplit
    refine ⟨identity, replyTo request now outcome, _, calls, hhead, hmessage, hasked,
      repliesTo_replyTo identity request now outcome, fun hnow hfits => ?_, hlength, hcalls, ?_⟩
    · exact Envelope.ofBytes?_toBytes (deliverable_replyTo hnow hfits)
    · rw [topic_replyTo_ne_iff, hgranted]
  · obtain ⟨hcalls, hasks, htells⟩ := horderly.handled position handling hfound
    refine ⟨hcalls, hasks, fun reply hreply => ⟨?_, htells reply hreply⟩⟩
    rcases htells reply hreply with ⟨-, now, failure, -, rfl⟩ | ⟨-, now, outcome, -, -, rfl⟩
    · exact repliesTo_replyTo _ _ now (.error failure)
    · exact repliesTo_replyTo _ _ now outcome

/-- A pull under a token. -/
def pullUnder (token : Token) : Envelope := pullRequest ⟨sharedNow, .zero⟩ token

/-- Two workers ask for their jobs at once, and the second is answered first. -/
def crossing : List Server.Move :=
  [.receive ([1] :: (pullUnder "fork-token-1").frames),
    .receive ([2] :: (pullUnder "stray").frames), .ask 0 sharedNow, .ask 1 sharedNow,
    .answer 1 sharedNow (.error (.unknownToken "stray")),
    .answer 0 sharedNow (.ok (.job (some sharedJob)))]

theorem request_handling_crossing :
    sharedService.recorded.respond sharedNow [[1], [], [2]] (false, []) = (none, false, []) ∧
    (∃ reply message,
      (sharedService.recorded.respond sharedNow ([1] :: [] :: (pullUnder "fork-token-1").frames)
        (false, [])).1 = some message ∧
      RepliesTo [1] (pullUnder "fork-token-1") reply message ∧ reply.topic ≠ "link.error") ∧
    ∃ handling reply, (Server.run {} crossing).handlings[0]? = some handling ∧
      handling.reply = some reply ∧ handling.identity = [1] ∧
      RepliesTo [1] handling.request reply (replyFrames [1] reply) ∧
      Server.Tells crossing 0 handling reply := by
  have hread : Envelope.ofBytes? (pullUnder "fork-token-1").toBytes =
      some (pullUnder "fork-token-1") := by decide +kernel
  have hasks : AsksFor (pullUnder "fork-token-1") (.pull "fork-token-1") :=
    ofEnvelope_eq_ok_iff.mp (ofEnvelope_pullRequest (by decide +kernel))
  have hfirst : (Server.run {} crossing).handlings[0]?.map
      (fun handling => (handling.identity, handling.reply.isSome)) = some ([1], true) := by
    decide +kernel
  obtain ⟨hdropped, -⟩ :=
    request_handling sharedService false [] sharedNow [[1], [], [2]] crossing
  obtain ⟨-, hreplied, -, -, -, hhandled⟩ := request_handling sharedService false [] sharedNow
    ([1] :: [] :: (pullUnder "fork-token-1").frames) crossing
  refine ⟨hdropped (.inr (.inl (by decide))), ?_, ?_⟩
  · obtain ⟨identity, reply, message, calls, hhead, hmessage, -, hreply, -, -, hcalls, htopic⟩ :=
      hreplied _ _ rfl hread
    obtain rfl := Option.some.inj hhead
    have hasked : .pull "fork-token-1" ∈ calls := (hcalls _).mpr hasks
    exact ⟨reply, message, hmessage, hreply, htopic.mpr ⟨_, hasked, .job (some sharedJob), rfl⟩⟩
  · obtain ⟨handling, hfound, hpair⟩ := Option.map_eq_some_iff.mp hfirst
    obtain ⟨hidentity, hsome⟩ := Prod.mk.inj hpair
    obtain ⟨reply, hreply⟩ := Option.isSome_iff_exists.mp hsome
    obtain ⟨-, -, htells⟩ := hhandled 0 handling hfound
    obtain ⟨hreplies, htold⟩ := htells reply hreply
    exact ⟨handling, reply, hfound, hreply, hidentity, hidentity ▸ hreplies, htold⟩

end StressBatch.Link
