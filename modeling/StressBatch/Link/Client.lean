import StressBatch.Link.Server

/-!
# The link client

A client sends a request and waits for the reply that bears the request's correlation id. Replies
that cannot be read or that nobody waits for are ignored, and a call gives up when its time is over.
Whatever else a reply says is looked at by the call itself: its topic has to be the one that grants
the request.
-/

namespace StressBatch.Link

/-! ## What a reply says -/

/-- Accepts the reply that grants a request. A refusal and a reply to something else are failures.
-/
def expectTopic (reply : Envelope) (topic : String) : Except Failure Unit :=
  if reply.topic = topic then .ok ()
  else if reply.topic = errorTopic then
    match reply.decode? ErrorReply.ofValue? with
    | some refusal => .error (.protocol refusal.reason)
    | none => .error (.protocol "unreadable error reply")
  else .error (.protocol ("expected '" ++ topic ++ "' reply, got '" ++ reply.topic ++ "'"))

/-- What the reply to a pull comes to. -/
def jobOfReply (reply : Envelope) : Except Failure (Option Job) :=
  match expectTopic reply jobTopic with
  | .error failure => .error failure
  | .ok () =>
    match reply.decode? JobReply.ofValue? with
    | some answer => .ok answer.job
    | none => .error (.deserialization none)

/-- What the reply to a push comes to. -/
def ackOfReply (reply : Envelope) : Except Failure Unit := expectTopic reply ackTopic

/-- The request for the job of a token. -/
def pullRequest (stamp : Envelope.Stamp) (token : Token) : Envelope :=
  .request stamp pullTopic (⟨token⟩ : PullJob).toValue

/-- The request to take a result in. -/
def pushRequest (stamp : Envelope.Stamp) (token : Token) (result : TestResult) : Envelope :=
  .request stamp pushTopic (⟨token, result⟩ : PushResult).toValue

/-! ## Routing replies -/

/-- The calls of a client at one moment. -/
structure Client where
  /-- The calls that wait, by the id of their request. -/
  waiting : List (CorrelationId × Nat) := []
  /-- The calls that have got their reply, oldest first; a call that gave up has none. -/
  ended : List (Nat × Option Envelope) := []
  deriving DecidableEq, Repr

namespace Client

/-- What happens to a client. -/
inductive Move where
  /-- A call sends its request under an id and waits. -/
  | send (call : Nat) (id : CorrelationId)
  /-- A message arrives. -/
  | receive (frames : List Bytes)
  /-- A call's time is over. -/
  | expire (call : Nat)
  deriving DecidableEq, Repr

/-- The call that waits for a reply with the id. -/
def caller? (client : Client) (id : CorrelationId) : Option Nat := client.waiting.lookup id

/-- The calls that wait after the one with the id has got its reply. -/
def withoutId (client : Client) (id : CorrelationId) : List (CorrelationId × Nat) :=
  client.waiting.filter fun entry => entry.1 ≠ id

/-- A message arrives: a reply goes to the call that waits for it, anything else is ignored. -/
def receive (client : Client) (frames : List Bytes) : Client :=
  match envelopeOfFrames? frames with
  | none => client
  | some reply =>
    match client.caller? reply.correlationId with
    | none => client
    | some call =>
      { waiting := client.withoutId reply.correlationId
        ended := client.ended ++ [(call, some reply)] }

/-- Carries out a move. -/
def step (client : Client) : Move → Client
  | .send call id => { client with waiting := client.withoutId id ++ [(id, call)] }
  | .receive frames => client.receive frames
  | .expire call =>
    if client.waiting.any fun entry => entry.2 = call then
      { waiting := client.waiting.filter fun entry => entry.2 ≠ call
        ended := client.ended ++ [(call, none)] }
    else client

/-- Carries out a sequence of moves. -/
def run (client : Client) (moves : List Move) : Client := moves.foldl step client

end Client

/-- What a call that sends the request gets out of the messages that arrive, at a client on which
nothing else waits. -/
def replyAmong? (request : Envelope) (messages : List (List Bytes)) : Option Envelope :=
  let client := Client.run {} (.send 0 request.correlationId :: messages.map .receive)
  (client.ended.lookup 0).join

/-! ## The service at the other end -/

/-- How a message of a client reaches a server: the network puts the client's identity in front, and
takes it off the answer. -/
def Service.exchange {σ : Type} (service : Service σ) (identity : Bytes) (now : Time.Timestamp)
    (request : Envelope) (s : σ) : Option Envelope × σ :=
  let (message, s) := service.respond now (identity :: request.frames) s
  (replyAmong? request (message.map (·.drop 1)).toList, s)

/-- A service as a client sees it, over a network that delivers every message once. -/
def Service.remote {σ : Type} (service : Service σ) (identity : Bytes) (now : Time.Timestamp)
    (stamp : Envelope.Stamp) (patience : Time.Span) : Service σ where
  pull token s :=
    match service.exchange identity now (pullRequest stamp token) s with
    | (some reply, s) => (jobOfReply reply, s)
    | (none, s) => (.error (.timeout patience), s)
  push token result s :=
    match service.exchange identity now (pushRequest stamp token result) s with
    | (some reply, s) => (ackOfReply reply, s)
    | (none, s) => (.error (.timeout patience), s)

/-- How long a call waits unless told otherwise. -/
def defaultPatience : Time.Span := ⟨30, 0⟩

end StressBatch.Link
