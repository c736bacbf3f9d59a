import StressBatch.Link.Envelope
import StressBatch.Link.Payload
import StressBatch.Link.Service

/-!
# The link server

A server reads requests, has them answered by a service, and sends every answer to where the request
came from. What cannot be read as a request at all is dropped without a word; every other request
gets exactly one reply, which bears the request's correlation id. A request that cannot be served,
or that the service refuses, gets a reply that says why.
-/

namespace StressBatch.Link

/-! ## Operations -/

/-- The operation by which a worker asks for its job. -/
def pullTopic : String := "link.job.pull"

/-- The reply to a pull. -/
def jobTopic : String := "link.job.reply"

/-- The operation by which a worker hands its result over. -/
def pushTopic : String := "link.result.push"

/-- The reply to a push that was accepted. -/
def ackTopic : String := "link.result.ack"

/-- The reply to a request that was refused. -/
def errorTopic : String := "link.error"

/-- What a peer asks a service for. -/
inductive Request where
  /-- The job of a token. -/
  | pull (token : Token)
  /-- To take a result in. -/
  | push (token : Token) (result : TestResult)
  deriving DecidableEq, Repr

/-- What a service grants. -/
inductive Grant where
  /-- A pull is granted with a job, if it is still there. -/
  | job (job : Option Job)
  /-- A push is granted. -/
  | accepted
  deriving DecidableEq, Repr

/-- What an envelope asks for, or why it cannot be served. -/
def Request.ofEnvelope (envelope : Envelope) : Except Failure Request :=
  if envelope.version ≠ Envelope.currentVersion then
    .error (.protocol s!"unsupported envelope version {envelope.version.toNat}")
  else if envelope.topic = pullTopic then
    match envelope.decode? PullJob.ofValue? with
    | some payload => .ok (.pull payload.token)
    | none => .error (.deserialization none)
  else if envelope.topic = pushTopic then
    match envelope.decode? PushResult.ofValue? with
    | some payload => .ok (.push payload.token payload.result)
    | none => .error (.deserialization none)
  else .error (.protocol ("unknown operation '" ++ envelope.topic ++ "'"))

/-- Has a request served. -/
def Service.serve {σ : Type} (service : Service σ) (s : σ) : Request → Except Failure Grant × σ
  | .pull token =>
    let (answer, s) := service.pull token s
    (answer.map .job, s)
  | .push token result =>
    let (answer, s) := service.push token result s
    (answer.map fun _ => .accepted, s)

/-- The reply that tells the peer what was granted, or why nothing was. -/
def replyTo (request : Envelope) (now : Time.Timestamp) : Except Failure Grant → Envelope
  | .ok (.job job) => request.reply now jobTopic (⟨job⟩ : JobReply).toValue
  | .ok .accepted => request.reply now ackTopic .nil
  | .error failure => request.reply now errorTopic (⟨failure.message⟩ : ErrorReply).toValue

/-- Answers an envelope. The service is asked only if the envelope is a request for it. -/
def Service.answer {σ : Type} (service : Service σ) (now : Time.Timestamp) (envelope : Envelope)
    (s : σ) : Envelope × σ :=
  match Request.ofEnvelope envelope with
  | .error failure => (replyTo envelope now (.error failure), s)
  | .ok request =>
    let (outcome, s) := service.serve s request
    (replyTo envelope now outcome, s)

/-! ## Frames -/

/-- The envelope in the frames of a message: empty frames in front are skipped, the first frame left
is the topic, and the second is the envelope. -/
def envelopeOfFrames? (frames : List Bytes) : Option Envelope :=
  match frames.dropWhile List.isEmpty with
  | _ :: envelope :: _ => Envelope.ofBytes? envelope
  | _ => none

/-- The frames of an envelope: its topic, then the envelope itself. -/
def Envelope.frames (envelope : Envelope) : List Bytes :=
  [Text.Utf8.encode envelope.topic, envelope.toBytes]

/-- Who sent a message, which the first frame tells, and the envelope in it. Anything else is no
request. -/
def splitRequest? : List Bytes → Option (Bytes × Envelope)
  | [] => none
  | identity :: frames => (envelopeOfFrames? frames).map fun envelope => (identity, envelope)

/-- The frames of a reply, led by the one it goes to. -/
def replyFrames (identity : Bytes) (reply : Envelope) : List Bytes := identity :: reply.frames

/-- Takes a message in and gives the message that answers it, if it is a request. -/
def Service.respond {σ : Type} (service : Service σ) (now : Time.Timestamp) (frames : List Bytes)
    (s : σ) : Option (List Bytes) × σ :=
  match splitRequest? frames with
  | none => (none, s)
  | some (identity, envelope) =>
    let (reply, s) := service.answer now envelope s
    (some (replyFrames identity reply), s)

/-! ## Many requests at once -/

/-- Whether a service can grant this to a request. -/
def Grant.suits : Grant → Request → Bool
  | .job _, .pull _ => true
  | .accepted, .push _ _ => true
  | _, _ => false

/-- A request in the hands of a server. -/
structure Handling where
  /-- Who sent the request. -/
  identity : Bytes
  /-- The request. -/
  request : Envelope
  /-- What the service has been asked on its account. -/
  call : Option Request := none
  /-- The reply that has been sent. -/
  reply : Option Envelope := none
  deriving DecidableEq

/-- The message that has been sent for a request. -/
def Handling.message? (handling : Handling) : Option (List Bytes) :=
  handling.reply.map (replyFrames handling.identity)

/-- A server at one moment. It handles every request on its own, so the others go on while the
service has not answered one of them. -/
structure Server where
  /-- The requests that have been read, oldest first. -/
  handlings : List Handling := []
  /-- What the service has been asked, oldest first, each with the position of the request on whose
  account it was asked. -/
  calls : List (Nat × Request) := []
  /-- The messages that have been sent, oldest first. -/
  sent : List (List Bytes) := []
  deriving DecidableEq

namespace Server

/-- What happens on a server. -/
inductive Move where
  /-- A message arrives. -/
  | receive (frames : List Bytes)
  /-- The request at a position is looked at: the service is asked, or it is turned down. -/
  | ask (position : Nat) (now : Time.Timestamp)
  /-- The service answers what it was asked on account of the request at a position. -/
  | answer (position : Nat) (now : Time.Timestamp) (outcome : Except Failure Grant)

/-- Sends the reply to the request at a position. -/
def send (server : Server) (position : Nat) (handling : Handling) (reply : Envelope) : Server :=
  { server with
      handlings := server.handlings.set position { handling with reply := some reply }
      sent := server.sent ++ [replyFrames handling.identity reply] }

/-- A message arrives; what is no request is dropped. -/
def receive (server : Server) (frames : List Bytes) : Server :=
  match splitRequest? frames with
  | none => server
  | some (identity, request) =>
    { server with handlings := server.handlings ++ [{ identity := identity, request := request }] }

/-- Looks at a request that has not been looked at. -/
def ask (server : Server) (position : Nat) (now : Time.Timestamp) : Server :=
  match server.handlings[position]? with
  | none => server
  | some handling =>
    if handling.call.isNone ∧ handling.reply.isNone then
      match Request.ofEnvelope handling.request with
      | .error failure =>
        server.send position handling (replyTo handling.request now (.error failure))
      | .ok call =>
        { server with
            handlings := server.handlings.set position { handling with call := some call }
            calls := server.calls ++ [(position, call)] }
    else server

/-- The service answers, which it does once. -/
def answer (server : Server) (position : Nat) (now : Time.Timestamp)
    (outcome : Except Failure Grant) : Server :=
  match server.handlings[position]? with
  | none => server
  | some handling =>
    match handling.call, handling.reply with
    | some call, none =>
      if outcome.toOption.all (·.suits call) then
        server.send position handling (replyTo handling.request now outcome)
      else server
    | _, _ => server

/-- Carries out a move. -/
def step (server : Server) : Move → Server
  | .receive frames => server.receive frames
  | .ask position now => server.ask position now
  | .answer position now outcome => server.answer position now outcome

/-- Carries out a sequence of moves. -/
def run (server : Server) (moves : List Move) : Server := moves.foldl step server

end Server

end StressBatch.Link
