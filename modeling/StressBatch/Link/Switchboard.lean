import StressBatch.Link.Client

/-!
# The calls of a client, step by step

A client serves many calls at once, and each of them takes several steps. A call puts itself on the
list of those that a reply is for, sends its request and waits until it has been given a reply or
its time is over. A call that gives up strikes itself off the list before it returns, so a reply may
still come for it in between. `Client` is what becomes of all this where nothing comes in between.
-/

namespace StressBatch.Link

/-- How far a call has come. -/
inductive Phase where
  /-- It is on the list and has not sent its request. -/
  | sending
  /-- It has sent its request and waits. -/
  | waiting
  /-- It has given up and has not struck itself off the list. -/
  | leaving (failure : Failure)
  /-- It has returned a reply. -/
  | answered (reply : Envelope)
  /-- It has returned without one. -/
  | failed (failure : Failure)
  deriving DecidableEq

/-- Whether a call is over. -/
def Phase.isOver : Phase → Bool
  | .answered _ | .failed _ => true
  | _ => false

/-- A call of a client. -/
structure Call where
  /-- What it asks for. -/
  request : Envelope
  /-- The reply that has been given to it. -/
  reply : Option Envelope := none
  /-- How far it has come. -/
  phase : Phase := .sending
  deriving DecidableEq

/-- The id that a reply to a call bears. -/
def Call.id (call : Call) : CorrelationId := call.request.correlationId

/-- What a call does by itself. -/
inductive Turn where
  /-- It hands its request to the connection. -/
  | send
  /-- The connection is gone when it wants to do so. -/
  | refuse
  /-- It takes the reply that it has been given. -/
  | collect
  /-- It has been given none when its time is over. -/
  | expire
  /-- It has been given none and nobody can give it one any more. -/
  | sever
  deriving DecidableEq, Repr

/-- Why a call fails that cannot send its request. -/
def connectionClosed : Failure := .transport "client event loop closed"

/-- Why a call fails that nobody can give a reply to. -/
def replyClosed : Failure := .transport "reply channel closed unexpectedly"

/-- How far a call has come after its turn, if it is ready for it. -/
def Call.next? (call : Call) (patience : Time.Span) (listed : Bool) (turn : Turn) : Option Phase :=
  match turn, call.phase, call.reply, listed with
  | .send, .sending, _, _ => some .waiting
  | .refuse, .sending, _, _ => some (.leaving connectionClosed)
  | .collect, .waiting, some reply, _ => some (.answered reply)
  | .expire, .waiting, none, _ => some (.leaving (.timeout patience))
  | .sever, .waiting, none, false => some (.leaving replyClosed)
  | _, _, _, _ => none

/-- The calls of a client at one moment. -/
structure Switchboard where
  /-- How long a call waits. -/
  patience : Time.Span := defaultPatience
  /-- The list of the calls that a reply is for: the id of the reply and the position of the call.
  -/
  pending : List (CorrelationId × Nat) := []
  /-- All calls there have been, oldest first. -/
  calls : List Call := []
  deriving DecidableEq

namespace Switchboard

/-- What happens at a client. -/
inductive Move where
  /-- A call with the request begins. -/
  | register (request : Envelope)
  /-- The call at a position has its turn. -/
  | turn (position : Nat) (turn : Turn)
  /-- The call at a position, which has given up, strikes itself off the list and returns. -/
  | leave (position : Nat)
  /-- A message arrives. -/
  | receive (frames : List Bytes)
  deriving DecidableEq

/-- The ids of the replies that are waited for. -/
def ids (board : Switchboard) : List CorrelationId := board.pending.map Prod.fst

/-- The list without the entry of an id. -/
def withoutId (board : Switchboard) (id : CorrelationId) : List (CorrelationId × Nat) :=
  board.pending.filter fun entry => entry.1 ≠ id

/-- A call begins, and its id is its own from now on. -/
def register (board : Switchboard) (request : Envelope) : Switchboard :=
  { board with
      pending := board.withoutId request.correlationId ++
        [(request.correlationId, board.calls.length)]
      calls := board.calls ++ [{ request := request }] }

/-- A call does something by itself. -/
def turn (board : Switchboard) (position : Nat) (turn : Turn) : Switchboard :=
  match board.calls[position]? with
  | none => board
  | some call =>
    let listed := board.pending.any fun entry => entry.2 = position
    match call.next? board.patience listed turn with
    | none => board
    | some phase => { board with calls := board.calls.set position { call with phase := phase } }

/-- A call that has given up returns. -/
def leave (board : Switchboard) (position : Nat) : Switchboard :=
  match board.calls[position]? with
  | none => board
  | some call =>
    match call.phase with
    | .leaving failure =>
      { board with
          pending := board.withoutId call.id
          calls := board.calls.set position { call with phase := .failed failure } }
    | _ => board

/-- A message arrives: a reply goes to the call that is on the list for it, which is struck off.
Anything else is ignored. -/
def receive (board : Switchboard) (frames : List Bytes) : Switchboard :=
  match envelopeOfFrames? frames with
  | none => board
  | some reply =>
    match board.pending.lookup reply.correlationId with
    | none => board
    | some position =>
      { board with
          pending := board.withoutId reply.correlationId
          calls := board.calls.modify position fun call => { call with reply := some reply } }

/-- Carries out a move. -/
def step (board : Switchboard) : Move → Switchboard
  | .register request => board.register request
  | .turn position turn => board.turn position turn
  | .leave position => board.leave position
  | .receive frames => board.receive frames

/-- Carries out a sequence of moves. -/
def run (board : Switchboard) (moves : List Move) : Switchboard := moves.foldl step board

end Switchboard

end StressBatch.Link
