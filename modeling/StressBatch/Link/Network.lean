import StressBatch.Link.Endpoint
import StressBatch.Link.Failure
import StressBatch.Text.Decimal

/-!
# Networks

What the link needs to know about the network: where a server can listen, and whether a client gets
through to it.
-/

namespace StressBatch.Link

/-- A network, as far as the link is concerned. -/
structure Network where
  /-- Why no connection can be made, if so. -/
  obstacle : Option NetworkFault
  /-- The port that a server gets when it asks for any free one. -/
  freePort : UInt16
  deriving DecidableEq, Repr

namespace Network

/-- Connects to a server. -/
def connect (network : Network) (_endpoint : Endpoint) : Except Failure Unit :=
  match network.obstacle with
  | some fault => .error (.network fault)
  | none => .ok ()

/-- The parts of a text between points. -/
def parts (text : String) : List (List Char) :=
  text.toList.foldr (fun c parts =>
    if c = '.' then [] :: parts
    else
      match parts with
      | [] => [[c]]
      | part :: rest => (c :: part) :: rest) [[]]

/-- One number of an address: at most three digits, without a zero in front. -/
def octet? (digits : List Char) : Option Nat :=
  if digits.length ≤ 3 ∧ (digits.head? ≠ some '0' ∨ digits.length = 1) then
    (Text.digits? digits).filter (· < 256)
  else none

/-- The four numbers of an address. -/
def address? (host : String) : Option (List Nat) :=
  let octets := parts host
  if octets.length = 4 then octets.mapM octet? else none

/-- Whether a server can listen on a host: it has to name this very machine. -/
def canListen (host : String) : Bool :=
  match address? host with
  | some [0, 0, 0, 0] => true
  | some (127 :: _) => true
  | _ => host == "localhost" || host == "::1" || host == "::"

/-- Where a server listens that asks for a free port on a host. -/
def listen (network : Network) (host : String) : Except Failure Endpoint :=
  if canListen host then .ok ⟨host, network.freePort⟩ else .error (.network .unavailable)

end Network

end StressBatch.Link
