import StressBatch.Text.Decimal

/-!
# Link endpoints

Where a link server listens: a host and a port, as workers get them on their command line, and the
address text that a socket is bound or connected to.
-/

namespace StressBatch.Link

/-- A host and a port. -/
structure Endpoint where
  /-- The host name or address. -/
  host : String
  /-- The port; zero asks for any free port. -/
  port : UInt16
  deriving DecidableEq, Repr, Inhabited

namespace Endpoint

/-- The endpoint on any free port of a host. -/
def ephemeral (host : String) : Endpoint := ⟨host, 0⟩

/-- The host as it stands in an address: in brackets if it contains a colon. -/
def hostText (endpoint : Endpoint) : String :=
  if endpoint.host.toList.contains ':' then "[" ++ endpoint.host ++ "]" else endpoint.host

/-- The text of a port. -/
def portText (endpoint : Endpoint) : String := toString endpoint.port.toNat

/-- The socket address. -/
def address (endpoint : Endpoint) : String :=
  "tcp://" ++ endpoint.hostText ++ ":" ++ endpoint.portText

/-- Reads the host and the port from two arguments; the host must not be empty. -/
def ofArgs? (host port : String) : Option Endpoint :=
  match Text.numeral? Text.word16 port with
  | none => none
  | some n => if host = "" then none else some ⟨host, UInt16.ofNat n⟩

end Endpoint

end StressBatch.Link
