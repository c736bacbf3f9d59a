import StressBatch.ErrorReport
import StressBatch.Time.Span

/-!
# Link failures

Why a call over the link failed. Every failure is a cause; its text is made in one place, `message`.
`Failure.causes` tells what lies beneath it.
-/

namespace StressBatch.Link

/-- Why the network could not be used. -/
inductive NetworkFault where
  /-- There is no way to the other machine. -/
  | unreachable
  /-- Nobody listens there. -/
  | refused
  /-- The address is none of this machine. -/
  | unavailable
  deriving DecidableEq, Repr, Inhabited

namespace NetworkFault

/-- The operating system's number for a fault. -/
def code : NetworkFault → Nat
  | .unreachable => 101
  | .refused => 111
  | .unavailable => 99

/-- The name of a fault. -/
def name : NetworkFault → String
  | .unreachable => "NetworkUnreachable"
  | .refused => "ConnectionRefused"
  | .unavailable => "AddrNotAvailable"

/-- A fault in words. -/
def text : NetworkFault → String
  | .unreachable => "Network is unreachable"
  | .refused => "Connection refused"
  | .unavailable => "Cannot assign requested address"

/-- A fault in words with its number. -/
def message (fault : NetworkFault) : String :=
  fault.text ++ " (os error " ++ toString fault.code ++ ")"

end NetworkFault

/-- Why a call over the link failed. -/
inductive Failure where
  /-- The request cannot be written, for the reason that the writer gives. -/
  | serialization (account : ErrorReport)
  /-- A payload or an envelope cannot be read, for the reason that the reader gives. The readers of
  this library give none. -/
  | deserialization (account : Option ErrorReport)
  /-- The network cannot be used. -/
  | network (fault : NetworkFault)
  /-- The sockets fail in another way, of which they give an account. -/
  | socket (account : ErrorReport)
  /-- The other side went away. -/
  | transport (reason : String)
  /-- No reply came in time. -/
  | timeout (waited : Time.Span)
  /-- The token names no live worker. -/
  | unknownToken (token : String)
  /-- A peer did not keep to the protocol. -/
  | protocol (reason : String)
  deriving DecidableEq, Repr

namespace Failure

/-- The text of a failure. -/
def message : Failure → String
  | .serialization account => "serialization error: " ++ account.message
  | .deserialization (some account) => "deserialization error: " ++ account.message
  | .deserialization none => "deserialization error"
  | .network fault => "zeromq error: Network Error: " ++ fault.message
  | .socket account => "zeromq error: " ++ account.message
  | .transport reason => "transport error: " ++ reason
  | .timeout waited => "no reply after " ++ waited.text
  | .unknownToken token => "unknown token: " ++ token
  | .protocol reason => "protocol violation: " ++ reason

/-- What lies beneath a failure, from the top down. -/
def causes : Failure → List String
  | .serialization account | .deserialization (some account) | .socket account =>
    account.message :: account.causes
  | .network fault => ["Network Error: " ++ fault.message, fault.message]
  | _ => []

end Failure

end StressBatch.Link
