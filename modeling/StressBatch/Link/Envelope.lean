import StressBatch.Msgpack.Reading
import StressBatch.Msgpack.Record
import StressBatch.Text.Hex
import StressBatch.Time.Timestamp

/-!
# Envelopes

What travels over the link: the name of an operation, its payload, and a correlation id that a reply
shares with its request. An envelope is written as a list of its five fields; it is read as any
record is.
-/

namespace StressBatch.Link

open Msgpack

/-- The number of bytes of a correlation id. -/
def correlationSize : Nat := 16

/-- What pairs a reply with its request. -/
structure CorrelationId where
  /-- The bytes of the id. -/
  bytes : Bytes
  /-- There are sixteen of them. -/
  length_bytes : bytes.length = correlationSize
  deriving DecidableEq, Repr

namespace CorrelationId

/-- The id of a byte sequence of the right length. -/
def ofBytes? (bytes : Bytes) : Option CorrelationId :=
  if h : bytes.length = correlationSize then some ⟨bytes, h⟩ else none

/-- The id whose bytes are all zero. -/
def zero : CorrelationId := ⟨List.replicate correlationSize 0, by simp⟩

instance : Inhabited CorrelationId := ⟨zero⟩

/-- The text of an id: groups of 4, 2, 2, 2 and 6 bytes with hyphens between them. -/
def text (id : CorrelationId) : String :=
  let group (start size : Nat) := Text.Hex.encode ((id.bytes.drop start).take size)
  String.intercalate "-" [group 0 4, group 4 2, group 6 2, group 8 2, group 10 6]

/-- The id written by hexadecimal digits, with or without hyphens. -/
def ofText? (s : String) : Option CorrelationId :=
  (Text.Hex.decodeChars? (s.toList.filter (· != '-'))).bind ofBytes?

/-- The value of an id. -/
def toValue (id : CorrelationId) : Value := .bin id.bytes

/-- Reads an id. Bytes under the tag of a text count only if they are no text. -/
def ofValue? : Value → Option CorrelationId
  | .bin bytes => ofBytes? bytes
  | .str bytes => if (Text.Utf8.decode? bytes).isNone then ofBytes? bytes else none
  | _ => none

end CorrelationId

/-- A request or a reply. -/
structure Envelope where
  /-- The operation. -/
  topic : String
  /-- The bytes of the payload. -/
  payload : Bytes
  /-- When the envelope was made. -/
  timestamp : Time.Timestamp
  /-- What a request shares with its reply. -/
  correlationId : CorrelationId
  /-- The version of the envelope's form. -/
  version : UInt16
  deriving DecidableEq, Repr, Inhabited

namespace Envelope

/-- The version that this library writes and serves. -/
def currentVersion : UInt16 := 1

/-- The value of an envelope: the list of its fields. -/
def toValue (envelope : Envelope) : Value :=
  .array [.text envelope.topic, .bin envelope.payload, .text envelope.timestamp.text,
    envelope.correlationId.toValue, .uint envelope.version.toNat]

/-- The bytes of an envelope. -/
def toBytes (envelope : Envelope) : Bytes := envelope.toValue.encode

/-- The names of the fields, in order. -/
def fieldNames : List String := ["topic", "payload", "timestamp", "correlation_id", "version"]

/-- The bytes of a payload, which may come under the tag of a text. -/
def payloadOfValue? : Value → Option Bytes
  | .bin bytes | .str bytes => some bytes
  | _ => none

/-- Reads a timestamp. -/
def timestampOfValue? : Value → Option Time.Timestamp
  | .str bytes => (Text.Utf8.decode? bytes).bind Time.Timestamp.ofText?
  | _ => none

/-- Reads a version. -/
def versionOfValue? (value : Value) : Option UInt16 :=
  (value.natBelow? Text.word16).map UInt16.ofNat

/-- Reads an envelope. -/
def ofValue? (value : Value) : Option Envelope := do
  let fields ← value.fields? fieldNames
  return {
    topic := ← fields.required 0 Value.text?
    payload := ← fields.required 1 payloadOfValue?
    timestamp := ← fields.required 2 timestampOfValue?
    correlationId := ← fields.required 3 CorrelationId.ofValue?
    version := ← fields.orDefault 4 currentVersion versionOfValue? }

/-- Reads the envelope at the front of a byte sequence. -/
def ofBytes? (bytes : Bytes) : Option Envelope := (Value.ofBytes? bytes).bind ofValue?

/-- What is new about an envelope: when it is made and, for a request, its id. -/
structure Stamp where
  /-- The time. -/
  timestamp : Time.Timestamp
  /-- An id that no other request has. -/
  correlationId : CorrelationId
  deriving DecidableEq, Repr, Inhabited

/-- The request with the given payload. -/
def request (stamp : Stamp) (topic : String) (payload : Value) : Envelope where
  topic := topic
  payload := payload.encode
  timestamp := stamp.timestamp
  correlationId := stamp.correlationId
  version := currentVersion

/-- The reply to a request; it takes over the request's id. -/
def reply (request : Envelope) (timestamp : Time.Timestamp) (topic : String) (payload : Value) :
    Envelope where
  topic := topic
  payload := payload.encode
  timestamp := timestamp
  correlationId := request.correlationId
  version := currentVersion

/-- Reads the payload of an envelope by `read`. -/
def decode? {α : Type} (envelope : Envelope) (read : Value → Option α) : Option α :=
  (Value.ofBytes? envelope.payload).bind read

end Envelope

end StressBatch.Link
