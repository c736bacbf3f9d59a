import StressBatch.Link.Server
import StressBatch.Proofs.Msgpack.Reading
import StressBatch.Proofs.Msgpack.Record
import StressBatch.Proofs.Time.Timestamp

/-!
# Envelopes are read as they were written

An envelope that can be delivered at all is the one that its frames are read as, and its payload is
read as the value it was written from.
-/

namespace StressBatch.Link

open Msgpack

variable {envelope : Envelope} {payload : Value}

/-! ## Fields -/

theorem CorrelationId.ofValue?_toValue (id : CorrelationId) : ofValue? id.toValue = some id :=
  dif_pos id.length_bytes

namespace Envelope

theorem timestampOfValue?_text {t : Time.Timestamp} (h : t.Sound) :
    timestampOfValue? (.text t.text) = some t := by
  have hdecoded : timestampOfValue? (.text t.text) =
      (Text.Utf8.decode? (Text.Utf8.encode t.text)).bind Time.Timestamp.ofText? := rfl
  rw [hdecoded, Text.Utf8.decode?_encode, Option.bind_some, Time.Timestamp.ofText?_text h]

theorem versionOfValue?_uint (version : UInt16) :
    versionOfValue? (.uint version.toNat) = some version := by
  have hlt : version.toNat < Text.word16 := version.toNat_lt
  rw [versionOfValue?, Value.natBelow?_uint hlt, Option.map_some, UInt16.ofNat_toNat]

theorem ofValue?_toValue (h : envelope.timestamp.Sound) :
    ofValue? envelope.toValue = some envelope := by
  have hfields : envelope.toValue.fields? fieldNames =
      some ⟨[some (.text envelope.topic), some (.bin envelope.payload),
        some (.text envelope.timestamp.text), some envelope.correlationId.toValue,
        some (.uint envelope.version.toNat)], true⟩ := rfl
  have hpayload : payloadOfValue? (.bin envelope.payload) = some envelope.payload := rfl
  rw [ofValue?, hfields]
  simp [Fields.required, Fields.orDefault, hpayload, timestampOfValue?_text h,
    CorrelationId.ofValue?_toValue, versionOfValue?_uint]

/-! ## Bytes -/

/-- Whether the format has room for the payload: it counts the bytes of one in 32 bits. -/
def Fits (envelope : Envelope) : Prop := envelope.payload.length < Value.sizeBound

instance (envelope : Envelope) : Decidable envelope.Fits := inferInstanceAs (Decidable (_ < _))

/-- Whether an envelope reaches the other side: there is such a moment, the frame of the topic is
not taken for an empty one, and the format has room for the topic and the payload. -/
structure Deliverable (envelope : Envelope) : Prop where
  sound : envelope.timestamp.Sound
  topic_ne : envelope.topic ≠ ""
  topic_length : (Text.Utf8.encode envelope.topic).length < Value.sizeBound
  fits : envelope.Fits

/-- The format has room for an envelope as soon as it has room for the topic and the payload. -/
theorem writable_toValue (hsound : envelope.timestamp.Sound)
    (htopic : (Text.Utf8.encode envelope.topic).length < Value.sizeBound) (hfits : envelope.Fits) :
    envelope.toValue.Writable maxDepth := by
  have htime : (Text.Utf8.encode envelope.timestamp.text).length < Value.sizeBound := by
    have hbytes := Text.Utf8.length_encode_le envelope.timestamp.text
    have hchars := Time.Timestamp.length_text_le hsound
    rw [Value.sizeBound]
    omega
  have hid : envelope.correlationId.bytes.length < Value.sizeBound := by
    rw [envelope.correlationId.length_bytes]
    decide
  have hversion : envelope.version.toNat < wordCount 8 :=
    Nat.lt_trans envelope.version.toNat_lt (by decide)
  exact ⟨by decide, (by decide : 5 < Value.sizeBound), htopic, hfits, htime, hid, hversion, trivial⟩

theorem ofBytes?_of_writable (hsound : envelope.timestamp.Sound)
    (hwritable : envelope.toValue.Writable maxDepth) :
    ofBytes? envelope.toBytes = some envelope := by
  rw [ofBytes?, toBytes, Value.ofBytes?_encode hwritable, Option.bind_some, ofValue?_toValue hsound]

theorem ofBytes?_toBytes (h : envelope.Deliverable) :
    ofBytes? envelope.toBytes = some envelope :=
  ofBytes?_of_writable h.sound (writable_toValue h.sound h.topic_length h.fits)

/-- Every envelope is read from its own bytes, whatever its topic, payload, correlation id and
version are, as long as the format has room for it and there is such a moment. -/
theorem envelope_round_trip (envelope : Envelope) (hsound : envelope.timestamp.Sound)
    (htopic : (Text.Utf8.encode envelope.topic).length < Value.sizeBound) (hfits : envelope.Fits) :
    ofBytes? envelope.toBytes = some envelope := by
  have hwritable : envelope.toValue.Writable maxDepth := writable_toValue hsound htopic hfits
  exact ofBytes?_of_writable hsound hwritable

/-- An envelope without a topic and of the highest version, made one nanosecond before the leap day
of the year -4. -/
def ancientEnvelope : Envelope where
  topic := ""
  payload := [0xc0, 0xff]
  timestamp := ⟨-62288352001, 999999999⟩
  correlationId := .zero
  version := 65535

theorem envelope_round_trip_ancient :
    ancientEnvelope.timestamp.text = "-0004-02-28T23:59:59.999999999Z" ∧
      ofBytes? ancientEnvelope.toBytes = some ancientEnvelope :=
  ⟨by decide +kernel,
    envelope_round_trip ancientEnvelope (by decide) (by decide) (by decide)⟩

/-- A payload that fits is read as the value it was written from. -/
theorem decode?_of_payload {α : Type} (hfits : envelope.Fits)
    (hpayload : envelope.payload = payload.encode) (hlimited : payload.LimitedBySize maxDepth)
    (read : Value → Option α) : envelope.decode? read = read payload := by
  have hlength : payload.encode.length < Value.sizeBound := hpayload ▸ hfits
  rw [decode?, hpayload, Value.ofBytes?_encode (hlimited hlength), Option.bind_some]

end Envelope

/-! ## Frames -/

theorem envelopeOfFrames?_frames (h : envelope.Deliverable) :
    envelopeOfFrames? envelope.frames = some envelope := by
  have hframe : (Text.Utf8.encode envelope.topic).isEmpty = false := by
    rw [List.isEmpty_eq_false_iff]
    exact Text.Utf8.encode_ne_nil h.topic_ne
  have hdrop : envelope.frames.dropWhile List.isEmpty = envelope.frames := by
    rw [Envelope.frames, List.dropWhile_cons_of_neg]
    simp [hframe]
  rw [envelopeOfFrames?, hdrop]
  exact Envelope.ofBytes?_toBytes h

end StressBatch.Link
