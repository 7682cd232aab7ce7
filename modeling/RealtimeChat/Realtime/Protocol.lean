import RealtimeChat.Foundation.Json
import RealtimeChat.Basic

/-! The wire protocol.

A frame is the JSON document whose text is sent. Version 1 is the historical
pair of a type and its data; version 2 adds the version, a timestamp and the
correlation ids. An inbound frame may have either shape.
-/

set_option autoImplicit false

namespace RealtimeChat.Realtime

open Foundation

inductive Version where
  | v1
  | v2
  deriving DecidableEq, Repr

def defaultVersion : Version := .v1

def Version.toNumber : Version → Int
  | .v1 => 1
  | .v2 => 2

def negotiate : Option Int → Version
  | none => defaultVersion
  | some 1 => .v1
  | some 2 => .v2
  | some _ => defaultVersion

structure Envelope where
  requestId : String := ""
  correlationId : String := ""
  deriving DecidableEq, Repr

/-- `timestamp` is the formatted time at which a version 2 frame is encoded. -/
def encode (version : Version) (event : String) (payload : Json) (envelope : Envelope)
    (timestamp : String) : Json :=
  match version with
  | .v1 => .object [("type", .string event), ("data", payload)]
  | .v2 => .object [("event", .string event), ("version", .number version.toNumber),
      ("timestamp", .string timestamp), ("payload", payload),
      ("request_id", if envelope.requestId = "" then .null else .string envelope.requestId),
      ("correlation_id", if envelope.correlationId = "" then .null else .string envelope.correlationId)]

structure InboundFrame where
  event : String
  payload : Json
  requestId : String
  correlationId : String
  version : Version

/-- A missing field and one of another type read as the empty text. -/
def readString (value : Json) (key : String) : String := ((value.find key).bind Json.text?).getD ""

/-- A payload that is missing or no object reads as the empty object. -/
def readObject (value : Json) (key : String) : Json := ((value.find key).filter Json.isObject).getD (.object [])

def decode (parsed : Json) : Option InboundFrame :=
  let frame (event payload : String) (version : Version) : InboundFrame :=
    ⟨event, readObject parsed payload, readString parsed "request_id", readString parsed "correlation_id", version⟩
  if !parsed.isObject then none
  else if readString parsed "event" ≠ "" then some (frame (readString parsed "event") "payload" .v2)
  else if readString parsed "type" ≠ "" then some (frame (readString parsed "type") "data" .v1)
  else none

def Version.carried (version : Version) (envelope : Envelope) : Envelope :=
  match version with
  | .v1 => {}
  | .v2 => envelope

/-- Printing and parsing JSON texts. What is printed parses to the same document. -/
structure JsonText (Text : Type) where
  dump : Json → Text
  parse : Text → Option Json
  undoes : ∀ value, ∃ parsed, parse (dump value) = some parsed ∧ parsed.Same value

namespace JsonText

variable {Text : Type}

def encode (json : JsonText Text) (version : Version) (event : String) (payload : Json) (envelope : Envelope)
    (timestamp : String) : Text :=
  json.dump (Realtime.encode version event payload envelope timestamp)

def decode (json : JsonText Text) (text : Text) : Option InboundFrame := (json.parse text).bind Realtime.decode

end JsonText

variable {event timestamp : String} {envelope : Envelope}

section RoundTrip

variable {parsed document : Json} {key : String}

section

variable (same : parsed.Same document)

include same

theorem readString_of_text {text : String}
    (found : document.find key = some (.string text)) : readString parsed key = text := by
  obtain ⟨value, here, text?⟩ := same.find_some found
  rw [readString, here, Option.bind_some, text?.text?]
  rfl

theorem readString_of_none (absent : document.find key = none) : readString parsed key = "" := by
  rw [readString, same.find_none absent]
  rfl

theorem readString_id {id : String}
    (found : document.find key = some (if id = "" then .null else .string id)) : readString parsed key = id := by
  split at found
  · next unknown =>
    obtain ⟨value, here, isNull⟩ := same.find_some found
    rw [readString, here, Option.bind_some, isNull.text?, unknown]
    rfl
  · exact readString_of_text same found

theorem readObject_of_object {payload : Json} (found : document.find key = some payload)
    (isObject : payload.isObject = true) : (readObject parsed key).Same payload := by
  obtain ⟨value, here, value_same⟩ := same.find_some found
  rw [readObject, here, Option.filter_some, value_same.isObject, if_pos isObject]
  exact value_same

end

theorem decode_v1 {payload : Json} (same : parsed.Same (encode .v1 event payload envelope timestamp))
    (named : event ≠ "") (isObject : payload.isObject) :
    ∃ frame, decode parsed = some frame ∧ frame.version = .v1 ∧ frame.event = event ∧ frame.payload.Same payload ∧
      frame.requestId = "" ∧ frame.correlationId = "" := by
  have type : readString parsed "type" = event := readString_of_text same rfl
  have noEvent : readString parsed "event" = "" := readString_of_none same rfl
  have object : parsed.isObject = true := same.isObject
  refine ⟨⟨event, readObject parsed "data", "", "", .v1⟩, ?_, rfl, rfl,
    readObject_of_object same rfl isObject, rfl, rfl⟩
  have requestId : readString parsed "request_id" = "" := readString_of_none same rfl
  have correlationId : readString parsed "correlation_id" = "" := readString_of_none same rfl
  simp [decode, object, noEvent, type, named, requestId, correlationId]

theorem decode_v2 {payload : Json} (same : parsed.Same (encode .v2 event payload envelope timestamp))
    (named : event ≠ "") (isObject : payload.isObject) :
    ∃ frame, decode parsed = some frame ∧ frame.version = .v2 ∧ frame.event = event ∧ frame.payload.Same payload ∧
      frame.requestId = envelope.requestId ∧ frame.correlationId = envelope.correlationId := by
  have name : readString parsed "event" = event := readString_of_text same rfl
  have object : parsed.isObject = true := same.isObject
  refine ⟨⟨event, readObject parsed "payload", envelope.requestId, envelope.correlationId, .v2⟩, ?_, rfl, rfl,
    readObject_of_object same rfl isObject, rfl, rfl⟩
  have requestId : readString parsed "request_id" = envelope.requestId := readString_id same rfl
  have correlationId : readString parsed "correlation_id" = envelope.correlationId := readString_id same rfl
  simp [decode, object, name, named, requestId, correlationId]

theorem find_of_readString (nonempty : readString parsed key ≠ "") :
    ∃ text, text ≠ "" ∧ parsed.find key = some (.string text) := by
  cases found : parsed.find key with
  | none => exact absurd (by rw [readString, found]; rfl) nonempty
  | some value =>
    cases value with
    | string text =>
      have read : readString parsed key = text := by rw [readString, found]; rfl
      exact ⟨text, read ▸ nonempty, rfl⟩
    | null | bool | number | decimal | array | object => exact absurd (by rw [readString, found]; rfl) nonempty

theorem decode_accepts {frame : InboundFrame} (accepted : decode parsed = some frame) :
    parsed.isObject = true ∧ ∃ key ∈ ["event", "type"], ∃ text, text ≠ "" ∧ parsed.find key = some (.string text) := by
  simp only [decode] at accepted
  split at accepted
  · cases accepted
  · next object =>
    refine ⟨by simpa using object, ?_⟩
    split at accepted
    · next named => exact ⟨"event", by simp, find_of_readString named⟩
    · split at accepted
      · next named => exact ⟨"type", by simp, find_of_readString named⟩
      · cases accepted

end RoundTrip

/-- A frame that is encoded and decoded is the same frame, of the version it was encoded in; version
1 has no ids. Nothing is accepted but an object with a name under `event` or `type`. -/
theorem frames_round_trip {Text : Type} (json : JsonText Text) :
    (∀ version event payload envelope timestamp, event ≠ "" → payload.isObject = true →
      ∃ frame, json.decode (json.encode version event payload envelope timestamp) = some frame ∧
        frame.version = version ∧ frame.event = event ∧ frame.payload.Same payload ∧
        frame.requestId = (version.carried envelope).requestId ∧
        frame.correlationId = (version.carried envelope).correlationId) ∧
    ∀ text frame, json.decode text = some frame → ∃ parsed, json.parse text = some parsed ∧ parsed.isObject = true ∧
      ∃ key ∈ ["event", "type"], ∃ name, name ≠ "" ∧ parsed.find key = some (.string name) := by
  refine ⟨fun version event payload envelope timestamp named isObject => ?_, fun text frame accepted => ?_⟩
  · obtain ⟨parsed, parses, same⟩ := json.undoes (encode version event payload envelope timestamp)
    rw [JsonText.decode, JsonText.encode, parses, Option.bind_some]
    cases version with
    | v1 => exact decode_v1 same named isObject
    | v2 => exact decode_v2 same named isObject
  · obtain ⟨parsed, parses, accepted⟩ := Option.bind_eq_some_iff.mp accepted
    exact ⟨parsed, parses, decode_accepts accepted⟩

def plainJson : JsonText Json := ⟨id, some, fun value => ⟨value, rfl, .refl value⟩⟩

theorem frames_round_trip_ping :
    ∃ frame, plainJson.decode (plainJson.encode .v2 "ping" (.object [("event", .string "pong")]) ⟨"r1", ""⟩ "now") =
        some frame ∧ frame.version = .v2 ∧ frame.event = "ping" ∧
      frame.payload.Same (.object [("event", .string "pong")]) ∧ frame.requestId = "r1" ∧ frame.correlationId = "" :=
  (frames_round_trip plainJson).1 .v2 "ping" _ ⟨"r1", ""⟩ "now" (by decide) rfl

/-- The frames of one fan-out, each encoded when the first recipient of its version is reached. -/
structure FrameCache where
  event : String
  data : Json
  envelope : Envelope
  timestamp : String
  v1 : Option Json
  v2 : Option Json

def FrameCache.create (event : String) (data : Json) (envelope : Envelope) (timestamp : String) : FrameCache :=
  ⟨event, data, envelope, timestamp, none, none⟩

def FrameCache.forVersion (cache : FrameCache) : Version → FrameCache × Json
  | .v2 =>
    match cache.v2 with
    | some frame => (cache, frame)
    | none =>
      let frame := encode .v2 cache.event cache.data cache.envelope cache.timestamp
      ({ cache with v2 := some frame }, frame)
  | .v1 =>
    match cache.v1 with
    | some frame => (cache, frame)
    | none =>
      let frame := encode .v1 cache.event cache.data cache.envelope cache.timestamp
      ({ cache with v1 := some frame }, frame)

structure FrameCache.Of (cache : FrameCache) (event : String) (data : Json) (envelope : Envelope)
    (timestamp : String) : Prop where
  event_eq : cache.event = event
  data_eq : cache.data = data
  envelope_eq : cache.envelope = envelope
  timestamp_eq : cache.timestamp = timestamp
  v1_eq : ∀ frame, cache.v1 = some frame → frame = encode .v1 event data envelope timestamp
  v2_eq : ∀ frame, cache.v2 = some frame → frame = encode .v2 event data envelope timestamp

theorem FrameCache.of_create (event : String) (data : Json) (envelope : Envelope) (timestamp : String) :
    (FrameCache.create event data envelope timestamp).Of event data envelope timestamp :=
  ⟨rfl, rfl, rfl, rfl, fun _ found => (nomatch found), fun _ found => (nomatch found)⟩

theorem FrameCache.Of.forVersion {cache : FrameCache} {data : Json} (holds : cache.Of event data envelope timestamp)
    (version : Version) :
    (cache.forVersion version).2 = encode version event data envelope timestamp ∧
      (cache.forVersion version).1.Of event data envelope timestamp := by
  obtain ⟨rfl, rfl, rfl, rfl, first, second⟩ := holds
  cases version with
  | v1 =>
    cases found : cache.v1 with
    | some frame => simpa [FrameCache.forVersion, found] using
        ⟨first frame found, ⟨rfl, rfl, rfl, rfl, first, second⟩⟩
    | none =>
      simp only [FrameCache.forVersion, found, true_and]
      exact ⟨rfl, rfl, rfl, rfl, fun _ same => (Option.some.inj same).symm, second⟩
  | v2 =>
    cases found : cache.v2 with
    | some frame => simpa [FrameCache.forVersion, found] using
        ⟨second frame found, ⟨rfl, rfl, rfl, rfl, first, second⟩⟩
    | none =>
      simp only [FrameCache.forVersion, found, true_and]
      exact ⟨rfl, rfl, rfl, rfl, first, fun _ same => (Option.some.inj same).symm⟩

end RealtimeChat.Realtime
