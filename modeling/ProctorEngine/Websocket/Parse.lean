import ProctorEngine.Lib.UtcTime
import ProctorEngine.Websocket.Client

/-!
# `parse_client_message`

From the JSON value of a frame to a typed envelope. The `type` member selects a model from
`_TYPE_TO_MODEL`, and the model validates the whole object: every required field present and
readable, every bound and validator met, **no member the model does not name**
(`extra="forbid"`). Any failure of that validation is one `EnvelopeValidationError`.

The source leaves the reading of scalars to pydantic, which is lax: an integer field also
takes `true`, `3.0` and `"3"`. Those readings are the fields of `Pydantic`, with what the
client relies on: a JSON number is read as itself, a fractional one is not an integer, and
the text `toISOString` writes is read as its instant.
-/

set_option autoImplicit false

namespace ProctorEngine

/-- pydantic's lax readings of a JSON value, and the texts it and `str()` give for one. -/
structure Pydantic where
  int : Json → Option Int
  float : Json → Option ℚ
  datetime : Json → Option DateTime
  /-- The account of a failed validation. -/
  describe : Json → String
  /-- `str(value)`. -/
  str : Json → String
  int_num : ∀ q : ℚ, int (.num q) = if q.den = 1 then some q.num else none
  float_num : ∀ q : ℚ, float (.num q) = some q
  datetime_toISOString : ∀ t : UtcTime, datetime (.str t.toISOString) = some t.micros

/-- The readings without the lax ones. -/
def Pydantic.strict : Pydantic where
  int
    | .num q => if q.den = 1 then some q.num else none
    | _ => none
  float
    | .num q => some q
    | _ => none
  datetime
    | .str s => (UtcTime.ofISOString? s).map (·.micros)
    | _ => none
  describe _ := "validation error"
  str
    | .str s => s
    | _ => ""
  int_num _ := rfl
  float_num _ := rfl
  datetime_toISOString t := by
    show (UtcTime.ofISOString? t.toISOString).map _ = _
    rw [UtcTime.ofISOString?_toISOString]
    rfl

/-! ## 1. Fields -/

/-- A required field. -/
def required {α : Type} (fields : Dict) (name : String) (read : Json → Option α) : Option α :=
  (Json.get? fields name).bind read

/-- A field with a default, which is not itself validated. -/
def withDefault {α : Type} (fields : Dict) (name : String) (default : α)
    (read : Json → Option α) : Option α :=
  match Json.get? fields name with
  | none => some default
  | some value => read value

/-- `extra="forbid"`. -/
def forbidExtra (fields : Dict) (names : List String) : Option Unit :=
  if fields.all fun f => f.1 ∈ names then some () else none

def readStr : Json → Option String
  | .str s => some s
  | _ => none

/-- `str` with `min_length=1`. -/
def readNonempty (value : Json) : Option { s : String // s ≠ "" } := do
  let s ← readStr value
  if h : s ≠ "" then some ⟨s, h⟩ else none

/-- A `str` that a validator restricts to a set, or a `Literal`. -/
def readOneOf (allowed : List String) (value : Json) : Option { s : String // s ∈ allowed } := do
  let s ← readStr value
  if h : s ∈ allowed then some ⟨s, h⟩ else none

def readDict : Json → Option Dict
  | .obj fields => some fields
  | _ => none

def readList {α : Type} (read : Json → Option α) : Json → Option (List α)
  | .arr xs => xs.mapM read
  | _ => none

/-- `T | None`. -/
def readOptional {α : Type} (read : Json → Option α) : Json → Option (Option α)
  | .null => some none
  | value => (read value).map some

namespace Pydantic
variable (c : Pydantic)

/-- `int` with `ge=0`. -/
def nonnegInt (value : Json) : Option Nat := do
  let n ← c.int value
  if 0 ≤ n then some n.toNat else none

/-- An `int` that a validator restricts to a set. -/
def intOneOf (allowed : List Nat) (value : Json) : Option { n : Nat // n ∈ allowed } := do
  let n ← c.nonnegInt value
  if h : n ∈ allowed then some ⟨n, h⟩ else none

/-- `float` with `ge=0.0, le=1.0`. -/
def unitFloat (value : Json) : Option Score := do
  let x ← c.float value
  if h : 0 ≤ x ∧ x ≤ 1 then some ⟨x, h.1, h.2⟩ else none

/-- `bbox`: four components, each in `[0, 1]`. -/
def bbox (value : Json) : Option BBox := do
  match ← readList c.unitFloat value with
  | [x, y, w, h] => some ⟨x, y, w, h⟩
  | _ => none

/-- `resolution`: two positive integers. -/
def resolution (value : Json) : Option { r : Nat × Nat // 0 < r.1 ∧ 0 < r.2 } := do
  match ← readList c.int value with
  | [w, h] => if hr : 0 < w.toNat ∧ 0 < h.toNat then some ⟨(w.toNat, h.toNat), hr⟩ else none
  | _ => none

/-! ## 2. Payload models -/

def telemetryLight (value : Json) : Option TelemetryLightPayload := do
  let fields ← readDict value
  forbidExtra fields ["modality", "face_count", "confidence", "bbox"]
  let _ ← withDefault fields "modality" ⟨"face_presence", by decide⟩ (readOneOf ["face_presence"])
  let faceCount ← required fields "face_count" c.nonnegInt
  let confidence ← required fields "confidence" c.unitFloat
  let bbox ← withDefault fields "bbox" none (readOptional c.bbox)
  return ⟨faceCount, confidence, bbox⟩

def telemetryHeavyFrame (value : Json) : Option TelemetryHeavyFramePayload := do
  let fields ← readDict value
  forbidExtra fields ["frame", "resolution", "encoding"]
  let frame ← required fields "frame" readNonempty
  let resolution ← required fields "resolution" c.resolution
  let encoding ← required fields "encoding" (readOneOf validFrameEncodings)
  return ⟨frame.val, resolution.val.1, resolution.val.2, encoding.val, frame.property,
    resolution.property, encoding.property⟩

def audioChunk (value : Json) : Option TelemetryAudioChunkPayload := do
  let fields ← readDict value
  forbidExtra fields ["audio", "sample_rate_hz", "duration_ms"]
  let audio ← required fields "audio" readNonempty
  let sampleRateHz ← required fields "sample_rate_hz" (c.intOneOf validSampleRates)
  let durationMs ← required fields "duration_ms" (c.intOneOf validFrameDurations)
  return ⟨audio.val, sampleRateHz.val, durationMs.val, audio.property, sampleRateHz.property,
    durationMs.property⟩

def browserEvent (value : Json) : Option TelemetryBrowserEventPayload := do
  let fields ← readDict value
  forbidExtra fields ["event_type", "detail"]
  let eventType ← required fields "event_type" (readOneOf validBrowserEvents)
  let detail ← withDefault fields "detail" [] readDict
  return ⟨eventType.val, detail, eventType.property⟩

def killSwitchAck (value : Json) : Option KillSwitchAcknowledgePayload := do
  let fields ← readDict value
  forbidExtra fields ["flag_id", "answered_questions"]
  let flagId ← required fields "flag_id" readNonempty
  let answeredQuestions ← withDefault fields "answered_questions" none (readOptional c.nonnegInt)
  return ⟨flagId.val, answeredQuestions, flagId.property⟩

/-! ## 3. Envelopes -/

/-- `_TYPE_TO_MODEL`: the payload reader of each message type. -/
def typeToModel : String → Option (Json → Option ClientPayload)
  | "telemetry_light" => some fun v => (c.telemetryLight v).map .telemetryLight
  | "telemetry_heavy_frame" => some fun v => (c.telemetryHeavyFrame v).map .telemetryHeavyFrame
  | "audio_chunk" => some fun v => (c.audioChunk v).map .audioChunk
  | "browser_event" => some fun v => (browserEvent v).map .browserEvent
  | "kill_switch_ack" => some fun v => (c.killSwitchAck v).map .killSwitchAck
  | _ => none

/-- `model_cls.model_validate(raw)`; the `type` is already the model's own. -/
def modelValidate (model : Json → Option ClientPayload) (raw : Dict) : Option ClientMessage := do
  forbidExtra raw ["type", "session_id", "captured_at", "payload"]
  let sessionId ← required raw "session_id" readNonempty
  let capturedAt ← required raw "captured_at" c.datetime
  let payload ← required raw "payload" model
  return ⟨sessionId.val, capturedAt, payload, sessionId.property⟩

end Pydantic

inductive EnvelopeValidationError where
  | missingType
  | unknownType (msgType : Json)
  | validationFailed (msgType : String) (raw : Dict)
deriving DecidableEq

/-- What stands before and after a `type` that `_TYPE_TO_MODEL` does not have. -/
def unknownTypeHead : String := "Unknown client message type '"

def unknownTypeTail : String :=
  "'; expected one of ['audio_chunk', 'browser_event', 'kill_switch_ack', " ++
    "'telemetry_heavy_frame', 'telemetry_light']."

/-- What stands before pydantic's account of a failed validation. -/
def validationFailedHead (msgType : String) : String :=
  "Validation failed for message type '" ++ msgType ++ "': "

/-- The message of the exception. -/
def EnvelopeValidationError.text (c : Pydantic) : EnvelopeValidationError → String
  | .missingType => "Message envelope is missing the 'type' field."
  | .unknownType msgType => unknownTypeHead ++ c.str msgType ++ unknownTypeTail
  | .validationFailed msgType raw => validationFailedHead msgType ++ c.describe (.obj raw)

/-- What `parse_client_message` raises: its own error, or the `TypeError` of looking an
    unhashable `type` up in a dict. -/
inductive ParseError where
  | envelope (e : EnvelopeValidationError)
  | unhashableType
deriving DecidableEq

/-- `parse_client_message`. The type is looked at before anything else, and the rest is left to the
    model of the type. -/
def parseClientMessage (c : Pydantic) (raw : Dict) : Except ParseError ClientMessage :=
  match Json.get? raw "type" with
  | none | some .null => .error (.envelope .missingType)
  | some (.arr _) | some (.obj _) => .error .unhashableType
  | some (.str msgType) =>
    match c.typeToModel msgType with
    | none => .error (.envelope (.unknownType (.str msgType)))
    | some model =>
      match c.modelValidate model raw with
      | none => .error (.envelope (.validationFailed msgType raw))
      | some message => .ok message
  | some msgType => .error (.envelope (.unknownType msgType))

end ProctorEngine
