import ProctorEngine.Inference.Types

/-!
# Client messages

The typed envelopes a client may send. Every `Field` bound and validator of the payload
models is a field of the structure or part of its type, so a `ClientMessage` is one that
pydantic accepted; how a JSON value becomes one is `Websocket/Parse.lean`.
-/

set_option autoImplicit false

namespace ProctorEngine

/-- `VALID_SAMPLE_RATES`, in Hz. -/
def validSampleRates : List Nat := [8000, 16000, 32000, 48000]

/-- `VALID_FRAME_DURATIONS`, in ms. -/
def validFrameDurations : List Nat := [10, 20, 30]

/-- `VALID_BROWSER_EVENTS`. -/
def validBrowserEvents : List String :=
  ["visibilitychange", "blur", "focus", "fullscreenchange", "copy", "paste", "contextmenu"]

/-- `VALID_FRAME_ENCODINGS`. -/
def validFrameEncodings : List String := ["jpeg", "png", "webp"]

/-! ## 1. Payloads -/

/-- A bounding box `[x, y, w, h]`, each component normalised to `[0, 1]`. -/
structure BBox where
  x : Score
  y : Score
  w : Score
  h : Score
deriving DecidableEq

/-- The four components as the list that crosses the wire. -/
def BBox.components (b : BBox) : List ℚ := [b.x.val, b.y.val, b.w.val, b.h.val]

structure TelemetryLightPayload where
  faceCount : Nat
  confidence : Score
  bbox : Option BBox
deriving DecidableEq

structure TelemetryHeavyFramePayload where
  frame : String
  width : Nat
  height : Nat
  encoding : String
  frameNonempty : frame ≠ ""
  resolutionPositive : 0 < width ∧ 0 < height
  encodingValid : encoding ∈ validFrameEncodings
deriving DecidableEq

structure TelemetryAudioChunkPayload where
  audio : String
  sampleRateHz : Nat
  durationMs : Nat
  audioNonempty : audio ≠ ""
  rateValid : sampleRateHz ∈ validSampleRates
  durationValid : durationMs ∈ validFrameDurations
deriving DecidableEq

structure TelemetryBrowserEventPayload where
  eventType : String
  detail : Dict
  eventTypeValid : eventType ∈ validBrowserEvents
deriving DecidableEq

structure KillSwitchAcknowledgePayload where
  flagId : String
  answeredQuestions : Option Nat
  flagIdNonempty : flagId ≠ ""
deriving DecidableEq

/-! ## 2. Envelopes -/

/-- The payload of an envelope, by its `type`. -/
inductive ClientPayload where
  | telemetryLight (payload : TelemetryLightPayload)
  | telemetryHeavyFrame (payload : TelemetryHeavyFramePayload)
  | audioChunk (payload : TelemetryAudioChunkPayload)
  | browserEvent (payload : TelemetryBrowserEventPayload)
  | killSwitchAck (payload : KillSwitchAcknowledgePayload)
deriving DecidableEq

/-- An accepted envelope. -/
structure ClientMessage where
  sessionId : String
  capturedAt : DateTime
  payload : ClientPayload
  sessionIdNonempty : sessionId ≠ ""
deriving DecidableEq

end ProctorEngine
