import ProctorEngine.Lib.UtcTime
import ProctorEngine.Websocket.Client

/-!
# The client's envelopes

The outbound half of `envelope.ts`: the payload types as TypeScript declares them, the JSON
they serialise to, and `buildEnvelope`. A `number` is a rational and an optional member that
is absent is left out of the JSON, as `JSON.stringify` leaves out `undefined`.

**The declared types are wider than what the server accepts**: a light payload may carry the
`head_pose_gaze` modality, omit its face count or add `off_screen`, and a `number` need be
neither whole nor in range. `Valid` is the part of each type whose values the wire format
documents.
-/

set_option autoImplicit false

namespace ProctorEngine.Browser

inductive Modality where
  | facePresence | headPoseGaze
deriving DecidableEq, Repr

def Modality.value : Modality → String
  | .facePresence => "face_presence"
  | .headPoseGaze => "head_pose_gaze"

structure TelemetryLightPayload where
  modality : Modality
  faceCount : Option ℚ
  confidence : ℚ
  bbox : Option (ℚ × ℚ × ℚ × ℚ)
  offScreen : Option Bool

structure TelemetryHeavyFramePayload where
  frame : String
  resolution : ℚ × ℚ

structure TelemetryAudioChunkPayload where
  audio : String
  sampleRateHz : { n : Nat // n ∈ validSampleRates }
  durationMs : ℚ

structure TelemetryBrowserEventPayload where
  eventType : { s : String // s ∈ validBrowserEvents }
  detail : Dict

structure KillSwitchAcknowledgePayload where
  flagId : String

inductive ClientPayload where
  | telemetryLight (payload : TelemetryLightPayload)
  | telemetryHeavyFrame (payload : TelemetryHeavyFramePayload)
  | audioChunk (payload : TelemetryAudioChunkPayload)
  | browserEvent (payload : TelemetryBrowserEventPayload)
  | killSwitchAck (payload : KillSwitchAcknowledgePayload)

/-! ## 1. Serialisation -/

/-- An optional member. -/
def optionalMember (name : String) : Option Json → Dict
  | none => []
  | some value => [(name, value)]

def bboxJson : ℚ × ℚ × ℚ × ℚ → Json
  | (x, y, w, h) => .arr [.num x, .num y, .num w, .num h]

def TelemetryLightPayload.toJson (p : TelemetryLightPayload) : Json :=
  .obj <| ("modality", .str p.modality.value) ::
    (optionalMember "face_count" (p.faceCount.map .num) ++ ("confidence", .num p.confidence) ::
      (optionalMember "bbox" (p.bbox.map bboxJson) ++
        optionalMember "off_screen" (p.offScreen.map .bool)))

def TelemetryHeavyFramePayload.toJson (p : TelemetryHeavyFramePayload) : Json :=
  .obj [("frame", .str p.frame),
    ("resolution", .arr [.num p.resolution.1, .num p.resolution.2]), ("encoding", .str "jpeg")]

def TelemetryAudioChunkPayload.toJson (p : TelemetryAudioChunkPayload) : Json :=
  .obj [("audio", .str p.audio), ("sample_rate_hz", .num p.sampleRateHz.val),
    ("duration_ms", .num p.durationMs)]

def TelemetryBrowserEventPayload.toJson (p : TelemetryBrowserEventPayload) : Json :=
  .obj [("event_type", .str p.eventType.val), ("detail", .obj p.detail)]

def KillSwitchAcknowledgePayload.toJson (p : KillSwitchAcknowledgePayload) : Json :=
  .obj [("flag_id", .str p.flagId)]

namespace ClientPayload

/-- `ClientMessageType`. -/
def type : ClientPayload → String
  | .telemetryLight _ => "telemetry_light"
  | .telemetryHeavyFrame _ => "telemetry_heavy_frame"
  | .audioChunk _ => "audio_chunk"
  | .browserEvent _ => "browser_event"
  | .killSwitchAck _ => "kill_switch_ack"

def toJson : ClientPayload → Json
  | .telemetryLight p => p.toJson
  | .telemetryHeavyFrame p => p.toJson
  | .audioChunk p => p.toJson
  | .browserEvent p => p.toJson
  | .killSwitchAck p => p.toJson

end ClientPayload

/-- `buildEnvelope`, with `now` for `new Date()`. -/
def buildEnvelope (payload : ClientPayload) (sessionId : String) (capturedAt : Option UtcTime)
    (now : UtcTime) : Dict :=
  [("type", .str payload.type), ("session_id", .str sessionId), ("payload", payload.toJson),
    ("captured_at", .str (capturedAt.getD now).toISOString)]

/-! ## 2. Valid payloads -/

/-- A number that counts something. -/
def IsCount (q : ℚ) : Prop := q.den = 1 ∧ 0 ≤ q

/-- A number normalised to `[0, 1]`. -/
def InUnit (q : ℚ) : Prop := 0 ≤ q ∧ q ≤ 1

/-- A face-presence result: a count of faces and normalised numbers. -/
@[mk_iff valid_iff]
structure TelemetryLightPayload.Valid (p : TelemetryLightPayload) : Prop where
  modality : p.modality = .facePresence
  faceCount : ∃ n, p.faceCount = some n ∧ IsCount n
  confidence : InUnit p.confidence
  bbox : ∀ b ∈ p.bbox, InUnit b.1 ∧ InUnit b.2.1 ∧ InUnit b.2.2.1 ∧ InUnit b.2.2.2
  offScreen : p.offScreen = none

/-- A frame of some size. -/
@[mk_iff valid_iff]
structure TelemetryHeavyFramePayload.Valid (p : TelemetryHeavyFramePayload) : Prop where
  frame : p.frame ≠ ""
  width : p.resolution.1.den = 1 ∧ 0 < p.resolution.1
  height : p.resolution.2.den = 1 ∧ 0 < p.resolution.2

/-- A chunk of one of the durations the voice-activity detector takes. -/
@[mk_iff valid_iff]
structure TelemetryAudioChunkPayload.Valid (p : TelemetryAudioChunkPayload) : Prop where
  audio : p.audio ≠ ""
  duration : ∃ n ∈ validFrameDurations, p.durationMs = (n : ℚ)

def ClientPayload.Valid : ClientPayload → Prop
  | .telemetryLight p => p.Valid
  | .telemetryHeavyFrame p => p.Valid
  | .audioChunk p => p.Valid
  | .browserEvent _ => True
  | .killSwitchAck p => p.flagId ≠ ""

end ProctorEngine.Browser
