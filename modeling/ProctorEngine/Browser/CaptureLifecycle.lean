import ProctorEngine.Browser.CaptureLoop
import ProctorEngine.Browser.FaceInference

/-!
# `CaptureLoop.start` and `CaptureLoop.stop`

`start()` is suspended twice, while the camera is opened and while the face detector is loaded, and
sets its flags only when it resumes; `stop()` releases what there is at the moment it is called. So
a `stop()` that comes while `start()` is suspended does not stop it: the loop runs afterwards, **and
a camera opened after the `stop()` stays on**. And where the detector cannot be loaded, the camera
opened before it is left on with nobody to turn it off.

A run is an interleaving of the calls with the outcomes of the two initialisations and with the
animation frames. A monitor beside the loop remembers what the caller has asked for.

Two properties are asked of a run: that the loop is silent from a `stop()` to the next successful
`start()`, and that it holds nothing while it neither runs nor initialises. The condition for both
is `InTime`, four things that must not happen, each in terms of the state before the event.

As long as nothing of the kind has happened, the loop is in one of six phases:

* `idle`, `opening`, `loading`, `capturing` — the four a reader of `start()` would draw;
* `abandoned` — stopped between the camera and the detector, with the detector still to come;
* `stray` — the same once the detector is there: the loop says that it runs, and has no camera.

From a phase an event leads to a phase exactly if it is in time, and `silentAndReleased_iff` is
that, along a run.
-/

set_option autoImplicit false

namespace ProctorEngine.Browser

/-! ## 1. The capture loop

The fields of the class, and beside them what the loop has asked of the browser and not given back.
The promise of `start()` is the field `starting`: it says what the suspended call waits for, and the
events that end the wait are `mediaReady`, `mediaFailed`, `inferenceReady` and `inferenceFailed`. -/

structure CaptureLoopConfig where
  heavyFrameIntervalMs : Option ℚ
  maxLightFps : Option ℚ
  lightFrameSendIntervalMs : Option ℚ

/-- `Required<CaptureLoopConfig>` -/
structure CaptureLoopSettings where
  heavyFrameIntervalMs : ℚ
  maxLightFps : ℚ
  lightFrameSendIntervalMs : ℚ

/-- The defaults of the constructor. -/
def CaptureLoopConfig.required (config : CaptureLoopConfig) : CaptureLoopSettings where
  heavyFrameIntervalMs := config.heavyFrameIntervalMs.getD 2500
  maxLightFps := config.maxLightFps.getD 15
  lightFrameSendIntervalMs := config.lightFrameSendIntervalMs.getD 1000

/-- Why `initMediaCapture` is rejected. -/
inductive MediaCaptureError where
  | getUserMediaMissing
  | notAllowed
  | notFound
  | notReadable
  | overconstrained
  | other (message : String)
  | unknown
  | playback
  | metadataTimeout
  | videoElement
  | noVideoTrack
deriving DecidableEq

namespace MediaCaptureError

/-- The texts of the errors of `initMediaCapture`. -/
def message : MediaCaptureError → String
  | .getUserMediaMissing => "getUserMedia is not available. HTTPS is required for camera access."
  | .notAllowed => "Camera access denied by user."
  | .notFound => "No camera device found."
  | .notReadable => "Camera is in use by another application."
  | .overconstrained => "Camera does not support the requested resolution/frame rate."
  | .other message => "Failed to access camera: " ++ message
  | .unknown => "Failed to access camera due to unknown error."
  | .playback => "Failed to start video playback."
  | .metadataTimeout => "Timeout waiting for video metadata."
  | .videoElement => "Video element error."
  | .noVideoTrack => "No video track in media stream."

/-- The rejections that come after `getUserMedia` has answered and that do not stop the tracks
    of its stream. -/
def LeavesStreamOn (e : MediaCaptureError) : Prop := e = .metadataTimeout ∨ e = .videoElement

instance (e : MediaCaptureError) : Decidable e.LeavesStreamOn :=
  inferInstanceAs (Decidable (_ ∨ _))

end MediaCaptureError

/-- What `start` catches. -/
inductive CaptureInitError where
  | media (e : MediaCaptureError)
  | faceInference
deriving DecidableEq

def CaptureInitError.message : CaptureInitError → String
  | .media e => e.message
  | .faceInference => "Failed to initialize face inference"

/-- What a suspended `start()` awaits: `initMediaCapture`, or `initialize` of this runner. -/
inductive Starting where
  | media
  | inference (runner : Nat)
deriving DecidableEq

/-- What an animation frame finds: its timestamp, the video, what the detector makes of it, the
    picture, and the clock of the rolling buffer. -/
structure AnimationFrame where
  timestamp : ℚ
  readyState : Nat
  videoWidth : Nat
  videoHeight : Nat
  result : FaceDetectorResult
  jpegBase64 : Option String
  now : ℚ

/-- The loop, and what it has asked of the page. The n-th camera stream goes with the n-th
    `FaceInferenceRunner`, so one number names both. -/
structure CaptureLoop where
  config : CaptureLoopSettings
  rollingBuffer : RollingBuffer
  mediaCapture : Option Nat
  faceInference : Option Nat
  animationFrameId : Option Nat
  lastFrameTime : ℚ
  lastLightSendTime : ℚ
  lastHeavyFrameTime : ℚ
  frameCount : Nat
  isRunningFlag : Bool
  isInitializingFlag : Bool
  initError : Option CaptureInitError
  /-- The `start()` that is suspended. -/
  starting : Option Starting
  /-- The streams with live tracks. -/
  live : List Nat
  /-- The runners with a `FaceDetector` that has not been closed. -/
  detectors : List Nat
  /-- The animation frames requested and neither run nor cancelled. -/
  requested : List Nat
  streams : Nat
  requests : Nat
  /-- The payloads handed to `ws.send`. -/
  sent : List ClientPayload

namespace CaptureLoop

/-- The constructor. -/
def new (rollingBuffer : RollingBuffer) (config : CaptureLoopConfig) : CaptureLoop where
  config := config.required
  rollingBuffer := rollingBuffer
  mediaCapture := none
  faceInference := none
  animationFrameId := none
  lastFrameTime := 0
  lastLightSendTime := 0
  lastHeavyFrameTime := 0
  frameCount := 0
  isRunningFlag := false
  isInitializingFlag := false
  initError := none
  starting := none
  live := []
  detectors := []
  requested := []
  streams := 0
  requests := 0
  sent := []

/-- `requestAnimationFrame`, if the loop is running. -/
def scheduleNextFrame (c : CaptureLoop) : CaptureLoop :=
  if c.isRunningFlag then
    { c with
      animationFrameId := some c.requests
      requested := c.requested ++ [c.requests]
      requests := c.requests + 1 }
  else c

/-- `start`, to its first `await`. -/
def start (c : CaptureLoop) : CaptureLoop :=
  if c.isRunningFlag || c.isInitializingFlag then c
  else
    { c with
      isInitializingFlag := true
      initError := none
      starting := some .media }

/-- `initMediaCapture` is fulfilled: `start` goes on to its second `await`. -/
def mediaReady (c : CaptureLoop) : CaptureLoop :=
  if c.starting = some .media then
    { c with
      mediaCapture := some c.streams
      faceInference := some c.streams
      starting := some (.inference c.streams)
      live := c.live ++ [c.streams]
      streams := c.streams + 1 }
  else c

/-- The `catch` of `start`. -/
def startFailed (c : CaptureLoop) (e : CaptureInitError) : CaptureLoop :=
  { c with
    isInitializingFlag := false
    initError := some e
    starting := none }

/-- `initMediaCapture` is rejected, after some rejections with its stream left on. -/
def mediaFailed (c : CaptureLoop) (e : MediaCaptureError) : CaptureLoop :=
  if c.starting = some .media then
    if e.LeavesStreamOn then
      { c with live := c.live ++ [c.streams], streams := c.streams + 1 }.startFailed (.media e)
    else c.startFailed (.media e)
  else c

/-- `initialize` is fulfilled, the runner having its detector, and `start` comes to its end, at
    this `performance.now()`. -/
def inferenceReady (c : CaptureLoop) (now : ℚ) : CaptureLoop :=
  match c.starting with
  | some (.inference runner) =>
    { c with
      detectors := c.detectors ++ [runner]
      isRunningFlag := true
      isInitializingFlag := false
      starting := none
      lastFrameTime := now
      lastLightSendTime := now
      lastHeavyFrameTime := now }.scheduleNextFrame
  | _ => c

/-- `initialize` is rejected. -/
def inferenceFailed (c : CaptureLoop) : CaptureLoop :=
  match c.starting with
  | some (.inference _) => c.startFailed .faceInference
  | _ => c

/-- `stop`: the requested frame cancelled, the detector closed, the tracks stopped. -/
def stop (c : CaptureLoop) : CaptureLoop :=
  { c with
    isRunningFlag := false
    animationFrameId := none
    requested := c.requested.filter fun id => c.animationFrameId ≠ some id
    detectors := c.detectors.filter fun runner => c.faceInference ≠ some runner
    faceInference := none
    live := c.live.filter fun stream => c.mediaCapture ≠ some stream
    mediaCapture := none }

/-- `elapsed < minFrameInterval`, where a thousand by nought is infinite. -/
def TooEarly (c : CaptureLoop) (timestamp : ℚ) : Prop :=
  c.config.maxLightFps = 0 ∨ timestamp - c.lastFrameTime < 1000 / c.config.maxLightFps

instance (c : CaptureLoop) (timestamp : ℚ) : Decidable (c.TooEarly timestamp) :=
  inferInstanceAs (Decidable (_ ∨ _))

/-- The face presence of a frame: sent at the configured interval. -/
def lightFrame (c : CaptureLoop) (f : AnimationFrame) : CaptureLoop :=
  if c.faceInference.any (c.detectors.contains ·) ∧
      f.timestamp - c.lastLightSendTime ≥ c.config.lightFrameSendIntervalMs then
    { c with
      sent := c.sent ++
        [.telemetryLight (lightPayload (processDetectionResult f.result) f.videoWidth
          f.videoHeight)]
      lastLightSendTime := f.timestamp }
  else c

/-- The heavy frame, at its own interval. What is sent is what was captured; an image that could not
    be encoded counts as sent at this time all the same. -/
def heavyFrame (c : CaptureLoop) (f : AnimationFrame) : CaptureLoop :=
  if f.timestamp - c.lastHeavyFrameTime ≥ c.config.heavyFrameIntervalMs then
    { c with
      rollingBuffer :=
        (processHeavyFrame c.rollingBuffer f.jpegBase64 f.timestamp f.now f.videoWidth
          f.videoHeight).1
      sent := c.sent ++
        ((processHeavyFrame c.rollingBuffer f.jpegBase64 f.timestamp f.now f.videoWidth
          f.videoHeight).2.map ClientPayload.telemetryHeavyFrame).toList
      lastHeavyFrameTime := f.timestamp }
  else c

def processFrame (c : CaptureLoop) (f : AnimationFrame) : CaptureLoop :=
  if !c.isRunningFlag || c.mediaCapture.isNone || c.faceInference.isNone then c
  else if f.readyState < 2 then c.scheduleNextFrame
  else if c.TooEarly f.timestamp then c.scheduleNextFrame
  else
    (({ c with
        lastFrameTime := f.timestamp
        frameCount := c.frameCount + 1 }.lightFrame f).heavyFrame f).scheduleNextFrame

/-- The browser runs a requested frame, once. -/
def runFrame (c : CaptureLoop) (id : Nat) (f : AnimationFrame) : CaptureLoop :=
  if id ∈ c.requested then { c with requested := c.requested.erase id }.processFrame f else c

/-- The frame is one the loop processes. -/
def Due (c : CaptureLoop) (id : Nat) (f : AnimationFrame) : Prop :=
  id ∈ c.requested ∧ c.isRunningFlag = true ∧ c.mediaCapture.isSome ∧ c.faceInference.isSome ∧
    2 ≤ f.readyState ∧ ¬ c.TooEarly f.timestamp

/-- A loop that is neither running nor initialising has turned off what it turned on. -/
def Released (c : CaptureLoop) : Prop :=
  c.isRunningFlag = false → c.isInitializingFlag = false → c.live = [] ∧ c.detectors = []

end CaptureLoop

inductive CaptureEvent where
  | start
  | stop
  | mediaReady
  | mediaFailed (e : MediaCaptureError)
  | inferenceReady (now : ℚ)
  | inferenceFailed
  | frame (id : Nat) (f : AnimationFrame)

def CaptureLoop.step (c : CaptureLoop) : CaptureEvent → CaptureLoop
  | .start => c.start
  | .stop => c.stop
  | .mediaReady => c.mediaReady
  | .mediaFailed e => c.mediaFailed e
  | .inferenceReady now => c.inferenceReady now
  | .inferenceFailed => c.inferenceFailed
  | .frame id f => c.runFrame id f

/-! ## 2. What the caller has asked for

What the caller has asked for is not in the loop, whose flags know nothing of a `stop()` that came
too early. The monitor takes three notes, and the properties are stated over both. -/

/-- A loop under watch. -/
structure WatchedLoop where
  loop : CaptureLoop
  /-- `stop()` has been called, and no `start()` called since has succeeded. -/
  silenced : Bool
  /-- The suspended `start()` was called after the last `stop()`. -/
  startedSince : Bool
  /-- The last `stop()` came while `start()` was waiting for the camera, and `start()` has not
      been called since. -/
  overtaken : Bool

namespace WatchedLoop

/-- `start()` on a loop that is running or initialising succeeds at once. -/
def step (w : WatchedLoop) (e : CaptureEvent) : WatchedLoop :=
  let w' := { w with loop := w.loop.step e }
  match e with
  | .start =>
    if w.loop.isRunningFlag || w.loop.isInitializingFlag then
      { w' with silenced := false, overtaken := false }
    else { w' with startedSince := true, overtaken := false }
  | .stop =>
    { w' with
      silenced := true
      startedSince := false
      overtaken := w.loop.starting = some .media }
  | .inferenceReady _ =>
    { w' with
      silenced := w.silenced &&
        !(!w.loop.isRunningFlag && w'.loop.isRunningFlag && w.startedSince) }
  | _ => w'

/-- A loop nobody has started or stopped. -/
def new (rollingBuffer : RollingBuffer) (config : CaptureLoopConfig) : WatchedLoop :=
  ⟨.new rollingBuffer config, false, false, false⟩

/-- While the loop is silenced no frame is processed and nothing is sent. -/
def StaysSilent (w : WatchedLoop) (e : CaptureEvent) : Prop :=
  w.silenced = true →
    (w.step e).loop.frameCount = w.loop.frameCount ∧ (w.step e).loop.sent = w.loop.sent

/-- What must not happen: the camera opened and left on by `initMediaCapture`; the detector
    failing with the camera open; a loop stopped between the camera and the detector, and stopped
    again; a frame due on a loop whose last `stop()` came before the camera. -/
def InTime (w : WatchedLoop) : CaptureEvent → Prop
  | .mediaFailed e => w.loop.starting = some .media → ¬ e.LeavesStreamOn
  | .inferenceFailed => ∀ runner, w.loop.starting = some (.inference runner) →
      w.loop.mediaCapture = none
  | .stop => w.loop.isRunningFlag = true → w.loop.mediaCapture ≠ none
  | .frame id f => w.loop.Due id f → w.overtaken = false
  | _ => True

end WatchedLoop

/-! ## 3. What a loop holds

`Holds` fixes all the fields of a loop that matter to the phases. Each method has a lemma from one
`Holds` to the next, and a method that is called out of turn has one that it does nothing. -/

namespace CaptureLoop

variable {c : CaptureLoop}

theorem mediaReady_of_ne (h : c.starting ≠ some .media) : c.mediaReady = c := if_neg h

theorem mediaFailed_of_ne (h : c.starting ≠ some .media) (e : MediaCaptureError) :
    c.mediaFailed e = c := if_neg h

theorem inferenceReady_of_ne (h : ∀ n, c.starting ≠ some (.inference n)) (now : ℚ) :
    c.inferenceReady now = c := by
  unfold inferenceReady
  split
  case h_1 runner hstarting => exact absurd hstarting (h runner)
  case h_2 => rfl

theorem inferenceFailed_of_ne (h : ∀ n, c.starting ≠ some (.inference n)) :
    c.inferenceFailed = c := by
  unfold inferenceFailed
  split
  case h_1 runner hstarting => exact absurd hstarting (h runner)
  case h_2 => rfl

end CaptureLoop

/-- A loop whose camera is the stream of its runner, or that has neither, with every live stream
    in its hands. -/
structure CaptureLoop.Holds (c : CaptureLoop) (running : Bool) (starting : Option Starting)
    (held : Option Nat) (detectors : List Nat) : Prop where
  running : c.isRunningFlag = running
  initializing : c.isInitializingFlag = starting.isSome
  starting : c.starting = starting
  mediaCapture : c.mediaCapture = held
  faceInference : c.faceInference = held
  live : c.live = held.toList
  detectors : c.detectors = detectors

namespace CaptureLoop.Holds

variable {c : CaptureLoop} {running : Bool} {starting : Option Starting} {held : Option Nat}
  {detectors : List Nat} {n : Nat}

theorem released_iff (h : c.Holds running starting held detectors) :
    c.Released ↔ (running = false → starting = none → held = none ∧ detectors = []) := by
  unfold CaptureLoop.Released
  rw [h.running, h.initializing, h.live, h.detectors, Option.isSome_eq_false_iff,
    Option.isNone_iff_eq_none, Option.toList_eq_nil_iff]

theorem scheduleNextFrame (h : c.Holds running starting held detectors) :
    c.scheduleNextFrame.Holds running starting held detectors := by
  unfold CaptureLoop.scheduleNextFrame
  split
  · exact ⟨h.running, h.initializing, h.starting, h.mediaCapture, h.faceInference, h.live,
      h.detectors⟩
  · exact h

theorem start (h : c.Holds false none none []) : c.start.Holds false (some .media) none [] := by
  unfold CaptureLoop.start
  rw [if_neg (by rw [h.running, h.initializing]; simp)]
  exact ⟨h.running, rfl, rfl, h.mediaCapture, h.faceInference, h.live, h.detectors⟩

theorem start_of_busy (h : c.Holds running starting held detectors)
    (hbusy : (running || starting.isSome) = true) : c.start = c := by
  unfold CaptureLoop.start
  rw [h.running, h.initializing, if_pos hbusy]

theorem mediaReady (h : c.Holds false (some .media) none []) :
    c.mediaReady.Holds false (some (.inference c.streams)) (some c.streams) [] := by
  unfold CaptureLoop.mediaReady
  rw [if_pos h.starting]
  refine ⟨h.running, h.initializing, rfl, rfl, rfl, ?_, h.detectors⟩
  show c.live ++ [c.streams] = [c.streams]
  rw [h.live]
  rfl

theorem startFailed (h : c.Holds false starting held detectors) (e : CaptureInitError) :
    (c.startFailed e).Holds false none held detectors :=
  ⟨h.running, rfl, rfl, h.mediaCapture, h.faceInference, h.live, h.detectors⟩

theorem mediaFailed {e : MediaCaptureError} (h : c.Holds false (some .media) none [])
    (he : ¬ e.LeavesStreamOn) : (c.mediaFailed e).Holds false none none [] := by
  unfold CaptureLoop.mediaFailed
  rw [if_pos h.starting, if_neg he]
  exact h.startFailed _

/-- The stream that `initMediaCapture` leaves on is in nobody's hands. -/
theorem not_released_mediaFailed {e : MediaCaptureError} (h : c.Holds false (some .media) none [])
    (he : e.LeavesStreamOn) : ¬ (c.mediaFailed e).Released := by
  intro hreleased
  unfold CaptureLoop.mediaFailed at hreleased
  rw [if_pos h.starting, if_pos he] at hreleased
  have hlive : c.live ++ [c.streams] = [] := (hreleased h.running rfl).1
  simp at hlive

theorem inferenceReady (h : c.Holds false (some (.inference n)) held []) (now : ℚ) :
    (c.inferenceReady now).Holds true none held [n] := by
  unfold CaptureLoop.inferenceReady
  rw [h.starting]
  apply scheduleNextFrame
  refine ⟨rfl, rfl, rfl, h.mediaCapture, h.faceInference, h.live, ?_⟩
  show c.detectors ++ [n] = [n]
  rw [h.detectors]
  rfl

theorem inferenceFailed (h : c.Holds false (some (.inference n)) held []) :
    c.inferenceFailed.Holds false none held [] := by
  unfold CaptureLoop.inferenceFailed
  rw [h.starting]
  exact h.startFailed _

/-- `stop` turns off what the loop holds. A `start()` that is suspended stays suspended. -/
theorem stop (h : c.Holds running starting held detectors) :
    c.stop.Holds false starting none (detectors.filter fun runner => held ≠ some runner) := by
  refine ⟨rfl, h.initializing, h.starting, rfl, rfl, ?_, ?_⟩
  · show c.live.filter (fun stream => c.mediaCapture ≠ some stream) = []
    rw [h.live, h.mediaCapture]
    cases held <;> simp
  · show c.detectors.filter (fun runner => c.faceInference ≠ some runner) = _
    rw [h.detectors, h.faceInference]

theorem lightFrame (h : c.Holds running starting held detectors) (f : AnimationFrame) :
    (c.lightFrame f).Holds running starting held detectors := by
  unfold CaptureLoop.lightFrame
  split
  · exact ⟨h.running, h.initializing, h.starting, h.mediaCapture, h.faceInference, h.live,
      h.detectors⟩
  · exact h

theorem heavyFrame (h : c.Holds running starting held detectors) (f : AnimationFrame) :
    (c.heavyFrame f).Holds running starting held detectors := by
  unfold CaptureLoop.heavyFrame
  split
  · exact ⟨h.running, h.initializing, h.starting, h.mediaCapture, h.faceInference, h.live,
      h.detectors⟩
  · exact h

theorem processFrame (h : c.Holds running starting held detectors) (f : AnimationFrame) :
    (c.processFrame f).Holds running starting held detectors := by
  unfold CaptureLoop.processFrame
  split
  · exact h
  split
  · exact h.scheduleNextFrame
  split
  · exact h.scheduleNextFrame
  · apply scheduleNextFrame
    apply heavyFrame
    apply lightFrame
    exact ⟨h.running, h.initializing, h.starting, h.mediaCapture, h.faceInference, h.live,
      h.detectors⟩

/-- A frame turns nothing on and nothing off. -/
theorem runFrame (h : c.Holds running starting held detectors) (id : Nat) (f : AnimationFrame) :
    (c.runFrame id f).Holds running starting held detectors := by
  unfold CaptureLoop.runFrame
  split
  · apply processFrame
    exact ⟨h.running, h.initializing, h.starting, h.mediaCapture, h.faceInference, h.live,
      h.detectors⟩
  · exact h

end CaptureLoop.Holds

/-! ## 4. Which steps process a frame

Silence is about `frameCount` and `sent`, which a frame alone can change, and that only if it is
due. -/

namespace CaptureLoop

variable {c : CaptureLoop} {id : Nat} {f : AnimationFrame}

@[simp] theorem scheduleNextFrame_frameCount : c.scheduleNextFrame.frameCount = c.frameCount := by
  unfold scheduleNextFrame
  split <;> rfl

@[simp] theorem scheduleNextFrame_sent : c.scheduleNextFrame.sent = c.sent := by
  unfold scheduleNextFrame
  split <;> rfl

@[simp] theorem lightFrame_frameCount : (c.lightFrame f).frameCount = c.frameCount := by
  unfold lightFrame
  split <;> rfl

@[simp] theorem heavyFrame_frameCount : (c.heavyFrame f).frameCount = c.frameCount := by
  unfold heavyFrame
  split <;> rfl

theorem processFrame_frameCount (hrunning : c.isRunningFlag = true)
    (hmedia : c.mediaCapture.isSome) (hinference : c.faceInference.isSome)
    (hready : 2 ≤ f.readyState) (hearly : ¬ c.TooEarly f.timestamp) :
    (c.processFrame f).frameCount = c.frameCount + 1 := by
  unfold processFrame
  rw [if_neg (by simp [hrunning, Option.isSome_iff_ne_none.mp hmedia,
    Option.isSome_iff_ne_none.mp hinference]), if_neg (Nat.not_lt.mpr hready), if_neg hearly]
  simp

theorem runFrame_frameCount (h : c.Due id f) :
    (c.runFrame id f).frameCount = c.frameCount + 1 := by
  obtain ⟨hmem, hrunning, hmedia, hinference, hready, hearly⟩ := h
  unfold runFrame
  rw [if_pos hmem]
  exact processFrame_frameCount hrunning hmedia hinference hready hearly

/-- A frame that is not due leaves no trace but the request of the next one. -/
theorem runFrame_of_not_due (h : ¬ c.Due id f) :
    (c.runFrame id f).frameCount = c.frameCount ∧ (c.runFrame id f).sent = c.sent := by
  unfold runFrame
  split
  case isFalse => exact ⟨rfl, rfl⟩
  case isTrue hmem =>
    unfold processFrame
    split
    · exact ⟨rfl, rfl⟩
    case isFalse hon =>
      split
      · simp
      case isFalse hready =>
        split
        · simp
        -- past all the tests: the frame was due
        case isFalse hearly =>
          refine absurd ⟨hmem, ?_⟩ h
          simp only [Bool.or_eq_true, not_or, Bool.not_eq_true, Option.isNone_eq_false_iff,
            Bool.not_eq_false'] at hon
          exact ⟨hon.1.1, hon.1.2, hon.2, Nat.not_lt.mp hready, hearly⟩

/-- Of the events only a frame is processed. -/
theorem step_quiet {e : CaptureEvent} (he : ∀ id f, e ≠ .frame id f) :
    (c.step e).frameCount = c.frameCount ∧ (c.step e).sent = c.sent := by
  cases e with
  | start =>
    show c.start.frameCount = _ ∧ c.start.sent = _
    unfold start
    split <;> exact ⟨rfl, rfl⟩
  | stop => exact ⟨rfl, rfl⟩
  | mediaReady =>
    show c.mediaReady.frameCount = _ ∧ c.mediaReady.sent = _
    unfold mediaReady
    split <;> exact ⟨rfl, rfl⟩
  | mediaFailed e =>
    show (c.mediaFailed e).frameCount = _ ∧ (c.mediaFailed e).sent = _
    unfold mediaFailed
    split
    · split <;> exact ⟨rfl, rfl⟩
    · exact ⟨rfl, rfl⟩
  -- The loop asks for its first frame here, and has not drawn one yet.
  | inferenceReady now =>
    show (c.inferenceReady now).frameCount = _ ∧ (c.inferenceReady now).sent = _
    unfold inferenceReady
    split
    · simp
    · exact ⟨rfl, rfl⟩
  | inferenceFailed =>
    show c.inferenceFailed.frameCount = _ ∧ c.inferenceFailed.sent = _
    unfold inferenceFailed
    split <;> exact ⟨rfl, rfl⟩
  | frame id f => exact absurd rfl (he id f)

end CaptureLoop

/-! ## 5. The phases of a loop

The phases carry what the notes of the monitor say of them. The notes of the two odd phases do not
matter: without a camera no frame is due, so such a loop is silent anyway. -/

namespace WatchedLoop

variable {w : WatchedLoop} {e : CaptureEvent}

/-- The monitor's three notes agree on the `start()` that is suspended. -/
def Noted (w : WatchedLoop) : Prop := w.overtaken = (w.silenced && !w.startedSince)

/-- Where a loop can be as long as every step has been in time. The two phases without a camera
    are those a `stop()` leads to that comes between the camera and the detector. -/
inductive Phase (w : WatchedLoop) : Prop
  | idle (h : w.loop.Holds false none none [])
  | opening (h : w.loop.Holds false (some .media) none []) (hnoted : w.Noted)
  | loading (n : Nat) (h : w.loop.Holds false (some (.inference n)) (some n) [])
      (hnoted : w.Noted)
  | abandoned (n : Nat) (h : w.loop.Holds false (some (.inference n)) none [])
  | capturing (n : Nat) (h : w.loop.Holds true none (some n) [n])
      (hnoted : w.silenced = w.overtaken)
  | stray (n : Nat) (h : w.loop.Holds true none none [n])

theorem Phase.released (h : w.Phase) : w.loop.Released := by
  cases h with
  | idle h => exact h.released_iff.mpr fun _ _ => ⟨rfl, rfl⟩
  | opening h => exact h.released_iff.mpr nofun
  | loading n h => exact h.released_iff.mpr nofun
  | abandoned n h => exact h.released_iff.mpr nofun
  | capturing n h => exact h.released_iff.mpr nofun
  | stray n h => exact h.released_iff.mpr nofun

theorem step_start_of_busy {running : Bool} {starting : Option Starting} {held : Option Nat}
    {detectors : List Nat} (h : w.loop.Holds running starting held detectors)
    (hbusy : (running || starting.isSome) = true) :
    w.step .start = { w with silenced := false, overtaken := false } := by
  show (if w.loop.isRunningFlag || w.loop.isInitializingFlag then
    { w with loop := w.loop.start, silenced := false, overtaken := false } else _) = _
  rw [h.start_of_busy hbusy, if_pos (by rw [h.running, h.initializing, hbusy])]

theorem step_start_of_idle (h : w.loop.Holds false none none []) :
    w.step .start =
      { w with loop := w.loop.start, startedSince := true, overtaken := false } := by
  show (if w.loop.isRunningFlag || w.loop.isInitializingFlag then _ else _) = _
  rw [if_neg (by rw [h.running, h.initializing]; simp)]
  rfl

/-- A `start()` that waits for the camera. -/
theorem Phase.of_media (h : w.Phase) (hs : w.loop.starting = some .media) :
    w.loop.Holds false (some .media) none [] ∧ w.Noted := by
  cases h with
  | opening h hnoted => exact ⟨h, hnoted⟩
  | idle h => exact absurd (h.starting.symm.trans hs) nofun
  | loading n h hnoted => exact absurd (h.starting.symm.trans hs) nofun
  | abandoned n h => exact absurd (h.starting.symm.trans hs) nofun
  | capturing n h hnoted => exact absurd (h.starting.symm.trans hs) nofun
  | stray n h => exact absurd (h.starting.symm.trans hs) nofun

/-- A `start()` that waits for the detector holds the camera, unless it has been stopped. -/
theorem Phase.of_inference {n : Nat} (h : w.Phase)
    (hs : w.loop.starting = some (.inference n)) :
    w.loop.Holds false (some (.inference n)) none [] ∨
      w.loop.Holds false (some (.inference n)) (some n) [] ∧ w.Noted := by
  cases h with
  | loading m h hnoted =>
    have hm : m = n := by simpa using h.starting.symm.trans hs
    subst hm
    exact .inr ⟨h, hnoted⟩
  | abandoned m h =>
    have hm : m = n := by simpa using h.starting.symm.trans hs
    subst hm
    exact .inl h
  | idle h => exact absurd (h.starting.symm.trans hs) nofun
  | opening h hnoted => exact absurd (h.starting.symm.trans hs) nofun
  | capturing n h hnoted => exact absurd (h.starting.symm.trans hs) nofun
  | stray n h => exact absurd (h.starting.symm.trans hs) nofun

/-- A running loop holds the camera, unless it was stopped before the detector was there. -/
theorem Phase.of_running (h : w.Phase) (hrunning : w.loop.isRunningFlag = true) :
    ∃ n, w.loop.Holds true none none [n] ∨
      w.loop.Holds true none (some n) [n] ∧ w.silenced = w.overtaken := by
  cases h with
  | capturing n h hnoted => exact ⟨n, .inr ⟨h, hnoted⟩⟩
  | stray n h => exact ⟨n, .inl h⟩
  | idle h => exact absurd (h.running.symm.trans hrunning) nofun
  | opening h hnoted => exact absurd (h.running.symm.trans hrunning) nofun
  | loading n h hnoted => exact absurd (h.running.symm.trans hrunning) nofun
  | abandoned n h => exact absurd (h.running.symm.trans hrunning) nofun

/-! ## 6. Each event

One lemma for each event. A `start()` succeeds at once in every phase but `idle`, and `stop()` leads
from `loading` to `abandoned`. -/

theorem Phase.start (h : w.Phase) : (w.step .start).Phase := by
  cases h with
  | idle h =>
    rw [step_start_of_idle h]
    exact .opening h.start (by simp [Noted])
  | opening h hnoted =>
    rw [step_start_of_busy h rfl]
    exact .opening h rfl
  | loading n h hnoted =>
    rw [step_start_of_busy h rfl]
    exact .loading n h rfl
  | abandoned n h =>
    rw [step_start_of_busy h rfl]
    exact .abandoned n h
  | capturing n h hnoted =>
    rw [step_start_of_busy h rfl]
    exact .capturing n h rfl
  | stray n h =>
    rw [step_start_of_busy h rfl]
    exact .stray n h

theorem Phase.stop (h : w.Phase) (hin : w.InTime .stop) : (w.step .stop).Phase := by
  cases h with
  | idle h => exact .idle h.stop
  | opening h hnoted =>
    apply Phase.opening h.stop
    show decide (w.loop.starting = some .media) = true
    rw [h.starting]
    rfl
  | loading n h hnoted => exact .abandoned n h.stop
  | abandoned n h => exact .abandoned n h.stop
  | capturing n h hnoted =>
    have hstop := h.stop
    rw [show [n].filter (fun runner => some n ≠ some runner) = [] by simp] at hstop
    exact .idle hstop
  | stray n h => exact absurd h.mediaCapture (hin h.running)

theorem Phase.mediaReady (h : w.Phase) : (w.step .mediaReady).Phase := by
  by_cases hs : w.loop.starting = some .media
  · obtain ⟨hholds, hnoted⟩ := h.of_media hs
    exact .loading _ hholds.mediaReady hnoted
  · show WatchedLoop.Phase { w with loop := w.loop.mediaReady }
    rw [CaptureLoop.mediaReady_of_ne hs]
    exact h

theorem Phase.mediaFailed {m : MediaCaptureError} (h : w.Phase)
    (hin : w.InTime (.mediaFailed m)) : (w.step (.mediaFailed m)).Phase := by
  by_cases hs : w.loop.starting = some .media
  · obtain ⟨hholds, -⟩ := h.of_media hs
    exact .idle (hholds.mediaFailed (hin hs))
  · show WatchedLoop.Phase { w with loop := w.loop.mediaFailed m }
    rw [CaptureLoop.mediaFailed_of_ne hs]
    exact h

/-- The `start()` that comes to its end here has made the loop run. -/
theorem Phase.inferenceReady (h : w.Phase) (now : ℚ) : (w.step (.inferenceReady now)).Phase := by
  by_cases hs : ∃ n, w.loop.starting = some (.inference n)
  · obtain ⟨n, hs⟩ := hs
    obtain hholds | ⟨hholds, hnoted⟩ := h.of_inference hs
    · exact .stray n (hholds.inferenceReady now)
    -- the start that ends here came after the last stop, or that stop came before the camera
    · apply Phase.capturing n (hholds.inferenceReady now)
      show (w.silenced && !(!w.loop.isRunningFlag && (w.loop.inferenceReady now).isRunningFlag &&
        w.startedSince)) = w.overtaken
      rw [hholds.running, (hholds.inferenceReady now).running, hnoted]
      simp
  -- no start waits for a detector
  · have hne : w.loop.inferenceReady now = w.loop :=
      CaptureLoop.inferenceReady_of_ne (fun n hn => hs ⟨n, hn⟩) now
    have hstep : w.step (.inferenceReady now) = w := by
      show { w with
        loop := w.loop.inferenceReady now
        silenced := w.silenced && !(!w.loop.isRunningFlag &&
          (w.loop.inferenceReady now).isRunningFlag && w.startedSince) } = w
      rw [hne]
      simp
    rw [hstep]
    exact h

theorem Phase.inferenceFailed (h : w.Phase) (hin : w.InTime .inferenceFailed) :
    (w.step .inferenceFailed).Phase := by
  by_cases hs : ∃ n, w.loop.starting = some (.inference n)
  · obtain ⟨n, hs⟩ := hs
    obtain hholds | ⟨hholds, -⟩ := h.of_inference hs
    · exact .idle hholds.inferenceFailed
    · exact absurd (hholds.mediaCapture.symm.trans (hin n hs)) nofun
  · show WatchedLoop.Phase { w with loop := w.loop.inferenceFailed }
    rw [CaptureLoop.inferenceFailed_of_ne fun n hn => hs ⟨n, hn⟩]
    exact h

theorem Phase.frame (h : w.Phase) (id : Nat) (f : AnimationFrame) :
    (w.step (.frame id f)).Phase := by
  cases h with
  | idle h => exact .idle (h.runFrame id f)
  | opening h hnoted => exact .opening (h.runFrame id f) hnoted
  | loading n h hnoted => exact .loading n (h.runFrame id f) hnoted
  | abandoned n h => exact .abandoned n (h.runFrame id f)
  | capturing n h hnoted => exact .capturing n (h.runFrame id f) hnoted
  | stray n h => exact .stray n (h.runFrame id f)

/-- **A step in time leads to a phase.** -/
theorem Phase.step (h : w.Phase) (hin : w.InTime e) : (w.step e).Phase := by
  cases e with
  | start => exact h.start
  | stop => exact h.stop hin
  | mediaReady => exact h.mediaReady
  | mediaFailed m => exact h.mediaFailed hin
  | inferenceReady now => exact h.inferenceReady now
  | inferenceFailed => exact h.inferenceFailed hin
  | frame id f => exact h.frame id f

/-! ## 7. Silence and release

The other direction: what is not in time breaks one of the two properties in the same step. A
rejection that leaves a stream on does so in nobody's hands, and a frame that is due is
processed. -/

theorem staysSilent_frame_iff {id : Nat} {f : AnimationFrame} :
    w.StaysSilent (.frame id f) ↔ (w.loop.Due id f → w.silenced = false) := by
  constructor
  · intro hsilent hdue
    by_contra hsilenced
    have hcount : (w.loop.runFrame id f).frameCount = w.loop.frameCount :=
      (hsilent (by simpa using hsilenced)).1
    rw [CaptureLoop.runFrame_frameCount hdue] at hcount
    omega
  · intro hdue hsilenced
    apply CaptureLoop.runFrame_of_not_due
    intro h
    rw [hdue h] at hsilenced
    exact nomatch hsilenced

theorem step_loop : (w.step e).loop = w.loop.step e := by
  cases e with
  | start =>
    show (if w.loop.isRunningFlag || w.loop.isInitializingFlag then _ else _ :
      WatchedLoop).loop = _
    split <;> rfl
  | stop => rfl
  | mediaReady => rfl
  | mediaFailed m => rfl
  | inferenceReady now => rfl
  | inferenceFailed => rfl
  | frame id f => rfl

/-- Only a running loop that holds the camera has a frame due, and what the caller has asked of
    such a loop shows in whether its last `stop()` came before the camera. -/
theorem Phase.staysSilent_iff (h : w.Phase) {id : Nat} {f : AnimationFrame} :
    w.StaysSilent (.frame id f) ↔ w.InTime (.frame id f) := by
  rw [staysSilent_frame_iff]
  apply forall_congr'
  intro hdue
  obtain ⟨n, hholds | ⟨hholds, hnoted⟩⟩ := h.of_running hdue.2.1
  · have hmedia := hdue.2.2.1
    rw [hholds.mediaCapture] at hmedia
    exact nomatch hmedia
  · rw [hnoted]

theorem Phase.staysSilent (h : w.Phase) (hin : w.InTime e) : w.StaysSilent e := by
  cases e with
  | frame id f => exact h.staysSilent_iff.mpr hin
  | _ =>
    intro _
    rw [step_loop]
    exact CaptureLoop.step_quiet nofun

theorem Phase.inTime_stop (h : w.Phase) (hreleased : w.loop.stop.Released) : w.InTime .stop := by
  intro hrunning hmedia
  obtain ⟨n, hholds | ⟨hholds, -⟩⟩ := h.of_running hrunning
  · have hstop := hholds.stop
    have hdetectors := (hstop.released_iff.mp hreleased rfl rfl).2
    simp at hdetectors
  · exact nomatch hholds.mediaCapture.symm.trans hmedia

/-- **From a phase, a step keeps the loop silent and released exactly when it is in time.** -/
theorem Phase.step_iff (h : w.Phase) :
    (w.step e).loop.Released ∧ w.StaysSilent e ↔ w.InTime e := by
  constructor
  · rintro ⟨hreleased, hsilent⟩
    rw [step_loop] at hreleased
    cases e with
    | start => trivial
    | mediaReady => trivial
    | inferenceReady now => trivial
    | stop => exact h.inTime_stop hreleased
    -- the stream left on is one the loop does not hold
    | mediaFailed m =>
      intro hs hleaves
      exact (h.of_media hs).1.not_released_mediaFailed hleaves hreleased
    | inferenceFailed =>
      intro n hs
      obtain hholds | ⟨hholds, -⟩ := h.of_inference hs
      · exact hholds.mediaCapture
      -- the detector failed with the camera open, and the camera stayed
      · have hheld := (hholds.inferenceFailed.released_iff.mp hreleased rfl rfl).1
        exact nomatch hheld
    | frame id f => exact h.staysSilent_iff.mp hsilent
  · intro hin
    exact ⟨(h.step hin).released, h.staysSilent hin⟩

theorem phase_new (rollingBuffer : RollingBuffer) (config : CaptureLoopConfig) :
    (new rollingBuffer config).Phase := .idle ⟨rfl, rfl, rfl, rfl, rfl, rfl, rfl⟩

/-- **Along a run the loop is silent from a `stop()` to the next successful `start()`, and holds
    nothing while it is neither running nor initialising, exactly when every step is in time.** A
    `stop()` between the awaits of a `start()` finds nothing to stop, and a `start()` that fails
    after the camera was opened leaves it on. -/
theorem silentAndReleased_iff (rollingBuffer : RollingBuffer) (config : CaptureLoopConfig)
    (es : List CaptureEvent) :
    Run.Always step (fun w => w.loop.Released) (new rollingBuffer config) es ∧
        Run.EachStep step StaysSilent (new rollingBuffer config) es ↔
      Run.EachStep step InTime (new rollingBuffer config) es :=
  Run.always_and_eachStep_iff_of_guard (fun _ _ h hin => h.step hin) (fun _ h => h.released)
    (fun _ _ h => h.step_iff) (phase_new rollingBuffer config)

/-- A frame a second after the load, with nobody in it. -/
def emptyFrame : AnimationFrame where
  timestamp := 1000
  readyState := 4
  videoWidth := 640
  videoHeight := 480
  result := ⟨[]⟩
  jpegBase64 := none
  now := 1000

/-- The loop of `boot`. -/
def booted : WatchedLoop :=
  new (.new 10000) ⟨some 2500, some 15, some 1000⟩

/-- A `stop()` that comes while the camera is being opened does not keep the loop from running,
    and where the detector cannot be loaded the camera stays on. -/
theorem booted_not_released_not_silent :
    ¬ Run.EachStep step StaysSilent booted
        [.start, .stop, .mediaReady, .inferenceReady 0, .frame 0 emptyFrame] ∧
      ¬ Run.Always step (fun w => w.loop.Released) booted
        [.start, .mediaReady, .inferenceFailed] := by
  constructor
  · intro h
    have hsilent := h.2.2.2.2.1
    have hcount := (hsilent rfl).1
    exact absurd hcount (by decide +kernel)
  · intro h
    have hreleased := h.final
    exact absurd (hreleased rfl rfl).1 (by decide +kernel)

end WatchedLoop

end ProctorEngine.Browser
