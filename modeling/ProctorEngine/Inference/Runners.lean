import Mathlib.Algebra.Order.Field.Basic
import ProctorEngine.Inference.FaceBox
import ProctorEngine.Preprocessing.Audio

/-!
# The model runners

Between the models and the fusion engine stand five runners. Each calls its model, measures what
comes back, compares with a threshold and hands on a result whose scores are scores whatever the
model answered: they are clamped, or the constructor raises and the answer is lost.

The models, OpenCV and NumPy's norm are parameters (`Libraries`). **Everything a runner decides
it decides by the thresholds written here**; what the geometry of a face comes to is
`GazeMeasures`, and a look away is read off it.
-/

set_option autoImplicit false

namespace ProctorEngine

/-! ## 1. Validated values

What the dataclasses of the results check. A runner clamps a score before, or leaves it to the
constructor to raise. -/

/-- `max(0.0, min(1.0, q))` -/
def Score.clamped (q : ℚ) : Score where
  val := max 0 (min 1 q)
  nonneg := le_max_left _ _
  le_one := max_le zero_le_one (min_le_left _ _)

theorem Score.nonneg_of {q : ℚ} (h : 0 ≤ q ∧ q ≤ 1) : 0 ≤ q := h.1

theorem Score.le_one_of {q : ℚ} (h : 0 ≤ q ∧ q ≤ 1) : q ≤ 1 := h.2

/-- `ConfidenceInterval(lower=q, score=q, upper=q)`; `none` is its `ValueError`. -/
def ConfidenceInterval.ofFloat (q : ℚ) : Option ConfidenceInterval :=
  if h : 0 ≤ q ∧ q ≤ 1 then some (.point ⟨q, Score.nonneg_of h, Score.le_one_of h⟩) else none

/-- An image bounding box normalised to `[0, 1]`. -/
structure BoundingBox where
  x : ℚ
  y : ℚ
  w : ℚ
  h : ℚ
  inUnitInterval : ∀ v ∈ [x, y, w, h], 0 ≤ v ∧ v ≤ 1

/-- `BoundingBox(...)`; `none` is its `ValueError`. -/
def BoundingBox.ofFloats (x y w h : ℚ) : Option BoundingBox :=
  if hunit : ∀ v ∈ [x, y, w, h], 0 ≤ v ∧ v ≤ 1 then some ⟨x, y, w, h, hunit⟩ else none

namespace Inference

/-! ## 2. The libraries

Each parameter is a call of a library, with `none` for an exception. -/

/-- One entry of YOLO's `boxes`. -/
structure YoloBox where
  /-- `xyxyn`: left, top, right and bottom, normalised. -/
  left : ℚ
  top : ℚ
  right : ℚ
  bottom : ℚ
  conf : ℚ
  cls : Int
deriving DecidableEq, Repr

/-- What the runners call. `none` is a call that raised, unless another meaning is given. -/
structure Libraries (Image : Type) where
  /-- `cv2.imdecode` of the bytes; `none` is its `None`. -/
  imdecode : List Nat → Option Image
  shape : Image → List Nat
  /-- `FaceLandmarker.detect`: the landmarks of each face. -/
  detect : Image → Option (List (List Landmark))
  /-- `cv2.solvePnP` of the six image points for a frame of this size, as yaw, pitch and roll in
      degrees; `none` is no success. -/
  solvePnP : List (ℚ × ℚ) → Nat → Nat → Option (ℚ × ℚ × ℚ)
  /-- `np.linalg.norm` -/
  norm : List ℚ → ℚ
  /-- `YOLO.predict` from a confidence on; the inner `none` is a prediction without boxes. -/
  predict : Image → ℚ → Option (Option (List YoloBox))
  classNames : List (Int × String)
  /-- The embedding of the face in the box. -/
  embed : Image → PixelBox → Option (List ℚ)
  /-- `MiniFASNet.predict`: whether the face is real, and the confidence. -/
  spoof : Image → PixelBox → Option (Bool × ℚ)
  /-- `webrtcvad.Vad.is_speech` of the samples of a frame, at a rate; the detector remembers what
      it has heard, so the answer also depends on which frame of the chunk it is. -/
  isSpeech : Nat → List Int → Nat → Option Bool
  /-- `compute_rms_db` -/
  rmsDb : List Int → ℚ

/-! ## 3. Frames

A frame comes as text and is decoded once for the four models that see it. -/

/-- `ACCEPTED_ENCODINGS`, sorted. -/
def acceptedEncodings : List String := ["jpeg", "png", "webp"]

structure FrameDecodeError where
  message : String
  payloadKind : String
deriving DecidableEq, Repr

/-- A decoded frame. -/
structure DecodedFrame (Image : Type) where
  array : Image
  width : Nat
  height : Nat
  channels : Nat
  encoding : String

/-- `_decode_base64_to_bytes` -/
def decodeBase64ToBytes (encoded encoding : String) : Except FrameDecodeError (List Nat) :=
  if encoding ∉ acceptedEncodings then
    .error ⟨"encoding '" ++ encoding ++ "' is not supported; use one of ['jpeg', 'png', 'webp']",
      encoding⟩
  else if Websocket.pyStrip encoded.toList = [] then .error ⟨"frame payload is empty", encoding⟩
  else
    match Base64.strictDecode encoded.toList with
    | .error e => .error ⟨"frame payload is not valid base64: " ++ e, encoding⟩
    | .ok raw => .ok raw

/-- A shape as Python prints it. -/
def shapeRepr : List Nat → String
  | [n] => "(" ++ toString n ++ ",)"
  | ns => "(" ++ String.intercalate ", " (ns.map toString) ++ ")"

section
variable {Image : Type} (lib : Libraries Image)

/-- `decode_jpeg_frame` Three things can be wrong with a frame: the text, the bytes, and the shape
    of what they decode to. -/
def decodeJpegFrame (encoded encoding : String) :
    Except FrameDecodeError (DecodedFrame Image) :=
  match decodeBase64ToBytes encoded encoding with
  | .error e => .error e
  | .ok raw =>
    match lib.imdecode raw with
    | none =>
      .error ⟨"cv2.imdecode returned None for the supplied image; the bytes may be truncated " ++
        "or not a valid image.", encoding⟩
    | some array =>
      match lib.shape array with
      | [height, width, channels] =>
        if channels ∈ [3, 4] then .ok ⟨array, width, height, channels, encoding⟩
        else
          .error ⟨"decoded frame has unexpected shape " ++ shapeRepr [height, width, channels] ++
            "; expected (H, W, 3) or (H, W, 4).", encoding⟩
      | other =>
        .error ⟨"decoded frame has unexpected shape " ++ shapeRepr other ++
          "; expected (H, W, 3) or (H, W, 4).", encoding⟩

/-! ## 4. Head pose and gaze

The solver gives the pose, the irises the gaze. A face looks away if it is turned far, or if its
eyes are open and it or they are turned. -/

/-- The landmarks of one eye: its corners and two pairs of the lids. -/
structure EyeIds where
  outer : Nat
  inner : Nat
  upper1 : Nat
  lower1 : Nat
  upper2 : Nat
  lower2 : Nat

def leftEyeIds : EyeIds := ⟨33, 133, 160, 144, 158, 153⟩

def rightEyeIds : EyeIds := ⟨362, 263, 387, 373, 385, 380⟩

def leftIrisIds : List Nat := [468, 469, 470, 471]

def rightIrisIds : List Nat := [473, 474, 475, 476]

def solvePnpLandmarkIds : List Nat := [1, 152, 33, 263, 61, 291]

/-- `yaw_threshold_deg` -/
def yawThreshold : ℚ := 30

/-- `high_yaw_bypass_deg` -/
def highYawBypass : ℚ := 45

/-- `iris_offset_threshold` -/
def irisThreshold : ℚ := 35 / 100

/-- `ear_blink_threshold` -/
def earThreshold : ℚ := 20 / 100

/-- The distance of two landmarks in the image plane. -/
def planeDistance (p q : Landmark) : ℚ := lib.norm [p.x - q.x, p.y - q.y]

/-- `compute_ear`; `none` is an `IndexError`. The height of the eye over its width, which is zero
    for an eye without width. -/
def computeEar (landmarks : List Landmark) (eye : EyeIds) : Option ℚ := do
  let p1 ← landmarks[eye.outer]?
  let p4 ← landmarks[eye.inner]?
  let p2 ← landmarks[eye.upper1]?
  let p6 ← landmarks[eye.lower1]?
  let p3 ← landmarks[eye.upper2]?
  let p5 ← landmarks[eye.lower2]?
  let horizontal := planeDistance lib p1 p4
  if horizontal = 0 then some 0
  else some ((planeDistance lib p2 p6 + planeDistance lib p3 p5) / (2 * horizontal))

/-- `compute_iris_offset` How far the centre of the iris is from the middle of the eye, in widths of
    it. -/
def computeIrisOffset (landmarks : List Landmark) (irisIds : List Nat) (eye : EyeIds) :
    Option ℚ := do
  let iris ← irisIds.mapM (landmarks[·]?)
  let outer ← landmarks[eye.outer]?
  let inner ← landmarks[eye.inner]?
  let centroidX := (iris.map (·.x)).sum / iris.length
  let centroidY := (iris.map (·.y)).sum / iris.length
  let eyeWidth := planeDistance lib outer inner
  if eyeWidth = 0 then some 0
  else
    some (lib.norm [centroidX - (outer.x + inner.x) / 2, centroidY - (outer.y + inner.y) / 2] /
      eyeWidth)

/-- `compute_head_pose`: yaw, pitch and roll. -/
def computeHeadPose (landmarks : List Landmark) (width height : Nat) : Option (ℚ × ℚ × ℚ) := do
  let points ← solvePnpLandmarkIds.mapM (landmarks[·]?)
  some ((lib.solvePnP (points.map fun p => (p.x * width, p.y * height)) width height).getD
    (0, 0, 0))

/-- What is measured on a face. -/
structure GazeMeasures where
  yaw : ℚ
  pitch : ℚ
  roll : ℚ
  ear : ℚ
  irisOffset : ℚ
deriving DecidableEq, Repr

/-- The face is turned far, or the eyes are open and the face or the eyes are turned. -/
def GazeMeasures.LooksAway (m : GazeMeasures) : Prop :=
  highYawBypass < |m.yaw| ∨
    earThreshold ≤ m.ear ∧ (yawThreshold < |m.yaw| ∨ irisThreshold < m.irisOffset)

instance (m : GazeMeasures) : Decidable m.LooksAway :=
  inferInstanceAs (Decidable (_ ∨ _ ∧ (_ ∨ _)))

/-- `conf_score`, with its clamp. -/
def GazeMeasures.confidence (m : GazeMeasures) : Score :=
  let yawRatio := min (|m.yaw| / max yawThreshold 1) 1
  .clamped (if m.LooksAway then
      max yawRatio (min (m.irisOffset / max irisThreshold (1 / 100)) 1)
    else 1 - yawRatio)

/-- The measures of a face, each eye's averaged. -/
def measureFace (landmarks : List Landmark) (width height : Nat) : Option GazeMeasures := do
  let (yaw, pitch, roll) ← computeHeadPose lib landmarks width height
  let earLeft ← computeEar lib landmarks leftEyeIds
  let earRight ← computeEar lib landmarks rightEyeIds
  let offsetLeft ← computeIrisOffset lib landmarks leftIrisIds leftEyeIds
  let offsetRight ← computeIrisOffset lib landmarks rightIrisIds rightEyeIds
  some ⟨yaw, pitch, roll, (earLeft + earRight) / 2, (offsetLeft + offsetRight) / 2⟩

/-- A result with the landmarks of its `raw_value`. -/
structure LandmarkerResult where
  result : HeadPoseGazeResult
  landmarks : List Landmark

/-- `FaceLandmarkerRunner.run`; only the first face is looked at. -/
def FaceLandmarkerRunner.run (frame : DecodedFrame Image) : Option LandmarkerResult :=
  match lib.detect frame.array with
  | none => none
  | some [] => some ⟨⟨.certain, none⟩, []⟩
  | some (face :: _) =>
    (measureFace lib face frame.width frame.height).map fun m =>
      ⟨⟨.point m.confidence, some (decide m.LooksAway)⟩, face⟩

/-! ## 5. Objects

The detector is given its least confidence; what comes back is cut down to the denylist. -/

/-- `DENYLIST_CLASSES` -/
def denylistClasses : List String := ["tv", "laptop", "cell phone", "book"]

/-- `confidence_threshold` of the detector. -/
def detectorConfidence : ℚ := 4 / 10

/-- `filter_denylist_detections`, the boxes with the name of their class. -/
def filterDenylistDetections (boxes : List YoloBox) : List (YoloBox × String) :=
  (boxes.map fun box => (box, (lib.classNames.lookup box.cls).getD "")).filter
    (·.2 ∈ denylistClasses)

/-- The result of one detection. The box is cut to the image, and one whose ends are the wrong way
    round has no width to be one. -/
def detectionResult (detection : YoloBox × String) : Option ObjectDetectionResult := do
  let x1 := (Score.clamped detection.1.left).val
  let y1 := (Score.clamped detection.1.top).val
  let x2 := (Score.clamped detection.1.right).val
  let y2 := (Score.clamped detection.1.bottom).val
  let _ ← BoundingBox.ofFloats x1 y1 (x2 - x1) (y2 - y1)
  let confidence ← ConfidenceInterval.ofFloat detection.1.conf
  some ⟨confidence, detection.2⟩

/-- `ObjectDetectorRunner.run`; one result that cannot be built loses the others. -/
def ObjectDetectorRunner.run (image : Image) : Option (List ObjectDetectionResult) :=
  match lib.predict image detectorConfidence with
  | none => none
  | some none => some []
  | some (some boxes) => (filterDenylistDetections lib boxes).mapM detectionResult

/-! ## 6. Identity

The similarity of two embeddings is their cosine, clamped. Whether it is enough is for the fusion
engine to say. -/

/-- `compute_cosine_similarity`; `none` is its `ValueError`. -/
def computeCosineSimilarity (a b : List ℚ) : Option Score :=
  if a.length ≠ b.length then none
  else if a.length = 0 then none
  else if lib.norm a = 0 ∨ lib.norm b = 0 then some .zero
  else some (.clamped ((List.zipWith (· * ·) a b).sum / (lib.norm a * lib.norm b)))

/-- `IdentityMatchRunner.run` on the face in the box. -/
def IdentityMatchRunner.run (image : Image) (box : PixelBox) (enrollmentEmbedding : List ℚ)
    (similarityThreshold : ℚ) : Option IdentityMatchResult :=
  if ¬ (0 ≤ similarityThreshold ∧ similarityThreshold ≤ 1) then none
  else do
    let currentEmbedding ← lib.embed image box
    let similarity ← computeCosineSimilarity lib currentEmbedding enrollmentEmbedding
    some ⟨similarity⟩

/-- `_AlwaysZeroBackend`, where `face_recognition` is not installed. -/
def Libraries.withoutFaceRecognition : Libraries Image :=
  { lib with embed := fun _ _ => some (List.replicate 128 0) }

/-- Without `face_recognition` the check fails closed: no face is similar to any. -/
theorem withoutFaceRecognition_similarity {image : Image} {box : PixelBox}
    {enrollmentEmbedding : List ℚ} {similarityThreshold : ℚ} {result : IdentityMatchResult}
    (hnorm : lib.norm (List.replicate 128 0) = 0)
    (h : IdentityMatchRunner.run lib.withoutFaceRecognition image box enrollmentEmbedding
      similarityThreshold = some result) : result.similarity = .zero := by
  unfold IdentityMatchRunner.run at h
  split at h
  case isTrue => exact nomatch h
  case isFalse =>
    obtain ⟨embedding, hembedding, hrest⟩ := Option.bind_eq_some_iff.mp h
    obtain rfl := Option.some.inj hembedding
    obtain ⟨similarity, hsimilarity, hresult⟩ := Option.bind_eq_some_iff.mp hrest
    obtain rfl := Option.some.inj hresult
    unfold computeCosineSimilarity at hsimilarity
    split at hsimilarity
    · exact nomatch hsimilarity
    split at hsimilarity
    · exact nomatch hsimilarity
    rw [if_pos (.inl hnorm)] at hsimilarity
    exact (Option.some.inj hsimilarity).symm

/-! ## 7. Liveness

A face is real if the model says so and is as sure of it as the policy asks. -/

/-- `LivenessRunner.run`: the policy's threshold stands over the model's answer. -/
def LivenessRunner.run (image : Image) (box : PixelBox) (confidenceThreshold : ℚ) :
    Option LivenessResult :=
  if ¬ (0 ≤ confidenceThreshold ∧ confidenceThreshold ≤ 1) then none
  else do
    let (modelIsReal, rawConfidence) ← lib.spoof image box
    some ⟨.clamped rawConfidence, modelIsReal && decide (confidenceThreshold ≤ rawConfidence)⟩

/-! ## 8. Voice activity

Speech is a share of the frames the detector calls speech, noise a level above the floor. -/

/-- The frames with speech; one the detector raises on has none. -/
def speechFrames (frames : List (Preprocessing.AudioFrame Int)) : Nat :=
  (frames.zipIdx.filter fun (f, i) => lib.isSpeech i f.samples f.sampleRateHz = some true).length

/-- `speech_count / total`, and zero of no frames. -/
def speechRatio (frames : List (Preprocessing.AudioFrame Int)) : Score where
  val := speechFrames lib frames / frames.length
  nonneg := by positivity
  le_one := by
    have hle : speechFrames lib frames ≤ frames.length := by
      calc (frames.zipIdx.filter _).length
          ≤ frames.zipIdx.length := List.length_filter_le _ _
        _ = frames.length := List.length_zipIdx
    exact div_le_one_of_le₀ (by exact_mod_cast hle) (Nat.cast_nonneg _)

/-- `AudioVadRunner.run` with the two thresholds of its constructor. Speech goes before noise, and
    both before silence. -/
def AudioVadRunner.run (noiseFloorDbfs speechRatioThreshold : ℚ)
    (frames : List (Preprocessing.AudioFrame Int)) (rmsDb : ℚ) : AudioVadResult where
  eventType :=
    if frames.length = 0 then "silence"
    else if speechRatioThreshold ≤ (speechRatio lib frames).val then "speech_detected"
    else if noiseFloorDbfs < rmsDb then "elevated_rms"
    else "silence"
  confidence := .point (speechRatio lib frames)
  speechRatio := (speechRatio lib frames).val
  rmsDb := rmsDb

end

end Inference

end ProctorEngine
