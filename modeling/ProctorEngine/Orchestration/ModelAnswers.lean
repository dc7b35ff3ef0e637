import ProctorEngine.Fusion.Offences
import ProctorEngine.Inference.Runners
import ProctorEngine.Orchestration.HeavyFrames

/-!
# What the models answer to a message

The dispatcher hands a message to the runners, and what reaches the fusion engine is their results.
Here the runners are put behind the dispatcher, and a message is judged by what the models saw.

`Offence` is what a message has to show for a rule to object to it, in the models' own terms: two
faces counted, a face turned away, an object of the denylist, an embedding too far from the
enrolled one, a face that is not real, an event of the page, speech or noise. **A result that
offends in the engine comes of a message that does, against the same rule**
(`offence_of_offends`).
-/

set_option autoImplicit false

namespace ProctorEngine

open Inference SessionAggregator

/-! ## 1. The answers to one message

The five runners behind the dispatcher's `RunnerAnswers`, in the order the dispatcher calls them.
One that raises has no answer. -/

section
variable {Image : Type} (lib : Libraries Image) (config : FrameDispatcherConfig)

/-- The answers for a heavy frame; `nows` are the instants its detections are judged at. Every model
    is asked here; which of them the dispatcher asks is its own affair. Identity and liveness see
    the box of the first face. -/
def heavyFrameAnswers (payload : TelemetryHeavyFramePayload) (nows : Nat → DateTime) :
    HeavyFrameAnswers :=
  match decodeJpegFrame lib payload.frame payload.encoding with
  | .error _ => ⟨false, none, false, none, none, none⟩
  | .ok frame =>
    let landmarkerResult := FaceLandmarkerRunner.run lib frame
    let box := landmarkerResult.bind fun r => extractFaceBbox r.landmarks frame.width frame.height
    { decoded := true
      landmarker := landmarkerResult.map (·.result)
      faceBox := box.isSome
      detections := (ObjectDetectorRunner.run lib frame.array).map fun detections =>
        detections.mapIdx fun i detection => (detection, nows i)
      identity := box.bind fun box => config.enrollmentEmbedding.bind fun embedding =>
        IdentityMatchRunner.run lib frame.array box embedding
          config.policySnapshot.identitySimilarityThreshold
      liveness := box.bind fun box =>
        LivenessRunner.run lib frame.array box config.policySnapshot.livenessScoreThreshold }

/-- The answer for an audio chunk; a detector that cannot be constructed gives none. The chunk is
    cut into the frames of the detector, and the level is taken of all its samples. -/
def audioAnswer (payload : TelemetryAudioChunkPayload) : Option AudioVadResult :=
  match Preprocessing.decodePcmAudioChunk payload.audio "pcm16_le" (some payload.sampleRateHz) with
  | .error _ => none
  | .ok samples =>
    match Preprocessing.splitIntoVadFrames samples payload.sampleRateHz payload.durationMs 0 with
    | .error _ => none
    | .ok frames =>
      if 0 ≤ config.policySnapshot.audioSpeechRatioThreshold ∧
          config.policySnapshot.audioSpeechRatioThreshold ≤ 1 then
        some (AudioVadRunner.run lib config.policySnapshot.audioNoiseFloorDbfs
          config.policySnapshot.audioSpeechRatioThreshold frames (lib.rmsDb samples))
      else none

def runnerAnswers (message : ClientMessage) (nows : Nat → DateTime) : RunnerAnswers :=
  match message.payload with
  | .telemetryHeavyFrame payload =>
    { RunnerAnswers.unused with heavyFrame := heavyFrameAnswers lib config payload nows }
  | .audioChunk payload => { RunnerAnswers.unused with audioVad := audioAnswer lib config payload }
  | _ => .unused

/-! ## 2. Offences

Each constructor is one rule, with what the message, the frame and the models have to be for it. -/

/-- The message is a heavy frame, and this is the frame. -/
def FrameOf (message : ClientMessage) (frame : DecodedFrame Image) : Prop :=
  ∃ payload, message.payload = .telemetryHeavyFrame payload ∧
    decodeJpegFrame lib payload.frame payload.encoding = .ok frame

/-- The first face the landmarker finds on the frame of the message. -/
def FaceOf (message : ClientMessage) (frame : DecodedFrame Image) (face : List Landmark) : Prop :=
  FrameOf lib message frame ∧ ∃ others, lib.detect frame.array = some (face :: others)

/-- What a message has to show for a rule to object to it. -/
inductive Offence (message : ClientMessage) : String → Prop
  | secondPerson {payload : TelemetryLightPayload}
      (sent : message.payload = .telemetryLight payload) (faces : 2 ≤ payload.faceCount) :
      Offence message "second_person"
  | lookAway {frame : DecodedFrame Image} {face : List Landmark} {m : GazeMeasures}
      (seen : FaceOf lib message frame face)
      (measured : measureFace lib face frame.width frame.height = some m) (away : m.LooksAway) :
      Offence message "gaze_away_frequency"
  | object {frame : DecodedFrame Image} {boxes : List YoloBox} {box : YoloBox} {name : String}
      (shown : FrameOf lib message frame)
      (predicted : lib.predict frame.array detectorConfidence = some (some boxes))
      (mem : box ∈ boxes) (named : lib.classNames.lookup box.cls = some name)
      (denied : name ∈ denylistClasses)
      (forbidden : name = "book" → config.context.flagsBook = true) :
      Offence message (if name = "book" then bookRuleCode else "object_detected")
  | otherFace {frame : DecodedFrame Image} {face : List Landmark} {box : PixelBox}
      {current enrolled : List ℚ} {similarity : Score} (seen : FaceOf lib message frame face)
      (boxed : extractFaceBbox face frame.width frame.height = some box)
      (enrollment : config.enrollmentEmbedding = some enrolled)
      (embedded : lib.embed frame.array box = some current)
      (compared : computeCosineSimilarity lib current enrolled = some similarity)
      (apart : similarity.val < config.policySnapshot.identitySimilarityThreshold) :
      Offence message "identity_mismatch"
  | spoof {frame : DecodedFrame Image} {face : List Landmark} {box : PixelBox} {isReal : Bool}
      {confidence : ℚ} (seen : FaceOf lib message frame face)
      (boxed : extractFaceBbox face frame.width frame.height = some box)
      (answered : lib.spoof frame.array box = some (isReal, confidence))
      (doubted : isReal = true → confidence < config.policySnapshot.livenessScoreThreshold) :
      Offence message "liveness_check_failed"
  | page {payload : TelemetryBrowserEventPayload} (sent : message.payload = .browserEvent payload) :
      Offence message "browser_event"
  | sound {payload : TelemetryAudioChunkPayload} {samples : List Int}
      {frames : List (Preprocessing.AudioFrame Int)} (sent : message.payload = .audioChunk payload)
      (decoded : Preprocessing.decodePcmAudioChunk payload.audio "pcm16_le"
        (some payload.sampleRateHz) = .ok samples)
      (framed : Preprocessing.splitIntoVadFrames samples payload.sampleRateHz payload.durationMs 0 =
        .ok frames)
      (heard : config.policySnapshot.audioSpeechRatioThreshold ≤ (speechRatio lib frames).val ∨
        config.policySnapshot.audioNoiseFloorDbfs < lib.rmsDb samples) :
      Offence message "audio_anomaly"

end

/-! ## 3. A result that offends comes of a message that does

One lemma for each runner: what the engine objects to in its result is what the models saw. The
result for a frame puts them together. -/

section
variable {Image : Type} {lib : Libraries Image} {config : FrameDispatcherConfig}
  {message : ClientMessage} {frame : DecodedFrame Image} {nows : Nat → DateTime}
  {payload : TelemetryHeavyFramePayload}

/-- A look away is one of the first face. -/
theorem offence_of_landmarker {r : LandmarkerResult} (hframe : FrameOf lib message frame)
    (hrun : FaceLandmarkerRunner.run lib frame = some r) (haway : r.result.offScreen = some true) :
    Offence lib config message "gaze_away_frequency" := by
  unfold FaceLandmarkerRunner.run at hrun
  split at hrun
  · cases hrun
  · obtain rfl := Option.some.inj hrun
    cases haway
  · rename_i face others hdetect
    obtain ⟨m, hm, rfl⟩ := Option.map_eq_some_iff.mp hrun
    exact .lookAway ⟨hframe, others, hdetect⟩ hm (of_decide_eq_true (Option.some.inj haway))

/-- The box is one of the first face. -/
theorem faceOf_box {r : LandmarkerResult} {box : PixelBox} (hframe : FrameOf lib message frame)
    (hrun : FaceLandmarkerRunner.run lib frame = some r)
    (hbox : extractFaceBbox r.landmarks frame.width frame.height = some box) :
    FaceOf lib message frame r.landmarks := by
  unfold FaceLandmarkerRunner.run at hrun
  split at hrun
  · cases hrun
  · obtain rfl := Option.some.inj hrun
    cases hbox
  · rename_i face others hdetect
    obtain ⟨m, -, rfl⟩ := Option.map_eq_some_iff.mp hrun
    exact ⟨hframe, others, hdetect⟩

theorem mem_mapM {α β : Type} {f : α → Option β} {l : List α} {l' : List β} {y : β}
    (h : l.mapM f = some l') (hy : y ∈ l') : ∃ x ∈ l, f x = some y := by
  induction l generalizing l' with
  | nil =>
    obtain rfl := Option.some.inj h
    exact absurd hy List.not_mem_nil
  | cons x l ih =>
    rw [List.mapM_cons] at h
    obtain ⟨z, hz, h⟩ := Option.bind_eq_some_iff.mp h
    obtain ⟨zs, hzs, h⟩ := Option.bind_eq_some_iff.mp h
    obtain rfl := Option.some.inj h
    rcases List.mem_cons.mp hy with rfl | hy
    · exact ⟨x, List.mem_cons_self, hz⟩
    · obtain ⟨w, hw, hfw⟩ := ih hzs hy
      exact ⟨w, List.mem_cons_of_mem x hw, hfw⟩

theorem offence_of_detection {detections : List ObjectDetectionResult}
    {detection : ObjectDetectionResult} (hframe : FrameOf lib message frame)
    (hrun : ObjectDetectorRunner.run lib frame.array = some detections)
    (hmem : detection ∈ detections)
    (hforbidden : detection.detectedClass = "book" → config.context.flagsBook = true) :
    Offence lib config message
      (if detection.detectedClass = "book" then bookRuleCode else "object_detected") := by
  unfold ObjectDetectorRunner.run at hrun
  split at hrun
  · cases hrun
  · obtain rfl := Option.some.inj hrun
    exact absurd hmem List.not_mem_nil
  · rename_i boxes hpredict
    obtain ⟨⟨box, name⟩, hfiltered, hresult⟩ := mem_mapM hrun hmem
    obtain ⟨hboxes, hdenied⟩ := List.mem_filter.mp hfiltered
    obtain ⟨box', hbox, heq⟩ := List.mem_map.mp hboxes
    obtain ⟨rfl, hname⟩ := Prod.mk.inj heq
    obtain ⟨-, -, hresult⟩ := Option.bind_eq_some_iff.mp hresult
    obtain ⟨confidence, -, hresult⟩ := Option.bind_eq_some_iff.mp hresult
    obtain rfl := Option.some.inj hresult
    have hdenied := of_decide_eq_true hdenied
    cases hlookup : lib.classNames.lookup box'.cls with
    | none =>
      -- a class without a name is on no list
      rw [hlookup] at hname
      obtain rfl : "" = name := hname
      have hunnamed : "" ∉ denylistClasses := by decide
      exact absurd hdenied hunnamed
    | some found =>
      rw [hlookup] at hname
      obtain rfl : found = name := hname
      exact .object hframe hpredict hbox hlookup hdenied hforbidden

theorem offence_of_identity {box : PixelBox} {enrolled : List ℚ} {face : List Landmark}
    {result : IdentityMatchResult} (hface : FaceOf lib message frame face)
    (hbox : extractFaceBbox face frame.width frame.height = some box)
    (henrolled : config.enrollmentEmbedding = some enrolled)
    (hrun : IdentityMatchRunner.run lib frame.array box enrolled
      config.policySnapshot.identitySimilarityThreshold = some result)
    (hapart : result.similarity.val < config.policySnapshot.identitySimilarityThreshold) :
    Offence lib config message "identity_mismatch" := by
  unfold IdentityMatchRunner.run at hrun
  split at hrun
  · cases hrun
  · obtain ⟨current, hcurrent, hrun⟩ := Option.bind_eq_some_iff.mp hrun
    obtain ⟨similarity, hsimilarity, hrun⟩ := Option.bind_eq_some_iff.mp hrun
    obtain rfl := Option.some.inj hrun
    exact .otherFace hface hbox henrolled hcurrent hsimilarity hapart

theorem offence_of_liveness {box : PixelBox} {face : List Landmark} {result : LivenessResult}
    (hface : FaceOf lib message frame face)
    (hbox : extractFaceBbox face frame.width frame.height = some box)
    (hrun : LivenessRunner.run lib frame.array box config.policySnapshot.livenessScoreThreshold =
      some result) (hspoof : result.isReal = false) :
    Offence lib config message "liveness_check_failed" := by
  unfold LivenessRunner.run at hrun
  split at hrun
  · cases hrun
  · obtain ⟨⟨isReal, confidence⟩, hanswer, hrun⟩ := Option.bind_eq_some_iff.mp hrun
    obtain rfl := Option.some.inj hrun
    refine .spoof hface hbox hanswer fun hreal => ?_
    rw [hreal, Bool.true_and] at hspoof
    exact not_le.mp (of_decide_eq_false hspoof)

theorem offence_of_audio {payload : TelemetryAudioChunkPayload} {result : AudioVadResult}
    (hsent : message.payload = .audioChunk payload)
    (hanswer : audioAnswer lib config payload = some result)
    (hsound : result.eventType ≠ "silence") : Offence lib config message "audio_anomaly" := by
  unfold audioAnswer at hanswer
  split at hanswer
  · cases hanswer
  · rename_i samples hdecoded
    split at hanswer
    · cases hanswer
    · rename_i frames hframed
      split at hanswer
      · obtain rfl := Option.some.inj hanswer
        refine .sound hsent hdecoded hframed ?_
        by_contra hquiet
        rw [not_or] at hquiet
        refine hsound ?_
        simp only [AudioVadRunner.run, if_neg hquiet.1, if_neg hquiet.2, ite_self]
      · cases hanswer

/-- The results of a heavy frame, each with the answer it is made of. -/
theorem heavyFrameEvents_cases {d : FrameDispatcher} {capturedAt : DateTime} {id : UUID}
    {answers : HeavyFrameAnswers} {e : InferenceEvent}
    (h : e ∈ d.heavyFrameEvents capturedAt id answers) :
    (∃ r timestamp, answers.landmarker = some r ∧ e = .gaze r id timestamp) ∨
      (∃ detections det, answers.detections = some detections ∧ det ∈ detections ∧
        e = .objectDetection det.1 id det.2) ∨
      (∃ r, answers.identity = some r ∧ e = .identityMatch r id) ∨
      ∃ r, answers.liveness = some r ∧ e = .liveness r id := by
  have hliveness : ∀ {decision : InferenceDecision} {landmarkerResult : Option HeadPoseGazeResult},
      e ∈ d.livenessEvents decision landmarkerResult id answers →
        ∃ r, answers.liveness = some r ∧ e = .liveness r id := by
    intro decision landmarkerResult he
    unfold FrameDispatcher.livenessEvents at he
    split at he
    · obtain ⟨r, hr, rfl⟩ := List.mem_map.mp he
      exact ⟨r, Option.mem_toList.mp hr, rfl⟩
    · exact absurd he List.not_mem_nil
  unfold FrameDispatcher.heavyFrameEvents at h
  extract_lets decision landmarkerResult gaze objects rest at h
  -- The events in the order of the source: gaze, objects, then identity and liveness.
  rcases List.mem_append.mp h with h | h
  · rcases List.mem_append.mp h with h | h
    · simp only [gaze] at h
      split at h
      · obtain ⟨r, hr, rfl⟩ := List.mem_map.mp h
        have hr := Option.mem_toList.mp hr
        simp only [landmarkerResult] at hr
        split at hr
        · exact .inl ⟨r, _, hr, rfl⟩
        · cases hr
      · exact absurd h List.not_mem_nil
    · simp only [objects] at h
      split at h
      · obtain ⟨det, hdet, rfl⟩ := List.mem_map.mp h
        cases hdetections : answers.detections with
        | none =>
          rw [hdetections] at hdet
          exact absurd hdet List.not_mem_nil
        | some detections =>
          rw [hdetections] at hdet
          exact .inr (.inl ⟨detections, det, rfl, hdet, rfl⟩)
      · exact absurd h List.not_mem_nil
  -- a liveness event stands after the identity answer, or alone where none was asked for
  · simp only [rest] at h
    split at h
    · split at h
      · exact absurd h List.not_mem_nil
      · split at h
        · exact absurd h List.not_mem_nil
        · rename_i r hr
          rcases List.mem_cons.mp h with rfl | h
          · exact .inr (.inr (.inl ⟨r, hr, rfl⟩))
          · exact .inr (.inr (.inr (hliveness h)))
    · exact .inr (.inr (.inr (hliveness h)))

/-- The answers for a frame offend where a result made of them does. -/
theorem offence_of_heavyFrame {d : FrameDispatcher} {capturedAt : DateTime} {id : UUID}
    {e : InferenceEvent} (hsent : message.payload = .telemetryHeavyFrame payload)
    (he : e ∈ d.heavyFrameEvents capturedAt id (heavyFrameAnswers lib config payload nows))
    (hoffends : e.Offends config.policySnapshot config.context) :
    Offence lib config message e.ruleCode := by
  unfold heavyFrameAnswers at he
  cases hdecoded : decodeJpegFrame lib payload.frame payload.encoding with
  | error error =>
    rw [hdecoded] at he
    obtain ⟨r, _, hr, -⟩ | ⟨_, _, hr, -⟩ | ⟨r, hr, -⟩ | ⟨r, hr, -⟩ := heavyFrameEvents_cases he
    -- no frame, so no model was asked
    all_goals cases hr
  | ok frame =>
    rw [hdecoded] at he
    have hframe : FrameOf lib message frame := ⟨payload, hsent, hdecoded⟩
    obtain ⟨r, _, hr, rfl⟩ | ⟨detections, det, hr, hdet, rfl⟩ | ⟨r, hr, rfl⟩ | ⟨r, hr, rfl⟩ :=
      heavyFrameEvents_cases he
    · obtain ⟨result, hrun, rfl⟩ := Option.map_eq_some_iff.mp hr
      exact offence_of_landmarker hframe hrun hoffends
    · obtain ⟨results, hrun, rfl⟩ := Option.map_eq_some_iff.mp hr
      obtain ⟨i, hi, rfl⟩ := List.mem_mapIdx.mp hdet
      exact offence_of_detection hframe hrun (List.getElem_mem hi) hoffends
    · obtain ⟨box, hbox, hr⟩ := Option.bind_eq_some_iff.mp hr
      obtain ⟨enrolled, henrolled, hrun⟩ := Option.bind_eq_some_iff.mp hr
      obtain ⟨result, hlandmarker, hbox⟩ := Option.bind_eq_some_iff.mp hbox
      exact offence_of_identity (faceOf_box hframe hlandmarker hbox) hbox henrolled hrun hoffends
    · obtain ⟨box, hbox, hrun⟩ := Option.bind_eq_some_iff.mp hr
      obtain ⟨result, hlandmarker, hbox⟩ := Option.bind_eq_some_iff.mp hbox
      exact offence_of_liveness (faceOf_box hframe hlandmarker hbox) hbox hrun hoffends

/-- **A result that offends comes of a message that does**, against the same rule. -/
theorem offence_of_offends {d : FrameDispatcher} {id : UUID} {e : InferenceEvent}
    (he : e ∈ d.inferenceEvents message id (runnerAnswers lib config message nows))
    (hoffends : e.Offends config.policySnapshot config.context) :
    Offence lib config message e.ruleCode := by
  -- One payload gives results of its own kinds only.
  unfold FrameDispatcher.inferenceEvents runnerAnswers at he
  cases hpayload : message.payload with
  | telemetryLight payload =>
    rw [hpayload] at he
    obtain rfl := List.mem_singleton.mp he
    exact .secondPerson hpayload hoffends
  | telemetryHeavyFrame payload =>
    rw [hpayload] at he
    dsimp only at he
    split at he
    · exact offence_of_heavyFrame hpayload he hoffends
    · exact absurd he List.not_mem_nil
  | audioChunk payload =>
    rw [hpayload] at he
    dsimp only at he
    unfold FrameDispatcher.audioEvents at he
    split at he
    · exact absurd he List.not_mem_nil
    · rename_i result hanswer
      split at he
      · exact absurd he List.not_mem_nil
      · rename_i hsound
        obtain rfl := List.mem_singleton.mp he
        exact offence_of_audio hpayload hanswer hsound
  | browserEvent payload =>
    rw [hpayload] at he
    obtain ⟨result, -, rfl⟩ := List.mem_map.mp he
    exact .page hpayload
  | killSwitchAck payload =>
    rw [hpayload] at he
    exact absurd he List.not_mem_nil

end

end ProctorEngine
