import ProctorEngine.Lib.Window
import ProctorEngine.Fusion.Policy
import ProctorEngine.Fusion.Types

/-!
# `SessionAggregator`

The fusion engine: a state, and one function per modality from a result and the state to the
decisions raised and the new state. Every limit, window and weight is read from the `PolicySnapshot`
and everything about the session from the `SessionContext`, both fixed at construction.

Six rules add to the accumulated score. Each raises one `medium` decision whose `score_delta` is its
weight, adds the weight, and then asks whether the score has reached the threshold; that sequence is
`raiseMedium`, and **nothing else changes the score**.

The details of the decisions are written out, text for text, since proctors and tests read them. The
mutable attributes of the source are the fields of the state; its deques are lists with the newest
entry last, and what a bounded deque drops is `slide`.
-/

set_option autoImplicit false

namespace ProctorEngine

/-! ## 1. State

One field for each attribute, under its name. -/

/-- The working state of one session. The two deques of a window grow and shrink together, so
    a window is a list of pairs. -/
structure SessionAggregator where
  consecutiveSecondPersonFrames : Nat
  secondPersonEventIds : List UUID
  secondPersonFired : Bool
  gazeOffStartMs : Option Int
  gazeOffEventIds : List UUID
  gazeAwayEvents : List GazeAwayEvent
  gazeTerminationFired : Bool
  accumulatedScore : ℚ
  livenessWindow : List (LivenessResult × UUID)
  livenessSpoofRunLength : Nat
  identityWindow : List (IdentityMatchResult × UUID)
  identityMismatchFired : Bool
deriving DecidableEq

namespace SessionAggregator

/-- An aggregator as constructed. -/
def new : SessionAggregator where
  consecutiveSecondPersonFrames := 0
  secondPersonEventIds := []
  secondPersonFired := false
  gazeOffStartMs := none
  gazeOffEventIds := []
  gazeAwayEvents := []
  gazeTerminationFired := false
  accumulatedScore := 0
  livenessWindow := []
  livenessSpoofRunLength := 0
  identityWindow := []
  identityMismatchFired := false

/-! ## 2. The accumulated score

The score, the threshold, and the decision on its crossing. -/

/-- `_check_accumulated_threshold`. A threshold of zero disables the path. It is handed the total
    and the ids of the decision that brought it there, and keeps nothing of the answer. -/
def checkAccumulatedThreshold (policy : PolicySnapshot) (accumulatedScore : ℚ)
    (contributingEventIds : List UUID) : Option FlagDecision :=
  let threshold := policy.mediumScoreTerminationThreshold
  if threshold ≤ 0 then none
  else if accumulatedScore < threshold then none
  else some
    { ruleCode := "accumulated_score"
      severity := "critical"
      confidence := .certain
      triggeredTermination := policy.mediumScoreAction = .autoTerminate
      detail := [("accumulated_score", .num accumulatedScore), ("threshold", .num threshold),
        ("medium_score_action", .str policy.mediumScoreAction.value)]
      contributingEventIds := contributingEventIds }

section
variable {policy : PolicySnapshot} {score : ℚ} {ids : List UUID} {p : FlagDecision}

theorem checkAccumulatedThreshold_eq_some_iff :
    checkAccumulatedThreshold policy score ids = some p ↔
      0 < policy.mediumScoreTerminationThreshold ∧
        policy.mediumScoreTerminationThreshold ≤ score ∧
        p = {
          ruleCode := "accumulated_score"
          severity := "critical"
          confidence := .certain
          triggeredTermination := policy.mediumScoreAction = .autoTerminate
          detail := [("accumulated_score", .num score),
            ("threshold", .num policy.mediumScoreTerminationThreshold),
            ("medium_score_action", .str policy.mediumScoreAction.value)]
          contributingEventIds := ids } := by
  simp only [checkAccumulatedThreshold]
  by_cases hoff : policy.mediumScoreTerminationThreshold ≤ 0
  · rw [if_pos hoff]
    exact iff_of_false (by simp) fun h => absurd hoff (not_le.mpr h.1)
  · rw [if_neg hoff]
    by_cases hbelow : score < policy.mediumScoreTerminationThreshold
    · rw [if_pos hbelow]
      exact iff_of_false (by simp) fun h => absurd hbelow (not_lt.mpr h.2.1)
    · rw [if_neg hbelow, Option.some.injEq, eq_comm]
      exact ⟨fun h => ⟨not_le.mp hoff, not_lt.mp hbelow, h⟩, fun h => h.2.2⟩

/-- Path 3 is silent only where it is off or its threshold is not reached. -/
theorem checkAccumulatedThreshold_eq_none_iff :
    checkAccumulatedThreshold policy score ids = none ↔
      ¬ (0 < policy.mediumScoreTerminationThreshold ∧
        policy.mediumScoreTerminationThreshold ≤ score) := by
  rw [Option.eq_none_iff_forall_ne_some]
  simp only [ne_eq, checkAccumulatedThreshold_eq_some_iff]
  constructor
  · intro h ⟨hon, hreached⟩
    exact h _ ⟨hon, hreached, rfl⟩
  · intro h p hp
    exact h ⟨hp.1, hp.2.1⟩

end

/-- Raise a decision that adds its `score_delta`, and the Path-3 decision if that reaches the
    threshold. -/
def raiseMedium (policy : PolicySnapshot) (a : SessionAggregator) (decision : FlagDecision) :
    List FlagDecision × SessionAggregator :=
  let accumulatedScore := a.accumulatedScore + decision.scoreDelta
  (decision ::
      (checkAccumulatedThreshold policy accumulatedScore decision.contributingEventIds).toList,
    { a with accumulatedScore := accumulatedScore })

/-! ## 3. Modalities

The methods in the order of the source, each with its early returns. -/

/-- `process_face_presence`. The rule fires once: at the frame that makes the streak of frames with
    two faces or more long enough. A frame with fewer ends the streak and forgets its ids. -/
def processFacePresence (policy : PolicySnapshot) (a : SessionAggregator)
    (result : FacePresenceResult) (telemetryEventId : UUID) :
    List FlagDecision × SessionAggregator :=
  if a.secondPersonFired then ([], a)
  else if ¬ policy.terminateOnSecondFace then ([], a)
  else if 2 ≤ result.faceCount then
    let a := { a with
      consecutiveSecondPersonFrames := a.consecutiveSecondPersonFrames + 1
      secondPersonEventIds := a.secondPersonEventIds ++ [telemetryEventId] }
    if policy.secondFaceConfirmationFrames ≤ a.consecutiveSecondPersonFrames then
      ([{ ruleCode := "second_person"
          severity := "critical"
          confidence := result.confidence
          triggeredTermination := true
          detail := [("face_count", .num result.faceCount),
            ("confirmation_frames", .num policy.secondFaceConfirmationFrames)]
          contributingEventIds := a.secondPersonEventIds }],
        { a with secondPersonFired := true })
    else ([], a)
  else ([], { a with consecutiveSecondPersonFrames := 0, secondPersonEventIds := [] })

/-- A deque of bounded length: append, and drop the oldest of one too many. -/
def slide {α : Type} (size : Nat) (window : List α) (x : α) : List α :=
  if size < (window ++ [x]).length then (window ++ [x]).tail else window ++ [x]

/-- `process_liveness`. A real face resets the run and still enters the window. Whether a firing
    terminates is up to the policy; if it does not, the decision is on the score path. -/
def processLiveness (policy : PolicySnapshot) (a : SessionAggregator) (result : LivenessResult)
    (telemetryEventId : UUID) : List FlagDecision × SessionAggregator :=
  if ¬ policy.livenessCheckEnabled then ([], a)
  else
    let windowSize := policy.livenessConfirmationFrames
    let a :=
      { a with livenessWindow := slide windowSize a.livenessWindow (result, telemetryEventId) }
    if result.isReal then ([], { a with livenessSpoofRunLength := 0 })
    else
      let a := { a with livenessSpoofRunLength := a.livenessSpoofRunLength + 1 }
      if a.livenessWindow.length < windowSize then ([], a)
      else if a.livenessWindow.any (·.1.isReal) then ([], a)
      -- one fire per full window of a sustained streak
      else if a.livenessSpoofRunLength % windowSize ≠ 0 then ([], a)
      else match a.livenessWindow.map (·.1.confidence) with
        -- the window is as long as `windowSize`, which is positive
        | [] => ([], a)
        | score :: scores =>
          let interval := ConfidenceInterval.ofWindow score scores
          let terminates := policy.livenessCheckAction = some .criticalTerminate
          let action : LivenessAction :=
            if terminates then .criticalTerminate else .mediumAccumulate
          let detail : Dict :=
            [("window_size", .num windowSize), ("mean_confidence", .num interval.score),
              ("min_confidence", .num interval.lower), ("max_confidence", .num interval.upper),
              ("threshold", .num policy.livenessScoreThreshold),
              ("liveness_check_action", .str action.value)]
          if terminates then
            ([{ ruleCode := "liveness_check_failed"
                severity := "critical"
                confidence := interval
                triggeredTermination := true
                detail := detail
                contributingEventIds := a.livenessWindow.map (·.2) }], a)
          else
            raiseMedium policy a
              { ruleCode := "liveness_check_failed"
                severity := "medium"
                confidence := interval
                detail := detail
                contributingEventIds := a.livenessWindow.map (·.2)
                scoreDelta := policy.weightFor "liveness_check_failed" }

/-- The streak half of `process_gaze`: a frame off screen continues a streak, a frame on
    screen closes it into an event if it lasted, a frame without landmarks is not there. -/
def mergeGazeFrame (policy : PolicySnapshot) (a : SessionAggregator) (result : HeadPoseGazeResult)
    (telemetryEventId : UUID) (frameTimestampMs : Int) : SessionAggregator :=
  match result.offScreen with
  | none => a
  | some true =>
    { a with
      gazeOffStartMs := some (a.gazeOffStartMs.getD frameTimestampMs)
      gazeOffEventIds := a.gazeOffEventIds ++ [telemetryEventId] }
  | some false =>
    match a.gazeOffStartMs with
    | none => a
    | some start =>
      { a with
        gazeAwayEvents :=
          if (policy.gazeMinDurationMs : Int) ≤ frameTimestampMs - start then
            a.gazeAwayEvents ++ [⟨start, frameTimestampMs, a.gazeOffEventIds⟩]
          else a.gazeAwayEvents
        gazeOffStartMs := none
        gazeOffEventIds := [] }

/-- `process_gaze`. The frame is merged into the streak, then the window is cut and its events are
    counted, whether or not the frame added one. A warning names the newest event, a termination all
    of them. -/
def processGaze (policy : PolicySnapshot) (a : SessionAggregator) (result : HeadPoseGazeResult)
    (telemetryEventId : UUID) (frameTimestampMs : Int) : List FlagDecision × SessionAggregator :=
  if a.gazeTerminationFired then ([], a)
  else
    let a := a.mergeGazeFrame policy result telemetryEventId frameTimestampMs
    let a := { a with
      gazeAwayEvents := Window.evict GazeAwayEvent.endedAtMs
        (frameTimestampMs - policy.gazeWindowSeconds * 1000) a.gazeAwayEvents }
    let count := a.gazeAwayEvents.length
    -- termination takes priority over the warning
    if policy.gazeTerminationLimit ≤ count then
      ([{ ruleCode := "gaze_away_frequency"
          severity := "critical"
          confidence := result.confidence
          triggeredTermination := true
          detail := [("gaze_away_count", .num count),
            ("gaze_termination_limit", .num policy.gazeTerminationLimit),
            ("window_seconds", .num policy.gazeWindowSeconds)]
          contributingEventIds := a.gazeAwayEvents.flatMap (·.contributingEventIds) }],
        { a with gazeTerminationFired := true })
    else if policy.gazeWarningLimit ≤ count then
      raiseMedium policy a
        { ruleCode := "gaze_away_frequency"
          severity := "medium"
          confidence := result.confidence
          detail := [("gaze_away_count", .num count),
            ("gaze_warning_limit", .num policy.gazeWarningLimit),
            ("window_seconds", .num policy.gazeWindowSeconds)]
          contributingEventIds :=
            (a.gazeAwayEvents.getLast?.map (·.contributingEventIds)).getD []
          scoreDelta := policy.weightFor "gaze_away_frequency" }
    else ([], a)

/-- `process_identity_match`. Fires once, at the first full window in which no similarity reaches
    the threshold, and over all of that window. -/
def processIdentityMatch (policy : PolicySnapshot) (a : SessionAggregator)
    (result : IdentityMatchResult) (telemetryEventId : UUID) :
    List FlagDecision × SessionAggregator :=
  if a.identityMismatchFired then ([], a)
  else
    let windowSize := policy.identityConfirmationFrames
    let threshold := policy.identitySimilarityThreshold
    let a :=
      { a with identityWindow := slide windowSize a.identityWindow (result, telemetryEventId) }
    if a.identityWindow.length < windowSize then ([], a)
    else if a.identityWindow.any fun r => threshold ≤ r.1.similarity.val then ([], a)
    else match a.identityWindow.map (·.1.similarity) with
      | [] => ([], a)
      | score :: scores =>
        let interval := ConfidenceInterval.ofWindow score scores
        ([{ ruleCode := "identity_mismatch"
            severity := "critical"
            confidence := interval
            triggeredTermination := true
            detail := [("window_size", .num windowSize), ("mean_similarity", .num interval.score),
              ("min_similarity", .num interval.lower), ("max_similarity", .num interval.upper),
              ("threshold", .num threshold)]
            contributingEventIds := a.identityWindow.map (·.2) }],
          { a with identityMismatchFired := true })

/-- `process_identity_check_unavailable`. -/
def processIdentityCheckUnavailable (a : SessionAggregator) (telemetryEventId : UUID) :
    List FlagDecision × SessionAggregator :=
  ([{ ruleCode := "identity_check_unavailable"
      severity := "medium"
      confidence := .certain
      detail := [("reason", .str ("identity backend unavailable at session start; " ++
        "override exists, mandatory review required"))]
      contributingEventIds := [telemetryEventId] }], a)

/-- `process_object_detection`. A book is nothing where the session does not flag books, and has a
    rule and a severity of its own where it does. An exemption keeps the decision and takes it off
    the score path. -/
def processObjectDetection (policy : PolicySnapshot) (ctx : SessionContext)
    (a : SessionAggregator) (result : ObjectDetectionResult) (telemetryEventId : UUID)
    (now : DateTime) : List FlagDecision × SessionAggregator :=
  if result.detectedClass = "book" ∧ ¬ ctx.flagsBook then ([], a)
  else
    let exemption := ctx.exemptionFor result.detectedClass now
    let ruleCode := if result.detectedClass = "book" then bookRuleCode else "object_detected"
    let baseSeverity := if result.detectedClass = "book" then bookFlagSeverity else "medium"
    let severity := if exemption.isSome then suppressedSeverity else baseSeverity
    let decision : FlagDecision :=
      { ruleCode := ruleCode
        severity := severity
        confidence := result.confidence
        suppressedByExemptionId := exemption.map (·.id)
        detail := [("detected_class", .str result.detectedClass),
          ("yolo_confidence", .num result.confidence.score),
          ("suppressed", .bool exemption.isSome)]
        contributingEventIds := [telemetryEventId] }
    if severity = "medium" then
      raiseMedium policy a { decision with scoreDelta := policy.weightFor ruleCode }
    else ([decision], a)

/-- `_BROWSER_ACCUMULATION_EVENTS`. -/
def browserAccumulationEvents : List String := ["visibilitychange", "blur"]

/-- `process_browser_event`. Every event gives a decision; those of the accumulating kinds add its
    weight. -/
def processBrowserEvent (policy : PolicySnapshot) (a : SessionAggregator)
    (result : BrowserEventResult) (telemetryEventId : UUID) :
    List FlagDecision × SessionAggregator :=
  let accumulates := result.eventType ∈ browserAccumulationEvents
  let decision : FlagDecision :=
    { ruleCode := "browser_event"
      severity := "medium"
      confidence := result.confidence
      detail := [("browser_event_type", .str result.eventType), ("detail", .obj result.detail)]
      contributingEventIds := [telemetryEventId]
      scoreDelta := if accumulates then policy.weightFor "browser_event" else 0 }
  if accumulates then raiseMedium policy a decision else ([decision], a)

/-- `process_audio_vad`. Anything but silence gives a decision on the score path. -/
def processAudioVad (policy : PolicySnapshot) (a : SessionAggregator) (result : AudioVadResult)
    (telemetryEventId : UUID) : List FlagDecision × SessionAggregator :=
  if result.eventType = "silence" then ([], a)
  else raiseMedium policy a
    { ruleCode := "audio_anomaly"
      severity := "medium"
      confidence := result.confidence
      detail := [("audio_event_type", .str result.eventType),
        ("speech_ratio", .num result.speechRatio), ("rms_db", .num result.rmsDb),
        ("speech_ratio_threshold", .num policy.audioSpeechRatioThreshold),
        ("noise_floor_dbfs", .num policy.audioNoiseFloorDbfs)]
      contributingEventIds := [telemetryEventId]
      scoreDelta := policy.weightFor "audio_anomaly" }

/-! ## 4. Sequences of results

A sequence of results is the list of the decisions and the last state. -/

end SessionAggregator

/-- A result with what its `process_*` call is given beside it. -/
inductive InferenceEvent where
  | facePresence (result : FacePresenceResult) (telemetryEventId : UUID)
  | liveness (result : LivenessResult) (telemetryEventId : UUID)
  | gaze (result : HeadPoseGazeResult) (telemetryEventId : UUID) (frameTimestampMs : Int)
  | identityMatch (result : IdentityMatchResult) (telemetryEventId : UUID)
  | identityCheckUnavailable (telemetryEventId : UUID)
  | objectDetection (result : ObjectDetectionResult) (telemetryEventId : UUID) (now : DateTime)
  | browserEvent (result : BrowserEventResult) (telemetryEventId : UUID)
  | audioVad (result : AudioVadResult) (telemetryEventId : UUID)
deriving DecidableEq

namespace SessionAggregator

def process (policy : PolicySnapshot) (ctx : SessionContext) (a : SessionAggregator) :
    InferenceEvent → List FlagDecision × SessionAggregator
  | .facePresence result id => a.processFacePresence policy result id
  | .liveness result id => a.processLiveness policy result id
  | .gaze result id timestamp => a.processGaze policy result id timestamp
  | .identityMatch result id => a.processIdentityMatch policy result id
  | .identityCheckUnavailable id => a.processIdentityCheckUnavailable id
  | .objectDetection result id now => a.processObjectDetection policy ctx result id now
  | .browserEvent result id => a.processBrowserEvent policy result id
  | .audioVad result id => a.processAudioVad policy result id

/-- The decisions of a sequence of results, in order. -/
def decisions (policy : PolicySnapshot) (ctx : SessionContext) :
    SessionAggregator → List InferenceEvent → List FlagDecision
  | _, [] => []
  | a, e :: es => (a.process policy ctx e).1 ++ decisions policy ctx (a.process policy ctx e).2 es

end SessionAggregator

end ProctorEngine
