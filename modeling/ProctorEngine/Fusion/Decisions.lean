import ProctorEngine.Fusion.Aggregator

/-!
# What a decision says about its policy

The detail of a decision repeats the limits it was judged by, and some decisions exist only under
some policies. **Whoever reads a decision can therefore read off part of the snapshot and the
context behind it**, which is what makes two aggregators comparable from the outside.

`Quotes` says for each rule what its decisions give away. Where two aggregators differ in one of
these values and both raise the decision, the details differ; that is one half of comparing the
endpoint's hard-coded policy with the row of the database.
-/

set_option autoImplicit false

namespace ProctorEngine

namespace SessionAggregator

/-- The parts of the policy and the context a decision gives away, by rule. -/
structure Quotes (policy : PolicySnapshot) (ctx : SessionContext) (d : FlagDecision) : Prop where
  secondPerson : d.ruleCode = "second_person" →
    policy.terminateOnSecondFace = true ∧
      Json.get? d.detail "confirmation_frames" = some (.num policy.secondFaceConfirmationFrames)
  liveness : d.ruleCode = "liveness_check_failed" → policy.livenessCheckEnabled = true
  gazeWindow : d.ruleCode = "gaze_away_frequency" →
    Json.get? d.detail "window_seconds" = some (.num policy.gazeWindowSeconds)
  gazeWarning : d.ruleCode = "gaze_away_frequency" → ∀ v,
    Json.get? d.detail "gaze_warning_limit" = some v → v = .num policy.gazeWarningLimit
  gazeTermination : d.ruleCode = "gaze_away_frequency" → ∀ v,
    Json.get? d.detail "gaze_termination_limit" = some v → v = .num policy.gazeTerminationLimit
  identity : d.ruleCode = "identity_mismatch" →
    Json.get? d.detail "window_size" = some (.num policy.identityConfirmationFrames) ∧
      Json.get? d.detail "threshold" = some (.num policy.identitySimilarityThreshold)
  book : d.ruleCode = "book_detected" → ctx.flagsBook = true
  audio : d.ruleCode = "audio_anomaly" →
    Json.get? d.detail "speech_ratio_threshold" = some (.num policy.audioSpeechRatioThreshold) ∧
      Json.get? d.detail "noise_floor_dbfs" = some (.num policy.audioNoiseFloorDbfs)
  accumulated : d.ruleCode = "accumulated_score" →
    Json.get? d.detail "threshold" = some (.num policy.mediumScoreTerminationThreshold) ∧
      Json.get? d.detail "medium_score_action" = some (.str policy.mediumScoreAction.value)

section
variable {policy : PolicySnapshot} {ctx : SessionContext} {a : SessionAggregator}
  {d decision : FlagDecision}

theorem quotes_checkAccumulatedThreshold {score : ℚ} {ids : List UUID}
    (h : checkAccumulatedThreshold policy score ids = some d) : Quotes policy ctx d := by
  obtain ⟨-, -, rfl⟩ := checkAccumulatedThreshold_eq_some_iff.mp h
  constructor <;> simp [Json.get?]

theorem quotes_raiseMedium (hdecision : Quotes policy ctx decision)
    (h : d ∈ (raiseMedium policy a decision).1) : Quotes policy ctx d := by
  rcases List.mem_cons.mp h with h | h
  · exact h ▸ hdecision
  · exact quotes_checkAccumulatedThreshold (Option.mem_toList.mp h)

theorem quotes_processFacePresence {result : FacePresenceResult} {id : UUID}
    (h : d ∈ (a.processFacePresence policy result id).1) : Quotes policy ctx d := by
  unfold processFacePresence at h
  split at h
  · exact absurd h (by simp)
  · split at h
    · exact absurd h (by simp)
    · rename_i hterminate
      split at h
      · simp only at h
        split at h
        · rw [List.mem_singleton.mp h]
          constructor <;> simp [Json.get?, not_not.mp hterminate]
        · exact absurd h (by simp)
      · exact absurd h (by simp)

theorem quotes_processLiveness {result : LivenessResult} {id : UUID}
    (h : d ∈ (a.processLiveness policy result id).1) : Quotes policy ctx d := by
  by_cases henabled : policy.livenessCheckEnabled = true
  · -- the rule gives nothing away but that it is on
    have hquotes : ∀ x : FlagDecision, x.ruleCode = "liveness_check_failed" →
        Quotes policy ctx x := by
      intro x hx
      constructor <;> simp [hx, henabled]
    simp only [processLiveness, henabled, not_true_eq_false, if_false] at h
    repeat' split at h
    all_goals first
      | exact absurd h List.not_mem_nil
      | exact hquotes d (by rw [List.mem_singleton.mp h])
      | exact quotes_raiseMedium (hquotes _ rfl) h
  · rw [processLiveness, if_pos henabled] at h
    exact absurd h (by simp)

theorem quotes_processGaze {result : HeadPoseGazeResult} {id : UUID} {timestamp : Int}
    (h : d ∈ (a.processGaze policy result id timestamp).1) : Quotes policy ctx d := by
  unfold processGaze at h
  split at h
  · exact absurd h (by simp)
  · simp only at h
    split at h
    · rw [List.mem_singleton.mp h]
      constructor <;> simp [Json.get?]
    · split at h
      · refine quotes_raiseMedium ?_ h
        constructor <;> simp [Json.get?]
      · exact absurd h (by simp)

theorem quotes_processIdentityMatch {result : IdentityMatchResult} {id : UUID}
    (h : d ∈ (a.processIdentityMatch policy result id).1) : Quotes policy ctx d := by
  unfold processIdentityMatch at h
  simp only at h
  repeat' split at h
  all_goals first
    | exact absurd h List.not_mem_nil
    | rw [List.mem_singleton.mp h]; constructor <;> simp [Json.get?]

theorem quotes_processObjectDetection {result : ObjectDetectionResult} {id : UUID}
    {now : DateTime} (h : d ∈ (a.processObjectDetection policy ctx result id now).1) :
    Quotes policy ctx d := by
  -- A book has its own rule, and is nothing at all where the session does not flag books.
  by_cases hbook : result.detectedClass = "book"
  · by_cases hflags : ctx.flagsBook = true
    · have hquotes : ∀ x : FlagDecision, x.ruleCode = bookRuleCode → Quotes policy ctx x := by
        intro x hx
        constructor <;> simp [hx, bookRuleCode, hflags]
      simp only [processObjectDetection, hbook, hflags, not_true_eq_false, and_false, if_false,
        if_true] at h
      by_cases hmedium : (if (ctx.exemptionFor "book" now).isSome = true then suppressedSeverity
          else bookFlagSeverity) = "medium"
      · rw [if_pos hmedium] at h
        exact quotes_raiseMedium (hquotes _ rfl) h
      · rw [if_neg hmedium] at h
        exact hquotes d (by rw [List.mem_singleton.mp h])
    · rw [processObjectDetection, if_pos ⟨hbook, hflags⟩] at h
      exact absurd h (by simp)
  · have hquotes : ∀ x : FlagDecision, x.ruleCode = "object_detected" → Quotes policy ctx x := by
      intro x hx
      constructor <;> simp [hx]
    simp only [processObjectDetection, hbook, false_and, if_false] at h
    by_cases hmedium : (if (ctx.exemptionFor result.detectedClass now).isSome = true then
        suppressedSeverity else "medium") = "medium"
    · rw [if_pos hmedium] at h
      exact quotes_raiseMedium (hquotes _ rfl) h
    · rw [if_neg hmedium] at h
      exact hquotes d (by rw [List.mem_singleton.mp h])

theorem quotes_processBrowserEvent {result : BrowserEventResult} {id : UUID}
    (h : d ∈ (a.processBrowserEvent policy result id).1) : Quotes policy ctx d := by
  have hquotes : ∀ x : FlagDecision, x.ruleCode = "browser_event" → Quotes policy ctx x := by
    intro x hx
    constructor <;> simp [hx]
  simp only [processBrowserEvent] at h
  split at h
  · exact quotes_raiseMedium (hquotes _ rfl) h
  · exact hquotes d (by rw [List.mem_singleton.mp h])

theorem quotes_processAudioVad {result : AudioVadResult} {id : UUID}
    (h : d ∈ (a.processAudioVad policy result id).1) : Quotes policy ctx d := by
  unfold processAudioVad at h
  split at h
  · exact absurd h (by simp)
  · refine quotes_raiseMedium ?_ h
    constructor <;> simp [Json.get?]

theorem quotes_process {e : InferenceEvent} (h : d ∈ (a.process policy ctx e).1) :
    Quotes policy ctx d := by
  cases e with
  | facePresence result id => exact quotes_processFacePresence h
  | liveness result id => exact quotes_processLiveness h
  | gaze result id timestamp => exact quotes_processGaze h
  | identityMatch result id => exact quotes_processIdentityMatch h
  | identityCheckUnavailable id =>
    rw [List.mem_singleton.mp h]
    constructor <;> simp
  | objectDetection result id now => exact quotes_processObjectDetection h
  | browserEvent result id => exact quotes_processBrowserEvent h
  | audioVad result id => exact quotes_processAudioVad h

/-- **Every decision of a sequence quotes the policy and the context of its aggregator.** -/
theorem quotes_decisions {es : List InferenceEvent} (h : d ∈ decisions policy ctx a es) :
    Quotes policy ctx d := by
  induction es generalizing a with
  | nil => exact absurd h (by simp [decisions])
  | cons e es ih =>
    rcases List.mem_append.mp h with h | h
    · exact quotes_process h
    · exact ih h

end

end SessionAggregator

end ProctorEngine
