import ProctorEngine.Fusion.Aggregator

/-!
# What one call does

Every method asks whether its rule fires in the state it finds. If it does not, nothing is raised;
if it does, one decision is raised over the ids the rule names (`ruleIds`), and its weight is added
to the score or is not (`AddsToScore`). **`Effect` lists these three outcomes**, and every statement
about the score, about the ids of a decision and about Path 3 is read off it.

`RuleFires` collects the guards a method tests, one early return after the other, as a condition on
the state before the call. It is what the exact conditions of the later modules are made of: they
may ask whether a rule fires, and never what a call has returned.

The lemmas are one for each method, and each follows the returns of its method in the source's
order. Everything later takes `process_effect` and three cases instead of eight methods.
-/

set_option autoImplicit false

namespace ProctorEngine

/-- The Path-3 decision. -/
def FlagDecision.IsPathThree (d : FlagDecision) : Prop := d.ruleCode = "accumulated_score"

instance {d : FlagDecision} : Decidable d.IsPathThree := inferInstanceAs (Decidable (_ = _))

/-- The rule a result is judged by. -/
def InferenceEvent.ruleCode : InferenceEvent → String
  | .facePresence _ _ => "second_person"
  | .liveness _ _ => "liveness_check_failed"
  | .gaze _ _ _ => "gaze_away_frequency"
  | .identityMatch _ _ => "identity_mismatch"
  | .identityCheckUnavailable _ => "identity_check_unavailable"
  | .objectDetection result _ _ =>
    if result.detectedClass = "book" then bookRuleCode else "object_detected"
  | .browserEvent _ _ => "browser_event"
  | .audioVad _ _ => "audio_anomaly"

/-- No result is judged by Path 3. -/
theorem InferenceEvent.ruleCode_ne (e : InferenceEvent) : e.ruleCode ≠ "accumulated_score" := by
  cases e with
  | objectDetection result id now =>
    rw [InferenceEvent.ruleCode]
    split
    all_goals decide
  | _ =>
    rw [InferenceEvent.ruleCode]
    decide

/-- The decision counts towards the accumulated score: it is `medium`, and neither the notice
    that identity could not be checked nor a browser event of another kind. -/
def FlagDecision.OnScorePath (d : FlagDecision) : Prop :=
  d.severity = "medium" ∧ d.ruleCode ≠ "identity_check_unavailable" ∧
    (d.ruleCode = "browser_event" → ∃ eventType ∈ SessionAggregator.browserAccumulationEvents,
      Json.get? d.detail "browser_event_type" = some (.str eventType))

namespace SessionAggregator

section
variable (policy : PolicySnapshot) (ctx : SessionContext)

/-- The gaze-away events of the window, with the frame taken in. -/
def gazeWindowAfter (a : SessionAggregator) (result : HeadPoseGazeResult)
    (telemetryEventId : UUID) (frameTimestampMs : Int) : List GazeAwayEvent :=
  Window.evict GazeAwayEvent.endedAtMs (frameTimestampMs - policy.gazeWindowSeconds * 1000)
    (a.mergeGazeFrame policy result telemetryEventId frameTimestampMs).gazeAwayEvents

/-- The rule of the result fires in this state. -/
def RuleFires (a : SessionAggregator) : InferenceEvent → Prop
  | .facePresence result _ =>
    a.secondPersonFired = false ∧ policy.terminateOnSecondFace = true ∧ 2 ≤ result.faceCount ∧
      policy.secondFaceConfirmationFrames ≤ a.consecutiveSecondPersonFrames + 1
  | .liveness result id =>
    let window := slide policy.livenessConfirmationFrames a.livenessWindow (result, id)
    policy.livenessCheckEnabled = true ∧ result.isReal = false ∧
      policy.livenessConfirmationFrames ≤ window.length ∧ (∀ r ∈ window, r.1.isReal = false) ∧
      (a.livenessSpoofRunLength + 1) % policy.livenessConfirmationFrames = 0
  | .gaze result id timestamp =>
    let events := a.gazeWindowAfter policy result id timestamp
    a.gazeTerminationFired = false ∧
      (policy.gazeTerminationLimit ≤ events.length ∨ policy.gazeWarningLimit ≤ events.length)
  | .identityMatch result id =>
    let window := slide policy.identityConfirmationFrames a.identityWindow (result, id)
    a.identityMismatchFired = false ∧ policy.identityConfirmationFrames ≤ window.length ∧
      ∀ r ∈ window, r.1.similarity.val < policy.identitySimilarityThreshold
  | .identityCheckUnavailable _ | .browserEvent _ _ => True
  | .objectDetection result _ _ => result.detectedClass = "book" → ctx.flagsBook = true
  | .audioVad result _ => result.eventType ≠ "silence"

/-- The ids the rule names when it fires. -/
def ruleIds (a : SessionAggregator) : InferenceEvent → List UUID
  | .facePresence _ id => a.secondPersonEventIds ++ [id]
  | .liveness result id =>
    (slide policy.livenessConfirmationFrames a.livenessWindow (result, id)).map (·.2)
  | .gaze result id timestamp =>
    let events := a.gazeWindowAfter policy result id timestamp
    if policy.gazeTerminationLimit ≤ events.length then
      events.flatMap (·.contributingEventIds)
    else (events.getLast?.map (·.contributingEventIds)).getD []
  | .identityMatch result id =>
    (slide policy.identityConfirmationFrames a.identityWindow (result, id)).map (·.2)
  | .identityCheckUnavailable id | .objectDetection _ id _ | .browserEvent _ id
  | .audioVad _ id => [id]

/-- The rule of the result, if it fires in this state, adds its weight to the score. -/
def AddsToScore (a : SessionAggregator) : InferenceEvent → Prop
  | .liveness _ _ => policy.livenessCheckAction ≠ some .criticalTerminate
  | .gaze result id timestamp =>
    (a.gazeWindowAfter policy result id timestamp).length < policy.gazeTerminationLimit
  | .objectDetection result _ now => (ctx.exemptionFor result.detectedClass now).isSome = false
  | .browserEvent result _ => result.eventType ∈ browserAccumulationEvents
  | .audioVad _ _ => True
  | .facePresence _ _ | .identityMatch _ _ | .identityCheckUnavailable _ => False

/-- Everything a call can do to the score and raise. -/
inductive Effect (a : SessionAggregator) (e : InferenceEvent) :
    List FlagDecision × SessionAggregator → Prop
  | silent {a' : SessionAggregator} (idle : ¬ RuleFires policy ctx a e)
      (score : a'.accumulatedScore = a.accumulatedScore) : Effect a e ([], a')
  /-- The rule fires and leaves the score alone. -/
  | aside {d : FlagDecision} {a' : SessionAggregator} (fires : RuleFires policy ctx a e)
      (keeps : ¬ AddsToScore policy ctx a e) (ruleCode : d.ruleCode = e.ruleCode)
      (ids : d.contributingEventIds = ruleIds policy a e) (delta : d.scoreDelta = 0)
      (offPath : ¬ d.OnScorePath) (score : a'.accumulatedScore = a.accumulatedScore) :
      Effect a e ([d], a')
  /-- The rule fires and adds its weight. -/
  | medium {d : FlagDecision} {a' : SessionAggregator} (fires : RuleFires policy ctx a e)
      (adds : AddsToScore policy ctx a e) (ruleCode : d.ruleCode = e.ruleCode)
      (ids : d.contributingEventIds = ruleIds policy a e)
      (delta : d.scoreDelta = policy.weightFor e.ruleCode) (onPath : d.OnScorePath)
      (score : a'.accumulatedScore = a.accumulatedScore) : Effect a e (raiseMedium policy a' d)

end

section
variable {policy : PolicySnapshot} {ctx : SessionContext} {a : SessionAggregator} {id : UUID}

theorem not_onScorePath {d : FlagDecision} (h : d.severity ≠ "medium") : ¬ d.OnScorePath :=
  fun hpath => h hpath.1

/-- A `medium` decision of most rules is on the score path. -/
theorem onScorePath_of_ruleCode {d : FlagDecision} (ruleCode : String) (h : d.severity = "medium")
    (hrule : d.ruleCode = ruleCode) (hidentity : ruleCode ≠ "identity_check_unavailable")
    (hbrowser : ruleCode ≠ "browser_event") : d.OnScorePath :=
  ⟨h, fun heq => hidentity (hrule.symm.trans heq),
    fun heq => absurd (hrule.symm.trans heq) hbrowser⟩

theorem effect_facePresence {result : FacePresenceResult} :
    Effect policy ctx a (.facePresence result id) (a.processFacePresence policy result id) := by
  simp only [processFacePresence]
  split
  · rename_i hfired
    exact .silent (fun h => absurd (hfired.symm.trans h.1) (by decide)) rfl
  rename_i hfired
  split
  · rename_i hoff
    exact .silent (fun h => hoff h.2.1) rfl
  rename_i hon
  split
  · rename_i hcount
    split
    · rename_i hframes
      exact .aside ⟨by simpa using hfired, not_not.mp hon, hcount, hframes⟩ False.elim rfl rfl rfl
        (not_onScorePath (by simp)) rfl
    · rename_i hframes
      exact .silent (fun h => hframes h.2.2.2) rfl
  · rename_i hcount
    exact .silent (fun h => hcount h.2.2.1) rfl

theorem effect_liveness {result : LivenessResult} :
    Effect policy ctx a (.liveness result id) (a.processLiveness policy result id) := by
  simp only [processLiveness]
  -- One early return of the method for each conjunct of the rule, in the same order.
  split
  · rename_i hoff
    exact .silent (fun h => hoff h.1) rfl
  rename_i hon
  split
  · rename_i hreal
    exact .silent (fun h => absurd (hreal.symm.trans h.2.1) (by decide)) rfl
  rename_i hreal
  split
  · rename_i hshort
    exact .silent (fun h => absurd hshort (Nat.not_lt.mpr h.2.2.1)) rfl
  rename_i hfull
  split
  · rename_i hany
    obtain ⟨r, hr, hrreal⟩ := List.any_eq_true.mp hany
    exact .silent (fun h => absurd (hrreal.symm.trans (h.2.2.2.1 r hr)) (by decide)) rfl
  rename_i hnone
  split
  · rename_i hrun
    exact .silent (fun h => hrun h.2.2.2.2) rfl
  rename_i hrun
  have hfires : RuleFires policy ctx a (.liveness result id) :=
    ⟨not_not.mp hon, by simpa using hreal, Nat.le_of_not_lt hfull, by simpa using hnone,
      not_not.mp hrun⟩
  split
  · -- a full window is not empty
    rename_i hnil
    have hempty := congrArg List.length hnil
    rw [List.length_map, List.length_nil] at hempty
    exact absurd policy.livenessFramesPositive (by omega)
  -- the rule fires: the termination stays off the score path, the medium flag adds its weight
  · split
    · rename_i hterminates
      exact .aside hfires (not_not.mpr hterminates) rfl rfl rfl (not_onScorePath (by simp)) rfl
    · rename_i hterminates
      exact .medium hfires hterminates rfl rfl rfl
        (onScorePath_of_ruleCode "liveness_check_failed" rfl rfl (by decide) (by decide)) rfl

theorem mergeGazeFrame_score {result : HeadPoseGazeResult} {timestamp : Int} :
    (a.mergeGazeFrame policy result id timestamp).accumulatedScore = a.accumulatedScore := by
  unfold mergeGazeFrame
  repeat' split
  all_goals rfl

theorem effect_gaze {result : HeadPoseGazeResult} {timestamp : Int} :
    Effect policy ctx a (.gaze result id timestamp)
      (a.processGaze policy result id timestamp) := by
  have hids : ∀ ids : List UUID, (if policy.gazeTerminationLimit ≤
      (a.gazeWindowAfter policy result id timestamp).length then
        (a.gazeWindowAfter policy result id timestamp).flatMap (·.contributingEventIds)
      else ((a.gazeWindowAfter policy result id timestamp).getLast?.map
        (·.contributingEventIds)).getD []) = ids →
      ids = ruleIds policy a (.gaze result id timestamp) := fun ids h => h.symm
  -- Fired already, the termination, the warning, or a look away that is only counted.
  simp only [processGaze]
  split
  · rename_i hfired
    exact .silent (fun h => absurd (hfired.symm.trans h.1) (by decide)) rfl
  rename_i hfired
  have hgoing : a.gazeTerminationFired = false := by simpa using hfired
  split
  · rename_i hlimit
    exact .aside ⟨hgoing, .inl hlimit⟩ (Nat.not_lt.mpr hlimit) rfl (hids _ (if_pos hlimit)) rfl
      (not_onScorePath (by simp)) mergeGazeFrame_score
  rename_i hlimit
  split
  · rename_i hwarning
    exact .medium ⟨hgoing, .inr hwarning⟩ (Nat.lt_of_not_le hlimit) rfl (hids _ (if_neg hlimit)) rfl
      (onScorePath_of_ruleCode "gaze_away_frequency" rfl rfl (by decide) (by decide))
      mergeGazeFrame_score
  · rename_i hwarning
    exact .silent (fun h => h.2.elim hlimit hwarning) mergeGazeFrame_score

theorem effect_identityMatch {result : IdentityMatchResult} :
    Effect policy ctx a (.identityMatch result id) (a.processIdentityMatch policy result id) := by
  simp only [processIdentityMatch]
  split
  · rename_i hfired
    exact .silent (fun h => absurd (hfired.symm.trans h.1) (by decide)) rfl
  rename_i hfired
  split
  · rename_i hshort
    exact .silent (fun h => absurd hshort (Nat.not_lt.mpr h.2.1)) rfl
  rename_i hfull
  split
  · rename_i hany
    obtain ⟨r, hr, hmatch⟩ := List.any_eq_true.mp hany
    exact .silent (fun h => absurd (of_decide_eq_true hmatch) (not_le.mpr (h.2.2 r hr))) rfl
  rename_i hnone
  split
  · rename_i hnil
    have hempty := congrArg List.length hnil
    rw [List.length_map, List.length_nil] at hempty
    exact absurd policy.identityFramesPositive (by omega)
  · exact .aside ⟨by simpa using hfired, Nat.le_of_not_lt hfull, by simpa using hnone⟩ False.elim
      rfl rfl rfl (not_onScorePath (by simp)) rfl

theorem effect_objectDetection {result : ObjectDetectionResult} {now : DateTime} :
    Effect policy ctx a (.objectDetection result id now)
      (a.processObjectDetection policy ctx result id now) := by
  simp only [processObjectDetection]
  by_cases hskip : result.detectedClass = "book" ∧ ¬ ctx.flagsBook
  · rw [if_pos hskip]
    exact .silent (fun h => hskip.2 (h hskip.1)) rfl
  rw [if_neg hskip]
  have hfires : RuleFires policy ctx a (.objectDetection result id now) := by
    intro hbook
    by_contra hno
    exact hskip ⟨hbook, hno⟩
  cases hexemption : (ctx.exemptionFor result.detectedClass now).isSome with
  | true =>
    -- an exemption lowers the severity, and the score is left alone
    simp only [if_true, suppressedSeverity, String.reduceEq, if_false]
    exact .aside hfires (by simp [AddsToScore, hexemption]) rfl rfl rfl
      (not_onScorePath (by simp)) rfl
  | false =>
    have hmedium : (if result.detectedClass = "book" then bookFlagSeverity else "medium") =
        "medium" := by
      split
      all_goals rfl
    simp only [Bool.false_eq_true, if_false, hmedium, if_true]
    refine .medium hfires hexemption rfl rfl rfl ?_ rfl
    refine onScorePath_of_ruleCode
      (if result.detectedClass = "book" then bookRuleCode else "object_detected") rfl rfl ?_ ?_
    · split
      all_goals decide
    · split
      all_goals decide

theorem effect_browserEvent {result : BrowserEventResult} :
    Effect policy ctx a (.browserEvent result id) (a.processBrowserEvent policy result id) := by
  simp only [processBrowserEvent]
  split
  · rename_i haccumulates
    refine .medium trivial haccumulates rfl rfl rfl ?_ rfl
    exact ⟨rfl, by simp, fun _ => ⟨_, haccumulates, by simp [Json.get?]⟩⟩
  · rename_i hother
    refine .aside trivial hother rfl rfl rfl ?_ rfl
    rintro ⟨-, -, hbrowser⟩
    obtain ⟨eventType, hmem, heq⟩ := hbrowser rfl
    have hsame : result.eventType = eventType := by simpa [Json.get?] using heq
    exact hother (hsame ▸ hmem)

theorem effect_audioVad {result : AudioVadResult} :
    Effect policy ctx a (.audioVad result id) (a.processAudioVad policy result id) := by
  simp only [processAudioVad]
  split
  · rename_i hsilence
    exact .silent (fun h => h hsilence) rfl
  · rename_i hsound
    exact .medium hsound trivial rfl rfl rfl
      (onScorePath_of_ruleCode "audio_anomaly" rfl rfl (by decide) (by decide)) rfl

/-- **A call is silent, or raises its rule's decision with the score or beside it.** -/
theorem process_effect (policy : PolicySnapshot) (ctx : SessionContext) (a : SessionAggregator)
    (e : InferenceEvent) : Effect policy ctx a e (a.process policy ctx e) := by
  cases e with
  | facePresence result id => exact effect_facePresence
  | liveness result id => exact effect_liveness
  | gaze result id timestamp => exact effect_gaze
  | identityMatch result id => exact effect_identityMatch
  | identityCheckUnavailable id =>
    exact .aside trivial False.elim rfl rfl rfl (fun h => h.2.1 rfl) rfl
  | objectDetection result id now => exact effect_objectDetection
  | browserEvent result id => exact effect_browserEvent
  | audioVad result id => exact effect_audioVad

end

end SessionAggregator
end ProctorEngine
