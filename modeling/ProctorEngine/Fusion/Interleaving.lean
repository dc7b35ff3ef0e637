import ProctorEngine.Fusion.Gaze
import ProctorEngine.Fusion.Score

/-!
# The modalities side by side

One aggregator takes in eight streams of results, in whatever order the dispatcher delivers them.
Each `process_*` method reads and writes a part of the state of its own, and **beside its own part a
method touches the score and nothing else** (`ownPart_step`). What a method answers is therefore a
function of its own part (`sameCall`) up to Path 3, which reads the score; and the score is a
sum, so the order of its terms does not matter.

The part of a modality is the aggregator with every other field as constructed, so that two
aggregators agree in it exactly when the parts are equal. Four of the eight methods have no part at
all: what they answer depends on the policy, the session and the result.

Two lemmas about one call carry everything. A call of another modality leaves the part alone, and a
call of the same modality, in two states that agree in the part, answers alike and leaves states
that agree in the part. An induction over a run then removes the calls of the other modalities one
at a time, and two interleavings of the same streams come to the same thing, stream by stream.

Path 3 is exempt because it has to be: whether a call crosses the threshold depends on all the calls
before it. Its decision is told from the others by `IsPathThree`, and it adds nothing to the score.
-/

set_option autoImplicit false

namespace ProctorEngine

/-- The method a result goes to. -/
inductive Modality where
  | facePresence
  | liveness
  | gaze
  | identityMatch
  | identityCheckUnavailable
  | objectDetection
  | browserEvent
  | audioVad
deriving DecidableEq

def InferenceEvent.modality : InferenceEvent → Modality
  | .facePresence _ _ => .facePresence
  | .liveness _ _ => .liveness
  | .gaze _ _ _ => .gaze
  | .identityMatch _ _ => .identityMatch
  | .identityCheckUnavailable _ => .identityCheckUnavailable
  | .objectDetection _ _ _ => .objectDetection
  | .browserEvent _ _ => .browserEvent
  | .audioVad _ _ => .audioVad

namespace SessionAggregator

/-! ## 1. Runs of calls

A run with the decisions of each call beside it, and the part of the state that belongs to a
modality. -/

/-- The state a call leaves. -/
def step (policy : PolicySnapshot) (ctx : SessionContext) (a : SessionAggregator)
    (e : InferenceEvent) : SessionAggregator := (a.process policy ctx e).2

/-- The results of a run, each with the decisions its call returned. -/
def answers (policy : PolicySnapshot) (ctx : SessionContext) :
    SessionAggregator → List InferenceEvent → List (InferenceEvent × List FlagDecision)
  | _, [] => []
  | a, e :: es => (e, (a.process policy ctx e).1) :: answers policy ctx (a.step policy ctx e) es

/-- The decisions of a call other than Path 3's. -/
def ownDecisions (ds : List FlagDecision) : List FlagDecision := ds.filter (¬ ·.IsPathThree)

/-- What the method of a modality reads and writes, everything else as constructed. Four modalities
    keep something between their calls; the others look at nothing but the result. -/
def ownPart : Modality → SessionAggregator → SessionAggregator
  | .facePresence, a => { new with
      consecutiveSecondPersonFrames := a.consecutiveSecondPersonFrames
      secondPersonEventIds := a.secondPersonEventIds
      secondPersonFired := a.secondPersonFired }
  | .liveness, a => { new with
      livenessWindow := a.livenessWindow
      livenessSpoofRunLength := a.livenessSpoofRunLength }
  | .gaze, a => { new with
      gazeOffStartMs := a.gazeOffStartMs
      gazeOffEventIds := a.gazeOffEventIds
      gazeAwayEvents := a.gazeAwayEvents
      gazeTerminationFired := a.gazeTerminationFired }
  | .identityMatch, a => { new with
      identityWindow := a.identityWindow
      identityMismatchFired := a.identityMismatchFired }
  | .identityCheckUnavailable, _ | .objectDetection, _ | .browserEvent, _ | .audioVad, _ => new

section
variable {policy : PolicySnapshot} {ctx : SessionContext} {a b : SessionAggregator}
  {e : InferenceEvent} {es fs : List InferenceEvent} {d : FlagDecision} {m : Modality}

@[simp] theorem answers_nil : answers policy ctx a [] = [] := rfl

@[simp] theorem answers_cons :
    answers policy ctx a (e :: es) =
      (e, (a.process policy ctx e).1) :: answers policy ctx (a.step policy ctx e) es := rfl

theorem answers_append :
    answers policy ctx a (es ++ fs) = answers policy ctx a es ++
      answers policy ctx (Run.final (step policy ctx) a es) fs := by
  induction es generalizing a with
  | nil => rfl
  | cons e es ih => rw [List.cons_append, answers_cons, ih, answers_cons, Run.final_cons,
      List.cons_append]

theorem decisions_eq_flatMap :
    decisions policy ctx a es = (answers policy ctx a es).flatMap (·.2) := by
  induction es generalizing a with
  | nil => rfl
  | cons e es ih =>
    rw [answers_cons, List.flatMap_cons]
    exact congrArg ((a.process policy ctx e).1 ++ ·) ih

@[simp] theorem map_fst_answers : (answers policy ctx a es).map (·.1) = es := by
  induction es generalizing a with
  | nil => rfl
  | cons e es ih => rw [answers_cons, List.map_cons, ih]

/-! ## 2. What a call may change

For each method the fields it may leave changed, whatever path it takes to its return. -/

theorem processFacePresence_frame {result : FacePresenceResult} {id : UUID} :
    ∃ frames ids fired, (a.processFacePresence policy result id).2 =
      { a with
        consecutiveSecondPersonFrames := frames
        secondPersonEventIds := ids
        secondPersonFired := fired } := by
  simp only [processFacePresence]
  repeat' split
  all_goals exact ⟨_, _, _, rfl⟩

theorem processLiveness_frame {result : LivenessResult} {id : UUID} :
    ∃ window run score, (a.processLiveness policy result id).2 =
      { a with
        livenessWindow := window
        livenessSpoofRunLength := run
        accumulatedScore := score } := by
  unfold processLiveness
  -- one case for each of the method's returns
  by_cases hoff : ¬ policy.livenessCheckEnabled = true
  · rw [if_pos hoff]
    exact ⟨_, _, _, rfl⟩
  rw [if_neg hoff]
  dsimp only
  by_cases hreal : result.isReal = true
  · rw [if_pos hreal]
    exact ⟨_, _, _, rfl⟩
  rw [if_neg hreal]
  generalize slide policy.livenessConfirmationFrames a.livenessWindow (result, id) = window
  by_cases hshort : window.length < policy.livenessConfirmationFrames
  · rw [if_pos hshort]
    exact ⟨_, _, _, rfl⟩
  rw [if_neg hshort]
  by_cases hany : (window.any (·.1.isReal)) = true
  · rw [if_pos hany]
    exact ⟨_, _, _, rfl⟩
  rw [if_neg hany]
  by_cases hmod : (a.livenessSpoofRunLength + 1) % policy.livenessConfirmationFrames ≠ 0
  · rw [if_pos hmod]
    exact ⟨_, _, _, rfl⟩
  rw [if_neg hmod]
  cases window with
  | nil => exact ⟨_, _, _, rfl⟩
  | cons r rest =>
    simp only [List.map_cons]
    by_cases hcritical : policy.livenessCheckAction = some .criticalTerminate
    · rw [if_pos hcritical]
      exact ⟨_, _, _, rfl⟩
    · rw [if_neg hcritical]
      exact ⟨_, _, _, rfl⟩

theorem processGaze_frame {result : HeadPoseGazeResult} {id : UUID} {timestamp : Int} :
    ∃ start ids events fired score, (a.processGaze policy result id timestamp).2 =
      { a with
        gazeOffStartMs := start
        gazeOffEventIds := ids
        gazeAwayEvents := events
        gazeTerminationFired := fired
        accumulatedScore := score } := by
  obtain ⟨start, ids, events, hmerged⟩ : ∃ start ids events,
      a.mergeGazeFrame policy result id timestamp =
        { a with gazeOffStartMs := start, gazeOffEventIds := ids, gazeAwayEvents := events } :=
    mergedGaze_frame (f := ⟨result, id, timestamp⟩)
  simp only [processGaze, hmerged]
  repeat' split
  all_goals exact ⟨_, _, _, _, _, rfl⟩

theorem processIdentityMatch_frame {result : IdentityMatchResult} {id : UUID} :
    ∃ window fired, (a.processIdentityMatch policy result id).2 =
      { a with identityWindow := window, identityMismatchFired := fired } := by
  simp only [processIdentityMatch]
  repeat' split
  all_goals exact ⟨_, _, rfl⟩

theorem processObjectDetection_frame {result : ObjectDetectionResult} {id : UUID}
    {now : DateTime} :
    ∃ score, (a.processObjectDetection policy ctx result id now).2 =
      { a with accumulatedScore := score } := by
  simp only [processObjectDetection]
  repeat' split
  all_goals exact ⟨_, rfl⟩

theorem processBrowserEvent_frame {result : BrowserEventResult} {id : UUID} :
    ∃ score, (a.processBrowserEvent policy result id).2 = { a with accumulatedScore := score } := by
  simp only [processBrowserEvent]
  split
  · exact ⟨_, rfl⟩
  · exact ⟨_, rfl⟩

theorem processAudioVad_frame {result : AudioVadResult} {id : UUID} :
    ∃ score, (a.processAudioVad policy result id).2 = { a with accumulatedScore := score } := by
  simp only [processAudioVad]
  split
  · exact ⟨_, rfl⟩
  · exact ⟨_, rfl⟩

/-- **A call leaves the parts of the other modalities alone.** -/
theorem ownPart_step (h : e.modality ≠ m) : ownPart m (a.step policy ctx e) = ownPart m a := by
  cases e with
  | facePresence result id =>
    obtain ⟨frames, ids, fired, hstep⟩ : ∃ frames ids fired,
      (a.processFacePresence policy result id).2 = _ := processFacePresence_frame
    show ownPart m (a.processFacePresence policy result id).2 = _
    rw [hstep]
    cases m with
    | facePresence => exact absurd rfl h
    | _ => rfl
  | liveness result id =>
    obtain ⟨window, run, score, hstep⟩ : ∃ window run score,
      (a.processLiveness policy result id).2 = _ := processLiveness_frame
    show ownPart m (a.processLiveness policy result id).2 = _
    rw [hstep]
    cases m with
    | liveness => exact absurd rfl h
    | _ => rfl
  | gaze result id timestamp =>
    obtain ⟨start, ids, events, fired, score, hstep⟩ : ∃ start ids events fired score,
      (a.processGaze policy result id timestamp).2 = _ := processGaze_frame
    show ownPart m (a.processGaze policy result id timestamp).2 = _
    rw [hstep]
    cases m with
    | gaze => exact absurd rfl h
    | _ => rfl
  | identityMatch result id =>
    obtain ⟨window, fired, hstep⟩ : ∃ window fired,
      (a.processIdentityMatch policy result id).2 = _ := processIdentityMatch_frame
    show ownPart m (a.processIdentityMatch policy result id).2 = _
    rw [hstep]
    cases m with
    | identityMatch => exact absurd rfl h
    | _ => rfl
  -- this method changes nothing, and the remaining three the score only
  | identityCheckUnavailable id => rfl
  | objectDetection result id now =>
    obtain ⟨score, hstep⟩ : ∃ score,
      (a.processObjectDetection policy ctx result id now).2 = _ := processObjectDetection_frame
    show ownPart m (a.processObjectDetection policy ctx result id now).2 = _
    rw [hstep]
    cases m with
    | _ => rfl
  | browserEvent result id =>
    obtain ⟨score, hstep⟩ : ∃ score,
      (a.processBrowserEvent policy result id).2 = _ := processBrowserEvent_frame
    show ownPart m (a.processBrowserEvent policy result id).2 = _
    rw [hstep]
    cases m with
    | _ => rfl
  | audioVad result id =>
    obtain ⟨score, hstep⟩ : ∃ score,
      (a.processAudioVad policy result id).2 = _ := processAudioVad_frame
    show ownPart m (a.processAudioVad policy result id).2 = _
    rw [hstep]
    cases m with
    | _ => rfl

/-! ## 3. What a call may read

For each method, that its tests read the policy, the result and its own part. The cases are split in
both states at once. -/

theorem ownDecisions_raiseMedium (h : ¬ d.IsPathThree) :
    ownDecisions (raiseMedium policy a d).1 = [d] := by
  have hpath : (checkAccumulatedThreshold policy (a.accumulatedScore + d.scoreDelta)
      d.contributingEventIds).toList.filter (¬ ·.IsPathThree) = [] := by
    apply List.filter_eq_nil_iff.mpr
    intro p hp
    simp [(checkAccumulatedThreshold_pathThree (Option.mem_toList.mp hp)).1]
  unfold ownDecisions raiseMedium
  rw [List.filter_cons_of_pos (by simpa using h), hpath]

/-- What is raised beside Path 3 does not depend on the score. -/
theorem ownDecisions_raiseMedium_eq (ruleCode : String) (hrule : d.ruleCode = ruleCode)
    (hother : ruleCode ≠ "accumulated_score") :
    ownDecisions (raiseMedium policy a d).1 = ownDecisions (raiseMedium policy b d).1 := by
  have h : ¬ d.IsPathThree := fun h => hother (hrule ▸ h)
  rw [ownDecisions_raiseMedium h, ownDecisions_raiseMedium h]

/-- The decisions beside Path 3 carry all of the score. -/
theorem scoreTotal_ownDecisions :
    scoreTotal (ownDecisions (a.process policy ctx e).1) =
      scoreTotal (a.process policy ctx e).1 := by
  have hraises : Raises policy a (a.process policy ctx e) := process_raises e
  generalize a.process policy ctx e = result at hraises
  cases hraises with
  | free decisions score =>
    have hall : ownDecisions _ = _ := List.filter_eq_self.mpr fun d hd => by
      simpa using (decisions d hd).2
    rw [hall]
  | @medium d a' score other delta =>
    rw [ownDecisions_raiseMedium other, scoreTotal_raiseMedium, scoreTotal_cons, scoreTotal_nil,
      add_zero]

/-- Two aggregators answer a call alike, up to Path 3, and are left alike in its part. -/
structure SameCall (policy : PolicySnapshot) (ctx : SessionContext) (a b : SessionAggregator)
    (e : InferenceEvent) : Prop where
  answer : ownDecisions (a.process policy ctx e).1 = ownDecisions (b.process policy ctx e).1
  part : ownPart e.modality (a.step policy ctx e) = ownPart e.modality (b.step policy ctx e)

/-- Both halves at once, so that the cases of a method are split once. -/
theorem SameCall.of_process
    (h : ownDecisions (a.process policy ctx e).1 = ownDecisions (b.process policy ctx e).1 ∧
      ownPart e.modality (a.process policy ctx e).2 =
        ownPart e.modality (b.process policy ctx e).2) : SameCall policy ctx a b e := ⟨h.1, h.2⟩

theorem sameCall_facePresence {result : FacePresenceResult} {id : UUID}
    (h : ownPart .facePresence a = ownPart .facePresence b) :
    SameCall policy ctx a b (.facePresence result id) := by
  cases a
  cases b
  simp only [ownPart, new, mk.injEq, and_true] at h
  obtain ⟨rfl, rfl, rfl⟩ := h
  apply SameCall.of_process
  simp only [process, processFacePresence, InferenceEvent.modality]
  repeat' split
  all_goals exact ⟨rfl, rfl⟩

theorem sameCall_liveness {result : LivenessResult} {id : UUID}
    (h : ownPart .liveness a = ownPart .liveness b) :
    SameCall policy ctx a b (.liveness result id) := by
  -- the two fields of the part
  have hwindow : a.livenessWindow = b.livenessWindow := by
    show (ownPart .liveness a).livenessWindow = (ownPart .liveness b).livenessWindow
    rw [h]
  have hrun : a.livenessSpoofRunLength = b.livenessSpoofRunLength := by
    show (ownPart .liveness a).livenessSpoofRunLength =
      (ownPart .liveness b).livenessSpoofRunLength
    rw [h]
  apply SameCall.of_process
  show ownDecisions (a.processLiveness policy result id).1 =
      ownDecisions (b.processLiveness policy result id).1 ∧
    ownPart .liveness (a.processLiveness policy result id).2 =
      ownPart .liveness (b.processLiveness policy result id).2
  unfold processLiveness
  -- every test is of the policy, the result or the part, so both calls return at the same place
  by_cases hoff : ¬ policy.livenessCheckEnabled = true
  · rw [if_pos hoff, if_pos hoff]
    exact ⟨rfl, h⟩
  rw [if_neg hoff, if_neg hoff, hwindow, hrun]
  dsimp only
  by_cases hreal : result.isReal = true
  · rw [if_pos hreal, if_pos hreal]
    exact ⟨rfl, rfl⟩
  rw [if_neg hreal, if_neg hreal]
  generalize slide policy.livenessConfirmationFrames b.livenessWindow (result, id) = window
  by_cases hshort : window.length < policy.livenessConfirmationFrames
  · rw [if_pos hshort, if_pos hshort]
    exact ⟨rfl, rfl⟩
  rw [if_neg hshort, if_neg hshort]
  by_cases hany : (window.any (·.1.isReal)) = true
  · rw [if_pos hany, if_pos hany]
    exact ⟨rfl, rfl⟩
  rw [if_neg hany, if_neg hany]
  by_cases hmod : (b.livenessSpoofRunLength + 1) % policy.livenessConfirmationFrames ≠ 0
  · rw [if_pos hmod, if_pos hmod]
    exact ⟨rfl, rfl⟩
  rw [if_neg hmod, if_neg hmod]
  cases window with
  | nil => exact ⟨rfl, rfl⟩
  | cons r rest =>
    simp only [List.map_cons]
    by_cases hcritical : policy.livenessCheckAction = some .criticalTerminate
    · simp only [if_pos hcritical, true_and]
      rfl
    · simp only [if_neg hcritical]
      exact ⟨ownDecisions_raiseMedium_eq "liveness_check_failed" rfl (by decide), rfl⟩

/-- The streak half of the gaze rule in two aggregators with the same gaze part. -/
theorem mergeGazeFrame_congr {result : HeadPoseGazeResult} {id : UUID} {timestamp : Int}
    (h : ownPart .gaze a = ownPart .gaze b) :
    ownPart .gaze (a.mergeGazeFrame policy result id timestamp) =
      ownPart .gaze (b.mergeGazeFrame policy result id timestamp) := by
  cases a
  cases b
  simp only [ownPart, new, mk.injEq, and_true, true_and] at h
  obtain ⟨rfl, rfl, rfl, rfl⟩ := h
  simp only [mergeGazeFrame]
  repeat' split
  all_goals rfl

theorem sameCall_gaze {result : HeadPoseGazeResult} {id : UUID} {timestamp : Int}
    (h : ownPart .gaze a = ownPart .gaze b) :
    SameCall policy ctx a b (.gaze result id timestamp) := by
  have hmerged : ownPart .gaze (a.mergeGazeFrame policy result id timestamp) =
      ownPart .gaze (b.mergeGazeFrame policy result id timestamp) := mergeGazeFrame_congr h
  have hfired : a.gazeTerminationFired = b.gazeTerminationFired := by
    show (ownPart .gaze a).gazeTerminationFired = (ownPart .gaze b).gazeTerminationFired
    rw [h]
  apply SameCall.of_process
  simp only [process, processGaze, hfired, InferenceEvent.modality]
  generalize a.mergeGazeFrame policy result id timestamp = a' at hmerged
  generalize b.mergeGazeFrame policy result id timestamp = b' at hmerged
  cases a'
  cases b'
  simp only [ownPart, new, mk.injEq, and_true, true_and] at hmerged
  obtain ⟨rfl, rfl, rfl, rfl⟩ := hmerged
  split
  · exact ⟨rfl, h⟩
  split
  · exact ⟨rfl, rfl⟩
  split
  · exact ⟨ownDecisions_raiseMedium_eq "gaze_away_frequency" rfl (by decide), rfl⟩
  · exact ⟨rfl, rfl⟩

theorem sameCall_identityMatch {result : IdentityMatchResult} {id : UUID}
    (h : ownPart .identityMatch a = ownPart .identityMatch b) :
    SameCall policy ctx a b (.identityMatch result id) := by
  cases a
  cases b
  simp only [ownPart, new, mk.injEq, true_and] at h
  obtain ⟨rfl, rfl⟩ := h
  apply SameCall.of_process
  simp only [process, processIdentityMatch, InferenceEvent.modality]
  repeat' split
  all_goals exact ⟨rfl, rfl⟩

theorem ownDecisions_objectDetection {result : ObjectDetectionResult} {id : UUID}
    {now : DateTime} :
    ownDecisions (a.processObjectDetection policy ctx result id now).1 =
      ownDecisions (b.processObjectDetection policy ctx result id now).1 := by
  have hrule : ∀ c : Prop, [Decidable c] →
      (if c then bookRuleCode else "object_detected") ≠ "accumulated_score" := by
    intro c _
    split
    all_goals decide
  simp only [processObjectDetection]
  by_cases hskip : result.detectedClass = "book" ∧ ¬ ctx.flagsBook
  · rw [if_pos hskip, if_pos hskip]
  · rw [if_neg hskip, if_neg hskip]
    by_cases hmedium : (if (ctx.exemptionFor result.detectedClass now).isSome = true then
        suppressedSeverity else if result.detectedClass = "book" then bookFlagSeverity
        else "medium") = "medium"
    · rw [if_pos hmedium, if_pos hmedium]
      exact ownDecisions_raiseMedium_eq _ rfl (hrule (result.detectedClass = "book"))
    · rw [if_neg hmedium, if_neg hmedium]

theorem ownDecisions_browserEvent {result : BrowserEventResult} {id : UUID} :
    ownDecisions (a.processBrowserEvent policy result id).1 =
      ownDecisions (b.processBrowserEvent policy result id).1 := by
  simp only [processBrowserEvent]
  split
  · exact ownDecisions_raiseMedium_eq "browser_event" rfl (by decide)
  · rfl

theorem ownDecisions_audioVad {result : AudioVadResult} {id : UUID} :
    ownDecisions (a.processAudioVad policy result id).1 =
      ownDecisions (b.processAudioVad policy result id).1 := by
  simp only [processAudioVad]
  split
  · rfl
  · exact ownDecisions_raiseMedium_eq "audio_anomaly" rfl (by decide)

/-- **Two aggregators that agree in the part of a modality answer its results alike, up to
    Path 3, and go on agreeing in it.** -/
theorem sameCall (h : ownPart e.modality a = ownPart e.modality b) :
    SameCall policy ctx a b e := by
  cases e with
  | facePresence result id => exact sameCall_facePresence h
  | liveness result id => exact sameCall_liveness h
  | gaze result id timestamp => exact sameCall_gaze h
  | identityMatch result id => exact sameCall_identityMatch h
  | identityCheckUnavailable id => exact ⟨rfl, rfl⟩
  | objectDetection result id now => exact ⟨ownDecisions_objectDetection, rfl⟩
  | browserEvent result id => exact ⟨ownDecisions_browserEvent, rfl⟩
  | audioVad result id => exact ⟨ownDecisions_audioVad, rfl⟩

/-! ## 4. Runs

Over a run, the stream of one modality can be taken out and run alone. -/

/-- The results of one modality, each with its own decisions. -/
def answersOf (policy : PolicySnapshot) (ctx : SessionContext) (m : Modality)
    (a : SessionAggregator) (es : List InferenceEvent) :
    List (InferenceEvent × List FlagDecision) :=
  ((answers policy ctx a es).filter (·.1.modality = m)).map fun x => (x.1, ownDecisions x.2)

/-- Of the other modalities' results the answers and the part of one modality know nothing. -/
theorem answersOf_eq_filter (h : ownPart m a = ownPart m b) :
    answersOf policy ctx m a es =
        answersOf policy ctx m b (es.filter (·.modality = m)) ∧
      ownPart m (Run.final (step policy ctx) a es) =
        ownPart m (Run.final (step policy ctx) b (es.filter (·.modality = m))) := by
  induction es generalizing a b with
  | nil => exact ⟨rfl, h⟩
  | cons e es ih =>
    by_cases hm : e.modality = m
    · obtain ⟨hanswer, hpart⟩ : SameCall policy ctx a b e := sameCall (hm ▸ h)
      rw [hm] at hpart
      obtain ⟨hanswers, hfinal⟩ := ih hpart
      rw [List.filter_cons_of_pos (by simpa using hm)]
      refine ⟨?_, hfinal⟩
      unfold answersOf at hanswers ⊢
      rw [answers_cons, answers_cons, List.filter_cons_of_pos (by simpa using hm),
        List.filter_cons_of_pos (by simpa using hm), List.map_cons, List.map_cons, hanswer,
        hanswers]
    · have hstep : ownPart m (a.step policy ctx e) = ownPart m b := (ownPart_step hm).trans h
      obtain ⟨hanswers, hfinal⟩ := ih hstep
      rw [List.filter_cons_of_neg (by simpa using hm)]
      refine ⟨?_, hfinal⟩
      rw [← hanswers]
      unfold answersOf
      rw [answers_cons, List.filter_cons_of_neg (by simpa using hm)]

/-- **The rule for one modality among others**: what depends on its part of the state only, and
    is kept by its own calls, holds of its own results after every run. -/
theorem ownPart_run {I : List InferenceEvent → SessionAggregator → Prop}
    (hpart : ∀ own a b, ownPart m a = ownPart m b → I own a → I own b) (hnew : I [] new)
    (hstep : ∀ own a e, e.modality = m → I own a → I (own ++ [e]) (a.step policy ctx e)) :
    I (es.filter (·.modality = m)) (Run.final (step policy ctx) new es) := by
  induction es using List.reverseRecOn with
  | nil => exact hnew
  | append_singleton es e ih =>
    rw [Run.final_append, List.filter_append]
    by_cases hm : e.modality = m
    · rw [List.filter_cons_of_pos (by simpa using hm)]
      exact hstep _ _ e hm ih
    · rw [List.filter_cons_of_neg (by simpa using hm), List.filter_nil, List.append_nil]
      exact hpart _ _ _ (ownPart_step hm).symm ih

/-- What a run adds to the score is the sum over its own decisions: Path 3's add nothing. -/
theorem final_accumulatedScore :
    (Run.final (step policy ctx) a es).accumulatedScore = a.accumulatedScore +
      ((answers policy ctx a es).map fun x => scoreTotal (ownDecisions x.2)).sum := by
  induction es generalizing a with
  | nil => simp
  | cons e es ih =>
    have hscore : (a.step policy ctx e).accumulatedScore =
        a.accumulatedScore + scoreTotal (ownDecisions (a.process policy ctx e).1) := by
      rw [scoreTotal_ownDecisions]
      exact (process_raises e).score
    rw [Run.final_cons, ih, hscore, answers_cons, List.map_cons, List.sum_cons, add_assoc]

end

/-- **Modalities do not interfere.** Two interleavings of the same streams of results get, result by
    result, the same decisions other than Path 3's, and end with the same score. Each method reads
    and writes its own fields; the score is shared, and a sum does not depend on the order. -/
theorem modalities_independent (policy : PolicySnapshot) (ctx : SessionContext)
    (es fs : List InferenceEvent)
    (hstreams : ∀ m : Modality, es.filter (·.modality = m) = fs.filter (·.modality = m)) :
    (∀ m, answersOf policy ctx m new es = answersOf policy ctx m new fs) ∧
      (Run.final (step policy ctx) new es).accumulatedScore =
        (Run.final (step policy ctx) new fs).accumulatedScore := by
  have hanswers : ∀ m, answersOf policy ctx m new es = answersOf policy ctx m new fs := by
    intro m
    rw [(answersOf_eq_filter rfl).1, hstreams m, ← (answersOf_eq_filter rfl).1]
  refine ⟨hanswers, ?_⟩
  have hperm : ((answers policy ctx new es).map fun x => (x.1, ownDecisions x.2)).Perm
      ((answers policy ctx new fs).map fun x => (x.1, ownDecisions x.2)) := by
    refine perm_of_filter_eq (f := fun x => x.1.modality) ?_
    intro m
    rw [List.filter_map, List.filter_map]
    exact hanswers m
  have hsum : ∀ l : List (InferenceEvent × List FlagDecision),
      (l.map fun x => scoreTotal (ownDecisions x.2)).sum =
        ((l.map fun x => (x.1, ownDecisions x.2)).map fun x => scoreTotal x.2).sum := by
    intro l
    rw [List.map_map]
    rfl
  rw [final_accumulatedScore, final_accumulatedScore, hsum, hsum, (hperm.map _).sum_eq]

/-- A frame with a second face, and a frame that is not live. -/
def strangerAt (id : UUID) : InferenceEvent := .facePresence ⟨"face_presence", .certain, 2⟩ id

def spoofAt (id : UUID) : InferenceEvent := .liveness ⟨.one, false⟩ id

def defaultPolicy : PolicySnapshot := .ofRow (.default 0)

def someContext : SessionContext := ⟨0, 0, "exam", 0, "closed_book", [], []⟩

theorem modalities_independent_swapped :
    (∀ m, answersOf defaultPolicy someContext m new [strangerAt 1, spoofAt 1, strangerAt 2] =
        answersOf defaultPolicy someContext m new [spoofAt 1, strangerAt 1, strangerAt 2]) ∧
      (Run.final (step defaultPolicy someContext) new
          [strangerAt 1, spoofAt 1, strangerAt 2]).accumulatedScore =
        (Run.final (step defaultPolicy someContext) new
          [spoofAt 1, strangerAt 1, strangerAt 2]).accumulatedScore := by
  refine modalities_independent _ _ _ _ ?_
  intro m
  cases m with
  | _ => rfl

end SessionAggregator
end ProctorEngine
