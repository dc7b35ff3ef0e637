import ProctorEngine.Lib.Run
import ProctorEngine.Orchestration.FrameDispatcher

/-!
# The modalities of one heavy frame

`_dispatch_heavy_frame` serves four modalities in one body, gaze, objects, identity and liveness
in this order. It ends early in two ways. A runner that cannot be constructed raises outside
every `try`, and the loop around the method logs it; and the identity branch returns from the
method wherever it has nothing to say. **Liveness comes last, so it runs only where neither
happens before it** (`livenessIndependent_iff`), although nothing it needs depends on either.
-/

set_option autoImplicit false

namespace ProctorEngine

/-- One `_dispatch_event`, with whether the landmarker and the detector, constructed on first use,
    are there. -/
structure LazyDispatchStep extends DispatchStep where
  landmarkerReady : Bool
  detectorReady : Bool

namespace FrameDispatcher

/-- The calls `_dispatch_heavy_frame` makes before it returns or raises. -/
def heavyFrameCalls (d : FrameDispatcher) (capturedAt : DateTime) (id : UUID)
    (landmarkerReady detectorReady : Bool) (answers : HeavyFrameAnswers) : List InferenceEvent :=
  let decision := d.config.scheduler.decideForFrame d.heavyFrameSeq
  if (decision.shouldRun .headPoseGaze ∨ decision.shouldRun .identityMatch ∨
      decision.shouldRun .liveness) ∧ ¬ landmarkerReady then []
  else if decision.shouldRun .objectDetection ∧ ¬ detectorReady then
    -- the gaze branch is over
    if decision.shouldRun .headPoseGaze then
      answers.landmarker.toList.map (.gaze · id (capturedAtMs capturedAt))
    else []
  else d.heavyFrameEvents capturedAt id answers

/-- The calls a dispatch makes. -/
def inferenceCalls (d : FrameDispatcher) (s : LazyDispatchStep) : List InferenceEvent :=
  match s.event.message.payload with
  | .telemetryHeavyFrame _ =>
    if s.answers.heavyFrame.decoded then
      d.heavyFrameCalls s.event.message.capturedAt s.syntheticId s.landmarkerReady s.detectorReady
        s.answers.heavyFrame
    else []
  | _ => d.inferenceEvents s.event.message s.syntheticId s.answers

/-- `_dispatch_event`; an exception ends it, and what was done stays done. -/
def dispatchLazily (d : FrameDispatcher) (s : LazyDispatchStep) : FrameDispatcher :=
  ({ d with
    heavyFrameSeq := d.nextHeavyFrameSeq s.event.message s.answers
    eventIdToBuffered := (s.syntheticId, { s.event with syntheticId := s.syntheticId }) ::
      d.eventIdToBuffered.filter (·.1 ≠ s.syntheticId) }.feed (d.inferenceCalls s)).2

/-! ## 1. With the runners in place

The dispatcher of `FrameDispatcher` has its runners, and is the case in which nothing raises
here. -/

section
variable {d : FrameDispatcher} {s : LazyDispatchStep}

/-- With both runners there the calls are those of the dispatcher. -/
theorem inferenceCalls_ready (hlandmarker : s.landmarkerReady = true)
    (hdetector : s.detectorReady = true) :
    d.inferenceCalls s = d.inferenceEvents s.event.message s.syntheticId s.answers := by
  unfold inferenceCalls inferenceEvents
  cases s.event.message.payload with
  | telemetryHeavyFrame payload => simp [heavyFrameCalls, hlandmarker, hdetector]
  | _ => rfl

theorem dispatchLazily_ready (hlandmarker : s.landmarkerReady = true)
    (hdetector : s.detectorReady = true) :
    d.dispatchLazily s = (d.dispatchEvent s.event s.syntheticId s.answers).2 := by
  unfold dispatchLazily
  rw [inferenceCalls_ready hlandmarker hdetector]
  rfl

end

/-! ## 2. Liveness beside the other modalities

`Unobstructed` lists what stands between a due liveness call and the frame. -/

/-- A decoded frame on which liveness is due, with a runner and a usable box of the face. -/
structure LivenessDue (d : FrameDispatcher) (s : LazyDispatchStep) : Prop where
  heavyFrame : ∃ payload, s.event.message.payload = .telemetryHeavyFrame payload
  decoded : s.answers.heavyFrame.decoded = true
  scheduled : (d.config.scheduler.decideForFrame d.heavyFrameSeq).shouldRun .liveness = true
  runner : d.livenessRunner = true
  landmarker : s.landmarkerReady = true ∧ s.answers.heavyFrame.landmarker ≠ none
  faceBox : s.answers.heavyFrame.faceBox = true

/-- `process_liveness` is called. -/
def LivenessCalled (d : FrameDispatcher) (s : LazyDispatchStep) : Prop :=
  ∃ result, .liveness result s.syntheticId ∈ d.inferenceCalls s

/-- Nothing stands between the frame and the liveness call: a scheduled object detection has its
    detector, a scheduled identity match an enrollment embedding and an answer, and the liveness
    model answers. -/
structure Unobstructed (d : FrameDispatcher) (s : LazyDispatchStep) : Prop where
  detector : (d.config.scheduler.decideForFrame d.heavyFrameSeq).shouldRun .objectDetection = true →
    s.detectorReady = true
  identity : (d.config.scheduler.decideForFrame d.heavyFrameSeq).shouldRun .identityMatch = true →
    d.config.enrollmentEmbedding ≠ none ∧ s.answers.heavyFrame.identity ≠ none
  liveness : s.answers.heavyFrame.liveness ≠ none

section
variable {d : FrameDispatcher} {s : LazyDispatchStep}

theorem mem_livenessEvents {decision : InferenceDecision}
    {landmarkerResult : Option HeadPoseGazeResult} {id : UUID} {answers : HeavyFrameAnswers} :
    (∃ result, .liveness result id ∈ d.livenessEvents decision landmarkerResult id answers) ↔
      (decision.shouldRun .liveness ∧ d.livenessRunner ∧ landmarkerResult.isSome ∧
        answers.faceBox) ∧ answers.liveness ≠ none := by
  unfold livenessEvents
  split
  · rename_i hruns
    cases answers.liveness with
    | none => simp [hruns]
    | some result => simp [hruns]
  · rename_i hskips
    simp [hskips]

theorem liveness_not_mem_gaze {result : LivenessResult} {id id' : UUID} {timestamp : Int} {c : Prop}
    [Decidable c] {l : List HeadPoseGazeResult} :
    .liveness result id ∉ (if c then l.map (InferenceEvent.gaze · id' timestamp) else []) := by
  split
  · simp
  · exact List.not_mem_nil

theorem liveness_not_mem_objects {result : LivenessResult} {id id' : UUID} {c : Prop} [Decidable c]
    {l : List (ObjectDetectionResult × DateTime)} : .liveness result id ∉
      (if c then l.map fun det => InferenceEvent.objectDetection det.1 id' det.2 else []) := by
  split
  · simp
  · exact List.not_mem_nil

/-- Of the branches of a frame only the last calls liveness. -/
theorem mem_heavyFrameEvents {capturedAt : DateTime} {id : UUID} {answers : HeavyFrameAnswers}
    (hscheduled : (d.config.scheduler.decideForFrame d.heavyFrameSeq).shouldRun .liveness = true)
    (hrunner : d.livenessRunner = true) (hlandmarker : answers.landmarker ≠ none)
    (hfaceBox : answers.faceBox = true) :
    (∃ result, .liveness result id ∈ d.heavyFrameEvents capturedAt id answers) ↔
      ((d.config.scheduler.decideForFrame d.heavyFrameSeq).shouldRun .identityMatch = true →
        d.config.enrollmentEmbedding ≠ none ∧ answers.identity ≠ none) ∧
      answers.liveness ≠ none := by
  obtain ⟨gazeResult, hgaze⟩ := Option.ne_none_iff_exists'.mp hlandmarker
  have hlast : (∃ result, .liveness result id ∈
      d.livenessEvents (d.config.scheduler.decideForFrame d.heavyFrameSeq) (some gazeResult) id
        answers) ↔ answers.liveness ≠ none := by
    rw [mem_livenessEvents]
    simp [hscheduled, hrunner, hfaceBox]
  simp only [heavyFrameEvents, hscheduled, or_true, if_true, hgaze, List.mem_append,
    liveness_not_mem_gaze, liveness_not_mem_objects, false_or]
  split
  · rename_i hidentity
    cases henrollment : d.config.enrollmentEmbedding with
    | none => simp [hidentity]
    | some embedding =>
      cases answers.identity with
      | none => simp [hidentity]
      | some result => simpa [hidentity, hfaceBox] using hlast
  · rename_i hidentity
    simpa [hidentity] using hlast

/-- **One frame**: where liveness is due it is called exactly if nothing stands before it. -/
theorem livenessCalled_iff (hdue : LivenessDue d s) : LivenessCalled d s ↔ Unobstructed d s := by
  obtain ⟨payload, hpayload⟩ := hdue.heavyFrame
  have hevents : (∃ result, .liveness result s.syntheticId ∈
      d.heavyFrameEvents s.event.message.capturedAt s.syntheticId s.answers.heavyFrame) ↔ _ :=
    mem_heavyFrameEvents hdue.scheduled hdue.runner hdue.landmarker.2 hdue.faceBox
  unfold LivenessCalled inferenceCalls
  rw [hpayload]
  simp only [hdue.decoded, if_true, heavyFrameCalls, hdue.landmarker.1, not_true_eq_false,
    and_false, if_false]
  split
  · -- the detector cannot be constructed, and the method raises
    rename_i hraises
    constructor
    · rintro ⟨result, hmem⟩
      exact absurd hmem liveness_not_mem_gaze
    · intro h
      exact absurd (h.detector hraises.1) hraises.2
  · rename_i hgoes
    rw [hevents]
    constructor
    · rintro ⟨hidentity, hliveness⟩
      exact ⟨fun hobjects => by simpa [hobjects] using hgoes, hidentity, hliveness⟩
    · exact fun h => ⟨h.identity, h.liveness⟩

end

/-- **Liveness is called on every frame where it is due exactly if nothing stands between the frame
    and the call on any of them.** The identity branch leaves the method where it cannot finish, and
    the liveness branch stands behind it. -/
theorem livenessIndependent_iff (config : FrameDispatcherConfig) (livenessBackend : Bool)
    (steps : List LazyDispatchStep) :
    Run.EachStep dispatchLazily (fun d s => LivenessDue d s → LivenessCalled d s)
        (new config livenessBackend) steps ↔
      Run.EachStep dispatchLazily (fun d s => LivenessDue d s → Unobstructed d s)
        (new config livenessBackend) steps :=
  Run.eachStep_iff_eachStep (I := fun _ => True) (fun _ _ _ => trivial)
    (fun _ _ _ => forall_congr' livenessCalled_iff) trivial

/-- A policy with the liveness check, for a participant who has not enrolled. -/
def livenessConfig : FrameDispatcherConfig where
  policySnapshot := .ofRow { PolicyConfig.default 0 with
    livenessCheckEnabled := true
    livenessCheckAction := some .mediumAccumulate
    livenessActionWhenEnabled := .inr rfl }
  context := ⟨0, 0, "exam", 0, "closed_book", [], []⟩

/-- The first frame: a face, no object, and every runner answers. -/
def firstFrame : LazyDispatchStep where
  event :=
    { message :=
        { sessionId := "session"
          capturedAt := 0
          payload :=
            .telemetryHeavyFrame ⟨"/9j/", 1280, 720, "webp", by decide, by decide, by decide⟩
          sessionIdNonempty := by decide }
      receivedAt := 0
      seq := 0 }
  syntheticId := 1
  answers :=
    { heavyFrame :=
        ⟨true, some ⟨.certain, some false⟩, true, some [], some ⟨.one⟩, some ⟨.one, true⟩⟩
      audioVad := none }
  landmarkerReady := true
  detectorReady := true

/-- Without an enrollment embedding identity and liveness, due on the same frames, are both
    skipped. -/
theorem liveness_skipped :
    ¬ ∀ config livenessBackend steps,
      Run.EachStep dispatchLazily (fun d s => LivenessDue d s → LivenessCalled d s)
        (new config livenessBackend) steps := by
  intro h
  have hscheduled : ∀ modality, ((livenessConfig.scheduler.decideForFrame 0).shouldRun modality) =
      true := fun modality => ModalityScheduler.shouldRun_decideForFrame.mpr (Nat.zero_mod _)
  have hdue : LivenessDue (new livenessConfig true) firstFrame :=
    ⟨⟨_, rfl⟩, rfl, hscheduled .liveness, rfl, ⟨rfl, Option.some_ne_none _⟩, rfl⟩
  have hcalled := (h livenessConfig true [firstFrame]).1 hdue
  exact ((livenessCalled_iff hdue).mp hcalled).identity (hscheduled .identityMatch) |>.1 rfl

end FrameDispatcher

end ProctorEngine
