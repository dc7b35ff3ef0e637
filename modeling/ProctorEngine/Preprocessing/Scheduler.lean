/-!
# The modality scheduler

`ModalityScheduler`: which modalities run on which heavy frame. A modality of period `n` runs
on the frames whose sequence number is a multiple of `n`; the scheduler keeps no state.
-/

set_option autoImplicit false

namespace ProctorEngine

/-- `InferenceModality`: what a heavy frame can be used for. -/
inductive InferenceModality where
  | headPoseGaze | objectDetection | identityMatch | liveness
deriving DecidableEq, Repr

inductive ScheduleDecision where
  | run | skip
deriving DecidableEq, Repr

structure ModalityDecision where
  modality : InferenceModality
  decision : ScheduleDecision
  reason : String
deriving DecidableEq, Repr

/-- `InferenceDecision`. -/
structure InferenceDecision where
  frameSeq : Nat
  decisions : List ModalityDecision
deriving DecidableEq, Repr

/-- `should_run`: the first entry of the modality decides. -/
def InferenceDecision.shouldRun (d : InferenceDecision) (modality : InferenceModality) : Bool :=
  match d.decisions.find? (·.modality = modality) with
  | some entry => entry.decision = .run
  | none => false

/-- The periods; the constructor refuses one that is not positive. -/
structure ModalityScheduler where
  headPosePeriod : Nat := 1
  objectDetectionPeriod : Nat := 1
  identityMatchPeriod : Nat := 5
  livenessPeriod : Nat := 5
  headPosePositive : 0 < headPosePeriod := by decide
  objectDetectionPositive : 0 < objectDetectionPeriod := by decide
  identityMatchPositive : 0 < identityMatchPeriod := by decide
  livenessPositive : 0 < livenessPeriod := by decide

namespace ModalityScheduler

/-- The scheduler of a configuration that names none. -/
def default : ModalityScheduler := {}

/-- `period_for`. -/
def periodFor (s : ModalityScheduler) : InferenceModality → Nat
  | .headPoseGaze => s.headPosePeriod
  | .objectDetection => s.objectDetectionPeriod
  | .identityMatch => s.identityMatchPeriod
  | .liveness => s.livenessPeriod

/-- The entry of one modality. -/
def decisionFor (s : ModalityScheduler) (frameSeq : Nat) (modality : InferenceModality) :
    ModalityDecision :=
  let period := s.periodFor modality
  if frameSeq % period = 0 then
    ⟨modality, .run, "frame_seq " ++ toString frameSeq ++ " is a multiple of period " ++
      toString period⟩
  else
    ⟨modality, .skip, "frame_seq " ++ toString frameSeq ++ " is not a multiple of period " ++
      toString period⟩

/-- `decide_for_frame`. -/
def decideForFrame (s : ModalityScheduler) (frameSeq : Nat) : InferenceDecision where
  frameSeq := frameSeq
  decisions :=
    [.headPoseGaze, .objectDetection, .identityMatch, .liveness].map (s.decisionFor frameSeq)

/-- **A modality runs exactly on the multiples of its period.** -/
theorem shouldRun_decideForFrame {s : ModalityScheduler} {frameSeq : Nat}
    {modality : InferenceModality} :
    (s.decideForFrame frameSeq).shouldRun modality ↔ frameSeq % s.periodFor modality = 0 := by
  have hentry : ∀ m, (s.decisionFor frameSeq m).modality = m := by
    intro m
    simp only [decisionFor]
    split <;> rfl
  have hfind : (s.decideForFrame frameSeq).decisions.find? (·.modality = modality) =
      some (s.decisionFor frameSeq modality) := by
    cases modality <;> simp [decideForFrame, hentry]
  rw [InferenceDecision.shouldRun, hfind]
  by_cases hperiod : frameSeq % s.periodFor modality = 0
  · simp [decisionFor, hperiod]
  · simp [decisionFor, hperiod]

end ModalityScheduler

end ProctorEngine
