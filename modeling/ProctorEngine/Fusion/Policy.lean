import ProctorEngine.Models

/-!
# What a session is judged under

The two values a `SessionAggregator` is constructed from — a frozen snapshot of the policy row
bound at launch, and the session's context — and the two pure rules that read the context:
whether a detected book counts, and which accommodation exempts a detection.
-/

set_option autoImplicit false

namespace ProctorEngine

/-! ## 1. Accommodation exemptions -/

/-- An `AccommodationExemption` row as fusion sees it. -/
structure ExemptionRecord where
  id : UUID
  participantId : UUID
  objectClass : String
  examReference : String
  effectiveAt : DateTime
  expiresAt : Option DateTime
deriving DecidableEq, Repr

def ExemptionRecord.ofRow (row : AccommodationExemption) : ExemptionRecord :=
  ⟨row.id, row.participantId, row.objectClass, row.examReference, row.effectiveAt, row.expiresAt⟩

/-- The tests of `find_matching_exemption` on one record. -/
def ExemptionRecord.Matches (ex : ExemptionRecord) (participantId : UUID)
    (objectClass examReference : String) (now : DateTime) : Bool :=
  ex.participantId = participantId ∧ ex.objectClass = objectClass ∧
    ex.examReference = examReference ∧ ex.effectiveAt ≤ now ∧
    ex.expiresAt.all fun expiry => now < expiry

/-- `find_matching_exemption`: the first match, in the caller's order. -/
def findMatchingExemption (participantId : UUID) (objectClass examReference : String)
    (now : DateTime) (exemptions : List ExemptionRecord) : Option ExemptionRecord :=
  exemptions.find? fun ex => ex.Matches participantId objectClass examReference now

/-- `SUPPRESSED_SEVERITY`. -/
def suppressedSeverity : String := "low"

/-! ## 2. Books -/

/-- `BOOK_FLAG_SEVERITY`. -/
def bookFlagSeverity : String := "medium"

/-- `BOOK_RULE_CODE`. -/
def bookRuleCode : String := "book_detected"

/-- `should_flag_book`. Only a list can allow the book; a policy of another name is flagged so
    that a human reviews. -/
def shouldFlagBook (referenceMaterialPolicy : String) (permittedMaterialDetails : Dict) : Bool :=
  if referenceMaterialPolicy = "closed_book" then true
  else if referenceMaterialPolicy = "open_book" then false
  else if referenceMaterialPolicy = "specific_list" then
    match Json.get? permittedMaterialDetails "allowed_items" with
    | some (.arr allowed) => .str "book" ∉ allowed
    | _ => true
  else true

/-! ## 3. The snapshot and the context -/

/-- `PolicySnapshot`. It does not validate: that the two window lengths are positive is what
    the row's constraints have already established. -/
structure PolicySnapshot where
  terminateOnSecondFace : Bool
  secondFaceConfirmationFrames : Nat
  gazeMinDurationMs : Nat
  gazeWindowSeconds : Nat
  gazeWarningLimit : Nat
  gazeTerminationLimit : Nat
  mediumScoreTerminationThreshold : ℚ
  mediumScoreAction : MediumScoreAction
  livenessCheckEnabled : Bool
  livenessCheckAction : Option LivenessAction
  livenessScoreThreshold : ℚ
  livenessConfirmationFrames : Nat
  identitySimilarityThreshold : ℚ
  identityConfirmationFrames : Nat
  audioNoiseFloorDbfs : ℚ
  audioSpeechRatioThreshold : ℚ
  scoreWeights : List (String × ℚ) := []
  livenessFramesPositive : 0 < livenessConfirmationFrames
  identityFramesPositive : 0 < identityConfirmationFrames

/-- The snapshot of a row: every field is the column of its name, and there is no column for
    the weights. -/
def PolicySnapshot.ofRow (row : PolicyConfig) : PolicySnapshot where
  terminateOnSecondFace := row.terminateOnSecondFace
  secondFaceConfirmationFrames := row.secondFaceConfirmationFrames
  gazeMinDurationMs := row.gazeMinDurationMs
  gazeWindowSeconds := row.gazeWindowSeconds
  gazeWarningLimit := row.gazeWarningLimit
  gazeTerminationLimit := row.gazeTerminationLimit
  mediumScoreTerminationThreshold := row.mediumScoreTerminationThreshold
  mediumScoreAction := row.mediumScoreAction
  livenessCheckEnabled := row.livenessCheckEnabled
  livenessCheckAction := row.livenessCheckAction
  livenessScoreThreshold := row.livenessScoreThreshold
  livenessConfirmationFrames := row.livenessConfirmationFrames
  identitySimilarityThreshold := row.identitySimilarityThreshold
  identityConfirmationFrames := row.identityConfirmationFrames
  audioNoiseFloorDbfs := row.audioNoiseFloorDbfs
  audioSpeechRatioThreshold := row.audioSpeechRatioThreshold
  livenessFramesPositive := row.livenessFramesPositive
  identityFramesPositive := row.identityFramesPositive

/-- `weight_for`: 1.0 where no weight is given. -/
def PolicySnapshot.weightFor (policy : PolicySnapshot) (ruleCode : String) : ℚ :=
  (policy.scoreWeights.lookup ruleCode).getD 1

/-- `SessionContext`. -/
structure SessionContext where
  examSessionId : UUID
  participantId : UUID
  examReference : String
  policyConfigId : UUID
  allowedReferenceMaterials : String := "closed_book"
  permittedMaterialDetails : Dict := []
  exemptions : List ExemptionRecord := []
deriving DecidableEq, Repr

/-- The context of a session row and the exemptions loaded for its participant. -/
def SessionContext.ofRow (row : ExamSession) (exemptions : List AccommodationExemption) :
    SessionContext where
  examSessionId := row.id
  participantId := row.participantId
  examReference := row.examReference
  policyConfigId := row.policyConfigId
  allowedReferenceMaterials := row.allowedReferenceMaterials.value
  permittedMaterialDetails := row.permittedMaterialDetails
  exemptions := exemptions.map .ofRow

/-- `should_flag_book` of a context. -/
def SessionContext.flagsBook (ctx : SessionContext) : Bool :=
  shouldFlagBook ctx.allowedReferenceMaterials ctx.permittedMaterialDetails

/-- `find_matching_exemption` of a context. -/
def SessionContext.exemptionFor (ctx : SessionContext) (objectClass : String) (now : DateTime) :
    Option ExemptionRecord :=
  findMatchingExemption ctx.participantId objectClass ctx.examReference now ctx.exemptions

end ProctorEngine
