import Mathlib.Data.Rat.Defs
import Mathlib.Algebra.Order.Ring.Rat
import ProctorEngine.Lib.Json
import ProctorEngine.Lib.Table

/-!
# The data model

The rows and enumerations the pipeline reads and writes, one structure per ORM class and one field
per column that some modelled function looks at. The uniqueness constraints of a class are its
`Clash` relation, and its table is a `Table` over it, so **a database value satisfies its primary
keys and unique constraints by construction**; what is left to the program — the foreign keys and
the CHECK constraints — is tested where a row is inserted.

`Numeric` columns and Python floats are rationals, a `datetime` is its count of microseconds since
the epoch, a `dict` payload is an association list of `Json`.

CHECK constraints that a program relies on when it reads a row are proof fields of the row's
structure, so that a policy with an empty window, or an exemption that ends before it begins, cannot
be written down at all. A constraint that a request can break is checked where the request is turned
into a row, and the check hands over the proof.

The widths of strings and numbers are a matter of each insert; where a claim depends on one, the
insert tests it.
-/

set_option autoImplicit false

namespace ProctorEngine

/-- `uuid.UUID`: its 128-bit integer. -/
abbrev UUID := BitVec 128

instance : LawfulBEq UUID := inferInstance

/-- A `datetime`, in microseconds since the epoch. -/
abbrev DateTime := Int

/-- A Python `dict[str, Any]`. -/
abbrev Dict := List (String × Json)

/-! ## 1. Enumerations

The members under the names of the Python enumerations, and the values where something writes or
compares them. -/

inductive SessionStatus where
  | pending | active | completed | terminated | underReview | reinstated
deriving DecidableEq, Repr

inductive MediumScoreAction where
  | autoTerminate | flagForReview
deriving DecidableEq, Repr

def MediumScoreAction.value : MediumScoreAction → String
  | .autoTerminate => "auto_terminate"
  | .flagForReview => "flag_for_review"

inductive LivenessAction where
  | criticalTerminate | mediumAccumulate
deriving DecidableEq, Repr

def LivenessAction.value : LivenessAction → String
  | .criticalTerminate => "critical_terminate"
  | .mediumAccumulate => "medium_accumulate"

inductive ReferenceMaterialPolicy where
  | closedBook | openBook | specificList
deriving DecidableEq, Repr

def ReferenceMaterialPolicy.value : ReferenceMaterialPolicy → String
  | .closedBook => "closed_book"
  | .openBook => "open_book"
  | .specificList => "specific_list"

inductive TelemetryModality where
  | browser | face | gaze | identity | object | audio | liveness | system
deriving DecidableEq, Repr

inductive FlagSeverity where
  | low | medium | high | critical
deriving DecidableEq, Repr

/-- `FlagSeverity(value)`, which raises on any other string. -/
def FlagSeverity.ofValue? : String → Option FlagSeverity
  | "low" => some .low
  | "medium" => some .medium
  | "high" => some .high
  | "critical" => some .critical
  | _ => none

inductive FlagStatus where
  | raised | confirmed | dismissed | overturned
deriving DecidableEq, Repr

inductive EvidenceKind where
  | frame | clip | audio | eventExport
deriving DecidableEq, Repr

def EvidenceKind.value : EvidenceKind → String
  | .frame => "frame"
  | .clip => "clip"
  | .audio => "audio"
  | .eventExport => "event_export"

inductive DeliveryStatus where
  | pending | sent | acknowledged | failed
deriving DecidableEq, Repr

inductive ReviewDecision where
  | upheld | overturned | annotated | needsMoreInfo
deriving DecidableEq, Repr

inductive IdentityVerificationStatus where
  | pendingCheck | verified | unavailable | failedToMatch
deriving DecidableEq, Repr

inductive OverrideRequestStatus where
  | pending | approved | rejected
deriving DecidableEq, Repr

inductive AdminRole where
  | instructor | admin | proctor | head
deriving DecidableEq, Repr

/-! ## 2. Rows

In the order of `models.py`. A row that some function builds from defaults has that as a definition
beside the structure. -/

/-- A policy version. The proof fields are the CHECK constraints of `policy_configs`; a
    count the schema bounds below by zero is a `Nat`. -/
structure PolicyConfig where
  id : UUID
  name : String
  version : Nat
  isActive : Bool
  terminationSeverity : FlagSeverity
  terminateOnSecondFace : Bool
  secondFaceConfirmationFrames : Nat
  gazeMinDurationMs : Nat
  gazeWindowSeconds : Nat
  gazeWarningLimit : Nat
  gazeTerminationLimit : Nat
  mediumScoreTerminationThreshold : ℚ
  mediumScoreAction : MediumScoreAction
  livenessCheckEnabled : Bool
  livenessCheckAction : Option LivenessAction
  livenessScoreThreshold : ℚ
  livenessConfirmationFrames : Nat
  identitySimilarityThreshold : ℚ
  identityConfirmationFrames : Nat
  audioNoiseFloorDbfs : ℚ
  audioSpeechRatioThreshold : ℚ
  extraRules : Dict
  retiredAt : Option DateTime
  createdById : Option UUID
  gazeWindowPositive : 0 < gazeWindowSeconds
  gazeTerminationPositive : 0 < gazeTerminationLimit
  gazeWarningBeforeTermination : gazeWarningLimit ≤ gazeTerminationLimit
  gazeMinDurationWithinWindow : gazeMinDurationMs ≤ gazeWindowSeconds * 1000
  confirmationFramesPositive : 0 < secondFaceConfirmationFrames
  livenessFramesPositive : 0 < livenessConfirmationFrames
  identityThresholdInUnitInterval :
    0 ≤ identitySimilarityThreshold ∧ identitySimilarityThreshold ≤ 1
  identityFramesPositive : 0 < identityConfirmationFrames
  audioRatioInUnitInterval : 0 ≤ audioSpeechRatioThreshold ∧ audioSpeechRatioThreshold ≤ 1
  mediumScoreThresholdNonnegative : 0 ≤ mediumScoreTerminationThreshold
  livenessThresholdInUnitInterval : 0 ≤ livenessScoreThreshold ∧ livenessScoreThreshold ≤ 1
  livenessActionWhenEnabled : livenessCheckEnabled = false ∨ livenessCheckAction.isSome
deriving DecidableEq

/-- The version sessions are launched under: active and not retired. -/
def PolicyConfig.Current (p : PolicyConfig) : Prop := p.isActive = true ∧ p.retiredAt = none

instance {p : PolicyConfig} : Decidable p.Current := inferInstanceAs (Decidable (_ ∧ _))

/-- A row of the column defaults. -/
def PolicyConfig.default (id : UUID) : PolicyConfig where
  id := id
  name := "default"
  version := 1
  isActive := true
  terminationSeverity := .critical
  terminateOnSecondFace := true
  secondFaceConfirmationFrames := 3
  gazeMinDurationMs := 800
  gazeWindowSeconds := 300
  gazeWarningLimit := 3
  gazeTerminationLimit := 8
  mediumScoreTerminationThreshold := 10
  mediumScoreAction := .autoTerminate
  livenessCheckEnabled := false
  livenessCheckAction := none
  livenessScoreThreshold := 1 / 2
  livenessConfirmationFrames := 3
  identitySimilarityThreshold := 3 / 5
  identityConfirmationFrames := 3
  audioNoiseFloorDbfs := -30
  audioSpeechRatioThreshold := 3 / 10
  extraRules := []
  retiredAt := none
  createdById := none
  gazeWindowPositive := by decide
  gazeTerminationPositive := by decide
  gazeWarningBeforeTermination := by decide
  gazeMinDurationWithinWindow := by decide
  confirmationFramesPositive := by decide
  livenessFramesPositive := by decide
  identityThresholdInUnitInterval := by decide +kernel
  identityFramesPositive := by decide
  audioRatioInUnitInterval := by decide +kernel
  mediumScoreThresholdNonnegative := by decide +kernel
  livenessThresholdInUnitInterval := by decide +kernel
  livenessActionWhenEnabled := .inl rfl

structure ExamSession where
  id : UUID
  participantId : UUID
  policyConfigId : UUID
  examReference : String
  status : SessionStatus
  allowedReferenceMaterials : ReferenceMaterialPolicy
  permittedMaterialDetails : Dict
  consentRecordedAt : Option DateTime
  accumulatedMediumScore : ℚ
  identityVerificationStatus : IdentityVerificationStatus
  startedAt : Option DateTime
  endedAt : Option DateTime
deriving DecidableEq, Repr

/-- The row a learner launch inserts: consent and start at the launch, every other column at
    its default. -/
def ExamSession.launched (id participantId policyConfigId : UUID) (examReference : String)
    (consentAt : DateTime) : ExamSession where
  id := id
  participantId := participantId
  policyConfigId := policyConfigId
  examReference := examReference
  status := .pending
  allowedReferenceMaterials := .closedBook
  permittedMaterialDetails := []
  consentRecordedAt := some consentAt
  accumulatedMediumScore := 0
  identityVerificationStatus := .pendingCheck
  startedAt := some consentAt
  endedAt := none

structure AccommodationExemption where
  id : UUID
  participantId : UUID
  examReference : String
  objectClass : String
  approvedBy : String
  approvedByAdminId : Option UUID
  approvalReason : String
  effectiveAt : DateTime
  expiresAt : Option DateTime
  /-- `ck_exemption_expiry_after_effective` -/
  expiryAfterEffective : ∀ e ∈ expiresAt, effectiveAt < e
deriving DecidableEq

structure TelemetryEvent where
  id : UUID
  examSessionId : UUID
  modality : TelemetryModality
  eventType : String
  occurredAt : DateTime
  receivedAt : DateTime
  confidence : ℚ
  rawValue : Dict
  boundingBoxes : List (List ℚ)
deriving DecidableEq, Repr

structure Flag where
  id : UUID
  examSessionId : UUID
  policyConfigId : UUID
  ruleCode : String
  severity : FlagSeverity
  status : FlagStatus
  confidenceScore : ℚ
  confidenceLower : ℚ
  confidenceUpper : ℚ
  triggeredTermination : Bool
  suppressedByExemptionId : Option UUID
  detail : Dict
deriving DecidableEq, Repr

structure FlagTelemetryEvent where
  flagId : UUID
  telemetryEventId : UUID
  position : Nat
deriving DecidableEq, Repr

structure EvidenceArtifact where
  id : UUID
  flagId : UUID
  kind : EvidenceKind
  storageUri : String
  contentSha256 : String
  mediaType : String
  byteSize : Nat
  captureStartedAt : DateTime
  captureEndedAt : Option DateTime
  retentionExpiresAt : DateTime
deriving DecidableEq, Repr

structure TerminationRecord where
  id : UUID
  examSessionId : UUID
  triggeringFlagId : Option UUID
  reason : String
  clientDeliveryStatus : DeliveryStatus := .pending
  lmsDeliveryStatus : DeliveryStatus := .pending
deriving DecidableEq, Repr

structure ProctorReview where
  id : UUID
  flagId : UUID
  reviewerReference : String
  reviewerAdminId : Option UUID
  decision : ReviewDecision
  notes : Option String
deriving DecidableEq, Repr

structure IdentityVerificationOverrideRequest where
  id : UUID
  examSessionId : UUID
  requestedByAdminId : UUID
  department : String
  reason : String
  status : OverrideRequestStatus
  approvedByAdminId : Option UUID
  validFrom : DateTime
  validUntil : DateTime
  decidedAt : Option DateTime
  /-- `ck_ident_override_valid_until_after_from` -/
  untilAfterFrom : validFrom < validUntil
deriving DecidableEq

structure Participant where
  id : UUID
  ltiIssuer : String
  lmsUserReference : String
deriving DecidableEq, Repr

structure AdminUser where
  id : UUID
  ltiIssuer : String
  lmsUserReference : String
  role : AdminRole
  department : Option String
  retiredAt : Option DateTime
deriving DecidableEq, Repr

structure AdminRoleAudit where
  id : UUID
  targetAdminId : UUID
  changedByAdminId : UUID
  previousRole : AdminRole
  newRole : AdminRole
  reason : Option String
deriving DecidableEq, Repr

/-! ## 3. Tables

The `Clash` of a class is the disjunction of its primary key and its unique constraints. -/

section
variable {ρ : Type} (key : ρ → UUID)

/-- Two rows of one primary key. -/
abbrev SameKey (a b : ρ) : Prop := key a = key b

instance : Std.Symm (SameKey key) := ⟨fun _ _ h => h.symm⟩

end

/-- The primary key, and `uq_policy_configs_active_name`. -/
def PolicyConfig.Clash (a b : PolicyConfig) : Prop :=
  a.id = b.id ∨ (a.name = b.name ∧ a.Current ∧ b.Current)

instance : DecidableRel PolicyConfig.Clash := fun _ _ => inferInstanceAs (Decidable (_ ∨ _))

instance : Std.Symm PolicyConfig.Clash :=
  ⟨fun _ _ h => h.imp Eq.symm fun ⟨hname, ha, hb⟩ => ⟨hname.symm, hb, ha⟩⟩

/-- The primary key, and `ix_participants_lms_identity`. -/
def Participant.Clash (a b : Participant) : Prop :=
  a.id = b.id ∨ (a.ltiIssuer = b.ltiIssuer ∧ a.lmsUserReference = b.lmsUserReference)

instance : DecidableRel Participant.Clash := fun _ _ => inferInstanceAs (Decidable (_ ∨ _))

instance : Std.Symm Participant.Clash :=
  ⟨fun _ _ h => h.imp Eq.symm fun ⟨hissuer, href⟩ => ⟨hissuer.symm, href.symm⟩⟩

/-- The primary key, and `uq_admin_users_lms_identity`. -/
def AdminUser.Clash (a b : AdminUser) : Prop :=
  a.id = b.id ∨ (a.ltiIssuer = b.ltiIssuer ∧ a.lmsUserReference = b.lmsUserReference)

instance : DecidableRel AdminUser.Clash := fun _ _ => inferInstanceAs (Decidable (_ ∨ _))

instance : Std.Symm AdminUser.Clash :=
  ⟨fun _ _ h => h.imp Eq.symm fun ⟨hissuer, href⟩ => ⟨hissuer.symm, href.symm⟩⟩

def FlagTelemetryEvent.Clash (a b : FlagTelemetryEvent) : Prop :=
  a.flagId = b.flagId ∧ a.telemetryEventId = b.telemetryEventId

instance : DecidableRel FlagTelemetryEvent.Clash := fun _ _ =>
  inferInstanceAs (Decidable (_ ∧ _))

/-- `uq_evidence_artifacts_one_per_flag`, and the unique `storage_uri`. -/
def EvidenceArtifact.Clash (a b : EvidenceArtifact) : Prop :=
  a.id = b.id ∨ a.flagId = b.flagId ∨ a.storageUri = b.storageUri

instance : DecidableRel EvidenceArtifact.Clash := fun _ _ =>
  inferInstanceAs (Decidable (_ ∨ _ ∨ _))

instance : Std.Symm EvidenceArtifact.Clash :=
  ⟨fun _ _ h => h.imp Eq.symm (Or.imp Eq.symm Eq.symm)⟩

/-- `termination_records.exam_session_id` is unique: one record per session. -/
def TerminationRecord.Clash (a b : TerminationRecord) : Prop :=
  a.id = b.id ∨ a.examSessionId = b.examSessionId

instance : DecidableRel TerminationRecord.Clash := fun _ _ =>
  inferInstanceAs (Decidable (_ ∨ _))

instance : Std.Symm TerminationRecord.Clash := ⟨fun _ _ h => h.imp Eq.symm Eq.symm⟩

/-- The committed database. -/
structure Database where
  policyConfigs : Table PolicyConfig PolicyConfig.Clash
  examSessions : Table ExamSession (SameKey ExamSession.id)
  accommodationExemptions : Table AccommodationExemption (SameKey AccommodationExemption.id)
  telemetryEvents : Table TelemetryEvent (SameKey TelemetryEvent.id)
  flags : Table Flag (SameKey Flag.id)
  flagTelemetryEvents : Table FlagTelemetryEvent FlagTelemetryEvent.Clash
  evidenceArtifacts : Table EvidenceArtifact EvidenceArtifact.Clash
  terminationRecords : Table TerminationRecord TerminationRecord.Clash
  proctorReviews : Table ProctorReview (SameKey ProctorReview.id)
  identityOverrides :
    Table IdentityVerificationOverrideRequest (SameKey IdentityVerificationOverrideRequest.id)
  participants : Table Participant Participant.Clash
  adminUsers : Table AdminUser AdminUser.Clash
  adminRoleAudits : Table AdminRoleAudit (SameKey AdminRoleAudit.id)

namespace Database

/-- The schema before any row. -/
def empty : Database := ⟨∅, ∅, ∅, ∅, ∅, ∅, ∅, ∅, ∅, ∅, ∅, ∅, ∅⟩

/-- `db.get(ExamSession, id)`. -/
def getExamSession (db : Database) (id : UUID) : Option ExamSession :=
  db.examSessions.find? fun s => s.id = id

/-- The foreign key to `admin_users`. -/
def hasAdmin (db : Database) (id : UUID) : Bool := db.adminUsers.rows.any (·.id = id)

/-- `accumulated_medium_score` of a session, where there is one. -/
def scoreOf (db : Database) (id : UUID) : Option ℚ :=
  (db.getExamSession id).map (·.accumulatedMediumScore)

/-- `db.get(Flag, id)`. -/
def getFlag (db : Database) (id : UUID) : Option Flag := db.flags.find? fun f => f.id = id

/-- The record of a session: `.filter(TerminationRecord.exam_session_id == id).one_or_none()`. -/
def terminationRecordOf (db : Database) (id : UUID) : Option TerminationRecord :=
  db.terminationRecords.find? fun r => r.examSessionId = id

/-- `UPDATE exam_sessions SET … WHERE id = …`, for columns other than the primary key. -/
def updateExamSession (db : Database) (id : UUID) (f : ExamSession → ExamSession)
    (hf : ∀ s, (f s).id = s.id) : Database :=
  { db with
    examSessions := db.examSessions.update (fun s => if s.id = id then f s else s) fun a b h => by
      have key : ∀ s : ExamSession, (if s.id = id then f s else s).id = s.id := by
        intro s
        split
        · exact hf s
        · rfl
      simpa only [SameKey, key] using h }

section
variable {db : Database} {id : UUID} {f : ExamSession → ExamSession}
  {hf : ∀ s, (f s).id = s.id}

theorem getExamSession_id {s : ExamSession} (h : db.getExamSession id = some s) : s.id = id := by
  simpa using Table.of_find?_eq_some h

theorem isSome_scoreOf : (db.scoreOf id).isSome = (db.getExamSession id).isSome :=
  Option.isSome_map

theorem terminationRecordOf_eq_some_iff {r : TerminationRecord} :
    db.terminationRecordOf id = some r ↔ r ∈ db.terminationRecords ∧ r.examSessionId = id := by
  unfold terminationRecordOf
  rw [Table.find?_eq_some_iff (fun a b ha hb => ?_)]
  · simp
  · simp only [decide_eq_true_eq] at ha hb
    exact .inr (ha.trans hb.symm)

/-- An update is seen at its own row and nowhere else. -/
theorem getExamSession_updateExamSession {id' : UUID} :
    (db.updateExamSession id f hf).getExamSession id' =
      if id' = id then (db.getExamSession id').map f else db.getExamSession id' := by
  unfold getExamSession updateExamSession
  rw [Table.find?_update]
  · by_cases h : id' = id
    · subst h
      rw [if_pos rfl]
      cases hs : db.examSessions.find? fun s => s.id = id' with
      | none => rfl
      | some s => simp [show s.id = id' by simpa using Table.of_find?_eq_some hs]
    · rw [if_neg h]
      cases hs : db.examSessions.find? fun s => s.id = id' with
      | none => rfl
      | some s =>
        have hid : s.id = id' := by simpa using Table.of_find?_eq_some hs
        simp [hid, h]
  · intro s
    by_cases h : s.id = id <;> simp [h, hf]

end

end Database

end ProctorEngine
