import ProctorEngine.Orchestration.AdminService
import ProctorEngine.Orchestration.Auth
import ProctorEngine.Orchestration.CrossSessionLinks

/-!
# The orchestration router

One request at a time: the route's dependency, the service call, and the error code the route gives
to what the service raised. Every route but one depends on a credential. **The evidence route
depends on none.** Requests here are well formed: what the schemas refuse is answered with a 422
before anything is read.

The seven operations of an administrator are one type, since the routes treat them alike: look the
administrator up, call the service, and answer with its result or its error. So what is said of all
of them is said of `runAdminOperation` once, from one lemma for each service call.

An error leaves the database as it was, for the service raises before it commits or at the commit.
The one exception is the rejection of an override, which commits and then fails to serialise its
answer.
-/

set_option autoImplicit false

namespace ProctorEngine

/-! ## 1. Errors

The codes of the router with the status each is answered with, and which of the services' errors
each route maps. What a route does not map is a 500. -/

/-- The closed error codes that are raised. -/
inductive ErrorCode where
  | auth (e : AuthError)
  | sessionNotFound
  | flagNotFound
  | invalidSessionTransition
  | policyVersioningError
  | exemptionValidationError
  | evidenceAlreadySealed
  | evidenceBlobTooLarge
  | evidenceSealFailed
  | identityOverrideNotFound
  | adminUserNotFound
  | selfApprovalRejected
  | roleUnauthorized
deriving DecidableEq, Repr

/-- `_ERROR_HTTP` of the router, with its default; the code of an unknown administrator is not
    in it. -/
def ErrorCode.httpStatus : ErrorCode → Nat
  | .auth .internalTokenRequired | .auth .sessionTokenRequired | .auth .sessionTokenInvalid
  | .auth .sessionTokenExpired => 401
  | .auth .internalTokenInvalid | .auth .notAuthorized => 403
  | .auth .sessionNotFound | .sessionNotFound | .flagNotFound | .identityOverrideNotFound => 404
  | .invalidSessionTransition | .evidenceAlreadySealed => 409
  | .policyVersioningError | .exemptionValidationError => 422
  | .evidenceBlobTooLarge => 413
  | .evidenceSealFailed => 500
  | .selfApprovalRejected | .roleUnauthorized => 403
  | .adminUserNotFound => 400

inductive RouteError where
  | http (code : ErrorCode)
  /-- The metadata of an upload, or a body that its schema refuses: 422. -/
  | validation
  /-- An exception no route maps: 500. -/
  | unhandled
deriving DecidableEq, Repr

def PolicyVersioningError.routeError (_ : PolicyVersioningError) : RouteError :=
  .http .policyVersioningError

def ExemptionError.routeError (_ : ExemptionError) : RouteError := .http .exemptionValidationError

def ReviewError.routeError : ReviewError → RouteError
  | .flagNotFound => .http .flagNotFound
  | .integrity => .unhandled

/-- The creation route catches `ExemptionValidationError` only; the others raise nothing it does
    not map. -/
def OverrideError.routeError : OverrideError → RouteError
  | .validUntil => .http .exemptionValidationError
  | .notFound _ => .http .identityOverrideNotFound
  | .ownRequest => .http .selfApprovalRejected
  | .headRequired => .http .roleUnauthorized
  | .sessionNotFound _ | .integrity => .unhandled

/-- The message about one's own role has the word. -/
def RoleError.routeError : RoleError → RouteError
  | .ownRole => .http .selfApprovalRejected
  | .headRequired | .adminRequired => .http .roleUnauthorized
  | .notFound => .http .adminUserNotFound
  | .integrity => .unhandled

def TerminateError.routeError : TerminateError → RouteError
  | .sessionNotFound => .http .sessionNotFound
  | .flagNotFound => .http .flagNotFound
  | .invalidSessionTransition _ => .http .invalidSessionTransition
  | .evidenceSealFailed => .http .evidenceSealFailed

def SealError.routeError : SealError → RouteError
  | .alreadySealed => .http .evidenceAlreadySealed
  | .blobTooLarge _ => .http .evidenceBlobTooLarge
  | .sealFailed | .commitFailed => .unhandled

/-! ## 2. Admin operations

Writing routes behind `admin_role_dep`, and for each the condition under which it finds nothing to
do. -/

/-- The request body; the proof field is the bound of its schema. -/
structure CreateProctorReviewRequest where
  decision : ReviewDecision
  notes : Option String
  notesLength : ∀ n ∈ notes, n.length ≤ 10000
deriving DecidableEq

/-- The routes that write for an administrator, with the clock and the generated ids. -/
inductive AdminOperation where
  | createPolicy (request : CreatePolicyConfigRequest) (now : DateTime) (id : UUID)
  | createExemption (request : CreateExemptionRequest) (id : UUID)
  | review (flagId : UUID) (request : CreateProctorReviewRequest) (id : UUID)
  | createOverride (request : CreateIdentityOverrideRequest) (id : UUID)
  | approveOverride (overrideId : UUID) (now : DateTime)
  | rejectOverride (overrideId : UUID) (now : DateTime)
  | updateRole (adminUserId : UUID) (role : AdminRole) (reason : Option String) (auditId : UUID)

/-- A service call's result as the route answers it. -/
def respond {ε : Type} (db : Database) (code : ε → RouteError) (result : Except ε Database) :
    Database × Except RouteError Unit :=
  match result with
  | .ok db' => (db', .ok ())
  | .error e => (db, .error (code e))

/-- `post_reject_identity_override_request` returns nothing, which its response model refuses
    after the commit. -/
def respondNothing (result : Database × Except RouteError Unit) :
    Database × Except RouteError Unit :=
  (result.1, result.2.bind fun _ => .error .unhandled)

def runAdminOperation (db : Database) (admin : AdminUser) :
    AdminOperation → Database × Except RouteError Unit
  | .createPolicy request now id =>
    respond db PolicyVersioningError.routeError (createPolicyVersion db request admin now id)
  | .createExemption request id =>
    respond db ExemptionError.routeError (createExemption db request admin id)
  | .review flagId request id =>
    respond db ReviewError.routeError
      (recordProctorReview db flagId request.decision request.notes admin id)
  | .createOverride request id =>
    respond db OverrideError.routeError (createIdentityOverrideRequest db request admin id)
  | .approveOverride overrideId now =>
    respond db OverrideError.routeError (approveIdentityOverrideRequest db overrideId admin now)
  | .rejectOverride overrideId now =>
    respondNothing (respond db OverrideError.routeError
      (rejectIdentityOverrideRequest db overrideId admin now))
  | .updateRole adminUserId role reason auditId =>
    respond db RoleError.routeError
      (updateAdminUserRole db adminUserId role admin reason auditId)

/-- What has to hold for an operation to find nothing to do or be refused. -/
def Idle (db : Database) (admin : AdminUser) : AdminOperation → Prop
  | .createPolicy request _ id =>
    ¬ (request.Valid ∧
      (request.retirePrevious ∨ ∀ p ∈ db.policyConfigs, p.name = request.name → ¬ p.Current) ∧
      ∀ p ∈ db.policyConfigs.rows, p.id ≠ id)
  | .createExemption request id =>
    ¬ ((∀ e ∈ request.expiresAt, request.effectiveAt < e) ∧
      (∃ p ∈ db.participants.rows, p.id = request.participantId) ∧
      ∀ x ∈ db.accommodationExemptions.rows, x.id ≠ id)
  | .review flagId _ id =>
    ¬ ((∃ flag, db.getFlag flagId = some flag ∧ (db.getExamSession flag.examSessionId).isSome) ∧
      ∀ x ∈ db.proctorReviews.rows, x.id ≠ id)
  | .createOverride request id =>
    ¬ ((db.getExamSession request.examSessionId).isSome ∧
      request.validFrom < request.validUntil ∧ ∀ x ∈ db.identityOverrides.rows, x.id ≠ id)
  | .approveOverride overrideId now =>
    ∀ row ∈ db.identityOverrides, row.id = overrideId → admin.role = .head →
      admin.id ≠ row.requestedByAdminId → Stands .approve admin now row
  | .rejectOverride overrideId now =>
    ∀ row ∈ db.identityOverrides, row.id = overrideId → Stands .reject admin now row
  | .updateRole adminUserId role _ auditId =>
    ¬ (MayGrant admin adminUserId role ∧ (∃ a ∈ db.adminUsers.rows, a.id = adminUserId) ∧
      ∀ x ∈ db.adminRoleAudits.rows, x.id ≠ auditId)

section
variable {db : Database} {admin : AdminUser} {ε : Type}

@[simp] theorem respond_fst {code : ε → RouteError} {result : Except ε Database} :
    (respond db code result).1 = settle db result := by
  cases result <;> rfl

/-- **An operation leaves the database as it is exactly when it is idle**, whoever runs it. -/
theorem runAdminOperation_eq_self_iff (hadmin : admin ∈ db.adminUsers)
    (operation : AdminOperation) :
    (runAdminOperation db admin operation).1 = db ↔ Idle db admin operation := by
  cases operation with
  | createPolicy request now id =>
    rw [runAdminOperation, respond_fst]
    exact createPolicyVersion_eq_self_iff hadmin
  | createExemption request id =>
    rw [runAdminOperation, respond_fst]
    exact createExemption_eq_self_iff
  | review flagId request id =>
    rw [runAdminOperation, respond_fst]
    exact recordProctorReview_eq_self_iff
  | createOverride request id =>
    rw [runAdminOperation, respond_fst]
    exact createIdentityOverrideRequest_eq_self_iff hadmin
  | approveOverride overrideId now =>
    rw [runAdminOperation, respond_fst]
    exact approve_eq_self_iff hadmin
  | rejectOverride overrideId now =>
    rw [runAdminOperation, respondNothing, respond_fst]
    exact reject_eq_self_iff hadmin
  | updateRole adminUserId role reason auditId =>
    rw [runAdminOperation, respond_fst]
    exact updateAdminUserRole_eq_self_iff

end

/-! ## 3. Requests

A request with its credential, the time it was received at, and the route with its parsed body. -/

/-- The query and the file of an upload. -/
structure EvidenceUpload where
  sessionId : UUID
  flagId : UUID
  artifactType : String
  mediaType : String
  captureStartedAt : DateTime
  captureEndedAt : Option DateTime
  retentionExpiresAt : Option DateTime
  blob : Blob
deriving DecidableEq, Repr

/-- The literals of `SealEvidenceApiRequest.artifact_type`. -/
def EvidenceKind.ofValue? (value : String) : Option EvidenceKind :=
  [EvidenceKind.frame, .clip, .audio, .eventExport].find? fun kind => kind.value = value

/-- `SealEvidenceApiRequest` and the service request built from it; the route stamps its own
    clock on an upload without a retention time. -/
def EvidenceUpload.toRequest (upload : EvidenceUpload) (now : DateTime) :
    Option SealEvidenceRequest :=
  match EvidenceKind.ofValue? upload.artifactType with
  | none => none
  | some kind =>
    if 1 ≤ upload.mediaType.length ∧ upload.mediaType.length ≤ 128 then
      some
        { flagId := upload.flagId
          examSessionId := upload.sessionId
          artifactType := kind
          mediaType := upload.mediaType
          blob := upload.blob
          captureStartedAt := upload.captureStartedAt
          captureEndedAt := upload.captureEndedAt
          retentionExpiresAt := some (upload.retentionExpiresAt.getD now) }
    else none

inductive Route where
  | getSessionStatus (sessionId : String)
  | postTerminate (sessionId : String) (request : TerminateRequest) (now : DateTime)
      (recordId : UUID)
  | getPolicyConfig
  | getExemptions
  | getFlags (sessionId : UUID)
  | getIdentityOverrides
  | admin (operation : AdminOperation)
  | postSealEvidence (upload : EvidenceUpload) (choices : SealChoices)

structure RouteRequest where
  authorization : Option String
  receivedAt : DateTime
  route : Route

/-- `_OrchestrationDeps`, with the digest its store uses. -/
structure OrchestrationDeps where
  internalTerminateToken : String
  jwt : Lti.Jwt
  sha256 : Blob → String

namespace OrchestrationDeps

variable (deps : OrchestrationDeps)

/-- The admin dependency in front of a handler. -/
def asAdmin (s : EvidenceState) (r : RouteRequest)
    (handler : AdminUser → EvidenceState × Except RouteError Unit) :
    EvidenceState × Except RouteError Unit :=
  match requireAdminRole deps.jwt r.receivedAt s.db r.authorization with
  | .error e => (s, .error (.http (.auth e)))
  | .ok admin => handler admin

/-- The dependency of the route first, then its body. A status and the lists of the administration
    are read and change nothing. -/
def handle (s : EvidenceState) (r : RouteRequest) : EvidenceState × Except RouteError Unit :=
  match r.route with
  | .getSessionStatus sessionId =>
    match requireSessionOwnerOrAdmin deps.jwt r.receivedAt s.db sessionId r.authorization with
    | .error e => (s, .error (.http (.auth e)))
    | .ok _ => (s, .ok ())
  | .postTerminate sessionId request now recordId =>
    match requireInternalTerminateToken deps.internalTerminateToken r.authorization with
    | .error e => (s, .error (.http (.auth e)))
    | .ok () =>
      match parseUuid sessionId with
      | none => (s, .error (.http .sessionNotFound))
      | some sid =>
        let (db, result) := postTerminate s.db sid request now recordId
        ({ s with db }, match result with
          | .error e => .error e.routeError
          | .ok _ => .ok ())
  | .getPolicyConfig | .getExemptions | .getIdentityOverrides =>
    deps.asAdmin s r fun _ => (s, .ok ())
  | .getFlags sessionId =>
    deps.asAdmin s r fun _ =>
      if (s.db.getExamSession sessionId).isNone then (s, .error (.http .sessionNotFound))
      else (s, .ok ())
  | .admin operation =>
    deps.asAdmin s r fun admin =>
      let (db, result) := runAdminOperation s.db admin operation
      ({ s with db }, result)
  | .postSealEvidence upload choices =>
    match upload.toRequest choices.now with
    | none => (s, .error .validation)
    | some request =>
      let (s', result) := sealEvidenceForFlag deps.sha256 s request choices
      (s', match result with
        | .error e => .error e.routeError
        | .ok _ => .ok ())

def step (s : EvidenceState) (r : RouteRequest) : EvidenceState := (deps.handle s r).1

end OrchestrationDeps
end ProctorEngine
