import ProctorEngine.Orchestration.IdentityOverrides
import ProctorEngine.Orchestration.PolicyVersions
import ProctorEngine.Orchestration.ProctorReviews

/-!
# The admin service

The operations behind the admin routes, each from its reads to its commit with nobody in between, by
an administrator the route has loaded. Each either fails or commits; beside each stands the one fact
its callers need, **when the operation changes the database**.

Nearly every operation adds a row when it commits, and a table with a row more is another table, so
for these the fact is a list of what the operation and the database check. The decision on an
override is the one that may commit and change nothing: it writes columns, and they may have the
values already (`Stands`).

The operations that overlap with others are pieces in the modules about their histories,
`PolicyVersions`, `IdentityOverrides` and `ReadCommitted`. Here the pieces are put in a row.
-/

set_option autoImplicit false

namespace ProctorEngine

/-- What an operation leaves behind: a failed one is rolled back. -/
def settle {ε : Type} (db : Database) : Except ε Database → Database
  | .ok db' => db'
  | .error _ => db

section
variable {ε : Type} {db db' : Database} {e : ε}

@[simp] theorem settle_ok : settle db (.ok db' : Except ε Database) = db' := rfl

@[simp] theorem settle_error : settle db (.error e) = db := rfl

end

/-- A table is not the table with a row more. -/
theorem Table.ne_of_insert? {ρ : Type} {clash : ρ → ρ → Prop} [DecidableRel clash]
    {t t' : Table ρ clash} {r : ρ} (h : t.insert? r = some t') : t' ≠ t := by
  rintro rfl
  have hrows := congrArg List.length (Table.insert?_eq_some_iff.mp h).2
  simp at hrows

/-! ## 1. Policies

The reads and the commit of `PolicyVersions`, one after the other. The foreign key of the commit
holds, for the administrator is in the table. -/

/-- `create_policy_version`. Checks, the version that is active, the greatest number, and the commit
    that retires the one and adds the other. -/
def createPolicyVersion (db : Database) (request : CreatePolicyConfigRequest)
    (createdBy : AdminUser) (now : DateTime) (id : UUID) :
    Except PolicyVersioningError Database :=
  match validatePolicyRequest request with
  | .error e => .error e
  | .ok ⟨valid⟩ =>
    let previous := resolvePreviousActive db request.name
    if previous.isSome ∧ ¬ request.retirePrevious then .error (.alreadyActive request.name)
    else
      let row := request.row valid id (resolveMaxVersion db request.name + 1) createdBy.id
      match commitPolicyVersion db row (previous.map (·.id)) now with
      | none => .error .constraint
      | some db' => .ok db'

section
variable {db db' : Database} {request : CreatePolicyConfigRequest} {createdBy : AdminUser}
  {row : PolicyConfig} {previous : Option UUID} {now : DateTime} {id : UUID}

theorem validatePolicyRequest_of_valid (h : request.Valid) :
    validatePolicyRequest request = .ok ⟨h⟩ := by
  rw [validatePolicyRequest, dif_pos h.gazeWarningLimit, dif_pos h.gazeMinDuration,
    dif_pos h.livenessAction]

theorem validatePolicyRequest_of_not_valid (h : ¬ request.Valid) :
    ∃ e, validatePolicyRequest request = .error e := by
  cases hv : validatePolicyRequest request with
  | error e => exact ⟨e, rfl⟩
  | ok valid => exact absurd valid.down h

theorem commitPolicyVersion_ne (h : commitPolicyVersion db row previous now = some db') :
    db' ≠ db := by
  rintro rfl
  have hrows := congrArg List.length (commitPolicyVersion_rows h)
  simp at hrows

/-- The row that is read as previous is the only one the constraint could object to. -/
theorem policyInsertable_iff {valid : request.Valid} {version : Nat}
    (hadmin : createdBy ∈ db.adminUsers) :
    PolicyInsertable db (request.row valid id version createdBy.id)
        ((resolvePreviousActive db request.name).map (·.id)) ↔
      ∀ p ∈ db.policyConfigs.rows, p.id ≠ id := by
  refine ⟨fun h => h.id, fun h => ⟨?_, h, fun _ p hp hname hcurrent => ?_⟩⟩
  · simpa [CreatePolicyConfigRequest.row, Database.hasAdmin] using ⟨createdBy, hadmin, rfl⟩
  · have hread : resolvePreviousActive db request.name = some p :=
      resolvePreviousActive_eq_some_iff.mpr ⟨hp, hname, hcurrent⟩
    rw [hread]
    rfl

theorem createPolicyVersion_eq_self_iff (hadmin : createdBy ∈ db.adminUsers) :
    settle db (createPolicyVersion db request createdBy now id) = db ↔
      ¬ (request.Valid ∧
        (request.retirePrevious ∨ ∀ p ∈ db.policyConfigs, p.name = request.name → ¬ p.Current) ∧
        ∀ p ∈ db.policyConfigs.rows, p.id ≠ id) := by
  have hprevious : (resolvePreviousActive db request.name).isSome ↔
      ¬ ∀ p ∈ db.policyConfigs, p.name = request.name → ¬ p.Current := by
    rw [Option.isSome_iff_exists]
    push Not
    exact exists_congr fun p => resolvePreviousActive_eq_some_iff
  unfold createPolicyVersion
  by_cases hvalid : request.Valid
  · rw [validatePolicyRequest_of_valid hvalid, and_iff_right hvalid]
    dsimp only
    -- an active version in the way, or the commit
    split
    · rename_i hactive
      rw [hprevious] at hactive
      exact iff_of_true rfl fun h => h.1.elim hactive.2 hactive.1
    · rename_i hactive
      have hfree : request.retirePrevious ∨
          ∀ p ∈ db.policyConfigs, p.name = request.name → ¬ p.Current := by
        rw [hprevious] at hactive
        by_contra hno
        exact hactive ⟨fun h => hno (.inr h), fun h => hno (.inl h)⟩
      have haccepted : (∀ p ∈ db.policyConfigs.rows, p.id ≠ id) ↔
          (commitPolicyVersion db
            (request.row hvalid id (resolveMaxVersion db request.name + 1) createdBy.id)
            ((resolvePreviousActive db request.name).map (·.id)) now).isSome := by
        rw [commitPolicyVersion_isSome_iff, policyInsertable_iff hadmin]
      rw [haccepted]
      cases hcommit : commitPolicyVersion db _ _ now with
      | none => exact iff_of_true rfl fun h => absurd h.2 (by simp)
      | some db' =>
        exact iff_of_false (commitPolicyVersion_ne hcommit) fun h => h ⟨hfree, rfl⟩
  · obtain ⟨e, he⟩ := validatePolicyRequest_of_not_valid hvalid
    rw [he]
    exact iff_of_true rfl fun h => hvalid h.1

end

/-! ## 2. Exemptions

The participant has to exist; nobody looks for another exemption of the same kind. -/

/-- The request body; the proof fields are the bounds of its schema. -/
structure CreateExemptionRequest where
  participantId : UUID
  examReference : String
  objectClass : String
  approvalReason : String
  effectiveAt : DateTime
  expiresAt : Option DateTime
  examReferenceLength : 1 ≤ examReference.length ∧ examReference.length ≤ 512
  objectClassLength : 1 ≤ objectClass.length ∧ objectClass.length ≤ 128
  approvalReasonLength : 1 ≤ approvalReason.length

inductive ExemptionError where
  | expiresAt
  | constraint
deriving DecidableEq, Repr

/-- `create_exemption`. The dates are checked here and the participant by its foreign key. -/
def createExemption (db : Database) (request : CreateExemptionRequest) (approver : AdminUser)
    (id : UUID) : Except ExemptionError Database :=
  if h : ∀ e ∈ request.expiresAt, request.effectiveAt < e then
    if ∃ p ∈ db.participants.rows, p.id = request.participantId then
      match db.accommodationExemptions.insert?
        { id := id
          participantId := request.participantId
          examReference := request.examReference
          objectClass := request.objectClass
          approvedBy := approver.lmsUserReference
          approvedByAdminId := some approver.id
          approvalReason := request.approvalReason
          effectiveAt := request.effectiveAt
          expiresAt := request.expiresAt
          expiryAfterEffective := h } with
      | none => .error .constraint
      | some t => .ok { db with accommodationExemptions := t }
    else .error .constraint
  else .error .expiresAt

theorem createExemption_eq_self_iff {db : Database} {request : CreateExemptionRequest}
    {approver : AdminUser} {id : UUID} :
    settle db (createExemption db request approver id) = db ↔
      ¬ ((∀ e ∈ request.expiresAt, request.effectiveAt < e) ∧
        (∃ p ∈ db.participants.rows, p.id = request.participantId) ∧
        ∀ x ∈ db.accommodationExemptions.rows, x.id ≠ id) := by
  unfold createExemption
  split
  · rename_i hexpiry
    split
    · rename_i hparticipant
      split
      · rename_i hnone
        obtain ⟨x, hx, hid⟩ := Table.insert?_eq_none_iff.mp hnone
        exact iff_of_true rfl fun h => h.2.2 x hx hid
      · rename_i t ht
        refine iff_of_false ?_ fun h => h ⟨hexpiry, hparticipant, ?_⟩
        · intro h
          exact Table.ne_of_insert? ht (congrArg Database.accommodationExemptions h)
        · exact (Table.insert?_eq_some_iff.mp ht).1
    · rename_i hparticipant
      exact iff_of_true rfl fun h => hparticipant h.2.1
  · rename_i hexpiry
    exact iff_of_true rfl fun h => hexpiry h.1

/-! ## 3. Reviews -/

inductive ReviewError where
  /-- The flag, or its session, does not exist. -/
  | flagNotFound
  | integrity
deriving DecidableEq, Repr

/-- `record_proctor_review`. -/
def recordProctorReview (db : Database) (flagId : UUID) (decision : ReviewDecision)
    (notes : Option String) (reviewer : AdminUser) (id : UUID) : Except ReviewError Database :=
  match readReview db flagId with
  | none => .error .flagNotFound
  | some session =>
    match commitReview db session
      ⟨id, flagId, reviewer.lmsUserReference, some reviewer.id, decision, notes⟩ with
    | none => .error .integrity
    | some db' => .ok db'

theorem commitReview_ne {db db' : Database} {session : ExamSession} {review : ProctorReview}
    (h : commitReview db session review = some db') : db' ≠ db := by
  rintro rfl
  obtain ⟨t, ht, ⟨-, hdb⟩ | ⟨target, -, hdb⟩⟩ := commitReview_cases h
  all_goals exact Table.ne_of_insert? ht (congrArg Database.proctorReviews hdb).symm

theorem recordProctorReview_eq_self_iff {db : Database} {flagId : UUID}
    {decision : ReviewDecision} {notes : Option String} {reviewer : AdminUser} {id : UUID} :
    settle db (recordProctorReview db flagId decision notes reviewer id) = db ↔
      ¬ ((∃ flag, db.getFlag flagId = some flag ∧ (db.getExamSession flag.examSessionId).isSome) ∧
        ∀ x ∈ db.proctorReviews.rows, x.id ≠ id) := by
  have hread : (∃ flag, db.getFlag flagId = some flag ∧
      (db.getExamSession flag.examSessionId).isSome) ↔ (readReview db flagId).isSome := by
    simp [readReview, Option.isSome_bind, Option.any_eq_true]
  rw [hread]
  unfold recordProctorReview
  cases hsession : readReview db flagId with
  | none => exact iff_of_true rfl fun h => absurd h.1 (by simp)
  | some session =>
    have haccepted : (commitReview db session
        ⟨id, flagId, reviewer.lmsUserReference, some reviewer.id, decision, notes⟩).isSome ↔
          ∀ x ∈ db.proctorReviews, x.id ≠ id := commitReview_isSome_iff
    dsimp only
    cases hcommit : commitReview db session
      ⟨id, flagId, reviewer.lmsUserReference, some reviewer.id, decision, notes⟩ with
    | none =>
      rw [hcommit] at haccepted
      exact iff_of_true rfl fun h => absurd (haccepted.mpr h.2) (by simp)
    | some db' =>
      rw [hcommit] at haccepted
      exact iff_of_false (commitReview_ne hcommit) fun h => h ⟨rfl, haccepted.mp rfl⟩

/-! ## 4. Overrides

Load and commit of one decision, so that the row is as it was loaded. -/

/-- The commit that follows a load at once. -/
def decideNow (db : Database) :
    Except OverrideError OverrideDecision → Except OverrideError Database
  | .error e => .error e
  | .ok d =>
    match d.commit db with
    | none => .error .integrity
    | some db' => .ok db'

/-- `approve_identity_override_request`. -/
def approveIdentityOverrideRequest (db : Database) (id : UUID) (admin : AdminUser)
    (now : DateTime) : Except OverrideError Database :=
  decideNow db (readApproval db id admin now)

/-- `reject_identity_override_request`. -/
def rejectIdentityOverrideRequest (db : Database) (id : UUID) (admin : AdminUser)
    (now : DateTime) : Except OverrideError Database :=
  decideNow db (readRejection db id admin now)

section
variable {db : Database} {request : CreateIdentityOverrideRequest} {admin : AdminUser}
  {id : UUID} {now : DateTime} {d : OverrideDecision} {row : OverrideRow}

theorem hasAdmin_of_mem (h : admin ∈ db.adminUsers) : db.hasAdmin admin.id = true := by
  simpa [Database.hasAdmin] using ⟨admin, h, rfl⟩

theorem createIdentityOverrideRequest_eq_self_iff (hadmin : admin ∈ db.adminUsers) :
    settle db (createIdentityOverrideRequest db request admin id) = db ↔
      ¬ ((db.getExamSession request.examSessionId).isSome ∧
        request.validFrom < request.validUntil ∧ ∀ x ∈ db.identityOverrides.rows, x.id ≠ id) := by
  unfold createIdentityOverrideRequest
  split
  · rename_i hnone
    exact iff_of_true rfl fun h => absurd h.1 (by simpa using hnone)
  rename_i hsome
  split
  · rename_i huntil
    rw [if_pos (hasAdmin_of_mem hadmin)]
    split
    · rename_i hnone
      obtain ⟨x, hx, hid⟩ := Table.insert?_eq_none_iff.mp hnone
      exact iff_of_true rfl fun h => h.2.2 x hx hid
    · rename_i t ht
      refine iff_of_false ?_ fun h => h ⟨?_, huntil, ?_⟩
      · intro h
        exact Table.ne_of_insert? ht (congrArg Database.identityOverrides h)
      · simpa [Option.isSome_iff_ne_none] using hsome
      · exact (Table.insert?_eq_some_iff.mp ht).1
  · rename_i huntil
    exact iff_of_true rfl fun h => huntil h.2.1

/-- The decision the row has had already. -/
def Stands (verdict : Verdict) (admin : AdminUser) (now : DateTime) (row : OverrideRow) : Prop :=
  row.status = verdict.status ∧ row.approvedByAdminId = some admin.id ∧ row.decidedAt = some now

/-- A decision on the row it loaded changes it unless it stands. -/
theorem commit_eq_self_iff (hadmin : d.admin ∈ db.adminUsers)
    (hloaded : d.loaded ∈ db.identityOverrides) :
    settle db (decideNow db (.ok d)) = db ↔ Stands d.verdict d.admin d.now d.loaded := by
  -- The write changes a column unless it holds the value already.
  have hwrite : d.write d.loaded = d.loaded ↔ Stands d.verdict d.admin d.now d.loaded := by
    simp only [OverrideDecision.write, Stands]
    constructor
    · intro h
      have hstatus := congrArg (·.status) h
      have happroved := congrArg (·.approvedByAdminId) h
      have hdecidedAt := congrArg (·.decidedAt) h
      simp only [ite_eq_left_iff] at hstatus happroved hdecidedAt
      refine ⟨?_, ?_, ?_⟩
      · by_contra hne
        exact hne (hstatus hne).symm
      · by_contra hne
        exact hne (happroved hne).symm
      · by_contra hne
        exact hne (hdecidedAt hne).symm
    · rintro ⟨hstatus, happroved, hdecidedAt⟩
      rw [if_pos hstatus, if_pos happroved, if_pos hdecidedAt]
  have htable := Table.updateWhere_eq_self_iff (t := db.identityOverrides)
    (p := fun r => r.id = d.loaded.id) (f := d.write) (fun _ _ h => h) fun _ _ h => h
  rw [← hwrite]
  simp only [decideNow, OverrideDecision.commit, hasAdmin_of_mem hadmin, if_true, settle_ok]
  constructor
  · intro h
    exact htable.mp (congrArg Database.identityOverrides h) d.loaded hloaded (by simp)
  · intro h
    have hsame := htable.mpr fun r hr hid => by
      rw [Overrides.eq_of_id hr hloaded (by simpa using hid), h]
    rw [hsame]

theorem approve_eq_self_iff (hadmin : admin ∈ db.adminUsers) :
    settle db (approveIdentityOverrideRequest db id admin now) = db ↔
      ∀ row ∈ db.identityOverrides, row.id = id → admin.role = .head →
        admin.id ≠ row.requestedByAdminId → Stands .approve admin now row := by
  unfold approveIdentityOverrideRequest readApproval
  cases hget : db.getOverride id with
  | none =>
    apply iff_of_true rfl
    intro row hrow hid
    exact absurd (Overrides.getOverride_eq_some_iff.mpr ⟨hrow, hid⟩) (by simp [hget])
  | some loaded =>
    obtain ⟨hloaded, hid⟩ := Overrides.getOverride_eq_some_iff.mp hget
    -- An id names one row, the one that was loaded.
    have hall : (∀ row ∈ db.identityOverrides, row.id = id → admin.role = .head →
        admin.id ≠ row.requestedByAdminId → Stands .approve admin now row) ↔
        (admin.role = .head → admin.id ≠ loaded.requestedByAdminId →
          Stands .approve admin now loaded) := by
      refine ⟨fun h => h loaded hloaded hid, ?_⟩
      intro h row hrow hrowId
      rwa [Overrides.eq_of_id hrow hloaded (hrowId.trans hid.symm)]
    rw [hall]
    by_cases hrole : admin.role = .head
    · by_cases hother : admin.id = loaded.requestedByAdminId
      · simp [hrole, hother, decideNow]
      · simp only [hrole, hother, ne_eq, not_true_eq_false, if_false, not_false_eq_true,
          true_implies]
        exact commit_eq_self_iff (d := ⟨.approve, admin, loaded, now⟩) hadmin hloaded
    · simp [hrole, decideNow]

theorem reject_eq_self_iff (hadmin : admin ∈ db.adminUsers) :
    settle db (rejectIdentityOverrideRequest db id admin now) = db ↔
      ∀ row ∈ db.identityOverrides, row.id = id → Stands .reject admin now row := by
  unfold rejectIdentityOverrideRequest readRejection
  cases hget : db.getOverride id with
  | none =>
    apply iff_of_true rfl
    intro row hrow hid
    exact absurd (Overrides.getOverride_eq_some_iff.mpr ⟨hrow, hid⟩) (by simp [hget])
  | some loaded =>
    obtain ⟨hloaded, hid⟩ := Overrides.getOverride_eq_some_iff.mp hget
    rw [commit_eq_self_iff (d := ⟨.reject, admin, loaded, now⟩) hadmin hloaded]
    refine ⟨?_, fun h => h loaded hloaded hid⟩
    intro h row hrow hrowId
    rwa [Overrides.eq_of_id hrow hloaded (hrowId.trans hid.symm)]

end

/-! ## 5. Roles -/

inductive RoleError where
  | ownRole
  | headRequired
  | adminRequired
  | notFound
  | integrity
deriving DecidableEq, Repr

/-- `update_admin_user_role`. Three guards on the caller, then the lookup; the role and its audit
    row are one commit. -/
def updateAdminUserRole (db : Database) (targetAdminId : UUID) (newRole : AdminRole)
    (caller : AdminUser) (reason : Option String) (auditId : UUID) : Except RoleError Database :=
  if caller.id = targetAdminId then .error .ownRole
  else if newRole = .head ∧ caller.role ≠ .head then .error .headRequired
  else if caller.role ≠ .admin ∧ caller.role ≠ .head then .error .adminRequired
  else
    match db.adminUsers.find? fun a => a.id = targetAdminId with
    | none => .error .notFound
    | some target =>
      match db.adminRoleAudits.insert?
        ⟨auditId, targetAdminId, caller.id, target.role, newRole, reason⟩ with
      | none => .error .integrity
      | some audits =>
        .ok { db with
          adminUsers := db.adminUsers.updateWhere (·.id = targetAdminId)
            (fun a => { a with role := newRole }) (fun _ _ h => h) fun _ _ h => h
          adminRoleAudits := audits }

/-- Who may give a role to whom. -/
def MayGrant (caller : AdminUser) (targetAdminId : UUID) (newRole : AdminRole) : Prop :=
  caller.id ≠ targetAdminId ∧ (caller.role = .admin ∨ caller.role = .head) ∧
    (newRole = .head → caller.role = .head)

theorem updateAdminUserRole_eq_self_iff {db : Database} {targetAdminId : UUID}
    {newRole : AdminRole} {caller : AdminUser} {reason : Option String} {auditId : UUID} :
    settle db (updateAdminUserRole db targetAdminId newRole caller reason auditId) = db ↔
      ¬ (MayGrant caller targetAdminId newRole ∧
        (∃ a ∈ db.adminUsers.rows, a.id = targetAdminId) ∧
        ∀ x ∈ db.adminRoleAudits.rows, x.id ≠ auditId) := by
  -- The guards come in the order of the service: own role, HEAD grants, role, then the lookup.
  unfold updateAdminUserRole
  split
  · rename_i hown
    exact iff_of_true rfl fun h => h.1.1 hown
  rename_i hown
  split
  · rename_i hhead
    exact iff_of_true rfl fun h => hhead.2 (h.1.2.2 hhead.1)
  rename_i hhead
  split
  · rename_i hrole
    exact iff_of_true rfl fun h => h.1.2.1.elim hrole.1 hrole.2
  rename_i hrole
  have hgrant : MayGrant caller targetAdminId newRole := by
    refine ⟨hown, ?_, ?_⟩
    · by_contra hno
      exact hrole ⟨fun h => hno (.inl h), fun h => hno (.inr h)⟩
    · intro hnew
      by_contra hno
      exact hhead ⟨hnew, hno⟩
  split
  · rename_i hnone
    apply iff_of_true rfl
    intro h
    obtain ⟨a, ha, hid⟩ := h.2.1
    exact Table.find?_eq_none_iff.mp hnone a ha (by simpa using hid)
  · rename_i target htarget
    split
    · rename_i hnone
      obtain ⟨x, hx, hid⟩ := Table.insert?_eq_none_iff.mp hnone
      exact iff_of_true rfl fun h => h.2.2 x hx hid
    -- The audit row is new, so the database differs even where the role is the old one.
    · rename_i audits haudits
      refine iff_of_false ?_ fun h => h ⟨hgrant, ?_, ?_⟩
      · intro h
        exact Table.ne_of_insert? haudits (congrArg Database.adminRoleAudits h)
      · exact ⟨target, Table.mem_of_find?_eq_some htarget,
          by simpa using Table.of_find?_eq_some htarget⟩
      · exact (Table.insert?_eq_some_iff.mp haudits).1

end ProctorEngine
