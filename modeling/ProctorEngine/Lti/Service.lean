import ProctorEngine.Lti.SessionToken

/-!
# Processing a launch

`process_launch` turns a validated launch into rows, one transaction from its reads to the
commit of the route: the participant is found or inserted, an exam session is inserted with its
consent recorded, and a launch into the admin surface finds or inserts the administrator.

**The role of an administrator that is there already is only ever raised**, and by the table of
`_admin_role_for`, which has no entry for `HEAD`. Display names, the session token and the URL
of the redirect are left out: no row depends on them.
-/

set_option autoImplicit false

namespace ProctorEngine
namespace Lti

/-! ## 1. The launch -/

/-- What `process_launch` reads of the claim set. -/
structure LtiIdToken where
  issuer : String
  subject : String
  policyConfigName : Option String
  resourceLinkId : String
deriving DecidableEq, Repr

/-- The primary keys a launch draws. -/
structure LaunchIds where
  participant : UUID
  examSession : UUID
  adminUser : UUID
deriving DecidableEq, Repr

inductive LaunchFailure where
  /-- `LtiClaimsError`: no policy is named. -/
  | policyNameRequired
  | policyNotFound
  | integrity
deriving DecidableEq, Repr

/-- `require_policy_config_name`. -/
def requirePolicyConfigName (claims : LtiIdToken) : Option String :=
  claims.policyConfigName.filter (· ≠ "")

/-- `is_admin_route` -/
def isAdminRoute : AppRole → Bool
  | .admin | .instructor | .proctor => true
  | .learner => false

/-- `_admin_role_for` -/
def adminRoleFor : AppRole → AdminRole
  | .admin => .admin
  | .proctor => .proctor
  | .instructor | .learner => .instructor

/-- `_admin_role_privilege`, the table `_ADMIN_ROLE_PRIVILEGE`. -/
def adminRolePrivilege : AdminRole → Nat
  | .instructor => 1
  | .proctor => 2
  | .admin => 3
  | .head => 4

/-- Step 3: the participant under the natural key, and the table with them in it. -/
def upsertParticipant (db : Database) (claims : LtiIdToken) (id : UUID) :
    Option (Participant × Database) :=
  match db.participants.find? fun p => p.ltiIssuer = claims.issuer ∧
    p.lmsUserReference = claims.subject with
  | some participant => some (participant, db)
  | none =>
    (db.participants.insert? ⟨id, claims.issuer, claims.subject⟩).map fun participants =>
      (⟨id, claims.issuer, claims.subject⟩, { db with participants })

/-- `admin_user.role = …` for the administrator of an id. -/
def setAdminRole (db : Database) (id : UUID) (role : AdminRole) : Database :=
  { db with
    adminUsers := db.adminUsers.updateWhere (·.id = id) (fun a => { a with role := role })
      (fun _ _ h => h) fun _ _ h => h }

/-- Step 5. Only for a role that is let into the administration. A known administrator keeps a role
    that is as high as the new one. -/
def upsertAdminUser (db : Database) (claims : LtiIdToken) (role : AppRole) (id : UUID) :
    Option Database :=
  if isAdminRoute role then
    match db.adminUsers.find? fun a => a.ltiIssuer = claims.issuer ∧
      a.lmsUserReference = claims.subject with
    | some adminUser =>
      if adminRolePrivilege adminUser.role < adminRolePrivilege (adminRoleFor role) then
        some (setAdminRole db adminUser.id (adminRoleFor role))
      else some db
    | none =>
      (db.adminUsers.insert?
        ⟨id, claims.issuer, claims.subject, adminRoleFor role, none, none⟩).map
          fun adminUsers => { db with adminUsers }
  else some db

/-- What `process_launch` returns, with the database its commit leaves. -/
structure LaunchResult where
  participant : Participant
  examSession : ExamSession
  role : AppRole
  db : Database

/-- `process_launch`, and the commit after it. The policy is looked up by the name in the token.
    Participant, session and administrator are written in one transaction. -/
def processLaunch (db : Database) (claims : LtiIdToken) (role : AppRole) (ids : LaunchIds)
    (consentAt : DateTime) : Except LaunchFailure LaunchResult :=
  match requirePolicyConfigName claims with
  | none => .error .policyNameRequired
  | some policyName =>
    match db.policyConfigs.find? fun p => p.name = policyName ∧ p.Current with
    | none => .error .policyNotFound
    | some policy =>
      match upsertParticipant db claims ids.participant with
      | none => .error .integrity
      | some (participant, db₁) =>
        let examSession := ExamSession.launched ids.examSession participant.id policy.id
          claims.resourceLinkId consentAt
        match db₁.examSessions.insert? examSession with
        | none => .error .integrity
        | some examSessions =>
          match upsertAdminUser { db₁ with examSessions } claims role ids.adminUser with
          | none => .error .integrity
          | some db₂ => .ok ⟨participant, examSession, role, db₂⟩

/-- The database once a launch has committed or rolled back. -/
def launchCommitted (db : Database) (claims : LtiIdToken) (role : AppRole) (ids : LaunchIds)
    (consentAt : DateTime) : Database :=
  match processLaunch db claims role ids consentAt with
  | .error _ => db
  | .ok result => result.db

/-! ## 2. What a launch writes -/

/-- What a launch does to the administrators. -/
inductive AdminUpsert (db : Database) : Table AdminUser AdminUser.Clash → Prop
  | kept : AdminUpsert db db.adminUsers
  | raised (a : AdminUser) (role : AdminRole) (mem : a ∈ db.adminUsers) (notHead : role ≠ .head)
      (higher : adminRolePrivilege a.role < adminRolePrivilege role) :
      AdminUpsert db (setAdminRole db a.id role).adminUsers
  | joined (a : AdminUser) (users : Table AdminUser AdminUser.Clash) (notHead : a.role ≠ .head)
      (inserted : db.adminUsers.insert? a = some users) : AdminUpsert db users

section
variable {db db' : Database} {claims : LtiIdToken} {role : AppRole} {ids : LaunchIds} {id : UUID}
  {consentAt : DateTime}

theorem adminRoleFor_ne_head : adminRoleFor role ≠ .head := by
  cases role with
  | learner => simp [adminRoleFor]
  | instructor => simp [adminRoleFor]
  | admin => simp [adminRoleFor]
  | proctor => simp [adminRoleFor]

theorem upsertParticipant_cases {p : Participant}
    (h : upsertParticipant db claims id = some (p, db')) :
    ∃ participants, db' = { db with participants } := by
  unfold upsertParticipant at h
  split at h
  · obtain ⟨-, rfl⟩ := Prod.mk.inj (Option.some.inj h)
    exact ⟨db.participants, rfl⟩
  · obtain ⟨participants, -, heq⟩ := Option.map_eq_some_iff.mp h
    obtain ⟨-, rfl⟩ := Prod.mk.inj heq
    exact ⟨participants, rfl⟩

theorem upsertAdminUser_cases (h : upsertAdminUser db claims role id = some db') :
    ∃ adminUsers, db' = { db with adminUsers } ∧ AdminUpsert db adminUsers := by
  unfold upsertAdminUser at h
  split at h
  · split at h
    · rename_i a hfind
      have hmem : a ∈ db.adminUsers := Table.mem_of_find?_eq_some hfind
      split at h
      · rename_i hhigher
        obtain rfl := Option.some.inj h
        exact ⟨_, rfl, .raised a (adminRoleFor role) hmem adminRoleFor_ne_head hhigher⟩
      · obtain rfl := Option.some.inj h
        exact ⟨_, rfl, .kept⟩
    · obtain ⟨users, hinsert, rfl⟩ := Option.map_eq_some_iff.mp h
      exact ⟨users, rfl, .joined _ users adminRoleFor_ne_head hinsert⟩
  · obtain rfl := Option.some.inj h
    exact ⟨_, rfl, .kept⟩

/-- **All a launch writes**: a participant perhaps, a session with its consent, and a row of the
    administrators perhaps. -/
theorem launchCommitted_cases :
    launchCommitted db claims role ids consentAt = db ∨
      ∃ participantId policyId participants examSessions adminUsers,
        launchCommitted db claims role ids consentAt =
          { db with participants, examSessions, adminUsers } ∧
        db.examSessions.insert? (.launched ids.examSession participantId policyId
          claims.resourceLinkId consentAt) = some examSessions ∧
        AdminUpsert db adminUsers := by
  unfold launchCommitted
  cases hlaunch : processLaunch db claims role ids consentAt with
  | error e => exact .inl rfl
  | ok result =>
    refine .inr ?_
    -- A refusal anywhere commits nothing: the policy's name, its row, participant, session,
    -- administrator.
    unfold processLaunch at hlaunch
    split at hlaunch
    · exact absurd hlaunch (by simp)
    · split at hlaunch
      · exact absurd hlaunch (by simp)
      · rename_i policy _
        split at hlaunch
        · exact absurd hlaunch (by simp)
        · rename_i participant db₁ hparticipant
          obtain ⟨participants, rfl⟩ := upsertParticipant_cases hparticipant
          dsimp only at hlaunch
          split at hlaunch
          · exact absurd hlaunch (by simp)
          · rename_i examSessions hinsert
            split at hlaunch
            · exact absurd hlaunch (by simp)
            · rename_i db₂ hadmin
              obtain ⟨adminUsers, rfl, hupsert⟩ := upsertAdminUser_cases hadmin
              obtain rfl := Except.ok.inj hlaunch
              refine ⟨participant.id, policy.id, participants, examSessions, adminUsers, rfl,
                hinsert, ?_⟩
              cases hupsert with
              | kept => exact .kept
              | raised a role mem notHead higher => exact .raised a role mem notHead higher
              | joined a users notHead inserted => exact .joined a _ notHead inserted

end

end Lti
end ProctorEngine
