import ProctorEngine.Lib.Run
import ProctorEngine.Lti.Service
import ProctorEngine.Orchestration.AdminService

/-!
# Who becomes HEAD

The role column has two writers. A launch raises a role by `_admin_role_for`, which knows no
`HEAD`; `update_admin_user_role` sets any role, guarded by the role of its caller. **Over every
sequence of the two, whoever holds `HEAD` and did not hold it at the start was made `HEAD` by
somebody else who held it then**, and the audit table grows by one row for every call that goes
through, with the roles the target had before and after it.

The guard alone does not say so: it looks at the caller's role, and the caller's role is what
earlier steps left there. The induction is on the run, backwards from the last step.
-/

set_option autoImplicit false

namespace ProctorEngine

open Lti

/-- `db.get(AdminUser, id)`. -/
def Database.getAdminUser (db : Database) (id : UUID) : Option AdminUser :=
  db.adminUsers.find? fun a => a.id = id

theorem Database.getAdminUser_eq_some_iff {db : Database} {id : UUID} {a : AdminUser} :
    db.getAdminUser id = some a ↔ a ∈ db.adminUsers ∧ a.id = id := by
  unfold Database.getAdminUser
  rw [Table.find?_eq_some_iff]
  · simp
  · intro a b ha hb
    simp only [decide_eq_true_eq] at ha hb
    exact .inl (ha.trans hb.symm)

/-! ## 1. The two writers

A step is a call of `update_admin_user_role` by the administrator of some id, or a launch. -/

inductive RoleStep where
  | launch (claims : LtiIdToken) (role : AppRole) (ids : LaunchIds) (consentAt : DateTime)
  /-- `update_admin_user_role`, the caller by the id of their row. -/
  | update (targetAdminId : UUID) (newRole : AdminRole) (callerId : UUID)
      (reason : Option String) (auditId : UUID)
deriving DecidableEq

namespace RoleStep

def IsUpdate : RoleStep → Prop
  | .launch _ _ _ _ => False
  | .update _ _ _ _ _ => True

/-- What a call leaves, if it goes through. -/
def updated (db : Database) (targetAdminId : UUID) (newRole : AdminRole) (callerId : UUID)
    (reason : Option String) (auditId : UUID) : Option Database :=
  (db.getAdminUser callerId).bind fun caller =>
    (updateAdminUserRole db targetAdminId newRole caller reason auditId).toOption

def step (db : Database) : RoleStep → Database
  | .launch claims role ids consentAt => launchCommitted db claims role ids consentAt
  | .update target newRole caller reason auditId =>
    (updated db target newRole caller reason auditId).getD db

@[simp] theorem step_launch {db : Database} {claims : LtiIdToken} {role : AppRole}
    {ids : LaunchIds} {consentAt : DateTime} :
    step db (.launch claims role ids consentAt) = launchCommitted db claims role ids consentAt :=
  rfl

@[simp] theorem step_update {db : Database} {target callerId auditId : UUID}
    {newRole : AdminRole} {reason : Option String} :
    step db (.update target newRole callerId reason auditId) =
      (updated db target newRole callerId reason auditId).getD db := rfl

/-- The administrator of the id holds `HEAD`. -/
def HoldsHead (id : UUID) (db : Database) : Prop :=
  ∃ a ∈ db.adminUsers, a.id = id ∧ a.role = .head

/-- Another administrator, who holds `HEAD`, makes this one `HEAD`. -/
def MadeHead (id : UUID) (db : Database) (s : RoleStep) : Prop :=
  ∃ caller reason auditId, s = .update id .head caller reason auditId ∧ caller ≠ id ∧
    HoldsHead caller db ∧ (updated db id .head caller reason auditId).isSome

/-- The audit row a step should leave: of a call that goes through, with the roles its target
    held before and holds after. -/
def trueAudit (db : Database) : RoleStep → Option AdminRoleAudit
  | .launch _ _ _ _ => none
  | .update target newRole caller reason auditId =>
    (updated db target newRole caller reason auditId).bind fun after =>
      (db.getAdminUser target).bind fun previous =>
        (after.getAdminUser target).map fun new =>
          ⟨auditId, target, caller, previous.role, new.role, reason⟩

/-- Whoever's role a call changes has it in the row the call leaves. -/
def Audited (db : Database) (s : RoleStep) : Prop :=
  s.IsUpdate → ∀ a ∈ db.adminUsers, ∀ a' ∈ (step db s).adminUsers, a.id = a'.id →
    a.role ≠ a'.role → ∃ row, trueAudit db s = some row ∧ row.targetAdminId = a.id ∧
      row.previousRole = a.role ∧ row.newRole = a'.role

/-- A launch lowers nobody's role, and makes nobody `HEAD`. -/
def LaunchSafe (db : Database) (s : RoleStep) : Prop :=
  ¬ s.IsUpdate → (∀ a ∈ db.adminUsers, ∃ a' ∈ (step db s).adminUsers, a'.id = a.id ∧
      adminRolePrivilege a.role ≤ adminRolePrivilege a'.role) ∧
    ∀ id, HoldsHead id (step db s) → HoldsHead id db

/-! ## 2. What a call does

A call that goes through writes one role and one audit row, and passed the guard; any other leaves
the database. -/

section
variable {db db' after : Database} {target id callerId auditId : UUID} {newRole : AdminRole}
  {caller : AdminUser} {reason : Option String} {s : RoleStep} {steps : List RoleStep}

theorem eq_of_id {a b : AdminUser} (ha : a ∈ db.adminUsers) (hb : b ∈ db.adminUsers)
    (h : a.id = b.id) : a = b := Table.eq_of_clash ha hb (.inl h)

theorem mem_setAdminRole {role : AdminRole} {a : AdminUser} :
    a ∈ (setAdminRole db id role).adminUsers ↔
      (a ∈ db.adminUsers ∧ a.id ≠ id) ∨
        ∃ old ∈ db.adminUsers, old.id = id ∧ { old with role := role } = a := by
  have hmem : a ∈ (setAdminRole db id role).adminUsers ↔
      (a ∈ db.adminUsers ∧ ¬ decide (a.id = id) = true) ∨
        ∃ old ∈ db.adminUsers, decide (old.id = id) = true ∧ { old with role := role } = a :=
    Table.mem_updateWhere (f := fun x : AdminUser => { x with role := role })
      (fun _ _ h => h) fun _ _ h => h
  simpa using hmem

/-- A call that goes through: its caller may make it, and it writes the role and one row. -/
theorem updateAdminUserRole_cases
    (h : updateAdminUserRole db target newRole caller reason auditId = .ok db') :
    MayGrant caller target newRole ∧ ∃ old audits, db.getAdminUser target = some old ∧
      db.adminRoleAudits.insert? ⟨auditId, target, caller.id, old.role, newRole, reason⟩ =
        some audits ∧
      db' = { setAdminRole db target newRole with adminRoleAudits := audits } := by
  unfold updateAdminUserRole at h
  split at h
  · exact absurd h (by simp)
  rename_i hown
  split at h
  · exact absurd h (by simp)
  rename_i hhead
  split at h
  · exact absurd h (by simp)
  rename_i hrole
  -- Past the three guards the caller may give the role.
  have hgrant : MayGrant caller target newRole := by
    refine ⟨hown, ?_, ?_⟩
    · by_contra hno
      exact hrole ⟨fun h => hno (.inl h), fun h => hno (.inr h)⟩
    · intro hnew
      by_contra hno
      exact hhead ⟨hnew, hno⟩
  split at h
  · exact absurd h (by simp)
  · rename_i old hfind
    split at h
    · exact absurd h (by simp)
    · rename_i audits hinsert
      exact ⟨hgrant, old, audits, hfind, hinsert, (Except.ok.inj h).symm⟩

theorem updated_cases (h : updated db target newRole callerId reason auditId = some after) :
    ∃ caller old audits, caller ∈ db.adminUsers ∧ caller.id = callerId ∧
      MayGrant caller target newRole ∧ db.getAdminUser target = some old ∧
      db.adminRoleAudits.insert? ⟨auditId, target, callerId, old.role, newRole, reason⟩ =
        some audits ∧
      after = { setAdminRole db target newRole with adminRoleAudits := audits } := by
  obtain ⟨caller, hcaller, hok⟩ := Option.bind_eq_some_iff.mp h
  obtain ⟨hmem, rfl⟩ := Database.getAdminUser_eq_some_iff.mp hcaller
  have hupdate : updateAdminUserRole db target newRole caller reason auditId = .ok after := by
    cases hresult : updateAdminUserRole db target newRole caller reason auditId with
    | error e => simp [hresult, Except.toOption] at hok
    | ok db' =>
      rw [hresult] at hok
      exact congrArg Except.ok (Option.some.inj hok)
  obtain ⟨hgrant, old, audits, hold, hinsert, hafter⟩ := updateAdminUserRole_cases hupdate
  exact ⟨caller, old, audits, hmem, rfl, hgrant, hold, hinsert, hafter⟩

/-- Who holds `HEAD` after a call held it before, or is its target. -/
theorem holdsHead_of_updated
    (h : updated db target newRole callerId reason auditId = some after)
    (hhead : HoldsHead id after) :
    HoldsHead id db ∨ (id = target ∧ newRole = .head) := by
  obtain ⟨caller, old, audits, -, -, -, -, -, rfl⟩ := updated_cases h
  obtain ⟨a, ha, hid, hrole⟩ := hhead
  rcases mem_setAdminRole.mp ha with ⟨hmem, -⟩ | ⟨before, -, hbefore, rfl⟩
  · exact .inl ⟨a, hmem, hid, hrole⟩
  · exact .inr ⟨hid.symm.trans hbefore, hrole⟩

/-- The roles of the target, before and after. -/
theorem trueAudit_of_updated
    (h : updated db target newRole callerId reason auditId = some after) :
    ∃ old, db.getAdminUser target = some old ∧
      trueAudit db (.update target newRole callerId reason auditId) =
        some ⟨auditId, target, callerId, old.role, newRole, reason⟩ := by
  obtain ⟨caller, old, audits, -, -, -, hold, -, rfl⟩ := updated_cases h
  refine ⟨old, hold, ?_⟩
  have hnew : Database.getAdminUser
      { setAdminRole db target newRole with adminRoleAudits := audits } target =
        some { old with role := newRole } := by
    obtain ⟨hmem, hid⟩ := Database.getAdminUser_eq_some_iff.mp hold
    exact Database.getAdminUser_eq_some_iff.mpr
      ⟨mem_setAdminRole.mpr (.inr ⟨old, hmem, hid, rfl⟩), hid⟩
  simp only [trueAudit, h, hold, Option.bind_some, hnew, Option.map_some]

theorem adminRoleAudits_of_updated
    (h : updated db target newRole callerId reason auditId = some after) :
    after.adminRoleAudits.rows = db.adminRoleAudits.rows ++
      (trueAudit db (.update target newRole callerId reason auditId)).toList := by
  obtain ⟨old', hold', haudit⟩ := trueAudit_of_updated h
  obtain ⟨caller, old, audits, -, -, -, hold, hinsert, rfl⟩ := updated_cases h
  obtain rfl := Option.some.inj (hold'.symm.trans hold)
  rw [haudit]
  exact (Table.insert?_eq_some_iff.mp hinsert).2

theorem trueAudit_of_not_updated
    (h : updated db target newRole callerId reason auditId = none) :
    trueAudit db (.update target newRole callerId reason auditId) = none := by
  simp only [trueAudit, h, Option.bind_none]

/-! ## 3. What a launch does

`_admin_role_for` raises and never lowers, and stops short of `HEAD`. -/

theorem holdsHead_of_upsert {users : Table AdminUser AdminUser.Clash} (h : AdminUpsert db users)
    (hhead : ∃ a ∈ users, a.id = id ∧ a.role = .head) : HoldsHead id db := by
  obtain ⟨a, ha, hid, hrole⟩ := hhead
  cases h with
  | kept => exact ⟨a, ha, hid, hrole⟩
  | raised old role mem notHead higher =>
    rcases mem_setAdminRole.mp ha with ⟨hmem, -⟩ | ⟨before, -, -, rfl⟩
    · exact ⟨a, hmem, hid, hrole⟩
    · exact absurd hrole notHead
  | joined new users notHead inserted =>
    rcases (Table.mem_insert? inserted).mp ha with hmem | rfl
    · exact ⟨a, hmem, hid, hrole⟩
    · exact absurd hrole notHead

theorem privilege_of_upsert {users : Table AdminUser AdminUser.Clash} (h : AdminUpsert db users)
    {a : AdminUser} (ha : a ∈ db.adminUsers) :
    ∃ a' ∈ users, a'.id = a.id ∧ adminRolePrivilege a.role ≤ adminRolePrivilege a'.role := by
  cases h with
  | kept => exact ⟨a, ha, rfl, Nat.le_refl _⟩
  | raised old role mem notHead higher =>
    by_cases hid : a.id = old.id
    · obtain rfl := eq_of_id ha mem hid
      exact ⟨_, mem_setAdminRole.mpr (.inr ⟨a, ha, rfl, rfl⟩), rfl, Nat.le_of_lt higher⟩
    · exact ⟨a, mem_setAdminRole.mpr (.inl ⟨ha, hid⟩), rfl, Nat.le_refl _⟩
  | joined new users notHead inserted =>
    exact ⟨a, (Table.mem_insert? inserted).mpr (.inl ha), rfl, Nat.le_refl _⟩

theorem launchSafe : LaunchSafe db s := by
  intro hlaunch
  cases s with
  | update target newRole callerId reason auditId => exact absurd trivial hlaunch
  | launch claims role ids consentAt =>
    rw [step_launch]
    rcases launchCommitted_cases with heq | ⟨_, _, _, _, users, heq, -, hupsert⟩
    · rw [heq]
      exact ⟨fun a ha => ⟨a, ha, rfl, Nat.le_refl _⟩, fun id hhead => hhead⟩
    · rw [heq]
      exact ⟨fun a ha => privilege_of_upsert hupsert ha,
        fun id hhead => holdsHead_of_upsert hupsert hhead⟩

/-! ## 4. One step

The three properties of a step, from the two writers. -/

/-- **Nobody becomes `HEAD` but through somebody else who is.** -/
theorem holdsHead_of_step (h : HoldsHead id (step db s)) :
    HoldsHead id db ∨ MadeHead id db s := by
  cases s with
  | launch claims role ids consentAt =>
    have hlaunch : ¬ (launch claims role ids consentAt).IsUpdate := fun hupdate => hupdate
    exact .inl ((launchSafe hlaunch).2 id h)
  | update target newRole callerId reason auditId =>
    rw [step_update] at h
    cases hupdated : updated db target newRole callerId reason auditId with
    | none =>
      rw [hupdated] at h
      exact .inl h
    | some after =>
      rw [hupdated] at h
      rcases holdsHead_of_updated hupdated h with hbefore | ⟨rfl, rfl⟩
      · exact .inl hbefore
      · obtain ⟨caller, -, -, hmem, rfl, hgrant, -⟩ := updated_cases hupdated
        refine .inr ⟨caller.id, reason, auditId, rfl, hgrant.1, ?_, ?_⟩
        · exact ⟨caller, hmem, rfl, hgrant.2.2 rfl⟩
        · rw [hupdated]
          rfl

theorem audited : Audited db s := by
  intro hupdate a ha a' ha' hid hne
  cases s with
  | launch claims role ids consentAt => exact absurd hupdate id
  | update target newRole callerId reason auditId =>
    rw [step_update] at ha'
    cases hupdated : updated db target newRole callerId reason auditId with
    | none =>
      rw [hupdated] at ha'
      exact absurd (congrArg AdminUser.role (eq_of_id ha ha' hid)) hne
    | some after =>
      rw [hupdated] at ha'
      obtain ⟨old, hold, haudit⟩ := trueAudit_of_updated hupdated
      obtain ⟨hmem, hold⟩ := Database.getAdminUser_eq_some_iff.mp hold
      obtain ⟨_, _, _, -, -, -, -, -, rfl⟩ := updated_cases hupdated
      refine ⟨_, haudit, ?_⟩
      rcases mem_setAdminRole.mp ha' with ⟨hmem', -⟩ | ⟨before, -, hbefore, rfl⟩
      · exact absurd (congrArg AdminUser.role (eq_of_id ha hmem' hid)) hne
      · have htarget : a.id = target := hid.trans hbefore
        obtain rfl := eq_of_id ha hmem (htarget.trans hold.symm)
        exact ⟨htarget.symm, rfl, rfl⟩

theorem adminRoleAudits_step :
    (step db s).adminRoleAudits.rows = db.adminRoleAudits.rows ++ (trueAudit db s).toList := by
  cases s with
  | launch claims role ids consentAt =>
    have hsame : (launchCommitted db claims role ids consentAt).adminRoleAudits =
        db.adminRoleAudits := by
      rcases launchCommitted_cases with heq | ⟨_, _, _, _, _, heq, -, -⟩
      · rw [heq]
      · rw [heq]
    exact (congrArg Table.rows hsame).trans (List.append_nil _).symm
  | update target newRole callerId reason auditId =>
    rw [step_update]
    cases hupdated : updated db target newRole callerId reason auditId with
    | none =>
      rw [trueAudit_of_not_updated hupdated]
      exact (List.append_nil _).symm
    | some after => exact adminRoleAudits_of_updated hupdated

/-! ## 5. Every run

The audit rows of a run are those of its steps in order. Whoever holds `HEAD` at the end and not at
the start got it at some step, and that step is found by going back. -/

/-- One row for every call that went through, in the order of the calls, and no other. -/
theorem adminRoleAudits_run :
    (Run.final step db steps).adminRoleAudits.rows = db.adminRoleAudits.rows ++
      (Run.trace step db steps).filterMap fun x => trueAudit x.1 x.2 := by
  induction steps generalizing db with
  | nil => simp
  | cons s steps ih =>
    rw [Run.final_cons, ih, adminRoleAudits_step, Run.trace_cons, List.filterMap_cons,
      List.append_assoc]
    cases trueAudit db s with
    | none => rfl
    | some row => rfl

/-- Going back from the last step to the one that made the administrator `HEAD`. -/
theorem madeHead_of_run (h : HoldsHead id (Run.final step db steps)) (hnot : ¬ HoldsHead id db) :
    ∃ pre s post, steps = pre ++ s :: post ∧ ¬ HoldsHead id (Run.final step db pre) ∧
      MadeHead id (Run.final step db pre) s ∧
      Run.Always step (HoldsHead id) (Run.final step db (pre ++ [s])) post := by
  induction steps using List.reverseRecOn with
  | nil => exact absurd h hnot
  | append_singleton steps last ih =>
    rw [Run.final_append] at h
    by_cases hbefore : HoldsHead id (Run.final step db steps)
    · obtain ⟨pre, s, post, rfl, hpre, hmade, halways⟩ := ih hbefore
      refine ⟨pre, s, post ++ [last], by simp, hpre, hmade, ?_⟩
      have hend : Run.final step (Run.final step db (pre ++ [s])) post =
          Run.final step db (pre ++ s :: post) := by
        rw [← Run.final_append, List.append_assoc, List.singleton_append]
      apply Run.always_append.mpr
      rw [hend]
      exact ⟨halways, hbefore, h⟩
    · refine ⟨steps, last, [], rfl, hbefore, ?_, ?_⟩
      · exact (holdsHead_of_step h).resolve_left hbefore
      · rw [Run.final_append]
        exact h

end

/-- **`HEAD` is not self-acquired**, every role change is audited, and a launch lowers no role and
    makes nobody `HEAD`: over every run from every database. Behind every `HEAD` who was not one at
    the start there is a chain of promotions, each by a `HEAD` and each with its audit row. -/
theorem head_not_selfAcquired (db : Database) (steps : List RoleStep) :
    (∀ id, HoldsHead id (Run.final step db steps) → ¬ HoldsHead id db →
      ∃ pre s post, steps = pre ++ s :: post ∧ ¬ HoldsHead id (Run.final step db pre) ∧
        MadeHead id (Run.final step db pre) s ∧
        Run.Always step (HoldsHead id) (Run.final step db (pre ++ [s])) post) ∧
    Run.EachStep step Audited db steps ∧
    (Run.final step db steps).adminRoleAudits.rows = db.adminRoleAudits.rows ++
      ((Run.trace step db steps).filterMap fun x => trueAudit x.1 x.2) ∧
    Run.EachStep step LaunchSafe db steps :=
  ⟨fun _ h hnot => madeHead_of_run h hnot, Run.eachStep_of_forall fun _ _ => audited,
    adminRoleAudits_run, Run.eachStep_of_forall fun _ _ => launchSafe⟩

end RoleStep

end ProctorEngine
