import ProctorEngine.Lib.Run
import ProctorEngine.Models

/-!
# `create_policy_version`

A call reads the active version of a name, reads the highest version of the name, and commits: the
active version retired and a new row one above the highest. Calls of one name may overlap. The
database refuses a second active row of a name and nothing else, so an overlap of calls that leave
no active row behind, or none that is seen, commits the same number twice. **A commit keeps the
history exactly when the maximum it read is still the maximum.** Retiring touches one column, and no
threshold is ever written again.

A history is three things: one current row a name, no number twice, and higher numbers for later
rows. The first is the constraint's, in every database there is, and the second follows from the
third, so that a history is the order of the numbers (`history_iff_increasing`). With that a commit
is judged by its number alone.

A call that the database refuses changes nothing, whatever it has read; the condition is about those
it takes (`PolicyInsertable`). An overlap of two active versions is of the first kind, an overlap of
drafts of the second.
-/

set_option autoImplicit false

namespace ProctorEngine

/-! ## 1. The request

The schema's bounds come with the request, and the validation adds the three checks between two
fields that the schema does not make. -/

/-- The request body; the proof fields are the bounds of its schema. -/
structure CreatePolicyConfigRequest where
  name : String
  terminationSeverity : FlagSeverity
  terminateOnSecondFace : Bool
  secondFaceConfirmationFrames : Nat
  gazeMinDurationMs : Nat
  gazeWindowSeconds : Nat
  gazeWarningLimit : Nat
  gazeTerminationLimit : Nat
  mediumScoreTerminationThreshold : ℚ
  mediumScoreAction : MediumScoreAction
  livenessCheckEnabled : Bool
  livenessCheckAction : Option LivenessAction
  livenessScoreThreshold : ℚ
  livenessConfirmationFrames : Nat
  identitySimilarityThreshold : ℚ
  identityConfirmationFrames : Nat
  audioNoiseFloorDbfs : ℚ
  audioSpeechRatioThreshold : ℚ
  extraRules : Dict
  isActive : Bool
  retirePrevious : Bool
  nameLength : 1 ≤ name.length ∧ name.length ≤ 128
  secondFaceFramesInRange : 1 ≤ secondFaceConfirmationFrames ∧ secondFaceConfirmationFrames ≤ 100
  gazeMinDurationInRange : gazeMinDurationMs ≤ 86400000
  gazeWindowInRange : 1 ≤ gazeWindowSeconds ∧ gazeWindowSeconds ≤ 86400
  gazeWarningInRange : gazeWarningLimit ≤ 1000
  gazeTerminationInRange : 1 ≤ gazeTerminationLimit ∧ gazeTerminationLimit ≤ 1000
  mediumScoreThresholdNonnegative : 0 ≤ mediumScoreTerminationThreshold
  livenessThresholdInRange : 0 ≤ livenessScoreThreshold ∧ livenessScoreThreshold ≤ 1
  livenessFramesInRange : 1 ≤ livenessConfirmationFrames ∧ livenessConfirmationFrames ≤ 100
  identityThresholdInRange : 0 ≤ identitySimilarityThreshold ∧ identitySimilarityThreshold ≤ 1
  identityFramesInRange : 1 ≤ identityConfirmationFrames ∧ identityConfirmationFrames ≤ 100
  audioRatioInRange : 0 ≤ audioSpeechRatioThreshold ∧ audioSpeechRatioThreshold ≤ 1

inductive PolicyVersioningError where
  | gazeWarningLimit
  | gazeMinDuration
  | livenessAction
  | alreadyActive (name : String)
  | constraint
deriving DecidableEq, Repr

def PolicyVersioningError.message : PolicyVersioningError → String
  | .gazeWarningLimit => "gaze_warning_limit must be <= gaze_termination_limit"
  | .gazeMinDuration => "gaze_min_duration_ms must be <= gaze_window_seconds * 1000"
  | .livenessAction => "liveness_check_action must be set when liveness_check_enabled is true"
  | .alreadyActive name => "a policy named '" ++ name ++
      "' is already active; pass retire_previous=true to supersede it"
  | .constraint => "PolicyConfig insert violated a constraint"

/-- What `_validate_policy_request` asks beyond the schema; its other checks repeat it. -/
structure CreatePolicyConfigRequest.Valid (request : CreatePolicyConfigRequest) : Prop where
  gazeWarningLimit : request.gazeWarningLimit ≤ request.gazeTerminationLimit
  gazeMinDuration : request.gazeMinDurationMs ≤ request.gazeWindowSeconds * 1000
  livenessAction : request.livenessCheckEnabled = false ∨ request.livenessCheckAction.isSome

/-- `_validate_policy_request`. -/
def validatePolicyRequest (request : CreatePolicyConfigRequest) :
    Except PolicyVersioningError (PLift request.Valid) :=
  if hwarning : request.gazeWarningLimit ≤ request.gazeTerminationLimit then
    if hduration : request.gazeMinDurationMs ≤ request.gazeWindowSeconds * 1000 then
      if haction : request.livenessCheckEnabled = false ∨ request.livenessCheckAction.isSome then
        .ok ⟨⟨hwarning, hduration, haction⟩⟩
      else .error .livenessAction
    else .error .gazeMinDuration
  else .error .gazeWarningLimit

/-- The row of a valid request. -/
def CreatePolicyConfigRequest.row (request : CreatePolicyConfigRequest) (valid : request.Valid)
    (id : UUID) (version : Nat) (createdById : UUID) : PolicyConfig where
  id := id
  name := request.name
  version := version
  isActive := request.isActive
  terminationSeverity := request.terminationSeverity
  terminateOnSecondFace := request.terminateOnSecondFace
  secondFaceConfirmationFrames := request.secondFaceConfirmationFrames
  gazeMinDurationMs := request.gazeMinDurationMs
  gazeWindowSeconds := request.gazeWindowSeconds
  gazeWarningLimit := request.gazeWarningLimit
  gazeTerminationLimit := request.gazeTerminationLimit
  mediumScoreTerminationThreshold := request.mediumScoreTerminationThreshold
  mediumScoreAction := request.mediumScoreAction
  livenessCheckEnabled := request.livenessCheckEnabled
  livenessCheckAction := request.livenessCheckAction
  livenessScoreThreshold := request.livenessScoreThreshold
  livenessConfirmationFrames := request.livenessConfirmationFrames
  identitySimilarityThreshold := request.identitySimilarityThreshold
  identityConfirmationFrames := request.identityConfirmationFrames
  audioNoiseFloorDbfs := request.audioNoiseFloorDbfs
  audioSpeechRatioThreshold := request.audioSpeechRatioThreshold
  extraRules := request.extraRules
  retiredAt := none
  createdById := some createdById
  gazeWindowPositive := request.gazeWindowInRange.1
  gazeTerminationPositive := request.gazeTerminationInRange.1
  gazeWarningBeforeTermination := valid.gazeWarningLimit
  gazeMinDurationWithinWindow := valid.gazeMinDuration
  confirmationFramesPositive := request.secondFaceFramesInRange.1
  livenessFramesPositive := request.livenessFramesInRange.1
  identityThresholdInUnitInterval := request.identityThresholdInRange
  identityFramesPositive := request.identityFramesInRange.1
  audioRatioInUnitInterval := request.audioRatioInRange
  mediumScoreThresholdNonnegative := request.mediumScoreThresholdNonnegative
  livenessThresholdInUnitInterval := request.livenessThresholdInRange
  livenessActionWhenEnabled := valid.livenessAction

/-! ## 2. Reads and commit

The three statements that touch the database. The commit takes what the reads returned, however long
ago that was. -/

/-- `_resolve_previous_active`. -/
def resolvePreviousActive (db : Database) (name : String) : Option PolicyConfig :=
  db.policyConfigs.find? fun p => p.name = name ∧ p.Current

/-- `_resolve_max_version`. -/
def resolveMaxVersion (db : Database) (name : String) : Nat :=
  ((db.policyConfigs.rows.filter (·.name = name)).map (·.version)).foldr max 0

/-- Retire the row of an id, if one was read. -/
def retire (previous : Option UUID) (now : DateTime) (p : PolicyConfig) : PolicyConfig :=
  if previous = some p.id then { p with retiredAt := some now } else p

section
variable {previous : Option UUID} {now : DateTime} {p q : PolicyConfig}

@[simp] theorem retire_id : (retire previous now p).id = p.id := by unfold retire; split <;> rfl

@[simp] theorem retire_name : (retire previous now p).name = p.name := by
  unfold retire; split <;> rfl

@[simp] theorem retire_version : (retire previous now p).version = p.version := by
  unfold retire; split <;> rfl

/-- Retiring a row does nothing but set its end. -/
theorem retire_frozen : { retire previous now p with retiredAt := p.retiredAt } = p := by
  unfold retire; split <;> rfl

theorem retire_current :
    (retire previous now p).Current ↔ p.Current ∧ previous ≠ some p.id := by
  unfold retire PolicyConfig.Current
  split <;> rename_i h <;> simp [h]

theorem clash_of_retire (h : (retire previous now p).Clash (retire previous now q)) :
    p.Clash q := by
  rcases h with hid | ⟨hname, hp, hq⟩
  · exact .inl (by simpa using hid)
  · exact .inr ⟨by simpa using hname, (retire_current.mp hp).1, (retire_current.mp hq).1⟩

end

/-- The commit of `create_policy_version`: `previous` retired, the new row inserted; `none` is
    `IntegrityError`. -/
def commitPolicyVersion (db : Database) (row : PolicyConfig) (previous : Option UUID)
    (now : DateTime) : Option Database :=
  if row.createdById.all db.hasAdmin then
    ((db.policyConfigs.update (retire previous now) fun _ _ => clash_of_retire).insert? row).map
      fun t => { db with policyConfigs := t }
  else none

/-- What the database asks of the commit: the foreign key, a new id, and no active row of the
    name besides the one that is being retired. -/
structure PolicyInsertable (db : Database) (row : PolicyConfig) (previous : Option UUID) :
    Prop where
  createdBy : row.createdById.all db.hasAdmin
  id : ∀ p ∈ db.policyConfigs.rows, p.id ≠ row.id
  name : row.Current → ∀ p ∈ db.policyConfigs.rows, p.name = row.name → p.Current →
    previous = some p.id

section
variable {db db' : Database} {row p : PolicyConfig} {previous : Option UUID} {now : DateTime}
  {name : String} {n : Nat}

theorem commitPolicyVersion_isSome_iff :
    (commitPolicyVersion db row previous now).isSome ↔ PolicyInsertable db row previous := by
  unfold commitPolicyVersion
  split
  · rename_i hadmin
    rw [Option.isSome_map, Option.isSome_iff_exists]
    constructor
    · rintro ⟨t, ht⟩
      have hclash := (Table.insert?_eq_some_iff.mp ht).1
      simp only [Table.mem_update, forall_exists_index, and_imp, forall_apply_eq_imp_iff₂] at hclash
      refine ⟨hadmin, fun p hp hid => hclash p hp (.inl (by simpa using hid)),
        ?_⟩
      intro hrow p hp hname hcurrent
      by_contra hne
      exact hclash p hp (.inr ⟨by simpa using hname, retire_current.mpr ⟨hcurrent, hne⟩, hrow⟩)
    · intro h
      apply Table.exists_insert?
      intro x hx hclash
      obtain ⟨p, hp, rfl⟩ := Table.mem_update.mp hx
      rcases hclash with hid | ⟨hname, hcurrent, hrow⟩
      · exact h.id p hp (by simpa using hid)
      · obtain ⟨hp', hne⟩ := retire_current.mp hcurrent
        exact hne (h.name hrow p hp (by simpa using hname) hp')
  · rename_i hadmin
    exact iff_of_false (by simp) fun h => hadmin h.createdBy

theorem commitPolicyVersion_rows (h : commitPolicyVersion db row previous now = some db') :
    db'.policyConfigs.rows = db.policyConfigs.rows.map (retire previous now) ++ [row] := by
  unfold commitPolicyVersion at h
  split at h
  · obtain ⟨t, ht, rfl⟩ := Option.map_eq_some_iff.mp h
    exact (Table.insert?_eq_some_iff.mp ht).2
  · exact absurd h (by simp)

theorem foldr_max_le_iff {l : List Nat} : l.foldr max 0 ≤ n ↔ ∀ m ∈ l, m ≤ n := by
  induction l with
  | nil => simp
  | cons m l ih => simp [ih]

theorem resolveMaxVersion_le_iff :
    resolveMaxVersion db name ≤ n ↔
      ∀ p ∈ db.policyConfigs.rows, p.name = name → p.version ≤ n := by
  rw [resolveMaxVersion, foldr_max_le_iff]
  constructor
  · intro h p hp hname
    exact h p.version (List.mem_map_of_mem (List.mem_filter.mpr ⟨hp, by simpa using hname⟩))
  · intro h m hm
    obtain ⟨p, hp, rfl⟩ := List.mem_map.mp hm
    obtain ⟨hmem, hname⟩ := List.mem_filter.mp hp
    exact h p hmem (by simpa using hname)

theorem resolvePreviousActive_eq_some_iff :
    resolvePreviousActive db name = some p ↔
      p ∈ db.policyConfigs ∧ p.name = name ∧ p.Current := by
  unfold resolvePreviousActive
  rw [Table.find?_eq_some_iff]
  · simp
  · intro a b ha hb
    simp only [decide_eq_true_eq] at ha hb
    exact .inr ⟨ha.1.trans hb.1.symm, ha.2, hb.2⟩

end

/-! ## 3. The history

The rows of the table stand in the order of their commits, so the order of a history is the order of
the table. -/

/-- One current row a name, no number twice, and every later row numbered higher. The rows
    stand in the order of their commits. -/
structure History (db : Database) : Prop where
  oneCurrent : ∀ p ∈ db.policyConfigs, ∀ q ∈ db.policyConfigs, p.name = q.name →
    p.Current → q.Current → p = q
  unique : ∀ p ∈ db.policyConfigs, ∀ q ∈ db.policyConfigs, p.name = q.name →
    p.version = q.version → p = q
  increasing : db.policyConfigs.rows.Pairwise fun p q => p.name = q.name → p.version < q.version

/-- Every row is still there, with every column but its end. -/
def Frozen (db db' : Database) : Prop :=
  ∀ p ∈ db.policyConfigs, ∃ q ∈ db'.policyConfigs, { q with retiredAt := p.retiredAt } = p

section
variable {db db' : Database} {row : PolicyConfig} {previous : Option UUID} {now : DateTime}

/-- The order says it all: the constraint gives the one current row, and numbers that increase
    do not repeat. -/
theorem history_iff_increasing :
    History db ↔
      db.policyConfigs.rows.Pairwise fun p q => p.name = q.name → p.version < q.version := by
  refine ⟨History.increasing, fun h => ⟨?_, ?_, h⟩⟩
  · intro p hp q hq hname hcurrent hcurrent'
    exact Table.eq_of_clash hp hq (.inr ⟨hname, hcurrent, hcurrent'⟩)
  · intro p hp q hq hname hversion
    by_contra hne
    -- two rows of the list stand in one order or the other
    have hdiffer : Std.Symm fun p q : PolicyConfig => p.name = q.name → p.version ≠ q.version :=
      ⟨fun _ _ hpq hqp => (hpq hqp.symm).symm⟩
    have hne' := (h.imp fun hlt hpq => (hlt hpq).ne).forall hp hq hne
    exact hne' hname hversion

/-- **A commit keeps the history exactly when its number is above every number of the name.** -/
theorem history_commit_iff (hdb : History db)
    (h : commitPolicyVersion db row previous now = some db') :
    History db' ↔ ∀ p ∈ db.policyConfigs.rows, p.name = row.name → p.version < row.version := by
  have hmap : (db.policyConfigs.rows.map (retire previous now)).Pairwise
      fun p q => p.name = q.name → p.version < q.version := by
    rw [List.pairwise_map]
    simpa using hdb.increasing
  rw [history_iff_increasing, commitPolicyVersion_rows h, List.pairwise_append,
    and_iff_right hmap, and_iff_right (List.pairwise_singleton _ _)]
  simp

theorem frozen_refl : Frozen db db := fun p hp => ⟨p, hp, rfl⟩

theorem frozen_commit (h : commitPolicyVersion db row previous now = some db') : Frozen db db' := by
  intro p hp
  refine ⟨retire previous now p, ?_, retire_frozen⟩
  rw [← Table.mem_rows, commitPolicyVersion_rows h]
  exact List.mem_append_left _ (List.mem_map_of_mem hp)

end

/-! ## 4. Overlapping calls

A call is a program counter with what it has read. Its three statements are steps, in any
interleaving with those of other calls. -/

namespace PolicyCalls

/-- Where a call is between its statements, and what it has read. -/
inductive Pc where
  | resolving
  | numbering (previous : Option UUID)
  | committing (previous : Option UUID) (maxVersion : Nat)
  | created
  | failed (e : PolicyVersioningError)
deriving DecidableEq, Repr

structure PolicyCall where
  request : CreatePolicyConfigRequest
  valid : request.Valid
  createdBy : AdminUser
  now : DateTime
  pc : Pc

namespace PolicyCall

/-- The row a call inserts, when the highest version it read is `maxVersion`. -/
def row (call : PolicyCall) (id : UUID) (maxVersion : Nat) : PolicyConfig :=
  call.request.row call.valid id (maxVersion + 1) call.createdBy.id

def resolve (call : PolicyCall) (db : Database) : PolicyCall :=
  if call.pc = .resolving then
    match resolvePreviousActive db call.request.name with
    | none => { call with pc := .numbering none }
    | some previous =>
      if call.request.retirePrevious then { call with pc := .numbering (some previous.id) }
      else { call with pc := .failed (.alreadyActive call.request.name) }
  else call

def number (call : PolicyCall) (db : Database) : PolicyCall :=
  match call.pc with
  | .numbering previous =>
    { call with pc := .committing previous (resolveMaxVersion db call.request.name) }
  | _ => call

def commit (call : PolicyCall) (db : Database) (id : UUID) : Database × PolicyCall :=
  match call.pc with
  | .committing previous maxVersion =>
    match commitPolicyVersion db (call.row id maxVersion) previous call.now with
    | none => (db, { call with pc := .failed .constraint })
    | some db' => (db', { call with pc := .created })
  | _ => (db, call)

end PolicyCall

structure State where
  db : Database
  calls : List PolicyCall

inductive Step where
  | begin (request : CreatePolicyConfigRequest) (createdBy : AdminUser) (now : DateTime)
  | resolve (i : Nat)
  | number (i : Nat)
  | commit (i : Nat) (id : UUID)

def step (w : State) : Step → State
  | .begin request createdBy now =>
    match validatePolicyRequest request with
    | .error _ => w
    | .ok ⟨valid⟩ => { w with calls := w.calls ++ [⟨request, valid, createdBy, now, .resolving⟩] }
  | .resolve i => { w with calls := w.calls.modify i (·.resolve w.db) }
  | .number i => { w with calls := w.calls.modify i (·.number w.db) }
  | .commit i id =>
    match w.calls[i]? with
    | none => w
    | some call =>
      { db := (call.commit w.db id).1, calls := w.calls.set i (call.commit w.db id).2 }

/-- No row past the maximum a call has read was committed before the call's own, if the
    database takes that one. -/
def Numbered (w : State) : Step → Prop
  | .commit i id => ∀ call ∈ w.calls[i]?, ∀ previous maxVersion,
      call.pc = .committing previous maxVersion →
        PolicyInsertable w.db (call.row id maxVersion) previous →
          resolveMaxVersion w.db call.request.name ≤ maxVersion
  | .begin _ _ _ | .resolve _ | .number _ => True

theorem commit_frozen {call : PolicyCall} {db : Database} {id : UUID} :
    Frozen db (call.commit db id).1 := by
  unfold PolicyCall.commit
  split
  · split
    · exact frozen_refl
    · rename_i hcommit
      exact frozen_commit hcommit
  · exact frozen_refl

theorem step_frozen (w : State) (a : Step) : Frozen w.db (step w a).db := by
  cases a with
  | begin request createdBy now =>
    simp only [step]
    split <;> exact frozen_refl
  | resolve i | number i => exact frozen_refl
  | commit i id =>
    simp only [step]
    split
    · exact frozen_refl
    · exact commit_frozen

theorem history_step_iff {w : State} {a : Step} (h : History w.db) :
    History (step w a).db ↔ Numbered w a := by
  cases a with
  | begin request createdBy now =>
    refine iff_of_true ?_ trivial
    simp only [step]
    split <;> exact h
  -- Reads write nothing.
  | resolve i | number i => exact iff_of_true h trivial
  | commit i id =>
    simp only [step, Numbered]
    cases hcall : w.calls[i]? with
    | none => exact iff_of_true h (by simp)
    | some call =>
      simp only [Option.mem_def, Option.some.injEq, forall_eq', PolicyCall.commit]
      split
      · rename_i previous maxVersion hpc
        simp only [hpc, Pc.committing.injEq, and_imp, forall_apply_eq_imp_iff, forall_eq']
        have haccepted : PolicyInsertable w.db (call.row id maxVersion) previous ↔
            (commitPolicyVersion w.db (call.row id maxVersion) previous call.now).isSome :=
          commitPolicyVersion_isSome_iff.symm
        rw [haccepted]
        cases hcommit : commitPolicyVersion w.db (call.row id maxVersion) previous call.now with
        | none => exact iff_of_true h (by simp)
        | some db' =>
          -- The number was read some time ago, and must still be past every stored one.
          rw [history_commit_iff h hcommit, resolveMaxVersion_le_iff]
          simp only [PolicyCall.row, CreatePolicyConfigRequest.row, Nat.lt_succ_iff,
            Option.isSome_some, true_imp_iff]
      · rename_i hpc
        exact iff_of_true h fun previous maxVersion hpc' => absurd hpc' (hpc previous maxVersion)

/-- **The versions are a history in every committed state exactly when no commit was overtaken by
    one of its name since it read the maximum**; and no threshold ever changes. The number is one
    more than a maximum read before the commit, and the partial index is over the active rows only.
    -/
theorem history_iff (w : State) (steps : List Step) :
    Run.Always step (fun w => History w.db) w steps ∧
        Run.EachStep step (fun w a => Frozen w.db (step w a).db) w steps ↔
      History w.db ∧ Run.EachStep step Numbered w steps := by
  rw [and_iff_left (Run.eachStep_of_forall step_frozen)]
  exact Run.always_iff_head_and_eachStep fun w a h => history_step_iff h

/-- A draft of a policy: inactive, everything else at its default. -/
def draftRequest : CreatePolicyConfigRequest where
  name := "midterm"
  terminationSeverity := .critical
  terminateOnSecondFace := true
  secondFaceConfirmationFrames := 3
  gazeMinDurationMs := 800
  gazeWindowSeconds := 300
  gazeWarningLimit := 3
  gazeTerminationLimit := 8
  mediumScoreTerminationThreshold := 10
  mediumScoreAction := .autoTerminate
  livenessCheckEnabled := false
  livenessCheckAction := none
  livenessScoreThreshold := 1 / 2
  livenessConfirmationFrames := 3
  identitySimilarityThreshold := 3 / 5
  identityConfirmationFrames := 3
  audioNoiseFloorDbfs := -30
  audioSpeechRatioThreshold := 3 / 10
  extraRules := []
  isActive := false
  retirePrevious := false
  nameLength := by decide
  secondFaceFramesInRange := by decide
  gazeMinDurationInRange := by decide
  gazeWindowInRange := by decide
  gazeWarningInRange := by decide
  gazeTerminationInRange := by decide
  mediumScoreThresholdNonnegative := (PolicyConfig.default 0).mediumScoreThresholdNonnegative
  livenessThresholdInRange := (PolicyConfig.default 0).livenessThresholdInUnitInterval
  livenessFramesInRange := by decide
  identityThresholdInRange := (PolicyConfig.default 0).identityThresholdInUnitInterval
  identityFramesInRange := by decide
  audioRatioInRange := (PolicyConfig.default 0).audioRatioInUnitInterval

def policyAdmin : AdminUser := ⟨1, "https://lms", "admin", .admin, none, none⟩

def policyDatabase : Database := { Database.empty with adminUsers := .single policyAdmin }

/-- Two drafts of one name, both numbered before either commits. -/
def overlappingDrafts : List Step :=
  [.begin draftRequest policyAdmin 0, .begin draftRequest policyAdmin 0, .resolve 0, .resolve 1,
    .number 0, .number 1, .commit 0 2, .commit 1 3]

theorem overlappingDrafts_not_history :
    (Run.final step ⟨policyDatabase, []⟩ overlappingDrafts).db.policyConfigs.rows.map
        (fun p => (p.name, p.version)) = [("midterm", 1), ("midterm", 1)] ∧
    ¬ Run.Always step (fun w => History w.db) ⟨policyDatabase, []⟩ overlappingDrafts :=
  ⟨by decide +kernel, fun h => absurd h.final.increasing (by decide +kernel)⟩

end PolicyCalls

end ProctorEngine
