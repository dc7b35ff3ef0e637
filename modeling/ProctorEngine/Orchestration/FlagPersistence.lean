import Mathlib.Data.Rat.Floor
import ProctorEngine.Fusion.Types

/-!
# Persisting one flag decision

`persist_flag_decision`: the `Flag` row, its ordered links to telemetry rows, the
accumulated score, one commit. The exam session is passed in as it was *loaded*; the new
score is computed from the loaded value and written to the row that is there at the commit.

`FlagAccepted` collects what the database and the function itself test. It is stated on the
inputs alone, so that a caller can say beforehand whether a flag row will commit
(`persistFlagDecision_isOk_iff`).
-/

set_option autoImplicit false

namespace ProctorEngine

/-- Why a decision was not persisted. The first four are `FlagPersistenceError`s or driver
    errors of this function; the rest belong to its caller. -/
inductive PersistError where
  | unknownSeverity
  | flagIntegrity
  | linkIntegrity
  | scoreOutOfRange
  /-- A message that is no telemetry was handed to the row builder. -/
  | valueError
  /-- `db.expunge` of a row the failed flush had already expelled. -/
  | invalidRequest
  /-- The `termination_records` insert was refused. -/
  | terminationIntegrity
  /-- An update of a termination record met the `before_update` listener. -/
  | immutableRecord
deriving DecidableEq, Repr

/-- A value as `NUMERIC(10, 4)` stores it: four decimals, fewer than seven digits before
    them. Scores are non-negative, where rounding half up is PostgreSQL's rounding. -/
def numeric104 (q : ℚ) : Option ℚ :=
  let stored : ℚ := ⌊q * 10000 + 1 / 2⌋ / 10000
  if 0 ≤ q ∧ stored < 1000000 then some stored else none

/-- A value with at most four decimals is stored as it is, if it is stored. -/
theorem numeric104_of_four_decimals {q : ℚ} {n : Int} (hq : q = n / 10000)
    (h : (numeric104 q).isSome) : numeric104 q = some q := by
  have hfloor : ⌊q * 10000 + 1 / 2⌋ = n := by
    rw [hq, Int.floor_eq_iff]
    constructor <;> linarith
  have hstored : (⌊q * 10000 + 1 / 2⌋ : ℚ) / 10000 = q := by rw [hfloor, hq]
  unfold numeric104 at h ⊢
  simp only [hstored] at h ⊢
  split at h
  · rename_i hrange
    rw [if_pos hrange]
  · exact absurd h (by simp)

/-- What the column stores has four decimals. -/
theorem four_decimals_of_numeric104 {q stored : ℚ} (h : numeric104 q = some stored) :
    ∃ n : Int, stored = n / 10000 := by
  unfold numeric104 at h
  dsimp only at h
  split at h
  · exact ⟨_, (Option.some.inj h).symm⟩
  · exact absurd h (by simp)

/-! ## 1. Inserts

What the three tables of a flag accept. -/

/-- The constraints of `flags`, for a row about to be inserted. `VARCHAR(128)` bounds the
    rule code; the confidence checks hold by the interval's construction. -/
def FlagInsertable (db : Database) (f : Flag) : Prop :=
  (db.getExamSession f.examSessionId).isSome ∧
    (∃ p ∈ db.policyConfigs.rows, p.id = f.policyConfigId) ∧
    (∀ e, f.suppressedByExemptionId = some e →
      ∃ x ∈ db.accommodationExemptions.rows, x.id = e) ∧
    f.ruleCode.length ≤ 128 ∧ ∀ x ∈ db.flags.rows, x.id ≠ f.id

-- `UUID` is finite, and a quantifier over ids must not be decided by trying them all
instance {db : Database} {f : Flag} : Decidable (FlagInsertable db f) :=
  decidable_of_iff
    ((db.getExamSession f.examSessionId).isSome ∧
      (∃ p ∈ db.policyConfigs.rows, p.id = f.policyConfigId) ∧
      f.suppressedByExemptionId.all (fun e =>
        db.accommodationExemptions.rows.any fun x => x.id = e) ∧
      f.ruleCode.length ≤ 128 ∧ ∀ x ∈ db.flags.rows, x.id ≠ f.id)
    (by simp [FlagInsertable, Option.all_eq_true])

/-- `INSERT INTO flags`. -/
def Database.insertFlag (db : Database) (f : Flag) : Option Database :=
  if FlagInsertable db f then (db.flags.insert? f).map fun t => { db with flags := t } else none

/-- The keys of the telemetry rows. -/
def Database.telemetryIds (db : Database) : List UUID := db.telemetryEvents.rows.map (·.id)

/-- One link per contributing id, at positions `position`, `position + 1`, …; a link needs
    its telemetry row, and no two links of a flag may share one. -/
def Database.insertLinks (db : Database) (flagId : UUID) : Nat → List UUID → Option Database
  | _, [] => some db
  | position, telemetryId :: ids =>
    if telemetryId ∈ db.telemetryIds then
      match db.flagTelemetryEvents.insert? ⟨flagId, telemetryId, position⟩ with
      | none => none
      | some t => { db with flagTelemetryEvents := t }.insertLinks flagId (position + 1) ids
    else none

/-! ## 2. The function

`persist_flag_decision` over the loaded session. Its checks come before its writes, and all its
writes are one commit. -/

/-- The `Flag` row of a decision. The policy is the one of the session, and the detail is kept as it
    is. -/
def flagOf (decision : FlagDecision) (examSession : ExamSession) (severity : FlagSeverity)
    (flagId : UUID) : Flag where
  id := flagId
  examSessionId := examSession.id
  policyConfigId := examSession.policyConfigId
  ruleCode := decision.ruleCode
  severity := severity
  status := .raised
  confidenceScore := decision.confidence.score
  confidenceLower := decision.confidence.lower
  confidenceUpper := decision.confidence.upper
  triggeredTermination := decision.triggeredTermination
  suppressedByExemptionId := decision.suppressedByExemptionId
  detail := decision.detail

/-- The score write of the function; a decision without a positive delta writes none. -/
def writeScore (db : Database) (decision : FlagDecision) (examSession : ExamSession) :
    Option Database :=
  if 0 < decision.scoreDelta then
    (numeric104 (examSession.accumulatedMediumScore + decision.scoreDelta)).map fun score =>
      db.updateExamSession examSession.id (fun s => { s with accumulatedMediumScore := score })
        fun _ => rfl
  else some db

/-- `persist_flag_decision`. `flagId` is the key `uuid4` draws for the row. Flag, links and score
    are flushed in this order and committed together; the first that is refused names the error. -/
def persistFlagDecision (db : Database) (decision : FlagDecision) (examSession : ExamSession)
    (flagId : UUID) : Except PersistError (Database × Flag) :=
  match FlagSeverity.ofValue? decision.severity with
  | none => .error .unknownSeverity
  | some severity =>
    let flag := flagOf decision examSession severity flagId
    match db.insertFlag flag with
    | none => .error .flagIntegrity
    | some db₁ =>
      match db₁.insertLinks flagId 0 decision.contributingEventIds with
      | none => .error .linkIntegrity
      | some db₂ =>
        match writeScore db₂ decision examSession with
        | none => .error .scoreOutOfRange
        | some db₃ => .ok (db₃, flag)

/-! ## 3. What the inserts do

Each insert is accepted under a condition on the rows that are there, and adds one row. -/

section
variable {db db' : Database} {f : Flag} {flagId : UUID} {position : Nat} {ids : List UUID}

theorem insertFlag_eq_some_iff :
    db.insertFlag f = some db' ↔
      FlagInsertable db f ∧ ∃ t, db.flags.insert? f = some t ∧ db' = { db with flags := t } := by
  unfold Database.insertFlag
  split
  · rename_i h
    simp only [Option.map_eq_some_iff, h, true_and]
    exact exists_congr fun t => and_congr_right fun _ => eq_comm
  · rename_i h
    simp [h]

theorem insertFlag_isSome_iff : (db.insertFlag f).isSome ↔ FlagInsertable db f := by
  rw [Option.isSome_iff_exists]
  constructor
  · rintro ⟨db', h⟩
    exact (insertFlag_eq_some_iff.mp h).1
  · intro h
    obtain ⟨t, ht⟩ := Table.exists_insert? (t := db.flags) (r := f) h.2.2.2.2
    exact ⟨_, insertFlag_eq_some_iff.mpr ⟨h, t, ht, rfl⟩⟩

/-- The links of a flag extend one table and nothing else. -/
theorem insertLinks_frame (h : db.insertLinks flagId position ids = some db') :
    ∃ t, db' = { db with flagTelemetryEvents := t } := by
  induction ids generalizing db position with
  | nil => exact ⟨db.flagTelemetryEvents, (Option.some.inj h).symm⟩
  | cons telemetryId ids ih =>
    simp only [Database.insertLinks] at h
    split at h
    · split at h
      · exact absurd h (by simp)
      · obtain ⟨t, rfl⟩ := ih h
        exact ⟨t, rfl⟩
    · exact absurd h (by simp)

/-- When the links go through: every id has its telemetry row, no id repeats, and none is
    linked to the flag already. -/
theorem insertLinks_isSome_iff :
    (db.insertLinks flagId position ids).isSome ↔
      (∀ i ∈ ids, i ∈ db.telemetryIds) ∧ ids.Nodup ∧
        ∀ l ∈ db.flagTelemetryEvents, l.flagId = flagId → l.telemetryEventId ∉ ids := by
  induction ids generalizing db position with
  | nil => simp [Database.insertLinks]
  | cons telemetryId ids ih =>
    simp only [Database.insertLinks]
    split
    case isFalse hid =>
      simp only [Option.isSome_none, Bool.false_eq_true, false_iff]
      exact fun h => hid (h.1 telemetryId List.mem_cons_self)
    case isTrue hid =>
      cases ht : db.flagTelemetryEvents.insert? ⟨flagId, telemetryId, position⟩ with
      | none =>
        obtain ⟨l, hl, hf, ht'⟩ := Table.insert?_eq_none_iff.mp ht
        simp only [Option.isSome_none, Bool.false_eq_true, false_iff]
        rintro ⟨-, -, h⟩
        exact h l hl hf (by simp [show l.telemetryEventId = telemetryId from ht'])
      -- The new link counts as stored for the rest, which is where `Nodup` comes from.
      | some t =>
        obtain ⟨hfresh, -⟩ := Table.insert?_eq_some_iff.mp ht
        simp only [ih, Table.mem_insert? ht, List.mem_cons, hid, true_and,
          List.nodup_cons, or_imp, forall_and, forall_eq, not_or]
        constructor
        · rintro ⟨h₁, h₂, h₃, h₄⟩
          refine ⟨h₁, ⟨by simpa using h₄, h₂⟩, ?_, h₃⟩
          intro l hl hf he
          exact hfresh l hl ⟨hf, he⟩
        · rintro ⟨h₁, ⟨h₂, h₃⟩, -, h₅⟩
          exact ⟨h₁, h₃, h₅, by simpa using h₂⟩

/-- The links a flag gains are its ids at consecutive positions, after the links there were. -/
theorem insertLinks_rows (h : db.insertLinks flagId position ids = some db') :
    db'.flagTelemetryEvents.rows = db.flagTelemetryEvents.rows ++
      ids.mapIdx fun i telemetryId => ⟨flagId, telemetryId, position + i⟩ := by
  induction ids generalizing db position with
  | nil =>
    obtain rfl : db = db' := Option.some.inj h
    simp
  | cons telemetryId ids ih =>
    simp only [Database.insertLinks] at h
    split at h
    case isFalse => exact absurd h (by simp)
    case isTrue =>
      split at h
      · exact absurd h (by simp)
      · rename_i t ht
        rw [ih h, List.mapIdx_cons, (Table.insert?_eq_some_iff.mp ht).2]
        simp only [List.append_assoc, List.singleton_append, Nat.add_zero, Nat.add_assoc,
          Nat.add_comm 1]

end

/-! ## 4. When a decision is persisted, and what it leaves

The condition of the whole is the conjunction, and the rows it leaves are those of the inserts. -/

/-- What `persist_flag_decision` and the database test, on the inputs. -/
structure FlagAccepted (db : Database) (decision : FlagDecision) (examSession : ExamSession)
    (flagId : UUID) : Prop where
  severity : (FlagSeverity.ofValue? decision.severity).isSome
  flag : ∀ severity, FlagInsertable db (flagOf decision examSession severity flagId)
  rows : ∀ i ∈ decision.contributingEventIds, i ∈ db.telemetryIds
  nodup : decision.contributingEventIds.Nodup
  unlinked : ∀ l ∈ db.flagTelemetryEvents, l.flagId = flagId →
    l.telemetryEventId ∉ decision.contributingEventIds
  score : 0 < decision.scoreDelta →
    (numeric104 (examSession.accumulatedMediumScore + decision.scoreDelta)).isSome

section
variable {db db' : Database} {decision : FlagDecision} {examSession : ExamSession}
  {flagId : UUID} {flag : Flag}

/-- The steps of a decision that was persisted. -/
theorem persistFlagDecision_eq_ok
    (h : persistFlagDecision db decision examSession flagId = .ok (db', flag)) :
    ∃ severity db₁ db₂, FlagSeverity.ofValue? decision.severity = some severity ∧
      flag = flagOf decision examSession severity flagId ∧
      db.insertFlag flag = some db₁ ∧
      db₁.insertLinks flagId 0 decision.contributingEventIds = some db₂ ∧
      writeScore db₂ decision examSession = some db' := by
  unfold persistFlagDecision at h
  split at h
  · exact absurd h (by simp)
  · rename_i severity hsev
    dsimp only at h
    split at h
    · exact absurd h (by simp)
    · rename_i db₁ h₁
      split at h
      · exact absurd h (by simp)
      · rename_i db₂ h₂
        split at h
        · exact absurd h (by simp)
        · rename_i db₃ h₃
          obtain ⟨rfl, rfl⟩ := Prod.mk.inj (Except.ok.inj h)
          exact ⟨severity, db₁, db₂, hsev, rfl, h₁, h₂, h₃⟩

theorem writeScore_isSome_iff :
    (writeScore db decision examSession).isSome ↔
      (0 < decision.scoreDelta →
        (numeric104 (examSession.accumulatedMediumScore + decision.scoreDelta)).isSome) := by
  unfold writeScore
  split
  · rename_i h
    simp [h]
  · rename_i h
    simp [h]

/-- **The tests of `FlagAccepted` are all that decides whether a flag row commits.** -/
theorem persistFlagDecision_isOk_iff :
    (∃ r, persistFlagDecision db decision examSession flagId = .ok r) ↔
      FlagAccepted db decision examSession flagId := by
  constructor
  · rintro ⟨⟨db', flag⟩, h⟩
    obtain ⟨severity, db₁, db₂, hsev, rfl, h₁, h₂, h₃⟩ := persistFlagDecision_eq_ok h
    obtain ⟨hf, t, -, rfl⟩ := insertFlag_eq_some_iff.mp h₁
    obtain ⟨hrows, hnodup, hunlinked⟩ := insertLinks_isSome_iff.mp (Option.isSome_of_eq_some h₂)
    exact ⟨by simp [hsev], fun _ => hf, hrows, hnodup, hunlinked,
      writeScore_isSome_iff.mp (Option.isSome_of_eq_some h₃)⟩
  · intro hacc
    obtain ⟨severity, hsev⟩ := Option.isSome_iff_exists.mp hacc.severity
    obtain ⟨db₁, h₁⟩ := Option.isSome_iff_exists.mp (insertFlag_isSome_iff.mpr (hacc.flag severity))
    obtain ⟨-, t, -, rfl⟩ := insertFlag_eq_some_iff.mp h₁
    have hlinks : (({ db with flags := t } : Database).insertLinks flagId 0
        decision.contributingEventIds).isSome :=
      insertLinks_isSome_iff.mpr ⟨hacc.rows, hacc.nodup, hacc.unlinked⟩
    obtain ⟨db₂, h₂⟩ := Option.isSome_iff_exists.mp hlinks
    have hscore : (writeScore db₂ decision examSession).isSome :=
      writeScore_isSome_iff.mpr hacc.score
    obtain ⟨db₃, h₃⟩ := Option.isSome_iff_exists.mp hscore
    exact ⟨(db₃, flagOf decision examSession severity flagId), by
      simp only [persistFlagDecision, hsev, h₁, h₂, h₃]⟩

/-- The score column of session `id` after a decision was persisted over the loaded row. -/
def scoreAfter (decision : FlagDecision) (examSession : ExamSession) (id : UUID) (score : ℚ) : ℚ :=
  if id = examSession.id ∧ 0 < decision.scoreDelta then
    (numeric104 (examSession.accumulatedMediumScore + decision.scoreDelta)).getD score
  else score

/-- Of a session row the function changes the score and nothing else. -/
theorem writeScore_getExamSession (h : writeScore db decision examSession = some db') {id : UUID} :
    db'.getExamSession id =
      (db.getExamSession id).map fun s =>
        { s with
          accumulatedMediumScore :=
            scoreAfter decision examSession id s.accumulatedMediumScore } := by
  unfold writeScore at h
  split at h
  · rename_i hdelta
    obtain ⟨score, hscore, rfl⟩ := Option.map_eq_some_iff.mp h
    rw [Database.getExamSession_updateExamSession]
    by_cases hid : id = examSession.id
    · simp [scoreAfter, hid, hdelta, hscore]
    · simp [scoreAfter, hid]
  · rename_i hdelta
    obtain rfl := Option.some.inj h
    simp [scoreAfter, hdelta]

theorem writeScore_frame (h : writeScore db decision examSession = some db') :
    ∃ t, db' = { db with examSessions := t } := by
  unfold writeScore at h
  split at h
  · obtain ⟨score, -, rfl⟩ := Option.map_eq_some_iff.mp h
    exact ⟨_, rfl⟩
  · obtain rfl := Option.some.inj h
    exact ⟨_, rfl⟩

end

end ProctorEngine
