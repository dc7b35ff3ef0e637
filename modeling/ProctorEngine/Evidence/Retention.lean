import Mathlib.Data.List.Sort
import ProctorEngine.Evidence.Service
import ProctorEngine.Lib.Loop
import ProctorEngine.Lib.Run
import ProctorEngine.Lib.Transaction

/-!
# The retention worker

`run_retention_deletion`: batches of expired artifacts, each blob deleted before its row, a flush a
row and a commit a batch. A failed flush rolls the session back, **and with it the rows the batch
has deleted so far**; a failed commit takes back the whole batch and ends the run.

The store, the flushes and the commits answer as they please at every call (`RetentionFaults`).
Every iteration of the loop that does not end it removes its last artifact from what is left to do,
so the loop ends (`retention_ends`).

The handler of a failed flush logs `artifact.id` before it rolls back. Where the failed flush has
expired the row, that read raises out of the function; whether it has is left to the environment.

What is left to do, the candidates, is the expired rows of the session that are not among the
failed. It does not shrink with every artifact: a rollback brings rows of the batch back. Only the
last artifact of a batch is safe from that, since nothing of the batch comes after it, and for the
loop one a batch is enough. The blobs of the rows that come back are gone by then, and the next
batch finds them gone and deletes the rows again.

The effects of a run are logged in the state, newest first, for the invariant that a row is gone
only right after its blob.
-/

set_option autoImplicit false

namespace ProctorEngine

/-! ## 1. The worker

The state of the function between any two statements, and the function as an iteration that says
whether it broke out of the loop. A batch is a run over its artifacts, after an exception one in
which nothing happens any more. -/

/-- `_extract_storage_key`. The second form of a URI is for test fakes. -/
def extractStorageKey (uri : String) : Option String :=
  if "s3://".toList.isPrefixOf uri.toList then some (String.ofList (uri.toList.drop 5))
  else if "evidence/".toList.isPrefixOf uri.toList then some uri
  else none

/-- Which calls fail, by the number of the artifact or commit in the run. -/
structure RetentionFaults where
  deleteFails : Nat → Bool
  flushFails : Nat → Bool
  /-- Reading the row's id in the handler of a failed flush raises. -/
  idExpired : Nat → Bool
  commitFails : Nat → Bool

/-- What a run did, for the reader of a run: the worker keeps no such list. -/
inductive RetentionEffect where
  /-- The store answered the delete, or the blob was gone already. -/
  | blobGone (key : String)
  | rowFlushed (id : UUID)
  | batchBackedOut
deriving DecidableEq, Repr

/-- The session, the store and the local variables of a run. -/
structure RetentionState where
  session : Transaction Database
  store : EvidenceStore
  artifactsDeleted : Nat
  storageErrors : Nat
  failedArtifactIds : List UUID
  batchDeleted : Nat
  /-- The number of the next artifact or commit. -/
  tick : Nat
  /-- An exception has left the function. -/
  raised : Bool
  /-- Newest first. -/
  effects : List RetentionEffect

/-- `DELETE FROM evidence_artifacts WHERE id = …`; nothing refers to an artifact. -/
def Database.deleteArtifact (db : Database) (id : UUID) : Database :=
  { db with evidenceArtifacts := db.evidenceArtifacts.deleteWhere fun a => a.id = id }

namespace RetentionState

/-- An artifact whose blob could not be deleted, or whose URI names no key. -/
def storageError (s : RetentionState) (id : UUID) : RetentionState :=
  { s with
    storageErrors := s.storageErrors + 1
    failedArtifactIds := id :: s.failedArtifactIds
    tick := s.tick + 1 }

/-- The blob is gone, but the row's flush failed and the session was rolled back. -/
def flushError (s : RetentionState) (id : UUID) (key : String) : RetentionState :=
  { s with
    session := s.session.rollback
    store := s.store.delete key
    failedArtifactIds := id :: s.failedArtifactIds
    tick := s.tick + 1
    effects := .blobGone key :: s.effects }

/-- The same with an exception out of the handler; the failed flush has itself undone what
    the transaction held. -/
def flushRaised (s : RetentionState) (key : String) : RetentionState :=
  { s with
    session := s.session.rollback
    store := s.store.delete key
    tick := s.tick + 1
    raised := true
    effects := .blobGone key :: s.effects }

/-- The blob is gone and the row's deletion is flushed. -/
def deleted (s : RetentionState) (id : UUID) (key : String) : RetentionState :=
  { s with
    session := s.session.write (s.session.working.deleteArtifact id)
    store := s.store.delete key
    batchDeleted := s.batchDeleted + 1
    artifactsDeleted := s.artifactsDeleted + 1
    tick := s.tick + 1
    effects := .rowFlushed id :: .blobGone key :: s.effects }

end RetentionState

/-- One artifact of a batch. The blob goes first and its row second; an artifact whose blob cannot
    be deleted keeps its row and is put among the failed ones. -/
def processArtifact (faults : RetentionFaults) (s : RetentionState)
    (artifact : EvidenceArtifact) : RetentionState :=
  -- the rest of the batch after an exception
  if s.raised then s
  else
    match extractStorageKey artifact.storageUri with
    | none => s.storageError artifact.id
    | some key =>
      if faults.deleteFails s.tick then s.storageError artifact.id
      else if faults.flushFails s.tick then
        if faults.idExpired s.tick then s.flushRaised key else s.flushError artifact.id key
      else s.deleted artifact.id key

/-- The rows the run has yet to deal with: expired, and not among the failed. -/
def RetentionState.candidates (s : RetentionState) (now : DateTime) : List EvidenceArtifact :=
  s.session.working.evidenceArtifacts.rows.filter fun a =>
    a.retentionExpiresAt < now ∧ a.id ∉ s.failedArtifactIds

/-- The query of one iteration. -/
def selectBatch (now : DateTime) (batchSize : Nat) (s : RetentionState) :
    List EvidenceArtifact :=
  ((s.candidates now).insertionSort fun a b => a.id.toNat ≤ b.id.toNat).take batchSize

/-- The artifacts of one batch, before its commit. -/
def processBatch (faults : RetentionFaults) (now : DateTime) (batchSize : Nat)
    (s : RetentionState) : RetentionState :=
  Run.final (processArtifact faults) { s with batchDeleted := 0 } (selectBatch now batchSize s)

/-- One iteration of the loop, and whether it broke out. A batch is selected, processed and
    committed, if any row of it was deleted. -/
def retentionIteration (faults : RetentionFaults) (now : DateTime) (batchSize : Nat)
    (s : RetentionState) : RetentionState × Bool :=
  if selectBatch now batchSize s = [] then (s, true)
  else
    let s := processBatch faults now batchSize s
    if s.raised then (s, true)
    else if 0 < s.batchDeleted then
      if faults.commitFails s.tick then
        -- nobody knows which artifact it was: the batch is backed out and the run broken off
        ({ s with
            session := s.session.rollback
            artifactsDeleted := s.artifactsDeleted - s.batchDeleted
            tick := s.tick + 1
            effects := .batchBackedOut :: s.effects }, true)
      else ({ s with session := s.session.commit, tick := s.tick + 1 }, false)
    else (s, false)

/-- A run at its start. -/
def RetentionState.start (db : Database) (store : EvidenceStore) : RetentionState :=
  ⟨.begin db, store, 0, 0, [], 0, 0, false, []⟩

/-- `run_retention_deletion`, given fuel for an iteration an artifact and the last one. -/
def runRetentionDeletion (db : Database) (store : EvidenceStore) (now : DateTime)
    (batchSize : Nat) (faults : RetentionFaults) : RetentionState × Bool :=
  Loop.run (retentionIteration faults now batchSize) (db.evidenceArtifacts.rows.length + 1)
    (.start db store)

/-! ## 2. One artifact

The five things that can become of an artifact. Each later induction has these five cases. -/

section
variable {faults : RetentionFaults} {s : RetentionState} {artifact a : EvidenceArtifact}
  {now : DateTime} {batchSize : Nat} {key : String} {id : UUID} {batch : List EvidenceArtifact}

theorem mem_deleteArtifact {db : Database} :
    a ∈ (db.deleteArtifact id).evidenceArtifacts ↔ a ∈ db.evidenceArtifacts ∧ a.id ≠ id := by
  simp [Database.deleteArtifact]

/-- A key under which evidence is stored is read back from its URI. -/
theorem extractStorageKey_storageUri : extractStorageKey (storageUri key) = some key := by
  have hlist : (storageUri key).toList = "s3://".toList ++ key.toList := by
    simp [storageUri, String.toList_append]
  have hdrop : (storageUri key).toList.drop 5 = key.toList := by
    rw [hlist]
    exact List.drop_left' (by decide)
  have hscheme : "s3://".toList.isPrefixOf (storageUri key).toList = true := by
    rw [List.isPrefixOf_iff_prefix, hlist]
    exact List.prefix_append _ _
  rw [extractStorageKey, if_pos hscheme, hdrop, String.ofList_toList]

/-- Everything the worker can do with one artifact. -/
inductive ArtifactOutcome (faults : RetentionFaults) (s : RetentionState)
    (artifact : EvidenceArtifact) : RetentionState → Prop
  | skipped (raised : s.raised = true) : ArtifactOutcome faults s artifact s
  | storageError (going : s.raised = false) :
      ArtifactOutcome faults s artifact (s.storageError artifact.id)
  | flushError {key : String} (going : s.raised = false)
      (named : extractStorageKey artifact.storageUri = some key)
      (answered : faults.deleteFails s.tick = false) (failed : faults.flushFails s.tick = true) :
      ArtifactOutcome faults s artifact (s.flushError artifact.id key)
  | flushRaised {key : String} (going : s.raised = false)
      (named : extractStorageKey artifact.storageUri = some key) :
      ArtifactOutcome faults s artifact (s.flushRaised key)
  | deleted {key : String} (going : s.raised = false)
      (named : extractStorageKey artifact.storageUri = some key) :
      ArtifactOutcome faults s artifact (s.deleted artifact.id key)

theorem processArtifact_outcome (faults : RetentionFaults) (s : RetentionState)
    (artifact : EvidenceArtifact) :
    ArtifactOutcome faults s artifact (processArtifact faults s artifact) := by
  unfold processArtifact
  cases hraised : s.raised with
  | true => exact .skipped hraised
  | false =>
    simp only [Bool.false_eq_true, if_false]
    cases hkey : extractStorageKey artifact.storageUri with
    | none => exact .storageError hraised
    | some key =>
      by_cases hdelete : faults.deleteFails s.tick
      · simp only [hdelete, if_true]
        exact .storageError hraised
      · by_cases hflush : faults.flushFails s.tick
        · by_cases hid : faults.idExpired s.tick
          · simp only [hdelete, hflush, hid, if_true, Bool.false_eq_true, if_false]
            exact .flushRaised hraised hkey
          · simp only [hdelete, hflush, hid, if_true, Bool.false_eq_true, if_false]
            exact .flushError hraised hkey (by simpa using hdelete) hflush
        · simp only [hdelete, hflush, Bool.false_eq_true, if_false]
          exact .deleted hraised hkey

end

/-! ## 3. What a run never breaks

Against the database and the store at the start of the run, with the session's committed and working
copies between them. -/

/-- Where a run that started from `db` and `store` stands: nothing but expired artifacts and
    their blobs has been touched, and a row that is gone from the session went right after its
    blob. -/
structure RetentionInvariant (db : Database) (store : EvidenceStore) (now : DateTime)
    (s : RetentionState) : Prop where
  committed_frame : ∃ t, s.session.committed = { db with evidenceArtifacts := t }
  working_frame : ∃ t, s.session.working = { db with evidenceArtifacts := t }
  working_sub : ∀ a ∈ s.session.working.evidenceArtifacts,
    a ∈ s.session.committed.evidenceArtifacts
  committed_sub : ∀ a ∈ s.session.committed.evidenceArtifacts, a ∈ db.evidenceArtifacts
  gone : ∀ a ∈ db.evidenceArtifacts, a ∉ s.session.working.evidenceArtifacts →
    a.retentionExpiresAt < now ∧ ∃ key before after,
      extractStorageKey a.storageUri = some key ∧
        s.effects = after ++ .rowFlushed a.id :: .blobGone key :: before
  blobGone : ∀ key, .blobGone key ∈ s.effects → s.store key = none
  blobs : ∀ key, s.store key = store key ∨ s.store key = none
  touched : ∀ key, s.store key ≠ store key → ∃ a ∈ db.evidenceArtifacts,
    a.retentionExpiresAt < now ∧ extractStorageKey a.storageUri = some key

section
variable {db : Database} {store : EvidenceStore} {now : DateTime} {s : RetentionState}
  {faults : RetentionFaults} {batchSize : Nat} {artifact a b : EvidenceArtifact}
  {key : String} {effect : RetentionEffect}

theorem artifact_eq_of_id {t : Table EvidenceArtifact EvidenceArtifact.Clash} (ha : a ∈ t)
    (hb : b ∈ t) (h : a.id = b.id) : a = b := by
  have hclash : EvidenceArtifact.Clash a b := .inl h
  exact Table.eq_of_clash ha hb hclash

theorem retentionInvariant_start : RetentionInvariant db store now (.start db store) where
  committed_frame := ⟨_, rfl⟩
  working_frame := ⟨_, rfl⟩
  working_sub _ ha := ha
  committed_sub _ ha := ha
  gone _ ha hgone := absurd ha hgone
  blobGone _ h := absurd h List.not_mem_nil
  blobs _ := .inl rfl
  touched _ h := absurd rfl h

/-- A later effect leaves the place of an earlier one. -/
theorem gone_cons {id : UUID} {effects : List RetentionEffect}
    (h : ∃ key before after, extractStorageKey a.storageUri = some key ∧
      effects = after ++ .rowFlushed id :: .blobGone key :: before) :
    ∃ key before after, extractStorageKey a.storageUri = some key ∧
      effect :: effects = after ++ .rowFlushed id :: .blobGone key :: before := by
  obtain ⟨key, before, after, hkey, rfl⟩ := h
  exact ⟨key, before, effect :: after, hkey, rfl⟩

/-- Deleting the blob of an expired artifact. -/
theorem RetentionInvariant.deleteBlob (h : RetentionInvariant db store now s)
    (hmem : artifact ∈ db.evidenceArtifacts) (hexpired : artifact.retentionExpiresAt < now)
    (hkey : extractStorageKey artifact.storageUri = some key) :
    RetentionInvariant db store now
      { s with store := s.store.delete key, effects := .blobGone key :: s.effects } where
  committed_frame := h.committed_frame
  working_frame := h.working_frame
  working_sub := h.working_sub
  committed_sub := h.committed_sub
  gone a ha hgone := ⟨(h.gone a ha hgone).1, gone_cons (h.gone a ha hgone).2⟩
  blobGone k hk := by
    by_cases hself : k = key
    · rw [hself]
      exact delete_self
    · show s.store.delete key k = none
      rw [delete_of_ne hself]
      cases List.mem_cons.mp hk with
      | inl heq => exact absurd (RetentionEffect.blobGone.inj heq) hself
      | inr hold => exact h.blobGone k hold
  blobs k := by
    by_cases hself : k = key
    · rw [hself]
      exact .inr delete_self
    · show s.store.delete key k = store k ∨ s.store.delete key k = none
      rw [delete_of_ne hself]
      exact h.blobs k
  -- the one blob this call takes is the artifact's own
  touched k hk := by
    by_cases hself : k = key
    · exact ⟨artifact, hmem, hexpired, hself ▸ hkey⟩
    · apply h.touched k
      rwa [show s.store k = s.store.delete key k from (delete_of_ne hself).symm]

theorem RetentionInvariant.rollback (h : RetentionInvariant db store now s) :
    RetentionInvariant db store now { s with session := s.session.rollback } where
  committed_frame := h.committed_frame
  working_frame := h.committed_frame
  working_sub _ ha := ha
  committed_sub := h.committed_sub
  gone a ha hgone := h.gone a ha fun hworking => hgone (h.working_sub a hworking)
  blobGone := h.blobGone
  blobs := h.blobs
  touched := h.touched

theorem RetentionInvariant.commit (h : RetentionInvariant db store now s) :
    RetentionInvariant db store now { s with session := s.session.commit } where
  committed_frame := h.working_frame
  working_frame := h.working_frame
  working_sub _ ha := ha
  committed_sub a ha := h.committed_sub a (h.working_sub a ha)
  gone := h.gone
  blobGone := h.blobGone
  blobs := h.blobs
  touched := h.touched

/-- Deleting the row of an artifact whose blob has just gone. -/
theorem RetentionInvariant.deleteRow {before : List RetentionEffect}
    (h : RetentionInvariant db store now s) (hmem : artifact ∈ db.evidenceArtifacts)
    (hexpired : artifact.retentionExpiresAt < now)
    (hkey : extractStorageKey artifact.storageUri = some key)
    (heffects : s.effects = .blobGone key :: before) :
    RetentionInvariant db store now
      { s with
        session := s.session.write (s.session.working.deleteArtifact artifact.id)
        effects := .rowFlushed artifact.id :: s.effects } where
  committed_frame := h.committed_frame
  working_frame := by
    obtain ⟨t, ht⟩ := h.working_frame
    refine ⟨t.deleteWhere fun a => a.id = artifact.id, ?_⟩
    show s.session.working.deleteArtifact artifact.id = _
    rw [ht]
    rfl
  working_sub a ha := h.working_sub a (mem_deleteArtifact.mp ha).1
  committed_sub := h.committed_sub
  gone a ha hgone := by
    by_cases hid : a.id = artifact.id
    -- the row of this call, whose blob went one effect before
    · obtain rfl : a = artifact := artifact_eq_of_id ha hmem hid
      exact ⟨hexpired, key, before, [], hkey, by rw [heffects]; rfl⟩
    · have hold : a ∉ s.session.working.evidenceArtifacts := fun hworking =>
        hgone (mem_deleteArtifact.mpr ⟨hworking, hid⟩)
      exact ⟨(h.gone a ha hold).1, gone_cons (h.gone a ha hold).2⟩
  blobGone k hk := by
    cases List.mem_cons.mp hk with
    | inl heq => exact absurd heq (by simp)
    | inr hold => exact h.blobGone k hold
  blobs := h.blobs
  touched := h.touched

/-- The counters and marks of a run are no part of the invariant. -/
theorem RetentionInvariant.congr {s' : RetentionState} (h : RetentionInvariant db store now s)
    (hsession : s'.session = s.session) (hstore : s'.store = s.store)
    (heffects : s'.effects = s.effects) : RetentionInvariant db store now s' where
  committed_frame := hsession ▸ h.committed_frame
  working_frame := hsession ▸ h.working_frame
  working_sub := by rw [hsession]; exact h.working_sub
  committed_sub := by rw [hsession]; exact h.committed_sub
  gone := by rw [hsession, heffects]; exact h.gone
  blobGone := by rw [heffects, hstore]; exact h.blobGone
  blobs := by rw [hstore]; exact h.blobs
  touched := by rw [hstore]; exact h.touched

theorem RetentionInvariant.outcome {s' : RetentionState} (h : RetentionInvariant db store now s)
    (hmem : artifact ∈ db.evidenceArtifacts) (hexpired : artifact.retentionExpiresAt < now)
    (houtcome : ArtifactOutcome faults s artifact s') : RetentionInvariant db store now s' := by
  cases houtcome with
  | skipped _ => exact h
  | storageError _ => exact h.congr rfl rfl rfl
  | flushError _ hkey _ _ => exact (h.deleteBlob hmem hexpired hkey).rollback.congr rfl rfl rfl
  | flushRaised _ hkey => exact (h.deleteBlob hmem hexpired hkey).rollback.congr rfl rfl rfl
  | deleted _ hkey =>
    exact ((h.deleteBlob hmem hexpired hkey).deleteRow hmem hexpired hkey rfl).congr rfl rfl rfl

/-- What the query of an iteration returns is expired, in the table, and not yet failed. -/
theorem mem_candidates : a ∈ s.candidates now ↔
    a ∈ s.session.working.evidenceArtifacts ∧ a.retentionExpiresAt < now ∧
      a.id ∉ s.failedArtifactIds := by
  simp [RetentionState.candidates, ← Table.mem_rows]

theorem mem_candidates_of_mem_selectBatch (h : a ∈ selectBatch now batchSize s) :
    a ∈ s.candidates now := by
  unfold selectBatch at h
  exact (List.mem_insertionSort _).mp (List.mem_of_mem_take h)

theorem retentionInvariant_processBatch (faults : RetentionFaults) (batchSize : Nat)
    (h : RetentionInvariant db store now s) :
    RetentionInvariant db store now (processBatch faults now batchSize s) := by
  have hbatch : ∀ a ∈ selectBatch now batchSize s,
      a ∈ db.evidenceArtifacts ∧ a.retentionExpiresAt < now := by
    intro a ha
    obtain ⟨hworking, hexpired, -⟩ := mem_candidates.mp (mem_candidates_of_mem_selectBatch ha)
    exact ⟨h.committed_sub a (h.working_sub a hworking), hexpired⟩
  have hstart : RetentionInvariant db store now { s with batchDeleted := 0 } :=
    h.congr rfl rfl rfl
  exact (Run.always_of_eachStep
    (fun s a hs ha => hs.outcome ha.1 ha.2 (processArtifact_outcome faults s a)) hstart
    (Run.eachStep_of_mem hbatch)).final

theorem retentionInvariant_iteration (h : RetentionInvariant db store now s) :
    RetentionInvariant db store now (retentionIteration faults now batchSize s).1 := by
  have hbatch := retentionInvariant_processBatch faults batchSize h
  unfold retentionIteration
  split
  · exact h
  · dsimp only
    split
    · exact hbatch
    · split
      · split
        · refine ⟨hbatch.committed_frame, hbatch.committed_frame, fun _ ha => ha,
            hbatch.committed_sub, ?_, ?_, hbatch.blobs, hbatch.touched⟩
          · intro a ha hgone
            have hold := hbatch.rollback.gone a ha hgone
            exact ⟨hold.1, gone_cons hold.2⟩
          · intro k hk
            cases List.mem_cons.mp hk with
            | inl heq => exact absurd heq (by simp)
            | inr hold => exact hbatch.blobGone k hold
        · exact hbatch.commit.congr rfl rfl rfl
      · exact hbatch

end

/-! ## 4. The loop ends

The measure is the number of candidates. It is taken between iterations, where the session has
nothing pending (`Settled`). -/

/-- Nothing is pending in the session. -/
def RetentionState.Settled (s : RetentionState) : Prop := s.session.working = s.session.committed

/-- Where a batch stands that began at `b`. -/
structure BatchInvariant (b s : RetentionState) : Prop where
  committed : s.session.committed = b.session.committed
  working_sub : ∀ a ∈ s.session.working.evidenceArtifacts,
    a ∈ b.session.committed.evidenceArtifacts
  settled : s.batchDeleted = 0 ∨ s.raised = true → s.Settled
  failed : ∀ id ∈ b.failedArtifactIds, id ∈ s.failedArtifactIds

section
variable {s s' b : RetentionState} {now : DateTime} {faults : RetentionFaults} {batchSize : Nat}
  {artifact a : EvidenceArtifact}

theorem BatchInvariant.outcome (h : BatchInvariant b s)
    (houtcome : ArtifactOutcome faults s artifact s') : BatchInvariant b s' := by
  have hrollback : ∀ a ∈ s.session.rollback.working.evidenceArtifacts,
      a ∈ b.session.committed.evidenceArtifacts := by
    intro a ha
    rw [← h.committed]
    exact ha
  cases houtcome with
  | skipped _ => exact h
  | storageError _ =>
    exact ⟨h.committed, h.working_sub, h.settled, fun id hid => .tail _ (h.failed id hid)⟩
  | flushError _ _ _ _ =>
    exact ⟨h.committed, hrollback, fun _ => rfl, fun id hid => .tail _ (h.failed id hid)⟩
  | flushRaised _ _ => exact ⟨h.committed, hrollback, fun _ => rfl, h.failed⟩
  | deleted hgoing _ =>
    refine ⟨h.committed, fun a ha => h.working_sub a (mem_deleteArtifact.mp ha).1, ?_, h.failed⟩
    intro hsettled
    cases hsettled with
    | inl hzero => exact absurd hzero (Nat.succ_ne_zero _)
    | inr hraised => exact absurd (hgoing.symm.trans hraised) (by decide)

theorem batchInvariant_processBatch (faults : RetentionFaults) (now : DateTime) (batchSize : Nat)
    (hs : s.Settled) : BatchInvariant s (processBatch faults now batchSize s) := by
  have hstart : BatchInvariant s { s with batchDeleted := 0 } := by
    refine ⟨rfl, ?_, fun _ => hs, fun _ hid => hid⟩
    intro a ha
    rw [← hs]
    exact ha
  exact (Run.always_of_step
    (fun s a hs => hs.outcome (processArtifact_outcome faults s a)) hstart).final

/-- The artifact a batch processes last is dealt with: it failed, or its row is gone. -/
theorem processBatch_last (hne : selectBatch now batchSize s ≠ [])
    (hgoing : (processBatch faults now batchSize s).raised = false) :
    ∃ a ∈ selectBatch now batchSize s,
      a.id ∈ (processBatch faults now batchSize s).failedArtifactIds ∨
        a ∉ (processBatch faults now batchSize s).session.working.evidenceArtifacts := by
  obtain ⟨batch, a, hbatch⟩ := (List.eq_nil_or_concat' _).resolve_left hne
  refine ⟨a, by simp [hbatch], ?_⟩
  unfold processBatch at hgoing ⊢
  rw [hbatch, Run.final_append, Run.final_cons, Run.final_nil] at hgoing ⊢
  generalize Run.final (processArtifact faults) { s with batchDeleted := 0 } batch = before
    at hgoing ⊢
  have houtcome := processArtifact_outcome faults before a
  generalize processArtifact faults before a = after at houtcome hgoing ⊢
  cases houtcome with
  | skipped hraised => exact absurd (hgoing.symm.trans hraised) (by decide)
  | storageError _ => exact .inl List.mem_cons_self
  | flushError _ _ _ _ => exact .inl List.mem_cons_self
  | flushRaised _ _ => exact absurd hgoing (by simp [RetentionState.flushRaised])
  | deleted _ _ => exact .inr fun ha => (mem_deleteArtifact.mp ha).2 rfl

theorem settled_iteration (hs : s.Settled) :
    (retentionIteration faults now batchSize s).1.Settled := by
  have hbatch := batchInvariant_processBatch faults now batchSize hs
  unfold retentionIteration
  split
  · exact hs
  · dsimp only
    split
    · rename_i hraised
      exact hbatch.settled (.inr hraised)
    · split
      · split
        · rfl
        · rfl
      · rename_i hzero
        exact hbatch.settled (.inl (by omega))

/-- What an iteration that goes on leaves in the session is what its batch left. -/
theorem iteration_going (hgoing : (retentionIteration faults now batchSize s).2 = false) :
    selectBatch now batchSize s ≠ [] ∧
      (processBatch faults now batchSize s).raised = false ∧
      (retentionIteration faults now batchSize s).1.session.working =
        (processBatch faults now batchSize s).session.working ∧
      (retentionIteration faults now batchSize s).1.failedArtifactIds =
        (processBatch faults now batchSize s).failedArtifactIds := by
  unfold retentionIteration at hgoing ⊢
  split at hgoing
  · exact absurd hgoing (by simp)
  · rename_i hne
    rw [if_neg hne]
    dsimp only at hgoing ⊢
    split at hgoing
    · exact absurd hgoing (by simp)
    · rename_i hraised
      rw [if_neg hraised]
      refine ⟨hne, by simpa using hraised, ?_⟩
      split at hgoing
      · rename_i hsome
        rw [if_pos hsome]
        split at hgoing
        · exact absurd hgoing (by simp)
        · rename_i hcommit
          rw [if_neg hcommit]
          exact ⟨rfl, rfl⟩
      · rename_i hzero
        rw [if_neg hzero]
        exact ⟨rfl, rfl⟩

theorem artifacts_nodup (t : Table EvidenceArtifact EvidenceArtifact.Clash) : t.rows.Nodup :=
  t.distinct.imp fun hclash heq => hclash (.inl (congrArg EvidenceArtifact.id heq))

/-- **An iteration that goes on leaves fewer candidates.** -/
theorem candidates_iteration_lt (hs : s.Settled)
    (hgoing : (retentionIteration faults now batchSize s).2 = false) :
    ((retentionIteration faults now batchSize s).1.candidates now).length <
      (s.candidates now).length := by
  obtain ⟨hne, hraised, hworking, hfailed⟩ := iteration_going hgoing
  have hbatch := batchInvariant_processBatch faults now batchSize hs
  obtain ⟨a, ha, hdone⟩ := processBatch_last hne hraised
  have hmem : a ∈ s.candidates now := mem_candidates_of_mem_selectBatch ha
  have hsub : (retentionIteration faults now batchSize s).1.candidates now ⊆
      (s.candidates now).erase a := by
    intro x hx
    obtain ⟨hxmem, hxexpired, hxfailed⟩ := mem_candidates.mp hx
    rw [hworking] at hxmem
    rw [hfailed] at hxfailed
    have hold : x ∈ s.candidates now := by
      refine mem_candidates.mpr ⟨?_, hxexpired, fun hid => hxfailed (hbatch.failed _ hid)⟩
      rw [hs]
      exact hbatch.working_sub x hxmem
    refine (List.mem_erase_of_ne ?_).mpr hold
    rintro rfl
    exact hdone.elim hxfailed fun hgone => hgone hxmem
  have hnodup : ((retentionIteration faults now batchSize s).1.candidates now).Nodup :=
    (artifacts_nodup _).filter _
  calc ((retentionIteration faults now batchSize s).1.candidates now).length
      ≤ ((s.candidates now).erase a).length := (List.subperm_of_subset hnodup hsub).length_le
    _ = (s.candidates now).length - 1 := List.length_erase_of_mem hmem
    _ < (s.candidates now).length := Nat.sub_lt (List.length_pos_of_mem hmem) Nat.one_pos

/-- The fuel of `runRetentionDeletion` is enough. -/
theorem runRetentionDeletion_ended (db : Database) (store : EvidenceStore) (now : DateTime)
    (batchSize : Nat) (faults : RetentionFaults) :
    (runRetentionDeletion db store now batchSize faults).2 = true := by
  refine Loop.ends_of_measure (fun s => (s.candidates now).length)
    (fun _ hs => settled_iteration hs) (fun _ hs => candidates_iteration_lt hs) rfl ?_
  exact Nat.lt_succ_of_le (List.length_filter_le _ _)

/-- With more fuel the run is the same. -/
theorem run_retentionIteration (db : Database) (store : EvidenceStore) (now : DateTime)
    (batchSize : Nat) (faults : RetentionFaults) {fuel : Nat}
    (h : db.evidenceArtifacts.rows.length < fuel) :
    Loop.run (retentionIteration faults now batchSize) fuel (.start db store) =
      runRetentionDeletion db store now batchSize faults :=
  Loop.run_of_le h (runRetentionDeletion_ended db store now batchSize faults)

/-- **The loop of `run_retention_deletion` ends**, whatever the store and the database answer, and
    for a batch size of zero too. Every iteration that goes on has deleted a candidate or put it
    among the failed ones, so there are fewer of them. -/
theorem retention_ends (db : Database) (store : EvidenceStore) (now : DateTime) (batchSize : Nat)
    (faults : RetentionFaults) :
    Loop.Ends (retentionIteration faults now batchSize) (.start db store) :=
  ⟨_, runRetentionDeletion_ended db store now batchSize faults⟩

end

end ProctorEngine
