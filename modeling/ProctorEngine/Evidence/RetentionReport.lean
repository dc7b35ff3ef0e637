import ProctorEngine.Evidence.Retention

/-!
# What a retention run reports

`ReportsTruth` is what one would like a run to leave behind: an exact count, nothing but expired
artifacts touched, each row gone after its blob, and a failure for every expired row that is still
there. The worker keeps it up to three things. Two artifacts whose URIs differ in the scheme only
share a blob; a failed batch commit breaks the run off before the rest was tried; and a failed flush
rolls back rows of its batch that stay counted.

The count needs an invariant of its own, since a batch counts as it flushes and not as it commits:
within a batch the rows of the session and those counted make up the rows that are committed
(`CountInvariant`), and between batches all rows ever taken are counted (`Counted`). A flush that
fails after others breaks the first, and only there is a run without one needed.

The other parts hold of every run, and come from the invariant of `Retention`.
-/

set_option autoImplicit false

namespace ProctorEngine

/-- The artifact rows of `db` that `db'` has no longer. -/
def artifactsGone (db db' : Database) : List EvidenceArtifact :=
  db.evidenceArtifacts.rows.filter (· ∉ db'.evidenceArtifacts)

/-- The database a run left. -/
def RetentionState.db (s : RetentionState) : Database := s.session.committed

/-- The row went, its blob had just gone before it, and is not there now. -/
def WentAfterItsBlob (s : RetentionState) (a : EvidenceArtifact) : Prop :=
  ∃ key before after, extractStorageKey a.storageUri = some key ∧ s.store key = none ∧
    s.effects = after ++ .rowFlushed a.id :: .blobGone key :: before

structure ReportsTruth (db : Database) (store : EvidenceStore) (now : DateTime)
    (s : RetentionState) : Prop where
  count : s.artifactsDeleted = (artifactsGone db s.db).length
  spared : ∀ a ∈ db.evidenceArtifacts, now ≤ a.retentionExpiresAt →
    a ∈ s.db.evidenceArtifacts ∧
      ∀ key, extractStorageKey a.storageUri = some key → s.store key = store key
  blobFirst : ∀ a ∈ artifactsGone db s.db, WentAfterItsBlob s a
  leftovers : ∀ a ∈ s.db.evidenceArtifacts, a.retentionExpiresAt < now →
    a.id ∈ s.failedArtifactIds

/-- The flush of the artifact's row is tried, and fails. -/
def RowFlushFails (faults : RetentionFaults) (s : RetentionState) (a : EvidenceArtifact) : Prop :=
  s.raised = false ∧ (extractStorageKey a.storageUri).isSome ∧
    faults.deleteFails s.tick = false ∧ faults.flushFails s.tick = true

/-- No row flush of the batch fails after another has gone through. -/
def BatchKeepsFlushes (faults : RetentionFaults) (now : DateTime) (batchSize : Nat)
    (s : RetentionState) : Prop :=
  Run.EachStep (processArtifact faults)
    (fun s a => RowFlushFails faults s a → s.batchDeleted = 0)
    { s with batchDeleted := 0 } (selectBatch now batchSize s)

/-- The same of every batch of a run. -/
def KeepsFlushes (db : Database) (store : EvidenceStore) (now : DateTime) (batchSize : Nat)
    (faults : RetentionFaults) : Prop :=
  Loop.EachIteration (retentionIteration faults now batchSize)
    (BatchKeepsFlushes faults now batchSize) (db.evidenceArtifacts.rows.length + 1)
    (.start db store)

/-! ## 1. The count -/

/-- The counters of a batch that began at `b`, as long as no exception has left it. -/
structure CountInvariant (b s : RetentionState) : Prop where
  committed : s.session.committed = b.session.committed
  deleted : s.artifactsDeleted = b.artifactsDeleted + s.batchDeleted
  rows : s.raised = false →
    s.batchDeleted + s.session.working.evidenceArtifacts.rows.length =
      s.session.committed.evidenceArtifacts.rows.length

/-- The rows a batch still has before it are there, in the session and in the database. -/
def Pending (s : RetentionState) (batch : List EvidenceArtifact) : Prop :=
  ∀ a ∈ batch, a ∈ s.session.working.evidenceArtifacts ∧
    a ∈ s.session.committed.evidenceArtifacts

section
variable {db : Database} {store : EvidenceStore} {now : DateTime} {faults : RetentionFaults}
  {batchSize : Nat} {b s s' : RetentionState} {artifact a : EvidenceArtifact}
  {batch : List EvidenceArtifact}

theorem length_deleteArtifact (h : artifact ∈ db.evidenceArtifacts) :
    (db.deleteArtifact artifact.id).evidenceArtifacts.rows.length + 1 =
      db.evidenceArtifacts.rows.length := by
  refine Table.length_deleteWhere ?_ h (by simp)
  intro x y hx hy
  simp only [decide_eq_true_eq] at hx hy
  exact .inl (hx.trans hy.symm)

theorem CountInvariant.outcome (h : CountInvariant b s)
    (hmem : artifact ∈ s.session.working.evidenceArtifacts)
    (hkeeps : RowFlushFails faults s artifact → s.batchDeleted = 0)
    (houtcome : ArtifactOutcome faults s artifact s') : CountInvariant b s' := by
  cases houtcome with
  | skipped _ => exact h
  | storageError _ => exact ⟨h.committed, h.deleted, h.rows⟩
  | flushError hgoing hkey hanswered hfailed =>
    -- the rollback takes back what was flushed before, which was nothing
    have hzero := hkeeps ⟨hgoing, by simp [hkey], hanswered, hfailed⟩
    refine ⟨h.committed, h.deleted, ?_⟩
    intro _
    show s.batchDeleted + s.session.committed.evidenceArtifacts.rows.length = _
    rw [hzero, Nat.zero_add]
    rfl
  | flushRaised _ _ =>
    exact ⟨h.committed, h.deleted, fun hraised => absurd hraised (by
      simp [RetentionState.flushRaised])⟩
  | deleted hgoing _ =>
    refine ⟨h.committed, by rw [RetentionState.deleted, h.deleted, Nat.add_assoc], ?_⟩
    intro _
    have hrows := h.rows hgoing
    have hlength := length_deleteArtifact hmem
    show s.batchDeleted + 1 +
      (s.session.working.deleteArtifact artifact.id).evidenceArtifacts.rows.length = _
    rw [← hlength] at hrows
    calc s.batchDeleted + 1 +
          (s.session.working.deleteArtifact artifact.id).evidenceArtifacts.rows.length
        = s.batchDeleted +
          ((s.session.working.deleteArtifact artifact.id).evidenceArtifacts.rows.length + 1) := by
          omega
      _ = s.session.committed.evidenceArtifacts.rows.length := hrows

theorem Pending.outcome (h : Pending s (artifact :: batch))
    (hids : ∀ a ∈ batch, a.id ≠ artifact.id)
    (houtcome : ArtifactOutcome faults s artifact s') : Pending s' batch := by
  intro a ha
  obtain ⟨hworking, hcommitted⟩ := h a (.tail _ ha)
  cases houtcome with
  | skipped _ => exact ⟨hworking, hcommitted⟩
  | storageError _ => exact ⟨hworking, hcommitted⟩
  | flushError _ _ _ _ => exact ⟨hcommitted, hcommitted⟩
  | flushRaised _ _ => exact ⟨hcommitted, hcommitted⟩
  | deleted _ _ => exact ⟨mem_deleteArtifact.mpr ⟨hworking, hids a ha⟩, hcommitted⟩

/-- A batch that loses no flush counts what it deletes. -/
theorem CountInvariant.run (h : CountInvariant b s) (hpending : Pending s batch)
    (hids : batch.Pairwise fun a a' => a'.id ≠ a.id)
    (hkeeps : Run.EachStep (processArtifact faults)
      (fun s a => RowFlushFails faults s a → s.batchDeleted = 0) s batch) :
    CountInvariant b (Run.final (processArtifact faults) s batch) := by
  induction batch generalizing s with
  | nil => exact h
  | cons artifact batch ih =>
    have houtcome := processArtifact_outcome faults s artifact
    obtain ⟨hfirst, hrest⟩ := List.pairwise_cons.mp hids
    have hmem := (hpending artifact List.mem_cons_self).1
    exact ih (h.outcome hmem hkeeps.1 houtcome) (hpending.outcome hfirst houtcome) hrest hkeeps.2

theorem selectBatch_ids : (selectBatch now batchSize s).Pairwise fun a a' => a'.id ≠ a.id := by
  have hnodup : (selectBatch now batchSize s).Nodup := by
    have hsorted : ((s.candidates now).insertionSort fun a b => a.id.toNat ≤ b.id.toNat).Nodup :=
      (List.perm_insertionSort _ _).nodup_iff.mpr ((artifacts_nodup _).filter _)
    exact hsorted.sublist (List.take_sublist _ _)
  refine hnodup.imp_of_mem ?_
  intro a a' ha ha' hne hid
  have hworking := (mem_candidates.mp (mem_candidates_of_mem_selectBatch ha)).1
  have hworking' := (mem_candidates.mp (mem_candidates_of_mem_selectBatch ha')).1
  exact hne (artifact_eq_of_id hworking hworking' hid.symm)

theorem countInvariant_processBatch (hs : s.Settled)
    (hkeeps : BatchKeepsFlushes faults now batchSize s) :
    CountInvariant s (processBatch faults now batchSize s) := by
  have hstart : CountInvariant s { s with batchDeleted := 0 } := by
    refine ⟨rfl, rfl, ?_⟩
    intro _
    show 0 + s.session.working.evidenceArtifacts.rows.length = _
    rw [Nat.zero_add, hs]
  refine hstart.run ?_ selectBatch_ids hkeeps
  intro a ha
  have hworking := (mem_candidates.mp (mem_candidates_of_mem_selectBatch ha)).1
  exact ⟨hworking, hs ▸ hworking⟩

/-- Between two iterations: what is counted and what is there make up what there was. -/
structure Counted (db : Database) (s : RetentionState) : Prop where
  settled : s.Settled
  rows : s.raised = false → s.artifactsDeleted + s.db.evidenceArtifacts.rows.length =
    db.evidenceArtifacts.rows.length

theorem raised_processBatch (h : s.raised = true) :
    (processBatch faults now batchSize s).raised = true := by
  have hstep : ∀ (s : RetentionState) (a : EvidenceArtifact), s.raised = true →
      (processArtifact faults s a).raised = true := by
    intro s a hs
    simp only [processArtifact, hs, if_true]
  have hstart : ({ s with batchDeleted := 0 } : RetentionState).raised = true := h
  exact (Run.always_of_step hstep hstart).final

theorem counted_iteration (h : Counted db s)
    (hkeeps : BatchKeepsFlushes faults now batchSize s) :
    Counted db (retentionIteration faults now batchSize s).1 := by
  refine ⟨settled_iteration h.settled, ?_⟩
  have hcount := countInvariant_processBatch h.settled hkeeps
  have hbatch := batchInvariant_processBatch faults now batchSize h.settled
  -- A batch never takes an exception back, so the state before it was still counted.
  have hgoing : (processBatch faults now batchSize s).raised = false → s.raised = false := by
    intro hafter
    cases hbefore : s.raised with
    | false => rfl
    | true => exact absurd (hafter.symm.trans (raised_processBatch hbefore)) (by decide)
  unfold retentionIteration
  split
  · exact h.rows
  · dsimp only
    generalize processBatch faults now batchSize s = s' at hcount hbatch hgoing
    have hdeleted := hcount.deleted
    split
    · rename_i hraised
      exact fun hfalse => absurd (hfalse.symm.trans hraised) (by decide)
    · rename_i hraised
      have hfalse : s'.raised = false := by simpa using hraised
      have hrows := h.rows (hgoing hfalse)
      have hcounted := hcount.rows hfalse
      have hcommitted : s'.session.committed = s.db := hcount.committed
      rw [hcommitted] at hcounted
      split
      -- a failed commit rolls back the rows of the batch and takes its deletions off the counter
      · split
        · intro _
          show s'.artifactsDeleted - s'.batchDeleted +
            s'.session.committed.evidenceArtifacts.rows.length = _
          rw [hcommitted]
          omega
        · intro _
          show s'.artifactsDeleted + s'.session.working.evidenceArtifacts.rows.length = _
          omega
      · intro _
        show s'.artifactsDeleted + s'.session.committed.evidenceArtifacts.rows.length = _
        rw [hcommitted]
        omega

/-- The rows a database has lost are its rows but for those that are left. -/
theorem length_artifactsGone {db db' : Database}
    (hsub : ∀ a ∈ db'.evidenceArtifacts, a ∈ db.evidenceArtifacts) :
    (artifactsGone db db').length + db'.evidenceArtifacts.rows.length =
      db.evidenceArtifacts.rows.length := by
  have hleft : (db.evidenceArtifacts.rows.filter (· ∈ db'.evidenceArtifacts)).Perm
      db'.evidenceArtifacts.rows := by
    refine (List.perm_ext_iff_of_nodup ((artifacts_nodup _).filter _) (artifacts_nodup _)).mpr ?_
    intro a
    rw [List.mem_filter, decide_eq_true_eq, Table.mem_rows, Table.mem_rows]
    exact ⟨And.right, fun ha => ⟨hsub a ha, ha⟩⟩
  have hsplit := List.length_eq_length_filter_add (l := db.evidenceArtifacts.rows)
    fun a => decide (a ∈ db'.evidenceArtifacts)
  rw [hleft.length_eq] at hsplit
  have hgone : (artifactsGone db db').length =
      (db.evidenceArtifacts.rows.filter fun a => !decide (a ∈ db'.evidenceArtifacts)).length := by
    simp [artifactsGone]
  omega

/-! ## 2. The end of a run -/

/-- A run ends because nothing is left to do, because a batch was backed out, or by an
    exception. -/
theorem iteration_ended (hsize : 1 ≤ batchSize)
    (hended : (retentionIteration faults now batchSize s).2 = true) :
    (retentionIteration faults now batchSize s).1.raised = true ∨
      (retentionIteration faults now batchSize s).1.candidates now = [] ∨
        .batchBackedOut ∈ (retentionIteration faults now batchSize s).1.effects := by
  unfold retentionIteration at hended ⊢
  split
  · rename_i hnone
    right; left
    show s.candidates now = []
    -- an empty batch of a positive size means no candidates
    have hlength := congrArg List.length hnone
    rw [selectBatch, List.length_take, List.length_insertionSort, List.length_nil] at hlength
    exact List.length_eq_zero_iff.mp (by omega)
  · rename_i hne
    rw [if_neg hne] at hended
    dsimp only at hended ⊢
    split
    · rename_i hraised
      exact .inl hraised
    · rename_i hraised
      rw [if_neg hraised] at hended
      split
      · rename_i hsome
        rw [if_pos hsome] at hended
        split
        · exact .inr (.inr List.mem_cons_self)
        · rename_i hcommit
          rw [if_neg hcommit] at hended
          exact absurd hended (by simp)
      · rename_i hzero
        rw [if_neg hzero] at hended
        exact absurd hended (by simp)

end

/-- What a run does leave behind. -/
structure RetentionReport (db : Database) (store : EvidenceStore) (now : DateTime)
    (batchSize : Nat) (faults : RetentionFaults) (s : RetentionState) : Prop where
  count : s.raised = false → KeepsFlushes db store now batchSize faults →
    s.artifactsDeleted = (artifactsGone db s.db).length
  spared : ∀ a ∈ db.evidenceArtifacts, now ≤ a.retentionExpiresAt → a ∈ s.db.evidenceArtifacts
  blobs : ∀ key, s.store key ≠ store key → ∃ a ∈ db.evidenceArtifacts,
    a.retentionExpiresAt < now ∧ extractStorageKey a.storageUri = some key
  blobFirst : ∀ a ∈ artifactsGone db s.db, WentAfterItsBlob s a
  leftovers : s.raised = false →
    (∀ a ∈ s.db.evidenceArtifacts, a.retentionExpiresAt < now → a.id ∈ s.failedArtifactIds) ∨
      .batchBackedOut ∈ s.effects

section
variable {db : Database} {store : EvidenceStore} {now : DateTime} {faults : RetentionFaults}
  {batchSize : Nat}

theorem retentionInvariant_run (db : Database) (store : EvidenceStore) (now : DateTime)
    (batchSize : Nat) (faults : RetentionFaults) :
    RetentionInvariant db store now (runRetentionDeletion db store now batchSize faults).1 :=
  Loop.run_invariant (T := fun _ => True) (fun _ hs _ => retentionInvariant_iteration hs)
    retentionInvariant_start (Loop.eachIteration_of_forall fun _ => trivial)

theorem settled_run (db : Database) (store : EvidenceStore) (now : DateTime) (batchSize : Nat)
    (faults : RetentionFaults) : (runRetentionDeletion db store now batchSize faults).1.Settled :=
  Loop.run_invariant (T := fun _ => True) (fun _ hs _ => settled_iteration hs) rfl
    (Loop.eachIteration_of_forall fun _ => trivial)

/-- A row the database has lost went after its blob, once it had expired. -/
theorem went_of_gone {a : EvidenceArtifact} (ha : a ∈ db.evidenceArtifacts)
    (hgone : a ∉ (runRetentionDeletion db store now batchSize faults).1.db.evidenceArtifacts) :
    a.retentionExpiresAt < now ∧
      WentAfterItsBlob (runRetentionDeletion db store now batchSize faults).1 a := by
  have h := retentionInvariant_run db store now batchSize faults
  have hsettled := settled_run db store now batchSize faults
  rw [RetentionState.db, ← hsettled] at hgone
  obtain ⟨hexpired, key, before, after, hkey, heffects⟩ := h.gone a ha hgone
  refine ⟨hexpired, key, before, after, hkey, h.blobGone key ?_, heffects⟩
  rw [heffects]
  simp

/-- **A run ends and tells the truth** about the rows it removed, the blobs it touched and the rows
    it left, short of a batch that is backed out; and about their number, if no flush is lost. This
    is the worker by design. A flush that fails after others takes their rows back and leaves them
    counted; the number is claimed of no such run. -/
theorem retention_report (db : Database) (store : EvidenceStore) (now : DateTime)
    (batchSize : Nat) (faults : RetentionFaults) (hsize : 1 ≤ batchSize) :
    (runRetentionDeletion db store now batchSize faults).2 = true ∧
      RetentionReport db store now batchSize faults
        (runRetentionDeletion db store now batchSize faults).1 := by
  have h := retentionInvariant_run db store now batchSize faults
  have hsettled := settled_run db store now batchSize faults
  refine ⟨runRetentionDeletion_ended db store now batchSize faults, ?_, ?_, h.touched, ?_, ?_⟩
  -- the count, by the invariant over the batches whose flushes hold
  · intro hreturned hkeeps
    have hstart : Counted db (.start db store) := ⟨rfl, fun _ => Nat.zero_add _⟩
    have hcounted : Counted db (runRetentionDeletion db store now batchSize faults).1 :=
      Loop.run_invariant (fun _ hs hkeeps => counted_iteration hs hkeeps) hstart hkeeps
    have hrows := hcounted.rows hreturned
    have hgone := length_artifactsGone h.committed_sub
    exact Nat.add_right_cancel (hrows.trans hgone.symm)
  -- an artifact before its horizon is never taken
  · intro a ha hkept
    by_contra hgone
    exact absurd (went_of_gone ha hgone).1 (not_lt.mpr hkept)
  · intro a ha
    obtain ⟨hmem, hgone⟩ := List.mem_filter.mp ha
    exact (went_of_gone hmem (by simpa using hgone)).2
  · intro hreturned
    -- A run that returned stopped for one of two reasons: no candidates were left, or a batch
    -- backed out.
    have hend : (runRetentionDeletion db store now batchSize faults).1.raised = true ∨
        (runRetentionDeletion db store now batchSize faults).1.candidates now = [] ∨
          .batchBackedOut ∈ (runRetentionDeletion db store now batchSize faults).1.effects :=
      Loop.run_ended (I := fun _ => True)
        (Q := fun s => s.raised = true ∨ s.candidates now = [] ∨ .batchBackedOut ∈ s.effects)
        (fun _ _ => trivial) (fun _ _ hended => iteration_ended hsize hended) trivial
        (runRetentionDeletion_ended db store now batchSize faults)
    obtain hraised | hnone | hbacked := hend
    · exact absurd (hreturned.symm.trans hraised) (by decide)
    · left
      intro a ha hexpired
      by_contra hfailed
      have hmem : a ∈ (runRetentionDeletion db store now batchSize faults).1.candidates now :=
        mem_candidates.mpr ⟨by rw [hsettled]; exact ha, hexpired, hfailed⟩
      rw [hnone] at hmem
      exact absurd hmem List.not_mem_nil
    · exact .inr hbacked

end

/-! ## 3. Three runs that do not report the truth -/

/-- An artifact under a URI, captured at the epoch. -/
def sampleArtifact (id flagId : UUID) (uri : String) (retentionExpiresAt : DateTime) :
    EvidenceArtifact where
  id := id
  flagId := flagId
  kind := .clip
  storageUri := uri
  contentSha256 := ""
  mediaType := "video/webm"
  byteSize := 0
  captureStartedAt := 0
  captureEndedAt := none
  retentionExpiresAt := retentionExpiresAt

/-- A database with two artifacts. -/
def artifactPair (a b : EvidenceArtifact) : Database :=
  { Database.empty with
    evidenceArtifacts := ((Table.single a).insert? b).getD (.single a) }

def expiredPair : Database :=
  artifactPair (sampleArtifact 5 1 "s3://evidence/a" 10) (sampleArtifact 6 2 "s3://evidence/b" 10)

/-- The second artifact is not due, and is stored under the first one's key. -/
def sharedBlob : Database :=
  artifactPair (sampleArtifact 5 1 "s3://evidence/a" 10) (sampleArtifact 6 2 "evidence/a" 30)

def sampleStore : EvidenceStore := fun key =>
  if key = "evidence/a" ∨ key = "evidence/b" then some [] else none

def RetentionFaults.none : RetentionFaults := ⟨fun _ => false, fun _ => false, fun _ => false,
  fun _ => false⟩

/-- Two expired artifacts in one batch, and every call answered. -/
theorem retention_report_expiredPair :
    (runRetentionDeletion expiredPair sampleStore 20 2 .none).2 = true ∧
      RetentionReport expiredPair sampleStore 20 2 .none
        (runRetentionDeletion expiredPair sampleStore 20 2 .none).1 :=
  retention_report expiredPair sampleStore 20 2 .none (by decide)

/-- A failed commit leaves a row that was never tried, two URIs share a blob, and a rolled back
    row is counted twice. -/
theorem retention_not_truthful :
    ¬ ReportsTruth expiredPair sampleStore 20 (runRetentionDeletion expiredPair sampleStore 20 1
        { RetentionFaults.none with commitFails := fun _ => true }).1 ∧
      ¬ ReportsTruth sharedBlob sampleStore 20
        (runRetentionDeletion sharedBlob sampleStore 20 1 .none).1 ∧
      ¬ ReportsTruth expiredPair sampleStore 20 (runRetentionDeletion expiredPair sampleStore 20 2
        { RetentionFaults.none with flushFails := fun tick => tick = 1 }).1 := by
  refine ⟨?_, ?_, ?_⟩
  · intro h
    have hleft := h.leftovers (sampleArtifact 6 2 "s3://evidence/b" 10) (by decide +kernel)
      (by decide)
    exact absurd hleft (by decide +kernel)
  · intro h
    have hblob := (h.spared (sampleArtifact 6 2 "evidence/a" 30) (by decide +kernel)
      (by decide)).2 "evidence/a" (by decide +kernel)
    exact absurd hblob (by decide +kernel)
  · intro h
    exact absurd h.count (by decide +kernel)

end ProctorEngine
