import ProctorEngine.Evidence.RetentionReport
import ProctorEngine.Orchestration.AlreadySealed
import ProctorEngine.Orchestration.Routes

/-!
# How long evidence lives

The evidence route, the service behind it and the retention worker together. The service has a
default horizon for a request without one; the route never makes such a request, because it
puts its own clock where the client gave nothing, so **evidence without a requested horizon
expires as it is sealed**.

Blobs are written before rows, and the worker finds blobs through rows. A blob that a failed
seal leaves without a row stays: retention runs neither make nor reclaim orphans
(`noOrphan_retain_iff`).
-/

set_option autoImplicit false

namespace ProctorEngine
namespace EvidenceLifetime

/-! ## 1. The route and the worker

The route reads the clock twice, for the stamp and in the service. The router of `Routes` is the
special case of one reading. -/

section
variable (sha256 : Blob → String)

/-- `post_seal_evidence`: `stampedAt` is the clock at the first of its two reads, for the
    horizon, and `choices.now` the clock at the second, for the service. -/
def postSealEvidence (s : EvidenceState) (upload : EvidenceUpload) (stampedAt : DateTime)
    (choices : SealChoices) : EvidenceState × Except RouteError EvidenceArtifact :=
  match upload.toRequest stampedAt with
  | none => (s, .error .validation)
  | some request =>
    let (s', result) := sealEvidenceForFlag sha256 s request choices
    (s', match result with
      | .error e => .error e.routeError
      | .ok artifact => .ok artifact)

/-- The router's handler is this one with the two reads at one instant. -/
theorem handle_postSealEvidence (deps : OrchestrationDeps) (s : EvidenceState)
    (authorization : Option String) (receivedAt : DateTime) (upload : EvidenceUpload)
    (choices : SealChoices) :
    (deps.handle s ⟨authorization, receivedAt, .postSealEvidence upload choices⟩).1 =
      (postSealEvidence deps.sha256 s upload choices.now choices).1 := by
  simp only [OrchestrationDeps.handle, postSealEvidence]
  cases upload.toRequest choices.now with
  | none => rfl
  | some request => rfl

/-- The committed rows and the store after a retention run. -/
def retain (s : EvidenceState) (now : DateTime) (batchSize : Nat) (faults : RetentionFaults) :
    EvidenceState :=
  let run := (runRetentionDeletion s.db s.store now batchSize faults).1
  ⟨run.db, run.store⟩

end

section
variable {sha256 : Blob → String} {s s' : EvidenceState} {now : DateTime} {batchSize : Nat}
  {faults : RetentionFaults} {a artifact : EvidenceArtifact} {key : String}

theorem mem_of_mem_retain (h : a ∈ (retain s now batchSize faults).db.evidenceArtifacts) :
    a ∈ s.db.evidenceArtifacts :=
  (retentionInvariant_run s.db s.store now batchSize faults).committed_sub a h

/-- A run takes away blobs and brings none. -/
theorem retain_store (key : String) :
    (retain s now batchSize faults).store key = s.store key ∨
      (retain s now batchSize faults).store key = none :=
  (retentionInvariant_run s.db s.store now batchSize faults).blobs key

theorem retain_touched (h : (retain s now batchSize faults).store key ≠ s.store key) :
    ∃ a ∈ s.db.evidenceArtifacts, a.retentionExpiresAt < now ∧
      extractStorageKey a.storageUri = some key :=
  (retentionInvariant_run s.db s.store now batchSize faults).touched key h

/-- A row that went left no blob at its key. -/
theorem retain_gone (ha : a ∈ s.db.evidenceArtifacts)
    (hgone : a ∉ (retain s now batchSize faults).db.evidenceArtifacts) :
    a.retentionExpiresAt < now ∧ ∃ key, extractStorageKey a.storageUri = some key ∧
      (retain s now batchSize faults).store key = none := by
  obtain ⟨hexpired, key, before, after, hkey, hnone, -⟩ := went_of_gone ha hgone
  exact ⟨hexpired, key, hkey, hnone⟩

/-- The seal request goes through exactly when it is refused for no reason at all. -/
theorem sealEvidenceForFlag_ok_iff {request : SealEvidenceRequest} {c : SealChoices} :
    (sealEvidenceForFlag sha256 s request c).2 = .ok artifact ↔
      CrossSessionLinks.Files sha256 s (request, c) ∧ artifact = artifactOf sha256 request c := by
  rw [sealEvidenceForFlag_snd, sealOutcome_ok_iff]
  refine and_congr_left fun _ => ?_
  constructor
  · rintro ⟨hreached, hrow⟩
    exact ⟨hreached.size, hreached.uploaded, hreached.checksum, hreached.answered, hrow⟩
  · intro h
    exact ⟨⟨h.size, h.row.flag, h.uploaded, h.checksum, h.committed⟩, h.row⟩

/-- Every artifact is stored under the scheme the service writes. -/
def Addressed (db : Database) : Prop :=
  ∀ a ∈ db.evidenceArtifacts, ∃ key, a.storageUri = storageUri key

/-! ## 2. The horizon

`postSealEvidence_ok_iff` says what a sealed upload leaves, so the property comes down to one
equation between two times. -/

/-- The horizon an upload asks for, or else the deployment's default. -/
def horizon (upload : EvidenceUpload) (choices : SealChoices) : DateTime :=
  upload.retentionExpiresAt.getD (choices.now + choices.defaultRetentionSeconds * 1000000)

/-- A sealed upload carries its horizon, and no earlier retention run touches it. -/
def LivesUntilHorizon (sha256 : Blob → String) (s : EvidenceState) (upload : EvidenceUpload)
    (stampedAt : DateTime) (choices : SealChoices) : Prop :=
  ∀ s' artifact, postSealEvidence sha256 s upload stampedAt choices = (s', .ok artifact) →
    artifact.retentionExpiresAt = horizon upload choices ∧
      ∀ now batchSize faults, now < horizon upload choices →
        artifact ∈ (retain s' now batchSize faults).db.evidenceArtifacts ∧
          ∀ key, extractStorageKey artifact.storageUri = some key →
            (retain s' now batchSize faults).store key = s'.store key

/-- The upload is sealed. -/
def Seals (sha256 : Blob → String) (s : EvidenceState) (upload : EvidenceUpload)
    (stampedAt : DateTime) (choices : SealChoices) : Prop :=
  ∃ request, upload.toRequest stampedAt = some request ∧
    CrossSessionLinks.Files sha256 s (request, choices)

section
variable {upload : EvidenceUpload} {stampedAt : DateTime} {choices : SealChoices}
  {request : SealEvidenceRequest}

theorem toRequest_retentionExpiresAt (h : upload.toRequest stampedAt = some request) :
    request.retentionExpiresAt = some (upload.retentionExpiresAt.getD stampedAt) := by
  unfold EvidenceUpload.toRequest at h
  split at h
  · exact absurd h (by simp)
  · split at h
    · obtain rfl := Option.some.inj h
      rfl
    · exact absurd h (by simp)

/-- The row of a sealed upload expires at the client's horizon, or at the route's clock. -/
theorem postSealEvidence_ok_iff :
    postSealEvidence sha256 s upload stampedAt choices = (s', .ok artifact) ↔
      ∃ request, upload.toRequest stampedAt = some request ∧
        CrossSessionLinks.Files sha256 s (request, choices) ∧
        artifact = artifactOf sha256 request choices ∧
        s' = EvidenceRuns.step sha256 s (request, choices) := by
  unfold postSealEvidence
  cases hrequest : upload.toRequest stampedAt with
  | none => simp
  | some request =>
    have hok : (sealEvidenceForFlag sha256 s request choices).2 = .ok artifact ↔
        CrossSessionLinks.Files sha256 s (request, choices) ∧
          artifact = artifactOf sha256 request choices := sealEvidenceForFlag_ok_iff
    simp only [Option.some.injEq, exists_eq_left', Prod.mk.injEq]
    rw [← and_assoc, ← hok]
    cases hresult : (sealEvidenceForFlag sha256 s request choices).2 with
    | error e => simp
    | ok a => simp [EvidenceRuns.step, eq_comm, and_comm]

theorem artifactOf_retentionExpiresAt (h : upload.toRequest stampedAt = some request) :
    (artifactOf sha256 request choices).retentionExpiresAt =
      upload.retentionExpiresAt.getD stampedAt := by
  simp [artifactOf, toRequest_retentionExpiresAt h]

/-- Where every artifact is addressed, no run that comes before an artifact's horizon touches
    it. -/
theorem retain_spares (haddressed : Addressed s.db) (ha : a ∈ s.db.evidenceArtifacts)
    (hearly : now ≤ a.retentionExpiresAt) :
    a ∈ (retain s now batchSize faults).db.evidenceArtifacts ∧
      ∀ key, extractStorageKey a.storageUri = some key →
        (retain s now batchSize faults).store key = s.store key := by
  constructor
  · by_contra hgone
    exact absurd (retain_gone ha hgone).1 (not_lt.mpr hearly)
  · intro key hkey
    by_contra htouched
    obtain ⟨b, hb, hexpired, hkey'⟩ := retain_touched htouched
    obtain ⟨k, huri⟩ := haddressed a ha
    obtain ⟨k', huri'⟩ := haddressed b hb
    rw [huri, extractStorageKey_storageUri, Option.some.injEq] at hkey
    rw [huri', extractStorageKey_storageUri, Option.some.injEq] at hkey'
    have hclash : EvidenceArtifact.Clash a b := by
      refine .inr (.inr ?_)
      rw [huri, huri', hkey, hkey']
    obtain rfl : a = b := Table.eq_of_clash ha hb hclash
    exact absurd hexpired (not_lt.mpr hearly)

/-- A request adds its row if it goes through, and nothing else. -/
theorem mem_step {r : EvidenceRuns.Sealing} :
    a ∈ (EvidenceRuns.step sha256 s r).db.evidenceArtifacts ↔
      a ∈ s.db.evidenceArtifacts ∨
        (CrossSessionLinks.Files sha256 s r ∧ a = artifactOf sha256 r.1 r.2) := by
  have hdb : (CrossSessionLinks.Files sha256 s r ∧
      s.db.insertArtifact (artifactOf sha256 r.1 r.2) =
        some (EvidenceRuns.step sha256 s r).db) ∨
      (¬ CrossSessionLinks.Files sha256 s r ∧ (EvidenceRuns.step sha256 s r).db = s.db) :=
    CrossSessionLinks.sealEvidence_db r
  cases hdb with
  | inl hfiled => simp [EvidenceRuns.mem_insertArtifact hfiled.2, hfiled.1]
  | inr hsame => simp [hsame.1, hsame.2]

theorem addressed_step (haddressed : Addressed s.db) (r : EvidenceRuns.Sealing) :
    Addressed (EvidenceRuns.step sha256 s r).db := by
  intro a ha
  cases mem_step.mp ha with
  | inl hold => exact haddressed a hold
  | inr hnew => exact ⟨r.1.key, by rw [hnew.2]; rfl⟩

/-- **Evidence lives until its horizon exactly when the client names one**, or the route's clock
    happens to read the default horizon. The route puts its own time where the client has named
    none, so the default of the service is never reached. -/
theorem livesUntilHorizon_iff (sha256 : Blob → String) (s : EvidenceState)
    (upload : EvidenceUpload) (stampedAt : DateTime) (choices : SealChoices)
    (haddressed : Addressed s.db) :
    LivesUntilHorizon sha256 s upload stampedAt choices ↔
      (Seals sha256 s upload stampedAt choices → upload.retentionExpiresAt.isSome ∨
        stampedAt = choices.now + choices.defaultRetentionSeconds * 1000000) := by
  have hstamp : upload.retentionExpiresAt.getD stampedAt = horizon upload choices ↔
      upload.retentionExpiresAt.isSome ∨
        stampedAt = choices.now + choices.defaultRetentionSeconds * 1000000 := by
    unfold horizon
    cases upload.retentionExpiresAt with
    | none => simp
    | some _ => simp
  constructor
  -- the property at the sealing itself gives the stamp
  · rintro h ⟨request, hrequest, hfiles⟩
    have hsealed := (h _ _ (postSealEvidence_ok_iff.mpr ⟨request, hrequest, hfiles, rfl, rfl⟩)).1
    rw [artifactOf_retentionExpiresAt hrequest] at hsealed
    exact hstamp.mp hsealed
  · intro h s' artifact hok
    obtain ⟨request, hrequest, hfiles, rfl, rfl⟩ := postSealEvidence_ok_iff.mp hok
    have hretention : (artifactOf sha256 request choices).retentionExpiresAt =
        horizon upload choices := by
      rw [artifactOf_retentionExpiresAt hrequest]
      exact hstamp.mpr (h ⟨request, hrequest, hfiles⟩)
    refine ⟨hretention, ?_⟩
    intro now batchSize faults hearly
    exact retain_spares (addressed_step haddressed _) (mem_step.mpr (.inr ⟨hfiles, rfl⟩))
      (hretention ▸ le_of_lt hearly)

end

end

/-- A clip for the flag of `EvidenceRuns.unsealed`, to be kept until `retentionExpiresAt`. -/
def clipUpload (retentionExpiresAt : Option DateTime) : EvidenceUpload :=
  ⟨1, 4, "clip", "video/webm", 0, some 10, retentionExpiresAt, []⟩

/-- A horizon that is asked for is kept. -/
theorem livesUntilHorizon_clip :
    LivesUntilHorizon EvidenceRuns.digest EvidenceRuns.unsealed (clipUpload (some 50)) 20
        (EvidenceRuns.sealClip [] 5).2 ↔
      (Seals EvidenceRuns.digest EvidenceRuns.unsealed (clipUpload (some 50)) 20
          (EvidenceRuns.sealClip [] 5).2 →
        (clipUpload (some 50)).retentionExpiresAt.isSome ∨
          (20 : DateTime) = (EvidenceRuns.sealClip [] 5).2.now +
            (EvidenceRuns.sealClip [] 5).2.defaultRetentionSeconds * 1000000) :=
  livesUntilHorizon_iff EvidenceRuns.digest EvidenceRuns.unsealed (clipUpload (some 50)) 20
    (EvidenceRuns.sealClip [] 5).2 fun _ ha => absurd ha Table.not_mem_empty

/-- Without one the artifact expires as it is sealed, and the next run deletes it. -/
theorem clip_not_livesUntilHorizon :
    ¬ LivesUntilHorizon EvidenceRuns.digest EvidenceRuns.unsealed (clipUpload none) 20
      (EvidenceRuns.sealClip [] 5).2 := by
  intro h
  have hok : (postSealEvidence EvidenceRuns.digest EvidenceRuns.unsealed (clipUpload none) 20
      (EvidenceRuns.sealClip [] 5).2).2 = .ok (artifactOf EvidenceRuns.digest
        { (EvidenceRuns.sealClip [] 5).1 with retentionExpiresAt := some 20 }
        (EvidenceRuns.sealClip [] 5).2) := by decide +kernel
  have hkept := (h _ _ (Prod.ext rfl hok)).2 21 100 .none (by decide)
  exact absurd hkept.1 (by decide +kernel)

/-! ## 3. Blobs without a row

A blob under `evidence/` without a row. A seal can leave one and a retention run cannot; a later
seal of the same key may give it a row, and a retention run never takes it away. -/

/-- A request to seal, or a retention run, with what the environment answers. -/
inductive Event where
  | sealing (r : EvidenceRuns.Sealing)
  | retention (now : DateTime) (batchSize : Nat) (faults : RetentionFaults)

def step (sha256 : Blob → String) (s : EvidenceState) : Event → EvidenceState
  | .sealing r => EvidenceRuns.step sha256 s r
  | .retention now batchSize faults => retain s now batchSize faults

/-- Some artifact row points at the key. -/
def Referenced (s : EvidenceState) (key : String) : Prop :=
  ∃ a ∈ s.db.evidenceArtifacts, extractStorageKey a.storageUri = some key

/-- Every blob under `evidence/` is referenced by an artifact row. -/
def NoOrphan (s : EvidenceState) : Prop :=
  ∀ key, "evidence/".toList <+: key.toList → (s.store key).isSome → Referenced s key

/-- The same after a retention run in which the store answers every call. -/
def Reclaimed (s : EvidenceState) : Prop :=
  ∀ now batchSize faults, (∀ tick, faults.deleteFails tick = false) →
    NoOrphan (retain s now batchSize faults)

/-- A request whose upload goes through files its row, or finds the key referenced, or deletes
    the upload again. -/
def LeavesNoOrphan (sha256 : Blob → String) (s : EvidenceState) : Event → Prop
  | .sealing r => EvidenceRuns.Uploads s r →
    CrossSessionLinks.Files sha256 s r ∨ Referenced s r.1.key ∨
      r.2.answers.DeletesUpload (sha256 r.1.blob)
  | .retention _ _ _ => True

section
variable {sha256 : Blob → String} {s : EvidenceState} {now : DateTime} {batchSize : Nat}
  {faults : RetentionFaults} {r : EvidenceRuns.Sealing}

/-- **A retention run makes no orphan and reclaims none.** -/
theorem noOrphan_retain_iff : NoOrphan (retain s now batchSize faults) ↔ NoOrphan s := by
  constructor
  · intro h key hunder hsome
    by_cases htouched : (retain s now batchSize faults).store key = s.store key
    · obtain ⟨a, ha, hkey⟩ := h key hunder (htouched ▸ hsome)
      exact ⟨a, mem_of_mem_retain ha, hkey⟩
    · obtain ⟨a, ha, -, hkey⟩ := retain_touched htouched
      exact ⟨a, ha, hkey⟩
  · intro h key hunder hsome
    have hbefore : (s.store key).isSome := by
      have hstore : (retain s now batchSize faults).store key = s.store key ∨
          (retain s now batchSize faults).store key = none := retain_store key
      cases hstore with
      | inl hsame => exact hsame ▸ hsome
      | inr hnone =>
        rw [hnone] at hsome
        exact absurd hsome (by simp)
    obtain ⟨a, ha, hkey⟩ := h key hunder hbefore
    by_contra hnot
    have hgone : a ∉ (retain s now batchSize faults).db.evidenceArtifacts := fun hstill =>
      hnot ⟨a, hstill, hkey⟩
    obtain ⟨-, key', hkey', hnone⟩ := retain_gone ha hgone
    obtain rfl : key = key' := Option.some.inj (hkey.symm.trans hkey')
    rw [hnone] at hsome
    exact absurd hsome (by simp)

theorem reclaimed_iff : Reclaimed s ↔ NoOrphan s := by
  constructor
  · intro h
    exact noOrphan_retain_iff.mp (h 0 1 .none fun _ => rfl)
  · intro h now batchSize faults _
    exact noOrphan_retain_iff.mpr h

/-- The key of a request is under `evidence/`. -/
theorem evidence_key (request : SealEvidenceRequest) :
    "evidence/".toList <+: request.key.toList := by
  unfold SealEvidenceRequest.key
  delta buildStorageKey
  simp only [String.toList_append, List.append_assoc]
  exact List.prefix_append _ _

theorem noOrphan_sealing_iff (h : NoOrphan s) :
    NoOrphan (EvidenceRuns.step sha256 s r) ↔ LeavesNoOrphan sha256 s (.sealing r) := by
  constructor
  · intro hafter huploads
    by_cases hdeletes : r.2.answers.DeletesUpload (sha256 r.1.blob)
    · exact .inr (.inr hdeletes)
    · have hblob : (EvidenceRuns.step sha256 s r).store r.1.key = some r.1.blob := by
        rw [EvidenceRuns.step_store_of_uploads huploads]
        exact (sealEvidence_self huploads.2.2).mpr hdeletes
      obtain ⟨a, ha, hkey⟩ := hafter r.1.key (evidence_key r.1) (by simp [hblob])
      cases mem_step.mp ha with
      | inl hold => exact .inr (.inl ⟨a, hold, hkey⟩)
      | inr hnew => exact .inl hnew.1
  · intro hleaves key hunder hsome
    -- Only the key of the request can gain a blob, and only by an upload that is not deleted.
    by_cases hself : key = r.1.key
    · subst hself
      by_cases huploads : EvidenceRuns.Uploads s r
      · obtain hfiles | ⟨a, ha, hkey⟩ | hdeletes := hleaves huploads
        · exact ⟨artifactOf sha256 r.1 r.2, mem_step.mpr (.inr ⟨hfiles, rfl⟩),
            extractStorageKey_storageUri⟩
        · exact ⟨a, mem_step.mpr (.inl ha), hkey⟩
        · rw [EvidenceRuns.step_store_of_uploads huploads,
            sealEvidence_deleted huploads.2.2 hdeletes] at hsome
          exact absurd hsome (by simp)
      · rw [EvidenceRuns.step_store_of_not_uploads huploads] at hsome
        obtain ⟨a, ha, hkey⟩ := h _ hunder hsome
        exact ⟨a, mem_step.mpr (.inl ha), hkey⟩
    · rw [EvidenceRuns.step_store_of_ne hself] at hsome
      obtain ⟨a, ha, hkey⟩ := h key hunder hsome
      exact ⟨a, mem_step.mpr (.inl ha), hkey⟩

end

/-- **Retention reclaims every blob without a row exactly along the runs that leave none.** The
    worker walks the rows, so a blob without one is out of its reach, whatever became of the row. -/
theorem reclaimed_iff_leavesNoOrphan (sha256 : Blob → String) (s : EvidenceState)
    (events : List Event) :
    Run.Always (step sha256) Reclaimed s events ↔
      NoOrphan s ∧ Run.EachStep (step sha256) (LeavesNoOrphan sha256) s events := by
  have hrun : Run.Always (step sha256) NoOrphan s events ↔
      NoOrphan s ∧ Run.EachStep (step sha256) (LeavesNoOrphan sha256) s events := by
    apply Run.always_iff_head_and_eachStep
    intro s event hs
    cases event with
    | sealing r => exact noOrphan_sealing_iff hs
    | retention now batchSize faults => exact iff_of_true (noOrphan_retain_iff.mpr hs) trivial
  rw [← hrun]
  exact ⟨fun h => h.mono fun _ => reclaimed_iff.mp, fun h => h.mono fun _ => reclaimed_iff.mpr⟩

/-- A checksum that cannot be read leaves the upload without a row, and no retention run finds
    it. -/
theorem unreadChecksum_not_reclaimed :
    ¬ ∀ (s : EvidenceState) (events : List Event),
      Reclaimed (Run.final (step EvidenceRuns.digest) s events) := by
  intro h
  have horphan := reclaimed_iff.mp (h EvidenceRuns.unsealed
    [.sealing ((EvidenceRuns.sealClip [] 5).1,
      { (EvidenceRuns.sealClip [] 5).2 with answers := ⟨false, none, false⟩ })])
  obtain ⟨a, ha, -⟩ := horphan (EvidenceRuns.sealClip [] 5).1.key (evidence_key _)
    (by decide +kernel)
  have hnone : (Run.final (step EvidenceRuns.digest) EvidenceRuns.unsealed
      [.sealing ((EvidenceRuns.sealClip [] 5).1,
        { (EvidenceRuns.sealClip [] 5).2 with
          answers := ⟨false, none, false⟩ })]).db.evidenceArtifacts.rows = [] := by
    decide +kernel
  rw [← Table.mem_rows, hnone] at ha
  exact absurd ha List.not_mem_nil

end EvidenceLifetime
end ProctorEngine
