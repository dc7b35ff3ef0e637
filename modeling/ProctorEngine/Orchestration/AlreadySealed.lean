import ProctorEngine.Orchestration.CrossSessionLinks

/-!
# What "already sealed" means

`EvidenceAlreadySealedError` is documented as the flag having an artifact already, and the
handler of the commit's `IntegrityError` says that only this case is a 409. The handler looks
for the constraint's name and raises the same error either way, and so does the lookup that
finds no flag: **the error is every refusal of the row**.

The database may change between the lookup and the commit, so the outcome is a function of
both states.
-/

set_option autoImplicit false

namespace ProctorEngine

/-! ## 1. The outcome of a seal -/

/-- What `seal_evidence_for_flag` returns or raises, when the flag is looked up in `found` and
    the row is committed to `atCommit`. -/
def sealOutcome (sha256 : Blob → String) (found atCommit : Database) (store : EvidenceStore)
    (request : SealEvidenceRequest) (c : SealChoices) : Except SealError EvidenceArtifact :=
  if maxBlobBytes < request.blob.length then .error (.blobTooLarge request.blob.length)
  else if (found.getFlag request.flagId).isNone then .error .alreadySealed
  else if !(sealEvidence sha256 store request c.answers).2 then .error .sealFailed
  else if c.commitFails then .error .commitFailed
  else
    match atCommit.insertArtifact (artifactOf sha256 request c) with
    -- `uq_evidence_artifacts_one_per_flag` or any other constraint
    | none => .error .alreadySealed
    | some _ => .ok (artifactOf sha256 request c)

/-- The request gets as far as the commit, and the constraints decide it. -/
structure ReachesCommit (sha256 : Blob → String) (found : Database)
    (request : SealEvidenceRequest) (c : SealChoices) : Prop where
  size : request.blob.length ≤ maxBlobBytes
  found : (found.getFlag request.flagId).isSome
  uploaded : c.answers.uploadFails = false
  checksum : c.answers.remoteSha256 = some (sha256 request.blob)
  answered : c.commitFails = false

/-- The flag exists and has an artifact row. -/
def IsSealed (db : Database) (flagId : UUID) : Prop :=
  (db.getFlag flagId).isSome ∧ ∃ row ∈ db.evidenceArtifacts, row.flagId = flagId

section
variable {sha256 : Blob → String} {found atCommit : Database} {store : EvidenceStore}
  {request : SealEvidenceRequest} {c : SealChoices} {s : EvidenceState}
  {artifact : EvidenceArtifact}

theorem sealEvidenceForFlag_snd :
    (sealEvidenceForFlag sha256 s request c).2 =
      sealOutcome sha256 s.db s.db s.store request c := by
  unfold sealEvidenceForFlag sealOutcome
  split
  · rfl
  · split
    · rfl
    · dsimp only
      split
      · rfl
      · split
        · rfl
        · cases s.db.insertArtifact (artifactOf sha256 request c) with
          | none => rfl
          | some db => rfl

/-- Everything a seal request can end in. -/
inductive SealEnd (sha256 : Blob → String) (found atCommit : Database)
    (request : SealEvidenceRequest) (c : SealChoices) : Except SealError EvidenceArtifact → Prop
  | blobTooLarge (size : maxBlobBytes < request.blob.length) :
      SealEnd sha256 found atCommit request c (.error (.blobTooLarge request.blob.length))
  | flagMissing (size : request.blob.length ≤ maxBlobBytes)
      (missing : found.getFlag request.flagId = none) :
      SealEnd sha256 found atCommit request c (.error .alreadySealed)
  | sealFailed (flag : (found.getFlag request.flagId).isSome)
      (not_reached : ¬ ReachesCommit sha256 found request c) :
      SealEnd sha256 found atCommit request c (.error .sealFailed)
  | commitFailed (flag : (found.getFlag request.flagId).isSome)
      (not_reached : ¬ ReachesCommit sha256 found request c) :
      SealEnd sha256 found atCommit request c (.error .commitFailed)
  | refused (reached : ReachesCommit sha256 found request c)
      (violates : ¬ CrossSessionLinks.ArtifactInsertable atCommit (artifactOf sha256 request c)) :
      SealEnd sha256 found atCommit request c (.error .alreadySealed)
  | filed (reached : ReachesCommit sha256 found request c)
      (meets : CrossSessionLinks.ArtifactInsertable atCommit (artifactOf sha256 request c)) :
      SealEnd sha256 found atCommit request c (.ok (artifactOf sha256 request c))

theorem sealOutcome_end (sha256 : Blob → String) (found atCommit : Database)
    (store : EvidenceStore) (request : SealEvidenceRequest) (c : SealChoices) :
    SealEnd sha256 found atCommit request c
      (sealOutcome sha256 found atCommit store request c) := by
  unfold sealOutcome
  -- One end a guard, in the order of the service.
  by_cases hsize : maxBlobBytes < request.blob.length
  · rw [if_pos hsize]
    exact .blobTooLarge hsize
  rw [if_neg hsize]
  cases hflag : found.getFlag request.flagId with
  | none =>
    rw [if_pos (by rfl)]
    exact .flagMissing (not_lt.mp hsize) hflag
  | some flag =>
    rw [if_neg (by simp)]
    cases hseal : (sealEvidence sha256 store request c.answers).2 with
    | false =>
      refine .sealFailed (by simp [hflag]) fun h => ?_
      rw [sealEvidence_snd_iff.mpr ⟨h.uploaded, h.checksum⟩] at hseal
      exact absurd hseal (by simp)
    | true =>
      simp only [Bool.not_true, Bool.false_eq_true, if_false]
      obtain ⟨huploaded, hchecksum⟩ := sealEvidence_snd_iff.mp hseal
      cases hcommit : c.commitFails with
      | true =>
        refine .commitFailed (by simp [hflag]) fun h => ?_
        exact absurd (hcommit.symm.trans h.answered) (by decide)
      | false =>
        simp only [Bool.false_eq_true, if_false]
        have hreached : ReachesCommit sha256 found request c :=
          ⟨not_lt.mp hsize, by simp [hflag], huploaded, hchecksum, hcommit⟩
        -- Every `IntegrityError` of the commit ends here, whichever constraint refused.
        cases hinsert : atCommit.insertArtifact (artifactOf sha256 request c) with
        | none =>
          refine .refused hreached fun h => ?_
          have hsome := CrossSessionLinks.insertArtifact_isSome_iff.mpr h
          rw [hinsert] at hsome
          exact absurd hsome (by simp)
        | some db =>
          exact .filed hreached
            (CrossSessionLinks.insertArtifact_isSome_iff.mp (Option.isSome_of_eq_some hinsert))

/-- A sealed flag refuses every further row. -/
theorem IsSealed.not_insertable (h : IsSealed atCommit request.flagId) :
    ¬ CrossSessionLinks.ArtifactInsertable atCommit (artifactOf sha256 request c) := by
  intro hinsertable
  obtain ⟨row, hrow, hflag⟩ := h.2
  exact hinsertable.fresh row hrow (.inr (.inl hflag))

/-- When the error is raised: the flag is missing, or the row violates any constraint. -/
theorem sealOutcome_alreadySealed_iff :
    sealOutcome sha256 found atCommit store request c = .error .alreadySealed ↔
      (request.blob.length ≤ maxBlobBytes ∧ found.getFlag request.flagId = none) ∨
        (ReachesCommit sha256 found request c ∧
          ¬ CrossSessionLinks.ArtifactInsertable atCommit (artifactOf sha256 request c)) := by
  have hend := sealOutcome_end sha256 found atCommit store request c
  generalize sealOutcome sha256 found atCommit store request c = outcome at hend
  have hfound : (found.getFlag request.flagId).isSome →
      ¬ (request.blob.length ≤ maxBlobBytes ∧ found.getFlag request.flagId = none) := by
    rintro hsome ⟨-, hnone⟩
    rw [hnone] at hsome
    exact absurd hsome (by simp)
  cases hend with
  | blobTooLarge hsize =>
    refine iff_of_false (by simp) ?_
    rintro (h | h)
    · exact absurd h.1 (not_le.mpr hsize)
    · exact absurd h.1.size (not_le.mpr hsize)
  | flagMissing hsize hmissing => exact iff_of_true rfl (.inl ⟨hsize, hmissing⟩)
  | sealFailed hflag hnot =>
    exact iff_of_false (by simp) (not_or.mpr ⟨hfound hflag, fun h => hnot h.1⟩)
  | commitFailed hflag hnot =>
    exact iff_of_false (by simp) (not_or.mpr ⟨hfound hflag, fun h => hnot h.1⟩)
  | refused hreached hviolates => exact iff_of_true rfl (.inr ⟨hreached, hviolates⟩)
  | filed hreached hmeets =>
    exact iff_of_false (by simp) (not_or.mpr ⟨hfound hreached.found, fun h => h.2 hmeets⟩)

/-- The request is sealed exactly when it reaches the commit and meets every constraint. -/
theorem sealOutcome_ok_iff :
    sealOutcome sha256 found atCommit store request c = .ok artifact ↔
      (ReachesCommit sha256 found request c ∧
        CrossSessionLinks.ArtifactInsertable atCommit (artifactOf sha256 request c)) ∧
      artifact = artifactOf sha256 request c := by
  have hend := sealOutcome_end sha256 found atCommit store request c
  generalize sealOutcome sha256 found atCommit store request c = outcome at hend
  cases hend with
  | blobTooLarge hsize =>
    exact iff_of_false (by simp) fun h => absurd h.1.1.size (not_le.mpr hsize)
  | flagMissing _ hmissing =>
    refine iff_of_false (by simp) fun h => ?_
    have hsome := h.1.1.found
    rw [hmissing] at hsome
    exact absurd hsome (by simp)
  | sealFailed _ hnot => exact iff_of_false (by simp) fun h => hnot h.1.1
  | commitFailed _ hnot => exact iff_of_false (by simp) fun h => hnot h.1.1
  | refused _ hviolates => exact iff_of_false (by simp) fun h => hviolates h.1.2
  | filed hreached hmeets =>
    simp only [Except.ok.injEq, hreached, hmeets, true_and, and_self]
    exact eq_comm

end

/-! ## 2. When the error says what it means -/

/-- The error is raised exactly for a request whose commit finds the flag sealed. -/
def AlreadySealedIsSealed (sha256 : Blob → String) (found atCommit : Database)
    (store : EvidenceStore) (request : SealEvidenceRequest) (c : SealChoices) : Prop :=
  sealOutcome sha256 found atCommit store request c = .error .alreadySealed ↔
    ReachesCommit sha256 found request c ∧ IsSealed atCommit request.flagId

/-- The flag is found, and a row that reaches the commit violates nothing but the constraint
    of a flag that is sealed. -/
structure RefusedOnlySealed (sha256 : Blob → String) (found atCommit : Database)
    (request : SealEvidenceRequest) (c : SealChoices) : Prop where
  flag : request.blob.length ≤ maxBlobBytes → (found.getFlag request.flagId).isSome
  row : ReachesCommit sha256 found request c →
    IsSealed atCommit request.flagId ∨
      CrossSessionLinks.ArtifactInsertable atCommit (artifactOf sha256 request c)

/-- **The error means what it says exactly when the flag is found and no other constraint is
    violated.** A missing flag is answered with the same error, and so is every refusal of the
    commit, whatever constraint it names. -/
theorem alreadySealedIsSealed_iff (sha256 : Blob → String) (found atCommit : Database)
    (store : EvidenceStore) (request : SealEvidenceRequest) (c : SealChoices) :
    AlreadySealedIsSealed sha256 found atCommit store request c ↔
      RefusedOnlySealed sha256 found atCommit request c := by
  unfold AlreadySealedIsSealed
  rw [sealOutcome_alreadySealed_iff]
  constructor
  · intro h
    refine ⟨?_, ?_⟩
    · intro hsize
      by_contra hnone
      have hmissing : found.getFlag request.flagId = none := by simpa using hnone
      exact hnone (h.mp (.inl ⟨hsize, hmissing⟩)).1.found
    · intro hreached
      by_cases hinsertable :
          CrossSessionLinks.ArtifactInsertable atCommit (artifactOf sha256 request c)
      · exact .inr hinsertable
      · exact .inl (h.mp (.inr ⟨hreached, hinsertable⟩)).2
  · intro h
    constructor
    -- the two ways to a 409: a flag that is missing, and a row that is refused
    · rintro (⟨hsize, hmissing⟩ | ⟨hreached, hviolates⟩)
      · have hsome := h.flag hsize
        rw [hmissing] at hsome
        exact absurd hsome (by simp)
      · exact ⟨hreached, (h.row hreached).resolve_right hviolates⟩
    · rintro ⟨hreached, hsealed⟩
      exact .inr ⟨hreached, hsealed.not_insertable⟩

/-- A flag that does not exist, and a clip that ends before it starts, are "already sealed". -/
theorem unsealed_alreadySealed :
    ¬ AlreadySealedIsSealed EvidenceRuns.digest Database.empty Database.empty (fun _ => none)
        (EvidenceRuns.sealClip [] 5).1 (EvidenceRuns.sealClip [] 5).2 ∧
      ¬ AlreadySealedIsSealed EvidenceRuns.digest EvidenceRuns.unsealed.db
        EvidenceRuns.unsealed.db EvidenceRuns.unsealed.store
        { (EvidenceRuns.sealClip [] 5).1 with captureEndedAt := some (-10) }
        (EvidenceRuns.sealClip [] 5).2 := by
  constructor
  · intro h
    have hraised : sealOutcome EvidenceRuns.digest Database.empty Database.empty (fun _ => none)
        (EvidenceRuns.sealClip [] 5).1 (EvidenceRuns.sealClip [] 5).2 =
          .error .alreadySealed := by decide +kernel
    exact absurd (h.mp hraised).2.1 (by decide +kernel)
  · intro h
    have hraised : sealOutcome EvidenceRuns.digest EvidenceRuns.unsealed.db
        EvidenceRuns.unsealed.db EvidenceRuns.unsealed.store
        { (EvidenceRuns.sealClip [] 5).1 with captureEndedAt := some (-10) }
        (EvidenceRuns.sealClip [] 5).2 = .error .alreadySealed := by decide +kernel
    obtain ⟨row, hrow, -⟩ := (h.mp hraised).2.2
    exact absurd hrow Table.not_mem_empty

end ProctorEngine
