import ProctorEngine.Lib.Run
import ProctorEngine.Evidence.Service

/-!
# Sealing evidence for a flag

`seal_evidence_for_flag`: the size cap, the flag lookup, `seal_evidence`, then the artifact
row in its own commit. The one-artifact-per-flag constraint is checked by that commit, **after
the upload has overwritten the key** — and a second request for the same session, flag and
type has the same key. Its rejection is reported as "already sealed", with the remark that
the blob is an orphan because no row points at it; the row of the first request does.

Evidence is intact when every artifact row's blob is at its URI with the row's digest and
length. It stays intact exactly along the runs in which no request rewrites or deletes the
blob of an existing row.
-/

set_option autoImplicit false

namespace ProctorEngine

/-- `_MAX_BLOB_BYTES`. -/
def maxBlobBytes : Nat := 50 * 1024 * 1024

inductive SealError where
  | blobTooLarge (byteSize : Nat)
  /-- The flag does not exist, or the artifact row violates any constraint. -/
  | alreadySealed
  | sealFailed
  | commitFailed
deriving DecidableEq, Repr

/-- What the environment decides for one request. -/
structure SealChoices where
  artifactId : UUID
  now : DateTime
  defaultRetentionSeconds : Nat
  answers : StoreAnswers
  commitFails : Bool
deriving DecidableEq, Repr

/-- The artifact row of a sealed request. A request without a horizon gets the default, from the
    time of the sealing. -/
def artifactOf (sha256 : Blob → String) (request : SealEvidenceRequest) (c : SealChoices) :
    EvidenceArtifact where
  id := c.artifactId
  flagId := request.flagId
  kind := request.artifactType
  storageUri := storageUri request.key
  contentSha256 := sha256 request.blob
  mediaType := request.mediaType
  byteSize := request.blob.length
  captureStartedAt := request.captureStartedAt
  captureEndedAt := request.captureEndedAt
  retentionExpiresAt :=
    request.retentionExpiresAt.getD (c.now + c.defaultRetentionSeconds * 1000000)

/-- `INSERT INTO evidence_artifacts`: the foreign key, the two CHECK constraints and the
    unique columns; `none` is `IntegrityError`. -/
def Database.insertArtifact (db : Database) (row : EvidenceArtifact) : Option Database :=
  if (db.getFlag row.flagId).isSome ∧ (∀ e ∈ row.captureEndedAt, row.captureStartedAt ≤ e) ∧
      row.captureStartedAt ≤ row.retentionExpiresAt then
    (db.evidenceArtifacts.insert? row).map fun t => { db with evidenceArtifacts := t }
  else none

/-- The committed database and the object store. -/
structure EvidenceState where
  db : Database
  store : EvidenceStore

/-- `seal_evidence_for_flag`. The store has the upload whatever becomes of the commit. A missing
    flag and every refused row are one and the same error. -/
def sealEvidenceForFlag (sha256 : Blob → String) (s : EvidenceState)
    (request : SealEvidenceRequest) (c : SealChoices) :
    EvidenceState × Except SealError EvidenceArtifact :=
  if maxBlobBytes < request.blob.length then (s, .error (.blobTooLarge request.blob.length))
  else if (s.db.getFlag request.flagId).isNone then (s, .error .alreadySealed)
  else
    let (store, isSealed) := sealEvidence sha256 s.store request c.answers
    if !isSealed then ({ s with store }, .error .sealFailed)
    else if c.commitFails then ({ s with store }, .error .commitFailed)
    else
      let artifact := artifactOf sha256 request c
      match s.db.insertArtifact artifact with
      | none => ({ s with store }, .error .alreadySealed)
      | some db => (⟨db, store⟩, .ok artifact)

namespace EvidenceRuns

variable (sha256 : Blob → String)

/-- A request with what the environment answers while it is handled. -/
abbrev Sealing := SealEvidenceRequest × SealChoices

def step (s : EvidenceState) (r : Sealing) : EvidenceState :=
  (sealEvidenceForFlag sha256 s r.1 r.2).1

/-- Every artifact row's blob is at its URI, with the row's digest and length. -/
def Intact (s : EvidenceState) : Prop :=
  ∀ row ∈ s.db.evidenceArtifacts, ∃ key blob, row.storageUri = storageUri key ∧
    s.store key = some blob ∧ sha256 blob = row.contentSha256 ∧ blob.length = row.byteSize

/-- The request gets past the size cap and the flag lookup, and its upload succeeds. -/
def Uploads (s : EvidenceState) (r : Sealing) : Prop :=
  r.1.blob.length ≤ maxBlobBytes ∧ (s.db.getFlag r.1.flagId).isSome ∧
    r.2.answers.uploadFails = false

/-- The condition on a request: where its key is the key of an existing row, its upload
    either does not happen or writes the bytes that are there and is not deleted again. -/
def SparesRows (s : EvidenceState) (r : Sealing) : Prop :=
  Uploads s r → (∃ row ∈ s.db.evidenceArtifacts, row.storageUri = storageUri r.1.key) →
    s.store r.1.key = some r.1.blob ∧ ¬ r.2.answers.DeletesUpload (sha256 r.1.blob)

/-! ## 1. What a request can do

The store after a request is as before without an upload and under any other key; at the key of an
upload are its bytes, or nothing where they were deleted again. -/

section
variable {sha256} {s : EvidenceState} {r : Sealing}

theorem mem_insertArtifact {db db' : Database} {row x : EvidenceArtifact}
    (h : db.insertArtifact row = some db') :
    x ∈ db'.evidenceArtifacts ↔ x ∈ db.evidenceArtifacts ∨ x = row := by
  unfold Database.insertArtifact at h
  split at h
  · obtain ⟨t, ht, rfl⟩ := Option.map_eq_some_iff.mp h
    exact Table.mem_insert? ht
  · exact absurd h (by simp)

/-- A request that is refused at the door changes nothing; any other runs `seal_evidence`,
    and adds its row only where the blob was sealed. -/
theorem step_cases (sha256 : Blob → String) (s : EvidenceState) (r : Sealing) :
    (¬ (r.1.blob.length ≤ maxBlobBytes ∧ (s.db.getFlag r.1.flagId).isSome) ∧
      step sha256 s r = s) ∨
    ((r.1.blob.length ≤ maxBlobBytes ∧ (s.db.getFlag r.1.flagId).isSome) ∧
      (step sha256 s r).store = (sealEvidence sha256 s.store r.1 r.2.answers).1 ∧
      ((step sha256 s r).db = s.db ∨
        ((sealEvidence sha256 s.store r.1 r.2.answers).2 = true ∧
          ∀ x, x ∈ (step sha256 s r).db.evidenceArtifacts ↔
            x ∈ s.db.evidenceArtifacts ∨ x = artifactOf sha256 r.1 r.2))) := by
  unfold step sealEvidenceForFlag
  -- Two refusals before the store is asked, then the store, the commit and the row.
  by_cases hsize : maxBlobBytes < r.1.blob.length
  · left
    rw [if_pos hsize]
    exact ⟨fun h => absurd h.1 (by omega), rfl⟩
  rw [if_neg hsize]
  cases hflag : s.db.getFlag r.1.flagId with
  | none =>
    left
    exact ⟨fun h => absurd h.2 (by simp), rfl⟩
  | some flag =>
    right
    refine ⟨⟨by omega, rfl⟩, ?_⟩
    dsimp only [Option.isNone_some, Bool.false_eq_true, if_false]
    cases hseal : (sealEvidence sha256 s.store r.1 r.2.answers).2 with
    | false => exact ⟨rfl, .inl rfl⟩
    | true =>
      by_cases hcommit : r.2.commitFails
      · simp only [hcommit, Bool.not_true, Bool.false_eq_true, if_false, if_true]
        exact ⟨trivial, .inl trivial⟩
      · simp only [hcommit, Bool.not_true, Bool.false_eq_true, if_false]
        cases hins : s.db.insertArtifact (artifactOf sha256 r.1 r.2) with
        | none => exact ⟨rfl, .inl rfl⟩
        | some db => exact ⟨rfl, .inr ⟨trivial, fun x => mem_insertArtifact hins⟩⟩

/-- Sealing changes the store at the request's key only, and there only if it uploads. -/
theorem step_store_of_ne {key : String} (h : key ≠ r.1.key) :
    (step sha256 s r).store key = s.store key := by
  rcases step_cases sha256 s r with ⟨-, hsame⟩ | ⟨-, hstore, -⟩
  · rw [hsame]
  · rw [hstore]
    exact sealEvidence_of_ne h

theorem step_store_of_not_uploads (h : ¬ Uploads s r) : (step sha256 s r).store = s.store := by
  rcases step_cases sha256 s r with ⟨-, hsame⟩ | ⟨hdoor, hstore, -⟩
  · rw [hsame]
  · have hfails : r.2.answers.uploadFails = true := by
      by_contra hne
      exact h ⟨hdoor.1, hdoor.2, by simpa using hne⟩
    rw [hstore]
    simp [sealEvidence, hfails]

theorem step_store_of_uploads (h : Uploads s r) :
    (step sha256 s r).store = (sealEvidence sha256 s.store r.1 r.2.answers).1 := by
  rcases step_cases sha256 s r with ⟨hno, -⟩ | ⟨-, hstore, -⟩
  · exact absurd ⟨h.1, h.2.1⟩ hno
  · exact hstore

/-- A request leaves the store as it is if what it would leave at its key is there already. -/
theorem step_store_eq_self_iff :
    (step sha256 s r).store = s.store ↔
      (Uploads s r →
        (r.2.answers.DeletesUpload (sha256 r.1.blob) → s.store r.1.key = none) ∧
        (¬ r.2.answers.DeletesUpload (sha256 r.1.blob) → s.store r.1.key = some r.1.blob)) := by
  by_cases hup : Uploads s r
  · rw [step_store_of_uploads hup]
    constructor
    · intro h _
      constructor
      · intro hdel
        rw [← h]
        exact sealEvidence_deleted hup.2.2 hdel
      · intro hkept
        rw [← h]
        exact (sealEvidence_self hup.2.2).mpr hkept
    · intro h
      obtain ⟨hdel, hkept⟩ := h hup
      funext key
      by_cases hkey : key = r.1.key
      · rw [hkey]
        by_cases hdeletes : r.2.answers.DeletesUpload (sha256 r.1.blob)
        · rw [sealEvidence_deleted hup.2.2 hdeletes, hdel hdeletes]
        · rw [(sealEvidence_self hup.2.2).mpr hdeletes, hkept hdeletes]
      · exact sealEvidence_of_ne hkey
  · rw [step_store_of_not_uploads hup]
    exact iff_of_true rfl fun h => absurd h hup

/-- No request removes an artifact row. -/
theorem mem_step_of_mem {row : EvidenceArtifact} (h : row ∈ s.db.evidenceArtifacts) :
    row ∈ (step sha256 s r).db.evidenceArtifacts := by
  rcases step_cases sha256 s r with ⟨-, hsame⟩ | ⟨-, -, hdb | ⟨-, hmem⟩⟩
  · rwa [hsame]
  · rwa [hdb]
  · exact (hmem row).mpr (.inl h)

/-! ## 2. One request

A row that was intact stays so exactly if the request leaves its blob as it is; and a new row is
intact, since its blob was read back. -/

/-- A request that spares the rows leaves their blobs intact and adds an intact row. -/
theorem intact_of_sparesRows (hs : Intact sha256 s) (h : SparesRows sha256 s r) :
    Intact sha256 (step sha256 s r) := by
  have hold : ∀ row ∈ s.db.evidenceArtifacts, ∃ key blob, row.storageUri = storageUri key ∧
      (step sha256 s r).store key = some blob ∧ sha256 blob = row.contentSha256 ∧
      blob.length = row.byteSize := by
    intro row hrow
    obtain ⟨key, blob, huri, hblob, hsha, hlen⟩ := hs row hrow
    refine ⟨key, blob, huri, ?_, hsha, hlen⟩
    by_cases hkey : key = r.1.key
    · by_cases hup : Uploads s r
      · obtain ⟨hsame, hkept⟩ := h hup ⟨row, hrow, hkey ▸ huri⟩
        rw [step_store_of_uploads hup, hkey, (sealEvidence_self hup.2.2).mpr hkept, ← hsame, ← hkey]
        exact hblob
      · rw [step_store_of_not_uploads hup]
        exact hblob
    · rw [step_store_of_ne hkey]
      exact hblob
  intro row hrow
  rcases step_cases sha256 s r with
    ⟨-, hsame⟩ | ⟨-, hstore, hdb | ⟨hsealed, hmem⟩⟩
  · exact hold row (hsame ▸ hrow)
  · exact hold row (hdb ▸ hrow)
  · rcases (hmem row).mp hrow with hrow | rfl
    · exact hold row hrow
    · refine ⟨r.1.key, r.1.blob, rfl, ?_, rfl, rfl⟩
      rw [hstore]
      exact sealEvidence_sealed hsealed

/-- With an injective digest there is no other way to leave an existing row intact. -/
theorem sparesRows_of_intact (hinj : Function.Injective sha256) (hs : Intact sha256 s)
    (h : Intact sha256 (step sha256 s r)) : SparesRows sha256 s r := by
  rintro hup ⟨row, hrow, huri⟩
  obtain ⟨key, blob, huri', hblob, hsha, -⟩ := hs row hrow
  obtain rfl : r.1.key = key := storageUri_inj.mp (huri.symm.trans huri')
  obtain ⟨key', blob', huri'', hblob', hsha', -⟩ := h row (mem_step_of_mem hrow)
  obtain rfl : r.1.key = key' := storageUri_inj.mp (huri.symm.trans huri'')
  rw [step_store_of_uploads hup] at hblob'
  have hkept : ¬ r.2.answers.DeletesUpload (sha256 r.1.blob) := by
    intro hdel
    rw [sealEvidence_deleted hup.2.2 hdel] at hblob'
    exact absurd hblob' (by simp)
  refine ⟨?_, hkept⟩
  rw [(sealEvidence_self hup.2.2).mpr hkept] at hblob'
  obtain rfl : r.1.blob = blob' := Option.some.inj hblob'
  -- both blobs have the row's digest
  rw [hblob, hinj (hsha'.trans hsha.symm)]

end

/-- **Evidence stays intact exactly along the runs whose requests spare the existing rows.** From
    any state, an empty store and table among them. The key is made of the session, the flag and the
    kind, so a second upload is written over the first before the database refuses its row. -/
theorem intact_iff (hinj : Function.Injective sha256) (s : EvidenceState) (rs : List Sealing) :
    Run.Always (step sha256) (Intact sha256) s rs ↔
      Intact sha256 s ∧ Run.EachStep (step sha256) (SparesRows sha256) s rs :=
  Run.always_iff_head_and_eachStep fun _ _ hs =>
    ⟨sparesRows_of_intact hinj hs, intact_of_sparesRows hs⟩

/-- An injective digest with SHA-256's own values on the two blobs of the runs below. -/
def digest (blob : Blob) : String :=
  if blob = [] then "e3b0c44298fc1c149afbf4c8996fb92427ae41e4649b934ca495991b7852b855"
  else if blob = [0] then "6e340b9cffb37a989ca544e6bb780a2c78901d3fb33738768511a30617afa01d"
  else String.ofList ('#' :: blob.map fun b => Char.ofNat b.toNat)

theorem digest_other {blob : Blob} (h : blob ≠ []) (h' : blob ≠ [0]) :
    (digest blob).toList = '#' :: blob.map fun b => Char.ofNat b.toNat := by
  rw [digest, if_neg h, if_neg h', String.toList_ofList]

theorem digest_injective : Function.Injective digest := by
  have hbyte : ∀ n < 256, (Char.ofNat n).toNat = n := by decide +kernel
  have hchar : Function.Injective fun b : UInt8 => Char.ofNat b.toNat := by
    intro a b h
    have hnat := congrArg Char.toNat h
    rw [hbyte _ a.toNat_lt, hbyte _ b.toNat_lt] at hnat
    exact UInt8.toNat_inj.mp hnat
  -- the two real digests start with a hexadecimal digit, the others with `#`
  have hfirst : ∀ {blob : Blob}, blob ≠ [] → blob ≠ [0] →
      digest blob ≠ digest [] ∧ digest blob ≠ digest [0] := by
    intro blob h h'
    have hhead : (digest blob).toList.head? = some '#' := by rw [digest_other h h']; rfl
    constructor <;> intro heq <;> rw [heq] at hhead <;> exact absurd hhead (by decide +kernel)
  have hpair : digest [] ≠ digest [0] := by decide +kernel
  intro a b h
  by_cases ha : a = []
  · subst ha
    by_cases hb : b = []
    · exact hb.symm
    · by_cases hb' : b = [0]
      · subst hb'
        exact absurd h hpair
      · exact absurd h.symm (hfirst hb hb').1
  by_cases ha' : a = [0]
  · subst ha'
    by_cases hb : b = []
    · subst hb
      exact absurd h.symm hpair
    · by_cases hb' : b = [0]
      · exact hb'.symm
      · exact absurd h.symm (hfirst hb hb').2
  · by_cases hb : b = []
    · subst hb
      exact absurd h (hfirst ha ha').1
    · by_cases hb' : b = [0]
      · subst hb'
        exact absurd h (hfirst ha ha').2
      · have hlist := congrArg String.toList h
        rw [digest_other ha ha', digest_other hb hb', List.cons.injEq] at hlist
        exact List.map_injective_iff.mpr hchar hlist.2

/-- A flag raised in an active session, an empty store and no artifacts. -/
def unsealed : EvidenceState where
  db :=
    { Database.empty with
      examSessions := .single { ExamSession.launched 1 2 3 "midterm" 0 with status := .active }
      flags := .single
        { id := 4, examSessionId := 1, policyConfigId := 3, ruleCode := "object_detected"
          severity := .medium, status := .raised, confidenceScore := 1, confidenceLower := 1
          confidenceUpper := 1, triggeredTermination := false
          suppressedByExemptionId := none, detail := [] } }
  store := fun _ => none

/-- A clip for the flag, sealed under the artifact key `artifactId`; the store answers every
    call. -/
def sealClip (blob : Blob) (artifactId : UUID) : Sealing :=
  (⟨4, 1, .clip, "video/webm", blob, 0, some 10, none⟩,
   ⟨artifactId, 20, 3600, ⟨false, some (digest blob), false⟩, false⟩)

/-- The same session with a second flag. -/
def unsealedPair : EvidenceState where
  db :=
    { unsealed.db with
      flags := (unsealed.db.flags.insert?
        { id := 7, examSessionId := 1, policyConfigId := 3, ruleCode := "second_voice"
          severity := .medium, status := .raised, confidenceScore := 1, confidenceLower := 1
          confidenceUpper := 1, triggeredTermination := false
          suppressedByExemptionId := none, detail := [] }).getD unsealed.db.flags }
  store := unsealed.store

/-- The same request for the second flag. -/
def sealOther (blob : Blob) (artifactId : UUID) : Sealing :=
  ({ (sealClip blob artifactId).1 with flagId := 7 }, (sealClip blob artifactId).2)

/-- Two flags are sealed and stay intact, though the clip of the first is sent once more: the upload
    writes the bytes that are there. -/
theorem intact_sealClip :
    Run.Always (step digest) (Intact digest) unsealedPair
      [sealClip [] 5, sealOther [0] 6, sealClip [] 8] := by
  refine (intact_iff digest digest_injective _ _).mpr
    ⟨fun row hrow => absurd hrow Table.not_mem_empty, ?_, ?_, ?_, trivial⟩
  -- no row yet
  · rintro - ⟨row, hrow, -⟩
    exact absurd hrow Table.not_mem_empty
  -- the only row is the first flag's, under another key
  · rintro - ⟨row, hrow, huri⟩
    have hrows : (step digest unsealedPair (sealClip [] 5)).db.evidenceArtifacts.rows =
        [artifactOf digest (sealClip [] 5).1 (sealClip [] 5).2] := by decide +kernel
    rw [← Table.mem_rows, hrows, List.mem_singleton] at hrow
    subst hrow
    exact absurd huri (by decide +kernel)
  -- the same bytes under the same key
  · rintro - -
    refine ⟨by decide +kernel, ?_⟩
    rintro ⟨remote, hremote, hne, -⟩
    obtain rfl : digest [] = remote := Option.some.inj hremote
    exact hne rfl

/-- The second request is rejected as already sealed, with the first row's blob replaced. -/
theorem resealed_not_intact :
    ¬ Run.Always (step digest) (Intact digest) unsealed [sealClip [] 5, sealClip [0] 6] := by
  intro h
  have hrow : artifactOf digest (sealClip [] 5).1 (sealClip [] 5).2 ∈
      (Run.final (step digest) unsealed [sealClip [] 5, sealClip [0] 6]).db.evidenceArtifacts := by
    decide +kernel
  obtain ⟨key, blob, huri, hblob, hsha, -⟩ := h.final _ hrow
  obtain rfl : (sealClip [] 5).1.key = key := storageUri_inj.mp huri
  have hnow : (Run.final (step digest) unsealed [sealClip [] 5, sealClip [0] 6]).store
      (sealClip [] 5).1.key = some [0] := by decide +kernel
  obtain rfl : [0] = blob := Option.some.inj (hnow.symm.trans hblob)
  exact absurd hsha (by decide +kernel)

end EvidenceRuns
end ProctorEngine
