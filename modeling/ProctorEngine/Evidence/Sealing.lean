import ProctorEngine.Evidence.Stores

/-!
# Sealing through a store

`seal_evidence` call by call: upload, checksum read back, and the deletion of what came back wrong.
`sealEvidence` takes the answers of a store from the environment; here they are the answers of the
S3 store, and each way that store can fail is one of the answers the environment was allowed. **A
sealed blob stays what it is until somebody writes its key**: from then on the store returns that
blob and its digest, or reports a fault.

So the results about the service, which are over arbitrary answers, hold of the service on S3, and
nothing has to be proved of the two together again (`sealing_refines`).

A failed upload may have been made. It is an error to the caller either way, and the environment has
an answer for each: none, or one that was never answered.
-/

set_option autoImplicit false

namespace ProctorEngine

/-! ## 1. `seal_evidence`

Over any store with the methods of the protocol. -/

structure SealEvidenceResult where
  storageKey : String
  contentSha256 : String
  byteSize : Nat
  mediaType : String
  captureStartedAt : DateTime
  captureEndedAt : Option DateTime
  retentionExpiresAt : Option DateTime
  artifactType : EvidenceKind
deriving DecidableEq, Repr

/-- `EvidenceSealError`; an artifact type without a key is not a value here. -/
inductive EvidenceSealError where
  | uploadFailed (e : StoreError)
  | verifyFailed (e : StoreError)
  | checksumMismatch (expected got : String)
deriving DecidableEq, Repr

def EvidenceSealError.message (bucket : String) : EvidenceSealError → String
  | .uploadFailed e => "Failed to upload evidence: " ++ e.message bucket
  | .verifyFailed e => "Failed to verify upload: " ++ e.message bucket
  | .checksumMismatch expected got =>
    "Checksum mismatch after upload: expected " ++ expected ++ ", got " ++ got

def SealEvidenceRequest.result (request : SealEvidenceRequest) (contentSha256 : String) :
    SealEvidenceResult where
  storageKey := request.key
  contentSha256 := contentSha256
  byteSize := request.blob.length
  mediaType := request.mediaType
  captureStartedAt := request.captureStartedAt
  captureEndedAt := request.captureEndedAt
  retentionExpiresAt := request.retentionExpiresAt
  artifactType := request.artifactType

/-- `seal_evidence` -/
def EvidenceStoreProtocol.sealEvidence {σ : Type} (store : EvidenceStoreProtocol σ)
    (sha256 : Blob → String) (s : σ) (request : SealEvidenceRequest) :
    σ × Except EvidenceSealError SealEvidenceResult :=
  let contentSha256 := sha256 request.blob
  match store.upload s request.key request.blob with
  | (s, .error e) => (s, .error (.uploadFailed e))
  | (s, .ok ()) =>
    match store.computeChecksum s request.key with
    | (s, .error e) => (s, .error (.verifyFailed e))
    | (s, .ok remoteSha256) =>
      if remoteSha256 ≠ contentSha256 then
        -- whether the deletion went through is not reported
        ((store.delete s request.key).1, .error (.checksumMismatch contentSha256 remoteSha256))
      else (s, .ok (request.result contentSha256))

/-- The call writes the key. -/
def StoreCall.Writes (key : String) : StoreCall → Prop
  | .upload k _ | .delete k => k = key
  | .download _ | .exists_ _ | .computeChecksum _ => False

/-- The answer is this one, or the report of a fault. -/
def AnswersOrFails {α : Type} (value : α) (answer : Except StoreError α) : Prop :=
  answer = .ok value ∨ ∃ e : StoreError, e.IsFault ∧ answer = .error e

/-! ## 2. Sealing on S3

Four outcomes. A store that reads its last write never shows the mismatch that `seal_evidence`
checks for. -/

namespace S3EvidenceStore

open S3Service

variable {σ : Type} [S3Service σ] {sha256 : Blob → String} {s : σ} {m : InMemoryEvidenceStore}
  {key : String} {data : Blob} {request : SealEvidenceRequest} {calls : List StoreCall}

variable (key data) in
/-- An upload is answered and in the bucket, or it fails and is there or not. -/
theorem upload_goes (h : Holds s m) :
    ((upload s key data).2 = .ok () ∧ Holds (upload s key data).1 (m.upload key data)) ∨
      ∃ e : StoreError, e.IsFault ∧ (upload s key data).2 = .error e ∧
        (Holds (upload s key data).1 m ∨ Holds (upload s key data).1 (m.upload key data)) := by
  have happly : bucket (S3Service.request s (.putObject key data)).1 =
      S3Request.effect (.putObject key data) (bucket s) →
      Holds (upload s key data).1 (m.upload key data) := by
    intro happlied
    rw [show bucket s = _ from h] at happlied
    exact happlied.trans (congrArg some contents_upload.symm)
  cases hresponse : (S3Service.request s (.putObject key data)).2 with
  | ok body =>
    refine .inl ⟨?_, happly (effect_of_ok s _ body hresponse)⟩
    simp only [upload, hresponse]
  | error e =>
    refine .inr ⟨.uploadFailed key e, trivial, ?_, ?_⟩
    · simp only [upload, hresponse]
    · obtain hkept | happlied := effect_or_not s (.putObject key data)
      · exact .inl (hkept.trans h)
      · exact .inr (happly happlied)

theorem download_upload : (m.upload key data).download key = .ok data := by
  simp [InMemoryEvidenceStore.download, InMemoryEvidenceStore.upload]

variable (sha256) in
/-- The checksum of a blob that is there. -/
theorem computeChecksum_of_download (h : Holds s m) (hat : m.download key = .ok data) :
    Holds ((methods sha256).computeChecksum s key).1 m ∧
      AnswersOrFails (sha256 data) ((methods sha256).computeChecksum s key).2 := by
  have hreads := (download_reads key h).map sha256
  rw [hat] at hreads
  exact hreads

/-- The ways a seal can end on S3. A blob that comes back wrong is not among them: reads see the
    last write. -/
inductive SealOutcome (sha256 : Blob → String) (s : σ) (m : InMemoryEvidenceStore)
    (request : SealEvidenceRequest) : σ × Except EvidenceSealError SealEvidenceResult → Prop
  | notUploaded {s' : σ} {e : StoreError} (fault : e.IsFault) (holds : Holds s' m) :
      SealOutcome sha256 s m request (s', .error (.uploadFailed e))
  | uploadNotAnswered {s' : σ} {e : StoreError} (fault : e.IsFault)
      (holds : Holds s' (m.upload request.key request.blob)) :
      SealOutcome sha256 s m request (s', .error (.uploadFailed e))
  | notVerified {s' : σ} {e : StoreError} (fault : e.IsFault)
      (holds : Holds s' (m.upload request.key request.blob)) :
      SealOutcome sha256 s m request (s', .error (.verifyFailed e))
  | «sealed» {s' : σ} (holds : Holds s' (m.upload request.key request.blob)) :
      SealOutcome sha256 s m request (s', .ok (request.result (sha256 request.blob)))

variable (sha256 request) in
theorem sealEvidence_outcome (h : Holds s m) :
    SealOutcome sha256 s m request ((methods sha256).sealEvidence sha256 s request) := by
  have hupload := upload_goes request.key request.blob h
  unfold EvidenceStoreProtocol.sealEvidence
  show SealOutcome sha256 s m request (match upload s request.key request.blob with
    | (s, .error e) => _
    | (s, .ok ()) => _)
  cases hresult : upload s request.key request.blob with
  | mk s' result =>
    rw [hresult] at hupload
    obtain ⟨hok, hholds⟩ | ⟨e, hfault, herror, hholds⟩ := hupload
    · cases hok
      have hchecksum := computeChecksum_of_download sha256 hholds download_upload
      cases hread : (methods sha256).computeChecksum s' request.key with
      | mk s'' answer =>
        rw [hread] at hchecksum
        obtain ⟨hheld, hanswer | ⟨e, hfault, herror⟩⟩ := hchecksum
        · cases hanswer
          simp only [hread, ne_eq, not_true_eq_false, if_false]
          exact .sealed hheld
        · cases herror
          simp only [hread]
          exact .notVerified hfault hheld
    · cases herror
      obtain hkept | happlied := hholds
      · exact .notUploaded hfault hkept
      · exact .uploadNotAnswered hfault happlied

/-- **Sealing on S3 is `sealEvidence` for some answers of the store**, and an error names the fault
    of the service. Made call by call against the service, it is the one step the rest of the engine
    is modelled with. -/
theorem sealing_refines (h : Holds s m) :
    ∃ answers : StoreAnswers,
      bucket ((methods sha256).sealEvidence sha256 s request).1 =
        some (sealEvidence sha256 m.contents request answers).1 ∧
      (((methods sha256).sealEvidence sha256 s request).2 =
          .ok (request.result (sha256 request.blob)) ∧
          (sealEvidence sha256 m.contents request answers).2 = true ∨
        ∃ e : StoreError, e.IsFault ∧
          (((methods sha256).sealEvidence sha256 s request).2 = .error (.uploadFailed e) ∨
            ((methods sha256).sealEvidence sha256 s request).2 = .error (.verifyFailed e)) ∧
          (sealEvidence sha256 m.contents request answers).2 = false) := by
  have hcontents : (m.upload request.key request.blob).contents =
      m.contents.upload request.key request.blob := contents_upload
  have houtcome := sealEvidence_outcome sha256 request h
  generalize (methods sha256).sealEvidence sha256 s request = run at houtcome ⊢
  cases houtcome with
  | notUploaded fault holds =>
    exact ⟨⟨true, none, false⟩, holds, .inr ⟨_, fault, .inl rfl, rfl⟩⟩
  | uploadNotAnswered fault holds =>
    -- the environment that fails to read back what it has taken
    exact ⟨⟨false, none, false⟩, holds.trans (congrArg some hcontents),
      .inr ⟨_, fault, .inl rfl, rfl⟩⟩
  | notVerified fault holds =>
    exact ⟨⟨false, none, false⟩, holds.trans (congrArg some hcontents),
      .inr ⟨_, fault, .inr rfl, rfl⟩⟩
  | «sealed» holds =>
    refine ⟨⟨false, some (sha256 request.blob), false⟩, ?_, .inl ⟨rfl, ?_⟩⟩
    · rw [holds, hcontents]
      simp [sealEvidence]
    · simp [sealEvidence]

/-- On an empty bucket, with an outage at the upload. -/
theorem sealing_refines_outage :
    ∃ answers : StoreAnswers,
      bucket ((methods fun _ => "digest").sealEvidence (fun _ => "digest")
          (OutageS3.mk (some fun _ => none) [some .afterEffect])
          ⟨1, 2, .clip, "video/webm", [1], 0, none, none⟩).1 =
        some (sealEvidence (fun _ => "digest") InMemoryEvidenceStore.empty.contents
          ⟨1, 2, .clip, "video/webm", [1], 0, none, none⟩ answers).1 ∧
      (((methods fun _ => "digest").sealEvidence (fun _ => "digest")
          (OutageS3.mk (some fun _ => none) [some .afterEffect])
          ⟨1, 2, .clip, "video/webm", [1], 0, none, none⟩).2 =
          .ok (SealEvidenceRequest.result ⟨1, 2, .clip, "video/webm", [1], 0, none, none⟩
            "digest") ∧
          (sealEvidence (fun _ => "digest") InMemoryEvidenceStore.empty.contents
            ⟨1, 2, .clip, "video/webm", [1], 0, none, none⟩ answers).2 = true ∨
        ∃ e : StoreError, e.IsFault ∧
          (((methods fun _ => "digest").sealEvidence (fun _ => "digest")
              (OutageS3.mk (some fun _ => none) [some .afterEffect])
              ⟨1, 2, .clip, "video/webm", [1], 0, none, none⟩).2 = .error (.uploadFailed e) ∨
            ((methods fun _ => "digest").sealEvidence (fun _ => "digest")
              (OutageS3.mk (some fun _ => none) [some .afterEffect])
              ⟨1, 2, .clip, "video/webm", [1], 0, none, none⟩).2 = .error (.verifyFailed e)) ∧
          (sealEvidence (fun _ => "digest") InMemoryEvidenceStore.empty.contents
            ⟨1, 2, .clip, "video/webm", [1], 0, none, none⟩ answers).2 = false) :=
  sealing_refines (m := .empty) rfl

/-! ## 3. What was sealed stays

Later calls may fail in any way, and may write any other key. -/

/-- A call that does not write the key. -/
theorem lookup_fated {c : StoreCall} (hother : ¬ c.Writes key) (fate : CallFate) :
    (m.fated sha256 c fate).blobs.lookup key = m.blobs.lookup key := by
  have hcall : (((InMemoryEvidenceStore.methods sha256).call m c).1).blobs.lookup key =
      m.blobs.lookup key := by
    cases c with
    | upload k data => exact AList.lookup_insert_ne fun hkey => hother hkey.symm
    | delete k => exact AList.lookup_erase_ne fun hkey => hother hkey.symm
    | download _ => rfl
    | exists_ _ => rfl
    | computeChecksum _ => rfl
  cases fate with
  | answered => exact hcall
  | unacknowledged => exact hcall
  | lost => rfl

variable (sha256) in
/-- Calls that do not write the key. -/
theorem serve_holds (h : Holds s m) (hother : ∀ c ∈ calls, ¬ c.Writes key) :
    ∃ m' : InMemoryEvidenceStore, Holds ((methods sha256).serve s calls).1 m' ∧
      m'.blobs.lookup key = m.blobs.lookup key := by
  induction calls generalizing s m with
  | nil => exact ⟨m, h, rfl⟩
  | cons c calls ih =>
    rw [List.forall_mem_cons] at hother
    obtain ⟨fate, hholds, -⟩ := call_goes sha256 h c
    obtain ⟨m', hfinal, hlookup⟩ := ih hholds hother.2
    exact ⟨m', hfinal, hlookup.trans (lookup_fated hother.1 fate)⟩

/-- **What was sealed is what is downloaded, however the service fails in between.** The later calls
    may be any that do not write the key; what is asked of it afterwards fails, or is answered with
    the blob and its checksum. -/
theorem sealed_is_kept {s' : σ} {result : SealEvidenceResult}
    (hempty : ((bucket s).getD fun _ => none) = m.contents)
    (hready : (ensureBucketExists s).2 = .ok ())
    (hsealed : (methods sha256).sealEvidence sha256 (ensureBucketExists s).1 request =
      (s', .ok result))
    (hother : ∀ c ∈ calls, ¬ c.Writes request.key) :
    AnswersOrFails request.blob
        (download ((methods sha256).serve s' calls).1 result.storageKey).2 ∧
      AnswersOrFails true (exists_ ((methods sha256).serve s' calls).1 result.storageKey).2 ∧
      AnswersOrFails result.contentSha256
        ((methods sha256).computeChecksum ((methods sha256).serve s' calls).1
          result.storageKey).2 := by
  have houtcome := sealEvidence_outcome sha256 request
    (ensureBucketExists_holds hempty hready)
  rw [hsealed] at houtcome
  cases houtcome with
  | «sealed» holds =>
    obtain ⟨m', hlater, hlookup⟩ := serve_holds sha256 holds hother
    -- The seal left the blob under its key, and no later call writes there.
    have hblob : m'.blobs.lookup request.key = some request.blob :=
      hlookup.trans (AList.lookup_insert _)
    have hat : m'.download request.key = .ok request.blob := by
      unfold InMemoryEvidenceStore.download
      rw [hblob]
    have hthere : m'.exists_ request.key = true := by
      unfold InMemoryEvidenceStore.exists_
      rw [hblob]
      rfl
    have hdownload := (download_reads request.key hlater).2
    have hexists := (exists_reads request.key hlater).2
    rw [hat] at hdownload
    rw [hthere] at hexists
    exact ⟨hdownload, hexists, (computeChecksum_of_download sha256 hlater hat).2⟩

/-- Sealed after the bucket was created; a download of another key meets an outage, and the blob is
    read all the same. -/
theorem sealed_is_kept_outage :
    AnswersOrFails ([1] : Blob) (download ((methods fun _ => "digest").serve
          (⟨some (Function.update (fun _ => none) (buildStorageKey 2 1 .clip) (some [1])),
            [some .beforeEffect]⟩ : OutageS3) [.download "other"]).1
          (buildStorageKey 2 1 .clip)).2 ∧
      AnswersOrFails true (exists_ ((methods fun _ => "digest").serve
          (⟨some (Function.update (fun _ => none) (buildStorageKey 2 1 .clip) (some [1])),
            [some .beforeEffect]⟩ : OutageS3) [.download "other"]).1
          (buildStorageKey 2 1 .clip)).2 ∧
      AnswersOrFails "digest" ((methods fun _ => "digest").computeChecksum
        ((methods fun _ => "digest").serve
          (⟨some (Function.update (fun _ => none) (buildStorageKey 2 1 .clip) (some [1])),
            [some .beforeEffect]⟩ : OutageS3) [.download "other"]).1
          (buildStorageKey 2 1 .clip)).2 := by
  have hsealed : (methods fun _ => "digest").sealEvidence (fun _ => "digest")
      (ensureBucketExists (OutageS3.mk none [none, none, none, none, some .beforeEffect])).1
      ⟨1, 2, .clip, "video/webm", [1], 0, none, none⟩ =
      (⟨some (Function.update (fun _ => none) (buildStorageKey 2 1 .clip) (some [1])),
        [some .beforeEffect]⟩, .ok (SealEvidenceRequest.result
          ⟨1, 2, .clip, "video/webm", [1], 0, none, none⟩ "digest")) := rfl
  exact sealed_is_kept (m := .empty) (by funext key; rfl) (by decide) hsealed
    (by simp [StoreCall.Writes])

end S3EvidenceStore

end ProctorEngine
