import ProctorEngine.Models

/-!
# The evidence store and `seal_evidence`

The storage key of a blob, the object store, and the "blob-first, row-second" half of
sealing: upload, read the checksum back, compare. The key is a function of the session, the
flag and the artifact type alone, and **an upload overwrites**: nothing in this layer looks
at what the key already holds.

SHA-256 is a parameter of the functions here; what is assumed of it is assumed where a
theorem needs it.
-/

set_option autoImplicit false

namespace ProctorEngine

/-- The bytes of a blob. -/
abbrev Blob := List UInt8

/-! ## 1. Storage keys -/

def hexDigit (d : Nat) : Char := "0123456789abcdef".toList.getD d '0'

/-- The `width` low hexadecimal digits of a number, most significant first. -/
def hexField (width n : Nat) : String :=
  String.ofList ((List.range width).reverse.map fun i => hexDigit (n / 16 ^ i % 16))

/-- `str(uuid)`: 8-4-4-4-12 lowercase hexadecimal digits. -/
def UUID.str (u : UUID) : String :=
  hexField 8 (u.toNat / 16 ^ 24) ++ "-" ++ hexField 4 (u.toNat / 16 ^ 20) ++ "-" ++
    hexField 4 (u.toNat / 16 ^ 16) ++ "-" ++ hexField 4 (u.toNat / 16 ^ 12) ++ "-" ++
    hexField 12 u.toNat

/-- `_ARTIFACT_EXTENSIONS`. -/
def EvidenceKind.extension : EvidenceKind → String
  | .frame => "jpg"
  | .clip => "webm"
  | .audio => "webm"
  | .eventExport => "json"

/-- `build_storage_key`. -/
def buildStorageKey (examSessionId flagId : UUID) (artifactType : EvidenceKind) : String :=
  "evidence/" ++ examSessionId.str ++ "/" ++ flagId.str ++ "/" ++ artifactType.value ++ "." ++
    artifactType.extension

example : buildStorageKey 1 2 .clip =
    "evidence/00000000-0000-0000-0000-000000000001/" ++
      "00000000-0000-0000-0000-000000000002/clip.webm" := by
  decide +kernel

/-- The `storage_uri` of a key. -/
def storageUri (key : String) : String := "s3://" ++ key

theorem storageUri_inj {k l : String} : storageUri k = storageUri l ↔ k = l := by
  simp [storageUri]

/-- The session id in a `storage_uri`: what stands between `evidence/` and the next slash. -/
def sessionIdIn (uri : String) : String :=
  String.ofList ((uri.toList.drop "s3://evidence/".toList.length).takeWhile (· ≠ '/'))

section
variable {width n m : Nat} {u v : UUID}

theorem length_hexField : (hexField width n).toList.length = width := by simp [hexField]

theorem hexDigit_inj {d e : Nat} (hd : d < 16) (he : e < 16) (h : hexDigit d = hexDigit e) :
    d = e := by
  have hall : ∀ d < 16, ∀ e < 16, hexDigit d = hexDigit e → d = e := by decide
  exact hall d hd e he h

/-- A field determines the low digits it shows. -/
theorem hexField_inj (h : (hexField width n).toList = (hexField width m).toList) :
    n % 16 ^ width = m % 16 ^ width := by
  induction width with
  | zero => simp [Nat.mod_one]
  | succ width ih =>
    simp only [hexField, List.range_succ, List.reverse_append, List.reverse_cons, List.reverse_nil,
      List.nil_append, List.map_cons, List.cons_append, String.toList_ofList, List.cons.injEq]
      at h ih
    obtain ⟨hhead, htail⟩ := h
    have hdigit := hexDigit_inj (Nat.mod_lt _ (by decide)) (Nat.mod_lt _ (by decide)) hhead
    rw [Nat.mod_pow_succ, Nat.mod_pow_succ, ih htail, hdigit]

/-- The characters of a UUID's text. -/
theorem UUID.str_toList :
    u.str.toList = (hexField 8 (u.toNat / 16 ^ 24)).toList ++ '-' ::
      ((hexField 4 (u.toNat / 16 ^ 20)).toList ++ '-' ::
        ((hexField 4 (u.toNat / 16 ^ 16)).toList ++ '-' ::
          ((hexField 4 (u.toNat / 16 ^ 12)).toList ++ '-' :: (hexField 12 u.toNat).toList))) := by
  simp [UUID.str, String.toList_append]

/-- Different UUIDs have different texts. -/
theorem UUID.str_inj : u.str = v.str ↔ u = v := by
  refine ⟨?_, fun h => by rw [h]⟩
  intro h
  have hlist := congrArg String.toList h
  rw [UUID.str_toList, UUID.str_toList] at hlist
  obtain ⟨h₁, hlist⟩ := List.append_inj hlist (by rw [length_hexField, length_hexField])
  obtain ⟨h₂, hlist⟩ := List.append_inj (List.cons.inj hlist).2 (by
    rw [length_hexField, length_hexField])
  obtain ⟨h₃, hlist⟩ := List.append_inj (List.cons.inj hlist).2 (by
    rw [length_hexField, length_hexField])
  obtain ⟨h₄, hlist⟩ := List.append_inj (List.cons.inj hlist).2 (by
    rw [length_hexField, length_hexField])
  have h₅ := hexField_inj (List.cons.inj hlist).2
  have h₁ := hexField_inj h₁
  have h₂ := hexField_inj h₂
  have h₃ := hexField_inj h₃
  have h₄ := hexField_inj h₄
  have hu := u.isLt
  have hv := v.isLt
  apply BitVec.eq_of_toNat_eq
  simp only [Nat.reducePow] at h₁ h₂ h₃ h₄ h₅ hu hv
  omega

theorem hexDigit_ne_slash {d : Nat} (hd : d < 16) : hexDigit d ≠ '/' := by
  have hall : ∀ d < 16, hexDigit d ≠ '/' := by decide
  exact hall d hd

theorem slash_not_mem_hexField : '/' ∉ (hexField width n).toList := by
  rw [hexField, String.toList_ofList]
  intro h
  obtain ⟨i, -, hi⟩ := List.mem_map.mp h
  exact hexDigit_ne_slash (Nat.mod_lt _ (by decide)) hi

theorem UUID.slash_not_mem_str : '/' ∉ u.str.toList := by
  rw [UUID.str_toList]
  simp [slash_not_mem_hexField]

/-- A key names the session it was built for. -/
theorem sessionIdIn_buildStorageKey {kind : EvidenceKind} :
    sessionIdIn (storageUri (buildStorageKey u v kind)) = u.str := by
  have huri : (storageUri (buildStorageKey u v kind)).toList = "s3://evidence/".toList ++
      (u.str.toList ++ '/' :: (v.str ++ "/" ++ kind.value ++ "." ++ kind.extension).toList) := by
    have hprefix : "s3://evidence/".toList = "s3://".toList ++ "evidence/".toList := by decide
    have hslash : "/".toList = ['/'] := by decide
    -- `simp` would first prove an equation lemma for all the literals
    delta buildStorageKey
    simp only [storageUri, String.toList_append, List.append_assoc, hprefix, hslash,
      List.cons_append, List.nil_append]
  have hnone : ∀ c ∈ u.str.toList, c ≠ '/' := fun c hc h => UUID.slash_not_mem_str (h ▸ hc)
  rw [sessionIdIn, huri, List.drop_left, List.takeWhile_append_of_pos (by simpa using hnone)]
  simp

end

/-! ## 2. The store -/

/-- An object store: the blob at each key. -/
abbrev EvidenceStore := String → Option Blob

def EvidenceStore.upload (store : EvidenceStore) (key : String) (data : Blob) : EvidenceStore :=
  Function.update store key (some data)

def EvidenceStore.delete (store : EvidenceStore) (key : String) : EvidenceStore :=
  Function.update store key none

/-- What the store answers during one seal: whether each call fails, and the checksum it
    reads back. -/
structure StoreAnswers where
  uploadFails : Bool
  /-- `none` is a failed read; a digest other than the blob's is corruption. -/
  remoteSha256 : Option String
  deleteFails : Bool
deriving DecidableEq, Repr

/-! ## 3. `seal_evidence` -/

structure SealEvidenceRequest where
  flagId : UUID
  examSessionId : UUID
  artifactType : EvidenceKind
  mediaType : String
  blob : Blob
  captureStartedAt : DateTime
  captureEndedAt : Option DateTime
  retentionExpiresAt : Option DateTime
deriving DecidableEq, Repr

def SealEvidenceRequest.key (request : SealEvidenceRequest) : String :=
  buildStorageKey request.examSessionId request.flagId request.artifactType

/-- `seal_evidence`: the store afterwards, and whether the blob is sealed. The three ways to
    fail are the three `EvidenceSealError`s: upload, checksum read, mismatch. -/
def sealEvidence (sha256 : Blob → String) (store : EvidenceStore)
    (request : SealEvidenceRequest) (answers : StoreAnswers) : EvidenceStore × Bool :=
  if answers.uploadFails then (store, false)
  else
    let uploaded := store.upload request.key request.blob
    match answers.remoteSha256 with
    | none => (uploaded, false)
    | some remote =>
      if remote = sha256 request.blob then (uploaded, true)
      -- a corrupted upload is deleted, and a failing delete is not reported
      else if answers.deleteFails then (uploaded, false)
      else (uploaded.delete request.key, false)

section
variable {store : EvidenceStore} {key key' : String} {data : Blob}
  {sha256 : Blob → String} {request : SealEvidenceRequest} {answers : StoreAnswers}

@[simp] theorem upload_self : store.upload key data key = some data := by
  rw [EvidenceStore.upload, Function.update_self]

@[simp] theorem upload_of_ne (h : key' ≠ key) : store.upload key data key' = store key' := by
  rw [EvidenceStore.upload, Function.update_of_ne h]

@[simp] theorem delete_self : store.delete key key = none := by
  rw [EvidenceStore.delete, Function.update_self]

@[simp] theorem delete_of_ne (h : key' ≠ key) : store.delete key key' = store key' := by
  rw [EvidenceStore.delete, Function.update_of_ne h]

/-- Sealing touches its own key only. -/
theorem sealEvidence_of_ne (h : key' ≠ request.key) :
    (sealEvidence sha256 store request answers).1 key' = store key' := by
  unfold sealEvidence
  by_cases hu : answers.uploadFails
  · rw [if_pos hu]
  · rw [if_neg hu]
    cases answers.remoteSha256 with
    | none => exact upload_of_ne h
    | some remote =>
      by_cases hr : remote = sha256 request.blob
      · simp [hr, h]
      · by_cases hd : answers.deleteFails <;> simp [hr, hd, h]

/-- The deletion of a corrupted upload went through. -/
def StoreAnswers.DeletesUpload (answers : StoreAnswers) (digest : String) : Prop :=
  ∃ remote, answers.remoteSha256 = some remote ∧ remote ≠ digest ∧ answers.deleteFails = false

/-- What sealing leaves at its own key: the uploaded blob, unless it was deleted again. -/
theorem sealEvidence_self (hu : answers.uploadFails = false) :
    (sealEvidence sha256 store request answers).1 request.key = some request.blob ↔
      ¬ answers.DeletesUpload (sha256 request.blob) := by
  unfold sealEvidence StoreAnswers.DeletesUpload
  rw [hu, if_neg (by simp)]
  cases answers.remoteSha256 with
  | none => simp
  | some remote =>
    by_cases hr : remote = sha256 request.blob
    · simp [hr]
    · by_cases hd : answers.deleteFails <;> simp [hr, hd]

theorem sealEvidence_deleted (hu : answers.uploadFails = false)
    (h : answers.DeletesUpload (sha256 request.blob)) :
    (sealEvidence sha256 store request answers).1 request.key = none := by
  obtain ⟨remote, hr, hne, hd⟩ := h
  simp [sealEvidence, hu, hr, hne, hd]

/-- Sealed is uploaded and read back with the blob's own digest. -/
theorem sealEvidence_snd_iff :
    (sealEvidence sha256 store request answers).2 = true ↔
      answers.uploadFails = false ∧ answers.remoteSha256 = some (sha256 request.blob) := by
  unfold sealEvidence
  cases answers.uploadFails with
  | true => simp
  | false =>
    cases answers.remoteSha256 with
    | none => simp
    | some remote =>
      by_cases hr : remote = sha256 request.blob
      · simp [hr]
      · by_cases hd : answers.deleteFails <;> simp [hr, hd]

/-- A sealed blob is at its key. -/
theorem sealEvidence_sealed (h : (sealEvidence sha256 store request answers).2 = true) :
    (sealEvidence sha256 store request answers).1 request.key = some request.blob := by
  unfold sealEvidence at h ⊢
  by_cases hu : answers.uploadFails
  · simp [hu] at h
  · rw [if_neg hu] at h ⊢
    cases hrem : answers.remoteSha256 with
    | none => simp [hrem] at h
    | some remote =>
      rw [hrem] at h
      by_cases hr : remote = sha256 request.blob
      · simp [hr]
      · by_cases hd : answers.deleteFails <;> simp [hr, hd] at h

end

end ProctorEngine
