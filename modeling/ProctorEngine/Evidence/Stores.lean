import Mathlib.Data.List.AList
import ProctorEngine.Evidence.Service
import ProctorEngine.Lib.Run

/-!
# The two evidence stores

`S3EvidenceStore` goes to an S3 service, `InMemoryEvidenceStore` to a dictionary, and the rest of
the engine is written against the one protocol. A call to the service can fail before it has taken
effect or after; all the store knows then is the code of the error. **An S3 store answers like the
one in memory, or it fails and says so**: no failure passes for an answer, and what a failed call
leaves behind is what was there before or what the call was for.

The service is a class with what its documentation promises as proof fields. The SHA-256 digest is a
parameter, as in `Service`.

A failed call is given a fate: it was lost, or it went unacknowledged. The fates are not visible to
the caller. The theorem says that there are fates under which the memory, with the same calls,
answers what was answered and holds in the end what the bucket holds; so whatever the engine
concludes from the answers of the memory it may conclude from those of S3, for some fates of the
calls that failed.

The fields of the class leave a service everything that a distributed store may do to one caller: it
may time out, it may be throttled with any code, it may apply a write and lose the response. What
they rule out is a response that is wrong, and an error that says the object is missing when it is
not.
-/

set_option autoImplicit false

namespace ProctorEngine

/-! ## 1. The service

The requests the store makes, and the promises: a request that is answered has taken effect, one
that is not has or has not. -/

/-- A `ClientError` with the code of its response, or a `BotoCoreError`. -/
inductive BotoError where
  | clientError (code detail : String)
  | botoCore (detail : String)
deriving DecidableEq, Repr

/-- `str(exc)` -/
def BotoError.detail : BotoError → String
  | .clientError _ detail | .botoCore detail => detail

inductive S3Request where
  | headBucket
  | createBucket
  | putObject (key : String) (body : Blob)
  | getObject (key : String)
  | deleteObject (key : String)
  | headObject (key : String)
deriving DecidableEq, Repr

/-- What a request does to the bucket, which may not be there. -/
def S3Request.effect : S3Request → Option EvidenceStore → Option EvidenceStore
  | .createBucket, bucket => some (bucket.getD fun _ => none)
  | .putObject key body, bucket => bucket.map (·.upload key body)
  | .deleteObject key, bucket => bucket.map (·.delete key)
  | .headBucket, bucket | .getObject _, bucket | .headObject _, bucket => bucket

/-- An S3 service, with the bucket of the store in it. A response carries the body of the object,
    if the request was for one. -/
class S3Service (σ : Type) where
  bucket : σ → Option EvidenceStore
  request : σ → S3Request → σ × Except BotoError Blob
  /-- A request takes effect or does not. -/
  effect_or_not (s : σ) (r : S3Request) :
    bucket (request s r).1 = bucket s ∨ bucket (request s r).1 = r.effect (bucket s)
  effect_of_ok (s : σ) (r : S3Request) (body : Blob) : (request s r).2 = .ok body →
    bucket (request s r).1 = r.effect (bucket s)
  /-- Only the creation of a bucket is answered where there is none. -/
  bucket_of_ok (s : σ) (r : S3Request) (body : Blob) : (request s r).2 = .ok body →
    r ≠ .createBucket → (bucket s).isSome
  getObject_ok (s : σ) (key : String) (body : Blob) : (request s (.getObject key)).2 = .ok body →
    (bucket s).bind (· key) = some body
  headObject_ok (s : σ) (key : String) (body : Blob) : (request s (.headObject key)).2 = .ok body →
    ((bucket s).bind (· key)).isSome
  /-- The two codes of an object that is not there. -/
  getObject_missing (s : σ) (key code detail : String) :
    (request s (.getObject key)).2 = .error (.clientError code detail) →
      code = "NoSuchKey" ∨ code = "404" → (bucket s).bind (· key) = none
  headObject_missing (s : σ) (key detail : String) :
    (request s (.headObject key)).2 = .error (.clientError "404" detail) →
      (bucket s).bind (· key) = none

/-! ## 2. The protocol

The methods as functions on the state of a store, and a run of calls on it. -/

/-- `EvidenceNotFoundError`, and the `EvidenceStoreError` of each method. -/
inductive StoreError where
  | notFound (key : String)
  | uploadFailed (key : String) (e : BotoError)
  | downloadFailed (key : String) (e : BotoError)
  | deleteFailed (key : String) (e : BotoError)
  | checkFailed (key : String) (e : BotoError)
  | bucketCheckFailed (e : BotoError)
  | bucketCreationFailed (e : BotoError)
deriving DecidableEq, Repr

/-- `str(exc)`; `bucket` is the name of the bucket. -/
def StoreError.message (bucket : String) : StoreError → String
  | .notFound key => "No object at key " ++ key
  | .uploadFailed key e => "Failed to upload " ++ key ++ ": " ++ e.detail
  | .downloadFailed key e => "Failed to download " ++ key ++ ": " ++ e.detail
  | .deleteFailed key e => "Failed to delete " ++ key ++ ": " ++ e.detail
  | .checkFailed key e => "Failed to check " ++ key ++ ": " ++ e.detail
  | .bucketCheckFailed e => "Failed to check bucket " ++ bucket ++ ": " ++ e.detail
  | .bucketCreationFailed e => "Failed to create bucket " ++ bucket ++ ": " ++ e.detail

/-- `EvidenceNotFoundError` is a subclass of `EvidenceStoreError`; this is the rest. -/
def StoreError.IsFault : StoreError → Prop
  | .notFound _ => False
  | _ => True

/-- The protocol `EvidenceStore`, of a store in the state `σ`. -/
structure EvidenceStoreProtocol (σ : Type) where
  upload : σ → String → Blob → σ × Except StoreError Unit
  download : σ → String → σ × Except StoreError Blob
  delete : σ → String → σ × Except StoreError Unit
  exists_ : σ → String → σ × Except StoreError Bool
  computeChecksum : σ → String → σ × Except StoreError String

inductive StoreCall where
  | upload (key : String) (data : Blob)
  | download (key : String)
  | delete (key : String)
  | exists_ (key : String)
  | computeChecksum (key : String)
deriving DecidableEq, Repr

inductive StoreAnswer where
  | done
  | blob (data : Blob)
  | found (b : Bool)
  | checksum (digest : String)
deriving DecidableEq, Repr

namespace EvidenceStoreProtocol

variable {σ : Type} (store : EvidenceStoreProtocol σ)

def call (s : σ) : StoreCall → σ × Except StoreError StoreAnswer
  | .upload key data => (store.upload s key data).map id (·.map fun _ => .done)
  | .download key => (store.download s key).map id (·.map .blob)
  | .delete key => (store.delete s key).map id (·.map fun _ => .done)
  | .exists_ key => (store.exists_ s key).map id (·.map .found)
  | .computeChecksum key => (store.computeChecksum s key).map id (·.map .checksum)

/-- The calls of a run and what they are answered. -/
def serve (s : σ) : List StoreCall → σ × List (Except StoreError StoreAnswer)
  | [] => (s, [])
  | c :: calls =>
    let (s, answer) := store.call s c
    let (s, answers) := serve s calls
    (s, answer :: answers)

end EvidenceStoreProtocol

/-! ## 3. In memory

The dictionary. It never fails, but for an object that is not there. -/

structure InMemoryEvidenceStore where
  blobs : AList fun _ : String => Blob

namespace InMemoryEvidenceStore

def empty : InMemoryEvidenceStore := ⟨∅⟩

def upload (m : InMemoryEvidenceStore) (key : String) (data : Blob) : InMemoryEvidenceStore :=
  ⟨m.blobs.insert key data⟩

def download (m : InMemoryEvidenceStore) (key : String) : Except StoreError Blob :=
  match m.blobs.lookup key with
  | none => .error (.notFound key)
  | some data => .ok data

def delete (m : InMemoryEvidenceStore) (key : String) : InMemoryEvidenceStore :=
  ⟨m.blobs.erase key⟩

def exists_ (m : InMemoryEvidenceStore) (key : String) : Bool := (m.blobs.lookup key).isSome

/-- The store as the protocol has it. -/
def methods (sha256 : Blob → String) : EvidenceStoreProtocol InMemoryEvidenceStore where
  upload m key data := (m.upload key data, .ok ())
  download m key := (m, m.download key)
  delete m key := (m.delete key, .ok ())
  exists_ m key := (m, .ok (m.exists_ key))
  computeChecksum m key := (m, (m.download key).map sha256)

/-- The blob at each key. -/
def contents (m : InMemoryEvidenceStore) : EvidenceStore := fun key => m.blobs.lookup key

end InMemoryEvidenceStore

/-! ## 4. S3

Every method is one request and a reading of its response. The two codes that mean a missing object
are not the same in `download` and in `exists`. -/

namespace S3EvidenceStore

open S3Service

variable {σ : Type} [S3Service σ]

/-- `_ensure_bucket_exists` A bucket that is not there is created; any other answer to the check is
    an error. -/
def ensureBucketExists (s : σ) : σ × Except StoreError Unit :=
  match request s .headBucket with
  | (s, .ok _) => (s, .ok ())
  | (s, .error (.clientError code detail)) =>
    if code = "404" then
      match request s .createBucket with
      | (s, .ok _) => (s, .ok ())
      | (s, .error e) => (s, .error (.bucketCreationFailed e))
    else (s, .error (.bucketCheckFailed (.clientError code detail)))
  | (s, .error e) => (s, .error (.bucketCheckFailed e))

def upload (s : σ) (key : String) (data : Blob) : σ × Except StoreError Unit :=
  let (s, response) := request s (.putObject key data)
  (s, match response with
    | .ok _ => .ok ()
    | .error e => .error (.uploadFailed key e))

def download (s : σ) (key : String) : σ × Except StoreError Blob :=
  let (s, response) := request s (.getObject key)
  (s, match response with
    | .ok body => .ok body
    | .error (.clientError code detail) =>
      if code = "NoSuchKey" ∨ code = "404" then .error (.notFound key)
      else .error (.downloadFailed key (.clientError code detail))
    | .error e => .error (.downloadFailed key e))

def delete (s : σ) (key : String) : σ × Except StoreError Unit :=
  let (s, response) := request s (.deleteObject key)
  (s, match response with
    | .ok _ => .ok ()
    | .error e => .error (.deleteFailed key e))

def exists_ (s : σ) (key : String) : σ × Except StoreError Bool :=
  let (s, response) := request s (.headObject key)
  (s, match response with
    | .ok _ => .ok true
    | .error (.clientError code detail) =>
      if code = "404" then .ok false else .error (.checkFailed key (.clientError code detail))
    | .error e => .error (.checkFailed key e))

/-- The store as the protocol has it. -/
def methods (sha256 : Blob → String) : EvidenceStoreProtocol σ where
  upload := upload
  download := download
  delete := delete
  exists_ := exists_
  computeChecksum s key :=
    let (s, result) := download s key
    (s, result.map sha256)

end S3EvidenceStore

/-! ## 5. One call

The calls that read and the calls that write are two lemmas, for a call that reads has no effect to
be unsure about. -/

/-- How a call on the S3 store goes, beside the same call in memory. -/
inductive CallFate where
  /-- It is answered. -/
  | answered
  /-- It fails, and has done nothing. -/
  | lost
  /-- It fails, and has done what it was for. -/
  | unacknowledged
deriving DecidableEq, Repr

namespace InMemoryEvidenceStore

/-- The memory after a call with this fate. -/
def fated (sha256 : Blob → String) (m : InMemoryEvidenceStore) (c : StoreCall) :
    CallFate → InMemoryEvidenceStore
  | .answered | .unacknowledged => ((methods sha256).call m c).1
  | .lost => m

/-- The calls of a run with their fates, and what the memory answers before each. -/
def serveFated (sha256 : Blob → String) (m : InMemoryEvidenceStore) :
    List (StoreCall × CallFate) → InMemoryEvidenceStore × List (Except StoreError StoreAnswer)
  | [] => (m, [])
  | (c, fate) :: calls =>
    let (m', answers) := serveFated sha256 (m.fated sha256 c fate) calls
    (m', ((methods sha256).call m c).2 :: answers)

end InMemoryEvidenceStore

/-- The answer beside the one of the memory. -/
def CallFate.Explains (fate : CallFate) (inMemory actual : Except StoreError StoreAnswer) : Prop :=
  match fate with
  | .answered => actual = inMemory
  | .lost | .unacknowledged => ∃ e : StoreError, e.IsFault ∧ actual = .error e

namespace S3EvidenceStore

open S3Service

variable {σ : Type} [S3Service σ] {sha256 : Blob → String} {s : σ} {m : InMemoryEvidenceStore}
  {key : String} {data : Blob}

/-- The bucket holds what the memory holds. -/
def Holds (s : σ) (m : InMemoryEvidenceStore) : Prop := bucket s = some m.contents

theorem contents_upload : (m.upload key data).contents = m.contents.upload key data := by
  funext other
  unfold InMemoryEvidenceStore.contents InMemoryEvidenceStore.upload EvidenceStore.upload
  by_cases h : other = key
  · subst h
    rw [AList.lookup_insert, Function.update_self]
  · rw [AList.lookup_insert_ne h, Function.update_of_ne h]

theorem contents_delete : (m.delete key).contents = m.contents.delete key := by
  funext other
  unfold InMemoryEvidenceStore.contents InMemoryEvidenceStore.delete EvidenceStore.delete
  by_cases h : other = key
  · subst h
    rw [AList.lookup_erase, Function.update_self]
  · rw [AList.lookup_erase_ne h, Function.update_of_ne h]

variable (key) in
/-- What the memory has at a key, from what the bucket has. -/
theorem Holds.lookup (h : Holds s m) : (bucket s).bind (· key) = m.blobs.lookup key := by
  rw [Holds] at h
  rw [h]
  rfl

/-- A request that reads leaves the bucket as it is. -/
theorem Holds.reads (h : Holds s m) {r : S3Request} (hreads : r.effect (bucket s) = bucket s) :
    Holds (request s r).1 m := by
  obtain hkept | happlied := effect_or_not s r
  · exact hkept.trans h
  · exact happlied.trans (hreads.trans h)

/-- What a call comes to, if it reads: the answer of the memory, or a fault. -/
def Reads {α : Type} (call : σ × Except StoreError α) (m : InMemoryEvidenceStore)
    (inMemory : Except StoreError α) : Prop :=
  Holds call.1 m ∧ (call.2 = inMemory ∨ ∃ e : StoreError, e.IsFault ∧ call.2 = .error e)

variable (key) in
theorem download_reads (h : Holds s m) : Reads (download s key) m (m.download key) := by
  refine ⟨h.reads rfl, ?_⟩
  have hlookup := h.lookup key
  cases hresponse : (request s (.getObject key)).2 with
  | ok body =>
    have hbody := (getObject_ok s key body hresponse).symm.trans hlookup
    refine .inl ?_
    simp only [download, InMemoryEvidenceStore.download, hresponse, ← hbody]
  | error e =>
    cases e with
    | botoCore detail =>
      refine .inr ⟨.downloadFailed key (.botoCore detail), trivial, ?_⟩
      simp only [download, hresponse]
    | clientError code detail =>
      by_cases hcode : code = "NoSuchKey" ∨ code = "404"
      · have hnone := (getObject_missing s key code detail hresponse hcode).symm.trans hlookup
        refine .inl ?_
        simp only [download, InMemoryEvidenceStore.download, hresponse, ← hnone, if_pos hcode]
      · refine .inr ⟨.downloadFailed key (.clientError code detail), trivial, ?_⟩
        simp only [download, hresponse, if_neg hcode]

variable (key) in
theorem exists_reads (h : Holds s m) : Reads (exists_ s key) m (.ok (m.exists_ key)) := by
  refine ⟨h.reads rfl, ?_⟩
  have hlookup := h.lookup key
  cases hresponse : (request s (.headObject key)).2 with
  | ok body =>
    refine .inl ?_
    simp only [exists_, InMemoryEvidenceStore.exists_, hresponse, ← hlookup,
      headObject_ok s key body hresponse]
  | error e =>
    cases e with
    | botoCore detail =>
      refine .inr ⟨.checkFailed key (.botoCore detail), trivial, ?_⟩
      simp only [exists_, hresponse]
    | clientError code detail =>
      by_cases hcode : code = "404"
      · subst hcode
        refine .inl ?_
        simp only [exists_, InMemoryEvidenceStore.exists_, hresponse, ← hlookup,
          headObject_missing s key detail hresponse, if_true, Option.isSome_none]
      · refine .inr ⟨.checkFailed key (.clientError code detail), trivial, ?_⟩
        simp only [exists_, hresponse, if_neg hcode]

/-- The answer is passed through a function. -/
theorem Reads.map {α β : Type} {call : σ × Except StoreError α} {inMemory : Except StoreError α}
    (h : Reads call m inMemory) (f : α → β) :
    Reads (call.1, call.2.map f) m (inMemory.map f) := by
  obtain ⟨hkept, hsame | ⟨e, hfault, herror⟩⟩ := h
  · exact ⟨hkept, .inl (congrArg (Except.map f) hsame)⟩
  · exact ⟨hkept, .inr ⟨e, hfault, congrArg (Except.map f) herror⟩⟩

/-- What a call comes to, with what the memory makes of it. -/
def Goes (call : σ × Except StoreError StoreAnswer) (sha256 : Blob → String)
    (m : InMemoryEvidenceStore) (c : StoreCall) (fate : CallFate) : Prop :=
  Holds call.1 (m.fated sha256 c fate) ∧
    fate.Explains ((InMemoryEvidenceStore.methods sha256).call m c).2 call.2

theorem Reads.goes {call : σ × Except StoreError StoreAnswer} {c : StoreCall}
    (h : Reads call m ((InMemoryEvidenceStore.methods sha256).call m c).2)
    (hkept : ((InMemoryEvidenceStore.methods sha256).call m c).1 = m) :
    ∃ fate : CallFate, Goes call sha256 m c fate := by
  obtain ⟨hholds, hsame | hfault⟩ := h
  · refine ⟨.answered, ?_, hsame⟩
    rw [InMemoryEvidenceStore.fated, hkept]
    exact hholds
  · exact ⟨.lost, hholds, hfault⟩

/-- A call that writes, with the request it makes: a fault comes before the effect or after. -/
theorem Holds.writes (h : Holds s m) {c : StoreCall} (r : S3Request)
    (fault : BotoError → StoreError) {call : σ × Except StoreError StoreAnswer}
    (hrequest : call.1 = (request s r).1)
    (hanswered : ∀ body, (request s r).2 = .ok body → call.2 = .ok .done)
    (hfailed : ∀ e, (request s r).2 = .error e → call.2 = .error (fault e))
    (hfault : ∀ e, (fault e).IsFault)
    (heffect : r.effect (some m.contents) =
      some ((InMemoryEvidenceStore.methods sha256).call m c).1.contents)
    (hdone : ((InMemoryEvidenceStore.methods sha256).call m c).2 = .ok .done) :
    ∃ fate : CallFate, Goes call sha256 m c fate := by
  have happly : bucket (request s r).1 = r.effect (bucket s) →
      Holds call.1 ((InMemoryEvidenceStore.methods sha256).call m c).1 := by
    intro happlied
    rw [Holds, hrequest, happlied, show bucket s = _ from h]
    exact heffect
  cases hresponse : (request s r).2 with
  | ok body =>
    exact ⟨.answered, happly (effect_of_ok s r body hresponse),
      (hanswered body hresponse).trans hdone.symm⟩
  | error e =>
    obtain hkept | happlied := effect_or_not s r
    · refine ⟨.lost, ?_, fault e, hfault e, hfailed e hresponse⟩
      rw [Holds, hrequest]
      exact hkept.trans h
    · exact ⟨.unacknowledged, happly happlied, fault e, hfault e, hfailed e hresponse⟩

variable (sha256) in
/-- **A call on the S3 store is the call in memory, or a fault.** -/
theorem call_goes (h : Holds s m) (c : StoreCall) :
    ∃ fate : CallFate, Goes ((methods sha256).call s c) sha256 m c fate := by
  cases c with
  | upload key data =>
    refine h.writes (.putObject key data) (.uploadFailed key) rfl ?_ ?_
      (fun _ => trivial) (congrArg some contents_upload.symm) rfl
    · intro body hresponse
      simp [EvidenceStoreProtocol.call, methods, upload, hresponse, Except.map]
    · intro e hresponse
      simp [EvidenceStoreProtocol.call, methods, upload, hresponse, Except.map]
  | delete key =>
    refine h.writes (.deleteObject key) (.deleteFailed key) rfl ?_ ?_
      (fun _ => trivial) (congrArg some contents_delete.symm) rfl
    · intro body hresponse
      simp [EvidenceStoreProtocol.call, methods, delete, hresponse, Except.map]
    · intro e hresponse
      simp [EvidenceStoreProtocol.call, methods, delete, hresponse, Except.map]
  | download key => exact Reads.goes ((download_reads key h).map StoreAnswer.blob) rfl
  | exists_ key => exact Reads.goes ((exists_reads key h).map StoreAnswer.found) rfl
  | computeChecksum key =>
    exact Reads.goes (((download_reads key h).map sha256).map StoreAnswer.checksum) rfl

/-! ## 6. Runs

The construction of the store, which finds or makes the bucket, and then the calls, by induction. -/

/-- A store that has been constructed has its bucket, with what was in it. -/
theorem ensureBucketExists_holds (hempty : ((bucket s).getD fun _ => none) = m.contents)
    (hready : (ensureBucketExists s).2 = .ok ()) : Holds (ensureBucketExists s).1 m := by
  unfold ensureBucketExists at hready ⊢
  cases hhead : request s .headBucket with
  | mk s' response =>
    have hfst : s' = (request s .headBucket).1 := by rw [hhead]
    have hsnd : (request s .headBucket).2 = response := by rw [hhead]
    have hkept : bucket s' = bucket s := by
      rw [hfst]
      exact (effect_or_not s .headBucket).elim id id
    rw [hhead] at hready
    cases response with
    -- the bucket is there
    | ok body =>
      obtain ⟨b, hb⟩ := Option.isSome_iff_exists.mp
        (bucket_of_ok s .headBucket body hsnd (by simp))
      rw [hb] at hempty
      exact hkept.trans (hb.trans (congrArg some hempty))
    | error e =>
      cases e with
      | botoCore detail => cases hready
      | clientError code detail =>
        -- it is not, and the only error the constructor goes on after is a 404
        by_cases hcode : code = "404"
        · simp only [if_pos hcode] at hready ⊢
          cases hcreate : request s' .createBucket with
          | mk s'' created =>
            rw [hcreate] at hready
            have hfst' : s'' = (request s' .createBucket).1 := by rw [hcreate]
            have hsnd' : (request s' .createBucket).2 = created := by rw [hcreate]
            cases created with
            | error e => cases hready
            | ok body =>
              show bucket s'' = some m.contents
              rw [hfst', effect_of_ok s' .createBucket body hsnd', hkept]
              exact congrArg some hempty
        · simp only [if_neg hcode] at hready
          cases hready

/-- The calls of a run, from a bucket that holds what the memory holds. -/
theorem serve_goes (h : Holds s m) (calls : List StoreCall) :
    ∃ fates : List CallFate, fates.length = calls.length ∧
      Holds ((methods sha256).serve s calls).1 (m.serveFated sha256 (calls.zip fates)).1 ∧
      List.Forall₂ (fun fated actual => CallFate.Explains fated.1 fated.2 actual)
        (fates.zip (m.serveFated sha256 (calls.zip fates)).2)
        ((methods sha256).serve s calls).2 := by
  induction calls generalizing s m with
  | nil => exact ⟨[], rfl, h, .nil⟩
  | cons c calls ih =>
    obtain ⟨fate, hholds, hexplains⟩ := call_goes sha256 h c
    obtain ⟨fates, hlength, hfinal, hanswers⟩ := ih hholds
    exact ⟨fate :: fates, congrArg Nat.succ hlength, hfinal, .cons hexplains hanswers⟩

/-- **Every run of a constructed S3 store is a run in memory in which calls may fail, and a failed
    write may still have been made.** The service is any with the laws of `S3Service`, and the store
    asks it call by call. -/
theorem every_run_in_memory (calls : List StoreCall)
    (hempty : ((bucket s).getD fun _ => none) = m.contents)
    (hready : (ensureBucketExists s).2 = .ok ()) :
    ∃ fates : List CallFate, fates.length = calls.length ∧
      Holds ((methods sha256).serve (ensureBucketExists s).1 calls).1
        (m.serveFated sha256 (calls.zip fates)).1 ∧
      List.Forall₂ (fun fated actual => CallFate.Explains fated.1 fated.2 actual)
        (fates.zip (m.serveFated sha256 (calls.zip fates)).2)
        ((methods sha256).serve (ensureBucketExists s).1 calls).2 :=
  serve_goes (ensureBucketExists_holds hempty hready) calls

end S3EvidenceStore

/-! ## 7. A service with outages

A service that keeps the promises and still fails in every way they allow. -/

/-- Where a request is cut off. -/
inductive Outage where
  | beforeEffect
  | afterEffect
deriving DecidableEq, Repr

/-- A bucket, and for each request to come whether it is cut off. -/
structure OutageS3 where
  blobs : Option EvidenceStore
  outages : List (Option Outage)

namespace OutageS3

/-- The response to a request that is not cut off. The head of an object and of a bucket have no
    body to name the error in, so they answer with the number alone. -/
def respond : S3Request → Option EvidenceStore → Except BotoError Blob
  | .createBucket, _ => .ok []
  | .headBucket, none => .error (.clientError "404" "Not Found")
  | .headObject _, none => .error (.clientError "404" "Not Found")
  | _, none => .error (.clientError "NoSuchBucket" "The specified bucket does not exist")
  | .getObject key, some blobs =>
    match blobs key with
    | none => .error (.clientError "NoSuchKey" "The specified key does not exist.")
    | some body => .ok body
  | .headObject key, some blobs =>
    match blobs key with
    | none => .error (.clientError "404" "Not Found")
    | some _ => .ok []
  | _, some _ => .ok []

def serveRequest (s : OutageS3) (r : S3Request) : OutageS3 × Except BotoError Blob :=
  match s.outages with
  | some .beforeEffect :: outages => (⟨s.blobs, outages⟩, .error (.botoCore "Connect timeout"))
  | some .afterEffect :: outages =>
    (⟨r.effect s.blobs, outages⟩, .error (.botoCore "Read timeout"))
  | none :: outages => (⟨r.effect s.blobs, outages⟩, respond r s.blobs)
  | [] => (⟨r.effect s.blobs, []⟩, respond r s.blobs)

/-- A request is cut off, or answered after its effect. -/
theorem serveRequest_cases (s : OutageS3) (r : S3Request) :
    (∃ detail, (s.serveRequest r).2 = .error (.botoCore detail) ∧
        ((s.serveRequest r).1.blobs = s.blobs ∨ (s.serveRequest r).1.blobs = r.effect s.blobs)) ∨
      ((s.serveRequest r).2 = respond r s.blobs ∧
        (s.serveRequest r).1.blobs = r.effect s.blobs) := by
  obtain ⟨blobs, outages⟩ := s
  cases outages with
  | nil => exact .inr ⟨rfl, rfl⟩
  | cons outage outages =>
    cases outage with
    | none => exact .inr ⟨rfl, rfl⟩
    | some outage =>
      cases outage with
      | beforeEffect => exact .inl ⟨_, rfl, .inl rfl⟩
      | afterEffect => exact .inl ⟨_, rfl, .inr rfl⟩

/-- What is not a transport error is the response. -/
theorem respond_of {s : OutageS3} {r : S3Request} {response : Except BotoError Blob}
    (h : (s.serveRequest r).2 = response) (hresponse : ∀ d, response ≠ .error (.botoCore d)) :
    respond r s.blobs = response ∧ (s.serveRequest r).1.blobs = r.effect s.blobs := by
  obtain ⟨detail, herror, -⟩ | ⟨hresp, heffect⟩ := serveRequest_cases s r
  · exact absurd (h.symm.trans herror) (hresponse detail)
  · exact ⟨hresp.symm.trans h, heffect⟩

instance : S3Service OutageS3 where
  bucket s := s.blobs
  request := serveRequest
  effect_or_not s r := by
    obtain ⟨-, -, heffect⟩ | ⟨-, heffect⟩ := serveRequest_cases s r
    · exact heffect
    · exact .inr heffect
  effect_of_ok s r body h := (respond_of h (by simp)).2
  bucket_of_ok s r body h hcreate := by
    have hrespond := (respond_of h (by simp)).1
    cases hblobs : s.blobs with
    | some blobs => rfl
    | none =>
      rw [hblobs] at hrespond
      cases r with
      | createBucket => exact absurd rfl hcreate
      | headBucket => cases hrespond
      | putObject key body => cases hrespond
      | getObject key => cases hrespond
      | deleteObject key => cases hrespond
      | headObject key => cases hrespond
  getObject_ok s key body h := by
    have hrespond := (respond_of h (by simp)).1
    cases hblobs : s.blobs with
    | none =>
      rw [hblobs] at hrespond
      cases hrespond
    | some blobs =>
      rw [hblobs] at hrespond
      show blobs key = some body
      simp only [respond] at hrespond
      cases hat : blobs key with
      | none => simp [hat] at hrespond
      | some found => simpa [hat] using hrespond
  headObject_ok s key body h := by
    have hrespond := (respond_of h (by simp)).1
    cases hblobs : s.blobs with
    | none =>
      rw [hblobs] at hrespond
      cases hrespond
    | some blobs =>
      rw [hblobs] at hrespond
      show (blobs key).isSome
      simp only [respond] at hrespond
      cases hat : blobs key with
      | none => simp [hat] at hrespond
      | some found => rfl
  getObject_missing s key code detail h hcode := by
    have hrespond := (respond_of h (by simp)).1
    cases hblobs : s.blobs with
    | none => rfl
    | some blobs =>
      rw [hblobs] at hrespond
      show blobs key = none
      simp only [respond] at hrespond
      cases hat : blobs key with
      | none => rfl
      | some found => simp [hat] at hrespond
  headObject_missing s key detail h := by
    have hrespond := (respond_of h (by simp)).1
    cases hblobs : s.blobs with
    | none => rfl
    | some blobs =>
      rw [hblobs] at hrespond
      show blobs key = none
      simp only [respond] at hrespond
      cases hat : blobs key with
      | none => rfl
      | some found => simp [hat] at hrespond

end OutageS3

/-- A store on a service without the bucket, whose first upload is cut off after its effect. -/
theorem S3EvidenceStore.every_run_in_memory_outage :
    ∃ fates : List CallFate, fates.length = 3 ∧
      S3EvidenceStore.Holds ((S3EvidenceStore.methods fun _ => "digest").serve
          (S3EvidenceStore.ensureBucketExists
            (OutageS3.mk none [none, none, some .afterEffect])).1
          [.upload "k" [1], .download "k", .exists_ "other"]).1
        (InMemoryEvidenceStore.empty.serveFated (fun _ => "digest")
          ([.upload "k" [1], .download "k", .exists_ "other"].zip fates)).1 ∧
      List.Forall₂ (fun fated actual => CallFate.Explains fated.1 fated.2 actual)
        (fates.zip (InMemoryEvidenceStore.empty.serveFated (fun _ => "digest")
          ([.upload "k" [1], .download "k", .exists_ "other"].zip fates)).2)
        ((S3EvidenceStore.methods fun _ => "digest").serve
          (S3EvidenceStore.ensureBucketExists
            (OutageS3.mk none [none, none, some .afterEffect])).1
          [.upload "k" [1], .download "k", .exists_ "other"]).2 :=
  S3EvidenceStore.every_run_in_memory [.upload "k" [1], .download "k", .exists_ "other"]
    (by funext key; rfl) (by decide)

end ProctorEngine
