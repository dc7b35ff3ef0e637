import ProctorEngine.Orchestration.Routes

/-!
# Callers without a credential

Every route of the router that writes depends on a session token or the internal token, except the
evidence route. **A caller with neither has no influence exactly when none of its uploads gets as
far as the store or the table.**

`NoCredential` is about the request: its header decodes to no session token, and is not the internal
one. What such a request does is decided by its route's dependency, before the route runs. So there
is one case with an argument in it, and it is about the service behind that route
(`seal_eq_self_iff`): which upload leaves the store and the table as they were.
-/

set_option autoImplicit false

namespace ProctorEngine
namespace Unauthenticated

variable (deps : OrchestrationDeps)

/-- Neither a valid session token nor the internal terminate token. -/
structure NoCredential (r : RouteRequest) : Prop where
  session : ∀ claims, decodeOrRaise deps.jwt r.receivedAt r.authorization ≠ .ok claims
  internal : requireInternalTerminateToken deps.internalTerminateToken r.authorization ≠ .ok ()

/-- An upload that leaves no trace: if it reaches the store, the key already is as the upload
    would leave it, and no row is filed. -/
structure Traceless (sha256 : Blob → String) (s : EvidenceState) (r : EvidenceRuns.Sealing) :
    Prop where
  store : EvidenceRuns.Uploads s r →
    (r.2.answers.DeletesUpload (sha256 r.1.blob) → s.store r.1.key = none) ∧
    (¬ r.2.answers.DeletesUpload (sha256 r.1.blob) → s.store r.1.key = some r.1.blob)
  row : ¬ CrossSessionLinks.Files sha256 s r

/-- The condition on a request: if it is an upload that is well formed, it leaves no trace. -/
def UploadsTraceless (s : EvidenceState) (r : RouteRequest) : Prop :=
  ∀ upload choices request, r.route = .postSealEvidence upload choices →
    upload.toRequest choices.now = some request → Traceless deps.sha256 s (request, choices)

section
variable {deps} {s : EvidenceState} {r : RouteRequest}

theorem seal_eq_self_iff {sha256 : Blob → String} {r : EvidenceRuns.Sealing} :
    EvidenceRuns.step sha256 s r = s ↔ Traceless sha256 s r := by
  constructor
  · intro h
    refine ⟨EvidenceRuns.step_store_eq_self_iff.mp (congrArg EvidenceState.store h), ?_⟩
    rcases CrossSessionLinks.sealEvidence_db r with ⟨-, hinsert⟩ | ⟨hnot, -⟩
    · -- the row would have been there before it was filed
      intro hfiles
      rw [h] at hinsert
      have hthere := (EvidenceRuns.mem_insertArtifact hinsert).mpr (.inr rfl)
      exact hfiles.row.fresh _ hthere (.inl rfl)
    · exact hnot
  · intro h
    have hstore := EvidenceRuns.step_store_eq_self_iff.mpr h.store
    rcases CrossSessionLinks.sealEvidence_db r with ⟨hfiles, -⟩ | ⟨-, hdb⟩
    · exact absurd hfiles h.row
    · calc EvidenceRuns.step sha256 s r
          = ⟨(EvidenceRuns.step sha256 s r).db, (EvidenceRuns.step sha256 s r).store⟩ := rfl
        _ = s := by rw [hdb, hstore]

theorem NoCredential.decode (h : NoCredential deps r) :
    ∃ e, decodeOrRaise deps.jwt r.receivedAt r.authorization = .error e := by
  cases hdecode : decodeOrRaise deps.jwt r.receivedAt r.authorization with
  | error e => exact ⟨e, rfl⟩
  | ok claims => exact absurd hdecode (h.session claims)

theorem NoCredential.terminateToken (h : NoCredential deps r) :
    ∃ e, requireInternalTerminateToken deps.internalTerminateToken r.authorization
      = .error e := by
  cases htoken : requireInternalTerminateToken deps.internalTerminateToken r.authorization with
  | error e => exact ⟨e, rfl⟩
  | ok u => exact absurd htoken h.internal

/-- No credential, no admin route. -/
theorem NoCredential.asAdmin (h : NoCredential deps r)
    (handler : AdminUser → EvidenceState × Except RouteError Unit) :
    (deps.asAdmin s r handler).1 = s := by
  obtain ⟨e, he⟩ := h.decode
  rw [OrchestrationDeps.asAdmin, requireAdminRole_error he]

/-- **A request without a credential leaves everything as it is exactly when it is not an upload
    that leaves a trace.** -/
theorem step_eq_self_iff (h : NoCredential deps r) :
    deps.step s r = s ↔ UploadsTraceless deps s r := by
  have hother : (∀ upload choices, r.route ≠ .postSealEvidence upload choices) →
      UploadsTraceless deps s r := by
    intro hne upload choices request hroute
    exact absurd hroute (hne upload choices)
  rw [OrchestrationDeps.step, OrchestrationDeps.handle]
  cases hroute : r.route with
  -- Every route but the last asks for a credential first, and gets none.
  | getSessionStatus sessionId =>
    obtain ⟨e, he⟩ := h.decode
    refine iff_of_true ?_ (hother (by simp [hroute]))
    simp only [requireSessionOwnerOrAdmin, he]
  | postTerminate sessionId request now recordId =>
    obtain ⟨e, he⟩ := h.terminateToken
    refine iff_of_true ?_ (hother (by simp [hroute]))
    simp only [he]
  | getPolicyConfig => exact iff_of_true (h.asAdmin _) (hother (by simp [hroute]))
  | getExemptions => exact iff_of_true (h.asAdmin _) (hother (by simp [hroute]))
  | getIdentityOverrides => exact iff_of_true (h.asAdmin _) (hother (by simp [hroute]))
  | getFlags sessionId => exact iff_of_true (h.asAdmin _) (hother (by simp [hroute]))
  | admin operation => exact iff_of_true (h.asAdmin _) (hother (by simp [hroute]))
  -- The upload has no dependency on one, so what it does is what the service does.
  | postSealEvidence upload choices =>
    have hcondition : UploadsTraceless deps s r ↔
        ∀ request, upload.toRequest choices.now = some request →
          Traceless deps.sha256 s (request, choices) := by
      constructor
      · intro hall request hrequest
        exact hall upload choices request hroute hrequest
      · intro hall upload' choices' request hroute' hrequest
        obtain ⟨rfl, rfl⟩ := Route.postSealEvidence.inj (hroute.symm.trans hroute')
        exact hall request hrequest
    rw [hcondition]
    dsimp only
    cases hrequest : upload.toRequest choices.now with
    | none => exact iff_of_true rfl fun request h => absurd h (by simp)
    | some request =>
      simp only [Option.some.injEq, forall_eq']
      exact seal_eq_self_iff (r := (request, choices))

theorem toRequest_flagId {upload : EvidenceUpload} {now : DateTime}
    {request : SealEvidenceRequest} (h : upload.toRequest now = some request) :
    request.flagId = upload.flagId := by
  unfold EvidenceUpload.toRequest at h
  repeat' split at h
  all_goals cases h
  rfl

/-- An upload for a flag that does not exist is refused at the door. -/
theorem traceless_of_no_flag {sha256 : Blob → String} {r : EvidenceRuns.Sealing}
    (h : s.db.getFlag r.1.flagId = none) : Traceless sha256 s r := by
  refine ⟨?_, ?_⟩
  · intro hup
    have hsome := hup.2.1
    rw [h] at hsome
    exact absurd hsome (by simp)
  · intro hfiles
    have hsome : (s.db.getFlag r.1.flagId).isSome := hfiles.row.flag
    rw [h] at hsome
    exact absurd hsome (by simp)

end

/-- **Callers without a credential have no influence exactly when their uploads leave no trace.**
    From any database and store, over every sequence of their requests. The upload of evidence is
    the one route without a credential dependency; the others change nothing for these callers. -/
theorem no_influence_iff (s : EvidenceState) (rs : List RouteRequest)
    (hrs : ∀ r ∈ rs, NoCredential deps r) :
    Run.Always deps.step (· = s) s rs ↔ Run.EachStep deps.step (UploadsTraceless deps) s rs := by
  rw [Run.always_eq_iff]
  exact Run.eachStep_congr (fun _ _ h => step_eq_self_iff h) (Run.eachStep_of_mem hrs)

/-- A router whose library knows no token. -/
def sampleDeps : OrchestrationDeps where
  internalTerminateToken := "internal"
  jwt := .issued "abc" [] 20
  sha256 := EvidenceRuns.digest

/-- No header at all. -/
def anonymous (route : Route) : RouteRequest := ⟨none, 10, route⟩

theorem anonymous_noCredential (route : Route) : NoCredential sampleDeps (anonymous route) :=
  ⟨fun _ h => absurd h (by simp [anonymous, decodeOrRaise, parseBearer]),
    fun h => absurd h (by simp [anonymous, requireInternalTerminateToken, parseBearer])⟩

/-- The clip `EvidenceRuns.sealClip` seals, as it is uploaded. -/
def anonymousUpload (flagId : UUID) : Route :=
  .postSealEvidence ⟨1, flagId, "clip", "video/webm", 0, some 10, none, []⟩
    (EvidenceRuns.sealClip [] 5).2

/-- Without a header, the policies are not listed and a clip of no flag is not filed. -/
theorem anonymous_no_influence :
    Run.Always sampleDeps.step (· = EvidenceRuns.unsealed) EvidenceRuns.unsealed
      [anonymous .getPolicyConfig, anonymous (anonymousUpload 9)] := by
  refine (no_influence_iff sampleDeps EvidenceRuns.unsealed _ ?_).mpr ⟨?_, ?_, trivial⟩
  · intro r hr
    rcases List.mem_cons.mp hr with rfl | hr
    · exact anonymous_noCredential _
    · obtain rfl := List.mem_singleton.mp hr
      exact anonymous_noCredential _
  · intro upload choices request hroute
    exact absurd hroute (by simp [anonymous])
  · rw [(step_eq_self_iff (anonymous_noCredential .getPolicyConfig)).mpr fun _ _ _ h =>
      absurd h (by simp [anonymous])]
    intro upload choices request hroute hrequest
    obtain ⟨rfl, rfl⟩ := Route.postSealEvidence.inj hroute
    refine traceless_of_no_flag ?_
    rw [toRequest_flagId hrequest]
    decide +kernel

/-- A clip sealed for a flag by nobody in particular. -/
theorem anonymous_upload_filed :
    (∀ r ∈ [anonymous (anonymousUpload 4)], NoCredential sampleDeps r) ∧
    ¬ Run.Always sampleDeps.step (· = EvidenceRuns.unsealed) EvidenceRuns.unsealed
      [anonymous (anonymousUpload 4)] := by
  refine ⟨?_, ?_⟩
  · intro r hr
    obtain rfl := List.mem_singleton.mp hr
    exact anonymous_noCredential _
  · intro h
    have hrows : (Run.final sampleDeps.step EvidenceRuns.unsealed
        [anonymous (anonymousUpload 4)]).db.evidenceArtifacts.rows.length = 1 := by
      decide +kernel
    rw [h.final] at hrows
    exact absurd hrows (by decide)

end Unauthenticated
end ProctorEngine
