import ProctorEngine.Orchestration.Routes

/-!
# Retired administrators

`AdminUser` says that a retired administrator keeps its history and gets no new reviews or
exemptions. The one function every admin route resolves its caller with reads the row and
hands it on; the services check roles. **A retired administrator changes nothing exactly when
what is asked for is idle for anybody in that role.**
-/

set_option autoImplicit false

namespace ProctorEngine
namespace RetiredAdmins

variable (deps : OrchestrationDeps)

/-- An admin operation whose token is valid and resolves to the administrator. -/
structure Asks (s : EvidenceState) (r : RouteRequest) (admin : AdminUser)
    (operation : AdminOperation) : Prop where
  route : r.route = .admin operation
  resolved : requireAdminRole deps.jwt r.receivedAt s.db r.authorization = .ok admin

/-- Some retired administrator asks for some operation. -/
def ByRetired (s : EvidenceState) (r : RouteRequest) : Prop :=
  ∃ admin operation, Asks deps s r admin operation ∧ admin.retiredAt.isSome

/-- A retired administrator's request leaves everything as it is. -/
def Powerless (s : EvidenceState) (r : RouteRequest) : Prop :=
  ByRetired deps s r → deps.step s r = s

/-- The condition on a request: what a retired administrator asks for is idle. -/
def AsksIdle (s : EvidenceState) (r : RouteRequest) : Prop :=
  ∀ admin operation, Asks deps s r admin operation → admin.retiredAt.isSome →
    Idle s.db admin operation

section
variable {deps} {s : EvidenceState} {r : RouteRequest} {admin : AdminUser}
  {operation : AdminOperation}

theorem Asks.step (h : Asks deps s r admin operation) :
    deps.step s r = { s with db := (runAdminOperation s.db admin operation).1 } := by
  rw [OrchestrationDeps.step, OrchestrationDeps.handle, h.route]
  simp only [OrchestrationDeps.asAdmin, h.resolved]

/-- A request resolves to one administrator and asks for one operation. -/
theorem Asks.unique {admin' : AdminUser} {operation' : AdminOperation}
    (h : Asks deps s r admin operation) (h' : Asks deps s r admin' operation') :
    admin' = admin ∧ operation' = operation := by
  constructor
  · exact Except.ok.inj (h'.resolved.symm.trans h.resolved)
  · exact Route.admin.inj (h'.route.symm.trans h.route)

/-- Retired or not, an administrator leaves things as they are by asking for what is idle. -/
theorem Asks.step_eq_self_iff (h : Asks deps s r admin operation) :
    deps.step s r = s ↔ Idle s.db admin operation := by
  rw [h.step, ← runAdminOperation_eq_self_iff (mem_of_requireAdminRole h.resolved)]
  constructor
  · intro hs
    exact congrArg EvidenceState.db hs
  · intro hdb
    rw [hdb]

theorem asksIdle_iff (h : ByRetired deps s r) : AsksIdle deps s r ↔ deps.step s r = s := by
  obtain ⟨admin, operation, hasks, hretired⟩ := h
  rw [hasks.step_eq_self_iff]
  constructor
  · intro hidle
    exact hidle admin operation hasks hretired
  · intro hidle admin' operation' hasks' _
    obtain ⟨rfl, rfl⟩ := hasks.unique hasks'
    exact hidle

theorem powerless_iff : Powerless deps s r ↔ AsksIdle deps s r := by
  constructor
  · intro h admin operation hasks hretired
    exact hasks.step_eq_self_iff.mp (h ⟨admin, operation, hasks, hretired⟩)
  · intro h hretired
    exact (asksIdle_iff hretired).mp h

end

/-- **Retired administrators are powerless exactly in the runs in which they ask for what is idle**:
    in any run of requests, whoever else takes part, and in a run of theirs alone, which then ends
    where it began. The lookup behind every admin route reads no `retired_at`, so a retired
    administrator is refused only where anybody would be. -/
theorem retired_powerless_iff (s : EvidenceState) (rs : List RouteRequest) :
    (Run.EachStep deps.step (Powerless deps) s rs ↔ Run.EachStep deps.step (AsksIdle deps) s rs) ∧
    (Run.EachStep deps.step (ByRetired deps) s rs →
      (Run.Always deps.step (· = s) s rs ↔ Run.EachStep deps.step (AsksIdle deps) s rs)) := by
  constructor
  · exact Run.eachStep_iff_eachStep (I := fun _ => True) (fun _ _ _ => trivial)
      (fun _ _ _ => powerless_iff) trivial
  · intro hretired
    rw [Run.always_eq_iff]
    exact Run.eachStep_congr (fun _ _ h => (asksIdle_iff h).symm) hretired

def retiredInstructor : AdminUser :=
  ⟨1, "https://lms", "professor", .instructor, some "math", some 5⟩

/-- A retired instructor with a participant row, as the launch that issued the token left it. -/
def retiredState : EvidenceState where
  db :=
    { Database.empty with
      participants := .single ⟨2, "https://lms", "professor"⟩
      adminUsers := .single retiredInstructor }
  store := fun _ => none

/-- The token of that launch, still valid at time 10. -/
def retiredDeps : OrchestrationDeps where
  internalTerminateToken := "internal"
  jwt := .issued "abc" [("sub", .str (UUID.str 2)), ("sid", .str (UUID.str 3)),
    ("role", .str "instructor"), ("iat", .num 0), ("exp", .num 3600), ("iss", .str "engine"),
    ("aud", .str "engine"), ("jti", .str "1")] 20
  sha256 := EvidenceRuns.digest

def retiredRequest (operation : AdminOperation) : RouteRequest :=
  ⟨some "Bearer abc", 10, .admin operation⟩

theorem retiredRequest_asks (operation : AdminOperation) :
    Asks retiredDeps retiredState (retiredRequest operation) retiredInstructor operation := by
  have hresolved : requireAdminRole retiredDeps.jwt 10 retiredState.db (some "Bearer abc") =
      .ok retiredInstructor := by
    decide +kernel
  exact ⟨rfl, hresolved⟩

theorem retiredRequest_byRetired (operation : AdminOperation) :
    ByRetired retiredDeps retiredState (retiredRequest operation) :=
  ⟨_, operation, retiredRequest_asks operation, rfl⟩

/-- Approving is for heads: the instructor is refused. -/
theorem retired_approval_refused :
    Run.Always retiredDeps.step (· = retiredState) retiredState
      [retiredRequest (.approveOverride 7 11)] := by
  refine ((retired_powerless_iff retiredDeps retiredState
    [retiredRequest (.approveOverride 7 11)]).2 ⟨retiredRequest_byRetired _, trivial⟩).mpr
      ⟨?_, trivial⟩
  intro admin operation hasks _
  obtain ⟨rfl, rfl⟩ := (retiredRequest_asks _).unique hasks
  exact fun row hrow => absurd hrow Table.not_mem_empty

/-- An exemption the retired instructor grants. -/
def retiredExemption : AdminOperation :=
  .createExemption ⟨2, "midterm", "book", "open book", 0, none, by decide, by decide, by decide⟩ 8

theorem retired_not_powerless :
    Run.EachStep retiredDeps.step (ByRetired retiredDeps) retiredState
      [retiredRequest retiredExemption] ∧
    ¬ Run.Always retiredDeps.step (· = retiredState) retiredState
      [retiredRequest retiredExemption] := by
  refine ⟨⟨retiredRequest_byRetired _, trivial⟩, ?_⟩
  intro h
  have hrows : (Run.final retiredDeps.step retiredState
      [retiredRequest retiredExemption]).db.accommodationExemptions.rows.length = 1 := by
    decide +kernel
  rw [h.final] at hrows
  exact absurd hrows (by decide)

end RetiredAdmins
end ProctorEngine
