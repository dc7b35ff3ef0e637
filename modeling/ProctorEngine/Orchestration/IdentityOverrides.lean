import ProctorEngine.Lib.Run
import ProctorEngine.Models

/-!
# Identity-verification overrides

An override request is created by one administrator and decided by another: the class says that
whoever approves holds `HEAD` for the department and is not the requester, "enforced at the service
layer". `approve_identity_override_request` and `reject_identity_override_request` load the row and
write three of its columns. The approval asks for the role and for another person; neither asks
whether the request is still pending, and the approval asks neither for its department nor for its
expiry. **A run is a two-person run exactly when its decisions find a pending row and its approvals
come in time and from the row's department.** A write is relative to the row that was loaded, since
a column whose value does not change is not written.

Because of that, two decisions on one row that overlap could leave a row that neither of them meant:
each column is the later writer's, or is skipped. As long as decided rows are final this cannot
happen, and `Follows` says why: a row that has been loaded and was still pending has all three
columns to be written, and one that had been decided is as it was loaded. So the invariant is kept
by exactly the runs that the theorem is about, and the equivalence is proved step by step: in a
state in which the invariant holds, a step keeps to two persons and to final rows exactly when it is
in order (`step_iff`).

One kind of second decision does no harm, the same rejection by the same administrator at the same
instant, and `InOrder` allows it.
-/

set_option autoImplicit false

namespace ProctorEngine

abbrev OverrideRow := IdentityVerificationOverrideRequest

/-! ## 1. The service functions

Load and commit of a decision are two functions, with anything in between. -/

/-- The request body; the proof fields are the bounds of its schema. -/
structure CreateIdentityOverrideRequest where
  examSessionId : UUID
  department : String
  reason : String
  validFrom : DateTime
  validUntil : DateTime
  departmentLength : 1 ≤ department.length ∧ department.length ≤ 512
  reasonLength : 1 ≤ reason.length ∧ reason.length ≤ 5000
deriving DecidableEq

inductive OverrideError where
  | sessionNotFound (id : UUID)
  | validUntil
  | notFound (id : UUID)
  | headRequired
  | ownRequest
  /-- The foreign key or the primary key; the routes do not catch it. -/
  | integrity
deriving DecidableEq, Repr

/-- `create_identity_override_request`, with the generated id. Session and dates are checked here,
    the administrator by a foreign key. The row starts out pending. -/
def createIdentityOverrideRequest (db : Database) (request : CreateIdentityOverrideRequest)
    (admin : AdminUser) (id : UUID) : Except OverrideError Database :=
  if (db.getExamSession request.examSessionId).isNone then
    .error (.sessionNotFound request.examSessionId)
  else if h : request.validFrom < request.validUntil then
    if db.hasAdmin admin.id then
      match db.identityOverrides.insert?
        { id := id
          examSessionId := request.examSessionId
          requestedByAdminId := admin.id
          department := request.department
          reason := request.reason
          status := .pending
          approvedByAdminId := none
          validFrom := request.validFrom
          validUntil := request.validUntil
          decidedAt := none
          untilAfterFrom := h } with
      | none => .error .integrity
      | some t => .ok { db with identityOverrides := t }
    else .error .integrity
  else .error .validUntil

def Database.getOverride (db : Database) (id : UUID) : Option OverrideRow :=
  db.identityOverrides.find? fun r => r.id = id

inductive Verdict where
  | approve | reject
deriving DecidableEq, Repr

def Verdict.status : Verdict → OverrideRequestStatus
  | .approve => .approved
  | .reject => .rejected

/-- A decision between its load and its commit. -/
structure OverrideDecision where
  verdict : Verdict
  admin : AdminUser
  loaded : OverrideRow
  now : DateTime
deriving DecidableEq

/-- The load and the guards of `approve_identity_override_request`. -/
def readApproval (db : Database) (id : UUID) (admin : AdminUser) (now : DateTime) :
    Except OverrideError OverrideDecision :=
  match db.getOverride id with
  | none => .error (.notFound id)
  | some loaded =>
    if admin.role ≠ .head then .error .headRequired
    else if admin.id = loaded.requestedByAdminId then .error .ownRequest
    else .ok ⟨.approve, admin, loaded, now⟩

/-- The load of `reject_identity_override_request`. -/
def readRejection (db : Database) (id : UUID) (admin : AdminUser) (now : DateTime) :
    Except OverrideError OverrideDecision :=
  match db.getOverride id with
  | none => .error (.notFound id)
  | some loaded => .ok ⟨.reject, admin, loaded, now⟩

namespace OverrideDecision

/-- The row after the `UPDATE`, which sets the columns that differ from the loaded row. -/
def write (d : OverrideDecision) (row : OverrideRow) : OverrideRow :=
  { row with
    status := if d.loaded.status = d.verdict.status then row.status else d.verdict.status
    approvedByAdminId :=
      if d.loaded.approvedByAdminId = some d.admin.id then row.approvedByAdminId
      else some d.admin.id
    decidedAt := if d.loaded.decidedAt = some d.now then row.decidedAt else some d.now }

/-- The commit of either function; `none` is a broken foreign key. -/
def commit (d : OverrideDecision) (db : Database) : Option Database :=
  if db.hasAdmin d.admin.id then
    some { db with
      identityOverrides := db.identityOverrides.updateWhere (·.id = d.loaded.id) d.write
        (fun _ _ h => h) fun _ _ h => h }
  else none

end OverrideDecision

/-! ## 2. Runs

The log of a run has the committed decisions with the row each of them found, which is what a reader
of the table alone could not tell. -/

namespace Overrides

/-- A decision that was committed, and the row it found. -/
structure Entry where
  decision : OverrideDecision
  before : OverrideRow
deriving DecidableEq

structure State where
  db : Database
  decisions : List OverrideDecision
  log : List Entry

inductive Step where
  | create (request : CreateIdentityOverrideRequest) (admin : AdminUser) (id : UUID)
  | approve (id : UUID) (admin : AdminUser) (now : DateTime)
  | reject (id : UUID) (admin : AdminUser) (now : DateTime)
  | commit (i : Nat)

def State.read (w : State) : Except OverrideError OverrideDecision → State
  | .error _ => w
  | .ok d => { w with decisions := w.decisions ++ [d] }

/-- The entry of a commit the database took. -/
def State.entry (w : State) (d : OverrideDecision) : Option Entry :=
  if w.db.hasAdmin d.admin.id then (w.db.getOverride d.loaded.id).map (⟨d, ·⟩) else none

def step (w : State) : Step → State
  | .create request admin id =>
    match createIdentityOverrideRequest w.db request admin id with
    | .error _ => w
    | .ok db => { w with db }
  | .approve id admin now => w.read (readApproval w.db id admin now)
  | .reject id admin now => w.read (readRejection w.db id admin now)
  | .commit i =>
    match w.decisions[i]? with
    | none => w
    | some d =>
      { db := (d.commit w.db).getD w.db
        decisions := w.decisions.eraseIdx i
        log := w.log ++ (w.entry d).toList }

/-- A database with no override requests yet. -/
def start (db : Database) : State := ⟨{ db with identityOverrides := ∅ }, [], []⟩

/-- The decisions a row has had. -/
def State.decided (w : State) (row : OverrideRow) : List Entry :=
  w.log.filter (·.before.id = row.id)

/-- An approval as the class describes it, and the row says so. -/
structure Proper (e : Entry) (row : OverrideRow) : Prop where
  verdict : e.decision.verdict = .approve
  pending : e.before.status = .pending
  inTime : e.decision.now ≤ row.validUntil
  head : e.decision.admin.role = .head
  department : e.decision.admin.department = some row.department
  other : e.decision.admin.id ≠ row.requestedByAdminId
  approvedBy : row.approvedByAdminId = some e.decision.admin.id
  decidedAt : row.decidedAt = some e.decision.now

/-- An approved row was decided once, and properly. -/
def TwoPerson (w : State) : Prop :=
  ∀ row ∈ w.db.identityOverrides, row.status = .approved →
    ∃ e, w.decided row = [e] ∧ Proper e row

/-- The three columns of a decision are the same. -/
structure SameDecision (a b : OverrideRow) : Prop where
  status : a.status = b.status
  approvedBy : a.approvedByAdminId = b.approvedByAdminId
  decidedAt : a.decidedAt = b.decidedAt

/-- A decided row stays as it was decided. -/
def Final (db db' : Database) : Prop :=
  ∀ row ∈ db.identityOverrides, row.status ≠ .pending →
    ∃ row' ∈ db'.identityOverrides, row'.id = row.id ∧ SameDecision row' row

/-- The condition on a commit the database takes: the row is pending, and if it is approved, the
    approval comes in time and from its department; or the very rejection the row has had. -/
def InOrder (w : State) : Step → Prop
  | .commit i => ∀ d ∈ w.decisions[i]?, w.db.hasAdmin d.admin.id →
      ∀ row ∈ w.db.getOverride d.loaded.id,
        (row.status = .pending ∧ (d.verdict = .approve →
          d.now ≤ row.validUntil ∧ d.admin.department = some row.department)) ∨
        (row.status = .rejected ∧ d.verdict = .reject ∧
          row.approvedByAdminId = some d.admin.id ∧ row.decidedAt = some d.now)
  | .create _ _ _ | .approve _ _ _ | .reject _ _ _ => True

/-! ## 3. What a decision writes

On a row that follows the loaded one, the relative write is the absolute one. -/

/-- What holds between a loaded row and the row of its id as long as decided rows are final. -/
structure Follows (loaded row : OverrideRow) : Prop where
  same : { row with
    status := loaded.status
    approvedByAdminId := loaded.approvedByAdminId
    decidedAt := loaded.decidedAt } = loaded
  pending : loaded.status = .pending →
    loaded.approvedByAdminId = none ∧ loaded.decidedAt = none
  decided : loaded.status ≠ .pending → SameDecision row loaded

/-- The guards of the load. -/
def Guarded (d : OverrideDecision) : Prop :=
  d.verdict = .approve → d.admin.role = .head ∧ d.admin.id ≠ d.loaded.requestedByAdminId

section
variable {d : OverrideDecision} {loaded row row' : OverrideRow} {db : Database} {id : UUID}

theorem Follows.sameId (h : Follows loaded row) : row.id = loaded.id := congrArg (·.id) h.same

theorem Follows.requestedBy (h : Follows loaded row) :
    row.requestedByAdminId = loaded.requestedByAdminId := congrArg (·.requestedByAdminId) h.same

theorem Verdict.status_ne_pending {v : Verdict} : v.status ≠ .pending := by
  cases v <;> simp [Verdict.status]

/-- The columns that are not written have the value already. -/
theorem write_eq (h : Follows d.loaded row) :
    d.write row = { row with
      status := d.verdict.status
      approvedByAdminId := some d.admin.id
      decidedAt := some d.now } := by
  have hdecided : ∀ {b : Prop}, (d.loaded.status = .pending → ¬ b) → b →
      SameDecision row d.loaded :=
    fun hb hb' => h.decided fun hpending => hb hpending hb'
  -- a column that is skipped: the loaded row was decided, and the row is as it was loaded
  have hstatus : d.loaded.status = d.verdict.status → row.status = d.verdict.status := by
    intro heq
    have hsame := h.decided (heq ▸ Verdict.status_ne_pending)
    exact hsame.status.trans heq
  have happroved : d.loaded.approvedByAdminId = some d.admin.id →
      row.approvedByAdminId = some d.admin.id := by
    intro heq
    have hsame := hdecided (fun hp => by simp [(h.pending hp).1]) heq
    exact hsame.approvedBy.trans heq
  have hdecidedAt : d.loaded.decidedAt = some d.now → row.decidedAt = some d.now := by
    intro heq
    have hsame := hdecided (fun hp => by simp [(h.pending hp).2]) heq
    exact hsame.decidedAt.trans heq
  -- Column by column: written, or skipped because it holds that value already.
  simp only [OverrideDecision.write, IdentityVerificationOverrideRequest.mk.injEq, true_and]
  refine ⟨?_, ?_, ?_⟩
  · split
    · rename_i heq
      exact hstatus heq
    · rfl
  · split
    · rename_i heq
      exact happroved heq
    · rfl
  · split
    · rename_i heq
      exact hdecidedAt heq
    · rfl

theorem getOverride_eq_some_iff :
    db.getOverride id = some row ↔ row ∈ db.identityOverrides ∧ row.id = id := by
  unfold Database.getOverride
  rw [Table.find?_eq_some_iff]
  · simp
  · intro a b ha hb
    simp only [decide_eq_true_eq] at ha hb
    exact ha.trans hb.symm

theorem eq_of_id (hrow : row ∈ db.identityOverrides) (hrow' : row' ∈ db.identityOverrides)
    (h : row.id = row'.id) : row = row' := Table.eq_of_clash hrow hrow' h

end

/-! ## 4. The invariant

It holds as long as every step has left the decided rows alone. -/

structure Inv (w : State) : Prop where
  pending : ∀ row ∈ w.db.identityOverrides, row.status = .pending →
    row.approvedByAdminId = none ∧ row.decidedAt = none ∧ w.decided row = []
  logged : ∀ e ∈ w.log, ∃ row ∈ w.db.identityOverrides, row.id = e.before.id
  loaded : ∀ d ∈ w.decisions, Guarded d ∧ ∃ row ∈ w.db.identityOverrides, Follows d.loaded row

section
variable {w : State} {d : OverrideDecision} {row x : OverrideRow} {db db' : Database} {id : UUID}
  {admin : AdminUser} {now : DateTime} {request : CreateIdentityOverrideRequest}

theorem inv_start : Inv (start db) :=
  ⟨fun _ h => absurd h Table.not_mem_empty, fun _ h => absurd h List.not_mem_nil,
    fun _ h => absurd h List.not_mem_nil⟩

/-- What a creation does: one pending row under a new id. -/
theorem createIdentityOverrideRequest_spec
    (h : createIdentityOverrideRequest db request admin id = .ok db') :
    ∃ row : OverrideRow, row.id = id ∧ row.status = .pending ∧ row.approvedByAdminId = none ∧
      row.decidedAt = none ∧ (∀ x ∈ db.identityOverrides, x.id ≠ id) ∧
        ∀ x, x ∈ db'.identityOverrides ↔ x ∈ db.identityOverrides ∨ x = row := by
  unfold createIdentityOverrideRequest at h
  split at h
  · exact absurd h (by simp)
  split at h
  · split at h
    · split at h
      · exact absurd h (by simp)
      · rename_i t ht
        obtain rfl := Except.ok.inj h
        exact ⟨_, rfl, rfl, rfl, rfl, (Table.insert?_eq_some_iff.mp ht).1,
          fun x => Table.mem_insert? ht⟩
    · exact absurd h (by simp)
  · exact absurd h (by simp)

theorem Inv.create (hinv : Inv w)
    (h : createIdentityOverrideRequest w.db request admin id = .ok db') :
    Inv { w with db := db' } := by
  obtain ⟨new, hid, hpending, happroved, hdecidedAt, hfresh, hmem⟩ :=
    createIdentityOverrideRequest_spec h
  refine ⟨?_, ?_, ?_⟩
  · intro row hrow hp
    rcases (hmem row).mp hrow with hrow | rfl
    · exact hinv.pending row hrow hp
    · refine ⟨happroved, hdecidedAt, List.filter_eq_nil_iff.mpr ?_⟩
      intro e he
      obtain ⟨x, hx, hxid⟩ := hinv.logged e he
      have hne := hfresh x hx
      simpa [← hxid, hid] using hne
  · intro e he
    obtain ⟨x, hx, hxid⟩ := hinv.logged e he
    exact ⟨x, (hmem x).mpr (.inl hx), hxid⟩
  · intro d hd
    obtain ⟨hguard, x, hx, hfollows⟩ := hinv.loaded d hd
    exact ⟨hguard, x, (hmem x).mpr (.inl hx), hfollows⟩

/-- A load puts a guarded decision on a row of the table. -/
theorem Inv.read (hinv : Inv w) (hguard : Guarded d) (h : d.loaded ∈ w.db.identityOverrides) :
    Inv (w.read (.ok d)) := by
  refine ⟨hinv.pending, hinv.logged, ?_⟩
  intro x hx
  rcases List.mem_append.mp hx with hx | hx
  · exact hinv.loaded x hx
  · obtain rfl := List.mem_singleton.mp hx
    refine ⟨hguard, x.loaded, h, rfl, ?_, fun _ => ⟨rfl, rfl, rfl⟩⟩
    intro hp
    obtain ⟨happroved, hdecidedAt, -⟩ := hinv.pending _ h hp
    exact ⟨happroved, hdecidedAt⟩

theorem Inv.approve (hinv : Inv w) : Inv (w.read (readApproval w.db id admin now)) := by
  unfold readApproval
  split
  · exact hinv
  · rename_i loaded hloaded
    by_cases hrole : admin.role = .head
    · by_cases hother : admin.id = loaded.requestedByAdminId
      · rw [if_neg (by simpa using hrole), if_pos hother]
        exact hinv
      · rw [if_neg (by simpa using hrole), if_neg hother]
        exact hinv.read (fun _ => ⟨hrole, hother⟩) (getOverride_eq_some_iff.mp hloaded).1
    · rw [if_pos hrole]
      exact hinv

theorem Inv.reject (hinv : Inv w) : Inv (w.read (readRejection w.db id admin now)) := by
  unfold readRejection
  split
  · exact hinv
  · rename_i loaded hloaded
    exact hinv.read (fun h => absurd h (by simp)) (getOverride_eq_some_iff.mp hloaded).1

/-- The state after a commit the database took. -/
def State.committed (w : State) (i : Nat) (d : OverrideDecision) (row : OverrideRow) : State where
  db := { w.db with
    identityOverrides := w.db.identityOverrides.updateWhere (·.id = d.loaded.id) d.write
      (fun _ _ h => h) fun _ _ h => h }
  decisions := w.decisions.eraseIdx i
  log := w.log ++ [⟨d, row⟩]

/-- What a commit can do: nothing, drop a decision on a broken foreign key, or write a row that
    follows the loaded one. -/
theorem step_commit_cases (hinv : Inv w) (i : Nat) :
    (w.decisions[i]? = none ∧ step w (.commit i) = w) ∨
    ∃ d, w.decisions[i]? = some d ∧ Guarded d ∧
      ((w.db.hasAdmin d.admin.id = false ∧
          step w (.commit i) = { w with decisions := w.decisions.eraseIdx i }) ∨
        ∃ row ∈ w.db.identityOverrides, w.db.hasAdmin d.admin.id = true ∧ Follows d.loaded row ∧
          w.db.getOverride d.loaded.id = some row ∧
          step w (.commit i) = w.committed i d row) := by
  cases hi : w.decisions[i]? with
  | none => exact .inl ⟨rfl, by simp [step, hi]⟩
  | some d =>
    obtain ⟨hguard, row, hrow, hfollows⟩ := hinv.loaded d (List.mem_of_getElem? hi)
    refine .inr ⟨d, rfl, hguard, ?_⟩
    cases hadmin : w.db.hasAdmin d.admin.id with
    | false => exact .inl ⟨rfl, by simp [step, hi, OverrideDecision.commit, State.entry, hadmin]⟩
    | true =>
      have hget : w.db.getOverride d.loaded.id = some row :=
        getOverride_eq_some_iff.mpr ⟨hrow, hfollows.sameId⟩
      refine .inr ⟨row, hrow, rfl, hfollows, hget, ?_⟩
      simp [step, hi, OverrideDecision.commit, State.entry, hadmin, hget, State.committed]

variable {i : Nat}

theorem mem_committed (hrow : row ∈ w.db.identityOverrides) (hfollows : Follows d.loaded row) :
    x ∈ (w.committed i d row).db.identityOverrides ↔
      (x ∈ w.db.identityOverrides ∧ x.id ≠ row.id) ∨ x = d.write row := by
  have hmem : x ∈ (w.committed i d row).db.identityOverrides ↔
      (x ∈ w.db.identityOverrides ∧ ¬ decide (x.id = d.loaded.id)) ∨
        ∃ r ∈ w.db.identityOverrides, decide (r.id = d.loaded.id) ∧ d.write r = x :=
    Table.mem_updateWhere (f := d.write) (fun _ _ h => h) fun _ _ h => h
  simp only [hmem, ← hfollows.sameId, decide_eq_true_eq]
  refine or_congr Iff.rfl ⟨?_, ?_⟩
  · rintro ⟨r, hr, hid, rfl⟩
    rw [eq_of_id hr hrow hid]
  · rintro rfl
    exact ⟨row, hrow, rfl, rfl⟩

theorem write_id : (d.write row).id = row.id := rfl

/-- The decisions of another row are what they were. -/
theorem decided_committed_of_ne (h : x.id ≠ row.id) :
    (w.committed i d row).decided x = w.decided x := by
  simp [State.decided, State.committed, List.filter_append, Ne.symm h]

theorem decided_committed_self :
    (w.committed i d row).decided (d.write row) = w.decided row ++ [⟨d, row⟩] := by
  rw [State.decided, State.committed, List.filter_append, List.filter_singleton]
  simp only [write_id, decide_true]
  rfl

theorem final_committed_iff (hrow : row ∈ w.db.identityOverrides)
    (hfollows : Follows d.loaded row) :
    Final w.db (w.committed i d row).db ↔
      (row.status ≠ .pending → SameDecision (d.write row) row) := by
  constructor
  · intro h hdecided
    obtain ⟨row', hrow', hid, hsame⟩ := h row hrow hdecided
    rcases (mem_committed hrow hfollows).mp hrow' with ⟨-, hne⟩ | rfl
    · exact absurd hid hne
    · exact hsame
  · intro h x hx hdecided
    by_cases hid : x.id = row.id
    · obtain rfl := eq_of_id hx hrow hid
      exact ⟨d.write x, (mem_committed hrow hfollows).mpr (.inr rfl), rfl, h hdecided⟩
    · exact ⟨x, (mem_committed hrow hfollows).mpr (.inl ⟨hx, hid⟩), rfl, rfl, rfl, rfl⟩

/-- **Final decisions keep the invariant.** -/
theorem Inv.committed (hinv : Inv w) (hrow : row ∈ w.db.identityOverrides)
    (hfollows : Follows d.loaded row) (hfinal : Final w.db (w.committed i d row).db) :
    Inv (w.committed i d row) := by
  have hwrite := write_eq hfollows
  refine ⟨?_, ?_, ?_⟩
  -- a row still pending is another one, since the commit writes a verdict
  · intro x hx hp
    rcases (mem_committed hrow hfollows).mp hx with ⟨hx, hne⟩ | rfl
    · rw [decided_committed_of_ne hne]
      exact hinv.pending x hx hp
    · rw [hwrite] at hp
      exact absurd hp Verdict.status_ne_pending
  -- no row goes, so every decision logged still has its row
  · intro e he
    have hkept : ∀ y ∈ w.db.identityOverrides,
        ∃ x ∈ (w.committed i d row).db.identityOverrides, x.id = y.id := by
      intro y hy
      by_cases hid : y.id = row.id
      · exact ⟨d.write row, (mem_committed hrow hfollows).mpr (.inr rfl), hid.symm⟩
      · exact ⟨y, (mem_committed hrow hfollows).mpr (.inl ⟨hy, hid⟩), rfl⟩
    rcases List.mem_append.mp he with he | he
    · obtain ⟨y, hy, hid⟩ := hinv.logged e he
      obtain ⟨x, hx, hxid⟩ := hkept y hy
      exact ⟨x, hx, hxid.trans hid⟩
    · obtain rfl := List.mem_singleton.mp he
      exact hkept row hrow
  · intro d' hd'
    obtain ⟨hguard, y, hy, hfollows'⟩ := hinv.loaded d' (List.mem_of_mem_eraseIdx hd')
    refine ⟨hguard, ?_⟩
    by_cases hid : y.id = row.id
    · -- another decision on the same row was in flight
      obtain rfl := eq_of_id hy hrow hid
      refine ⟨d.write y, (mem_committed hrow hfollows).mpr (.inr rfl), hfollows'.same,
        hfollows'.pending, ?_⟩
      intro hloaded
      have hsame := hfollows'.decided hloaded
      have hkept := (final_committed_iff hrow hfollows).mp hfinal (hsame.status ▸ hloaded)
      exact ⟨hkept.status.trans hsame.status, hkept.approvedBy.trans hsame.approvedBy,
        hkept.decidedAt.trans hsame.decidedAt⟩
    · exact ⟨y, (mem_committed hrow hfollows).mpr (.inl ⟨hy, hid⟩), hfollows'⟩

theorem Inv.step {a : Step} (hinv : Inv w) (hfinal : Final w.db (Overrides.step w a).db) :
    Inv (Overrides.step w a) := by
  cases a with
  | create request admin id =>
    simp only [Overrides.step]
    cases h : createIdentityOverrideRequest w.db request admin id with
    | error e => exact hinv
    | ok db => exact hinv.create h
  | approve id admin now => exact hinv.approve
  | reject id admin now => exact hinv.reject
  | commit i =>
    rcases step_commit_cases hinv i with
      ⟨-, hstep⟩ | ⟨d, -, -, ⟨-, hstep⟩ | ⟨row, hrow, -, hfollows, -, hstep⟩⟩
    · rw [hstep]
      exact hinv
    · rw [hstep]
      exact ⟨hinv.pending, hinv.logged, fun d' hd' => hinv.loaded d' (List.mem_of_mem_eraseIdx hd')⟩
    · rw [hstep] at hfinal ⊢
      exact hinv.committed hrow hfollows hfinal

/-! ## 5. Exactness

A commit against the row it finds: pending, approved or rejected. -/

theorem final_refl : Final db db := fun row hrow _ => ⟨row, hrow, rfl, rfl, rfl, rfl⟩

theorem twoPerson_committed_iff (h : TwoPerson w) (hrow : row ∈ w.db.identityOverrides)
    (hfollows : Follows d.loaded row) :
    TwoPerson (w.committed i d row) ↔
      (d.verdict = .approve →
        ∃ e, w.decided row ++ [⟨d, row⟩] = [e] ∧ Proper e (d.write row)) := by
  have hwrite := write_eq hfollows
  have hstatus : (d.write row).status = .approved ↔ d.verdict = .approve := by
    rw [hwrite]
    cases d.verdict <;> simp [Verdict.status]
  constructor
  · intro h' hverdict
    obtain ⟨e, he, hproper⟩ := h' (d.write row) ((mem_committed hrow hfollows).mpr (.inr rfl))
      (hstatus.mpr hverdict)
    rw [decided_committed_self] at he
    exact ⟨e, he, hproper⟩
  · intro h' x hx happroved
    rcases (mem_committed hrow hfollows).mp hx with ⟨hx, hne⟩ | rfl
    · rw [decided_committed_of_ne hne]
      exact h x hx happroved
    · rw [decided_committed_self]
      exact h' (hstatus.mp happroved)

/-- The first approval of a row is proper exactly when it comes in time and from the row's
    department. -/
theorem proper_iff (hfollows : Follows d.loaded row) (hguard : Guarded d)
    (hpending : row.status = .pending) (hverdict : d.verdict = .approve) :
    Proper ⟨d, row⟩ (d.write row) ↔
      d.now ≤ row.validUntil ∧ d.admin.department = some row.department := by
  rw [write_eq hfollows]
  constructor
  · intro h
    exact ⟨h.inTime, h.department⟩
  · rintro ⟨htime, hdepartment⟩
    obtain ⟨hrole, hother⟩ := hguard hverdict
    exact ⟨hverdict, hpending, htime, hrole, hdepartment, hfollows.requestedBy ▸ hother, rfl, rfl⟩

/-- **A commit keeps to two persons and leaves decided rows alone exactly when it is in order.** -/
theorem committed_iff (hinv : Inv w) (h : TwoPerson w) (hguard : Guarded d)
    (hrow : row ∈ w.db.identityOverrides) (hfollows : Follows d.loaded row) :
    TwoPerson (w.committed i d row) ∧ Final w.db (w.committed i d row).db ↔
      (row.status = .pending ∧ (d.verdict = .approve →
        d.now ≤ row.validUntil ∧ d.admin.department = some row.department)) ∨
      (row.status = .rejected ∧ d.verdict = .reject ∧
        row.approvedByAdminId = some d.admin.id ∧ row.decidedAt = some d.now) := by
  rw [twoPerson_committed_iff h hrow hfollows, final_committed_iff hrow hfollows]
  cases hstatus : row.status with
  -- the first decision of the row
  | pending =>
    have hnone : w.decided row = [] := (hinv.pending row hrow hstatus).2.2
    simp only [hnone, List.nil_append, List.cons.injEq, and_true, exists_eq_left', ne_eq,
      not_true_eq_false, false_implies, true_and, reduceCtorEq, false_and, or_false]
    exact forall_congr' fun hverdict => proper_iff hfollows hguard hstatus hverdict
  | approved =>
    -- a second decision: either it changes the row, or the row has been decided twice
    obtain ⟨e, he, -⟩ := h row hrow hstatus
    refine iff_of_false ?_ (by simp)
    intro hboth
    have hsame := (hboth.2 (by simp)).status
    rw [write_eq hfollows, hstatus] at hsame
    have hverdict : d.verdict = .approve := by
      cases hv : d.verdict with
      | approve => rfl
      | reject => exact absurd hsame (by simp [hv, Verdict.status])
    obtain ⟨e', he', -⟩ := hboth.1 hverdict
    exact absurd (congrArg List.length he') (by simp [he])
  -- a second decision is final if it writes what is there
  | rejected =>
    simp only [ne_eq, reduceCtorEq, not_false_eq_true, true_implies, false_and, true_and, false_or]
    rw [write_eq hfollows]
    constructor
    · rintro ⟨-, hsame⟩
      have hverdict : d.verdict = .reject := by
        have hsame := hsame.status
        cases hv : d.verdict with
        | reject => rfl
        | approve => exact absurd hsame (by simp [hv, Verdict.status, hstatus])
      exact ⟨hverdict, hsame.approvedBy.symm, hsame.decidedAt.symm⟩
    · rintro ⟨hverdict, happroved, hdecidedAt⟩
      refine ⟨fun h => absurd h (by simp [hverdict]), ?_, happroved.symm, hdecidedAt.symm⟩
      simp [hverdict, Verdict.status, hstatus]

theorem step_iff {a : Step} (hinv : Inv w) (h : TwoPerson w) :
    TwoPerson (step w a) ∧ Final w.db (step w a).db ↔ InOrder w a := by
  cases a with
  -- A new request is pending, and no other row changes.
  | create request admin id =>
    refine iff_of_true ?_ trivial
    simp only [step]
    cases hcreate : createIdentityOverrideRequest w.db request admin id with
    | error e => exact ⟨h, final_refl⟩
    | ok db =>
      obtain ⟨new, -, hpending, -, -, -, hmem⟩ := createIdentityOverrideRequest_spec hcreate
      refine ⟨?_, ?_⟩
      · intro row hrow happroved
        rcases (hmem row).mp hrow with hrow | rfl
        · exact h row hrow happroved
        · exact absurd (hpending.symm.trans happroved) (by simp)
      · intro row hrow _
        exact ⟨row, (hmem row).mpr (.inl hrow), rfl, rfl, rfl, rfl⟩
  -- The two decisions read here, and write at their commit.
  | approve id admin now =>
    refine iff_of_true ?_ trivial
    simp only [step, State.read]
    split <;> exact ⟨h, final_refl⟩
  | reject id admin now =>
    refine iff_of_true ?_ trivial
    simp only [step, State.read]
    split <;> exact ⟨h, final_refl⟩
  | commit i =>
    rcases step_commit_cases hinv i with
      ⟨hnone, hstep⟩ | ⟨d, hd, hguard, ⟨hadmin, hstep⟩ | ⟨row, hrow, hadmin, hfollows, hget, hstep⟩⟩
    · rw [hstep]
      exact iff_of_true ⟨h, final_refl⟩ (by simp [InOrder, hnone])
    · rw [hstep]
      exact iff_of_true ⟨h, final_refl⟩ (by simp [InOrder, hd, hadmin])
    · rw [hstep, committed_iff hinv h hguard hrow hfollows]
      simp only [InOrder, hd, hadmin, hget, Option.mem_def, Option.some.injEq, forall_eq',
        true_implies]

end

/-- **Overrides are two-person and final exactly in the runs whose commits are in order.** From any
    database without override requests, over every interleaving of loads and commits. The approval
    checks the role and that somebody else asked, the rejection nothing; so the status, the validity
    and the department are left to the condition. -/
theorem twoPerson_iff (db : Database) (steps : List Step) :
    Run.Always step TwoPerson (start db) steps ∧
        Run.EachStep step (fun w a => Final w.db (step w a).db) (start db) steps ↔
      Run.EachStep step InOrder (start db) steps :=
  Run.always_and_eachStep_iff (fun _ _ hinv hfinal => hinv.step hfinal)
    (fun _ _ hinv h => step_iff hinv h) inv_start fun _ h => absurd h Table.not_mem_empty

def requester : AdminUser := ⟨1, "https://lms", "professor", .instructor, some "math", none⟩

def otherHead : AdminUser := ⟨2, "https://lms", "head", .head, some "physics", none⟩

/-- A session, its professor, and the head of another department. -/
def overrideDatabase : Database :=
  { Database.empty with
    examSessions := .single (ExamSession.launched 3 4 5 "midterm" 0)
    adminUsers := ⟨[requester, otherHead], by decide⟩ }

/-- The request is rejected, and approved long after it expired. -/
def lateApproval : List Step :=
  [.create ⟨3, "math", "camera broken", 0, 10, by decide, by decide⟩ requester 6,
    .reject 6 requester 5, .commit 0, .approve 6 otherHead 100, .commit 0]

theorem lateApproval_not_twoPerson :
    (Run.final step (start overrideDatabase) lateApproval).db.identityOverrides.rows.map
        (fun r => (r.status, r.approvedByAdminId, r.validUntil, r.decidedAt)) =
      [(.approved, some 2, 10, some 100)] ∧
    ¬ (Run.Always step TwoPerson (start overrideDatabase) lateApproval ∧
      Run.EachStep step (fun w a => Final w.db (step w a).db) (start overrideDatabase)
        lateApproval) := by
  refine ⟨by decide +kernel, ?_⟩
  intro h
  -- the approved row has been decided twice
  have htwice : ∃ row ∈ (Run.final step (start overrideDatabase)
      lateApproval).db.identityOverrides.rows, row.status = .approved ∧
        ((Run.final step (start overrideDatabase) lateApproval).decided row).length = 2 := by
    decide +kernel
  obtain ⟨row, hrow, happroved, hlength⟩ := htwice
  obtain ⟨e, he, -⟩ := h.1.final row hrow happroved
  exact absurd hlength (by simp [he])

end Overrides
end ProctorEngine
