import ProctorEngine.Orchestration.StateMachine

/-!
# Proctor reviews

`record_proctor_review`: an append-only review row, and the one status change a review may
bring about — `upheld` puts a session under review, `overturned` reinstates a terminated
one. Both are asserted against the status that was read.
-/

set_option autoImplicit false

namespace ProctorEngine

/-- The status a review moves its session to, if any. -/
def reviewTarget (decision : ReviewDecision) (status : SessionStatus) : Option SessionStatus :=
  if decision = .upheld ∧ status ∈ [SessionStatus.active, .terminated, .completed] then
    some .underReview
  else if decision = .overturned ∧ status = .terminated then some .reinstated
  else none

/-- The reading half: the flag's session, or `FlagNotFoundError`. -/
def readReview (db : Database) (flagId : UUID) : Option ExamSession :=
  (db.getFlag flagId).bind fun flag => db.getExamSession flag.examSessionId

/-- The committing half: the review row and the status it entails; `none` is the failed
    insert of the row. -/
def commitReview (db : Database) (session : ExamSession) (review : ProctorReview) :
    Option Database :=
  match db.proctorReviews.insert? review with
  | none => none
  | some reviews =>
    let db' := { db with proctorReviews := reviews }
    match reviewTarget review.decision session.status with
    | none => some db'
    | some target =>
      -- The code asserts the transition again before the write; on a target chosen here
      -- the assertion never fails (`reviewTarget_allowed`).
      match assertTransition session.status target with
      | .error _ => none
      | .ok () =>
        some (db'.updateExamSession session.id (fun s => { s with status := target }) fun _ => rfl)

theorem reviewTarget_eq_some_iff {decision : ReviewDecision} {status target : SessionStatus} :
    reviewTarget decision status = some target ↔
      (decision = .upheld ∧ target = .underReview ∧
        (status = .active ∨ status = .terminated ∨ status = .completed)) ∨
      (decision = .overturned ∧ target = .reinstated ∧ status = .terminated) := by
  cases decision <;> cases status <;> simp [reviewTarget, eq_comm]

/-- A review's target is always a transition of the table: the guard that follows it in
    the code never fires. -/
theorem reviewTarget_allowed {decision : ReviewDecision} {status target : SessionStatus}
    (h : reviewTarget decision status = some target) : target ∈ allowed status := by
  rcases reviewTarget_eq_some_iff.mp h with ⟨-, rfl, rfl | rfl | rfl⟩ | ⟨-, rfl, rfl⟩ <;>
    simp [allowed]

theorem readReview_eq_some {db : Database} {flagId : UUID} {s : ExamSession}
    (h : readReview db flagId = some s) : db.getExamSession s.id = some s := by
  obtain ⟨flag, -, hs⟩ := Option.bind_eq_some_iff.mp h
  rwa [Database.getExamSession_id hs]

section
variable {db db' : Database} {session : ExamSession} {review : ProctorReview} {id : UUID}

theorem commitReview_isSome_iff :
    (commitReview db session review).isSome ↔ ∀ r ∈ db.proctorReviews, r.id ≠ review.id := by
  constructor
  · intro h r hr hid
    have hnone : db.proctorReviews.insert? review = none :=
      Table.insert?_eq_none_iff.mpr ⟨r, hr, hid⟩
    simp [commitReview, hnone] at h
  · intro h
    obtain ⟨t, ht⟩ := Table.exists_insert? h
    cases htar : reviewTarget review.decision session.status with
    | none => simp [commitReview, ht, htar]
    | some target =>
      have hok := assertTransition_eq_ok_iff (u := ()) |>.mpr (reviewTarget_allowed htar)
      simp [commitReview, ht, htar, hok]

/-- What a review can do: append its row, and move the session if it has a target. -/
theorem commitReview_cases (h : commitReview db session review = some db') :
    ∃ t, db.proctorReviews.insert? review = some t ∧
      ((reviewTarget review.decision session.status = none ∧
          db' = { db with proctorReviews := t }) ∨
        ∃ target, reviewTarget review.decision session.status = some target ∧
          db' = { db with proctorReviews := t }.updateExamSession session.id
            (fun s => { s with status := target }) fun _ => rfl) := by
  cases ht : db.proctorReviews.insert? review with
  | none => simp [commitReview, ht] at h
  | some t =>
    refine ⟨t, rfl, ?_⟩
    cases htar : reviewTarget review.decision session.status with
    | none =>
      simp only [commitReview, ht, htar, Option.some.injEq] at h
      exact .inl ⟨rfl, h.symm⟩
    | some target =>
      have hok := (assertTransition_eq_ok_iff (u := ())).mpr (reviewTarget_allowed htar)
      simp only [commitReview, ht, htar, hok, Option.some.injEq] at h
      exact .inr ⟨target, rfl, h.symm⟩

theorem commitReview_getExamSession (h : commitReview db session review = some db') :
    db'.getExamSession id =
      if id = session.id then
        (db.getExamSession id).map fun s => { s with
          status := (reviewTarget review.decision session.status).getD s.status }
      else db.getExamSession id := by
  obtain ⟨t, -, ⟨htar, rfl⟩ | ⟨target, htar, rfl⟩⟩ := commitReview_cases h
  · rw [htar]
    simp only [Database.getExamSession, Option.getD_none]
    split <;> simp
  · rw [Database.getExamSession_updateExamSession, htar]
    rfl

theorem commitReview_terminationRecords (h : commitReview db session review = some db') :
    db'.terminationRecords = db.terminationRecords := by
  obtain ⟨t, -, ⟨-, rfl⟩ | ⟨target, -, rfl⟩⟩ := commitReview_cases h <;> rfl

end

end ProctorEngine
