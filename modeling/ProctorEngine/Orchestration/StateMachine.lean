import ProctorEngine.Models

/-!
# The session lifecycle

The closed transition table of an exam session and the guard over it. Every path that moves
a session is supposed to stay inside this table; whether the *committed* statuses do is a
question about interleavings, not about the table, and is settled in
`Orchestration/ReadCommitted.lean`.

Three facts about the table carry those arguments: nothing enters `pending`, nothing leaves
`underReview`, and every status but `pending` may still be put under review.
-/

set_option autoImplicit false

namespace ProctorEngine

open SessionStatus

/-- `_ALLOWED`: the statuses the engine may move a session to. -/
def allowed : SessionStatus → List SessionStatus
  | pending => [active, terminated]
  | active => [completed, terminated, underReview]
  | completed => [underReview]
  | terminated => [underReview, reinstated]
  | reinstated => [underReview]
  | underReview => []

/-- `can_transition`: consults the table. -/
def canTransition (current target : SessionStatus) : Bool := target ∈ allowed current

structure InvalidSessionTransition where
  current : SessionStatus
  target : SessionStatus
deriving DecidableEq, Repr

/-- `assert_transition`: raises unless the move is in the table. -/
def assertTransition (current target : SessionStatus) : Except InvalidSessionTransition Unit :=
  if canTransition current target then .ok () else .error ⟨current, target⟩

theorem assertTransition_eq_ok_iff {current target : SessionStatus} {u : Unit} :
    assertTransition current target = .ok u ↔ target ∈ allowed current := by
  unfold assertTransition canTransition
  split <;> simp_all

/-- Nothing enters `pending`. -/
theorem pending_not_mem_allowed {s : SessionStatus} : pending ∉ allowed s := by
  cases s <;> simp [allowed]

theorem mem_allowed_terminated_iff {s : SessionStatus} :
    terminated ∈ allowed s ↔ s = pending ∨ s = active := by
  cases s <;> simp [allowed]

/-- Every status but `pending` may be put under review, or already is. -/
theorem mem_allowed_underReview_iff {s : SessionStatus} :
    underReview ∈ allowed s ↔ s ≠ pending ∧ s ≠ underReview := by
  cases s <;> simp [allowed]

end ProctorEngine
