import Mathlib.Data.Set.Basic

/-!
# Programs over a transaction

A transaction is a store as its connection sees it: what is committed, and that with the
connection's own pending writes. A program over it is an `EStateM` computation, so **an
exception leaves the pending writes standing** until somebody rolls them back; what a program
changes for good is decided by where it commits and by who catches.

`KeepsCommitted` programs commit nothing. A program that keeps what is committed, then commits
once, under a handler that rolls back, is all-or-nothing (`committed_atomically`).
-/

set_option autoImplicit false

universe u

/-- A store, and the same store with the pending writes. -/
@[ext] structure Transaction (σ : Type u) where
  committed : σ
  working : σ

namespace Transaction

variable {σ ε α β : Type u}

/-- A connection that has written nothing yet. -/
def begin (s : σ) : Transaction σ := ⟨s, s⟩

def rollback (t : Transaction σ) : Transaction σ := ⟨t.committed, t.committed⟩

def commit (t : Transaction σ) : Transaction σ := ⟨t.working, t.working⟩

def write (t : Transaction σ) (s : σ) : Transaction σ := { t with working := s }

@[simp] theorem begin_committed (s : σ) : (begin s).committed = s := rfl
@[simp] theorem begin_working (s : σ) : (begin s).working = s := rfl
@[simp] theorem rollback_committed (t : Transaction σ) : t.rollback.committed = t.committed := rfl
@[simp] theorem rollback_working (t : Transaction σ) : t.rollback.working = t.committed := rfl
@[simp] theorem commit_committed (t : Transaction σ) : t.commit.committed = t.working := rfl
@[simp] theorem commit_working (t : Transaction σ) : t.commit.working = t.working := rfl
@[simp] theorem write_committed (t : Transaction σ) (s : σ) :
    (t.write s).committed = t.committed := rfl
@[simp] theorem write_working (t : Transaction σ) (s : σ) : (t.write s).working = s := rfl

/-- The transaction a program leaves, however it ends. -/
def after : EStateM.Result ε (Transaction σ) α → Transaction σ
  | .ok _ t => t
  | .error _ t => t

/-- What is committed once a program has run on a fresh connection. -/
def committedBy (p : EStateM ε (Transaction σ) α) (s : σ) : σ := (after (p (begin s))).committed

/-! ## 1. Statements

Programs over a store with a working copy, in the state monad with exceptions. -/

/-- Write to the working store; a refused write leaves it as it was. -/
def flush (f : σ → Except ε σ) : EStateM ε (Transaction σ) PUnit := fun t =>
  match f t.working with
  | .ok s => .ok ⟨⟩ (t.write s)
  | .error e => .error e t

/-- Run a program; if it raises, roll back and raise again. -/
def rollingBack (p : EStateM ε (Transaction σ) α) : EStateM ε (Transaction σ) α := fun t =>
  match p t with
  | .ok a t' => .ok a t'
  | .error e t' => .error e t'.rollback

/-- `COMMIT`. -/
def committing : EStateM ε (Transaction σ) PUnit := fun t => .ok ⟨⟩ t.commit

/-! ## 2. Programs that commit nothing

Closed under sequencing, raising and rolling back; only a commit is not among them. -/

/-- However it ends, the program commits nothing. -/
def KeepsCommitted (p : EStateM ε (Transaction σ) α) : Prop :=
  ∀ t, (after (p t)).committed = t.committed

section
variable {p : EStateM ε (Transaction σ) α} {q : α → EStateM ε (Transaction σ) β}
  {f : σ → Except ε σ} {t t' : Transaction σ} {a : α} {b : β} {e : ε}

theorem bind_of_ok (h : p t = .ok a t') : (p >>= q) t = q a t' := by
  show EStateM.bind p q t = _
  simp only [EStateM.bind, h]

theorem bind_of_error (h : p t = .error e t') : (p >>= q) t = .error e t' := by
  show EStateM.bind p q t = _
  simp only [EStateM.bind, h]

/-- A sequence ends well exactly when both of its programs do. -/
theorem bind_eq_ok_iff :
    (p >>= q) t = .ok b t' ↔ ∃ a t₁, p t = .ok a t₁ ∧ q a t₁ = .ok b t' := by
  cases h : p t with
  | ok a t₁ =>
    rw [bind_of_ok h]
    constructor
    · exact fun hq => ⟨a, t₁, rfl, hq⟩
    · rintro ⟨a', t₁', heq, hq⟩
      cases heq
      exact hq
  | error e t₁ =>
    rw [bind_of_error h]
    simp

theorem flush_eq_ok_iff :
    flush f t = .ok ⟨⟩ t' ↔ ∃ s, f t.working = .ok s ∧ t' = t.write s := by
  cases h : f t.working with
  | ok s => simp [flush, h, eq_comm]
  | error e => simp [flush, h]

theorem KeepsCommitted.pure (a : α) :
    KeepsCommitted (Pure.pure a : EStateM ε (Transaction σ) α) := fun _ => rfl

theorem KeepsCommitted.throw (e : ε) :
    KeepsCommitted (MonadExcept.throw e : EStateM ε (Transaction σ) α) := fun _ => rfl

theorem KeepsCommitted.flush (f : σ → Except ε σ) : KeepsCommitted (flush f) := by
  intro t
  cases h : f t.working with
  | ok s => simp [Transaction.flush, h, after]
  | error e => simp [Transaction.flush, h, after]

theorem KeepsCommitted.bind (hp : KeepsCommitted p) (hq : ∀ a, KeepsCommitted (q a)) :
    KeepsCommitted (p >>= q) := by
  intro t
  have h₁ := hp t
  cases h : p t with
  | ok a t₁ =>
    rw [h] at h₁
    rw [bind_of_ok h]
    exact (hq a t₁).trans h₁
  | error e t₁ =>
    rw [h] at h₁
    rw [bind_of_error h]
    exact h₁

theorem KeepsCommitted.rollingBack (hp : KeepsCommitted p) : KeepsCommitted (rollingBack p) := by
  intro t
  have h₁ := hp t
  cases h : p t with
  | ok a t₁ =>
    rw [h] at h₁
    simpa [Transaction.rollingBack, h, after] using h₁
  | error e t₁ =>
    rw [h] at h₁
    simpa [Transaction.rollingBack, h, after] using h₁

/-! ## 3. One commit under a handler that rolls back

The shape of a service function: its writes, one commit at the end, and a handler that rolls
back. -/

/-- **All or nothing.** The program ran to its end and all of its writes are committed, or it
    raised and none is. -/
theorem committed_atomically (hp : KeepsCommitted p) (s : σ) :
    (∃ a t, p (begin s) = .ok a t ∧
        rollingBack (p >>= fun a => committing >>= fun _ => Pure.pure a) (begin s) =
          .ok a (begin t.working)) ∨
      (∃ e t, p (begin s) = .error e t ∧
        rollingBack (p >>= fun a => committing >>= fun _ => Pure.pure a) (begin s) =
          .error e (begin s)) := by
  have hkeep := hp (begin s)
  cases h : p (begin s) with
  | ok a t =>
    refine .inl ⟨a, t, rfl, ?_⟩
    simp only [rollingBack, bind_of_ok h]
    rfl
  | error e t =>
    refine .inr ⟨e, t, rfl, ?_⟩
    rw [h] at hkeep
    have hcommitted : t.committed = s := hkeep
    simp only [rollingBack, bind_of_error h, rollback, hcommitted]
    rfl

end

end Transaction
