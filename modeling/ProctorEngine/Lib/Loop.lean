import Mathlib.Order.Basic

/-!
# `while True` with a `break`

A loop without a bound is a body that returns the next state and whether it broke out. `run`
gives it fuel; **fuel is only a resource bound**: once the loop has ended, more of it changes
nothing (`run_of_le`), and a measure that every iteration lowers says how much is enough
(`ends_of_measure`).
-/

set_option autoImplicit false

namespace Loop

variable {σ : Type*}

/-- At most `fuel` iterations; the flag says that the loop broke out. -/
def run (body : σ → σ × Bool) : Nat → σ → σ × Bool
  | 0, s => (s, false)
  | fuel + 1, s => if (body s).2 then body s else run body fuel (body s).1

/-- The loop ends after finitely many iterations. -/
def Ends (body : σ → σ × Bool) (s : σ) : Prop := ∃ fuel, (run body fuel s).2 = true

/-- `T` holds of the state at the start of every iteration. -/
def EachIteration (body : σ → σ × Bool) (T : σ → Prop) : Nat → σ → Prop
  | 0, _ => True
  | fuel + 1, s => T s ∧ ((body s).2 = false → EachIteration body T fuel (body s).1)

section
variable {body : σ → σ × Bool} {I T Q : σ → Prop} {s : σ} {fuel fuel' : Nat}

theorem run_of_ended (h : (body s).2 = true) : run body (fuel + 1) s = body s := by
  simp only [run, if_pos h]

theorem run_of_going (h : (body s).2 = false) :
    run body (fuel + 1) s = run body fuel (body s).1 := by simp [run, h]

/-- More fuel changes nothing once the loop has ended. -/
theorem run_of_le (hle : fuel ≤ fuel') (h : (run body fuel s).2 = true) :
    run body fuel' s = run body fuel s := by
  induction fuel generalizing s fuel' with
  | zero => exact absurd h (by simp [run])
  | succ fuel ih =>
    obtain ⟨fuel', rfl⟩ : ∃ n, fuel' = n + 1 := ⟨fuel' - 1, by omega⟩
    cases hbody : (body s).2 with
    | true => rw [run_of_ended hbody, run_of_ended hbody]
    | false =>
      rw [run_of_going hbody] at h ⊢
      rw [run_of_going hbody]
      exact ih (by omega) h

/-- What every iteration preserves holds wherever the loop stands. -/
theorem run_invariant (hI : ∀ s, I s → T s → I (body s).1) (hs : I s)
    (hT : EachIteration body T fuel s) : I (run body fuel s).1 := by
  induction fuel generalizing s with
  | zero => exact hs
  | succ fuel ih =>
    cases hbody : (body s).2 with
    | true =>
      rw [run_of_ended hbody]
      exact hI s hs hT.1
    | false =>
      rw [run_of_going hbody]
      exact ih (hI s hs hT.1) (hT.2 hbody)

theorem eachIteration_of_forall (h : ∀ s, T s) : EachIteration body T fuel s := by
  induction fuel generalizing s with
  | zero => trivial
  | succ fuel ih => exact ⟨h s, fun _ => ih⟩

/-- What the last iteration establishes holds after the loop. -/
theorem run_ended (hI : ∀ s, I s → I (body s).1) (hQ : ∀ s, I s → (body s).2 = true → Q (body s).1)
    (hs : I s) (h : (run body fuel s).2 = true) : Q (run body fuel s).1 := by
  induction fuel generalizing s with
  | zero => exact absurd h (by simp [run])
  | succ fuel ih =>
    cases hbody : (body s).2 with
    | true =>
      rw [run_of_ended hbody]
      exact hQ s hs hbody
    | false =>
      rw [run_of_going hbody] at h ⊢
      exact ih (hI s hs) h

/-- **A measure that every further iteration lowers bounds the loop.** -/
theorem ends_of_measure (μ : σ → Nat) (hI : ∀ s, I s → I (body s).1)
    (hμ : ∀ s, I s → (body s).2 = false → μ (body s).1 < μ s) (hs : I s) (h : μ s < fuel) :
    (run body fuel s).2 = true := by
  induction fuel generalizing s with
  | zero => omega
  | succ fuel ih =>
    cases hbody : (body s).2 with
    | true =>
      rw [run_of_ended hbody]
      exact hbody
    | false =>
      rw [run_of_going hbody]
      have hdrop := hμ s hs hbody
      exact ih (hI s hs) (by omega)

end

end Loop
