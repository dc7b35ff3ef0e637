import Mathlib.Logic.Function.Basic
import Mathlib.Order.Defs.PartialOrder

/-!
# Stores of stamped values

A store keeps, under each key, at most one value, and a value says when it was made. Whoever has
just put a value under a key may not find it there a moment later: others put theirs over it or
drop it. What can be counted on is `Since`: **whatever is under the key was not made before a
given time**. Puts of later values and drops keep it, whoever makes them.
-/

set_option autoImplicit false

namespace Stamped

variable {κ α T : Type*} [Preorder T]

/-- What is under the key, if anything, was not made before `t`. -/
def Since (stamp : α → T) (store : κ → Option α) (k : κ) (t : T) : Prop :=
  ∀ x, store k = some x → t ≤ stamp x

section
variable [DecidableEq κ] {stamp : α → T} {store : κ → Option α} {k l : κ} {t : T} {v : Option α}

theorem since_update (hv : ∀ x, v = some x → t ≤ stamp x) :
    Since stamp (Function.update store k v) k t := by
  intro x hx
  rw [Function.update_self] at hx
  exact hv x hx

/-- What is put under one key leaves the others as they are. -/
theorem Since.update (h : Since stamp store k t) (hv : ∀ x, v = some x → t ≤ stamp x) :
    Since stamp (Function.update store l v) k t := by
  by_cases hkl : k = l
  · subst hkl
    exact since_update hv
  · intro x hx
    rw [Function.update_of_ne hkl] at hx
    exact h x hx

theorem Since.drop (h : Since stamp store k t) :
    Since stamp (Function.update store l none) k t := by
  apply h.update
  intro x hx
  cases hx

end

end Stamped
