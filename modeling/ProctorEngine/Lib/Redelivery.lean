import Mathlib.Data.List.Nodup

/-!
# Redelivered messages

A network that loses, delays and repeats messages delivers some list of copies of what was
sent, in some order. The receiver keeps the keys it has seen: **a copy of a new key is acted
upon, and every copy is acknowledged.** So an acknowledgement, which may itself be lost, delayed
and repeated, stands for a key that was acted upon exactly once.
-/

set_option autoImplicit false

namespace Redelivery

variable {κ : Type*}

/-- A receiver, with what it has done so far. -/
structure Receiver (κ : Type*) where
  seen : List κ
  acted : List κ
  acked : List κ

namespace Receiver

def empty : Receiver κ := ⟨[], [], []⟩

def receive [DecidableEq κ] (r : Receiver κ) (k : κ) : Receiver κ :=
  if k ∈ r.seen then { r with acked := r.acked ++ [k] }
  else ⟨k :: r.seen, r.acted ++ [k], r.acked ++ [k]⟩

/-- What the receiver has seen is what it has acted upon, once, and acknowledged. -/
structure Inv (r : Receiver κ) : Prop where
  once : r.acted.Nodup
  acted : ∀ k, k ∈ r.acted ↔ k ∈ r.seen
  acked : ∀ k ∈ r.acked, k ∈ r.seen

section
variable {r : Receiver κ} {k : κ}

theorem inv_empty : (empty : Receiver κ).Inv :=
  ⟨List.nodup_nil, fun _ => Iff.rfl, fun _ h => h⟩

theorem Inv.receive [DecidableEq κ] (h : r.Inv) (k : κ) : (r.receive k).Inv := by
  unfold Receiver.receive
  by_cases hk : k ∈ r.seen
  · rw [if_pos hk]
    refine ⟨h.once, h.acted, ?_⟩
    intro x hx
    rcases List.mem_append.mp hx with hx | hx
    · exact h.acked x hx
    · rwa [List.mem_singleton.mp hx]
  · rw [if_neg hk]
    refine ⟨?_, ?_, ?_⟩
    · rw [List.nodup_append]
      refine ⟨h.once, List.nodup_singleton k, fun a ha b hb hab => hk ?_⟩
      rw [← List.mem_singleton.mp hb, ← hab]
      exact (h.acted a).mp ha
    · intro x
      rw [List.mem_append, List.mem_singleton, h.acted x, List.mem_cons, or_comm]
    · intro x hx
      rcases List.mem_append.mp hx with hx | hx
      · exact List.mem_cons_of_mem k (h.acked x hx)
      · rw [List.mem_singleton.mp hx]
        exact List.mem_cons_self

/-- **What is acknowledged was acted upon exactly once.** -/
theorem Inv.count_acted [DecidableEq κ] (h : r.Inv) (hk : k ∈ r.acked) : r.acted.count k = 1 :=
  List.count_eq_one_of_mem h.once ((h.acted k).mpr (h.acked k hk))

end

end Receiver
end Redelivery
