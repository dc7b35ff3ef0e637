import Mathlib.Data.List.Basic
import Mathlib.Logic.Function.Basic

/-!
# First takers

A pool holds values under keys, and requests come to it one after the other. A request names
some keys and gets the values that are still there; what it got is gone from the pool. So **a
value goes to the first request that names it and to no other**, and every request gets all it
names exactly when no value is named twice.
-/

set_option autoImplicit false

namespace FirstTaker

variable {κ α : Type*}

/-- The keys a request names, and what it got. -/
structure Request (κ α : Type*) where
  keys : List κ
  got : List α

/-- The request got everything the pool has under its keys. -/
def Request.Full (pool : κ → Option α) (r : Request κ α) : Prop :=
  ∀ x, x ∈ r.got ↔ ∃ k ∈ r.keys, pool k = some x

/-- The pool without what is under some keys. -/
def without [DecidableEq κ] (pool : κ → Option α) (keys : List κ) : κ → Option α :=
  fun k => if k ∈ keys then none else pool k

/-- What a sequence of requests does to a pool. -/
inductive Takes [DecidableEq κ] :
    (κ → Option α) → List (Request κ α) → (κ → Option α) → Prop
  | nil {pool : κ → Option α} : Takes pool [] pool
  | cons {pool left : κ → Option α} {r : Request κ α} {rs : List (Request κ α)}
      (full : r.Full pool) (rest : Takes (without pool r.keys) rs left) :
      Takes pool (r :: rs) left

section
variable [DecidableEq κ] {pool mid left : κ → Option α} {keys : List κ} {k : κ} {x : α}
  {r : Request κ α} {rs rs' earlier later : List (Request κ α)}

theorem without_eq_some_iff : without pool keys k = some x ↔ pool k = some x ∧ k ∉ keys := by
  unfold without
  by_cases hk : k ∈ keys
  · simp [hk]
  · simp [hk]

theorem without_update (hk : k ∉ keys) (v : Option α) :
    without (Function.update pool k v) keys = Function.update (without pool keys) k v := by
  funext j
  by_cases hj : j = k
  · subst hj
    simp [without, hk]
  · simp [without, Function.update_of_ne hj]

namespace Takes

theorem append (h : Takes pool rs mid) (h' : Takes mid rs' left) : Takes pool (rs ++ rs') left := by
  induction h with
  | nil => exact h'
  | cons full _ ih => exact .cons full (ih h')

/-- A value nobody named may as well have come later. -/
theorem update (h : Takes pool rs left) (hk : ∀ r ∈ rs, k ∉ r.keys) (v : Option α) :
    Takes (Function.update pool k v) rs (Function.update left k v) := by
  induction h with
  | nil => exact .nil
  | @cons pool left r rs full _ ih =>
    obtain ⟨hr, hrs⟩ := List.forall_mem_cons.mp hk
    refine .cons ?_ ?_
    · intro x
      rw [full x]
      apply exists_congr
      intro j
      apply and_congr_right
      intro hj
      have hne : j ≠ k := fun h => hr (h ▸ hj)
      rw [Function.update_of_ne hne]
    · rw [without_update hr]
      exact ih hrs

/-- **A request gets what it names and no request before it named.** -/
theorem mem_got (h : Takes pool rs left) (hsplit : rs = earlier ++ r :: later) :
    x ∈ r.got ↔ ∃ k ∈ r.keys, pool k = some x ∧ ∀ q ∈ earlier, k ∉ q.keys := by
  induction h generalizing earlier with
  | nil => exact absurd hsplit (by simp)
  | @cons pool left r' rs full _ ih =>
    cases earlier with
    | nil =>
      obtain ⟨rfl, -⟩ := List.cons.inj hsplit
      simpa using full x
    | cons q earlier =>
      obtain ⟨rfl, hsplit'⟩ := List.cons.inj hsplit
      rw [ih hsplit']
      simp only [without_eq_some_iff, List.forall_mem_cons, and_assoc]

end Takes

theorem pairwise_iff_split {R : α → α → Prop} {l : List α} :
    l.Pairwise R ↔ ∀ earlier x later, l = earlier ++ x :: later → ∀ y ∈ earlier, R y x := by
  constructor
  · rintro h earlier x later rfl y hy
    exact (List.pairwise_append.mp h).2.2 y hy x List.mem_cons_self
  · intro h
    induction l with
    | nil => exact .nil
    | cons a l ih =>
      apply List.pairwise_cons.mpr
      constructor
      · intro x hx
        obtain ⟨s, t, rfl⟩ := List.append_of_mem hx
        exact h (a :: s) x t rfl a List.mem_cons_self
      · apply ih
        intro earlier x later hsplit y hy
        exact h (a :: earlier) x later (by rw [hsplit]; rfl) y (List.mem_cons_of_mem a hy)

/-- Every value is under one key. -/
def Keyed (pool : κ → Option α) : Prop :=
  ∀ k j x, pool k = some x → pool j = some x → k = j

/-- No value goes to two requests. -/
theorem Takes.disjoint (h : Takes pool rs left) (hkeyed : Keyed pool) :
    rs.Pairwise fun q r => ∀ x ∈ q.got, x ∉ r.got := by
  rw [pairwise_iff_split]
  intro earlier r later hsplit q hq x hxq hxr
  obtain ⟨k, -, hk, hfirst⟩ := (h.mem_got hsplit).mp hxr
  obtain ⟨before, after, rfl⟩ := List.append_of_mem hq
  have hsplit' : rs = before ++ q :: (after ++ r :: later) := by simp [hsplit]
  obtain ⟨j, hjq, hj, -⟩ := (h.mem_got hsplit').mp hxq
  obtain rfl := hkeyed k j x hk hj
  exact hfirst q hq hjq

/-- **Every request gets all it names exactly when no two of them name the same value.** -/
theorem Takes.full_iff (h : Takes pool rs left) (hkeyed : Keyed pool) :
    (∀ r ∈ rs, r.Full pool) ↔
      rs.Pairwise fun q r => ∀ k ∈ q.keys, k ∈ r.keys → pool k = none := by
  rw [pairwise_iff_split]
  constructor
  · intro hfull earlier r later hsplit q hq k hkq hkr
    by_contra hsome
    obtain ⟨x, hx⟩ := Option.ne_none_iff_exists'.mp hsome
    have hgot : x ∈ r.got := (hfull r (by simp [hsplit]) x).mpr ⟨k, hkr, hx⟩
    obtain ⟨j, -, hj, hfirst⟩ := (h.mem_got hsplit).mp hgot
    obtain rfl := hkeyed k j x hx hj
    exact hfirst q hq hkq
  · intro hapart r hr x
    obtain ⟨earlier, later, hsplit⟩ := List.append_of_mem hr
    rw [h.mem_got hsplit]
    apply exists_congr
    intro k
    apply and_congr_right
    intro hkr
    apply and_iff_left_of_imp
    intro hk q hq hkq
    exact absurd (hapart earlier r later hsplit q hq k hkq hkr) (by simp [hk])

end

end FirstTaker
