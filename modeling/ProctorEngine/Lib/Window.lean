import Mathlib.Order.Lattice
import Mathlib.Data.List.Basic

/-!
# Sliding windows over a sorted list

A buffer that keeps the recent items of a stream appends at the back and drops old items from the
front. When the items come in order of time, dropping from the front is filtering, and **what is
left after any number of appends and evictions is the last cutoff's filter of everything that was
ever appended**, as long as the cutoffs never move back.

`evict` is what a buffer does and `since` what it is for. Where the times are not in order, or the
cutoff does move back, the two differ, and each lemma with `iff` in its name says exactly when: an
old item behind a recent one stops the eviction, and an item that was dropped does not return.
-/

set_option autoImplicit false

namespace Window

variable {α β : Type*} [LinearOrder β] (time : α → β)

/-- Drop from the front what is older than `cutoff`. -/
def evict (cutoff : β) (l : List α) : List α := l.dropWhile fun x => time x < cutoff

/-- What is no older than `cutoff`. -/
def since (cutoff : β) (l : List α) : List α := l.filter fun x => cutoff ≤ time x

/-- The items come in order of time. -/
def InOrder (l : List α) : Prop := l.Pairwise fun x y => time x ≤ time y

variable {time} {c d : β} {x : α} {l : List α}

theorem evict_eq_since (h : InOrder time l) : evict time c l = since time c l := by
  induction l with
  | nil => rfl
  | cons a l ih =>
    obtain ⟨ha, hl⟩ := List.pairwise_cons.mp h
    by_cases hc : time a < c
    · have hevict : evict time c (a :: l) = evict time c l :=
        List.dropWhile_cons_of_pos (by simpa using hc)
      rw [hevict, ih hl]
      simp [since, hc]
    · -- the first item to stay has only items to stay behind it
      have hevict : evict time c (a :: l) = a :: l :=
        List.dropWhile_cons_of_neg (by simpa using hc)
      have hstay : since time c (a :: l) = a :: l := by
        apply List.filter_eq_self.mpr
        intro y hy
        rcases List.mem_cons.mp hy with hy | hy
        · simpa [hy] using hc
        · simpa using (not_lt.mp hc).trans (ha y hy)
      rw [hevict, hstay]

theorem since_since (h : c ≤ d) : since time d (since time c l) = since time d l := by
  unfold since
  rw [List.filter_filter]
  apply List.filter_congr
  intro y _
  by_cases hd : d ≤ time y
  · simp [hd, h.trans hd]
  · simp [hd]

theorem InOrder.since (h : InOrder time l) : InOrder time (since time c l) :=
  List.Pairwise.filter _ h

theorem inOrder_append_singleton :
    InOrder time (l ++ [x]) ↔ InOrder time l ∧ ∀ y ∈ l, time y ≤ time x := by
  simp [InOrder, List.pairwise_append]

/-- Appends and one eviction of a buffer that is already the window of a stream. -/
theorem evict_since_append {m : List α} (h : InOrder time (l ++ m)) (hcd : c ≤ d) :
    evict time d (since time c l ++ m) = since time d (l ++ m) := by
  have hsub : (since time c l ++ m).Sublist (l ++ m) := List.filter_sublist.append_right m
  rw [evict_eq_since (List.Pairwise.sublist hsub h)]
  unfold Window.since
  rw [List.filter_append, List.filter_append]
  congr 1
  exact since_since hcd

/-- Eviction leaves just the recent items exactly when no old item stands behind a recent one: it
    stops at the first recent item. -/
theorem evict_eq_since_iff :
    evict time c l = since time c l ↔ l.Pairwise fun x y => c ≤ time x → c ≤ time y := by
  induction l with
  | nil => simp [evict, since]
  | cons a l ih =>
    -- An expired head falls to both; at the first recent one the eviction stops.
    by_cases hc : time a < c
    · have hevict : evict time c (a :: l) = evict time c l :=
        List.dropWhile_cons_of_pos (by simpa using hc)
      have hsince : since time c (a :: l) = since time c l :=
        List.filter_cons_of_neg (by simpa using hc)
      rw [hevict, hsince, ih, List.pairwise_cons]
      simp [not_le.mpr hc]
    · have hevict : evict time c (a :: l) = a :: l :=
        List.dropWhile_cons_of_neg (by simpa using hc)
      rw [hevict, List.pairwise_cons, eq_comm]
      unfold since
      rw [List.filter_eq_self]
      have hac : c ≤ time a := not_lt.mp hc
      constructor
      · intro h
        have hl : ∀ y ∈ l, c ≤ time y := fun y hy => by
          simpa using h y (List.mem_cons_of_mem a hy)
        exact ⟨fun y hy _ => hl y hy, List.pairwise_of_forall_mem_list fun x _ y hy _ => hl y hy⟩
      · rintro ⟨h, -⟩ y hy
        rcases List.mem_cons.mp hy with rfl | hy
        · simpa using hac
        · simpa using h y hy hac

/-- An eviction that leaves only recent items leaves all of them. -/
theorem evict_eq_since_of_forall (h : ∀ y ∈ evict time c l, c ≤ time y) :
    evict time c l = since time c l := by
  have hdropped : since time c (l.takeWhile fun x => time x < c) = [] := by
    apply List.filter_eq_nil_iff.mpr
    intro y hy
    have hold := List.all_eq_true.mp List.all_takeWhile y hy
    simpa using hold
  have hkept : since time c (evict time c l) = evict time c l := by
    apply List.filter_eq_self.mpr
    intro y hy
    simpa using h y hy
  calc evict time c l = since time c (l.takeWhile fun x => time x < c) ++
        since time c (evict time c l) := by rw [hdropped, hkept, List.nil_append]
    _ = since time c l := by
      unfold since evict
      rw [← List.filter_append, List.takeWhile_append_dropWhile]

theorem filter_eq_filter_iff {p q : α → Bool} :
    l.filter p = l.filter q ↔ ∀ y ∈ l, (p y = true ↔ q y = true) := by
  constructor
  · intro heq y hy
    have hmem : y ∈ l.filter p ↔ y ∈ l.filter q := by rw [heq]
    simpa [List.mem_filter, hy] using hmem
  · intro h
    apply List.filter_congr
    intro y hy
    exact Bool.eq_iff_iff.mpr (h y hy)

/-- Two windows show the same exactly where they agree on every item. -/
theorem since_eq_since_iff_forall :
    since time c l = since time d l ↔ ∀ y ∈ l, c ≤ time y ↔ d ≤ time y := by
  simp only [since, filter_eq_filter_iff, decide_eq_true_eq]

/-- A window moved from `c` to `d` shows what `d` alone would show exactly when it never has to
    show again what `c` hid. -/
theorem since_since_eq_iff :
    since time d (since time c l) = since time d l ↔ ∀ y ∈ l, ¬ (d ≤ time y ∧ time y < c) := by
  unfold since
  rw [List.filter_filter, filter_eq_filter_iff]
  apply forall₂_congr
  intro y _
  by_cases hd : d ≤ time y
  · simp [hd]
  · simp [hd]

/-- A later cutoff leaves the same items exactly where nothing lies between the two. -/
theorem since_eq_since_iff (h : c ≤ d) :
    since time d l = since time c l ↔ ∀ y ∈ l, ¬ (c ≤ time y ∧ time y < d) := by
  rw [since_eq_since_iff_forall]
  apply forall₂_congr
  intro y _
  rw [not_and, not_lt]
  exact ⟨fun hiff hc => hiff.mpr hc, fun himp => ⟨h.trans, himp⟩⟩

/-- An eviction from the window of `c`, after an append of recent items, leaves the window of `d`
    exactly when no old item stands behind a recent one and none hidden has to come back. -/
theorem evict_append_eq_since_iff {m : List α} (hm : ∀ y ∈ m, d ≤ time y) :
    evict time d (since time c l ++ m) = since time d (l ++ m) ↔
      (since time c l).Pairwise (fun x y => d ≤ time x → d ≤ time y) ∧
        ∀ y ∈ l, ¬ (d ≤ time y ∧ time y < c) := by
  rw [← since_since_eq_iff]
  -- What is appended is recent, so it neither blocks the eviction nor is cut by the bound.
  have hpairwise : (since time c l ++ m).Pairwise (fun x y => d ≤ time x → d ≤ time y) ↔
      (since time c l).Pairwise (fun x y => d ≤ time x → d ≤ time y) := by
    rw [List.pairwise_append]
    constructor
    · exact fun h => h.1
    · exact fun h => ⟨h, List.pairwise_of_forall_mem_list fun x _ y hy _ => hm y hy,
        fun x _ y hy _ => hm y hy⟩
  have hsince : ∀ k : List α, since time d (k ++ m) = since time d k ++ m := by
    intro k
    have hself : m.filter (fun x => d ≤ time x) = m := by
      apply List.filter_eq_self.mpr
      intro y hy
      simpa using hm y hy
    unfold since
    rw [List.filter_append, hself]
  constructor
  · intro heq
    have hevict : evict time d (since time c l ++ m) = since time d (since time c l ++ m) := by
      apply evict_eq_since_of_forall
      intro y hy
      rw [heq] at hy
      simpa using (List.mem_filter.mp hy).2
    refine ⟨hpairwise.mp (evict_eq_since_iff.mp hevict), ?_⟩
    rw [hevict, hsince, hsince] at heq
    exact List.append_cancel_right heq
  · rintro ⟨horder, heq⟩
    rw [evict_eq_since_iff.mpr (hpairwise.mpr horder), hsince, hsince, heq]

theorem since_sublist_since (h : c ≤ d) : (since time d l).Sublist (since time c l) := by
  rw [← since_since h]
  exact List.filter_sublist

/-- The same of what is seen of the items through any function. -/
theorem map_since_eq_iff {γ : Type*} (f : α → γ) (h : c ≤ d) :
    (since time d l).map f = (since time c l).map f ↔
      ∀ y ∈ l, ¬ (c ≤ time y ∧ time y < d) := by
  rw [← since_eq_since_iff h]
  constructor
  · intro heq
    have hlength : (since time d l).length = (since time c l).length := by
      simpa using congrArg List.length heq
    exact (since_sublist_since h).eq_of_length hlength
  · intro heq
    rw [heq]

/-- Eviction of the images is eviction of the items. -/
theorem evict_map {γ : Type*} (f : γ → α) (m : List γ) :
    evict time c (m.map f) = (evict (fun x => time (f x)) c m).map f := by
  unfold evict
  rw [List.dropWhile_map]
  rfl

end Window
