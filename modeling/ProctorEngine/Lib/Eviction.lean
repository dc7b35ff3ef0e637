import Mathlib.Data.List.Infix

/-!
# Eviction from the front

A list is cut from its front until what remains fits. Where a part of a fitting list fits as well,
what remains is the **longest end of the list that fits**, and two measures of fitting leave the
same remainder exactly when they agree on every end of the list.
-/

set_option autoImplicit false

namespace Eviction

variable {α : Type*}

/-- The first item goes until what remains fits. -/
def evict (fits : List α → Prop) [DecidablePred fits] : List α → List α
  | [] => []
  | x :: xs => if fits (x :: xs) then x :: xs else evict fits xs

/-- What remains of `xs`: an end of it that fits, and no longer end does. -/
structure Remains (fits : List α → Prop) (xs kept : List α) : Prop where
  suffix : kept <:+ xs
  fitting : fits kept
  longest : ∀ ys, ys <:+ xs → kept.length < ys.length → ¬ fits ys

/-- An end of what fits fits. -/
def Antitone (fits : List α → Prop) : Prop := ∀ xs ys, ys <:+ xs → fits xs → fits ys

section
variable {fits p q : List α → Prop} {xs ys kept : List α}

/-- A fitting end is no longer than what remains, and the other way around. -/
theorem Remains.fits_iff (h : Remains fits xs kept) (hfits : Antitone fits) (hys : ys <:+ xs) :
    fits ys ↔ ys.length ≤ kept.length := by
  constructor
  · intro hfit
    apply Nat.le_of_not_lt
    intro hlonger
    exact h.longest ys hys hlonger hfit
  · intro hle
    exact hfits kept ys (List.suffix_of_suffix_length_le hys h.suffix hle) h.fitting

variable [DecidablePred fits] [DecidablePred p]

theorem remains_evict (hnil : fits []) : Remains fits xs (evict fits xs) := by
  induction xs with
  | nil =>
    refine ⟨List.suffix_refl [], hnil, ?_⟩
    intro ys hys hlonger
    rw [List.suffix_nil.mp hys] at hlonger
    exact absurd hlonger (Nat.lt_irrefl 0)
  | cons x xs ih =>
    unfold evict
    split
    case isTrue hfit =>
      refine ⟨List.suffix_refl _, hfit, ?_⟩
      intro ys hys hlonger
      exact absurd hys.length_le (Nat.not_le_of_lt hlonger)
    case isFalse hfit =>
      refine ⟨ih.suffix.trans (List.suffix_cons x xs), ih.fitting, ?_⟩
      intro ys hys hlonger
      obtain rfl | hys := List.suffix_cons_iff.mp hys
      · exact hfit
      · exact ih.longest ys hys hlonger

/-- **To evict by one measure is to evict by another exactly when the two agree on every end.** -/
theorem remains_evict_iff (hnil : p []) (hp : Antitone p) (hq : Antitone q) :
    Remains q xs (evict p xs) ↔ ∀ ys, ys <:+ xs → (p ys ↔ q ys) := by
  have hkept : Remains p xs (evict p xs) := remains_evict hnil
  constructor
  · intro h ys hys
    rw [hkept.fits_iff hp hys, h.fits_iff hq hys]
  · intro hagree
    refine ⟨hkept.suffix, (hagree _ hkept.suffix).mp hkept.fitting, ?_⟩
    intro ys hys hlonger hfit
    exact hkept.longest ys hys hlonger ((hagree ys hys).mpr hfit)

end

end Eviction
