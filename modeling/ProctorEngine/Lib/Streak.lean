import Mathlib.Data.List.DropRight
import Mathlib.Data.List.Infix

/-!
# Streaks and the last few items of a stream

A detector confirms a signal by looking at the last `k` items of a stream: all of them must have
the property. A program follows this in one of two ways, with the run of items that have the
property so far, or with a queue of the last `k` items. **Both say the same of the stream**
(`confirmed_iff_streak`, `slide_eq_rtake`), and a detector that stops at its first confirmation
stops when the streak is exactly `k` long.
-/

set_option autoImplicit false

namespace Streak

variable {α : Type*}

/-- There are `k` items, and the last `k` of them have the property. -/
def Confirmed (k : Nat) (p : α → Bool) (l : List α) : Prop :=
  k ≤ l.length ∧ ∀ x ∈ l.rtake k, p x = true

/-- Confirmed at some time. -/
def Ever (k : Nat) (p : α → Bool) (l : List α) : Prop := ∃ l', l' <+: l ∧ Confirmed k p l'

/-- Confirmed by the item that comes last, and at no time before. -/
def Newly (k : Nat) (p : α → Bool) (l : List α) (x : α) : Prop :=
  Confirmed k p (l ++ [x]) ∧ ∀ l', l' <+: l → ¬ Confirmed k p l'

instance {k : Nat} {p : α → Bool} {l : List α} : Decidable (Confirmed k p l) :=
  inferInstanceAs (Decidable (_ ∧ _))

variable {k : Nat} {p : α → Bool} {l : List α} {x : α}

/-! ## 1. The last items

`rtake` is what a bounded queue holds. -/

theorem rtake_suffix : l.rtake k <:+ l := List.drop_suffix _ _

theorem length_rtake : (l.rtake k).length = min k l.length := by
  unfold List.rtake
  rw [List.length_drop]
  omega

theorem rtake_of_length_le (h : l.length ≤ k) : l.rtake k = l := by
  unfold List.rtake
  rw [Nat.sub_eq_zero_of_le h, List.drop_zero]

/-- Only the end of a list matters for its last items. -/
theorem rtake_append_of_le {m : List α} (h : k ≤ m.length) : (l ++ m).rtake k = m.rtake k := by
  unfold List.rtake
  have hsplit : (l ++ m).length - k = l.length + (m.length - k) := by
    rw [List.length_append]
    omega
  rw [hsplit, List.drop_length_add_append]

/-- **A queue of bounded length holds the last items**: append, and drop the oldest of one too
    many. -/
theorem slide_eq_rtake :
    (if k < (l.rtake k ++ [x]).length then (l.rtake k ++ [x]).tail else l.rtake k ++ [x]) =
      (l ++ [x]).rtake k := by
  cases k with
  | zero => simp
  | succ k =>
    rw [List.rtake_concat_succ, List.length_append, length_rtake, List.length_singleton]
    by_cases hfull : k < l.length
    · rw [if_pos (by omega)]
      have hsplit : l.length - k = l.length - (k + 1) + 1 := by omega
      have htail : (l.rtake (k + 1)).tail = l.rtake k := by
        unfold List.rtake
        rw [List.tail_drop, hsplit]
      have hne : l.rtake (k + 1) ≠ [] := by
        apply List.ne_nil_of_length_pos
        rw [length_rtake]
        omega
      rw [List.tail_append_of_ne_nil hne, htail]
    · rw [if_neg (by omega), rtake_of_length_le (by omega), rtake_of_length_le (by omega)]

/-! ## 2. The streak

`rtakeWhile` is what a counter that is reset counts. -/

/-- Confirmed is: the streak is long enough. -/
theorem confirmed_iff_streak : Confirmed k p l ↔ k ≤ (l.rtakeWhile p).length := by
  induction l using List.reverseRecOn generalizing k with
  | nil => simp [Confirmed]
  | append_singleton l x ih =>
    cases k with
    | zero => simp [Confirmed]
    | succ k =>
      have hmem : Confirmed (k + 1) p (l ++ [x]) ↔ Confirmed k p l ∧ p x = true := by
        simp only [Confirmed, List.rtake_concat_succ, List.length_append, List.length_singleton,
          Nat.add_le_add_iff_right, List.forall_mem_append, List.forall_mem_singleton, and_assoc]
      rw [hmem, ih]
      cases hp : p x with
      | true => simp [hp]
      | false => simp [hp]

/-- An item with the property makes the streak longer. -/
theorem confirmed_append_of_pos (h : p x = true) :
    Confirmed k p (l ++ [x]) ↔ k ≤ (l.rtakeWhile p).length + 1 := by
  rw [confirmed_iff_streak, List.rtakeWhile_concat_pos _ _ _ h, List.length_append,
    List.length_singleton]

/-- An item without it ends the streak. -/
theorem not_confirmed_append_of_neg (hk : 0 < k) (h : ¬ p x = true) :
    ¬ Confirmed k p (l ++ [x]) := by
  rw [confirmed_iff_streak, List.rtakeWhile_concat_neg _ _ _ h, List.length_nil]
  exact Nat.not_le_of_lt hk

/-- Within a streak the last items are the last of the streak. -/
theorem rtake_eq_rtake_streak (h : k ≤ (l.rtakeWhile p).length) :
    l.rtake k = (l.rtakeWhile p).rtake k := by
  conv_lhs => rw [← List.rdropWhile_append_rtakeWhile (p := p) (l := l)]
  exact rtake_append_of_le h

/-! ## 3. The first confirmation

For a rule that fires once: confirmed now, and never before. -/

theorem ever_append_singleton :
    Ever k p (l ++ [x]) ↔ Ever k p l ∨ Confirmed k p (l ++ [x]) := by
  constructor
  · rintro ⟨l', hl', hconfirmed⟩
    rcases List.prefix_concat_iff.mp hl' with rfl | hl'
    · exact .inr hconfirmed
    · exact .inl ⟨l', hl', hconfirmed⟩
  · rintro (⟨l', hl', hconfirmed⟩ | hconfirmed)
    · exact ⟨l', hl'.trans (List.prefix_append l [x]), hconfirmed⟩
    · exact ⟨l ++ [x], List.prefix_rfl, hconfirmed⟩

/-- What was never confirmed and is not now has still never been. -/
theorem not_ever_append_singleton (hnone : ¬ Ever k p l) (hnot : ¬ Confirmed k p (l ++ [x])) :
    ¬ Ever k p (l ++ [x]) := by
  intro hever
  rcases ever_append_singleton.mp hever with hever | hnow
  · exact hnone hever
  · exact hnot hnow

theorem not_ever_nil (hk : 0 < k) : ¬ Ever k p [] := by
  rintro ⟨l', hl', hlength, -⟩
  rw [List.prefix_nil.mp hl', List.length_nil] at hlength
  omega

theorem newly_iff : Newly k p l x ↔ ¬ Ever k p l ∧ Confirmed k p (l ++ [x]) := by
  constructor
  · rintro ⟨hconfirmed, hnone⟩
    exact ⟨fun ⟨l', hl', h⟩ => hnone l' hl' h, hconfirmed⟩
  · rintro ⟨hnone, hconfirmed⟩
    exact ⟨hconfirmed, fun l' hl' h => hnone ⟨l', hl', h⟩⟩

/-- Newly confirmed, the streak is exactly the last items. -/
theorem Newly.streak (h : Newly k p l x) :
    (l ++ [x]).rtakeWhile p = (l ++ [x]).rtake k := by
  have hlong := confirmed_iff_streak.mp h.1
  have hshort : (l.rtakeWhile p).length < k := by
    have hnot := h.2 l List.prefix_rfl
    rw [confirmed_iff_streak] at hnot
    omega
  have hlength : ((l ++ [x]).rtakeWhile p).length ≤ k := by
    rw [List.rtakeWhile_concat]
    split
    · rw [List.length_append, List.length_singleton]
      omega
    · exact Nat.zero_le k
  rw [rtake_eq_rtake_streak hlong, rtake_of_length_le hlength]

end Streak
