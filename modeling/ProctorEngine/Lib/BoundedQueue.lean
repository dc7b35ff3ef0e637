import Mathlib.Data.List.Basic

/-!
# Bounded queues

A queue of bounded length that never refuses: where there is no room for a new item, the oldest
one goes. The items that leave it, whether they are taken or lost, **leave in the order in which
they came, and before everything that is still there**. That is `Balanced`, and it says at once
that nothing is lost twice, that nothing else is lost, and that what is not lost keeps its order.
-/

set_option autoImplicit false

namespace BoundedQueue

variable {α : Type*}

/-- A new item at the right end: the item that has to go at the left end, and the queue
    afterwards. -/
def append (maxlen : Nat) (q : List α) (x : α) : Option α × List α :=
  if (q ++ [x]).length ≤ maxlen then (none, q ++ [x])
  else ((q ++ [x]).head?, (q ++ [x]).tail)

/-- The third list is the first two merged, each in its order. -/
inductive Merged : List α → List α → List α → Prop
  | nil : Merged [] [] []
  | left {l m k : List α} (x : α) (h : Merged l m k) : Merged (l ++ [x]) m (k ++ [x])
  | right {l m k : List α} (x : α) (h : Merged l m k) : Merged l (m ++ [x]) (k ++ [x])

/-- What has been added is what is gone, a merge of what was taken and what was lost, and then
    the queue. -/
def Balanced (added taken lost q : List α) : Prop :=
  ∃ gone, Merged taken lost gone ∧ added = gone ++ q

section
variable {maxlen : Nat} {q l m k added taken lost : List α} {x : α}

/-- Nothing goes while there is room. -/
theorem append_of_lt (h : q.length < maxlen) : append maxlen q x = (none, q ++ [x]) := by
  apply if_pos
  rw [List.length_append, List.length_singleton]
  exact h

/-- From a full queue the oldest item goes. -/
theorem append_of_full (hfull : q.length = maxlen) (hpositive : 0 < maxlen) :
    append maxlen q x = (q.head?, q.tail ++ [x]) := by
  cases q with
  | nil =>
    rw [← hfull] at hpositive
    exact absurd hpositive (Nat.lt_irrefl 0)
  | cons oldest q =>
    apply if_neg
    rw [List.length_append, hfull, List.length_singleton]
    exact Nat.not_succ_le_self maxlen

/-- An item is added and none disappears. -/
theorem append_conserves : (append maxlen q x).1.toList ++ (append maxlen q x).2 = q ++ [x] := by
  unfold append
  split
  case isTrue => rfl
  case isFalse =>
    cases q with
    | nil => rfl
    | cons oldest q => rfl

namespace Merged

theorem appendLeft (h : Merged l m k) (xs : List α) : Merged (l ++ xs) m (k ++ xs) := by
  induction xs generalizing l k with
  | nil =>
    rw [List.append_nil, List.append_nil]
    exact h
  | cons x xs ih =>
    rw [List.append_cons l, List.append_cons k]
    exact ih (h.left x)

theorem appendRight (h : Merged l m k) (xs : List α) : Merged l (m ++ xs) (k ++ xs) := by
  induction xs generalizing m k with
  | nil =>
    rw [List.append_nil, List.append_nil]
    exact h
  | cons x xs ih =>
    rw [List.append_cons m, List.append_cons k]
    exact ih (h.right x)

theorem sublist_left (h : Merged l m k) : l.Sublist k := by
  induction h with
  | nil => exact List.Sublist.refl []
  | left x h ih => exact ih.append (List.Sublist.refl [x])
  | right x h ih => exact ih.trans (List.sublist_append_left _ [x])

end Merged

namespace Balanced

theorem nil : Balanced ([] : List α) [] [] [] := ⟨[], .nil, rfl⟩

/-- An item that has to go goes behind those that went before it. -/
theorem push (h : Balanced added taken lost q) (maxlen : Nat) (x : α) :
    Balanced (added ++ [x]) taken (lost ++ (append maxlen q x).1.toList)
      (append maxlen q x).2 := by
  obtain ⟨gone, hmerged, hadded⟩ := h
  refine ⟨gone ++ (append maxlen q x).1.toList, hmerged.appendRight _, ?_⟩
  rw [List.append_assoc, append_conserves, hadded, List.append_assoc]

/-- The whole queue is taken. -/
theorem drain (h : Balanced added taken lost q) : Balanced added (taken ++ q) lost [] := by
  obtain ⟨gone, hmerged, hadded⟩ := h
  refine ⟨gone ++ q, hmerged.appendLeft q, ?_⟩
  rw [hadded, List.append_nil]

/-- What was taken and what is there are in the order in which they came. -/
theorem inOrder (h : Balanced added taken lost q) : (taken ++ q).Sublist added := by
  obtain ⟨gone, hmerged, hadded⟩ := h
  rw [hadded]
  exact hmerged.sublist_left.append (List.Sublist.refl q)

end Balanced

end

end BoundedQueue
