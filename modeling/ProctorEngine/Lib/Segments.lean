import Mathlib.Data.List.Basic
import Mathlib.Data.List.Infix

/-!
# The closed segments of a list

Some items of a list are separators. `closed` lists the nonempty runs of other items that a
separator follows, each with that separator, in order; a run at the end that nothing closes is
not among them. It is what a one-pass accumulator computes that collects items, and puts out
and forgets what it has collected at every separator: **reading on from a collected run is
reading the run in front of the rest** (`closed_append_cons`).
-/

set_option autoImplicit false

namespace Segments

variable {α : Type*} (p : α → Bool)

/-- The nonempty runs between separators, each with the separator that closes it. -/
def closed (l : List α) : List (List α × α) :=
  ((l.splitOnP p).zip (l.filter p)).filter fun r => r.1 ≠ []

variable {p} {l l' run : List α} {x : α}

theorem closed_of_open (h : ∀ y ∈ run, p y = false) : closed p run = [] := by
  have hfilter : run.filter p = [] := by
    apply List.filter_eq_nil_iff.mpr
    intro y hy
    simp [h y hy]
  simp [closed, hfilter]

/-- The first separator closes the run in front of it, if there is one. -/
theorem closed_append_cons (h : ∀ y ∈ run, p y = false) (hx : p x = true) :
    closed p (run ++ x :: l) = if run = [] then closed p l else (run, x) :: closed p l := by
  have hfilter : (run ++ x :: l).filter p = x :: l.filter p := by
    have hrun : run.filter p = [] := by
      apply List.filter_eq_nil_iff.mpr
      intro y hy
      simp [h y hy]
    rw [List.filter_append, hrun, List.filter_cons_of_pos hx, List.nil_append]
  unfold closed
  rw [List.splitOnP_append_cons_of_forall_mem h x hx, hfilter, List.zip_cons_cons]
  split
  · rename_i hempty
    simp [hempty]
  · rename_i hrun
    simp [hrun]

/-- A run of other items, and then a separator or the end. -/
theorem exists_run (l : List α) :
    (∀ y ∈ l, p y = false) ∨
      ∃ run x rest, l = run ++ x :: rest ∧ (∀ y ∈ run, p y = false) ∧ p x = true := by
  induction l with
  | nil => exact .inl (by simp)
  | cons a l ih =>
    by_cases ha : p a = true
    · exact .inr ⟨[], a, l, rfl, by simp, ha⟩
    · have ha' : p a = false := by simpa using ha
      rcases ih with hopen | ⟨run, x, rest, rfl, hrun, hx⟩
      · left
        intro y hy
        rcases List.mem_cons.mp hy with rfl | hy
        · exact ha'
        · exact hopen y hy
      · refine .inr ⟨a :: run, x, rest, rfl, ?_, hx⟩
        intro y hy
        rcases List.mem_cons.mp hy with rfl | hy
        · exact ha'
        · exact hrun y hy

/-- What holds of a list without separators, and of a run closed in front of a list of which it
    holds, holds of every list. -/
theorem run_induction {motive : List α → Prop} (h₀ : ∀ l, (∀ y ∈ l, p y = false) → motive l)
    (h₁ : ∀ run x l, (∀ y ∈ run, p y = false) → p x = true → motive l → motive (run ++ x :: l))
    (l : List α) : motive l := by
  induction hn : l.length using Nat.strong_induction_on generalizing l with
  | _ n ih =>
    rcases exists_run (p := p) l with hopen | ⟨run, x, rest, rfl, hrun, hx⟩
    · exact h₀ l hopen
    · apply h₁ run x rest hrun hx
      exact ih rest.length (by simp [← hn]; omega) rest rfl

/-- What comes later closes no earlier run. -/
theorem closed_prefix : closed p l <+: closed p (l ++ l') := by
  induction l using run_induction (p := p) with
  | h₀ l hopen =>
    rw [closed_of_open hopen]
    exact List.nil_prefix
  | h₁ run x l hrun hx ih =>
    rw [List.append_assoc, List.cons_append, closed_append_cons hrun hx, closed_append_cons hrun hx]
    split
    · exact ih
    · exact List.cons_prefix_cons.mpr ⟨rfl, ih⟩

/-- The items of the closed segments and their separators stand in the list in this order. -/
theorem closed_sublist : ((closed p l).flatMap fun r => r.1 ++ [r.2]).Sublist l := by
  induction l using run_induction (p := p) with
  | h₀ l hopen => simp [closed_of_open hopen]
  | h₁ run x l hrun hx ih =>
    rw [closed_append_cons hrun hx]
    split
    · rename_i hempty
      subst hempty
      exact ih.trans (List.sublist_cons_self x l)
    · rw [List.flatMap_cons, List.append_assoc]
      exact (List.Sublist.refl run).append (List.Sublist.cons_cons x ih)

/-- All the runs, closed or not, are what is no separator. -/
theorem flatten_splitOn [DecidableEq α] (sep : α) (l : List α) :
    (l.splitOn sep).flatten = l.filter (· ≠ sep) := by
  induction l with
  | nil => rfl
  | cons a l ih =>
    rw [List.splitOn_cons_eq_if_modifyHead]
    by_cases ha : a = sep
    · have hfilter : (a :: l).filter (· ≠ sep) = l.filter (· ≠ sep) :=
        List.filter_cons_of_neg (by simpa using ha)
      rw [if_pos (beq_iff_eq.mpr ha), hfilter, ← ih]
      rfl
    · have hfilter : (a :: l).filter (· ≠ sep) = a :: l.filter (· ≠ sep) :=
        List.filter_cons_of_pos (by simpa using ha)
      rw [if_neg (mt beq_iff_eq.mp ha), hfilter, ← ih]
      cases hruns : l.splitOn sep with
      | nil => exact absurd hruns (List.splitOn_ne_nil sep l)
      | cons run runs => rfl

theorem run_ne_nil {r : List α × α} (h : r ∈ closed p l) : r.1 ≠ [] := by
  simpa using (List.mem_filter.mp h).2

/-! ## What two readings make of the segments -/

variable {β : Type*} {f g : α → Option β}

/-- Two readings of a list, of which the first stops early. If the first reads whatever the
    second reads, and nothing the second reads later stands in for what it passed over, the
    readings agree as lists only where they agree item by item. -/
theorem filterMap_eq_filterMap_append_iff
    (hle : ∀ x ∈ l, (g x).isSome → (f x).isSome)
    (hlater : (l ++ l').Pairwise fun x y => ∀ e, f x = some e → g x = none → g y ≠ some e) :
    l.filterMap f = (l ++ l').filterMap g ↔ (∀ x ∈ l, f x = g x) ∧ ∀ x ∈ l', g x = none := by
  induction l with
  | nil =>
    rw [List.nil_append, List.filterMap_nil, eq_comm, List.filterMap_eq_nil_iff]
    simp
  | cons x l ih =>
    obtain ⟨hx, hrest⟩ := List.pairwise_cons.mp hlater
    have ih := ih (fun y hy => hle y (List.mem_cons_of_mem x hy)) hrest
    rw [List.cons_append, List.filterMap_cons, List.filterMap_cons, List.forall_mem_cons]
    cases hf : f x with
    | none =>
      cases hg : g x with
      | none => simpa using ih
      | some e =>
        have hsome := hle x List.mem_cons_self (by simp [hg])
        exact absurd hsome (by simp [hf])
    | some e =>
      cases hg : g x with
      | none =>
        -- The event of `x` would have to come from a later element, which `hlater` excludes.
        refine iff_of_false ?_ ?_
        · intro (heq : e :: l.filterMap f = (l ++ l').filterMap g)
          have hmem : e ∈ (l ++ l').filterMap g := heq ▸ List.mem_cons_self
          obtain ⟨y, hy, hgy⟩ := List.mem_filterMap.mp hmem
          exact hx y hy e hf hg hgy
        · rintro ⟨⟨heq, -⟩, -⟩
          exact absurd heq (by simp)
      | some e' =>
        show e :: l.filterMap f = e' :: (l ++ l').filterMap g ↔ _
        rw [List.cons.injEq, ih, Option.some.injEq, and_assoc]

end Segments
