import Mathlib.Data.List.Infix

/-!
# Runs of a deterministic step function

A concurrent program is modelled here by a total step function `step : σ → α → σ`: the
label of a step carries everything the environment chooses (which thread moves, what a
library call answered, which fresh identifier was drawn), and a label whose guard is false
leaves the state as it is. **Quantifying over every list of labels is then quantifying over
every interleaving.**

Two ways to speak about a run suffice. `Always P` says that `P` holds in every state the
run visits; `EachStep T` says that `T` relates every state to the label taken from it. A
verdict of the form "the property holds exactly when no step goes wrong" is an equivalence
between the two, and `always_iff_eachStep` packages the one induction behind all of them.
-/

set_option autoImplicit false

namespace Run

variable {σ α : Type*}

/-- The state a run ends in. -/
def final (step : σ → α → σ) (s : σ) (as : List α) : σ := as.foldl step s

/-- `P` holds in every state a run visits, the first and the last included. -/
def Always (step : σ → α → σ) (P : σ → Prop) : σ → List α → Prop
  | s, [] => P s
  | s, a :: as => P s ∧ Always step P (step s a) as

/-- `T` holds of every state of a run and the label taken from it. -/
def EachStep (step : σ → α → σ) (T : σ → α → Prop) : σ → List α → Prop
  | _, [] => True
  | s, a :: as => T s a ∧ EachStep step T (step s a) as

/-- The labels of a run, each with the state it is taken from. -/
def trace (step : σ → α → σ) : σ → List α → List (σ × α)
  | _, [] => []
  | s, a :: as => (s, a) :: trace step (step s a) as

section
variable {step : σ → α → σ} {P Q I : σ → Prop} {T G H : σ → α → Prop} {s : σ} {as bs : List α}

@[simp] theorem final_nil : final step s [] = s := rfl

@[simp] theorem final_cons {a : α} : final step s (a :: as) = final step (step s a) as := rfl

@[simp] theorem final_append : final step s (as ++ bs) = final step (final step s as) bs := by
  simp [final]

@[simp] theorem trace_nil : trace step s [] = [] := rfl

@[simp] theorem trace_cons {a : α} :
    trace step s (a :: as) = (s, a) :: trace step (step s a) as := rfl

@[simp] theorem always_nil : Always step P s [] ↔ P s := Iff.rfl

@[simp] theorem always_cons {a : α} :
    Always step P s (a :: as) ↔ P s ∧ Always step P (step s a) as := Iff.rfl

@[simp] theorem eachStep_nil : EachStep step T s [] := trivial

@[simp] theorem eachStep_cons {a : α} :
    EachStep step T s (a :: as) ↔ T s a ∧ EachStep step T (step s a) as := Iff.rfl

instance decidableAlways [DecidablePred P] : ∀ s as, Decidable (Always step P s as)
  | s, [] => inferInstanceAs (Decidable (P s))
  | s, a :: as =>
    haveI := decidableAlways (step s a) as
    inferInstanceAs (Decidable (P s ∧ Always step P (step s a) as))

instance decidableEachStep [∀ s a, Decidable (T s a)] :
    ∀ s as, Decidable (EachStep step T s as)
  | _, [] => inferInstanceAs (Decidable True)
  | s, a :: as =>
    haveI := decidableEachStep (step s a) as
    inferInstanceAs (Decidable (T s a ∧ EachStep step T (step s a) as))

theorem Always.head (h : Always step P s as) : P s := by
  cases as with
  | nil => exact h
  | cons a as => exact h.1

theorem Always.final (h : Always step P s as) : P (final step s as) := by
  induction as generalizing s with
  | nil => exact h
  | cons a as ih => exact ih h.2

theorem Always.mono (hPQ : ∀ s, P s → Q s) (h : Always step P s as) : Always step Q s as := by
  induction as generalizing s with
  | nil => exact hPQ s h
  | cons a as ih => exact ⟨hPQ s h.1, ih h.2⟩

theorem EachStep.mono (hTG : ∀ s a, T s a → G s a) (h : EachStep step T s as) :
    EachStep step G s as := by
  induction as generalizing s with
  | nil => trivial
  | cons a as ih => exact ⟨hTG s a h.1, ih h.2⟩

theorem Always.and (hP : Always step P s as) (hQ : Always step Q s as) :
    Always step (fun s => P s ∧ Q s) s as := by
  induction as generalizing s with
  | nil => exact ⟨hP, hQ⟩
  | cons a as ih => exact ⟨⟨hP.1, hQ.1⟩, ih hP.2 hQ.2⟩

theorem EachStep.and (hT : EachStep step T s as) (hG : EachStep step G s as) :
    EachStep step (fun s a => T s a ∧ G s a) s as := by
  induction as generalizing s with
  | nil => trivial
  | cons a as ih => exact ⟨⟨hT.1, hG.1⟩, ih hT.2 hG.2⟩

/-- What every step does, the steps of a run do. -/
theorem eachStep_of_forall (hT : ∀ s a, T s a) : EachStep step T s as := by
  induction as generalizing s with
  | nil => trivial
  | cons a as ih => exact ⟨hT s a, ih⟩

/-- What is true of every label is true of every step. -/
theorem eachStep_of_mem {L : α → Prop} (hL : ∀ a ∈ as, L a) :
    EachStep step (fun _ a => L a) s as := by
  induction as generalizing s with
  | nil => trivial
  | cons a as ih =>
    exact ⟨hL a List.mem_cons_self, ih fun b hb => hL b (List.mem_cons_of_mem a hb)⟩

theorem eachStep_iff_trace : EachStep step T s as ↔ ∀ x ∈ trace step s as, T x.1 x.2 := by
  induction as generalizing s with
  | nil => simp
  | cons a as ih => simp [ih]

theorem always_append :
    Always step P s (as ++ bs) ↔
      Always step P s as ∧ Always step P (Run.final step s as) bs := by
  induction as generalizing s with
  | nil => exact ⟨fun h => ⟨h.head, h⟩, fun h => h.2⟩
  | cons a as ih => rw [List.cons_append, always_cons, always_cons, ih, and_assoc, final_cons]

/-- The induction rule for invariants: what every step preserves holds along every run. -/
theorem always_of_step (hI : ∀ s a, I s → I (step s a)) (hs : I s) : Always step I s as := by
  induction as generalizing s with
  | nil => exact hs
  | cons a as ih => exact ⟨hs, ih (hI s a hs)⟩

/-- The same with a guard: what every *guarded* step preserves holds along every run
    whose steps all meet the guard. -/
theorem always_of_eachStep (hI : ∀ s a, I s → G s a → I (step s a)) (hs : I s)
    (hG : EachStep step G s as) : Always step I s as := by
  induction as generalizing s with
  | nil => exact hs
  | cons a as ih => exact ⟨hs, ih (hI s a hs hG.1) hG.2⟩

/-- **Exactness for states.** If, from a state satisfying the invariant and the property,
    a step keeps the property exactly when it meets the guard, then the property holds all
    along a run exactly when every step of the run meets the guard. -/
theorem always_iff_eachStep (hI : ∀ s a, I s → I (step s a))
    (hP : ∀ s a, I s → P s → (P (step s a) ↔ G s a)) (hs : I s) (hPs : P s) :
    Always step P s as ↔ EachStep step G s as := by
  induction as generalizing s with
  | nil => simp [hPs]
  | cons a as ih =>
    rw [always_cons, eachStep_cons]
    constructor
    · rintro ⟨-, h⟩
      exact ⟨(hP s a hs hPs).mp h.head, (ih (hI s a hs) h.head).mp h⟩
    · rintro ⟨hG, h⟩
      have hP' := (hP s a hs hPs).mpr hG
      exact ⟨hPs, (ih (hI s a hs) hP').mpr h⟩

/-- The same with no invariant and no assumption on the first state. -/
theorem always_iff_head_and_eachStep (hP : ∀ s a, P s → (P (step s a) ↔ G s a)) :
    Always step P s as ↔ P s ∧ EachStep step G s as := by
  constructor
  · intro h
    exact ⟨h.head, (always_iff_eachStep (I := fun _ => True) (fun _ _ _ => trivial)
      (fun s a _ => hP s a) trivial h.head).mp h⟩
  · rintro ⟨hs, h⟩
    exact (always_iff_eachStep (I := fun _ => True) (fun _ _ _ => trivial)
      (fun s a _ => hP s a) trivial hs).mpr h

/-- **Exactness for states and steps together**, with an invariant that implies the property and
    is kept by the steps that meet the guard. -/
theorem always_and_eachStep_iff_of_guard (hI : ∀ s a, I s → G s a → I (step s a))
    (hIP : ∀ s, I s → P s) (hP : ∀ s a, I s → (P (step s a) ∧ T s a ↔ G s a)) (hs : I s) :
    Always step P s as ∧ EachStep step T s as ↔ EachStep step G s as := by
  induction as generalizing s with
  | nil => simp [hIP s hs]
  | cons a as ih =>
    rw [always_cons, eachStep_cons, eachStep_cons]
    constructor
    · rintro ⟨⟨-, h⟩, hT, hTs⟩
      have hG := (hP s a hs).mp ⟨h.head, hT⟩
      exact ⟨hG, (ih (hI s a hs hG)).mp ⟨h, hTs⟩⟩
    · rintro ⟨hG, h⟩
      obtain ⟨hall, hTs⟩ := (ih (hI s a hs hG)).mpr h
      exact ⟨⟨hIP s hs, hall⟩, ((hP s a hs).mpr hG).2, hTs⟩

/-- The same where the invariant is only kept by the steps that do what they should. -/
theorem always_and_eachStep_iff (hI : ∀ s a, I s → T s a → I (step s a))
    (hP : ∀ s a, I s → P s → (P (step s a) ∧ T s a ↔ G s a)) (hs : I s) (hPs : P s) :
    Always step P s as ∧ EachStep step T s as ↔ EachStep step G s as := by
  apply always_and_eachStep_iff_of_guard (I := fun s => I s ∧ P s) _ (fun _ h => h.2)
    (fun s a h => hP s a h.1 h.2) ⟨hs, hPs⟩
  rintro s a ⟨hinv, hprop⟩ hG
  obtain ⟨hprop', hT⟩ := (hP s a hinv hprop).mpr hG
  exact ⟨hI s a hinv hT, hprop'⟩

/-- Two step properties that agree wherever a third one holds hold of the same runs among those
    whose steps all have the third. -/
theorem eachStep_congr (hT : ∀ s a, H s a → (T s a ↔ G s a)) (h : EachStep step H s as) :
    EachStep step T s as ↔ EachStep step G s as := by
  induction as generalizing s with
  | nil => exact Iff.rfl
  | cons a as ih => rw [eachStep_cons, eachStep_cons, hT s a h.1, ih h.2]

/-- A run stays where it began exactly when none of its steps moves. -/
theorem always_eq_iff : Always step (· = s) s as ↔ EachStep step (fun s a => step s a = s) s as :=
  always_iff_eachStep (I := fun _ => True) (fun _ _ _ => trivial) (fun x a _ hx => by rw [hx])
    trivial rfl

/-- A property that, once lost, stays lost holds all along a run exactly when it holds at the
    end. -/
theorem always_iff_final (hP : ∀ s a, P (step s a) → P s) :
    Always step P s as ↔ P (Run.final step s as) := by
  induction as generalizing s with
  | nil => exact Iff.rfl
  | cons a as ih =>
    rw [always_cons, ih, final_cons, and_iff_right_iff_imp, ← ih]
    exact fun h => hP s a h.head

/-- **Exactness for steps.** Two step properties that agree wherever the invariant holds
    hold of the same runs. -/
theorem eachStep_iff_eachStep (hI : ∀ s a, I s → I (step s a))
    (hT : ∀ s a, I s → (T s a ↔ G s a)) (hs : I s) :
    EachStep step T s as ↔ EachStep step G s as := by
  induction as generalizing s with
  | nil => simp
  | cons a as ih => rw [eachStep_cons, eachStep_cons, hT s a hs, ih (hI s a hs)]

/-- The same where only the steps with the property keep the invariant. -/
theorem eachStep_iff_of_kept (hI : ∀ s a, I s → T s a → I (step s a))
    (hT : ∀ s a, I s → (T s a ↔ G s a)) (hs : I s) :
    EachStep step T s as ↔ EachStep step G s as := by
  induction as generalizing s with
  | nil => exact Iff.rfl
  | cons a as ih =>
    rw [eachStep_cons, eachStep_cons, ← hT s a hs]
    apply and_congr_right
    intro h
    exact ih (hI s a hs h)

end

end Run

/-- Of several parties one moves: its entry is the new one, every other entry the old one. -/
theorem getElem?_set_cases {α : Type*} {l : List α} {i j : Nat} {x y : α}
    (h : (l.set i x)[j]? = some y) : (j = i ∧ y = x) ∨ (j ≠ i ∧ l[j]? = some y) := by
  by_cases hij : i = j
  · subst hij
    have hlt : i < l.length := by
      have hset := (List.getElem?_eq_some_iff.mp h).1
      rwa [List.length_set] at hset
    rw [List.getElem?_set_self hlt] at h
    exact .inl ⟨rfl, (Option.some.inj h).symm⟩
  · rw [List.getElem?_set_ne hij] at h
    exact .inr ⟨Ne.symm hij, h⟩

/-- One more party joins, behind the others. -/
theorem getElem?_append_cases {α : Type*} {l : List α} {j : Nat} {x y : α}
    (h : (l ++ [x])[j]? = some y) : l[j]? = some y ∨ (j = l.length ∧ y = x) := by
  rcases Nat.lt_trichotomy j l.length with hlt | rfl | hgt
  · rw [List.getElem?_append_left hlt] at h
    exact .inl h
  · rw [List.getElem?_concat_length] at h
    exact .inr ⟨rfl, (Option.some.inj h).symm⟩
  · rw [List.getElem?_eq_none (by rw [List.length_append]; exact hgt)] at h
    exact nomatch h

/-- Two interleavings of the same streams are the same items in another order. -/
theorem perm_of_filter_eq {α β : Type*} [DecidableEq α] [DecidableEq β] {f : α → β}
    {l m : List α} (h : ∀ b, l.filter (f · = b) = m.filter (f · = b)) : l.Perm m := by
  rw [List.perm_iff_count]
  intro x
  have hcount : ∀ k : List α, (k.filter (f · = f x)).count x = k.count x := fun k =>
    List.count_filter (by simp)
  rw [← hcount l, ← hcount m, h (f x)]
