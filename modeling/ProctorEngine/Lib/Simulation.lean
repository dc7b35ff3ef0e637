import ProctorEngine.Lib.Run

/-!
# Forward simulation by an abstraction function

A fine system does in many steps what a coarse one does in one. If every fine step is, seen
through the abstraction function, one coarse step or none, then every fine run is a coarse run,
and **what is known of all coarse runs is known of the fine ones**. The translation of a step may
look at the state it is taken from, and the simulation may rest on an invariant of the fine
system.
-/

set_option autoImplicit false

namespace Simulation

open Run

variable {σ τ α β : Type*}

/-- The coarse steps of a fine run. -/
def coarse (step : σ → α → σ) (translate : σ → α → Option β) : σ → List α → List β
  | _, [] => []
  | s, a :: as => (translate s a).toList ++ coarse step translate (step s a) as

/-- Where the invariant holds, a fine step is one coarse step or none. -/
def Simulates (step : σ → α → σ) (I : σ → Prop) (coarseStep : τ → β → τ) (abs : σ → τ)
    (translate : σ → α → Option β) : Prop :=
  ∀ s a, I s → abs (step s a) = final coarseStep (abs s) (translate s a).toList

section
variable {step : σ → α → σ} {coarseStep : τ → β → τ} {abs : σ → τ}
  {translate : σ → α → Option β} {I : σ → Prop} {G : τ → β → Prop} {P : τ → Prop} {s : σ}
  {as : List α}

/-- A guard on the coarse steps, read on the fine ones. -/
def Guarded (abs : σ → τ) (translate : σ → α → Option β) (G : τ → β → Prop) (s : σ) (a : α) :
    Prop :=
  ∀ b ∈ translate s a, G (abs s) b

theorem final_coarse (hsim : Simulates step I coarseStep abs translate)
    (hI : ∀ s a, I s → I (step s a)) (hs : I s) :
    final coarseStep (abs s) (coarse step translate s as) = abs (final step s as) := by
  induction as generalizing s with
  | nil => rfl
  | cons a as ih => rw [coarse, final_append, ← hsim s a hs, ih (hI s a hs), final_cons]

theorem eachStep_coarse (hsim : Simulates step I coarseStep abs translate)
    (hI : ∀ s a, I s → I (step s a)) (hs : I s)
    (hG : EachStep step (Guarded abs translate G) s as) :
    EachStep coarseStep G (abs s) (coarse step translate s as) := by
  induction as generalizing s with
  | nil => trivial
  | cons a as ih =>
    have htail := ih (hI s a hs) hG.2
    rw [hsim s a hs] at htail
    rw [coarse]
    cases hb : translate s a with
    | none =>
      rw [hb] at htail
      exact htail
    | some b =>
      rw [hb] at htail
      exact ⟨hG.1 b hb, htail⟩

/-- **What holds all along the coarse run holds all along the fine one.** -/
theorem always_of_coarse (hsim : Simulates step I coarseStep abs translate)
    (hI : ∀ s a, I s → I (step s a)) (hs : I s)
    (hP : Always coarseStep P (abs s) (coarse step translate s as)) :
    Always step (fun s => P (abs s)) s as := by
  induction as generalizing s with
  | nil => exact hP
  | cons a as ih =>
    refine ⟨hP.head, ih (hI s a hs) ?_⟩
    rw [hsim s a hs]
    rw [coarse, always_append] at hP
    exact hP.2

end

end Simulation
