import ProctorEngine.Fusion.Effects

/-!
# The accumulated score and Path 3

Every way a result can move the score is `raiseMedium`, so one inversion (`process_raises`)
says what a call does to it. From it follows what a whole sequence does: the score grows by
exactly the deltas of the decisions raised, and **the Path-3 decision follows the decision that
takes the running total to the threshold, and none before it** (`Punctual`).
-/

set_option autoImplicit false

namespace ProctorEngine

/-! ## 1. Totals

Sums over decisions. -/

/-- The sum of the score deltas of some decisions. -/
def scoreTotal (ds : List FlagDecision) : ℚ := (ds.map (·.scoreDelta)).sum

@[simp] theorem scoreTotal_nil : scoreTotal [] = 0 := rfl

@[simp] theorem scoreTotal_cons {d : FlagDecision} {ds : List FlagDecision} :
    scoreTotal (d :: ds) = d.scoreDelta + scoreTotal ds := List.sum_cons

@[simp] theorem scoreTotal_append {ds es : List FlagDecision} :
    scoreTotal (ds ++ es) = scoreTotal ds + scoreTotal es := by
  simp [scoreTotal]

theorem scoreTotal_eq_zero {ds : List FlagDecision} (h : ∀ d ∈ ds, d.scoreDelta = 0) :
    scoreTotal ds = 0 := by
  induction ds with
  | nil => rfl
  | cons d ds ih =>
    rw [scoreTotal_cons, h d List.mem_cons_self, ih fun x hx => h x (List.mem_cons_of_mem d hx),
      add_zero]

theorem scoreTotal_nonneg {ds : List FlagDecision} (h : ∀ d ∈ ds, 0 ≤ d.scoreDelta) :
    0 ≤ scoreTotal ds := List.sum_nonneg (by simpa using h)

/-- A total of non-negative deltas is zero only if each of them is. -/
theorem eq_zero_of_scoreTotal {ds : List FlagDecision} (h : ∀ d ∈ ds, 0 ≤ d.scoreDelta)
    (hzero : scoreTotal ds = 0) : ∀ d ∈ ds, d.scoreDelta = 0 := by
  induction ds with
  | nil => exact fun d hd => absurd hd List.not_mem_nil
  | cons d ds ih =>
    obtain ⟨hd, hds⟩ := List.forall_mem_cons.mp h
    have hrest := scoreTotal_nonneg hds
    rw [scoreTotal_cons] at hzero
    exact List.forall_mem_cons.mpr ⟨by linarith, ih hds (by linarith)⟩

/-! ## 2. Punctual sequences

Read from the front with a running total, so two sequences go together where the first one ends. -/

/-- A sequence of decisions, judged with a running total: one that adds to the score and takes
    it to the threshold is followed by the Path-3 decision, and that decision comes only so. -/
inductive Punctual (threshold : ℚ) : ℚ → List FlagDecision → Prop
  | nil {total : ℚ} : Punctual threshold total []
  | short {total : ℚ} {d : FlagDecision} {ds : List FlagDecision} (other : ¬ d.IsPathThree)
      (adds : d.scoreDelta = 0 ∨ total + d.scoreDelta < threshold)
      (rest : Punctual threshold (total + d.scoreDelta) ds) : Punctual threshold total (d :: ds)
  | reached {total : ℚ} {d p : FlagDecision} {ds : List FlagDecision} (other : ¬ d.IsPathThree)
      (reaches : threshold ≤ total + d.scoreDelta) (pathThree : p.IsPathThree)
      (free : p.scoreDelta = 0) (rest : Punctual threshold (total + d.scoreDelta) ds) :
      Punctual threshold total (d :: p :: ds)

namespace Punctual

variable {threshold total : ℚ} {ds es : List FlagDecision}

theorem append (h : Punctual threshold total ds)
    (h' : Punctual threshold (total + scoreTotal ds) es) : Punctual threshold total (ds ++ es) := by
  induction h with
  | nil => simpa using h'
  | short other adds _ ih =>
    refine .short other adds (ih ?_)
    rwa [scoreTotal_cons, ← add_assoc] at h'
  | reached other reaches pathThree free _ ih =>
    refine .reached other reaches pathThree free (ih ?_)
    rwa [scoreTotal_cons, scoreTotal_cons, free, zero_add, ← add_assoc] at h'

/-- Decisions that add nothing and are not Path 3's are punctual at any total. -/
theorem of_free (h : ∀ d ∈ ds, d.scoreDelta = 0 ∧ ¬ d.IsPathThree) :
    Punctual threshold total ds := by
  induction ds with
  | nil => exact .nil
  | cons d ds ih =>
    obtain ⟨hzero, hother⟩ := h d List.mem_cons_self
    refine .short hother (.inl hzero) ?_
    rw [hzero, add_zero]
    exact ih fun x hx => h x (List.mem_cons_of_mem d hx)

/-- Short of the threshold, a sequence that adds nothing has no Path-3 decision. -/
theorem not_pathThree (h : Punctual threshold total ds) (hshort : total < threshold)
    (hzero : ∀ d ∈ ds, d.scoreDelta = 0) : ∀ d ∈ ds, ¬ d.IsPathThree := by
  induction h with
  | nil => exact fun d hd => absurd hd List.not_mem_nil
  | @short total d ds other _ _ ih =>
    have hd := hzero d List.mem_cons_self
    rw [hd, add_zero] at ih
    intro x hx
    rcases List.mem_cons.mp hx with rfl | hx
    · exact other
    · exact ih hshort (fun y hy => hzero y (List.mem_cons_of_mem d hy)) x hx
  | @reached total d p ds other reaches _ _ _ _ =>
    have hd := hzero d List.mem_cons_self
    rw [hd, add_zero] at reaches
    exact absurd hshort (not_lt.mpr reaches)

/-- **The first decision to reach the threshold is the one that raises Path 3.** -/
theorem first {pre post : List FlagDecision} {d : FlagDecision}
    (h : Punctual threshold total (pre ++ d :: post)) (hnonneg : ∀ x ∈ pre, 0 ≤ x.scoreDelta)
    (hshort : total + scoreTotal pre < threshold)
    (hreach : threshold ≤ total + scoreTotal pre + d.scoreDelta) :
    (∀ x ∈ pre, ¬ x.IsPathThree) ∧ ∃ p ∈ post.head?, p.IsPathThree := by
  induction pre generalizing total with
  | nil =>
    simp only [List.nil_append, scoreTotal_nil, add_zero] at h hshort hreach
    refine ⟨fun x hx => absurd hx List.not_mem_nil, ?_⟩
    cases h with
    | short _ adds _ =>
      rcases adds with hzero | hbelow
      · rw [hzero, add_zero] at hreach
        exact absurd hshort (not_lt.mpr hreach)
      · exact absurd hbelow (not_lt.mpr hreach)
    | @reached _ _ p ds _ _ pathThree _ _ => exact ⟨p, rfl, pathThree⟩
  | cons x pre ih =>
    have hpre : ∀ y ∈ pre, 0 ≤ y.scoreDelta := fun y hy => hnonneg y (List.mem_cons_of_mem x hy)
    rw [scoreTotal_cons, ← add_assoc] at hshort hreach
    -- what comes after `x` only adds, so `x` itself did not reach the threshold
    have hx : total + x.scoreDelta < threshold := by
      have hsum : 0 ≤ scoreTotal pre := scoreTotal_nonneg hpre
      linarith
    generalize hlist : x :: pre ++ d :: post = whole at h
    cases h with
    | nil => exact absurd hlist (by simp)
    | short other _ rest =>
      obtain ⟨rfl, rfl⟩ := List.cons.inj hlist
      obtain ⟨hnone, hpost⟩ := ih rest hpre hshort hreach
      exact ⟨List.forall_mem_cons.mpr ⟨other, hnone⟩, hpost⟩
    | reached _ reaches _ _ _ =>
      obtain ⟨rfl, -⟩ := List.cons.inj hlist
      exact absurd hx (not_lt.mpr reaches)

end Punctual

/-! ## 3. One result

What `Effect` says, with everything but the score forgotten. -/

namespace SessionAggregator

/-- What one result does to the score. -/
inductive Raises (policy : PolicySnapshot) (a : SessionAggregator) :
    List FlagDecision × SessionAggregator → Prop
  | free {ds : List FlagDecision} {a' : SessionAggregator}
      (decisions : ∀ d ∈ ds, d.scoreDelta = 0 ∧ ¬ d.IsPathThree)
      (score : a'.accumulatedScore = a.accumulatedScore) : Raises policy a (ds, a')
  | medium {d : FlagDecision} {a' : SessionAggregator}
      (score : a'.accumulatedScore = a.accumulatedScore) (other : ¬ d.IsPathThree)
      (delta : d.scoreDelta = policy.weightFor d.ruleCode) :
      Raises policy a (raiseMedium policy a' d)

section
variable {policy : PolicySnapshot} {ctx : SessionContext} {a : SessionAggregator}

/-- **The score moves by `raiseMedium` or not at all.** -/
theorem process_raises (e : InferenceEvent) : Raises policy a (a.process policy ctx e) := by
  have heffect := process_effect policy ctx a e
  generalize a.process policy ctx e = result at heffect
  cases heffect with
  | silent _ score => exact .free (fun _ hx => absurd hx List.not_mem_nil) score
  | aside _ _ ruleCode _ delta _ score =>
    refine .free ?_ score
    intro x hx
    rw [List.mem_singleton.mp hx]
    exact ⟨delta, fun hpath => e.ruleCode_ne (ruleCode.symm.trans hpath)⟩
  | medium _ _ ruleCode _ delta _ score =>
    exact .medium score (fun hpath => e.ruleCode_ne (ruleCode.symm.trans hpath)) (ruleCode ▸ delta)

/-! ## 4. What follows for a call

The score after, the sign of the deltas, and punctuality, together and closed under sequencing. -/

/-- What a call, or a sequence of calls, makes of the score: the deltas of its decisions are
    added, they are punctual from where the score stood, and each is a zero or a one. -/
structure Scores (threshold : ℚ) (before after : SessionAggregator) (ds : List FlagDecision) :
    Prop where
  score : after.accumulatedScore = before.accumulatedScore + scoreTotal ds
  punctual : Punctual threshold before.accumulatedScore ds
  unit : ∀ d ∈ ds, d.scoreDelta = 0 ∨ d.scoreDelta = 1

theorem Scores.refl {threshold : ℚ} : Scores threshold a a [] :=
  ⟨by simp, .nil, fun _ hd => absurd hd List.not_mem_nil⟩

theorem Scores.trans {threshold : ℚ} {b c : SessionAggregator} {ds es : List FlagDecision}
    (h : Scores threshold a b ds) (h' : Scores threshold b c es) :
    Scores threshold a c (ds ++ es) := by
  refine ⟨?_, ?_, ?_⟩
  · rw [h'.score, h.score, scoreTotal_append, add_assoc]
  · exact h.punctual.append (h.score ▸ h'.punctual)
  · intro d hd
    rcases List.mem_append.mp hd with hd | hd
    · exact h.unit d hd
    · exact h'.unit d hd

section
variable {result : List FlagDecision × SessionAggregator}

theorem checkAccumulatedThreshold_pathThree {score : ℚ} {ids : List UUID} {p : FlagDecision}
    (h : checkAccumulatedThreshold policy score ids = some p) :
    p.IsPathThree ∧ p.scoreDelta = 0 ∧ policy.mediumScoreTerminationThreshold ≤ score := by
  obtain ⟨-, hreached, rfl⟩ := checkAccumulatedThreshold_eq_some_iff.mp h
  exact ⟨rfl, rfl, hreached⟩

/-- Path 3 carries none of the score. -/
theorem scoreTotal_raiseMedium {b : SessionAggregator} {d : FlagDecision} :
    scoreTotal (raiseMedium policy b d).1 = d.scoreDelta := by
  have hpath : scoreTotal (checkAccumulatedThreshold policy (b.accumulatedScore + d.scoreDelta)
      d.contributingEventIds).toList = 0 :=
    scoreTotal_eq_zero fun p hp =>
      (checkAccumulatedThreshold_pathThree (Option.mem_toList.mp hp)).2.1
  show scoreTotal (d :: _) = _
  rw [scoreTotal_cons, hpath, add_zero]

/-- The score grows by what the decisions say. -/
theorem Raises.score (h : Raises policy a result) :
    result.2.accumulatedScore = a.accumulatedScore + scoreTotal result.1 := by
  cases h with
  | free decisions score => rw [scoreTotal_eq_zero fun d hd => (decisions d hd).1, add_zero, score]
  | @medium d a' score _ _ =>
    show a'.accumulatedScore + d.scoreDelta = _
    rw [scoreTotal_raiseMedium, score]

theorem Raises.punctual (h : Raises policy a result)
    (hpositive : 0 < policy.mediumScoreTerminationThreshold) :
    Punctual policy.mediumScoreTerminationThreshold a.accumulatedScore result.1 := by
  cases h with
  | free decisions _ => exact .of_free decisions
  | @medium d a' score other _ =>
    show Punctual _ _ (d :: (checkAccumulatedThreshold policy
      (a'.accumulatedScore + d.scoreDelta) d.contributingEventIds).toList)
    rw [score]
    cases hcheck : checkAccumulatedThreshold policy (a.accumulatedScore + d.scoreDelta)
        d.contributingEventIds with
    | some p =>
      obtain ⟨hpath, hfree, hreach⟩ := checkAccumulatedThreshold_pathThree hcheck
      exact .reached other hreach hpath hfree .nil
    | none =>
      refine .short other (.inr ?_) .nil
      -- the path is on, so it was the score that stopped it
      apply not_le.mp
      intro hreached
      exact checkAccumulatedThreshold_eq_none_iff.mp hcheck ⟨hpositive, hreached⟩

/-- **Without weights and with the path on, every call keeps the score.** -/
theorem Raises.scores (h : Raises policy a result) (hweights : policy.scoreWeights = [])
    (hpositive : 0 < policy.mediumScoreTerminationThreshold) :
    Scores policy.mediumScoreTerminationThreshold a result.2 result.1 := by
  refine ⟨h.score, h.punctual hpositive, ?_⟩
  cases h with
  | free decisions _ => exact fun d hd => .inl (decisions d hd).1
  | @medium d a' _ _ delta =>
    intro x hx
    rcases List.mem_cons.mp hx with rfl | hx
    · right
      rw [delta, PolicySnapshot.weightFor, hweights]
      rfl
    · exact .inl (checkAccumulatedThreshold_pathThree (Option.mem_toList.mp hx)).2.1

end

end

end SessionAggregator

end ProctorEngine
