import ProctorEngine.Fusion.Firing
import ProctorEngine.Fusion.Interleaving

/-!
# The score path

Six rules add to the accumulated score, each in its own method. The score a session has is the
sum of the deltas its decisions carry, and a decision carries one exactly if it is on the score
path (`score_accounting`).

Path 3 is asked about after every addition and remembers nothing, unlike the rules that latch. **It
speaks once, on the crossing, exactly if no rule of the score path fires in a session that has
reached the threshold before** (`onceOnCrossing_iff`); every later firing repeats it.
-/

set_option autoImplicit false

namespace ProctorEngine
namespace SessionAggregator

/-! ## 1. Accounting

One call moves the score by the delta of what it raises; over a run the deltas add up. Path 3's
decision has no delta, so it may be counted in. -/

section
variable {policy : PolicySnapshot} {ctx : SessionContext} {a : SessionAggregator}
  {e : InferenceEvent} {es : List InferenceEvent}

/-- What a call makes of the score and of Path 3. -/
structure Accounts (policy : PolicySnapshot) (a : SessionAggregator)
    (result : List FlagDecision × SessionAggregator) : Prop where
  score : result.2.accumulatedScore = a.accumulatedScore + scoreTotal result.1
  onPath : ∀ d ∈ result.1, d.OnScorePath → d.scoreDelta = policy.weightFor d.ruleCode
  offPath : ∀ d ∈ result.1, ¬ d.OnScorePath → d.scoreDelta = 0
  pathThree : (∃ p ∈ result.1, p.IsPathThree) ↔ (∃ d ∈ result.1, d.OnScorePath) ∧
    0 < policy.mediumScoreTerminationThreshold ∧
    policy.mediumScoreTerminationThreshold ≤ result.2.accumulatedScore
  terminates : ∀ p ∈ result.1, p.IsPathThree →
    (p.triggeredTermination = true ↔ policy.mediumScoreAction = .autoTerminate)

/-- What Path 3 decides. -/
structure PathThreeDecision (policy : PolicySnapshot) (p : FlagDecision) : Prop where
  isPathThree : p.IsPathThree
  delta : p.scoreDelta = 0
  offPath : ¬ p.OnScorePath
  terminates : p.triggeredTermination = true ↔ policy.mediumScoreAction = .autoTerminate

theorem checkAccumulatedThreshold_cases (policy : PolicySnapshot) (score : ℚ) (ids : List UUID) :
    (0 < policy.mediumScoreTerminationThreshold ∧
      policy.mediumScoreTerminationThreshold ≤ score ∧
      ∃ p, checkAccumulatedThreshold policy score ids = some p ∧ PathThreeDecision policy p) ∨
    (¬ (0 < policy.mediumScoreTerminationThreshold ∧
      policy.mediumScoreTerminationThreshold ≤ score) ∧
      checkAccumulatedThreshold policy score ids = none) := by
  cases hcheck : checkAccumulatedThreshold policy score ids with
  | none => exact .inr ⟨checkAccumulatedThreshold_eq_none_iff.mp hcheck, rfl⟩
  | some p =>
    obtain ⟨hon, hreached, rfl⟩ := checkAccumulatedThreshold_eq_some_iff.mp hcheck
    refine .inl ⟨hon, hreached, _, rfl, ?_⟩
    exact ⟨rfl, rfl, not_onScorePath (by simp), decide_eq_true_iff⟩

/-- The two shapes of an answer on the score path. -/
theorem accounts_process (policy : PolicySnapshot) (ctx : SessionContext) (a : SessionAggregator)
    (e : InferenceEvent) : Accounts policy a (a.process policy ctx e) := by
  have hraises : Raises policy a (a.process policy ctx e) := process_raises e
  have hscore := hraises.score
  have heffect := process_effect policy ctx a e
  generalize a.process policy ctx e = result at hscore heffect
  cases heffect with
  | silent _ _ =>
    exact ⟨hscore, by simp, by simp, by simp, by simp⟩
  | @aside d a' _ _ ruleCode _ delta offPath _ =>
    have hother : ¬ d.IsPathThree := fun h => e.ruleCode_ne (ruleCode.symm.trans h)
    exact ⟨hscore, by simp [offPath], by simp [delta], by simp [hother, offPath], by simp [hother]⟩
  -- The one case in which Path 3 is asked; its own decision adds nothing to the score.
  | @medium d a' _ _ ruleCode _ delta onPath score =>
    have hother : ¬ d.IsPathThree := fun h => e.ruleCode_ne (ruleCode.symm.trans h)
    rw [← ruleCode] at delta
    have hcases := checkAccumulatedThreshold_cases policy (a'.accumulatedScore + d.scoreDelta)
      d.contributingEventIds
    simp only [raiseMedium] at hscore ⊢
    rcases hcases with ⟨hpositive, hreached, p, hcheck, hp⟩ | ⟨hnot, hcheck⟩
    · rw [hcheck] at hscore ⊢
      refine ⟨hscore, ?_, ?_, ?_, ?_⟩
      · simp [delta, hp.offPath]
      · simp [onPath, hp.delta]
      · simp [hp.isPathThree, onPath, hpositive, hreached]
      · simp [hother, hp.terminates]
    · rw [hcheck] at hscore ⊢
      refine ⟨hscore, by simp [delta], by simp [onPath], ?_, by simp [hother]⟩
      simp [hother, onPath, hnot]

theorem decisions_append {fs : List InferenceEvent} :
    decisions policy ctx a (es ++ fs) = decisions policy ctx a es ++
      decisions policy ctx (Run.final (step policy ctx) a es) fs := by
  rw [decisions_eq_flatMap, answers_append, List.flatMap_append, ← decisions_eq_flatMap,
    ← decisions_eq_flatMap]

theorem decisions_singleton : decisions policy ctx a [e] = (a.process policy ctx e).1 :=
  List.append_nil _

theorem final_score :
    (Run.final (step policy ctx) a es).accumulatedScore =
      a.accumulatedScore + scoreTotal (decisions policy ctx a es) := by
  induction es generalizing a with
  | nil => simp [decisions]
  | cons e es ih =>
    have hstep : (a.step policy ctx e).accumulatedScore = _ :=
      (accounts_process policy ctx a e).score
    rw [Run.final_cons, ih, hstep, decisions, scoreTotal_append, add_assoc]
    rfl

theorem decisions_delta {d : FlagDecision} (h : d ∈ decisions policy ctx a es) :
    (d.OnScorePath → d.scoreDelta = policy.weightFor d.ruleCode) ∧
      (¬ d.OnScorePath → d.scoreDelta = 0) := by
  induction es generalizing a with
  | nil => exact absurd h List.not_mem_nil
  | cons e es ih =>
    rcases List.mem_append.mp h with h | h
    · exact ⟨(accounts_process policy ctx a e).onPath d h,
        (accounts_process policy ctx a e).offPath d h⟩
    · exact ih h

end

/-- **The score is accounted for.** After any run it is the sum of the deltas of the decisions
    raised; a decision carries its rule's weight if it is on the score path and nothing
    otherwise; and a call raises Path 3 exactly if it raises a decision on the score path and
    leaves the score at the threshold or above. -/
theorem score_accounting (policy : PolicySnapshot) (ctx : SessionContext)
    (es : List InferenceEvent) :
    (Run.final (step policy ctx) new es).accumulatedScore =
        scoreTotal (decisions policy ctx new es) ∧
      (∀ d ∈ decisions policy ctx new es,
        (d.OnScorePath → d.scoreDelta = policy.weightFor d.ruleCode) ∧
        (¬ d.OnScorePath → d.scoreDelta = 0)) ∧
      (∀ d ∈ decisions policy ctx new es,
        d.severity = suppressedSeverity ∨ d.severity = "critical" ∨
            (d.ruleCode = "browser_event" ∧ ¬ ∃ eventType ∈ browserAccumulationEvents,
              Json.get? d.detail "browser_event_type" = some (.str eventType)) →
          d.scoreDelta = 0) ∧
      ∀ e, Accounts policy (Run.final (step policy ctx) new es)
        ((Run.final (step policy ctx) new es).process policy ctx e) := by
  refine ⟨?_, fun d hd => decisions_delta hd, ?_, fun e => accounts_process policy ctx _ e⟩
  · rw [final_score]
    exact zero_add _
  · intro d hd hzero
    apply (decisions_delta hd).2
    rintro ⟨hmedium, -, hbrowser⟩
    rcases hzero with hlow | hcritical | ⟨hrule, hother⟩
    · exact absurd (hmedium.symm.trans hlow) (by decide)
    · exact absurd (hmedium.symm.trans hcritical) (by decide)
    · exact hother (hbrowser hrule)

/-! ## 2. Path 3 on the crossing

A firing that finds the threshold reached raises Path 3 again, so the condition allows none
after the first. -/

section
variable (policy : PolicySnapshot) (ctx : SessionContext)

/-- The score after a run. -/
def scoreAfter (es : List InferenceEvent) : ℚ :=
  (Run.final (step policy ctx) new es).accumulatedScore

/-- The call raises Path 3 after the run. -/
def RaisesPathThree (es : List InferenceEvent) (e : InferenceEvent) : Prop :=
  ∃ p ∈ ((Run.final (step policy ctx) new es).process policy ctx e).1, p.IsPathThree

/-- Path 3 is raised once at most, by a call that takes the score from below the threshold to it
    or above. -/
structure OnceOnCrossing (es : List InferenceEvent) : Prop where
  once : (decisions policy ctx new es).countP (·.IsPathThree) ≤ 1
  onCrossing : ∀ pre e post, es = pre ++ e :: post → RaisesPathThree policy ctx pre e →
    scoreAfter policy ctx pre < policy.mediumScoreTerminationThreshold ∧
      policy.mediumScoreTerminationThreshold ≤ scoreAfter policy ctx (pre ++ [e])

/-- A rule of the score path whose weight takes the score to the threshold, or finds it there,
    fires only in a session that has not been there before. -/
def ReachesOnce (es : List InferenceEvent) : Prop :=
  ∀ pre e post, es = pre ++ e :: post →
    RuleFires policy ctx (Run.final (step policy ctx) new pre) e →
    ReachesThreshold policy ctx (Run.final (step policy ctx) new pre) e →
      ∀ earlier, earlier <+: pre →
        scoreAfter policy ctx earlier < policy.mediumScoreTerminationThreshold

end

section
variable {policy : PolicySnapshot} {ctx : SessionContext} {a : SessionAggregator}
  {e : InferenceEvent} {es : List InferenceEvent}

/-- Path 3 is raised exactly by a rule that fires and reaches the threshold, and then once. -/
theorem process_pathThree :
    ((∃ p ∈ (a.process policy ctx e).1, p.IsPathThree) ↔
        RuleFires policy ctx a e ∧ ReachesThreshold policy ctx a e) ∧
      (a.process policy ctx e).1.countP (·.IsPathThree) ≤ 1 := by
  have heffect := process_effect policy ctx a e
  generalize a.process policy ctx e = result at heffect
  cases heffect with
  | silent idle _ => exact ⟨iff_of_false (by simp) fun h => idle h.1, by simp⟩
  | @aside d a' _ keeps ruleCode _ _ _ _ =>
    have hother : ¬ d.IsPathThree := fun h => e.ruleCode_ne (ruleCode.symm.trans h)
    exact ⟨iff_of_false (by simp [hother]) fun h => keeps h.2.1, by simp [hother]⟩
  | @medium d a' fires adds ruleCode _ delta _ score =>
    have hother : ¬ d.IsPathThree := fun h => e.ruleCode_ne (ruleCode.symm.trans h)
    have hcases := checkAccumulatedThreshold_cases policy (a'.accumulatedScore + d.scoreDelta)
      d.contributingEventIds
    simp only [raiseMedium]
    rcases hcases with ⟨hpositive, hreached, p, hcheck, hp⟩ | ⟨hnot, hcheck⟩
    · rw [hcheck]
      rw [score, delta] at hreached
      exact ⟨iff_of_true (by simp [hp.isPathThree]) ⟨fires, adds, hpositive, hreached⟩,
        by simp [hother, hp.isPathThree]⟩
    · rw [hcheck]
      rw [score, delta] at hnot
      exact ⟨iff_of_false (by simp [hother]) fun h => hnot h.2.2, by simp [hother]⟩

theorem raisesPathThree_iff :
    RaisesPathThree policy ctx es e ↔ RuleFires policy ctx (Run.final (step policy ctx) new es) e ∧
      ReachesThreshold policy ctx (Run.final (step policy ctx) new es) e :=
  process_pathThree.1

/-- The number of Path-3 decisions of a run. -/
theorem countP_append_singleton :
    (decisions policy ctx new (es ++ [e])).countP (·.IsPathThree) =
      (decisions policy ctx new es).countP (·.IsPathThree) +
        ((Run.final (step policy ctx) new es).process policy ctx e).1.countP (·.IsPathThree) := by
  rw [decisions_append, List.countP_append, decisions_singleton]

theorem scoreAfter_append_singleton :
    scoreAfter policy ctx (es ++ [e]) =
      ((Run.final (step policy ctx) new es).process policy ctx e).2.accumulatedScore := by
  unfold scoreAfter
  rw [Run.final_append]
  rfl

/-- A raising call leaves the score at the threshold. -/
theorem RaisesPathThree.reached (h : RaisesPathThree policy ctx es e) :
    policy.mediumScoreTerminationThreshold ≤ scoreAfter policy ctx (es ++ [e]) := by
  rw [scoreAfter_append_singleton]
  exact ((accounts_process policy ctx _ e).pathThree.mp h).2.2

/-- A session that stayed below the threshold has seen no Path 3. -/
theorem countP_eq_zero (h : ∀ earlier, earlier <+: es →
    scoreAfter policy ctx earlier < policy.mediumScoreTerminationThreshold) :
    (decisions policy ctx new es).countP (·.IsPathThree) = 0 := by
  induction es using List.reverseRecOn with
  | nil => rfl
  | append_singleton es e ih =>
    have hnot : ¬ RaisesPathThree policy ctx es e := fun hraises =>
      absurd (h _ List.prefix_rfl) (not_lt.mpr hraises.reached)
    have hzero := ih fun earlier hle => h earlier (hle.trans (List.prefix_append _ _))
    rw [countP_append_singleton, hzero, List.countP_eq_zero.mpr]
    intro p hp hpath
    exact hnot ⟨p, hp, by simpa using hpath⟩

/-- A session that reached the threshold has seen Path 3: the score came there by a decision. -/
theorem countP_pos (hpositive : 0 < policy.mediumScoreTerminationThreshold)
    (h : policy.mediumScoreTerminationThreshold ≤ scoreAfter policy ctx es) :
    0 < (decisions policy ctx new es).countP (·.IsPathThree) := by
  induction es using List.reverseRecOn with
  | nil => exact absurd hpositive (not_lt.mpr h)
  | append_singleton es e ih =>
    rw [countP_append_singleton]
    by_cases hbefore : policy.mediumScoreTerminationThreshold ≤ scoreAfter policy ctx es
    · exact Nat.add_pos_left (ih hbefore) _
    · have haccounts := accounts_process policy ctx (Run.final (step policy ctx) new es) e
      rw [scoreAfter_append_singleton] at h
      -- the score moved, so a decision of the call carries a delta
      have hmoved : ∃ d ∈ ((Run.final (step policy ctx) new es).process policy ctx e).1,
          d.OnScorePath := by
        by_contra hnone
        have hzero : scoreTotal ((Run.final (step policy ctx) new es).process policy ctx e).1 = 0 :=
          scoreTotal_eq_zero fun d hd => haccounts.offPath d hd fun hon => hnone ⟨d, hd, hon⟩
        rw [haccounts.score, hzero, add_zero] at h
        exact hbefore h
      obtain ⟨p, hp, hpath⟩ := haccounts.pathThree.mpr ⟨hmoved, hpositive, h⟩
      apply Nat.add_pos_right
      exact List.countP_pos_iff.mpr ⟨p, hp, by simpa using hpath⟩

end

/-- **Path 3 speaks once, on the crossing, exactly if no rule of the score path fires at the
    threshold in a session that has reached it before.** The total is compared with the threshold
    whenever a rule adds to it, and no latch remembers that it was passed. -/
theorem onceOnCrossing_iff (policy : PolicySnapshot) (ctx : SessionContext)
    (hpositive : 0 < policy.mediumScoreTerminationThreshold) (es : List InferenceEvent) :
    OnceOnCrossing policy ctx es ↔ ReachesOnce policy ctx es := by
  constructor
  · intro h pre e post hsplit hfires hreaches earlier hle
    by_contra hthere
    -- two decisions: one on the way to `earlier`, one by `e`
    have hraises : RaisesPathThree policy ctx pre e := raisesPathThree_iff.mpr ⟨hfires, hreaches⟩
    obtain ⟨rest, rfl⟩ := hle
    have hfirst : 0 < (decisions policy ctx new earlier).countP (·.IsPathThree) :=
      countP_pos hpositive (not_lt.mp hthere)
    have hsecond : 0 < ((Run.final (step policy ctx) new (earlier ++ rest)).process policy ctx
        e).1.countP (·.IsPathThree) := by
      obtain ⟨p, hp, hpath⟩ := hraises
      exact List.countP_pos_iff.mpr ⟨p, hp, by simpa using hpath⟩
    have honce := h.once
    have hlist : es = (earlier ++ rest) ++ [e] ++ post := by simp [hsplit]
    rw [hlist, decisions_append, List.countP_append, countP_append_singleton, decisions_append,
      List.countP_append] at honce
    omega
  · intro h
    constructor
    · induction es using List.reverseRecOn with
      | nil => exact Nat.zero_le 1
      | append_singleton es e ih =>
        rw [countP_append_singleton]
        by_cases hraises : RaisesPathThree policy ctx es e
        · obtain ⟨hfires, hreaches⟩ := raisesPathThree_iff.mp hraises
          have hbelow := h es e [] rfl hfires hreaches
          rw [countP_eq_zero hbelow, Nat.zero_add]
          exact process_pathThree.2
        · have hnone : ((Run.final (step policy ctx) new es).process policy ctx e).1.countP
              (·.IsPathThree) = 0 := by
            apply List.countP_eq_zero.mpr
            intro p hp hpath
            exact hraises ⟨p, hp, by simpa using hpath⟩
          rw [hnone, Nat.add_zero]
          apply ih
          intro pre x post hsplit
          exact h pre x (post ++ [e]) (by simp [hsplit])
    · intro pre e post hsplit hraises
      obtain ⟨hfires, hreaches⟩ := raisesPathThree_iff.mp hraises
      exact ⟨h pre e post hsplit hfires hreaches pre List.prefix_rfl, hraises.reached⟩

theorem onceOnCrossing_iff_default :
    OnceOnCrossing defaultPolicy someContext [strangerAt 1, spoofAt 2] ↔
      ReachesOnce defaultPolicy someContext [strangerAt 1, spoofAt 2] :=
  onceOnCrossing_iff _ _ (by decide +kernel) _

/-- The page loses the focus. -/
def blurAt (id : UUID) : InferenceEvent := .browserEvent ⟨"blur", .certain, []⟩ id

/-- At a threshold of one, the second time the page loses the focus repeats Path 3. -/
theorem pathThree_repeats :
    ¬ ∀ policy ctx, 0 < policy.mediumScoreTerminationThreshold →
      ∀ es, OnceOnCrossing policy ctx es := by
  intro h
  have honce := (h { defaultPolicy with mediumScoreTerminationThreshold := 1 } someContext
    (by decide +kernel) [blurAt 1, blurAt 2]).once
  exact absurd honce (by decide +kernel)

end SessionAggregator
end ProctorEngine
