import ProctorEngine.Lib.Streak
import ProctorEngine.Fusion.Firing
import ProctorEngine.Fusion.Interleaving

/-!
# Confirmation windows

Three rules wait for a signal to last: second faces and identity mismatches fire once and stay
silent ever after, failed liveness checks fire once for every full window of a sustained streak.
Faces are followed with a counter and a growing list of ids, identity and liveness with queues that
hold the last few results. **All three are the same window over the results their own method was
given** (`FaceTracked`, `IdentityTracked`, `LivenessTracked`), whatever else the aggregator was
called with in between.

The specification knows no counter and no queue. It is stated over the list of the results so far: a
window is the last `k` of them, it is confirmed when it is full and every result in it has the
property, and a rule that is latched fires at the first result that confirms.

For each rule there is then one lemma about one call, from the list before to the list after it:
what the aggregator keeps is still what the specification says of the longer list, and the call
raised a decision exactly when the specification fires. The runs follow by replaying a modality's
own calls, since the other calls touch nothing of what it keeps.
-/

set_option autoImplicit false

namespace ProctorEngine

open Streak

/-! ## 1. The results of a modality

The results a method was given are those of its events, in their order; the events of the other
modalities are passed over. -/

def InferenceEvent.faceResult? : InferenceEvent → Option (FacePresenceResult × UUID)
  | .facePresence result id => some (result, id)
  | _ => none

def InferenceEvent.livenessResult? : InferenceEvent → Option (LivenessResult × UUID)
  | .liveness result id => some (result, id)
  | _ => none

def InferenceEvent.identityResult? : InferenceEvent → Option (IdentityMatchResult × UUID)
  | .identityMatch result id => some (result, id)
  | _ => none

/-- The results `process_face_presence` was given in a run, each with its event id. -/
def faceResults (es : List InferenceEvent) : List (FacePresenceResult × UUID) :=
  es.filterMap (·.faceResult?)

def livenessResults (es : List InferenceEvent) : List (LivenessResult × UUID) :=
  es.filterMap (·.livenessResult?)

def identityResults (es : List InferenceEvent) : List (IdentityMatchResult × UUID) :=
  es.filterMap (·.identityResult?)

/-- Two or more faces. -/
def ManyFaces (r : FacePresenceResult × UUID) : Bool := 2 ≤ r.1.faceCount

def Spoofed (r : LivenessResult × UUID) : Bool := !r.1.isReal

def Mismatched (policy : PolicySnapshot) (r : IdentityMatchResult × UUID) : Bool :=
  r.1.similarity.val < policy.identitySimilarityThreshold

theorem filterMap_filter_modality {β : Type} {f : InferenceEvent → Option β} {m : Modality}
    (h : ∀ e, e.modality ≠ m → f e = none) (es : List InferenceEvent) :
    (es.filter (·.modality = m)).filterMap f = es.filterMap f := by
  induction es with
  | nil => rfl
  | cons e es ih =>
    by_cases hm : e.modality = m
    · rw [List.filter_cons_of_pos (by simpa using hm), List.filterMap_cons, List.filterMap_cons, ih]
    · rw [List.filter_cons_of_neg (by simpa using hm), ih, List.filterMap_cons_none (h e hm)]

theorem InferenceEvent.faceResult?_eq_none {e : InferenceEvent} (h : e.modality ≠ .facePresence) :
    e.faceResult? = none := by
  cases e with
  | facePresence result id => exact absurd rfl h
  | _ => rfl

theorem faceResults_filter (es : List InferenceEvent) :
    faceResults (es.filter (·.modality = .facePresence)) = faceResults es :=
  filterMap_filter_modality (fun _ h => InferenceEvent.faceResult?_eq_none h) es

theorem InferenceEvent.livenessResult?_eq_none {e : InferenceEvent} (h : e.modality ≠ .liveness) :
    e.livenessResult? = none := by
  cases e with
  | liveness result id => exact absurd rfl h
  | _ => rfl

theorem livenessResults_filter (es : List InferenceEvent) :
    livenessResults (es.filter (·.modality = .liveness)) = livenessResults es :=
  filterMap_filter_modality (fun _ h => InferenceEvent.livenessResult?_eq_none h) es

theorem InferenceEvent.identityResult?_eq_none {e : InferenceEvent}
    (h : e.modality ≠ .identityMatch) : e.identityResult? = none := by
  cases e with
  | identityMatch result id => exact absurd rfl h
  | _ => rfl

theorem identityResults_filter (es : List InferenceEvent) :
    identityResults (es.filter (·.modality = .identityMatch)) = identityResults es :=
  filterMap_filter_modality (fun _ h => InferenceEvent.identityResult?_eq_none h) es

/-! ## 2. The interval of a window

The interval of a decision is made of the window's scores. The mean is clamped between the extremes,
which keeps the triple valid whatever the arithmetic of the mean. -/

/-- The least score, the mean clamped between the extremes, and the greatest score; a triple the
    constructor of `ConfidenceInterval` accepts. -/
structure Summarises (interval : ConfidenceInterval) (scores : List Score) : Prop where
  lower : IsLeast {q | ∃ s ∈ scores, s.val = q} interval.lower
  score : interval.score = max interval.lower
    (min interval.upper ((scores.map (·.val)).sum / scores.length))
  upper : IsGreatest {q | ∃ s ∈ scores, s.val = q} interval.upper
  valid : 0 ≤ interval.lower ∧ interval.lower ≤ interval.score ∧
    interval.score ≤ interval.upper ∧ interval.upper ≤ 1

theorem summarises_ofWindow {s : Score} {ss : List Score} :
    Summarises (.ofWindow s ss) (s :: ss) := by
  have hvals : ∀ q, q ∈ s.val :: ss.map (·.val) → ∃ t ∈ s :: ss, t.val = q := by
    intro q hq
    rw [← List.map_cons (f := fun t : Score => t.val)] at hq
    exact List.mem_map.mp hq
  refine ⟨⟨hvals _ foldl_min_mem, ?_⟩, ?_, ⟨hvals _ foldl_max_mem, ?_⟩, ?_⟩
  -- no score lies below the least
  · rintro q ⟨t, ht, rfl⟩
    rcases List.mem_cons.mp ht with rfl | ht
    · exact foldl_min_le
    · exact foldl_min_le_of_mem (List.mem_map_of_mem ht)
  -- the mean is the code's own
  · show clampedMean s ss = _
    rw [clampedMean, meanScore, List.map_cons, List.sum_cons, List.length_cons]
    push_cast
    rfl
  · rintro q ⟨t, ht, rfl⟩
    rcases List.mem_cons.mp ht with rfl | ht
    · exact le_foldl_max
    · exact le_foldl_max_of_mem (List.mem_map_of_mem ht)
  · exact ⟨ConfidenceInterval.lower_nonneg _, ConfidenceInterval.lower_le_score _,
      ConfidenceInterval.score_le_upper _, ConfidenceInterval.upper_le_one _⟩

namespace SessionAggregator

/-! ## 3. Faces

The counter of the source runs with the streak and stops when the rule has fired, so what it is
after that is not said. -/

/-- A call raises the one decision `expected` describes, or none. -/
structure RaisesExactlyWhen (fires : Prop) (expected : FlagDecision → Prop)
    (ds : List FlagDecision) : Prop where
  raised : fires → ∃ d, ds = [d] ∧ expected d
  silent : ¬ fires → ds = []

section
variable (policy : PolicySnapshot)

/-- The rule is on, and this result confirms a second person for the first time. -/
def FaceFires (rs : List (FacePresenceResult × UUID)) (r : FacePresenceResult × UUID) : Prop :=
  policy.terminateOnSecondFace = true ∧
    Newly policy.secondFaceConfirmationFrames ManyFaces rs r

/-- A decision of the rule over the window that ends with this result. -/
def SecondPerson (rs : List (FacePresenceResult × UUID)) (r : FacePresenceResult × UUID)
    (d : FlagDecision) : Prop :=
  d.ruleCode = "second_person" ∧
    d.contributingEventIds = ((rs ++ [r]).rtake policy.secondFaceConfirmationFrames).map (·.2)

/-- The counter and the ids are those of the streak, until the rule has fired. -/
structure FaceTracked (rs : List (FacePresenceResult × UUID)) (a : SessionAggregator) :
    Prop where
  fired : a.secondPersonFired = true ↔
    policy.terminateOnSecondFace = true ∧ Ever policy.secondFaceConfirmationFrames ManyFaces rs
  streak : a.secondPersonFired = false → policy.terminateOnSecondFace = true →
    a.consecutiveSecondPersonFrames = (rs.rtakeWhile ManyFaces).length ∧
      a.secondPersonEventIds = (rs.rtakeWhile ManyFaces).map (·.2)

end

section
variable {policy : PolicySnapshot} {ctx : SessionContext} {a b : SessionAggregator}
  {id : UUID} {e : InferenceEvent} {es : List InferenceEvent}

theorem raisesExactly_nil {fires : Prop} {expected : FlagDecision → Prop} (h : ¬ fires) :
    RaisesExactlyWhen fires expected [] := ⟨fun hfires => absurd hfires h, fun _ => rfl⟩

theorem faceTracked_call {rs : List (FacePresenceResult × UUID)} {result : FacePresenceResult}
    (hframes : 0 < policy.secondFaceConfirmationFrames) (h : FaceTracked policy rs a) :
    FaceTracked policy (rs ++ [(result, id)]) (a.processFacePresence policy result id).2 ∧
      RaisesExactlyWhen (FaceFires policy rs (result, id))
        (SecondPerson policy rs (result, id)) (a.processFacePresence policy result id).1 := by
  simp only [processFacePresence]
  by_cases hfired : a.secondPersonFired = true
  · -- fired before, so confirmed before
    rw [if_pos hfired]
    obtain ⟨hon, hever⟩ := h.fired.mp hfired
    refine ⟨⟨iff_of_true hfired ⟨hon, ever_append_singleton.mpr (.inl hever)⟩, ?_⟩, ?_⟩
    · intro hnot
      exact absurd (hfired.symm.trans hnot) (by decide)
    · exact raisesExactly_nil fun hfires => (newly_iff.mp hfires.2).1 hever
  rw [if_neg hfired]
  by_cases hon : policy.terminateOnSecondFace = true
  · rw [if_neg (not_not.mpr hon)]
    have hnone : ¬ Ever policy.secondFaceConfirmationFrames ManyFaces rs :=
      fun hever => hfired (h.fired.mpr ⟨hon, hever⟩)
    obtain ⟨hcount, hids⟩ := h.streak (by simpa using hfired) hon
    -- two faces or more make the streak longer by this result
    by_cases hmany : 2 ≤ result.faceCount
    · have hface : ManyFaces (result, id) = true := decide_eq_true hmany
      have hstreak : (rs ++ [(result, id)]).rtakeWhile ManyFaces =
          rs.rtakeWhile ManyFaces ++ [(result, id)] := List.rtakeWhile_concat_pos _ _ _ hface
      have hconfirmed : Confirmed policy.secondFaceConfirmationFrames ManyFaces
          (rs ++ [(result, id)]) ↔
          policy.secondFaceConfirmationFrames ≤ a.consecutiveSecondPersonFrames + 1 := by
        rw [confirmed_append_of_pos hface, hcount]
      rw [if_pos hmany]
      by_cases hfull : policy.secondFaceConfirmationFrames ≤ a.consecutiveSecondPersonFrames + 1
      -- the streak fills the window, for the first time
      · rw [if_pos hfull]
        have hnewly : Newly policy.secondFaceConfirmationFrames ManyFaces rs (result, id) :=
          newly_iff.mpr ⟨hnone, hconfirmed.mpr hfull⟩
        refine ⟨⟨iff_of_true rfl ⟨hon, ?_⟩, fun hnot => absurd hnot (by simp)⟩, ?_⟩
        · exact ever_append_singleton.mpr (.inr hnewly.1)
        · refine ⟨fun _ => ⟨_, rfl, rfl, ?_⟩, fun hnot => absurd ⟨hon, hnewly⟩ hnot⟩
          show a.secondPersonEventIds ++ [id] = _
          rw [← hnewly.streak, hstreak, List.map_append, hids]
          rfl
      -- it does not yet
      · rw [if_neg hfull]
        refine ⟨⟨iff_of_false hfired ?_, ?_⟩, ?_⟩
        · rintro ⟨-, hever⟩
          exact not_ever_append_singleton hnone (fun hnow => hfull (hconfirmed.mp hnow)) hever
        · intro _ _
          rw [hstreak, List.length_append, List.length_singleton, List.map_append, ← hcount, ← hids]
          exact ⟨rfl, rfl⟩
        · exact raisesExactly_nil fun hfires => hfull (hconfirmed.mp hfires.2.1)
    · -- one face or none ends the streak
      have hface : ¬ ManyFaces (result, id) = true := mt of_decide_eq_true hmany
      have hstreak : (rs ++ [(result, id)]).rtakeWhile ManyFaces = [] :=
        List.rtakeWhile_concat_neg _ _ _ hface
      have hunconfirmed : ¬ Confirmed policy.secondFaceConfirmationFrames ManyFaces
          (rs ++ [(result, id)]) := not_confirmed_append_of_neg hframes hface
      rw [if_neg hmany]
      refine ⟨⟨iff_of_false hfired ?_, ?_⟩, ?_⟩
      · rintro ⟨-, hever⟩
        exact not_ever_append_singleton hnone hunconfirmed hever
      · intro _ _
        rw [hstreak]
        exact ⟨rfl, rfl⟩
      · exact raisesExactly_nil fun hfires => hunconfirmed hfires.2.1
  · -- the rule is off, and nothing is followed
    rw [if_pos hon]
    refine ⟨⟨iff_of_false hfired fun h => hon h.1, fun _ h => absurd h hon⟩, ?_⟩
    exact raisesExactly_nil fun hfires => hon hfires.1

end

/-! ## 4. Identity

The queue is the window itself, until the rule has fired and the method returns at its first
line. -/

section
variable (policy : PolicySnapshot)

/-- This result confirms a mismatch for the first time. -/
def IdentityFires (rs : List (IdentityMatchResult × UUID)) (r : IdentityMatchResult × UUID) :
    Prop := Newly policy.identityConfirmationFrames (Mismatched policy) rs r

/-- A decision of the rule over the window that ends with this result. -/
def IdentityMismatch (rs : List (IdentityMatchResult × UUID)) (r : IdentityMatchResult × UUID)
    (d : FlagDecision) : Prop :=
  d.ruleCode = "identity_mismatch" ∧
    d.contributingEventIds = ((rs ++ [r]).rtake policy.identityConfirmationFrames).map (·.2) ∧
    Summarises d.confidence
      (((rs ++ [r]).rtake policy.identityConfirmationFrames).map (·.1.similarity))

/-- The queue holds the last results, until the rule has fired. -/
structure IdentityTracked (rs : List (IdentityMatchResult × UUID)) (a : SessionAggregator) :
    Prop where
  fired : a.identityMismatchFired = true ↔
    Ever policy.identityConfirmationFrames (Mismatched policy) rs
  window : a.identityMismatchFired = false →
    a.identityWindow = rs.rtake policy.identityConfirmationFrames

end

section
variable {policy : PolicySnapshot} {ctx : SessionContext} {a b : SessionAggregator}
  {id : UUID} {e : InferenceEvent} {es : List InferenceEvent}

theorem slide_rtake {α : Type} {k : Nat} {l : List α} {x : α} :
    slide k (l.rtake k) x = (l ++ [x]).rtake k := slide_eq_rtake

/-- What a full window of items with the property looks like to a program. -/
theorem confirmed_iff_window {α : Type} {k : Nat} {p : α → Bool} {l : List α} :
    Confirmed k p l ↔ ¬ (l.rtake k).length < k ∧ ¬ ((l.rtake k).any fun x => !p x) = true := by
  have hlength : k ≤ l.length ↔ ¬ (l.rtake k).length < k := by
    rw [length_rtake]
    omega
  unfold Confirmed
  rw [hlength]
  simp

theorem identityTracked_call {rs : List (IdentityMatchResult × UUID)}
    {result : IdentityMatchResult} (h : IdentityTracked policy rs a) :
    IdentityTracked policy (rs ++ [(result, id)]) (a.processIdentityMatch policy result id).2 ∧
      RaisesExactlyWhen (IdentityFires policy rs (result, id))
        (IdentityMismatch policy rs (result, id))
        (a.processIdentityMatch policy result id).1 := by
  -- fired before, so confirmed before
  by_cases hfired : a.identityMismatchFired = true
  · simp only [processIdentityMatch, if_pos hfired]
    have hever := h.fired.mp hfired
    refine ⟨⟨iff_of_true hfired (ever_append_singleton.mpr (.inl hever)), ?_⟩, ?_⟩
    · intro hnot
      exact absurd (hfired.symm.trans hnot) (by decide)
    · exact raisesExactly_nil fun hfires => (newly_iff.mp hfires).1 hever
  have hnone : ¬ Ever policy.identityConfirmationFrames (Mismatched policy) rs :=
    fun hever => hfired (h.fired.mpr hever)
  simp only [processIdentityMatch, if_neg hfired, h.window (by simpa using hfired), slide_rtake]
  generalize hwindow : (rs ++ [(result, id)]).rtake policy.identityConfirmationFrames = window
  have hconfirmed : Confirmed policy.identityConfirmationFrames (Mismatched policy)
      (rs ++ [(result, id)]) ↔ ¬ window.length < policy.identityConfirmationFrames ∧
        ¬ (window.any fun r => policy.identitySimilarityThreshold ≤ r.1.similarity.val) = true := by
    rw [confirmed_iff_window, hwindow]
    simp [Mismatched]
  by_cases hshort : window.length < policy.identityConfirmationFrames
  -- the window is not full
  · have hnot := fun hc => (hconfirmed.mp hc).1 hshort
    rw [if_pos hshort]
    exact ⟨⟨iff_of_false hfired (not_ever_append_singleton hnone hnot), fun _ => hwindow.symm⟩,
      raisesExactly_nil fun hfires => hnot hfires.1⟩
  rw [if_neg hshort]
  by_cases hmatch : (window.any fun r =>
      policy.identitySimilarityThreshold ≤ r.1.similarity.val) = true
  -- one of its results is a match
  · have hnot := fun hc => (hconfirmed.mp hc).2 hmatch
    rw [if_pos hmatch]
    exact ⟨⟨iff_of_false hfired (not_ever_append_singleton hnone hnot), fun _ => hwindow.symm⟩,
      raisesExactly_nil fun hfires => hnot hfires.1⟩
  rw [if_neg hmatch]
  -- full of mismatches, for the first time
  have hnow := hconfirmed.mpr ⟨hshort, hmatch⟩
  cases window with
  | nil =>
    -- a full window is not empty
    exact absurd policy.identityFramesPositive hshort
  | cons r rest =>
    refine ⟨⟨iff_of_true rfl (ever_append_singleton.mpr (.inr hnow)), ?_⟩, ?_⟩
    · intro hnot
      exact absurd hnot (by simp)
    · refine ⟨fun _ => ⟨_, rfl, rfl, ?_, ?_⟩, fun hnot => absurd (newly_iff.mpr ⟨hnone, hnow⟩) hnot⟩
      · rw [hwindow]
      · rw [hwindow]
        exact summarises_ofWindow

end

/-! ## 5. Liveness

Liveness is not latched: the run of spoofed results is counted on, and every multiple of the window
fires again. The source tests the window as well as the counter; a run that is a multiple of the
window fills it, so its tests never decide. -/

section
variable (policy : PolicySnapshot)

/-- The number of spoofed results since the last real one. -/
def spoofRun (rs : List (LivenessResult × UUID)) : Nat := (rs.rtakeWhile Spoofed).length

/-- The rule is on, and with this result the run of spoofed results is a multiple of the
    window. -/
def LivenessFires (rs : List (LivenessResult × UUID)) (r : LivenessResult × UUID) : Prop :=
  policy.livenessCheckEnabled = true ∧ 0 < spoofRun (rs ++ [r]) ∧
    policy.livenessConfirmationFrames ∣ spoofRun (rs ++ [r])

/-- A decision of the rule over the window that ends with this result. -/
def LivenessFailed (rs : List (LivenessResult × UUID)) (r : LivenessResult × UUID)
    (d : FlagDecision) : Prop :=
  d.ruleCode = "liveness_check_failed" ∧
    d.contributingEventIds = ((rs ++ [r]).rtake policy.livenessConfirmationFrames).map (·.2) ∧
    Summarises d.confidence
      (((rs ++ [r]).rtake policy.livenessConfirmationFrames).map (·.1.confidence))

/-- The queue holds the last results and the counter is the run, if the rule is on. -/
structure LivenessTracked (rs : List (LivenessResult × UUID)) (a : SessionAggregator) :
    Prop where
  window : policy.livenessCheckEnabled = true →
    a.livenessWindow = rs.rtake policy.livenessConfirmationFrames
  run : policy.livenessCheckEnabled = true → a.livenessSpoofRunLength = spoofRun rs

end

section
variable {policy : PolicySnapshot} {ctx : SessionContext} {a b : SessionAggregator}
  {id : UUID} {e : InferenceEvent} {es : List InferenceEvent} {m : Modality}

theorem spoofRun_real {rs : List (LivenessResult × UUID)} {r : LivenessResult × UUID}
    (h : r.1.isReal = true) : spoofRun (rs ++ [r]) = 0 := by
  unfold spoofRun
  rw [List.rtakeWhile_concat_neg _ _ _ (by simp [Spoofed, h]), List.length_nil]

theorem spoofRun_spoofed {rs : List (LivenessResult × UUID)} {r : LivenessResult × UUID}
    (h : r.1.isReal = false) : spoofRun (rs ++ [r]) = spoofRun rs + 1 := by
  unfold spoofRun
  rw [List.rtakeWhile_concat_pos _ _ _ (by simp [Spoofed, h]), List.length_append,
    List.length_singleton]

/-- A spoofed result fires exactly when it makes the run a multiple of the window. -/
theorem livenessFires_iff_of_spoofed {rs : List (LivenessResult × UUID)} {result : LivenessResult}
    (hon : policy.livenessCheckEnabled = true) (hspoofed : result.isReal = false) :
    LivenessFires policy rs (result, id) ↔
      (spoofRun rs + 1) % policy.livenessConfirmationFrames = 0 := by
  unfold LivenessFires
  rw [spoofRun_spoofed hspoofed, Nat.dvd_iff_mod_eq_zero]
  constructor
  · rintro ⟨-, -, hmod⟩
    exact hmod
  · intro hmod
    exact ⟨hon, Nat.succ_pos _, hmod⟩

/-- A run that is a multiple of the window fills it. -/
theorem LivenessFires.window {rs : List (LivenessResult × UUID)} {r : LivenessResult × UUID}
    (h : LivenessFires policy rs r) :
    ¬ ((rs ++ [r]).rtake policy.livenessConfirmationFrames).length <
        policy.livenessConfirmationFrames ∧
      ¬ (((rs ++ [r]).rtake policy.livenessConfirmationFrames).any (·.1.isReal)) = true := by
  have hle : policy.livenessConfirmationFrames ≤ spoofRun (rs ++ [r]) := Nat.le_of_dvd h.2.1 h.2.2
  have hconfirmed := confirmed_iff_window.mp (confirmed_iff_streak.mpr hle)
  simpa [Spoofed] using hconfirmed

theorem livenessTracked_call {rs : List (LivenessResult × UUID)} {result : LivenessResult}
    (h : LivenessTracked policy rs a) :
    LivenessTracked policy (rs ++ [(result, id)]) (a.processLiveness policy result id).2 ∧
      RaisesExactlyWhen (LivenessFires policy rs (result, id))
        (LivenessFailed policy rs (result, id))
        (ownDecisions (a.processLiveness policy result id).1) := by
  by_cases hon : policy.livenessCheckEnabled = true
  · simp only [processLiveness, if_neg (not_not.mpr hon), h.window hon, slide_rtake, h.run hon]
    generalize hwindow : (rs ++ [(result, id)]).rtake policy.livenessConfirmationFrames = window
    by_cases hreal : result.isReal = true
    · -- a real frame ends the run
      have hrun : spoofRun (rs ++ [(result, id)]) = 0 := spoofRun_real hreal
      rw [if_pos hreal]
      refine ⟨⟨fun _ => hwindow.symm, fun _ => hrun.symm⟩, raisesExactly_nil ?_⟩
      intro hfires
      exact absurd hfires.2.1 (by rw [hrun]; decide)
    rw [if_neg hreal]
    have hrun : spoofRun (rs ++ [(result, id)]) = spoofRun rs + 1 :=
      spoofRun_spoofed (by simpa using hreal)
    have hfires : LivenessFires policy rs (result, id) ↔
        (spoofRun rs + 1) % policy.livenessConfirmationFrames = 0 :=
      livenessFires_iff_of_spoofed hon (by simpa using hreal)
    have hfull : LivenessFires policy rs (result, id) →
        ¬ window.length < policy.livenessConfirmationFrames ∧
          ¬ (window.any (·.1.isReal)) = true := by
      intro hfire
      rw [← hwindow]
      exact hfire.window
    by_cases hshort : window.length < policy.livenessConfirmationFrames
    -- a window that is not full cannot belong to a run that fires
    · rw [if_pos hshort]
      exact ⟨⟨fun _ => hwindow.symm, fun _ => hrun.symm⟩,
        raisesExactly_nil fun hf => (hfull hf).1 hshort⟩
    rw [if_neg hshort]
    by_cases hany : (window.any (·.1.isReal)) = true
    -- nor can one with a real result in it
    · rw [if_pos hany]
      exact ⟨⟨fun _ => hwindow.symm, fun _ => hrun.symm⟩,
        raisesExactly_nil fun hf => (hfull hf).2 hany⟩
    rw [if_neg hany]
    by_cases hmod : (spoofRun rs + 1) % policy.livenessConfirmationFrames ≠ 0
    -- the run is between two multiples
    · rw [if_pos hmod]
      exact ⟨⟨fun _ => hwindow.symm, fun _ => hrun.symm⟩,
        raisesExactly_nil fun hf => hmod (hfires.mp hf)⟩
    rw [if_neg hmod]
    have hfire := hfires.mpr (not_not.mp hmod)
    -- the run is a multiple: the rule fires over a window that is full
    cases window with
    | nil => exact absurd policy.livenessFramesPositive hshort
    | cons r rest =>
      have hexpected : ∀ d : FlagDecision, d.ruleCode = "liveness_check_failed" →
          d.contributingEventIds = (r :: rest).map (·.2) →
          d.confidence = .ofWindow r.1.confidence (rest.map (·.1.confidence)) →
            LivenessFailed policy rs (result, id) d := by
        intro d hrule hids hinterval
        refine ⟨hrule, by rw [hids, hwindow], ?_⟩
        rw [hinterval, hwindow]
        exact summarises_ofWindow
      simp only [List.map_cons]
      split
      · refine ⟨⟨fun _ => hwindow.symm, fun _ => hrun.symm⟩, ?_⟩
        exact ⟨fun _ => ⟨_, rfl, hexpected _ rfl rfl rfl⟩, fun hnot => absurd hfire hnot⟩
      · refine ⟨⟨fun _ => hwindow.symm, fun _ => hrun.symm⟩, ?_⟩
        refine ⟨fun _ => ⟨_, ownDecisions_raiseMedium ?_, hexpected _ rfl rfl rfl⟩,
          fun hnot => absurd hfire hnot⟩
        show ¬ "liveness_check_failed" = "accumulated_score"
        decide
  -- the check is off
  · simp only [processLiveness, if_pos hon]
    exact ⟨⟨fun h => absurd h hon, fun h => absurd h hon⟩,
      raisesExactly_nil fun hf => hon hf.1⟩

/-! ## 6. Runs

What one call does, at the end of any run; and how many calls of a latched rule have answered in
all. -/

@[simp] theorem faceResults_append (own : List InferenceEvent) (result : FacePresenceResult)
    (id : UUID) :
    faceResults (own ++ [.facePresence result id]) = faceResults own ++ [(result, id)] :=
  List.filterMap_append

@[simp] theorem livenessResults_append (own : List InferenceEvent) (result : LivenessResult)
    (id : UUID) :
    livenessResults (own ++ [.liveness result id]) = livenessResults own ++ [(result, id)] :=
  List.filterMap_append

@[simp] theorem identityResults_append (own : List InferenceEvent) (result : IdentityMatchResult)
    (id : UUID) :
    identityResults (own ++ [.identityMatch result id]) = identityResults own ++ [(result, id)] :=
  List.filterMap_append

/-- After any run the face rule has followed the face results, and so have the others theirs. -/
theorem faceTracked_run (hframes : 0 < policy.secondFaceConfirmationFrames) :
    FaceTracked policy (faceResults es) (Run.final (step policy ctx) new es) := by
  rw [← faceResults_filter]
  refine ownPart_run (I := fun own a => FaceTracked policy (faceResults own) a) ?_ ?_ ?_
  · intro own a b hpart h
    simp only [ownPart, new, mk.injEq, and_true] at hpart
    obtain ⟨hframes, hids, hfired⟩ := hpart
    exact ⟨hfired ▸ h.fired, hframes ▸ hids ▸ hfired ▸ h.streak⟩
  · refine ⟨iff_of_false (by simp [new]) ?_, fun _ _ => ⟨rfl, rfl⟩⟩
    exact fun h => not_ever_nil hframes h.2
  · intro own a e hm h
    cases e with
    | facePresence result id =>
      rw [faceResults_append]
      exact (faceTracked_call hframes h).1
    | _ => cases hm

theorem identityTracked_run :
    IdentityTracked policy (identityResults es) (Run.final (step policy ctx) new es) := by
  rw [← identityResults_filter]
  refine ownPart_run (I := fun own a => IdentityTracked policy (identityResults own) a) ?_ ?_ ?_
  · intro own a b hpart h
    simp only [ownPart, new, mk.injEq, true_and] at hpart
    obtain ⟨hwindow, hfired⟩ := hpart
    exact ⟨hfired ▸ h.fired, hwindow ▸ hfired ▸ h.window⟩
  · exact ⟨iff_of_false (by simp [new]) (not_ever_nil policy.identityFramesPositive),
      fun _ => (List.rtake_nil _).symm⟩
  · intro own a e hm h
    cases e with
    | identityMatch result id =>
      rw [identityResults_append]
      exact (identityTracked_call h).1
    | _ => cases hm

theorem livenessTracked_run :
    LivenessTracked policy (livenessResults es) (Run.final (step policy ctx) new es) := by
  rw [← livenessResults_filter]
  refine ownPart_run (I := fun own a => LivenessTracked policy (livenessResults own) a) ?_ ?_ ?_
  · intro own a b hpart h
    simp only [ownPart, new, mk.injEq, and_true, true_and] at hpart
    obtain ⟨hwindow, hrun⟩ := hpart
    exact ⟨hwindow ▸ h.window, hrun ▸ h.run⟩
  · exact ⟨fun _ => (List.rtake_nil _).symm, fun _ => rfl⟩
  · intro own a e hm h
    cases e with
    | liveness result id =>
      rw [livenessResults_append]
      exact (livenessTracked_call h).1
    | _ => cases hm

/-- How many of a modality's calls returned a decision. -/
def firings (policy : PolicySnapshot) (ctx : SessionContext) (m : Modality)
    (es : List InferenceEvent) : Nat :=
  (answers policy ctx new es).countP fun x => x.1.modality = m ∧ x.2 ≠ []

/-- Once if it happened at all. -/
def Once (happened : Prop) (n : Nat) : Prop := (happened → n = 1) ∧ (¬ happened → n = 0)

theorem firings_append : firings policy ctx m (es ++ [e]) = firings policy ctx m es +
    if e.modality = m ∧ ((Run.final (step policy ctx) new es).process policy ctx e).1 ≠ [] then 1
    else 0 := by
  unfold firings
  rw [answers_append, List.countP_append, answers_cons, answers_nil, List.countP_singleton]
  simp only [decide_eq_true_eq]

/-- **A rule that answers its first confirmation answers once.** -/
theorem firings_once {α : Type} {k : Nat} {p : α → Bool} {on : Prop}
    {results : List InferenceEvent → List α} (hk : 0 < k) (hnil : results [] = [])
    (hother : ∀ es e, e.modality ≠ m → results (es ++ [e]) = results es)
    (hown : ∀ es e, e.modality = m → ∃ x, results (es ++ [e]) = results es ++ [x] ∧
      (((Run.final (step policy ctx) new es).process policy ctx e).1 ≠ [] ↔
        on ∧ Newly k p (results es) x)) :
    Once (on ∧ Ever k p (results es)) (firings policy ctx m es) := by
  induction es using List.reverseRecOn with
  | nil =>
    rw [hnil]
    exact ⟨fun h => absurd h.2 (not_ever_nil hk), fun _ => rfl⟩
  | append_singleton es e ih =>
    rw [firings_append]
    by_cases hm : e.modality = m
    · obtain ⟨x, hresults, hanswer⟩ := hown es e hm
      rw [hresults, ever_append_singleton]
      by_cases hnow : on ∧ Newly k p (results es) x
      -- the first confirmation: it is answered, and none was before
      · obtain ⟨hnone, hconfirmed⟩ := newly_iff.mp hnow.2
        rw [if_pos ⟨hm, hanswer.mpr hnow⟩, ih.2 fun h => hnone h.2]
        exact ⟨fun _ => rfl, fun hnot => absurd ⟨hnow.1, .inr hconfirmed⟩ hnot⟩
      · -- confirmed now without being the first time is confirmed before
        have hsame : on ∧ (Ever k p (results es) ∨ Confirmed k p (results es ++ [x])) ↔
            on ∧ Ever k p (results es) := by
          constructor
          · rintro ⟨hon, hever | hconfirmed⟩
            · exact ⟨hon, hever⟩
            · by_contra hnone
              exact hnow ⟨hon, newly_iff.mpr ⟨fun h => hnone ⟨hon, h⟩, hconfirmed⟩⟩
          · exact fun h => ⟨h.1, .inl h.2⟩
        rw [if_neg fun h => hnow (hanswer.mp h.2), hsame]
        exact ih
    -- a call of another modality
    · rw [if_neg fun h => hm h.1, hother es e hm]
      exact ih

theorem RaisesExactlyWhen.ne_nil_iff {fires : Prop} {expected : FlagDecision → Prop}
    {ds : List FlagDecision} (h : RaisesExactlyWhen fires expected ds) : ds ≠ [] ↔ fires := by
  constructor
  · intro hne
    by_contra hnot
    exact hne (h.silent hnot)
  · intro hfires
    obtain ⟨d, rfl, -⟩ := h.raised hfires
    exact List.cons_ne_nil d []

theorem face_answer (hframes : 0 < policy.secondFaceConfirmationFrames)
    (result : FacePresenceResult) (id : UUID) :
    RaisesExactlyWhen (FaceFires policy (faceResults es) (result, id))
      (SecondPerson policy (faceResults es) (result, id))
      ((Run.final (step policy ctx) new es).process policy ctx (.facePresence result id)).1 :=
  (faceTracked_call hframes (faceTracked_run hframes)).2

theorem identity_answer (result : IdentityMatchResult) (id : UUID) :
    RaisesExactlyWhen (IdentityFires policy (identityResults es) (result, id))
      (IdentityMismatch policy (identityResults es) (result, id))
      ((Run.final (step policy ctx) new es).process policy ctx (.identityMatch result id)).1 :=
  (identityTracked_call identityTracked_run).2

/-- Of a liveness call's decisions, the rule's own are those that are not Path 3's. -/
theorem liveness_answer (result : LivenessResult) (id : UUID) :
    RaisesExactlyWhen (LivenessFires policy (livenessResults es) (result, id))
      (LivenessFailed policy (livenessResults es) (result, id))
      (((Run.final (step policy ctx) new es).process policy ctx (.liveness result id)).1.filter
        (·.ruleCode = "liveness_check_failed")) := by
  have hanswer : RaisesExactlyWhen (LivenessFires policy (livenessResults es) (result, id))
      (LivenessFailed policy (livenessResults es) (result, id))
      (ownDecisions ((Run.final (step policy ctx) new es).process policy ctx
        (.liveness result id)).1) := (livenessTracked_call livenessTracked_run).2
  convert hanswer using 1
  apply List.filter_congr
  intro d hd
  rcases process_ruleCode hd with hrule | hpath
  · have hother : ¬ d.IsPathThree := by
      unfold FlagDecision.IsPathThree
      rw [hrule, InferenceEvent.ruleCode]
      decide
    simp [hrule, hother, InferenceEvent.ruleCode]
  · have hrule : d.ruleCode ≠ "liveness_check_failed" := by
      rw [hpath]
      decide
    simp [hpath, hrule]

theorem face_once (hframes : 0 < policy.secondFaceConfirmationFrames) :
    Once (policy.terminateOnSecondFace = true ∧
        Ever policy.secondFaceConfirmationFrames ManyFaces (faceResults es))
      (firings policy ctx .facePresence es) := by
  refine firings_once hframes rfl ?_ ?_
  · intro es e hm
    rw [← faceResults_filter, List.filter_append, List.filter_cons_of_neg (by simpa using hm),
      List.filter_nil, List.append_nil, faceResults_filter]
  · intro es e hm
    cases e with
    | facePresence result id =>
      exact ⟨_, faceResults_append es result id, (face_answer hframes result id).ne_nil_iff⟩
    | _ => cases hm

theorem identity_once :
    Once (Ever policy.identityConfirmationFrames (Mismatched policy) (identityResults es))
      (firings policy ctx .identityMatch es) := by
  have honce : Once (True ∧ Ever policy.identityConfirmationFrames (Mismatched policy)
      (identityResults es)) (firings policy ctx .identityMatch es) := by
    refine firings_once policy.identityFramesPositive rfl ?_ ?_
    · intro es e hm
      rw [← identityResults_filter, List.filter_append, List.filter_cons_of_neg (by simpa using hm),
        List.filter_nil, List.append_nil, identityResults_filter]
    · intro es e hm
      cases e with
      | identityMatch result id =>
        refine ⟨_, identityResults_append es result id, ?_⟩
        rw [true_and]
        exact (identity_answer result id).ne_nil_iff
      | _ => cases hm
  rwa [true_and] at honce

end

/-- **The two latched rules are their windows.** After any run, a face or identity result is
    answered with a decision exactly when it is the first to confirm its window, the decision
    names the results of that window in their order, and over the run there is one such answer
    or none. -/
theorem latched_windows (policy : PolicySnapshot) (ctx : SessionContext)
    (hframes : 0 < policy.secondFaceConfirmationFrames) (es : List InferenceEvent) :
    (∀ result id, RaisesExactlyWhen (FaceFires policy (faceResults es) (result, id))
      (SecondPerson policy (faceResults es) (result, id))
      ((Run.final (step policy ctx) new es).process policy ctx (.facePresence result id)).1) ∧
    Once (policy.terminateOnSecondFace = true ∧
        Ever policy.secondFaceConfirmationFrames ManyFaces (faceResults es))
      (firings policy ctx .facePresence es) ∧
    (∀ result id, RaisesExactlyWhen (IdentityFires policy (identityResults es) (result, id))
      (IdentityMismatch policy (identityResults es) (result, id))
      ((Run.final (step policy ctx) new es).process policy ctx (.identityMatch result id)).1) ∧
    Once (Ever policy.identityConfirmationFrames (Mismatched policy) (identityResults es))
      (firings policy ctx .identityMatch es) :=
  ⟨face_answer hframes, face_once hframes, identity_answer, identity_once⟩

/-- Two strangers, a spoofed frame, a third stranger, under the default policy. -/
theorem latched_windows_default :
    firings defaultPolicy someContext .facePresence
      [strangerAt 1, strangerAt 2, spoofAt 3, strangerAt 4] = 1 := by
  have hlatched := latched_windows defaultPolicy someContext (by decide)
    [strangerAt 1, strangerAt 2, spoofAt 3, strangerAt 4]
  refine hlatched.2.1.1 ⟨rfl, _, List.prefix_rfl, ?_⟩
  decide

/-- **The liveness rule fires once for every full window of a streak.** After any run, a call
    raises a `liveness_check_failed` decision exactly when it is a liveness result that brings the
    run of spoofed results to a multiple of the window, and then one, over that window. -/
theorem liveness_windows (policy : PolicySnapshot) (ctx : SessionContext)
    (es : List InferenceEvent) :
    (∀ result id, RaisesExactlyWhen (LivenessFires policy (livenessResults es) (result, id))
      (LivenessFailed policy (livenessResults es) (result, id))
      (((Run.final (step policy ctx) new es).process policy ctx (.liveness result id)).1.filter
        (·.ruleCode = "liveness_check_failed"))) ∧
    ∀ e, (∃ d ∈ ((Run.final (step policy ctx) new es).process policy ctx e).1,
        d.ruleCode = "liveness_check_failed") ↔
      ∃ result id, e = .liveness result id ∧
        LivenessFires policy (livenessResults es) (result, id) := by
  refine ⟨liveness_answer, ?_⟩
  intro e
  constructor
  · rintro ⟨d, hd, hrule⟩
    cases e with
    | liveness result id =>
      refine ⟨result, id, rfl, ?_⟩
      by_contra hnot
      have hnone := (@liveness_answer policy ctx es result id).silent hnot
      rw [List.filter_eq_nil_iff] at hnone
      exact hnone d hd (by simpa using hrule)
    -- This result has two rules, and neither is the one looked for.
    | objectDetection result id now =>
      rcases process_ruleCode hd with hown | hpath
      · rw [hrule, InferenceEvent.ruleCode] at hown
        split at hown
        all_goals exact absurd hown (by decide)
      · exact absurd (hrule.symm.trans hpath) (by decide)
    | _ =>
      rcases process_ruleCode hd with hown | hpath
      · exact absurd (hrule.symm.trans hown) (by simp [InferenceEvent.ruleCode])
      · exact absurd (hrule.symm.trans hpath) (by decide)
  · rintro ⟨result, id, rfl, hfires⟩
    obtain ⟨d, hd, hfailed⟩ := (@liveness_answer policy ctx es result id).raised hfires
    have hmem : d ∈ [d] := List.mem_singleton_self d
    rw [← hd] at hmem
    exact ⟨d, List.mem_of_mem_filter hmem, hfailed.1⟩

end SessionAggregator

end ProctorEngine
