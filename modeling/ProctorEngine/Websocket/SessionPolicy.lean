import ProctorEngine.Fusion.Decisions

/-!
# The policy a live session is judged under

`PolicySnapshot` says that its fields map one to one to the columns of the session's `PolicyConfig`,
and `SessionContext` that it carries the session's materials setting and the participant's
exemptions. `websocket_endpoint` builds both by hand: **the snapshot from literals, the context
without the materials and the exemptions**. The literals are the column defaults, so the difference
is invisible on a default row; this module says exactly on which rows, sessions and exemptions it
is.

Two aggregators are compared by what they decide on every sequence of results. If the row has the
literal values they are the same function, but for the settings of a liveness check that is
disabled, which nothing reads.

The other direction needs, for each field, a sequence that tells the values apart. Most of the
fields show in what a decision quotes: the thresholds and the counts are in its detail or its
rationale, and a decision of the endpoint that is also one of the session's own quotes both. The
minimum duration of a look away is quoted by nothing, and is found by a look of exactly 800 ms and
one of 799. That the check for liveness is disabled is found by spoofed frames, as many as the row
asks for.
-/

set_option autoImplicit false

namespace ProctorEngine

open SessionAggregator

/-! ## 1. The two pipelines

What the endpoint constructs beside what the columns would give, and the condition, field by
field. -/

/-- The snapshot `websocket_endpoint` constructs. Literals throughout, so no row of the database has
    a say in it. -/
def endpointSnapshot : PolicySnapshot where
  terminateOnSecondFace := true
  secondFaceConfirmationFrames := 3
  gazeMinDurationMs := 800
  gazeWindowSeconds := 300
  gazeWarningLimit := 3
  gazeTerminationLimit := 8
  mediumScoreTerminationThreshold := 10
  mediumScoreAction := .autoTerminate
  livenessCheckEnabled := false
  livenessCheckAction := none
  livenessScoreThreshold := 1 / 2
  livenessConfirmationFrames := 3
  identitySimilarityThreshold := 3 / 5
  identityConfirmationFrames := 3
  audioNoiseFloorDbfs := -30
  audioSpeechRatioThreshold := 3 / 10
  livenessFramesPositive := (PolicyConfig.default 0).livenessFramesPositive
  identityFramesPositive := (PolicyConfig.default 0).identityFramesPositive

/-- The context `websocket_endpoint` constructs; the other fields keep their defaults. -/
def endpointContext (session : ExamSession) : SessionContext where
  examSessionId := session.id
  participantId := session.participantId
  examReference := session.examReference
  policyConfigId := session.policyConfigId

/-- What the endpoint's aggregator decides on a sequence of results. -/
def endpointDecisions (session : ExamSession) (es : List InferenceEvent) : List FlagDecision :=
  decisions endpointSnapshot (endpointContext session) new es

/-- What the aggregator of the session's own policy and context decides. -/
def ownDecisions (row : PolicyConfig) (session : ExamSession)
    (exemptions : List AccommodationExemption) (es : List InferenceEvent) : List FlagDecision :=
  decisions (.ofRow row) (.ofRow session exemptions) new es

/-- The rows on which the literals and the defaults make no difference. -/
structure JudgedAlike (row : PolicyConfig) (session : ExamSession)
    (exemptions : List AccommodationExemption) : Prop where
  secondFace : row.terminateOnSecondFace = true ∧ row.secondFaceConfirmationFrames = 3
  gaze : row.gazeMinDurationMs = 800 ∧ row.gazeWindowSeconds = 300 ∧ row.gazeWarningLimit = 3 ∧
    row.gazeTerminationLimit = 8
  mediumScore : row.mediumScoreTerminationThreshold = 10 ∧ row.mediumScoreAction = .autoTerminate
  liveness : row.livenessCheckEnabled = false
  identity : row.identitySimilarityThreshold = 3 / 5 ∧ row.identityConfirmationFrames = 3
  audio : row.audioNoiseFloorDbfs = -30 ∧ row.audioSpeechRatioThreshold = 3 / 10
  /-- The session's materials do not allow a book. -/
  book : shouldFlagBook session.allowedReferenceMaterials.value
    session.permittedMaterialDetails = true
  /-- No exemption is the participant's own and for this exam. -/
  exemption : ∀ e ∈ exemptions, ¬ (e.participantId = session.participantId ∧
    e.examReference = session.examReference)

/-! ## 2. Alike rows are judged alike

A call reads the context through two functions, and the settings of a disabled check not at all. -/

section
variable {row : PolicyConfig} {session : ExamSession}
  {exemptions : List AccommodationExemption}

theorem exemptionFor_ofRow_eq_none
    (h : ∀ e ∈ exemptions, ¬ (e.participantId = session.participantId ∧
      e.examReference = session.examReference)) (objectClass : String) (now : DateTime) :
    (SessionContext.ofRow session exemptions).exemptionFor objectClass now = none := by
  apply List.find?_eq_none.mpr
  intro ex hex
  obtain ⟨e, he, hrow⟩ := List.mem_map.mp hex
  subst hrow
  have hother := h e he
  unfold ExemptionRecord.Matches
  intro hmatch
  have hfields := of_decide_eq_true hmatch
  exact hother ⟨hfields.1, hfields.2.2.1⟩

/-- A snapshot with other liveness settings. -/
def PolicySnapshot.withLiveness (policy : PolicySnapshot) (action : Option LivenessAction)
    (threshold : ℚ) (frames : Nat) (h : 0 < frames) : PolicySnapshot :=
  { policy with
    livenessCheckAction := action
    livenessScoreThreshold := threshold
    livenessConfirmationFrames := frames
    livenessFramesPositive := h }

/-- A disabled check does not read its settings. -/
theorem process_withLiveness {policy : PolicySnapshot} {ctx : SessionContext}
    {action : Option LivenessAction} {threshold : ℚ} {frames : Nat} {hframes : 0 < frames}
    (h : policy.livenessCheckEnabled = false) (a : SessionAggregator) (e : InferenceEvent) :
    a.process (policy.withLiveness action threshold frames hframes) ctx e =
      a.process policy ctx e := by
  cases e with
  | liveness result id =>
    have hoff : ∀ p : PolicySnapshot, p.livenessCheckEnabled = false →
        a.processLiveness p result id = ([], a) := by
      intro p hp
      simp [processLiveness, hp]
    show a.processLiveness _ result id = a.processLiveness policy result id
    rw [hoff policy h]
    exact hoff _ h
  | facePresence result id => rfl
  | gaze result id timestamp => rfl
  | identityMatch result id => rfl
  | identityCheckUnavailable id => rfl
  | objectDetection result id now => rfl
  | browserEvent result id => rfl
  | audioVad result id => rfl

/-- The context is read through the two rules only. -/
theorem process_congr_ctx {policy : PolicySnapshot} {ctx ctx' : SessionContext}
    (hflags : ctx.flagsBook = ctx'.flagsBook)
    (hexemption : ∀ c now, ctx.exemptionFor c now = ctx'.exemptionFor c now)
    (a : SessionAggregator) (e : InferenceEvent) :
    a.process policy ctx e = a.process policy ctx' e := by
  cases e with
  | objectDetection result id now =>
    show a.processObjectDetection policy ctx result id now = _
    unfold processObjectDetection
    rw [hflags, hexemption]
    rfl
  | facePresence result id => rfl
  | liveness result id => rfl
  | gaze result id timestamp => rfl
  | identityMatch result id => rfl
  | identityCheckUnavailable id => rfl
  | browserEvent result id => rfl
  | audioVad result id => rfl

/-- One result is processed the same. -/
theorem process_eq (h : JudgedAlike row session exemptions) (a : SessionAggregator)
    (e : InferenceEvent) :
    a.process endpointSnapshot (endpointContext session) e =
      a.process (.ofRow row) (.ofRow session exemptions) e := by
  have hsnapshot : endpointSnapshot =
      (PolicySnapshot.ofRow row).withLiveness none (1 / 2) 3 (by decide) := by
    simp [endpointSnapshot, PolicySnapshot.withLiveness, PolicySnapshot.ofRow, h.secondFace,
      h.gaze, h.mediumScore, h.liveness, h.identity, h.audio]
  rw [hsnapshot, process_withLiveness h.liveness]
  apply process_congr_ctx
  · exact h.book.symm
  · intro c now
    exact (exemptionFor_ofRow_eq_none h.exemption c now).symm

theorem decisions_eq (h : JudgedAlike row session exemptions) (a : SessionAggregator)
    (es : List InferenceEvent) :
    decisions endpointSnapshot (endpointContext session) a es =
      decisions (.ofRow row) (.ofRow session exemptions) a es := by
  induction es generalizing a with
  | nil => rfl
  | cons e es ih =>
    unfold decisions
    rw [process_eq h, ih]

end

/-! ## 3. Sequences that tell

Short sequences of results on which the endpoint's aggregator decides something, or nothing,
that an aggregator with another policy or context would not. -/

/-- `n` looks away from the screen, a second apart. -/
def glances (n : Nat) (durationMs : Int) : List InferenceEvent :=
  (List.range n).flatMap fun i =>
    [.gaze ⟨.certain, some true⟩ 0 (i * 1000),
      .gaze ⟨.certain, some false⟩ 0 (i * 1000 + durationMs)]

def secondFaces : List InferenceEvent :=
  List.replicate 3 (.facePresence ⟨"second_person", .certain, 2⟩ 0)

def blurs : List InferenceEvent := List.replicate 10 (.browserEvent ⟨"blur", .certain, []⟩ 0)

def mismatches : List InferenceEvent :=
  List.replicate 3 (.identityMatch ⟨.zero⟩ 0)

def speech : List InferenceEvent := [.audioVad ⟨"speech_detected", .certain, 1, 0⟩ 0]

def sighting (objectClass : String) (now : DateTime) : List InferenceEvent :=
  [.objectDetection ⟨.certain, objectClass⟩ 0 now]

def spoofedFrame : LivenessResult := ⟨.one, false⟩

def spoofs (n : Nat) : List InferenceEvent := List.replicate n (.liveness spoofedFrame 0)

/-- The aggregator after `n` spoofed frames that do not fill the window. -/
def afterSpoofs (n : Nat) : SessionAggregator :=
  { new with
    livenessWindow := List.replicate n (spoofedFrame, 0)
    livenessSpoofRunLength := n }

def InferenceEvent.readsContext : InferenceEvent → Bool
  | .objectDetection _ _ _ => true
  | _ => false

section
variable {policy : PolicySnapshot} {ctx ctx' : SessionContext} {a : SessionAggregator}

/-- Without an object in sight the context is not read. -/
theorem decisions_congr_ctx {es : List InferenceEvent}
    (h : ∀ e ∈ es, e.readsContext = false) :
    decisions policy ctx a es = decisions policy ctx' a es := by
  induction es generalizing a with
  | nil => rfl
  | cons e es ih =>
    have hstep : a.process policy ctx e = a.process policy ctx' e := by
      have he := h e List.mem_cons_self
      cases e with
      | objectDetection result id now => exact absurd he (by simp [InferenceEvent.readsContext])
      | _ => rfl
    unfold decisions
    rw [hstep, ih fun x hx => h x (List.mem_cons_of_mem e hx)]

/-- The exemption applied to the first decision about an object. -/
theorem suppressed_sighting (policy : PolicySnapshot) {objectClass : String} (now : DateTime)
    (h : objectClass = "book" → ctx.flagsBook = true) :
    (decisions policy ctx new (sighting objectClass now)).head?.bind
        (·.suppressedByExemptionId) = (ctx.exemptionFor objectClass now).map (·.id) := by
  have hpast : ¬ (objectClass = "book" ∧ ¬ ctx.flagsBook = true) := by
    intro hbook
    exact hbook.2 (h hbook.1)
  simp only [decisions, sighting, process, processObjectDetection, hpast, if_false,
    List.append_nil]
  cases ctx.exemptionFor objectClass now with
  | none =>
    by_cases hbook : objectClass = "book"
    · simp [hbook, bookFlagSeverity, raiseMedium]
    · simp [hbook, raiseMedium]
  | some exemption => simp [suppressedSeverity]

theorem slide_replicate {α : Type} {size n : Nat} (h : n < size) (x : α) :
    slide size (List.replicate n x) x = List.replicate (n + 1) x := by
  unfold slide
  rw [← List.replicate_succ', if_neg (by simp; omega)]

/-- Frames short of the window are counted and nothing else. -/
theorem process_afterSpoofs (henabled : policy.livenessCheckEnabled = true) {n : Nat}
    (hn : n + 1 < policy.livenessConfirmationFrames) :
    (afterSpoofs n).process policy ctx (.liveness spoofedFrame 0) = ([], afterSpoofs (n + 1)) := by
  have hslide := slide_replicate (show n < policy.livenessConfirmationFrames by omega)
    (spoofedFrame, (0 : UUID))
  have hreal : spoofedFrame.isReal = false := rfl
  simp only [process, processLiveness, afterSpoofs, henabled, not_true_eq_false, if_false, hslide,
    hreal, Bool.false_eq_true, List.length_replicate, hn, if_true]

/-- A full window of them is decided upon. -/
theorem decisions_afterSpoofs_ne_nil (henabled : policy.livenessCheckEnabled = true) {n k : Nat}
    (h : n + (k + 1) = policy.livenessConfirmationFrames) :
    decisions policy ctx (afterSpoofs n) (spoofs (k + 1)) ≠ [] := by
  induction k generalizing n with
  | zero =>
    have hwindow : n + 1 = policy.livenessConfirmationFrames := by omega
    have hslide := slide_replicate (show n < n + 1 by omega) (spoofedFrame, (0 : UUID))
    have hreal : spoofedFrame.isReal = false := rfl
    simp only [spoofs, List.replicate, decisions, process, processLiveness, afterSpoofs, henabled,
      not_true_eq_false, if_false, hslide, hreal, Bool.false_eq_true, ← hwindow, Nat.mod_self,
      ne_eq, List.append_nil]
    -- the window is not empty, and either action raises something
    by_cases haction : policy.livenessCheckAction = some .criticalTerminate
    · simp [hreal, haction]
    · simp [hreal, haction, raiseMedium]
  | succ k ih =>
    have hstep : decisions policy ctx (afterSpoofs n) (spoofs (k + 1 + 1)) =
        decisions policy ctx (afterSpoofs (n + 1)) (spoofs (k + 1)) := by
      show ((afterSpoofs n).process policy ctx _).1 ++ _ = _
      rw [process_afterSpoofs henabled (by omega)]
      rfl
    rw [hstep]
    exact ih (by omega)

theorem decisions_spoofs_eq_nil (h : policy.livenessCheckEnabled = false) (n : Nat) :
    decisions policy ctx a (spoofs n) = [] := by
  induction n with
  | zero => rfl
  | succ n ih =>
    have hstep : a.process policy ctx (.liveness spoofedFrame 0) = ([], a) := by
      simp [process, processLiveness, h]
    show (a.process policy ctx _).1 ++ decisions policy ctx (a.process policy ctx _).2 _ = []
    rw [hstep]
    exact ih

/-- Looks away that are too short for the policy are not counted. -/
theorem decisions_glances_eq_nil (hwindow : policy.gazeWindowSeconds = 300)
    (hwarn : policy.gazeWarningLimit = 3) (hlimit : policy.gazeTerminationLimit = 8)
    (hmin : (800 : Int) < policy.gazeMinDurationMs) :
    decisions policy ctx new (glances 3 800) = [] := by
  simp [decisions, glances, List.range, List.range.loop, process, processGaze, mergeGazeFrame,
    new, Window.evict, hwarn, hwindow, hlimit, not_le.mpr hmin]

theorem decisions_glances_ne_nil (hwindow : policy.gazeWindowSeconds = 300)
    (hwarn : policy.gazeWarningLimit = 3) (hlimit : policy.gazeTerminationLimit = 8)
    (hmin : (policy.gazeMinDurationMs : Int) ≤ 799) :
    decisions policy ctx new (glances 3 799) ≠ [] := by
  simp [decisions, glances, List.range, List.range.loop, process, processGaze, mergeGazeFrame,
    new, Window.evict, hwarn, hwindow, hlimit, hmin, raiseMedium]

end

/-! ## 4. The verdict

From the agreement on all sequences, the fields one by one. -/

section
variable {row : PolicyConfig} {session : ExamSession}
  {exemptions : List AccommodationExemption}

/-- Every session of the endpoint sees what this context sees, objects apart. -/
def blankContext : SessionContext := ⟨0, 0, "", 0, "closed_book", [], []⟩

/-- The endpoint and the session's own aggregator agree on every sequence. -/
def Refines (row : PolicyConfig) (session : ExamSession)
    (exemptions : List AccommodationExemption) : Prop :=
  ∀ es, endpointDecisions session es = ownDecisions row session exemptions es

/-- A decision of the endpoint is then one of the session's own aggregator, and quotes its
    policy. -/
theorem Refines.exists_quotes (h : Refines row session exemptions) (es : List InferenceEvent)
    (hes : ∀ e ∈ es, e.readsContext = false) (P : FlagDecision → Prop)
    (hd : ∃ d ∈ decisions endpointSnapshot blankContext new es, P d) :
    ∃ d, P d ∧ Quotes (.ofRow row) (.ofRow session exemptions) d := by
  obtain ⟨d, hmem, hP⟩ := hd
  have hown : d ∈ ownDecisions row session exemptions es := by
    rw [← h es, endpointDecisions, decisions_congr_ctx hes]
    exact hmem
  exact ⟨d, hP, quotes_decisions hown⟩

theorem Refines.secondFace (h : Refines row session exemptions) :
    row.terminateOnSecondFace = true ∧ row.secondFaceConfirmationFrames = 3 := by
  obtain ⟨d, ⟨hrule, hframes⟩, hquotes⟩ := h.exists_quotes secondFaces (by decide)
    (fun d => d.ruleCode = "second_person" ∧
      Json.get? d.detail "confirmation_frames" = some (.num 3)) (by decide +kernel)
  obtain ⟨hterminate, hown⟩ := hquotes.secondPerson hrule
  rw [hframes] at hown
  have hnum : (3 : ℚ) = row.secondFaceConfirmationFrames := Json.num.inj (Option.some.inj hown)
  exact ⟨hterminate, by exact_mod_cast hnum.symm⟩

/-- The limits of the ladder are quoted; the minimum duration shows in what is counted. -/
theorem Refines.gaze (h : Refines row session exemptions) :
    row.gazeMinDurationMs = 800 ∧ row.gazeWindowSeconds = 300 ∧ row.gazeWarningLimit = 3 ∧
      row.gazeTerminationLimit = 8 := by
  obtain ⟨d, ⟨hrule, hwindow, hwarn⟩, hquotes⟩ := h.exists_quotes (glances 3 800) (by decide)
    (fun d => d.ruleCode = "gaze_away_frequency" ∧
      Json.get? d.detail "window_seconds" = some (.num 300) ∧
      Json.get? d.detail "gaze_warning_limit" = some (.num 3)) (by decide +kernel)
  have hwindow' := hquotes.gazeWindow hrule
  rw [hwindow] at hwindow'
  have hwindowNum : (300 : ℚ) = row.gazeWindowSeconds := Json.num.inj (Option.some.inj hwindow')
  have hwarnNum : (3 : ℚ) = row.gazeWarningLimit :=
    Json.num.inj (hquotes.gazeWarning hrule _ hwarn)
  obtain ⟨d, ⟨hrule, hlimit⟩, hquotes⟩ := h.exists_quotes (glances 8 800) (by decide)
    (fun d => d.ruleCode = "gaze_away_frequency" ∧
      Json.get? d.detail "gaze_termination_limit" = some (.num 8)) (by decide +kernel)
  have hlimitNum : (8 : ℚ) = row.gazeTerminationLimit :=
    Json.num.inj (hquotes.gazeTermination hrule _ hlimit)
  have hwindowEq : row.gazeWindowSeconds = 300 := by exact_mod_cast hwindowNum.symm
  have hwarnEq : row.gazeWarningLimit = 3 := by exact_mod_cast hwarnNum.symm
  have hlimitEq : row.gazeTerminationLimit = 8 := by exact_mod_cast hlimitNum.symm
  -- the endpoint counts a look of 800 ms, and does not count one of 799 ms
  have hle : row.gazeMinDurationMs ≤ 800 := by
    by_contra hlt
    have hown : ownDecisions row session exemptions (glances 3 800) = [] :=
      decisions_glances_eq_nil hwindowEq hwarnEq hlimitEq (by
        show (800 : Int) < row.gazeMinDurationMs
        omega)
    have hendpoint : decisions endpointSnapshot blankContext new (glances 3 800) ≠ [] := by
      decide +kernel
    rw [← h, endpointDecisions, decisions_congr_ctx (by decide)] at hown
    exact hendpoint hown
  have hge : ¬ row.gazeMinDurationMs ≤ 799 := by
    intro hlt
    have hown : ownDecisions row session exemptions (glances 3 799) ≠ [] :=
      decisions_glances_ne_nil hwindowEq hwarnEq hlimitEq (by
        show (row.gazeMinDurationMs : Int) ≤ 799
        omega)
    have hendpoint : decisions endpointSnapshot blankContext new (glances 3 799) = [] := by
      decide +kernel
    rw [← h, endpointDecisions, decisions_congr_ctx (by decide)] at hown
    exact hown hendpoint
  exact ⟨by omega, hwindowEq, hwarnEq, hlimitEq⟩

theorem Refines.mediumScore (h : Refines row session exemptions) :
    row.mediumScoreTerminationThreshold = 10 ∧ row.mediumScoreAction = .autoTerminate := by
  obtain ⟨d, ⟨hrule, hthreshold, haction⟩, hquotes⟩ := h.exists_quotes blurs (by decide)
    (fun d => d.ruleCode = "accumulated_score" ∧
      Json.get? d.detail "threshold" = some (.num 10) ∧
      Json.get? d.detail "medium_score_action" = some (.str "auto_terminate")) (by decide +kernel)
  obtain ⟨hthreshold', haction'⟩ := hquotes.accumulated hrule
  rw [hthreshold] at hthreshold'
  rw [haction] at haction'
  have hvalue : "auto_terminate" = row.mediumScoreAction.value :=
    Json.str.inj (Option.some.inj haction')
  refine ⟨(Json.num.inj (Option.some.inj hthreshold')).symm, ?_⟩
  cases hact : row.mediumScoreAction with
  | autoTerminate => rfl
  | flagForReview =>
    rw [hact] at hvalue
    exact absurd hvalue (by decide)

theorem Refines.liveness (h : Refines row session exemptions) :
    row.livenessCheckEnabled = false := by
  by_contra henabled
  have hpositive := row.livenessFramesPositive
  have hown : ownDecisions row session exemptions
      (spoofs (row.livenessConfirmationFrames - 1 + 1)) ≠ [] :=
    decisions_afterSpoofs_ne_nil (n := 0) (Bool.not_eq_false _ ▸ henabled) (by
      show 0 + (row.livenessConfirmationFrames - 1 + 1) = row.livenessConfirmationFrames
      omega)
  rw [← h] at hown
  exact hown (decisions_spoofs_eq_nil rfl _)

theorem Refines.identity (h : Refines row session exemptions) :
    row.identitySimilarityThreshold = 3 / 5 ∧ row.identityConfirmationFrames = 3 := by
  obtain ⟨d, ⟨hrule, hframes, hthreshold⟩, hquotes⟩ := h.exists_quotes mismatches (by decide)
    (fun d => d.ruleCode = "identity_mismatch" ∧
      Json.get? d.detail "window_size" = some (.num 3) ∧
      Json.get? d.detail "threshold" = some (.num (3 / 5))) (by decide +kernel)
  obtain ⟨hframes', hthreshold'⟩ := hquotes.identity hrule
  rw [hframes] at hframes'
  rw [hthreshold] at hthreshold'
  have hnum : (3 : ℚ) = row.identityConfirmationFrames := Json.num.inj (Option.some.inj hframes')
  exact ⟨(Json.num.inj (Option.some.inj hthreshold')).symm, by exact_mod_cast hnum.symm⟩

theorem Refines.audio (h : Refines row session exemptions) :
    row.audioNoiseFloorDbfs = -30 ∧ row.audioSpeechRatioThreshold = 3 / 10 := by
  obtain ⟨d, ⟨hrule, hratio, hfloor⟩, hquotes⟩ := h.exists_quotes speech (by decide)
    (fun d => d.ruleCode = "audio_anomaly" ∧
      Json.get? d.detail "speech_ratio_threshold" = some (.num (3 / 10)) ∧
      Json.get? d.detail "noise_floor_dbfs" = some (.num (-30))) (by decide +kernel)
  obtain ⟨hratio', hfloor'⟩ := hquotes.audio hrule
  rw [hratio] at hratio'
  rw [hfloor] at hfloor'
  exact ⟨(Json.num.inj (Option.some.inj hfloor')).symm,
    (Json.num.inj (Option.some.inj hratio')).symm⟩

theorem Refines.book (h : Refines row session exemptions) :
    shouldFlagBook session.allowedReferenceMaterials.value session.permittedMaterialDetails =
      true := by
  by_contra hbook
  have hown : ownDecisions row session exemptions (sighting "book" 0) = [] := by
    have hflags : (SessionContext.ofRow session exemptions).flagsBook = false := by
      exact Bool.eq_false_iff.mpr hbook
    simp [ownDecisions, decisions, sighting, process, processObjectDetection, hflags]
  rw [← h] at hown
  exact absurd hown (by
    simp [endpointDecisions, decisions, sighting, process, processObjectDetection,
      SessionContext.flagsBook, shouldFlagBook, endpointContext, SessionContext.exemptionFor,
      findMatchingExemption, bookFlagSeverity, raiseMedium])

/-- An exemption takes effect at its first instant. -/
theorem Refines.exemption (h : Refines row session exemptions) (e : AccommodationExemption)
    (he : e ∈ exemptions) :
    ¬ (e.participantId = session.participantId ∧ e.examReference = session.examReference) := by
  intro hmine
  have hendpoint : (endpointDecisions session (sighting e.objectClass e.effectiveAt)).head?.bind
      (·.suppressedByExemptionId) = none :=
    suppressed_sighting endpointSnapshot e.effectiveAt fun _ => rfl
  have hflags : (SessionContext.ofRow session exemptions).flagsBook = true := h.book
  rw [h, ownDecisions, suppressed_sighting (.ofRow row) e.effectiveAt fun _ => hflags] at hendpoint
  have hnone : (SessionContext.ofRow session exemptions).exemptionFor e.objectClass
      e.effectiveAt = none := by
    simpa using hendpoint
  -- the record itself matches a sighting of its class at that instant
  have hrecord := List.find?_eq_none.mp hnone (.ofRow e) (List.mem_map_of_mem he)
  apply hrecord
  apply decide_eq_true
  refine ⟨hmine.1, rfl, hmine.2, le_rfl, ?_⟩
  show e.expiresAt.all _ = true
  cases hexpiry : e.expiresAt with
  | none => rfl
  | some expiry => exact decide_eq_true (e.expiryAfterEffective expiry hexpiry)

/-- **The endpoint judges a session under its own policy exactly when the row has the literal
    values, the materials allow no book and the participant has no exemption for the exam.** The
    endpoint builds its snapshot from literals and its context from defaults, so nothing of the row
    is read. -/
theorem refines_iff_judgedAlike (row : PolicyConfig) (session : ExamSession)
    (exemptions : List AccommodationExemption) :
    Refines row session exemptions ↔ JudgedAlike row session exemptions := by
  constructor
  · intro h
    exact ⟨h.secondFace, h.gaze, h.mediumScore, h.liveness, h.identity, h.audio, h.book,
      h.exemption⟩
  · intro h es
    exact decisions_eq h new es

/-- A policy that needs one frame to confirm a second person, and one frame with two faces: the
    session's own aggregator raises the decision, the endpoint's waits for two more. -/
theorem secondFace_not_refined :
    ¬ ∀ (row : PolicyConfig) (session : ExamSession) (exemptions : List AccommodationExemption),
      Refines row session exemptions := by
  intro h
  have hframe := h { PolicyConfig.default 1 with
    secondFaceConfirmationFrames := 1
    confirmationFramesPositive := by decide } (.launched 1 2 1 "exam" 0) []
    [.facePresence ⟨"second_person", .certain, 2⟩ 0]
  exact absurd hframe (by decide +kernel)

end

end ProctorEngine
