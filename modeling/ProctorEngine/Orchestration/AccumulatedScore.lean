import ProctorEngine.Fusion.Score
import ProctorEngine.Orchestration.Pipeline

/-!
# The accumulated score of a session

The score of a session is kept twice: in the aggregator of each of its connections, which starts at
zero whatever came before, and in a database column its workers read, add to and write back. Both
are exact as long as **one connection does all the scoring**: no connection gets in for the session
once a decision has added to its score, and a connection that a later one has superseded raises
nothing that scores. `OneScorer` is that condition, step by step; a handshake that is refused or
blocked opens nothing and may come at any time.

The invariant (`Tallied`) relates four totals: what was raised for the session, what its aggregators
hold, what its workers have persisted, and the column.

The log of what was raised is not in the system. It is the list `raised` of the run so far, and the
invariant is about a system together with a log, so that a step lemma says what is appended. Of the
four totals

* the log and the aggregators agree because a dispatch books what it raises (`Booked`), and the
  others' aggregators stand at zero;
* the aggregators and the persisted decisions differ by what is queued, in hand or in an outbox,
  which is nothing once the session is quiet;
* the persisted decisions and the column agree because a worker's row is not stale: while it holds
  one, no other worker of the session has anything that scores.

The last is a race two connections could lose, and the reason why the condition is there.
-/

set_option autoImplicit false

namespace ProctorEngine

/-! ## 1. A dispatch and the score

What the aggregator adds to its score is what its decisions carry, under the endpoint's policy,
whose weights are one; and its threshold rule speaks once, with the decision that crosses. -/

namespace FrameDispatcher

variable {d : FrameDispatcher}

theorem feed_scores {es : List InferenceEvent} (h : d.config.policySnapshot = endpointSnapshot) :
    SessionAggregator.Scores endpointSnapshot.mediumScoreTerminationThreshold d.aggregator
      (d.feed es).2.aggregator ((d.feed es).1.map (·.decision)) := by
  induction es generalizing d with
  | nil => exact .refl
  | cons e es ih =>
    have hone : SessionAggregator.Scores endpointSnapshot.mediumScoreTerminationThreshold
        d.aggregator (d.feedOne e).2.aggregator ((d.feedOne e).1.map (·.decision)) := by
      have hraises : SessionAggregator.Raises d.config.policySnapshot d.aggregator
          (d.aggregator.process d.config.policySnapshot d.config.context e) :=
        SessionAggregator.process_raises e
      rw [feedOne_aggregator, feedOne_decisions, ← h]
      exact hraises.scores (by rw [h]; rfl) (by rw [h]; decide +kernel)
    rw [feed_cons, List.map_append]
    exact hone.trans (ih (feedOne_config.symm ▸ h))

theorem dispatchEvent_scores {event : BufferedEvent} {syntheticId : UUID}
    {answers : RunnerAnswers} (h : d.config.policySnapshot = endpointSnapshot) :
    SessionAggregator.Scores endpointSnapshot.mediumScoreTerminationThreshold d.aggregator
      (d.dispatchEvent event syntheticId answers).2.aggregator
      ((d.dispatchEvent event syntheticId answers).1.map (·.decision)) :=
  feed_scores (d := { d with
    heavyFrameSeq := d.nextHeavyFrameSeq event.message answers
    eventIdToBuffered := (syntheticId, { event with syntheticId }) ::
      d.eventIdToBuffered.filter (·.1 ≠ syntheticId) }) h

end FrameDispatcher

/-! ## 2. A connection's decisions

The same for a connection, whose decisions may be anywhere between the dispatcher and the table. -/

namespace Connection

/-- Every decision of the connection so far, put on the queue or about to be. -/
def decisions (conn : Connection) : List FlagDecision :=
  (conn.put ++ conn.outbox).map (·.decision)

/-- The decisions of the items the worker is done with. -/
def persistedDecisions (conn : Connection) : List FlagDecision :=
  conn.attempts.map (·.item.decision)

/-- The score the connection's aggregator compares with the threshold. -/
def score (conn : Connection) : ℚ := conn.dispatcher.aggregator.accumulatedScore

/-- The decisions a move raises. -/
def raisedBy (conn : Connection) : Action → List FlagDecision
  | .dispatchNext syntheticId answers =>
    if conn.outbox = [] then
      (conn.dispatchNext syntheticId answers).outbox.map (·.decision)
    else []
  | _ => []

/-- The aggregator holds exactly what its decisions add up to. -/
structure Booked (conn : Connection) : Prop where
  score : conn.score = scoreTotal conn.decisions
  unit : ∀ d ∈ conn.decisions, d.scoreDelta = 0 ∨ d.scoreDelta = 1

section
variable {py : Pydantic} {sh : Shared} {conn : Connection}

theorem act_scores (py : Pydantic) (sh : Shared)
    (hpolicy : conn.dispatcher.config.policySnapshot = endpointSnapshot)
    (action : Action) :
    (conn.act py sh action).2.decisions = conn.decisions ++ conn.raisedBy action ∧
      SessionAggregator.Scores endpointSnapshot.mediumScoreTerminationThreshold
        conn.dispatcher.aggregator (conn.act py sh action).2.dispatcher.aggregator
        (conn.raisedBy action) := by
  have hsame : conn.decisions = conn.decisions ++ [] := (List.append_nil _).symm
  cases action with
  -- the one move that raises, and only with an empty outbox
  | dispatchNext syntheticId answers =>
    simp only [Connection.act, raisedBy]
    by_cases houtbox : conn.outbox = []
    · rw [if_pos houtbox]
      simp only [dispatchNext, houtbox, and_true]
      split
      · split
        · exact ⟨by simp [decisions, houtbox], by simpa [houtbox] using .refl⟩
        · split
          · exact ⟨by simp [decisions, houtbox], by simpa [houtbox] using .refl⟩
          · exact ⟨by simp [decisions, houtbox], FrameDispatcher.dispatchEvent_scores hpolicy⟩
      · exact ⟨by simp [houtbox], by simpa [houtbox] using .refl⟩
    · rw [if_neg houtbox]
      simp only [dispatchNext, houtbox, and_false, if_false]
      exact ⟨hsame, .refl⟩
  -- from the outbox to the queue, both of which are counted
  | putFlag =>
    simp only [Connection.act, putFlag, raisedBy]
    split
    · exact ⟨hsame, .refl⟩
    · rename_i flag outbox houtbox
      exact ⟨by simp [decisions, houtbox], .refl⟩
  | _ =>
    simp only [Connection.act, receive, disconnect, joinWorker, joinDispatcher,
      checkDispatcherStop, drain, checkWorkerStop, getFlag, loadSession, commitFlag,
      beginShutdown, raisedBy]
    repeat' split
    all_goals exact ⟨hsame, .refl⟩

theorem Booked.act (h : conn.Booked)
    (hpolicy : conn.dispatcher.config.policySnapshot = endpointSnapshot) (action : Action) :
    (conn.act py sh action).2.Booked := by
  obtain ⟨hdecisions, hscores⟩ := act_scores py sh hpolicy action
  refine ⟨?_, ?_⟩
  · rw [hdecisions, scoreTotal_append, ← h.score]
    exact hscores.score
  · intro d hd
    rw [hdecisions] at hd
    rcases List.mem_append.mp hd with hd | hd
    · exact h.unit d hd
    · exact hscores.unit d hd

theorem booked_start {claims : SessionClaims} {examSession : ExamSession}
    {underOverride : Bool} : (start claims examSession underOverride).Booked :=
  ⟨rfl, fun _ hd => absurd hd List.not_mem_nil⟩

/-- A connection whose aggregator stands at zero has raised nothing that scores. -/
theorem Booked.free (h : conn.Booked) (hzero : conn.score = 0) :
    ∀ d ∈ conn.decisions, d.scoreDelta = 0 := by
  refine eq_zero_of_scoreTotal ?_ (h.score ▸ hzero)
  intro d hd
  rcases h.unit d hd with hd | hd <;> rw [hd]
  exact zero_le_one

theorem Accounted.decisions (h : conn.Accounted) :
    conn.decisions = conn.persistedDecisions ++
      (conn.workerPc.inHand ++ conn.flagDecisions ++ conn.outbox).map (·.decision) := by
  simp [Connection.decisions, persistedDecisions, h.put, Function.comp_def]

end

end Connection

/-! ## 3. Totals over the connections of a session

A quantity summed over the connections of one session changes with one connection at a time, and a
connection that is let in adds nothing to it. -/

/-- Overwriting one entry changes a sum by the difference. -/
theorem sum_map_set {α : Type*} {f : α → ℚ} {l : List α} {i : Nat} {x y : α}
    (h : l[i]? = some x) : ((l.set i y).map f).sum = (l.map f).sum + (f y - f x) := by
  induction l generalizing i with
  | nil => exact absurd h (by simp)
  | cons a l ih =>
    cases i with
    | zero =>
      obtain rfl := Option.some.inj h
      simp only [List.set_cons_zero, List.map_cons, List.sum_cons]
      ring
    | succ i =>
      simp only [List.set_cons_succ, List.map_cons, List.sum_cons, ih (i := i) h]
      ring

/-- A sum of which only one entry counts. -/
theorem sum_map_eq_single {α : Type*} {f : α → ℚ} {l : List α} {i : Nat} {x : α}
    (h : l[i]? = some x) (hrest : ∀ j y, j ≠ i → l[j]? = some y → f y = 0) :
    (l.map f).sum = f x := by
  induction l generalizing i with
  | nil => exact absurd h (by simp)
  | cons a l ih =>
    rw [List.map_cons, List.sum_cons]
    cases i with
    | zero =>
      obtain rfl := Option.some.inj h
      have hzero : (l.map f).sum = 0 := List.sum_eq_zero <| by
        intro q hq
        obtain ⟨y, hy, rfl⟩ := List.mem_map.mp hq
        obtain ⟨j, hj⟩ := List.mem_iff_getElem?.mp hy
        exact hrest (j + 1) y (Nat.succ_ne_zero j) hj
      rw [hzero, add_zero]
    | succ i =>
      rw [hrest 0 a (Nat.succ_ne_zero i).symm rfl, zero_add]
      exact ih (i := i) h fun j y hj hy => hrest (j + 1) y (by omega) hy

namespace System

/-- The sum of a quantity over the connections of a session. -/
def sessionSum (w : System) (s : UUID) (f : Connection → ℚ) : ℚ :=
  (w.connections.map fun conn => if conn.claims.sid = s then f conn else 0).sum

/-- The sum of `score_delta` over the decisions persisted for the session. -/
def persistedTotal (w : System) (s : UUID) : ℚ :=
  w.sessionSum s fun conn => scoreTotal conn.persistedDecisions

/-- A later connection of the session exists. -/
def Superseded (w : System) (s : UUID) (i : Nat) : Prop :=
  ∃ j conn, i < j ∧ w.connections[j]? = some conn ∧ conn.claims.sid = s

/-- The session's current connection. -/
structure Current (w : System) (s : UUID) (i : Nat) (conn : Connection) : Prop where
  at_i : w.connections[i]? = some conn
  session : conn.claims.sid = s
  latest : ¬ w.Superseded s i

/-- No decision of the session is queued or under way. -/
def Quiet (w : System) (s : UUID) : Prop :=
  ∀ conn ∈ w.connections, conn.claims.sid = s →
    conn.outbox = [] ∧ conn.flagDecisions = [] ∧ conn.workerPc.inHand = []

/-- The column, the persisted decisions and the current aggregator agree. -/
def OneNumber (w : System) (s : UUID) : Prop :=
  w.shared.db.scoreOf s = some (w.persistedTotal s) ∧
    ∀ i conn, w.Current s i conn → conn.score = w.persistedTotal s

/-- The step lets one connection of the session do all the scoring: a handshake that gets in
    finds no score, and a superseded connection raises nothing that scores. -/
def OneScorer (s : UUID) (w : System) : Step → Prop
  | .connect claims backendAvailable now recordId =>
    w.letsIn claims backendAvailable now recordId = true → claims.sid = s →
      ∀ conn ∈ w.connections, conn.claims.sid = s → conn.score = 0
  | .on i action => w.Superseded s i → ∀ conn, w.connections[i]? = some conn →
    conn.claims.sid = s → ∀ d ∈ conn.raisedBy action, d.scoreDelta = 0

/-- The database takes what the session's workers bring. -/
def Supported (s : UUID) (w : System) : Step → Prop
  | .on i (.commitFlag c) => ∀ conn, w.connections[i]? = some conn → conn.claims.sid = s →
    ∀ item examSession, conn.workerPc = .loaded item examSession →
      Persistable w.shared.db examSession item c
  | _ => True

/-- The decisions a step raises for the session. -/
def raisedBy (s : UUID) (w : System) : Step → List FlagDecision
  | .on i action =>
    match w.connections[i]? with
    | some conn => if conn.claims.sid = s then conn.raisedBy action else []
    | none => []
  | .connect _ _ _ _ => []

/-- The decisions a run raises for the session, in order. -/
def raised (py : Pydantic) (s : UUID) : System → List Step → List FlagDecision
  | _, [] => []
  | w, l :: steps => w.raisedBy s l ++ raised py s (w.step py l) steps

section
variable {w : System} {s : UUID} {i : Nat} {conn conn' : Connection} {f : Connection → ℚ}
  {sh : Shared}

theorem sessionSum_set (hi : w.connections[i]? = some conn)
    (hclaims : conn'.claims = conn.claims) :
    (⟨sh, w.connections.set i conn'⟩ : System).sessionSum s f =
      w.sessionSum s f + if conn.claims.sid = s then f conn' - f conn else 0 := by
  rw [sessionSum, sessionSum, sum_map_set hi, hclaims]
  split <;> simp

theorem sessionSum_append {claims : SessionClaims} {examSession : ExamSession}
    {underOverride : Bool} (hf : f (.start claims examSession underOverride) = 0) :
    (⟨sh, w.connections ++ [.start claims examSession underOverride]⟩ : System).sessionSum s f =
      w.sessionSum s f := by
  simp [sessionSum, hf]

/-- A new entry at `i` changes no session, so no supersession. -/
theorem superseded_set (hi : w.connections[i]? = some conn)
    (hclaims : conn'.claims = conn.claims) {j : Nat} :
    (⟨sh, w.connections.set i conn'⟩ : System).Superseded s j ↔ w.Superseded s j := by
  have hlt : i < w.connections.length := (List.getElem?_eq_some_iff.mp hi).1
  constructor
  · rintro ⟨k, c, hjk, hk, hc⟩
    by_cases hik : i = k
    · subst hik
      rw [List.getElem?_set_self hlt] at hk
      obtain rfl := Option.some.inj hk
      exact ⟨i, conn, hjk, hi, hclaims ▸ hc⟩
    · rw [List.getElem?_set_ne hik] at hk
      exact ⟨k, c, hjk, hk, hc⟩
  · rintro ⟨k, c, hjk, hk, hc⟩
    by_cases hik : i = k
    · subst hik
      obtain rfl := Option.some.inj (hi.symm.trans hk)
      exact ⟨i, conn', hjk, List.getElem?_set_self hlt, hclaims ▸ hc⟩
    · exact ⟨k, c, hjk, by rw [List.getElem?_set_ne hik]; exact hk, hc⟩

end

/-! ## 4. The invariant

The step lemma is cut along `Effect`: a handshake that lets in, a move of a thread, and of the move
what it does to the totals persisted, to the rows in hand and to the log. -/

/-- What holds of a session after the decisions `log` were raised for it. -/
structure Tallied (s : UUID) (log : List FlagDecision) (w : System) : Prop where
  linked : w.Each Connection.Linked
  accounted : w.Each fun _ conn => conn.Accounted
  booked : w.Each fun _ conn => conn.Booked
  /-- Only the current connection has scored. -/
  superseded : ∀ i conn, w.connections[i]? = some conn → conn.claims.sid = s →
    w.Superseded s i → conn.score = 0
  total : scoreTotal log = w.sessionSum s Connection.score
  nonneg : ∀ d ∈ log, 0 ≤ d.scoreDelta
  punctual : Punctual endpointSnapshot.mediumScoreTerminationThreshold 0 log
  score : w.shared.db.scoreOf s = some (w.persistedTotal s)
  whole : ∃ n : Nat, w.persistedTotal s = n
  /-- A row loaded for a decision that scores is not stale. -/
  loaded : ∀ conn ∈ w.connections, conn.claims.sid = s → ∀ item examSession,
    conn.workerPc = .loaded item examSession → item.decision.scoreDelta ≠ 0 →
      w.shared.db.scoreOf s = some examSession.accumulatedMediumScore

section
variable {py : Pydantic} {w : System} {s : UUID} {i : Nat} {log : List FlagDecision}
  {conn : Connection} {l : Step}

/-- The item a worker holds is one of its connection's decisions. -/
theorem Tallied.inHand (h : Tallied s log w) (hconn : conn ∈ w.connections) {item : PersistedFlag}
    (hitem : item ∈ conn.workerPc.inHand) : item.decision ∈ conn.decisions := by
  rw [(h.accounted conn hconn).decisions]
  exact List.mem_append_right _ (List.mem_map_of_mem
    (List.mem_append_left _ (List.mem_append_left _ hitem)))

/-- A connection that has scored is the session's only one that has. -/
theorem Tallied.sessionSum_eq (h : Tallied s log w) (hi : w.connections[i]? = some conn)
    (hsid : conn.claims.sid = s) (hlatest : ¬ w.Superseded s i) :
    w.sessionSum s Connection.score = conn.score := by
  rw [sessionSum, sum_map_eq_single hi, if_pos hsid]
  intro j other hj hother
  by_cases hs : other.claims.sid = s
  · rw [if_pos hs]
    rcases lt_or_gt_of_ne hj with hlt | hgt
    · exact h.superseded j other hother hs ⟨i, conn, hlt, hi, hsid⟩
    · exact absurd ⟨j, other, hgt, hother, hs⟩ hlatest
  · exact if_neg hs

/-- Two connections of the session cannot both have scored. -/
theorem Tallied.eq_of_scored (h : Tallied s log w) {j : Nat} {other : Connection}
    (hi : w.connections[i]? = some conn) (hj : w.connections[j]? = some other)
    (hsid : conn.claims.sid = s) (hsid' : other.claims.sid = s) (hscore : conn.score ≠ 0)
    (hscore' : other.score ≠ 0) : i = j := by
  rcases lt_trichotomy i j with hlt | heq | hgt
  · exact absurd (h.superseded i conn hi hsid ⟨j, other, hlt, hj, hsid'⟩) hscore
  · exact heq
  · exact absurd (h.superseded j other hj hsid' ⟨i, conn, hgt, hi, hsid⟩) hscore'

/-- A worker with a scoring decision in hand belongs to the connection that scores. -/
theorem Tallied.scored (h : Tallied s log w) (hconn : conn ∈ w.connections)
    {item : PersistedFlag} (hitem : item ∈ conn.workerPc.inHand)
    (hdelta : item.decision.scoreDelta ≠ 0) : conn.score ≠ 0 :=
  fun hzero => hdelta ((h.booked conn hconn).free hzero _ (h.inHand hconn hitem))

/-- A decision persisted for one session leaves the score of every other. -/
theorem persistLoaded_scoreOf_other {db : Database} {examSession : ExamSession}
    {item : PersistedFlag} {c : PersistChoices} (hs : (db.getExamSession examSession.id).isSome)
    (hne : examSession.id ≠ s) :
    (persistLoaded db examSession item c).db.scoreOf s = db.scoreOf s := by
  rcases persistLoaded_db item c hs with ⟨-, hdb⟩ | ⟨-, hrows⟩
  · rw [hdb]
  · rw [Database.scoreOf, hrows.examSessions s, Option.map_map, Database.scoreOf]
    congr 1
    funext row
    simp [scoreAfter, Ne.symm hne]

/-- What a persisted decision makes of the session's score: its delta, added. -/
theorem Tallied.commit (h : Tallied s log w) (hconn : conn ∈ w.connections)
    (hsid : conn.claims.sid = s) {item : PersistedFlag} {examSession : ExamSession}
    {c : PersistChoices} (hpc : conn.workerPc = .loaded item examSession)
    (hpersistable : Persistable w.shared.db examSession item c) :
    (persistLoaded w.shared.db examSession item c).db.scoreOf s =
      some (w.persistedTotal s + item.decision.scoreDelta) := by
  have hlinked := h.linked conn hconn
  have hid := hlinked.loaded item examSession hpc
  have hs : (w.shared.db.getExamSession examSession.id).isSome := hid.symm ▸ hlinked.session
  have hrows : PersistedRows w.shared.db examSession item c
      (persistLoaded w.shared.db examSession item c).db := hpersistable.persistedRows hs
  have hitem : item ∈ conn.workerPc.inHand := by simp [hpc, WorkerPc.inHand]
  have hafter : (persistLoaded w.shared.db examSession item c).db.scoreOf s =
      some (scoreAfter item.decision examSession s (w.persistedTotal s)) := by
    have hbefore := h.score
    rw [Database.scoreOf, hrows.examSessions s, Option.map_map]
    simp only [Database.scoreOf, Option.map_eq_some_iff] at hbefore ⊢
    obtain ⟨row, hrow, hscore⟩ := hbefore
    exact ⟨row, hrow, by simp [hscore]⟩
  rw [hafter]
  rcases (h.booked conn hconn).unit _ (h.inHand hconn hitem) with hdelta | hdelta
  · rw [scoreAfter, if_neg (by simp [hdelta]), hdelta, add_zero]
  · -- the loaded row is the one in the table, and the sum is stored exactly
    have hfresh : w.persistedTotal s = examSession.accumulatedMediumScore :=
      Option.some.inj (h.score.symm.trans
        (h.loaded conn hconn hsid item examSession hpc (by rw [hdelta]; exact one_ne_zero)))
    obtain ⟨n, hn⟩ := h.whole
    have hstored := hpersistable.score (by rw [hdelta]; exact one_pos)
    rw [← hfresh, hdelta] at hstored
    -- a whole score has no decimals to lose
    have hexact := numeric104_of_four_decimals (n := (n + 1) * 10000)
      (by rw [hn]; push_cast; ring) hstored
    rw [scoreAfter, if_pos ⟨(hsid.symm.trans hid.symm), by rw [hdelta]; exact one_pos⟩, ← hfresh,
      hdelta, hexact, Option.getD_some]

section
variable {action : Action}

/-- What the threads of one connection do to the persisted totals. -/
theorem Tallied.persisted (h : Tallied s log w) (py : Pydantic)
    (hi : w.connections[i]? = some conn)
    (hsupported : w.Supported s (.on i action)) :
    let w' : System := ⟨(conn.act py w.shared action).1,
      w.connections.set i (conn.act py w.shared action).2⟩
    w'.shared.db.scoreOf s = some (w'.persistedTotal s) ∧
      (∃ n : Nat, w'.persistedTotal s = n) ∧
      (w'.shared.db.scoreOf s = w.shared.db.scoreOf s ∨
        ∃ c item examSession, action = .commitFlag c ∧ conn.claims.sid = s ∧
          conn.workerPc = .loaded item examSession ∧ item.decision.scoreDelta ≠ 0) := by
  intro w'
  have hconn : conn ∈ w.connections := List.mem_of_getElem? hi
  obtain ⟨hclaims, -⟩ := Connection.act_fixed py w.shared conn action
  have htotal : w'.persistedTotal s = w.persistedTotal s + if conn.claims.sid = s then
      scoreTotal (conn.act py w.shared action).2.persistedDecisions -
        scoreTotal conn.persistedDecisions else 0 := sessionSum_set hi hclaims
  rcases Connection.act_attempts py (h.linked conn hconn) action with
    ⟨hattempts, hdb⟩ | ⟨c, item, examSession, haction, hpc, hdb, hattempts⟩
  · -- nothing committed
    have hsame : w'.persistedTotal s = w.persistedTotal s := by
      rw [htotal, Connection.persistedDecisions, hattempts, Connection.persistedDecisions]
      simp
    have hscore : w'.shared.db.scoreOf s = w.shared.db.scoreOf s := congrArg (·.scoreOf s) hdb
    rw [hsame, hscore]
    exact ⟨h.score, h.whole, .inl rfl⟩
  -- a commit of the worker's: the flag's delta is 0 or 1, and the stored score grows by it
  · have hid := (h.linked conn hconn).loaded item examSession hpc
    by_cases hsid : conn.claims.sid = s
    · subst haction
      have hsum : w'.persistedTotal s = w.persistedTotal s + item.decision.scoreDelta := by
        rw [htotal, if_pos hsid, Connection.persistedDecisions, hattempts,
          Connection.persistedDecisions]
        simp [PersistAttempt.between]
      have hcommit := h.commit hconn hsid hpc (hsupported conn hi hsid item examSession hpc)
      rw [← hdb] at hcommit
      obtain ⟨n, hn⟩ := h.whole
      have hitem : item ∈ conn.workerPc.inHand := by simp [hpc, WorkerPc.inHand]
      rcases (h.booked conn hconn).unit _ (h.inHand hconn hitem) with hdelta | hdelta
      · refine ⟨by rw [hsum]; exact hcommit, ⟨n, by rw [hsum, hn, hdelta, add_zero]⟩, .inl ?_⟩
        rw [h.score, hcommit, hdelta, add_zero]
      · refine ⟨by rw [hsum]; exact hcommit, ⟨n + 1, by rw [hsum, hn, hdelta]; push_cast; rfl⟩,
          .inr ⟨c, item, examSession, rfl, hsid, hpc, ?_⟩⟩
        rw [hdelta]
        exact one_ne_zero
    · -- a commit for another session
      have hsame : w'.persistedTotal s = w.persistedTotal s := by
        rw [htotal, if_neg hsid, add_zero]
      have hscore : w'.shared.db.scoreOf s = w.shared.db.scoreOf s := by
        show (conn.act py w.shared action).1.db.scoreOf s = _
        rw [hdb]
        exact persistLoaded_scoreOf_other (hid.symm ▸ (h.linked conn hconn).session)
          (fun heq => hsid (hid.symm.trans heq))
      rw [hsame, hscore]
      exact ⟨h.score, h.whole, .inl rfl⟩

/-- Only a worker of the session changes its score, and then no other holds a scoring row. -/
theorem Tallied.loaded_acted (h : Tallied s log w) (hi : w.connections[i]? = some conn)
    (hsupported : w.Supported s (.on i action)) {j : Nat} {other : Connection}
    (hj : (w.connections.set i (conn.act py w.shared action).2)[j]? = some other)
    (hsid : other.claims.sid = s) {item : PersistedFlag} {examSession : ExamSession}
    (hpc : other.workerPc = .loaded item examSession) (hdelta : item.decision.scoreDelta ≠ 0) :
    (conn.act py w.shared action).1.db.scoreOf s = some examSession.accumulatedMediumScore := by
  have hconn : conn ∈ w.connections := List.mem_of_getElem? hi
  obtain ⟨hclaims, -⟩ := Connection.act_fixed py w.shared conn action
  obtain ⟨-, -, hscore⟩ := h.persisted py hi hsupported
  rcases getElem?_set_cases hj with ⟨rfl, rfl⟩ | ⟨hne, hold⟩
  -- the worker that moved
  · rw [hclaims] at hsid
    rcases Connection.act_loaded hpc with hold | ⟨haction, -, hload⟩
    · rcases hscore with hsame | ⟨c, item', row, rfl, -, hpc', -⟩
      · exact hsame.trans (h.loaded conn hconn hsid item examSession hold hdelta)
      · -- a worker that has committed holds nothing
        simp [Connection.act, Connection.commitFlag, hpc'] at hpc
    · subst haction
      rw [(h.linked conn hconn).context, hsid] at hload
      show w.shared.db.scoreOf s = _
      rw [Database.scoreOf, hload]
      rfl
  -- another worker: if this one has committed a score, both connections have scored
  · have hother : other ∈ w.connections := List.mem_of_getElem? hold
    rcases hscore with hsame | ⟨c, item', row, rfl, hsid', hpc', hdelta'⟩
    · exact hsame.trans (h.loaded other hother hsid item examSession hpc hdelta)
    · have hscored := h.scored hconn (by simp [hpc', WorkerPc.inHand]) hdelta'
      have hscored' := h.scored hother (by simp [hpc, WorkerPc.inHand]) hdelta
      exact absurd (h.eq_of_scored hi hold hsid' hsid hscored hscored') (Ne.symm hne)

/-- What the threads of one connection raise keeps the log punctual. -/
theorem Tallied.punctual_acted (h : Tallied s log w) (hi : w.connections[i]? = some conn)
    (hsid : conn.claims.sid = s) (hscorer : w.OneScorer s (.on i action)) :
    Punctual endpointSnapshot.mediumScoreTerminationThreshold 0 (log ++ conn.raisedBy action) := by
  have hconn : conn ∈ w.connections := List.mem_of_getElem? hi
  obtain ⟨-, hscores⟩ := Connection.act_scores .strict w.shared
    (h.linked conn hconn).policySnapshot action
  refine h.punctual.append ?_
  rw [zero_add]
  by_cases hsuperseded : w.Superseded s i
  · have hfree := hscorer hsuperseded conn hi hsid
    have hpunctual := hscores.punctual
    rw [show conn.dispatcher.aggregator.accumulatedScore = 0 from
      h.superseded i conn hi hsid hsuperseded] at hpunctual
    exact .of_free fun d hd =>
      ⟨hfree d hd, hpunctual.not_pathThree (by decide +kernel) hfree d hd⟩
  · rw [h.total, h.sessionSum_eq hi hsid hsuperseded]
    exact hscores.punctual

/-- A new connection has scored nothing, and the one it supersedes had not either. -/
theorem Tallied.admitted {claims : SessionClaims} {db : Database} {examSession : ExamSession}
    {underOverride : Bool} (h : Tallied s log w) (hframe : AdmissionFrame w.shared.db db)
    (hscorer : claims.sid = s → ∀ conn ∈ w.connections, conn.claims.sid = s → conn.score = 0)
    {w' : System} (hw' : w' = ⟨{ w.shared with db := db },
      w.connections ++ [.start claims examSession underOverride]⟩)
    (hlinked : w'.Each Connection.Linked) (haccounted : w'.Each fun _ conn => conn.Accounted)
    (hbooked : w'.Each fun _ conn => conn.Booked) : Tallied s log w' := by
  subst hw'
  have hscore : db.scoreOf s = w.shared.db.scoreOf s := hframe.scoreOf s
  have hsum : ∀ f : Connection → ℚ, f (.start claims examSession underOverride) = 0 →
      (⟨{ w.shared with db := db }, w.connections ++
        [.start claims examSession underOverride]⟩ : System).sessionSum s f =
          w.sessionSum s f := fun f hf => sessionSum_append hf
  refine ⟨hlinked, haccounted, hbooked, ?_, ?_, h.nonneg, h.punctual, ?_, ?_, ?_⟩
  · intro i conn hi hsid hsuperseded
    rcases List.mem_append.mp (List.mem_of_getElem? hi) with hconn | hconn
    · by_cases hsid' : claims.sid = s
      · exact hscorer hsid' conn hconn hsid
      · -- the new connection is of another session and supersedes nothing
        obtain ⟨j, other, hij, hj, hother⟩ := hsuperseded
        rcases Nat.lt_or_ge j w.connections.length with hlt | hge
        · rw [List.getElem?_append_left hlt] at hj
          rw [List.getElem?_append_left (hij.trans hlt)] at hi
          exact h.superseded i conn hi hsid ⟨j, other, hij, hj, hother⟩
        · rw [List.getElem?_append_right hge] at hj
          have hnew := List.mem_singleton.mp (List.mem_of_getElem? hj)
          exact absurd (by rw [← hother, hnew]; rfl) hsid'
    · rw [List.mem_singleton.mp hconn]
      rfl
  -- the new connection starts at score 0 and has persisted nothing
  · rw [hsum _ rfl]
    exact h.total
  · rw [persistedTotal, hsum _ rfl]
    exact hscore.trans h.score
  · rw [persistedTotal, hsum _ rfl]
    exact h.whole
  · intro conn hconn hsid item row hpc hdelta
    rcases List.mem_append.mp hconn with hconn | hconn
    · exact hscore.trans (h.loaded conn hconn hsid item row hpc hdelta)
    · rw [List.mem_singleton.mp hconn] at hpc
      cases underOverride <;> exact absurd hpc (by simp [Connection.start])

/-- What the threads of one connection raise is added to its score and to no other. -/
theorem Tallied.acted (h : Tallied s log w) (hi : w.connections[i]? = some conn)
    (hscorer : w.OneScorer s (.on i action)) (hsupported : w.Supported s (.on i action))
    {w' : System} (hw' : w' = ⟨(conn.act py w.shared action).1,
      w.connections.set i (conn.act py w.shared action).2⟩)
    (hlinked : w'.Each Connection.Linked) (haccounted : w'.Each fun _ conn => conn.Accounted)
    (hbooked : w'.Each fun _ conn => conn.Booked) :
    Tallied s (log ++ w.raisedBy s (.on i action)) w' := by
  subst hw'
  have hconn : conn ∈ w.connections := List.mem_of_getElem? hi
  obtain ⟨hclaims, -⟩ := Connection.act_fixed py w.shared conn action
  obtain ⟨-, hscores⟩ := Connection.act_scores py w.shared
    (h.linked conn hconn).policySnapshot action
  obtain ⟨hscore, hwhole, -⟩ := h.persisted py hi hsupported
  have hraised : w.raisedBy s (.on i action) =
      if conn.claims.sid = s then conn.raisedBy action else [] := by
    simp [System.raisedBy, hi]
  have hgrown : (conn.act py w.shared action).2.score =
      conn.score + scoreTotal (conn.raisedBy action) := hscores.score
  rw [hraised]
  refine ⟨hlinked, haccounted, hbooked, ?_, ?_, ?_, ?_, hscore, hwhole, ?_⟩
  -- a superseded connection raises nothing, by the hypothesis on the step
  · intro j other hj hsid hsuperseded
    have hbefore := (superseded_set hi hclaims).mp hsuperseded
    rcases getElem?_set_cases hj with ⟨rfl, rfl⟩ | ⟨-, hold⟩
    · rw [hclaims] at hsid
      rw [hgrown, h.superseded j conn hi hsid hbefore,
        scoreTotal_eq_zero (hscorer hbefore conn hi hsid), add_zero]
    · exact h.superseded j other hold hsid hbefore
  -- the total of the log is the sum of the scores
  · rw [scoreTotal_append, h.total, sessionSum_set hi hclaims, hgrown]
    split <;> simp
  · intro d hd
    rcases List.mem_append.mp hd with hd | hd
    · exact h.nonneg d hd
    · split at hd
      · rcases hscores.unit d hd with hdelta | hdelta <;> rw [hdelta]
        exact zero_le_one
      · exact absurd hd List.not_mem_nil
  · split
    · exact h.punctual_acted hi ‹_› hscorer
    · rw [List.append_nil]
      exact h.punctual
  · intro other hother hsid item row hpc hdelta
    obtain ⟨j, hj⟩ := List.mem_iff_getElem?.mp hother
    exact h.loaded_acted hi hsupported hj hsid hpc hdelta

/-- **One step keeps the tally**, if it leaves the scoring to one connection. -/
theorem tallied_step (h : Tallied s log w) (hscorer : w.OneScorer s l)
    (hsupported : w.Supported s l) : Tallied s (log ++ w.raisedBy s l) (w.step py l) := by
  have hlinked : (w.step py l).Each Connection.Linked := linked_step l h.linked
  have haccounted : (w.step py l).Each fun _ conn => conn.Accounted :=
    each_step l h.accounted (fun _ _ _ hconn => hconn)
      (fun _ _ _ _ _ _ => Connection.accounted_start)
      (fun _ action _ _ _ hconn => hconn.act action) fun _ _ _ _ _ _ _ hother => hother
  have hbooked : (w.step py l).Each fun _ conn => conn.Booked :=
    each_step l h.booked (fun _ _ _ hconn => hconn) (fun _ _ _ _ _ _ => Connection.booked_start)
      (fun _ action conn _ hi hconn =>
        hconn.act (h.linked conn (List.mem_of_getElem? hi)).policySnapshot action)
      fun _ _ _ _ _ _ _ hother => hother
  have hconnect : ∀ claims b now id, w.raisedBy s (.connect claims b now id) = [] :=
    fun _ _ _ _ => rfl
  have heffect := step_effect py w l
  generalize w.step py l = w' at heffect hlinked haccounted hbooked
  cases heffect with
  | idle habsent =>
    have hnone : w.raisedBy s l = [] := by
      cases l with
      | connect _ _ _ _ => rfl
      | on i action => simp [System.raisedBy, habsent i action rfl]
    rw [hnone, List.append_nil]
    exact h
  -- a blocked handshake has written a record and no score
  | blocked hframe =>
    have hscore := hframe.scoreOf s
    rw [hconnect, List.append_nil]
    exact ⟨hlinked, haccounted, hbooked, h.superseded, h.total, h.nonneg, h.punctual,
      hscore.trans h.score, h.whole, fun conn hconn hsid item row hpc hdelta =>
        hscore.trans (h.loaded conn hconn hsid item row hpc hdelta)⟩
  | admitted _ hframe hletIn =>
    rw [hconnect, List.append_nil]
    exact h.admitted hframe (hscorer hletIn) rfl hlinked haccounted hbooked
  | acted hi => exact h.acted hi hscorer hsupported rfl hlinked haccounted hbooked

end

end

/-! ## 5. The verdict

From the steps to a run, and from the totals to the one number a reader of the table and of the
aggregator would compare. -/

section
variable {py : Pydantic} {w : System} {s : UUID} {log : List FlagDecision} {steps : List Step}

open Run in
theorem tallied_run (h : Tallied s log w) (hscorer : EachStep (step py) (OneScorer s) w steps)
    (hsupported : EachStep (step py) (Supported s) w steps) :
    Tallied s (log ++ raised py s w steps) (final (step py) w steps) := by
  induction steps generalizing w log with
  | nil => simpa [raised] using h
  | cons l steps ih =>
    rw [raised, ← List.append_assoc]
    exact ih (tallied_step h hscorer.1 hsupported.1) hscorer.2 hsupported.2

/-- With nothing queued, what was raised is what was persisted. -/
theorem Tallied.oneNumber (h : Tallied s log w) (hquiet : w.Quiet s) : w.OneNumber s := by
  refine ⟨h.score, ?_⟩
  intro i conn hcurrent
  rw [← h.sessionSum_eq hcurrent.at_i hcurrent.session hcurrent.latest, persistedTotal]
  unfold sessionSum
  congr 1
  apply List.map_congr_left
  intro other hother
  split
  · rename_i hsid
    obtain ⟨houtbox, hqueue, hhand⟩ := hquiet other hother hsid
    rw [(h.booked other hother).score, (h.accounted other hother).decisions, houtbox, hqueue,
      hhand]
    simp
  · rfl

open Run in
theorem tallied_always (h : Tallied s log w)
    (hscorer : EachStep (step py) (OneScorer s) w steps)
    (hsupported : EachStep (step py) (Supported s) w steps) :
    Always (step py) (fun w' => w'.Quiet s → w'.OneNumber s) w steps := by
  induction steps generalizing w log with
  | nil => exact h.oneNumber
  | cons l steps ih =>
    exact ⟨h.oneNumber, ih (tallied_step h hscorer.1 hsupported.1) hscorer.2 hsupported.2⟩

theorem tallied_idle {eventBuffer : TelemetryEventBuffer} {db : Database}
    (hzero : db.scoreOf s = some 0) : Tallied s [] (idle eventBuffer db) where
  linked _ hconn := absurd hconn List.not_mem_nil
  accounted _ hconn := absurd hconn List.not_mem_nil
  booked _ hconn := absurd hconn List.not_mem_nil
  superseded _ _ hi := absurd hi (by simp [idle])
  total := rfl
  nonneg _ hd := absurd hd List.not_mem_nil
  punctual := .nil
  score := hzero
  whole := ⟨0, rfl⟩
  loaded _ hconn := absurd hconn List.not_mem_nil

end

open Run in
/-- **The score is one number in every run in which one connection does all the scoring**, and then
    the decision that takes the session's total to the threshold is the one that raises Path 3. A
    new connection has a new aggregator, which starts at nothing and never reads the column. -/
theorem oneNumber_of_oneScorer {py : Pydantic} {eventBuffer : TelemetryEventBuffer}
    {db : Database} {s : UUID} {steps : List Step} (hzero : db.scoreOf s = some 0)
    (hsupported : EachStep (step py) (Supported s) (idle eventBuffer db) steps)
    (hscorer : EachStep (step py) (OneScorer s) (idle eventBuffer db) steps) :
    Always (step py) (fun w => w.Quiet s → w.OneNumber s) (idle eventBuffer db) steps ∧
      ∀ pre d post, raised py s (idle eventBuffer db) steps = pre ++ d :: post →
        scoreTotal pre < endpointSnapshot.mediumScoreTerminationThreshold →
        endpointSnapshot.mediumScoreTerminationThreshold ≤ scoreTotal pre + d.scoreDelta →
          (∀ x ∈ pre, ¬ x.IsPathThree) ∧ ∃ p ∈ post.head?, p.IsPathThree := by
  refine ⟨tallied_always (tallied_idle hzero) hscorer hsupported, ?_⟩
  intro pre d post hraised hshort hreach
  have hend := tallied_run (tallied_idle hzero) hscorer hsupported
  rw [List.nil_append, hraised] at hend
  refine hend.punctual.first (fun x hx => hend.nonneg x (List.mem_append_left _ hx)) ?_ ?_
  · rw [zero_add]
    exact hshort
  · rw [zero_add]
    exact hreach

instance {w : System} {s : UUID} {i : Nat} : Decidable (w.Superseded s i) :=
  decidable_of_iff ((w.connections.drop (i + 1)).any (·.claims.sid = s)) <| by
    simp only [List.any_eq_true, decide_eq_true_eq]
    constructor
    · rintro ⟨conn, hconn, hsid⟩
      obtain ⟨k, hk⟩ := List.mem_iff_getElem?.mp hconn
      rw [List.getElem?_drop] at hk
      exact ⟨i + 1 + k, conn, by omega, hk, hsid⟩
    · rintro ⟨j, conn, hij, hj, hsid⟩
      refine ⟨conn, List.mem_iff_getElem?.mpr ⟨j - (i + 1), ?_⟩, hsid⟩
      rw [List.getElem?_drop, show i + 1 + (j - (i + 1)) = j by omega]
      exact hj

instance {s : UUID} {w : System} : DecidablePred (OneScorer s w)
  | .connect claims backendAvailable now recordId => inferInstanceAs (Decidable
      (w.letsIn claims backendAvailable now recordId = true → claims.sid = s →
        ∀ conn ∈ w.connections, conn.claims.sid = s → conn.score = 0))
  | .on i action =>
    match hslot : w.connections[i]? with
    | none => isTrue fun _ _ hconn => absurd (hslot.symm.trans hconn) (by simp)
    | some conn =>
      decidable_of_iff (w.Superseded s i → conn.claims.sid = s →
        ∀ d ∈ conn.raisedBy action, d.scoreDelta = 0) <| by simp [OneScorer, hslot]

instance {s : UUID} {w : System} : DecidablePred (Supported s w)
  | .on i (.commitFlag c) =>
    match hslot : w.connections[i]? with
    | none => isTrue fun _ hconn => absurd (hslot.symm.trans hconn) (by simp)
    | some conn =>
      match hpc : conn.workerPc with
      | .loaded item examSession =>
        decidable_of_iff (conn.claims.sid = s → Persistable w.shared.db examSession item c) <| by
          simp [Supported, hslot, hpc]
      | .notStarted | .top | .getting | .holding _ | .exited =>
        isTrue <| by simp [Supported, hslot, hpc]
  | .connect _ _ _ _ => isTrue trivial
  | .on _ (.receive _ _) | .on _ .disconnect | .on _ (.joinWorker _) | .on _ (.joinDispatcher _)
  | .on _ .checkDispatcherStop | .on _ .drain | .on _ (.dispatchNext _ _) | .on _ .putFlag
  | .on _ .checkWorkerStop | .on _ .getFlag | .on _ .loadSession => isTrue trivial

/-- A `blur` of session 1, persisted. -/
def scoringSteps : List Step :=
  [.connect firstClaims true 0 0, .on 0 (.receive 0 (some blurFrame)),
    .on 0 .checkDispatcherStop, .on 0 .drain, .on 0 (.dispatchNext 10 .unused), .on 0 .putFlag,
    .on 0 .checkWorkerStop, .on 0 .getFlag, .on 0 .loadSession, .on 0 (.commitFlag ⟨20, 0, true⟩)]

open Run in
theorem scoringSteps_oneNumber :
    (final (step .strict) (idle appEventBuffer activeDatabase) scoringSteps).persistedTotal 1 = 1 ∧
      Always (step .strict) (fun w => w.Quiet 1 → w.OneNumber 1)
        (idle appEventBuffer activeDatabase) scoringSteps :=
  ⟨by decide +kernel, (oneNumber_of_oneScorer (by decide +kernel) (by decide +kernel)
    (by decide +kernel)).1⟩

/-- The same, and then the client connects again. -/
def reconnectSteps : List Step := scoringSteps ++ [.connect firstClaims true 0 0]

open Run in
/-- The second connection's aggregator starts at zero, whatever the session had scored. -/
theorem reconnectSteps_not_oneNumber :
    ¬ ∀ (py : Pydantic) (eventBuffer : TelemetryEventBuffer) (db : Database) (s : UUID)
      (steps : List Step), db.scoreOf s = some 0 →
      EachStep (step py) (Supported s) (idle eventBuffer db) steps →
        Always (step py) (fun w => w.Quiet s → w.OneNumber s) (idle eventBuffer db) steps := by
  intro h
  have hend := (h .strict appEventBuffer activeDatabase 1 reconnectSteps (by decide +kernel)
    (by decide +kernel)).final
  let w := final (step .strict) (idle appEventBuffer activeDatabase) reconnectSteps
  have hquiet : w.connections.all fun conn =>
      conn.outbox = [] ∧ conn.flagDecisions = [] ∧ conn.workerPc.inHand = [] := by decide +kernel
  have hnumber := hend fun conn hconn _ => of_decide_eq_true (List.all_eq_true.mp hquiet conn hconn)
  have hrun : w.connections[1]?.any fun conn =>
      conn.claims.sid = 1 ∧ conn.score ≠ w.persistedTotal 1 := by decide +kernel
  obtain ⟨conn, hconn, hdiffers⟩ := (Option.any_eq_true _ _).mp hrun
  obtain ⟨hsid, hne⟩ := of_decide_eq_true hdiffers
  have hlatest : ¬ w.Superseded 1 1 := by decide +kernel
  exact hne (hnumber.2 1 conn ⟨hconn, hsid, hlatest⟩)

end System

end ProctorEngine
