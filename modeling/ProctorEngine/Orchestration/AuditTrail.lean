import ProctorEngine.Lib.Run
import ProctorEngine.Fusion.Contributions
import ProctorEngine.Orchestration.FrameDispatcher

/-!
# What the audit trail keeps of a detection

The dispatcher of one session and the worker behind it: events are dispatched one by one, their
flags cross a queue, and the worker persists each with the telemetry rows of the events it carries.
**No other code writes a telemetry row**, so an event has one exactly when, at its own dispatch or a
later one, a rule fires and names it (`AuditRun.audited_iff_traced`). A book in a session that
permits it is named by no rule, and neither is a frame off screen unless a gaze decision takes up
the streak it belongs to.

The argument follows one event. It is put into the dispatcher's map when it is dispatched, and from
there

* a rule that fires and names it pops it into the flag of the decision;
* the flag waits in the dispatcher, then on the queue;
* the worker takes the flag and inserts a row for every event it carries.

So an event is in exactly one of three places, and which one depends on whether it has been named
yet. `Accounted` says that for all events at once and is the invariant of the run. The map is never
pruned, so an event that no rule names waits there for as long as the session lasts.

The condition is about the rules and the state they found, which is why a dispatch is logged with
the aggregator as it was before it. The database is assumed to take what it is given
(`NoDatabaseFailure`); what it can lose otherwise is the subject of `FlagTransaction`.
-/

set_option autoImplicit false

namespace ProctorEngine

open SessionAggregator

/-! ## 1. Dispatcher and worker

One session, with the run's log of dispatches beside the state. The log is read by the statements
only, no step looks at it but for the keys that `uuid4` has drawn. -/

/-- The object detector reports a denylisted object, or the frame is off screen. -/
def InferenceEvent.IsDetection : InferenceEvent → Prop
  | .objectDetection _ _ _ => True
  | .gaze result _ _ => result.offScreen = some true
  | _ => False

instance : DecidablePred InferenceEvent.IsDetection
  | .objectDetection _ _ _ => isTrue trivial
  | .gaze result _ _ => inferInstanceAs (Decidable (result.offScreen = some true))
  | .facePresence _ _ | .liveness _ _ | .identityMatch _ _ | .identityCheckUnavailable _
  | .browserEvent _ _ | .audioVad _ _ => isFalse id

/-- One dispatch that happened: the key drawn, and the results with the state they found. -/
structure Dispatch where
  syntheticId : UUID
  aggregator : SessionAggregator
  results : List InferenceEvent
deriving DecidableEq

namespace Dispatch

def Detects (x : Dispatch) : Prop := ∃ e ∈ x.results, e.IsDetection

instance : DecidablePred Detects := fun x =>
  inferInstanceAs (Decidable (∃ e ∈ x.results, e.IsDetection))

/-- A rule that fires in this dispatch names the event. -/
def Names (config : FrameDispatcherConfig) (x : Dispatch) (id : UUID) : Prop :=
  ContributesAny config.policySnapshot config.context id x.aggregator x.results

end Dispatch

/-- Dispatcher, queue, worker, and what was dispatched so far, the oldest first. -/
structure AuditRun where
  dispatcher : FrameDispatcher
  /-- The flags of the last dispatch that are not on the queue yet. -/
  pending : List PersistedFlag
  flagDecisions : List PersistedFlag
  db : Database
  dispatches : List Dispatch

inductive AuditStep where
  | dispatch (event : BufferedEvent) (syntheticId : UUID) (answers : RunnerAnswers)
  | putFlag
  | persist (c : PersistChoices)
deriving DecidableEq

namespace AuditRun

def start (config : FrameDispatcherConfig) (livenessBackend : Bool) (db : Database) : AuditRun where
  dispatcher := .new config livenessBackend
  pending := []
  flagDecisions := []
  db := db
  dispatches := []

/-- The keys drawn so far. -/
def dispatchedIds (w : AuditRun) : List UUID := w.dispatches.map (·.syntheticId)

/-- The keys of the events that the flags not persisted yet carry. -/
def carriedIds (w : AuditRun) : List UUID :=
  ((w.flagDecisions ++ w.pending).flatMap (·.contributingEvents)).map (·.syntheticId)

/-- One step of the session's dispatcher or of its worker. The dispatcher puts the flags of one
    event on the queue before it takes the next, and `uuid4` draws no key twice. -/
def step (sid : UUID) (w : AuditRun) : AuditStep → AuditRun
  | .dispatch event syntheticId answers =>
    if w.pending = [] ∧ syntheticId ∉ w.dispatchedIds ∧ syntheticId ∉ w.db.telemetryIds then
      let dispatched := w.dispatcher.dispatchEvent event syntheticId answers
      { w with
        dispatcher := dispatched.2
        pending := dispatched.1
        dispatches := w.dispatches ++ [⟨syntheticId, w.dispatcher.aggregator,
          w.dispatcher.inferenceEvents event.message syntheticId answers⟩] }
    else w
  | .putFlag =>
    match w.pending with
    | [] => w
    | item :: rest => { w with pending := rest, flagDecisions := w.flagDecisions ++ [item] }
  | .persist c =>
    match w.flagDecisions with
    | [] => w
    | item :: rest => { w with flagDecisions := rest, db := (persistOne w.db sid item c).db }

/-- The worker finds its session and the transaction of the flag commits. -/
def NoDatabaseFailure (sid : UUID) (w : AuditRun) : AuditStep → Prop
  | .persist c => ∀ item ∈ w.flagDecisions.head?, ∃ examSession,
      w.db.getExamSession sid = some examSession ∧ Persistable w.db examSession item c
  | _ => True

instance {sid : UUID} {w : AuditRun} : DecidablePred (NoDatabaseFailure sid w)
  | .persist c =>
    decidable_of_iff (∀ item ∈ w.flagDecisions.head?.toList,
      ∃ examSession ∈ (w.db.getExamSession sid).toList,
        Persistable w.db examSession item c) (by simp [NoDatabaseFailure])
  | .dispatch _ _ _ | .putFlag => isTrue trivial

def Drained (w : AuditRun) : Prop := w.pending = [] ∧ w.flagDecisions = []

instance : DecidablePred Drained := fun w =>
  inferInstanceAs (Decidable (w.pending = [] ∧ w.flagDecisions = []))

/-- The event has its telemetry row, under the session. -/
def Recorded (sid : UUID) (w : AuditRun) (x : Dispatch) : Prop :=
  ∃ row ∈ w.db.telemetryEvents.rows, row.id = x.syntheticId ∧ row.examSessionId = sid

def Audited (sid : UUID) (w : AuditRun) : Prop :=
  ∀ x ∈ w.dispatches, x.Detects → w.Recorded sid x

instance {sid : UUID} : DecidablePred (Audited sid) := fun w =>
  inferInstanceAs (Decidable (∀ x ∈ w.dispatches, x.Detects →
    ∃ row ∈ w.db.telemetryEvents.rows, row.id = x.syntheticId ∧ row.examSessionId = sid))

/-- Every detection is named by a rule that fires, at its own dispatch or a later one. -/
def Traced (w : AuditRun) : Prop :=
  ∀ earlier x later, w.dispatches = earlier ++ x :: later → x.Detects →
    ∃ z ∈ x :: later, z.Names w.dispatcher.config x.syntheticId

end AuditRun

/-! ## 2. The map of dispatched events

Each of `_emit`'s calls takes the events it names out of the map, and no others. -/

/-- The flags carry the events of the map that `N` names; those are gone from it and the others
    stay. -/
structure Carries (buffered : List (UUID × DispatchedEvent)) (N : UUID → Prop)
    (flags : List PersistedFlag) (left : List (UUID × DispatchedEvent)) : Prop where
  carried : ∀ e, (∃ f ∈ flags, e ∈ f.contributingEvents) ↔
    ∃ id, N id ∧ buffered.lookup id = some e
  gone : ∀ id, N id → left.lookup id = none
  kept : ∀ id, ¬ N id → left.lookup id = buffered.lookup id

theorem lookup_filter_ne {α : Type} (l : List (UUID × α)) (id j : UUID) :
    (l.filter (·.1 ≠ id)).lookup j = if j = id then none else l.lookup j := by
  induction l with
  | nil => simp
  | cons x l ih =>
    obtain ⟨k, v⟩ := x
    by_cases hk : k = id
    · rw [List.filter_cons_of_neg (by simp [hk]), ih, List.lookup_cons]
      by_cases hj : j = id
      · simp [hj]
      · simp [hj, hk, beq_false_of_ne hj]
    · rw [List.filter_cons_of_pos (by simp [hk]), List.lookup_cons, List.lookup_cons, ih]
      by_cases hj : j = k
      · simp [hj, hk]
      · simp [beq_false_of_ne hj]

section
variable {d : FrameDispatcher} {buffered mid left : List (UUID × DispatchedEvent)}
  {N N' : UUID → Prop} {flags flags' : List PersistedFlag} {id syntheticId : UUID}
  {e : DispatchedEvent}

theorem Carries.refl : Carries buffered (fun _ => False) [] buffered :=
  ⟨by simp, by simp, by simp⟩

/-- The second call finds what the first left. -/
theorem Carries.trans (h : Carries buffered N flags mid) (h' : Carries mid N' flags' left) :
    Carries buffered (fun id => N id ∨ N' id) (flags ++ flags') left := by
  refine ⟨?_, ?_, ?_⟩
  · intro e
    simp only [List.mem_append, or_and_right, exists_or, h.carried e, h'.carried e]
    constructor
    · rintro (⟨id, hid, he⟩ | ⟨id, hid, he⟩)
      · exact .inl ⟨id, hid, he⟩
      · by_cases hN : N id
        · exact absurd ((h.gone id hN).symm.trans he) (by simp)
        · exact .inr ⟨id, hid, h.kept id hN ▸ he⟩
    · rintro (⟨id, hid, he⟩ | ⟨id, hid, he⟩)
      · exact .inl ⟨id, hid, he⟩
      · by_cases hN : N id
        · exact .inl ⟨id, hN, he⟩
        · exact .inr ⟨id, hid, (h.kept id hN).trans he⟩
  · intro id hid
    by_cases hN' : N' id
    · exact h'.gone id hN'
    · rw [h'.kept id hN']
      exact h.gone id (hid.resolve_right hN')
  · intro id hid
    rw [h'.kept id fun h => hid (.inr h)]
    exact h.kept id fun h => hid (.inl h)

theorem Carries.congr (h : Carries buffered N flags left) (hN : ∀ id, N id ↔ N' id) :
    Carries buffered N' flags left := by
  obtain rfl : N = N' := funext fun id => propext (hN id)
  exact h

namespace FrameDispatcher

theorem popBuffered_lookup (ids : List UUID) :
    (popBuffered buffered ids).2.lookup id = if id ∈ ids then none else buffered.lookup id := by
  induction ids generalizing buffered with
  | nil => simp [popBuffered]
  | cons j ids ih =>
    simp only [popBuffered, ih, lookup_filter_ne, List.mem_cons]
    by_cases hid : id ∈ ids
    · simp [hid]
    · simp [hid]

theorem mem_popBuffered {ids : List UUID} :
    e ∈ (popBuffered buffered ids).1 ↔ ∃ id ∈ ids, buffered.lookup id = some e := by
  induction ids generalizing buffered with
  | nil => simp [popBuffered]
  | cons j ids ih =>
    simp only [popBuffered, List.mem_append, Option.mem_toList, ih, lookup_filter_ne,
      List.mem_cons, exists_eq_or_imp]
    constructor
    · rintro (he | ⟨id, hid, he⟩)
      · exact .inl he
      · split at he
        · exact absurd he (by simp)
        · exact .inr ⟨id, hid, he⟩
    · rintro (he | ⟨id, hid, he⟩)
      · exact .inl he
      · by_cases hj : id = j
        · exact .inl (hj ▸ he)
        · exact .inr ⟨id, hid, by rw [if_neg hj]; exact he⟩

theorem emit_carries (decisions : List FlagDecision) :
    Carries d.eventIdToBuffered (NamedBy decisions) (d.emit decisions).1
      (d.emit decisions).2.eventIdToBuffered := by
  induction decisions generalizing d with
  | nil => exact Carries.refl.congr fun id => by simp
  | cons decision decisions ih =>
    have hpopped : Carries d.eventIdToBuffered (· ∈ decision.contributingEventIds)
        [⟨decision, (popBuffered d.eventIdToBuffered decision.contributingEventIds).1⟩]
        (popBuffered d.eventIdToBuffered decision.contributingEventIds).2 := by
      refine ⟨?_, ?_, ?_⟩
      · intro e
        simp [mem_popBuffered]
      · intro id hid
        rw [popBuffered_lookup, if_pos hid]
      · intro id hid
        rw [popBuffered_lookup, if_neg hid]
    have hrest := ih (d := { d with
      eventIdToBuffered := (popBuffered d.eventIdToBuffered decision.contributingEventIds).2 })
    exact (hpopped.trans hrest).congr fun id => namedBy_cons.symm

/-- **What a dispatch takes out of the map is what the rules that fire name.** -/
theorem feed_carries (events : List InferenceEvent) :
    Carries d.eventIdToBuffered
      (fun id => ContributesAny d.config.policySnapshot d.config.context id d.aggregator events)
      (d.feed events).1 (d.feed events).2.eventIdToBuffered := by
  induction events generalizing d with
  | nil => exact Carries.refl
  | cons e events ih =>
    have hone : Carries d.eventIdToBuffered
        (NamedBy (d.aggregator.process d.config.policySnapshot d.config.context e).1)
        (d.feedOne e).1 (d.feedOne e).2.eventIdToBuffered :=
      emit_carries (d := d.heard e) _
    rw [feed_cons]
    apply (hone.trans ih).congr
    intro id
    rw [feedOne_config, feedOne_aggregator, namedBy_process]
    exact Iff.rfl

/-- A dispatch puts its event into the map and then takes out what its rules name. -/
theorem dispatchEvent_carries (d : FrameDispatcher) (event : BufferedEvent) (syntheticId : UUID)
    (answers : RunnerAnswers) :
    Carries
      ((syntheticId, ({ event with syntheticId } : DispatchedEvent)) ::
        d.eventIdToBuffered.filter (·.1 ≠ syntheticId))
      (fun id => Dispatch.Names d.config ⟨syntheticId, d.aggregator,
        d.inferenceEvents event.message syntheticId answers⟩ id)
      (d.dispatchEvent event syntheticId answers).1
      (d.dispatchEvent event syntheticId answers).2.eventIdToBuffered :=
  feed_carries (d := { d with
    heavyFrameSeq := d.nextHeavyFrameSeq event.message answers
    eventIdToBuffered := (syntheticId, { event with syntheticId }) ::
      d.eventIdToBuffered.filter (·.1 ≠ syntheticId) }) _

end FrameDispatcher

end

/-! ## 3. Where an event stands

The invariant and what each of the three steps does to it. A dispatch is described by
`DispatchEffect` first, so that the invariant's case for it is about lists and keys and no longer
about the dispatcher. -/

/-- `earlier ++ x :: later` read off a list with one more entry: the new entry itself, or an old
    one with the new one behind it. -/
theorem append_cons_eq_concat {α : Type} {l earlier later : List α} {x y : α}
    (h : l ++ [y] = earlier ++ x :: later) :
    (earlier = l ∧ x = y ∧ later = []) ∨
      ∃ before, later = before ++ [y] ∧ l = earlier ++ x :: before := by
  rcases List.eq_nil_or_concat later with rfl | ⟨before, z, rfl⟩
  · obtain ⟨rfl, hxy⟩ := List.append_inj' h rfl
    exact .inl ⟨rfl, (List.head_eq_of_cons_eq hxy).symm, rfl⟩
  · have h' : l ++ [y] = (earlier ++ x :: before) ++ [z] := by
      rw [h]
      simp
    obtain ⟨rfl, hyz⟩ := List.append_inj' h' rfl
    exact .inr ⟨before, by rw [List.head_eq_of_cons_eq hyz]; simp, rfl⟩

namespace AuditRun

/-- The event is in the map. -/
def Waits (w : AuditRun) (id : UUID) : Prop :=
  (w.dispatcher.eventIdToBuffered.lookup id).isSome = true

/-- The event of `x` is named by one of these dispatches. -/
def NamedIn (w : AuditRun) (x : Dispatch) (later : List Dispatch) : Prop :=
  ∃ z ∈ later, z.Names w.dispatcher.config x.syntheticId

/-- An event that was named is carried by a flag or recorded; one that was not waits in the map,
    and is neither. -/
structure Accounted (sid : UUID) (w : AuditRun) : Prop where
  keys : ∀ id e, w.dispatcher.eventIdToBuffered.lookup id = some e →
    e.syntheticId = id ∧ id ∈ w.dispatchedIds
  carried : ∀ id ∈ w.carriedIds, id ∈ w.dispatchedIds
  named : ∀ earlier x later, w.dispatches = earlier ++ x :: later → w.NamedIn x (x :: later) →
    x.syntheticId ∈ w.carriedIds ∨ x.syntheticId ∈ w.db.telemetryIds
  waiting : ∀ earlier x later, w.dispatches = earlier ++ x :: later →
    ¬ w.NamedIn x (x :: later) →
      w.Waits x.syntheticId ∧ x.syntheticId ∉ w.carriedIds ∧ x.syntheticId ∉ w.db.telemetryIds
  owned : ∀ row ∈ w.db.telemetryEvents, row.id ∈ w.dispatchedIds → row.examSessionId = sid

section
variable {sid : UUID} {w w' : AuditRun} {new : Dispatch} {config : FrameDispatcherConfig}
  {livenessBackend : Bool} {db : Database} {event : BufferedEvent} {syntheticId : UUID}
  {answers : RunnerAnswers} {c : PersistChoices} {steps : List AuditStep}

theorem accounted_start : Accounted sid (start config livenessBackend db) := by
  refine ⟨?_, ?_, ?_, ?_, ?_⟩
  · intro id e he
    exact absurd he (by simp [start, FrameDispatcher.new])
  · intro id hid
    exact absurd hid (by simp [start, carriedIds])
  · intro earlier x later h
    exact absurd h (by simp [start])
  · intro earlier x later h
    exact absurd h (by simp [start])
  · intro row _ hrow
    exact absurd hrow (by simp [start, dispatchedIds])

/-- The dispatch of an event, as the run will log it. -/
def newDispatch (w : AuditRun) (event : BufferedEvent) (syntheticId : UUID)
    (answers : RunnerAnswers) : Dispatch :=
  ⟨syntheticId, w.dispatcher.aggregator,
    w.dispatcher.inferenceEvents event.message syntheticId answers⟩

/-- The map of the dispatcher once the event is in it, before any rule takes one out. -/
def mapWith (w : AuditRun) (event : BufferedEvent) (syntheticId : UUID) :
    List (UUID × DispatchedEvent) :=
  (syntheticId, { event with syntheticId }) ::
    w.dispatcher.eventIdToBuffered.filter (·.1 ≠ syntheticId)

theorem mapWith_isSome {id : UUID} :
    ((w.mapWith event syntheticId).lookup id).isSome = true ↔ id = syntheticId ∨ w.Waits id := by
  rw [mapWith, List.lookup_cons, lookup_filter_ne]
  by_cases hid : id = syntheticId
  · simp [hid]
  · simp [hid, beq_false_of_ne hid, Waits]

/-- Every event stands in the map under its own id. -/
theorem Accounted.mapWith_key (h : Accounted sid w) {id : UUID} {e : DispatchedEvent}
    (he : (w.mapWith event syntheticId).lookup id = some e) : e.syntheticId = id := by
  rw [mapWith, List.lookup_cons, lookup_filter_ne] at he
  by_cases hid : id = syntheticId
  · simp only [hid, beq_self_eq_true, Option.some.injEq] at he
    rw [← he, hid]
  · simp only [beq_false_of_ne hid, if_neg hid] at he
    exact (h.keys id e he).1

/-- Everything a dispatch can do to the accounts. -/
structure DispatchEffect (w : AuditRun) (new : Dispatch) (w' : AuditRun) : Prop where
  config : w'.dispatcher.config = w.dispatcher.config
  db : w'.db = w.db
  dispatches : w'.dispatches = w.dispatches ++ [new]
  carried : ∀ id, id ∈ w'.carriedIds ↔ id ∈ w.carriedIds ∨
    new.Names w.dispatcher.config id ∧ (id = new.syntheticId ∨ w.Waits id)
  waits : ∀ id, ¬ new.Names w.dispatcher.config id →
    (id = new.syntheticId ∨ w.Waits id) → w'.Waits id
  keys : ∀ id e, w'.dispatcher.eventIdToBuffered.lookup id = some e →
    e.syntheticId = id ∧ (id = new.syntheticId ∨ w.Waits id)

/-- The flags of a dispatch carry what its rules name, of what is in the map. -/
theorem Accounted.carried_iff (h : Accounted sid w) (id : UUID) :
    (∃ e, (∃ f ∈ (w.dispatcher.dispatchEvent event syntheticId answers).1,
        e ∈ f.contributingEvents) ∧ e.syntheticId = id) ↔
      (w.newDispatch event syntheticId answers).Names w.dispatcher.config id ∧
        (id = syntheticId ∨ w.Waits id) := by
  have hcarries := w.dispatcher.dispatchEvent_carries event syntheticId answers
  have hwaits : ((w.mapWith event syntheticId).lookup id).isSome = true ↔
      id = syntheticId ∨ w.Waits id := mapWith_isSome
  rw [← hwaits]
  simp only [hcarries.carried]
  constructor
  · rintro ⟨e, ⟨j, hj, he⟩, hid⟩
    obtain rfl : j = id := (h.mapWith_key he).symm.trans hid
    exact ⟨hj, Option.isSome_iff_exists.mpr ⟨e, he⟩⟩
  · rintro ⟨hid, hsome⟩
    obtain ⟨e, he⟩ := Option.isSome_iff_exists.mp hsome
    exact ⟨e, ⟨id, hid, he⟩, h.mapWith_key he⟩

theorem Accounted.dispatchEffect (h : Accounted sid w)
    (hfree : w.pending = [] ∧ syntheticId ∉ w.dispatchedIds ∧ syntheticId ∉ w.db.telemetryIds) :
    DispatchEffect w (w.newDispatch event syntheticId answers)
      (step sid w (.dispatch event syntheticId answers)) := by
  have hcarries := w.dispatcher.dispatchEvent_carries event syntheticId answers
  have hstep : step sid w (.dispatch event syntheticId answers) =
      { w with
        dispatcher := (w.dispatcher.dispatchEvent event syntheticId answers).2
        pending := (w.dispatcher.dispatchEvent event syntheticId answers).1
        dispatches := w.dispatches ++ [w.newDispatch event syntheticId answers] } := if_pos hfree
  rw [hstep]
  refine ⟨FrameDispatcher.dispatchEvent_config, rfl, rfl, ?_, ?_, ?_⟩
  -- carried
  · intro id
    show id ∈ carriedIds _ ↔ id ∈ w.carriedIds ∨ _ ∧ (id = syntheticId ∨ w.Waits id)
    rw [← h.carried_iff]
    simp [carriedIds, hfree.1]
  -- waiting
  · intro id hid hwaits
    show (List.lookup id _).isSome = true
    rw [hcarries.kept id hid]
    exact mapWith_isSome.mpr hwaits
  -- keys
  · intro id e he
    by_cases hid : (w.newDispatch event syntheticId answers).Names w.dispatcher.config id
    · exact absurd ((hcarries.gone id hid).symm.trans he) (by simp)
    · have he' : (w.mapWith event syntheticId).lookup id = some e :=
        (hcarries.kept id hid).symm.trans he
      exact ⟨h.mapWith_key he', mapWith_isSome.mp (Option.isSome_iff_exists.mpr ⟨e, he'⟩)⟩

/-- A later dispatch may name an event that was not named; it unnames none. -/
theorem DispatchEffect.namedIn_iff (h : DispatchEffect w new w') {x : Dispatch}
    {later : List Dispatch} :
    w'.NamedIn x (later ++ [new]) ↔
      w.NamedIn x later ∨ new.Names w.dispatcher.config x.syntheticId := by
  simp [NamedIn, h.config, or_and_right, exists_or]

theorem Accounted.dispatched (h : Accounted sid w) (heffect : DispatchEffect w new w')
    (hfree : new.syntheticId ∉ w.dispatchedIds ∧ new.syntheticId ∉ w.db.telemetryIds) :
    Accounted sid w' := by
  have hids : w'.dispatchedIds = w.dispatchedIds ++ [new.syntheticId] := by
    simp [dispatchedIds, heffect.dispatches]
  have hwaits : ∀ id, id = new.syntheticId ∨ w.Waits id → id ∈ w'.dispatchedIds := by
    intro id hid
    rw [hids]
    rcases hid with rfl | hid
    · simp
    · obtain ⟨e, he⟩ := Option.isSome_iff_exists.mp hid
      exact List.mem_append_left _ (h.keys id e he).2
  have hself : new.syntheticId ∉ w.carriedIds := fun hc => hfree.1 (h.carried _ hc)
  -- The clauses in order. For the named and the waiting, the event is either the one just
  -- dispatched or an older one with the new dispatch behind it.
  refine ⟨?_, ?_, ?_, ?_, ?_⟩
  · intro id e he
    obtain ⟨hid, hwait⟩ := heffect.keys id e he
    exact ⟨hid, hwaits id hwait⟩
  · intro id hid
    rcases (heffect.carried id).mp hid with hid | ⟨-, hid⟩
    · rw [hids]
      exact List.mem_append_left _ (h.carried id hid)
    · exact hwaits id hid
  · intro earlier x later hdispatches hnamed
    rw [heffect.db, heffect.carried]
    rw [heffect.dispatches] at hdispatches
    rcases append_cons_eq_concat hdispatches with ⟨-, rfl, rfl⟩ | ⟨before, rfl, hold⟩
    · have hnamed' : x.Names w.dispatcher.config x.syntheticId := by
        simpa [NamedIn, heffect.config] using hnamed
      exact .inl (.inr ⟨hnamed', .inl rfl⟩)
    · rw [← List.cons_append, heffect.namedIn_iff] at hnamed
      -- named before, or named now for the first time and so still in the map
      by_cases hbefore : w.NamedIn x (x :: before)
      · rcases h.named earlier x before hold hbefore with hc | hc
        · exact .inl (.inl hc)
        · exact .inr hc
      · obtain ⟨hwait, -, -⟩ := h.waiting earlier x before hold hbefore
        exact .inl (.inr ⟨hnamed.resolve_left hbefore, .inr hwait⟩)
  · intro earlier x later hdispatches hnot
    rw [heffect.db, heffect.carried]
    rw [heffect.dispatches] at hdispatches
    rcases append_cons_eq_concat hdispatches with ⟨-, rfl, rfl⟩ | ⟨before, rfl, hold⟩
    · have hnot' : ¬ x.Names w.dispatcher.config x.syntheticId := by
        simpa [NamedIn, heffect.config] using hnot
      exact ⟨heffect.waits _ hnot' (.inl rfl), by simp [hself, hnot'], hfree.2⟩
    · rw [← List.cons_append, heffect.namedIn_iff, not_or] at hnot
      obtain ⟨hwait, hcarried, hrow⟩ := h.waiting earlier x before hold hnot.1
      exact ⟨heffect.waits _ hnot.2 (.inr hwait), by simp [hcarried, hnot.2], hrow⟩
  · intro row hrow hid
    rw [heffect.db] at hrow
    rw [hids, List.mem_append, List.mem_singleton] at hid
    rcases hid with hid | hid
    · exact h.owned row hrow hid
    · exact absurd (List.mem_map.mpr ⟨row, Table.mem_rows.mpr hrow, hid⟩) hfree.2

/-- A flag moves from the dispatcher to the queue and stays what it is. -/
theorem Accounted.putFlag (h : Accounted sid w) : Accounted sid (step sid w .putFlag) := by
  cases hpending : w.pending with
  | nil => simpa [step, hpending] using h
  | cons item rest =>
    have hstep : step sid w .putFlag =
        { w with pending := rest, flagDecisions := w.flagDecisions ++ [item] } := by
      simp [step, hpending]
    have hcarried : (step sid w .putFlag).carriedIds = w.carriedIds := by
      simp [hstep, carriedIds, hpending]
    rw [hstep] at hcarried ⊢
    refine ⟨h.keys, ?_, ?_, ?_, h.owned⟩
    · rw [hcarried]
      exact h.carried
    · rw [hcarried]
      exact h.named
    · rw [hcarried]
      exact h.waiting

/-- The events of the flag that is persisted have their rows, and nothing else changes. -/
theorem Accounted.persisted (h : Accounted sid w) (hok : NoDatabaseFailure sid w (.persist c)) :
    Accounted sid (step sid w (.persist c)) := by
  cases hqueue : w.flagDecisions with
  | nil => simpa [step, hqueue] using h
  | cons item rest =>
    obtain ⟨examSession, hsession, hpersistable⟩ := hok item (by simp [hqueue])
    have hid := Database.getExamSession_id hsession
    have hs : (w.db.getExamSession examSession.id).isSome := by simp [hid, hsession]
    have hstep : step sid w (.persist c) =
        { w with
          flagDecisions := rest
          db := (persistLoaded w.db examSession item c).db } := by
      simp [step, hqueue, persistOne, hsession]
    have hrows := fun i => persistLoaded_telemetryIds hs hpersistable (i := i)
    have hcarried : ∀ i, i ∈ w.carriedIds ↔ i ∈ item.contributingEvents.map (·.syntheticId) ∨
        i ∈ (step sid w (.persist c)).carriedIds := by
      intro i
      simp [hstep, carriedIds, hqueue]
    rw [hstep] at hcarried ⊢
    refine ⟨h.keys, ?_, ?_, ?_, ?_⟩
    · intro i hi
      exact h.carried i ((hcarried i).mpr (.inr hi))
    -- an id in hand is now in a row, if it was of this flag
    · intro earlier x later hdispatches hnamed
      rw [hrows]
      rcases h.named earlier x later hdispatches hnamed with hc | hc
      · rcases (hcarried _).mp hc with hc | hc
        · exact .inr (.inr hc)
        · exact .inl hc
      · exact .inr (.inl hc)
    -- an id that waits is of no flag, so nothing was written for it
    · intro earlier x later hdispatches hnot
      obtain ⟨hwait, hnotCarried, hrow⟩ := h.waiting earlier x later hdispatches hnot
      rw [hcarried, not_or] at hnotCarried
      refine ⟨hwait, hnotCarried.2, ?_⟩
      rw [hrows, not_or]
      exact ⟨hrow, hnotCarried.1⟩
    · intro row hrow hrowId
      -- a row is an old one, or was built from an event of the flag
      rcases persistLoaded_db item c hs with ⟨-, hdb⟩ | ⟨-, hadded⟩
      · exact h.owned row (hdb ▸ hrow) hrowId
      · rcases hadded.telemetryEvents row hrow with hold | ⟨e, -, hbuilt⟩
        · exact h.owned row hold hrowId
        · exact (buildTelemetryEventRow_eq_some hbuilt).2.trans hid

theorem Accounted.step (h : Accounted sid w) (action : AuditStep)
    (hok : NoDatabaseFailure sid w action) : Accounted sid (step sid w action) := by
  cases action with
  | dispatch event syntheticId answers =>
    by_cases hfree : w.pending = [] ∧ syntheticId ∉ w.dispatchedIds ∧
        syntheticId ∉ w.db.telemetryIds
    · exact h.dispatched (h.dispatchEffect hfree) hfree.2
    · have hstep : AuditRun.step sid w (.dispatch event syntheticId answers) = w := if_neg hfree
      rw [hstep]
      exact h
  | putFlag => exact h.putFlag
  | persist c => exact h.persisted hok

/-! ## 4. The audit trail

Once the queue and the dispatcher are empty nothing is carried, so that an event that was named has
its row. -/

theorem Accounted.recorded_iff (h : Accounted sid w) {x : Dispatch} (hx : x ∈ w.dispatches) :
    w.Recorded sid x ↔ x.syntheticId ∈ w.db.telemetryIds := by
  constructor
  · rintro ⟨row, hrow, hid, -⟩
    exact List.mem_map.mpr ⟨row, hrow, hid⟩
  · intro hrow
    obtain ⟨row, hmem, hid⟩ := List.mem_map.mp hrow
    have howned := h.owned row (Table.mem_rows.mp hmem) (List.mem_map.mpr ⟨x, hx, hid.symm⟩)
    exact ⟨row, hmem, hid, howned⟩

theorem Accounted.audited_iff (h : Accounted sid w) (hdrained : w.Drained) :
    w.Audited sid ↔ w.Traced := by
  have hempty : w.carriedIds = [] := by simp [carriedIds, hdrained.1, hdrained.2]
  constructor
  · intro haudited earlier x later hdispatches hdetects
    by_contra hnot
    have hx : x ∈ w.dispatches := by simp [hdispatches]
    exact (h.waiting earlier x later hdispatches hnot).2.2
      ((h.recorded_iff hx).mp (haudited x hx hdetects))
  · intro htraced x hx hdetects
    obtain ⟨earlier, later, hdispatches⟩ := List.append_of_mem hx
    rw [h.recorded_iff hx]
    rcases h.named earlier x later hdispatches (htraced earlier x later hdispatches hdetects)
      with hc | hc
    · exact absurd hc (by simp [hempty])
    · exact hc

/-- **Once everything dispatched is persisted, the audit trail is complete exactly when every
    detection was named by a rule that fired.** Rows are written from the flags alone: a detection
    no rule names, an allowed book among them, is dispatched and leaves nothing. -/
theorem audited_iff_traced (config : FrameDispatcherConfig) (livenessBackend : Bool)
    (db : Database) (sid : UUID) (steps : List AuditStep)
    (hok : Run.EachStep (step sid) (NoDatabaseFailure sid) (start config livenessBackend db)
      steps) :
    Run.Always (step sid) (fun w => w.Drained → (w.Audited sid ↔ w.Traced))
      (start config livenessBackend db) steps :=
  (Run.always_of_eachStep (fun _ action h => h.step action) accounted_start hok).mono
    fun _ h => h.audited_iff

/-- The dispatcher keeps its configuration, and the detections of a dispatch carry its key. -/
structure Stamped (config : FrameDispatcherConfig) (w : AuditRun) : Prop where
  config : w.dispatcher.config = config
  ids : ∀ x ∈ w.dispatches, ∀ result id now, .objectDetection result id now ∈ x.results →
    id = x.syntheticId

theorem Stamped.step (h : Stamped config w) (action : AuditStep) :
    Stamped config (step sid w action) := by
  cases action with
  | dispatch event syntheticId answers =>
    simp only [AuditRun.step]
    split
    · refine ⟨FrameDispatcher.dispatchEvent_config.trans h.config, ?_⟩
      intro x hx result id now hmem
      rcases List.mem_append.mp hx with hx | hx
      · exact h.ids x hx result id now hmem
      · obtain rfl := List.mem_singleton.mp hx
        exact FrameDispatcher.objectDetection_id hmem
    · exact h
  | putFlag =>
    simp only [AuditRun.step]
    split
    · exact h
    · exact ⟨h.config, h.ids⟩
  | persist c =>
    simp only [AuditRun.step]
    split
    · exact h
    · exact ⟨h.config, h.ids⟩

/-- **An object the session flags always leaves its row**, exempted or not: what is lost is lost
    among the books a session permits and the frames off screen. -/
theorem recorded_of_flagged
    (hok : Run.EachStep (step sid) (NoDatabaseFailure sid) (start config livenessBackend db)
      steps) :
    Run.Always (step sid) (fun w => w.Drained → ∀ x ∈ w.dispatches, ∀ result id now,
        .objectDetection result id now ∈ x.results →
          (result.detectedClass = "book" → config.context.flagsBook = true) → w.Recorded sid x)
      (start config livenessBackend db) steps := by
  have hinv : Run.Always (step sid) (fun w => Accounted sid w ∧ Stamped config w)
      (start config livenessBackend db) steps :=
    Run.always_of_eachStep (fun w action h hguard => ⟨h.1.step action hguard, h.2.step action⟩)
      ⟨accounted_start, rfl, by simp [start]⟩ hok
  apply hinv.mono
  intro w h hdrained x hx result id now hmem hflags
  obtain ⟨haccounted, hstamped⟩ := h
  obtain rfl := hstamped.ids x hx result id now hmem
  obtain ⟨earlier, later, hdispatches⟩ := List.append_of_mem hx
  have hnames : x.Names w.dispatcher.config x.syntheticId :=
    contributesAny_of_detection hmem (by rw [hstamped.config]; exact hflags)
  rw [haccounted.recorded_iff hx]
  rcases haccounted.named earlier x later hdispatches ⟨x, List.mem_cons_self, hnames⟩ with hc | hc
  · exact absurd hc (by simp [carriedIds, hdrained.1, hdrained.2])
  · exact hc

end

/-! ## 5. Two frames with an object

A phone in a closed-book session, and a book in a session that permits books. -/

/-- A heavy frame in which the detector reports one object and the landmarker no face. -/
def objectFrame (detectedClass : String) (id : UUID) : AuditStep :=
  .dispatch
    { message :=
        { (faceEvent id 0).message with
          payload := .telemetryHeavyFrame
            { frame := "AAAA", width := 640, height := 480, encoding := "jpeg"
              frameNonempty := by decide, resolutionPositive := by decide
              encodingValid := by decide } }
      receivedAt := 0
      seq := 0 }
    id
    { RunnerAnswers.unused with
      heavyFrame := ⟨true, none, false, some [(⟨.certain, detectedClass⟩, 0)], none, none⟩ }

/-- An active session under the default policy and the given reference policy. -/
def auditSession (materials : ReferenceMaterialPolicy) : ExamSession :=
  { ExamSession.launched 1 2 3 "midterm" 0 with
    status := .active, allowedReferenceMaterials := materials }

def auditDatabase (materials : ReferenceMaterialPolicy) : Database :=
  { Database.empty with
    policyConfigs := .single (PolicyConfig.default 3)
    examSessions := .single (auditSession materials) }

def auditConfig (materials : ReferenceMaterialPolicy) : FrameDispatcherConfig where
  policySnapshot := .ofRow (PolicyConfig.default 3)
  context := .ofRow (auditSession materials) []

def auditStart (materials : ReferenceMaterialPolicy) : AuditRun :=
  start (auditConfig materials) false (auditDatabase materials)

def phoneSteps : List AuditStep := [objectFrame "cell phone" 10, .putFlag, .persist ⟨20, 30, false⟩]

/-- The phone is flagged, and its frame recorded. -/
theorem audited_iff_traced_phone :
    (Run.final (step 1) (auditStart .closedBook) phoneSteps).Drained ∧
      (Run.final (step 1) (auditStart .closedBook) phoneSteps).Audited 1 ∧
      (Run.final (step 1) (auditStart .closedBook) phoneSteps).Traced := by
  have hdrained : (Run.final (step 1) (auditStart .closedBook) phoneSteps).Drained := by
    decide +kernel
  have haudited : (Run.final (step 1) (auditStart .closedBook) phoneSteps).Audited 1 := by
    decide +kernel
  have hiff := (audited_iff_traced (auditConfig .closedBook) false (auditDatabase .closedBook) 1
    phoneSteps (by decide +kernel)).final
  exact ⟨hdrained, haudited, (hiff hdrained).mp haudited⟩

/-- The book is permitted: nothing fails, nothing is left to persist, and the frame has no row. -/
theorem permitted_book_not_audited :
    Run.EachStep (step 1) (NoDatabaseFailure 1) (auditStart .openBook) [objectFrame "book" 10] ∧
      (Run.final (step 1) (auditStart .openBook) [objectFrame "book" 10]).Drained ∧
      ¬ (Run.final (step 1) (auditStart .openBook) [objectFrame "book" 10]).Audited 1 := by
  decide +kernel

end AuditRun

end ProctorEngine
