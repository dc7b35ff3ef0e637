import ProctorEngine.Lib.FirstTaker
import ProctorEngine.Orchestration.AuditTrail
import ProctorEngine.Websocket.SessionPolicy

/-!
# The evidence a flag carries

`PersistedFlag` says that its `contributing_events` are the full set of the events its decision
names. `_emit` pops them from the map of dispatched events, so an event goes to the first flag that
names it and to no other: a flag behind it is left to the rows the first one brings, and fails its
foreign key where the first one was rolled back. **Every flag of a run carries its full evidence
exactly when no result names an event that was named before, or names one together with Path 3**
(`selfContained_iff_namesAfresh`).

The flags are requests to a pool of which the first to ask for a key gets it, and what follows from
that alone is in `FirstTaker`: each request gets what no earlier one has named, so all of them get
everything exactly when no two name the same key. The rest is about which keys the decisions of a
run name. By the fusion library these are the keys of the results that fire a rule, with those that
the aggregator has held on to, and a key that was named once can be named again only by a rule that
looks back.

Path 3 looks back, and it fires in the same call as the rule whose event takes the score across the
threshold. The two decisions name the event of that call both, and Path 3's comes second.

What makes a flag depend on another is the foreign key of its links. `PersistsAlone` says that it
does not: the worker persists the flag or fails to, whether or not the rows of the others are there.
-/

set_option autoImplicit false

namespace ProctorEngine

open SessionAggregator

/-! ## 1. The dispatcher of a session

The dispatcher alone, with what it dispatched and what it put on the queue. Which of the flags are
persisted, and when, is left open. -/

/-- A dispatcher, what it dispatched and what it has put on the queue, the oldest first. -/
structure EvidenceRun where
  dispatcher : FrameDispatcher
  dispatched : List DispatchedEvent
  dispatches : List Dispatch
  flagDecisions : List PersistedFlag

namespace EvidenceRun

def start (config : FrameDispatcherConfig) (livenessBackend : Bool) : EvidenceRun where
  dispatcher := .new config livenessBackend
  dispatched := []
  dispatches := []
  flagDecisions := []

/-- The keys drawn so far. -/
def keys (w : EvidenceRun) : List UUID := w.dispatched.map (·.syntheticId)

/-- The dispatcher takes the next event; `uuid4` draws no key twice. -/
def step (w : EvidenceRun) (s : DispatchStep) : EvidenceRun :=
  if s.syntheticId ∉ w.keys then
    let result := w.dispatcher.dispatchEvent s.event s.syntheticId s.answers
    { dispatcher := result.2
      dispatched := w.dispatched ++ [{ s.event with syntheticId := s.syntheticId }]
      dispatches := w.dispatches ++ [⟨s.syntheticId, w.dispatcher.aggregator,
        w.dispatcher.inferenceEvents s.event.message s.syntheticId s.answers⟩]
      flagDecisions := w.flagDecisions ++ result.1 }
  else w

/-- A rule has named the event. -/
def Named (w : EvidenceRun) (id : UUID) : Prop :=
  ∃ x ∈ w.dispatches, x.Names w.dispatcher.config id

/-- The flag carries every dispatched event its decision names, and no other. -/
def CarriesTrail (w : EvidenceRun) (flag : PersistedFlag) : Prop :=
  ∀ e, e ∈ flag.contributingEvents ↔
    e ∈ w.dispatched ∧ e.syntheticId ∈ flag.decision.contributingEventIds

/-- The worker persists the flag, or fails to, whether or not the telemetry rows of the others
    are there. -/
def PersistsAlone (flag : PersistedFlag) (others : List PersistedFlag) : Prop :=
  ∀ (db : Database) (telemetryEvents : Table TelemetryEvent (SameKey TelemetryEvent.id))
    (sid : UUID) (c : PersistChoices),
    (∀ id, id ∈ ({ db with telemetryEvents } : Database).telemetryIds ↔
      id ∈ db.telemetryIds ∨ ∃ other ∈ others, ∃ e ∈ other.contributingEvents,
        e.syntheticId = id) →
    ((persistOne { db with telemetryEvents } sid flag c).raised = none ↔
      (persistOne db sid flag c).raised = none)

/-- Every flag on the queue carries its own trail, and whichever of the others were persisted
    makes no difference to it. -/
def SelfContained (w : EvidenceRun) : Prop :=
  ∀ earlier flag later, w.flagDecisions = earlier ++ flag :: later →
    w.CarriesTrail flag ∧ ∀ persisted ⊆ earlier ++ later, PersistsAlone flag persisted

/-- The results of the event name none that was named before, and none together with Path 3. -/
def StepNamesAfresh (w : EvidenceRun) (s : DispatchStep) : Prop :=
  s.syntheticId ∉ w.keys →
    NamesAfresh w.dispatcher.config.policySnapshot w.dispatcher.config.context w.Named
      w.dispatcher.aggregator
      (w.dispatcher.inferenceEvents s.event.message s.syntheticId s.answers)

end EvidenceRun

/-! ## 2. Flags as requests

The map is the pool, and a dispatch puts one more event into it before it takes any out. -/

/-- A flag asks the map for the events its decision names. -/
def PersistedFlag.request (flag : PersistedFlag) : FirstTaker.Request UUID DispatchedEvent :=
  ⟨flag.decision.contributingEventIds, flag.contributingEvents⟩

namespace FrameDispatcher

variable {d : FrameDispatcher} {S : UUID → Prop}

/-- The map of dispatched events. -/
def pool (d : FrameDispatcher) (id : UUID) : Option DispatchedEvent :=
  d.eventIdToBuffered.lookup id

theorem emit_takes (decisions : List FlagDecision) :
    FirstTaker.Takes d.pool ((d.emit decisions).1.map (·.request)) (d.emit decisions).2.pool := by
  induction decisions generalizing d with
  | nil => exact .nil
  | cons decision decisions ih =>
    let popped := popBuffered d.eventIdToBuffered decision.contributingEventIds
    have hleft : FirstTaker.without d.pool decision.contributingEventIds =
        fun id => popped.2.lookup id := by
      funext id
      exact (popBuffered_lookup decision.contributingEventIds).symm
    refine .cons (fun e => mem_popBuffered) ?_
    show FirstTaker.Takes (FirstTaker.without d.pool decision.contributingEventIds) _ _
    rw [hleft]
    exact ih (d := { d with eventIdToBuffered := popped.2 })

theorem feed_takes (es : List InferenceEvent) :
    FirstTaker.Takes d.pool ((d.feed es).1.map (·.request)) (d.feed es).2.pool := by
  induction es generalizing d with
  | nil => exact .nil
  | cons e es ih =>
    have hone : FirstTaker.Takes d.pool ((d.feedOne e).1.map (·.request)) (d.feedOne e).2.pool :=
      emit_takes (d := d.heard e) _
    rw [feed_cons, List.map_append]
    exact hone.append ih

theorem feed_holds (es : List InferenceEvent) (h : Holds S d.aggregator)
    (hes : ∀ e ∈ es, S e.telemetryEventId) : Holds S (d.feed es).2.aggregator := by
  induction es generalizing d with
  | nil => exact h
  | cons e es ih =>
    obtain ⟨he, hes⟩ := List.forall_mem_cons.mp hes
    apply ih (d := (d.feedOne e).2) _ hes
    rw [feedOne_aggregator]
    exact h.process he

/-- The dispatcher with the event in its map, before the results come. -/
def entered (d : FrameDispatcher) (s : DispatchStep) : FrameDispatcher :=
  { d with
    heavyFrameSeq := d.nextHeavyFrameSeq s.event.message s.answers
    eventIdToBuffered := (s.syntheticId, { s.event with syntheticId := s.syntheticId }) ::
      d.eventIdToBuffered.filter (·.1 ≠ s.syntheticId) }

theorem dispatchEvent_eq (d : FrameDispatcher) (s : DispatchStep) :
    d.dispatchEvent s.event s.syntheticId s.answers =
      (d.entered s).feed (d.inferenceEvents s.event.message s.syntheticId s.answers) := rfl

theorem entered_pool (d : FrameDispatcher) (s : DispatchStep) :
    (d.entered s).pool = Function.update d.pool s.syntheticId
      (some { s.event with syntheticId := s.syntheticId }) := by
  funext id
  by_cases hid : id = s.syntheticId
  · subst hid
    simp [pool, entered]
  · rw [Function.update_of_ne hid]
    show List.lookup id (_ :: _) = _
    rw [List.lookup_cons, beq_false_of_ne hid, lookup_filter_ne, if_neg hid]
    rfl

end FrameDispatcher

/-! ## 3. Where the evidence is

Seen from the whole run, the flags have taken from the pool of everything ever dispatched, although
an event may be dispatched long after a flag was made. -/

namespace EvidenceRun

section
variable {w w' : EvidenceRun} {s : DispatchStep} {flag : PersistedFlag} {e : DispatchedEvent}
  {id : UUID} {others : List PersistedFlag}

/-- Every event ever dispatched, by its key. -/
def pool (w : EvidenceRun) (id : UUID) : Option DispatchedEvent :=
  w.dispatched.find? (·.syntheticId = id)

/-- The flags have taken what they carry from everything dispatched, and the map has the rest. -/
structure Inv (w : EvidenceRun) : Prop where
  nodup : w.keys.Nodup
  takes : FirstTaker.Takes w.pool (w.flagDecisions.map (·.request)) w.dispatcher.pool
  holds : Holds (· ∈ w.keys) w.dispatcher.aggregator
  named : ∀ id, NamedBy (w.flagDecisions.map (·.decision)) id ↔ w.Named id
  known : ∀ id, w.Named id → id ∈ w.keys

theorem inv_start {config : FrameDispatcherConfig} {livenessBackend : Bool} :
    Inv (start config livenessBackend) := by
  refine ⟨.nil, .nil, holds_new, ?_, ?_⟩
  · intro id
    simp [start, Named]
  · intro id hid
    simp [start, Named] at hid

theorem pool_key (h : w.pool id = some e) : e.syntheticId = id := by
  have hkey := List.find?_some h
  exact of_decide_eq_true hkey

theorem keyed_pool : FirstTaker.Keyed w.pool := by
  intro id id' e hid hid'
  exact (pool_key hid).symm.trans (pool_key hid')

theorem pool_eq_some_iff (h : w.keys.Nodup) :
    w.pool id = some e ↔ e ∈ w.dispatched ∧ e.syntheticId = id := by
  constructor
  · intro he
    exact ⟨List.mem_of_find?_eq_some he, pool_key he⟩
  · rintro ⟨he, rfl⟩
    obtain ⟨x, hx⟩ : ∃ x, w.pool e.syntheticId = some x := by
      apply Option.isSome_iff_exists.mp
      exact List.find?_isSome.mpr ⟨e, he, by simp⟩
    rw [hx, List.inj_on_of_nodup_map h (List.mem_of_find?_eq_some hx) he (pool_key hx)]

theorem mem_keys_iff (h : w.keys.Nodup) : id ∈ w.keys ↔ w.pool id ≠ none := by
  rw [Option.ne_none_iff_exists']
  simp only [pool_eq_some_iff h, keys, List.mem_map]

/-! ## 4. One dispatch

The rule of `FirstTaker` for a key that is put into the pool after requests that did not name it. -/

/-- Everything a dispatch does to a run. -/
structure Dispatches (w : EvidenceRun) (s : DispatchStep) (w' : EvidenceRun) : Prop where
  config : w'.dispatcher.config = w.dispatcher.config
  keys : w'.keys = w.keys ++ [s.syntheticId]
  pool : w'.pool =
    Function.update w.pool s.syntheticId (some { s.event with syntheticId := s.syntheticId })
  flags : ∃ flags, w'.flagDecisions = w.flagDecisions ++ flags ∧
    flags.map (·.decision) = decisions w.dispatcher.config.policySnapshot
      w.dispatcher.config.context w.dispatcher.aggregator
      (w.dispatcher.inferenceEvents s.event.message s.syntheticId s.answers) ∧
    FirstTaker.Takes
      (Function.update w.dispatcher.pool s.syntheticId
        (some { s.event with syntheticId := s.syntheticId }))
      (flags.map (·.request)) w'.dispatcher.pool
  named : ∀ id, w'.Named id ↔ w.Named id ∨
    ContributesAny w.dispatcher.config.policySnapshot w.dispatcher.config.context id
      w.dispatcher.aggregator
      (w.dispatcher.inferenceEvents s.event.message s.syntheticId s.answers)
  holds : ∀ S : UUID → Prop, Holds S w.dispatcher.aggregator → S s.syntheticId →
    Holds S w'.dispatcher.aggregator

theorem step_dispatches (hfresh : s.syntheticId ∉ w.keys) : Dispatches w s (step w s) := by
  have hstep : step w s =
      { dispatcher := (w.dispatcher.dispatchEvent s.event s.syntheticId s.answers).2
        dispatched := w.dispatched ++ [{ s.event with syntheticId := s.syntheticId }]
        dispatches := w.dispatches ++ [⟨s.syntheticId, w.dispatcher.aggregator,
          w.dispatcher.inferenceEvents s.event.message s.syntheticId s.answers⟩]
        flagDecisions := w.flagDecisions ++
          (w.dispatcher.dispatchEvent s.event s.syntheticId s.answers).1 } := if_pos hfresh
  rw [hstep]
  -- the configuration, the keys, the pool, the flags, what is named, and what the aggregator holds
  refine ⟨FrameDispatcher.dispatchEvent_config, by simp [keys], ?_, ?_, ?_, ?_⟩
  · funext id
    by_cases hid : id = s.syntheticId
    · subst hid
      have hnone : w.dispatched.find? (·.syntheticId = s.syntheticId) = none := by
        rw [List.find?_eq_none]
        intro x hx hkey
        exact hfresh (List.mem_map.mpr ⟨x, hx, of_decide_eq_true hkey⟩)
      simp [pool, List.find?_append, hnone]
    · rw [Function.update_of_ne hid]
      simp [pool, List.find?_append, Ne.symm hid]
  · refine ⟨_, rfl, FrameDispatcher.feed_decisions, ?_⟩
    rw [← FrameDispatcher.entered_pool, FrameDispatcher.dispatchEvent_eq]
    exact FrameDispatcher.feed_takes _
  · intro id
    simp only [Named, FrameDispatcher.dispatchEvent_config, List.mem_append, List.mem_singleton,
      or_and_right, exists_or, exists_eq_left]
    exact Iff.rfl
  · intro S hS hkey
    show Holds S (w.dispatcher.dispatchEvent s.event s.syntheticId s.answers).2.aggregator
    rw [FrameDispatcher.dispatchEvent_eq]
    apply FrameDispatcher.feed_holds (d := w.dispatcher.entered s) _ hS
    intro e he
    exact (FrameDispatcher.inferenceEvents_forall he).1 ▸ hkey

theorem Inv.dispatched (h : Inv w) (hd : Dispatches w s w') (hfresh : s.syntheticId ∉ w.keys) :
    Inv w' := by
  obtain ⟨flags, hflags, hdecisions, htakes⟩ := hd.flags
  have hkeys : ∀ id, id ∈ w'.keys ↔ id ∈ w.keys ∨ id = s.syntheticId := by
    intro id
    rw [hd.keys, List.mem_append, List.mem_singleton]
  refine ⟨?_, ?_, ?_, ?_, ?_⟩
  · rw [hd.keys]
    apply List.Nodup.append h.nodup (List.nodup_singleton _)
    intro id hid hid'
    exact hfresh (List.mem_singleton.mp hid' ▸ hid)
  · -- no flag before this dispatch could name its event
    have hunnamed : ∀ r ∈ w.flagDecisions.map (·.request), s.syntheticId ∉ r.keys := by
      intro r hr hid
      obtain ⟨f, hf, rfl⟩ := List.mem_map.mp hr
      have hnamed : NamedBy (w.flagDecisions.map (·.decision)) s.syntheticId :=
        ⟨f.decision, List.mem_map_of_mem hf, hid⟩
      exact hfresh (h.known _ ((h.named _).mp hnamed))
    rw [hd.pool, hflags, List.map_append]
    exact (h.takes.update hunnamed _).append htakes
  -- what the state still names was named before, or is this event
  · apply hd.holds
    · exact h.holds.mono fun id hid => (hkeys id).mpr (.inl hid)
    · exact (hkeys _).mpr (.inr rfl)
  · intro id
    rw [hflags, List.map_append, namedBy_append, h.named, hdecisions, namedBy_decisions, hd.named]
  · intro id hid
    rw [hkeys]
    rcases (hd.named id).mp hid with hid | hid
    · exact .inl (h.known id hid)
    · have hholds : Holds (fun id => id ∈ w.keys ∨ id = s.syntheticId) w.dispatcher.aggregator :=
        h.holds.mono fun id hid => .inl hid
      apply hholds.contributesAny _ hid
      intro e he
      exact .inr (FrameDispatcher.inferenceEvents_forall he).1

theorem Inv.step (h : Inv w) (s : DispatchStep) : Inv (step w s) := by
  by_cases hfresh : s.syntheticId ∈ w.keys
  · have hstep : EvidenceRun.step w s = w := if_neg (not_not.mpr hfresh)
    rw [hstep]
    exact h
  · exact h.dispatched (step_dispatches hfresh) hfresh

/-! ## 5. Self-contained flags

From requests that are full to flags that persist by themselves, and back. -/

theorem Inv.carriesTrail_iff (h : Inv w) :
    w.CarriesTrail flag ↔ flag.request.Full w.pool := by
  apply forall_congr'
  intro e
  simp only [pool_eq_some_iff h.nodup, PersistedFlag.request]
  constructor
  · intro hiff
    rw [hiff]
    exact ⟨fun ⟨he, hid⟩ => ⟨_, hid, he, rfl⟩, fun ⟨_, hid, he, hkey⟩ => ⟨he, hkey ▸ hid⟩⟩
  · intro hiff
    rw [hiff]
    exact ⟨fun ⟨_, hid, he, hkey⟩ => ⟨he, hkey ▸ hid⟩, fun ⟨he, hid⟩ => ⟨_, hid, he, rfl⟩⟩

/-- All flags carry their trail exactly when no two decisions name the same event. -/
theorem Inv.carriesTrail_forall_iff (h : Inv w) :
    (∀ flag ∈ w.flagDecisions, w.CarriesTrail flag) ↔
      Apart (w.flagDecisions.map (·.decision)) := by
  have hfull := h.takes.full_iff keyed_pool
  simp only [List.forall_mem_map, ← h.carriesTrail_iff] at hfull
  rw [hfull, Apart, List.pairwise_map, List.pairwise_map]
  apply List.Pairwise.iff_of_mem
  intro f g hf _
  apply forall_congr'
  intro id
  apply forall_congr'
  intro hid
  -- an id that is named is that of a dispatched event
  have hnamed : w.Named id := (h.named id).mp ⟨f.decision, List.mem_map_of_mem hf, hid⟩
  have hpool : w.pool id ≠ none := (mem_keys_iff h.nodup).mp (h.known id hnamed)
  exact ⟨fun hg hmem => hpool (hg hmem), fun hg hmem => absurd hmem hg⟩

/-- The telemetry rows there are make no difference to a flag that brings its own. -/
theorem persistable_telemetry_iff {db : Database}
    {telemetryEvents : Table TelemetryEvent (SameKey TelemetryEvent.id)}
    (examSession : ExamSession) (c : PersistChoices)
    (hrows : ∀ i ∈ flag.decision.contributingEventIds,
      i ∈ flag.contributingEvents.map (·.syntheticId))
    (hfresh : ∀ i ∈ flag.contributingEvents.map (·.syntheticId),
      i ∉ ({ db with telemetryEvents } : Database).telemetryIds ↔ i ∉ db.telemetryIds) :
    Persistable { db with telemetryEvents } examSession flag c ↔
      Persistable db examSession flag c := by
  constructor
  · intro h
    refine ⟨h.telemetry, ?_, h.severity, h.flag, fun i hi => .inr (hrows i hi), h.nodup,
      h.unlinked, h.score⟩
    intro hraises
    obtain ⟨hnodup, hnew⟩ := h.keys hraises
    exact ⟨hnodup, fun i hi => (hfresh i hi).mp (hnew i hi)⟩
  · intro h
    refine ⟨h.telemetry, ?_, h.severity, h.flag, fun i hi => .inr (hrows i hi), h.nodup,
      h.unlinked, h.score⟩
    intro hraises
    obtain ⟨hnodup, hnew⟩ := h.keys hraises
    exact ⟨hnodup, fun i hi => (hfresh i hi).mpr (hnew i hi)⟩

/-- A flag that carries all it names, and nothing the others carry, persists alone. -/
theorem persistsAlone_of_disjoint
    (hrows : ∀ i ∈ flag.decision.contributingEventIds,
      i ∈ flag.contributingEvents.map (·.syntheticId))
    (hdisjoint : ∀ other ∈ others, ∀ e ∈ other.contributingEvents,
      e.syntheticId ∉ flag.contributingEvents.map (·.syntheticId)) :
    PersistsAlone flag others := by
  intro db telemetryEvents sid c hids
  cases hs : db.getExamSession sid with
  -- without a session the worker drops the flag
  | none =>
    have hs' : ({ db with telemetryEvents } : Database).getExamSession sid = none := hs
    rw [persistOne_dropped hs, persistOne_dropped hs']
  | some examSession =>
    have hs' : ({ db with telemetryEvents } : Database).getExamSession sid = some examSession := hs
    have hsome : (db.getExamSession examSession.id).isSome := by
      simp [Database.getExamSession_id hs, hs]
    have hsome' : (({ db with telemetryEvents } : Database).getExamSession
      examSession.id).isSome := hsome
    have hfresh : ∀ i ∈ flag.contributingEvents.map (·.syntheticId),
        i ∉ ({ db with telemetryEvents } : Database).telemetryIds ↔ i ∉ db.telemetryIds := by
      intro i hi
      rw [hids, not_or]
      apply and_iff_left
      rintro ⟨other, hother, e, he, rfl⟩
      exact hdisjoint other hother e he hi
    have hfirst : FirstTermination { db with telemetryEvents } examSession.id flag.decision c ↔
        FirstTermination db examSession.id flag.decision c :=
      ⟨fun h => ⟨h.fresh, h.reason⟩, fun h => ⟨h.fresh, h.reason⟩⟩
    rw [persistOne_found hs, persistOne_found hs', persistLoaded_raised_iff flag c hsome,
      persistLoaded_raised_iff flag c hsome',
      persistable_telemetry_iff examSession c hrows hfresh, hfirst]

/-- What one flag carries, no other does. -/
theorem Inv.disjoint (h : Inv w) {earlier later : List PersistedFlag}
    (hsplit : w.flagDecisions = earlier ++ flag :: later) {other : PersistedFlag}
    (hother : other ∈ earlier ++ later) (he : e ∈ other.contributingEvents) :
    e.syntheticId ∉ flag.contributingEvents.map (·.syntheticId) := by
  have hdisjoint := h.takes.disjoint keyed_pool
  have hdispatched : ∀ f ∈ w.flagDecisions, ∀ x ∈ f.contributingEvents, x ∈ w.dispatched := by
    intro f hf x hx
    obtain ⟨before, after, hf'⟩ := List.append_of_mem (List.mem_map_of_mem (f := (·.request)) hf)
    obtain ⟨id, -, hid, -⟩ := (h.takes.mem_got hf').mp hx
    exact ((pool_eq_some_iff h.nodup).mp hid).1
  have hotherMem : other ∈ w.flagDecisions := by
    rw [hsplit]
    rcases List.mem_append.mp hother with hm | hm
    · exact List.mem_append_left _ hm
    · exact List.mem_append_right _ (List.mem_cons_of_mem flag hm)
  have hflagMem : flag ∈ w.flagDecisions := by simp [hsplit]
  intro hkey
  obtain ⟨x, hx, hkey⟩ := List.mem_map.mp hkey
  have hsame : x = e := List.inj_on_of_nodup_map h.nodup (hdispatched flag hflagMem x hx)
    (hdispatched other hotherMem e he) hkey
  subst hsame
  rw [hsplit, List.map_append, List.map_cons, List.pairwise_append, List.pairwise_cons] at hdisjoint
  obtain ⟨-, ⟨hlater, -⟩, hearlier⟩ := hdisjoint
  rcases List.mem_append.mp hother with hm | hm
  · exact hearlier other.request (List.mem_map_of_mem hm) flag.request List.mem_cons_self x he hx
  · exact hlater other.request (List.mem_map_of_mem hm) x hx he

/-- **Self-contained flags are flags whose decisions share no event.** -/
theorem Inv.selfContained_iff (h : Inv w) :
    w.SelfContained ↔ Apart (w.flagDecisions.map (·.decision)) := by
  rw [← h.carriesTrail_forall_iff]
  constructor
  · intro hself flag hflag
    obtain ⟨earlier, later, hsplit⟩ := List.append_of_mem hflag
    exact (hself earlier flag later hsplit).1
  · intro htrail earlier flag later hsplit
    have hflag : flag ∈ w.flagDecisions := by simp [hsplit]
    refine ⟨htrail flag hflag, ?_⟩
    intro persisted hpersisted
    apply persistsAlone_of_disjoint
    · intro id hid
      have hnamed : w.Named id := (h.named id).mp ⟨flag.decision, List.mem_map_of_mem hflag, hid⟩
      obtain ⟨e, he, rfl⟩ := List.mem_map.mp (h.known id hnamed)
      exact List.mem_map_of_mem ((htrail flag hflag e).mpr ⟨he, hid⟩)
    · intro other hother e he
      exact h.disjoint hsplit (hpersisted hother) he

theorem Inv.step_selfContained_iff (h : Inv w) (hself : w.SelfContained) :
    (w.step s).SelfContained ↔ w.StepNamesAfresh s := by
  by_cases hfresh : s.syntheticId ∈ w.keys
  · have hstep : EvidenceRun.step w s = w := if_neg (not_not.mpr hfresh)
    rw [hstep]
    exact iff_of_true hself fun hnot => absurd hfresh hnot
  · have hd := step_dispatches hfresh
    obtain ⟨flags, hflags, hdecisions, -⟩ := hd.flags
    have hapart := h.selfContained_iff.mp hself
    rw [(h.step s).selfContained_iff, hflags, List.map_append, apart_append, hdecisions,
      StepNamesAfresh, ← decisions_apart_iff]
    simp only [hapart, true_and, h.named, namedBy_decisions, hfresh, not_false_eq_true,
      true_implies]
    apply and_congr_right
    intro _
    exact forall_congr' fun id => ⟨fun hn hc hw => hn hw hc, fun hn hw hc => hn hc hw⟩

end

/-- **Every flag carries its own evidence exactly in the runs whose dispatches name events afresh.**
    Over every configuration and every sequence of events. A flag takes the events it names out of
    the buffer, so a later flag that names one of them finds it gone. -/
theorem selfContained_iff_namesAfresh (config : FrameDispatcherConfig) (livenessBackend : Bool)
    (steps : List DispatchStep) :
    Run.Always step SelfContained (start config livenessBackend) steps ↔
      Run.EachStep step StepNamesAfresh (start config livenessBackend) steps := by
  apply Run.always_iff_eachStep (I := Inv)
  · intro w s h
    exact h.step s
  · intro w s h hself
    exact h.step_selfContained_iff hself
  · exact inv_start
  · intro earlier flag later hsplit
    exact absurd hsplit (by simp [start])

/-! ## 6. Ten looks at another tab -/

/-- The learner leaves the tab of the exam. -/
def leavesTab (id : UUID) : DispatchStep where
  event :=
    { message :=
        { (faceEvent id 0).message with
          payload := .browserEvent ⟨"visibilitychange", [], by decide⟩ }
      receivedAt := 0
      seq := 0 }
  syntheticId := id
  answers := .unused

/-- The configuration of the endpoint, for session 1. -/
def endpointConfig : FrameDispatcherConfig where
  policySnapshot := endpointSnapshot
  context := endpointContext (ExamSession.launched 1 2 3 "midterm" 0)

def tenLooks : List DispatchStep :=
  [10, 11, 12, 13, 14, 15, 16, 17, 18, 19].map leavesTab

open Run in
/-- The tenth look terminates the session. Its event went to the flag of the look itself, and
    without that flag's row the terminating one is refused. -/
theorem tenLooks_not_selfContained :
    ((final step (start endpointConfig false) tenLooks).flagDecisions.getLast?.any fun flag =>
        flag.decision.triggeredTermination = true ∧
          (persistOne activeDatabase 1 flag ⟨20, 30, true⟩).raised = some .linkIntegrity) = true ∧
      ¬ Always step SelfContained (start endpointConfig false) tenLooks := by
  refine ⟨by decide +kernel, ?_⟩
  intro h
  let w := final step (start endpointConfig false) tenLooks
  have hbare : ∃ flag ∈ w.flagDecisions, flag.contributingEvents = [] ∧
      ∃ e ∈ w.dispatched, e.syntheticId ∈ flag.decision.contributingEventIds := by
    decide +kernel
  obtain ⟨flag, hflag, hempty, e, he, hid⟩ := hbare
  obtain ⟨earlier, later, hsplit⟩ := List.append_of_mem hflag
  have hcarried := ((h.final earlier flag later hsplit).1 e).mpr ⟨he, hid⟩
  exact absurd hcarried (by simp [hempty])

end EvidenceRun

end ProctorEngine
