import ProctorEngine.Lib.Run
import ProctorEngine.Orchestration.AuditTrail
import ProctorEngine.Orchestration.ModelAnswers

/-!
# From what the models see to what the database says

A message comes in, the runners ask the models about it, the fusion engine makes decisions of their
results, and the worker writes telemetry rows, flags and links. What a row says about a participant
ought to go back to something a model saw. **Every telemetry row, every link and every flag that a
session's run writes belongs to a message that offended, and a link to one that offended the rule of
its flag** (`every_record_earned`); a session in which nothing offends leaves no trace
(`clean_session_unrecorded`).

The chain has three links, and each is a lemma of its own.

* The fusion engine accuses an event of a rule only with a result that speaks against it. The engine
  remembers results over many calls, so this is an invariant of the aggregator (`Backed`, in the
  fusion library).
* The flags of a dispatch carry and name observed events, for the map holds nothing else
  (`EarnedFlag`).
* The worker writes the rows of a flag, or none of them (`DecisionRows`).

`Monitoring.Sound` puts them together and is what every step keeps. The models are parameters, and
so are the times at which they are asked and whether they are ready: nothing is assumed of their
answers, only that they are the ones the results were made of.
-/

set_option autoImplicit false

namespace ProctorEngine

open Inference SessionAggregator

/-! ## 1. The session

The system of `AuditTrail` again, but with the runners inside it: a step observes a message, and the
answers are computed from it. -/

/-- A message taken off the buffer, with what is drawn, read and ready when it is. The voice
    detector of a session remembers what it has heard, so what it answers is the message's own. -/
structure Observation where
  event : BufferedEvent
  syntheticId : UUID
  nows : Nat → DateTime
  landmarkerReady : Bool
  detectorReady : Bool
  isSpeech : Nat → List Int → Nat → Option Bool

/-- The event under its key. -/
def Observation.dispatched (o : Observation) : DispatchedEvent :=
  { o.event with syntheticId := o.syntheticId }

section
variable {Image : Type} (lib : Libraries Image)

/-- What the runners of the session call while they have this message. -/
def Observation.libraries (o : Observation) : Libraries Image := { lib with isSpeech := o.isSpeech }

/-- The dispatch of the message, with the answers of the models. -/
def Observation.lazyStep (config : FrameDispatcherConfig) (o : Observation) : LazyDispatchStep where
  event := o.event
  syntheticId := o.syntheticId
  answers := runnerAnswers (o.libraries lib) config o.event.message o.nows
  landmarkerReady := o.landmarkerReady
  detectorReady := o.detectorReady

/-- The dispatcher with the message in its map, before anything is made of it. -/
def FrameDispatcher.taking (d : FrameDispatcher) (o : Observation) : FrameDispatcher :=
  { d with
    heavyFrameSeq := d.nextHeavyFrameSeq o.event.message (o.lazyStep lib d.config).answers
    eventIdToBuffered := (o.syntheticId, o.dispatched) ::
      d.eventIdToBuffered.filter (·.1 ≠ o.syntheticId) }

/-- `_dispatch_event`, with the flags it puts on the queue. -/
def FrameDispatcher.observe (d : FrameDispatcher) (o : Observation) :
    List PersistedFlag × FrameDispatcher :=
  (d.taking lib o).feed (d.inferenceCalls (o.lazyStep lib d.config))

/-- Dispatcher, queue and worker of one session, and what was observed, the oldest first. -/
structure Monitoring where
  dispatcher : FrameDispatcher
  /-- The flags of the last dispatch that are not on the queue yet. -/
  pending : List PersistedFlag
  flagDecisions : List PersistedFlag
  db : Database
  observed : List Observation

inductive MonitoringStep where
  | observe (o : Observation)
  | putFlag
  | persist (c : PersistChoices)

namespace Monitoring

def start (config : FrameDispatcherConfig) (livenessBackend : Bool) (db : Database) :
    Monitoring where
  dispatcher := .new config livenessBackend
  pending := []
  flagDecisions := []
  db := db
  observed := []

/-- One step of the session's dispatcher or of its worker. The dispatcher puts the flags of one
    event on the queue before it takes the next, and `uuid4` draws no key twice. -/
def step (sid : UUID) (w : Monitoring) : MonitoringStep → Monitoring
  | .observe o =>
    if w.pending = [] ∧ o.syntheticId ∉ w.observed.map (·.syntheticId) then
      let (flags, dispatcher) := w.dispatcher.observe lib o
      { w with dispatcher, pending := flags, observed := w.observed ++ [o] }
    else w
  | .putFlag =>
    match w.pending with
    | [] => w
    | item :: rest => { w with pending := rest, flagDecisions := w.flagDecisions ++ [item] }
  | .persist c =>
    match w.flagDecisions with
    | [] => w
    | item :: rest => { w with flagDecisions := rest, db := (persistOne w.db sid item c).db }

end Monitoring

/-- A flag under this code holds something against the event: a message under its key offended the
    flag's rule, or any rule if the flag is that of the accumulated score. -/
def HeldAgainst (config : FrameDispatcherConfig) (observed : List Observation) (flagCode : String)
    (id : UUID) : Prop :=
  ∃ o ∈ observed, o.syntheticId = id ∧
    ∃ ruleCode, (flagCode = ruleCode ∨ flagCode = "accumulated_score") ∧
      Offence (o.libraries lib) config o.event.message ruleCode

/-- Every row that was not there before goes back to a message that offended. -/
structure Earned (config : FrameDispatcherConfig) (sid : UUID) (before : Database)
    (w : Monitoring) : Prop where
  telemetry : ∀ row ∈ w.db.telemetryEvents, row ∈ before.telemetryEvents ∨
    ∃ o ∈ w.observed, buildTelemetryEventRow o.dispatched sid = some row ∧
      ∃ ruleCode, Offence (o.libraries lib) config o.event.message ruleCode
  links : ∀ link ∈ w.db.flagTelemetryEvents, link ∈ before.flagTelemetryEvents ∨
    ∃ flag ∈ w.db.flags, flag.id = link.flagId ∧
      HeldAgainst lib config w.observed flag.ruleCode link.telemetryEventId
  flags : ∀ flag ∈ w.db.flags, flag ∈ before.flags ∨
    ∃ link ∈ w.db.flagTelemetryEvents, link.flagId = flag.id ∧
      HeldAgainst lib config w.observed flag.ruleCode link.telemetryEventId

end

/-! ## 2. What a dispatch puts on the queue

A property of the map's entries is a property of the events in the flags made of them. -/

namespace FrameDispatcher

section
variable {d : FrameDispatcher} {Q : UUID × DispatchedEvent → Prop}
  {buffered : List (UUID × DispatchedEvent)}

theorem popBuffered_subset (ids : List UUID) : (popBuffered buffered ids).2 ⊆ buffered := by
  induction ids generalizing buffered with
  | nil => exact List.Subset.refl buffered
  | cons id ids ih => exact List.Subset.trans ih List.filter_sublist.subset

/-- A flag carries what the map has at an id it names. -/
theorem emit_origin (decisions : List FlagDecision) (h : ∀ x ∈ d.eventIdToBuffered, Q x) :
    (∀ f ∈ (d.emit decisions).1, ∀ e ∈ f.contributingEvents,
        ∃ id ∈ f.decision.contributingEventIds, Q (id, e)) ∧
      ∀ x ∈ (d.emit decisions).2.eventIdToBuffered, Q x := by
  induction decisions generalizing d with
  | nil => exact ⟨fun f hf => absurd hf List.not_mem_nil, h⟩
  | cons decision decisions ih =>
    let popped := popBuffered d.eventIdToBuffered decision.contributingEventIds
    obtain ⟨hflags, hmap⟩ := ih (d := { d with eventIdToBuffered := popped.2 })
      fun x hx => h x (popBuffered_subset _ hx)
    refine ⟨?_, hmap⟩
    intro f hf e he
    rcases List.mem_cons.mp hf with rfl | hf
    · obtain ⟨id, hid, hlookup⟩ := mem_popBuffered.mp he
      obtain ⟨l₁, l₂, hl, -⟩ := List.lookup_eq_some_iff.mp hlookup
      exact ⟨id, hid, h (id, e) (by rw [hl]; simp)⟩
    · exact hflags f hf e he

theorem feed_origin (es : List InferenceEvent) (h : ∀ x ∈ d.eventIdToBuffered, Q x) :
    (∀ f ∈ (d.feed es).1, ∀ e ∈ f.contributingEvents,
        ∃ id ∈ f.decision.contributingEventIds, Q (id, e)) ∧
      ∀ x ∈ (d.feed es).2.eventIdToBuffered, Q x := by
  induction es generalizing d with
  | nil => exact ⟨fun f hf => absurd hf List.not_mem_nil, h⟩
  | cons e es ih =>
    obtain ⟨hflags, hmap⟩ : (∀ f ∈ (d.feedOne e).1, ∀ e ∈ f.contributingEvents,
        ∃ id ∈ f.decision.contributingEventIds, Q (id, e)) ∧
          ∀ x ∈ (d.feedOne e).2.eventIdToBuffered, Q x :=
      emit_origin (d := d.heard e) _ h
    obtain ⟨hflags', hmap'⟩ := ih hmap
    exact ⟨fun f hf => (List.mem_append.mp hf).elim (hflags f) (hflags' f), hmap'⟩

theorem feed_backed {given : InferenceEvent → Prop} {es : List InferenceEvent}
    (h : Backed d.config.policySnapshot d.config.context given d.aggregator)
    (hes : ∀ e ∈ es, given e) :
    Backed d.config.policySnapshot d.config.context given (d.feed es).2.aggregator := by
  induction es generalizing d with
  | nil => exact h
  | cons e es ih =>
    obtain ⟨he, hes⟩ := List.forall_mem_cons.mp hes
    have hrest := ih (d := (d.feedOne e).2)
    rw [feedOne_config, feedOne_aggregator] at hrest
    exact hrest (h.process he) hes

/-- A call that is made is one of those for the answers. -/
theorem inferenceCalls_subset (s : LazyDispatchStep) :
    d.inferenceCalls s ⊆ d.inferenceEvents s.event.message s.syntheticId s.answers := by
  unfold inferenceCalls inferenceEvents
  cases s.event.message.payload with
  | telemetryHeavyFrame payload =>
    dsimp only
    split
    · unfold heavyFrameCalls
      dsimp only
      split
      · exact List.nil_subset _
      · rename_i hlandmarker
        split
        · split
          · rename_i hgaze
            intro e he
            unfold heavyFrameEvents
            simp only [hgaze, true_or, if_true]
            exact List.mem_append_left _ (List.mem_append_left _ he)
          · exact List.nil_subset _
        · exact List.Subset.refl _
    · exact List.Subset.refl _
  | _ => exact List.Subset.refl _

end

end FrameDispatcher

/-! ## 3. What the worker writes

All the rows a decision is entitled to, if its transaction commits. The termination record is not
among them. -/

section
variable {db db₂ : Database} {examSession : ExamSession} {item : PersistedFlag}
  {c : PersistChoices} {sid : UUID}

/-- The rows of a decision that is persisted: the telemetry of the events it carries, its flag, and
    a link to each event it names. -/
structure DecisionRows (db : Database) (sid : UUID) (item : PersistedFlag) (flagId : UUID)
    (db' : Database) : Prop where
  telemetry : ∀ row ∈ db'.telemetryEvents, row ∈ db.telemetryEvents ∨
    ∃ e ∈ item.contributingEvents, buildTelemetryEventRow e sid = some row
  links : ∀ link, link ∈ db'.flagTelemetryEvents ↔ link ∈ db.flagTelemetryEvents ∨
    ∃ i, item.decision.contributingEventIds[i]? = some link.telemetryEventId ∧
      link.flagId = flagId ∧ link.position = 0 + i
  flags : ∃ flag, flag.id = flagId ∧ flag.ruleCode = item.decision.ruleCode ∧
    ∀ x, x ∈ db'.flags ↔ x ∈ db.flags ∨ x = flag

theorem CommitsFlag.decisionRows (h : CommitsFlag db examSession item c db₂)
    (hs : (db.getExamSession examSession.id).isSome) :
    DecisionRows db examSession.id item c.flagId db₂ := by
  obtain ⟨severity, -, hinsert⟩ := (h.effect hs).flags
  refine ⟨(h.effect hs).telemetry_new, ?_, _, rfl, rfl, fun x => Table.mem_insert? hinsert⟩
  intro link
  rw [← Table.mem_rows, (h.effect hs).links, List.mem_append, Table.mem_rows, List.mem_mapIdx]
  refine or_congr_right ?_
  constructor
  · rintro ⟨i, hi, rfl⟩
    exact ⟨i, List.getElem?_eq_getElem hi, rfl, (Nat.zero_add i).symm⟩
  · rintro ⟨i, hid, hflag, hposition⟩
    obtain ⟨hi, hget⟩ := List.getElem?_eq_some_iff.mp hid
    refine ⟨i, hi, ?_⟩
    rw [hget, ← hflag, ← Nat.zero_add i, ← hposition]

theorem DecisionRows.insertTerminationRecord {r : TerminationRecord} {db₃ : Database}
    (h : DecisionRows db sid item c.flagId db₂)
    (hinsert : db₂.insertTerminationRecord r = some db₃) :
    DecisionRows db sid item c.flagId db₃ := by
  obtain ⟨-, t, -, rfl⟩ := insertTerminationRecord_eq_some_iff.mp hinsert
  exact ⟨h.telemetry, h.links, h.flags⟩

/-- The worker writes the rows of the decision or none. -/
theorem persistOne_decisionRows (db : Database) (sid : UUID) (item : PersistedFlag)
    (c : PersistChoices) :
    (persistOne db sid item c).db = db ∨
      DecisionRows db sid item c.flagId (persistOne db sid item c).db := by
  cases hsession : db.getExamSession sid with
  | none =>
    rw [persistOne_dropped hsession]
    exact .inl rfl
  | some examSession =>
    obtain rfl := Database.getExamSession_id hsession
    have hs : (db.getExamSession examSession.id).isSome := by rw [hsession]; rfl
    have heffect : PersistEffect db examSession item c _ :=
      persistOne_effect hsession
    generalize persistOne db examSession.id item c = result at heffect
    cases heffect with
    | refused _ => exact .inl rfl
    | flagged _ hcommit _ => exact .inr (hcommit.decisionRows hs)
    | unfired _ hcommit _ _ => exact .inr (hcommit.decisionRows hs)
    | terminated _ hcommit _ _ hinsert =>
      exact .inr ((hcommit.decisionRows hs).insertTerminationRecord hinsert)

end

/-! ## 4. The run

Everything said about observations is monotone in what has been observed, so that a later
observation disturbs nothing, and the run lemma needs a case for each of the three steps only. -/

section
variable {Image : Type} (lib : Libraries Image) (config : FrameDispatcherConfig)

/-- The result is one the answers to an observed message gave. -/
def Given (observed : List Observation) (e : InferenceEvent) : Prop :=
  ∃ o ∈ observed, ∃ d : FrameDispatcher,
    e ∈ d.inferenceEvents o.event.message o.syntheticId
      (runnerAnswers (o.libraries lib) config o.event.message o.nows)

/-- A flag of the run: it names events, all of them held against the session under its code, and
    carries observed events it names. -/
structure EarnedFlag (observed : List Observation) (f : PersistedFlag) : Prop where
  nonempty : f.decision.contributingEventIds ≠ []
  named : ∀ id ∈ f.decision.contributingEventIds,
    HeldAgainst lib config observed f.decision.ruleCode id
  carried : ∀ e ∈ f.contributingEvents, ∃ o ∈ observed, e = o.dispatched ∧
    o.syntheticId ∈ f.decision.contributingEventIds

/-- What holds of the session between any two of its steps. -/
structure Monitoring.Sound (sid : UUID) (before : Database) (w : Monitoring) : Prop where
  configured : w.dispatcher.config = config
  distinct : (w.observed.map (·.syntheticId)).Nodup
  backed : Backed config.policySnapshot config.context (Given lib config w.observed)
    w.dispatcher.aggregator
  buffered : ∀ x ∈ w.dispatcher.eventIdToBuffered,
    ∃ o ∈ w.observed, x = (o.syntheticId, o.dispatched)
  flags : ∀ f ∈ w.flagDecisions ++ w.pending, EarnedFlag lib config w.observed f
  earned : Earned lib config sid before w

end

section
variable {Image : Type} {lib : Libraries Image} {config : FrameDispatcherConfig}
  {observed later : List Observation} {ruleCode flagCode : String} {id sid : UUID}
  {f : PersistedFlag} {before : Database} {w : Monitoring}

theorem HeldAgainst.mono (h : HeldAgainst lib config observed flagCode id)
    (hlater : observed ⊆ later) : HeldAgainst lib config later flagCode id := by
  obtain ⟨o, ho, hoffence⟩ := h
  exact ⟨o, hlater ho, hoffence⟩

theorem EarnedFlag.mono (h : EarnedFlag lib config observed f) (hlater : observed ⊆ later) :
    EarnedFlag lib config later f where
  nonempty := h.nonempty
  named id hid := (h.named id hid).mono hlater
  carried e he := by
    obtain ⟨o, ho, hoffence⟩ := h.carried e he
    exact ⟨o, hlater ho, hoffence⟩

theorem Given.mono {e : InferenceEvent} (h : Given lib config observed e)
    (hlater : observed ⊆ later) : Given lib config later e := by
  obtain ⟨o, ho, hgiven⟩ := h
  exact ⟨o, hlater ho, hgiven⟩

/-- What a result is accused of, a message did. -/
theorem heldAgainst_of_accused {d : FlagDecision}
    (h : Accused config.policySnapshot config.context (Given lib config observed) ruleCode id)
    (hjudged : d.JudgedBy ruleCode) : HeldAgainst lib config observed d.ruleCode id := by
  obtain ⟨e, ⟨o, ho, d, he⟩, hoffends, rfl, rfl⟩ := h
  have hkey := (FrameDispatcher.inferenceEvents_forall he).1
  exact ⟨o, ho, hkey.symm, _, hjudged, offence_of_offends he hoffends⟩

/-! ### The dispatcher's steps -/

section
variable {o : Observation}

/-- Whatever the dispatcher is given of a message, the message gave it. -/
theorem Monitoring.Sound.given (h : Sound lib config sid before w) :
    ∀ e ∈ w.dispatcher.inferenceCalls (o.lazyStep lib w.dispatcher.config),
      Given lib config (w.observed ++ [o]) e := by
  intro e he
  have hevents := FrameDispatcher.inferenceCalls_subset _ he
  rw [h.configured] at hevents
  exact ⟨o, List.mem_append_right _ (List.mem_singleton.mpr rfl), w.dispatcher, hevents⟩

theorem Monitoring.Sound.backed_taking (h : Sound lib config sid before w) :
    Backed config.policySnapshot config.context (Given lib config (w.observed ++ [o]))
      (w.dispatcher.taking lib o).aggregator :=
  h.backed.mono fun _ he => he.mono (List.subset_append_left _ _)

/-- The map holds observed messages under their keys, the new one among them. -/
theorem Monitoring.Sound.buffered_taking (h : Sound lib config sid before w) :
    ∀ x ∈ (w.dispatcher.taking lib o).eventIdToBuffered,
      ∃ o' ∈ w.observed ++ [o], x = (o'.syntheticId, o'.dispatched) := by
  intro x hx
  rcases List.mem_cons.mp hx with rfl | hx
  · exact ⟨o, List.mem_append_right _ (List.mem_singleton.mpr rfl), rfl⟩
  · obtain ⟨o', ho', rfl⟩ := h.buffered x (List.mem_of_mem_filter hx)
    exact ⟨o', List.mem_append_left _ ho', rfl⟩

/-- **A dispatch puts earned flags on the queue.** -/
theorem Monitoring.Sound.observe_flags (h : Sound lib config sid before w)
    (hadmitted : config.policySnapshot.Admitted)
    (hwarning : 0 < config.policySnapshot.gazeWarningLimit) :
    ∀ f ∈ (w.dispatcher.observe lib o).1, EarnedFlag lib config (w.observed ++ [o]) f := by
  intro f hf
  obtain ⟨hcarried, -⟩ := FrameDispatcher.feed_origin
    (w.dispatcher.inferenceCalls (o.lazyStep lib w.dispatcher.config)) h.buffered_taking
  have hmem : f.decision ∈ (w.dispatcher.taking lib o).aggregator.decisions config.policySnapshot
      config.context (w.dispatcher.inferenceCalls (o.lazyStep lib w.dispatcher.config)) := by
    have hconfig : (w.dispatcher.taking lib o).config = config := h.configured
    have hdecision : f.decision ∈ (w.dispatcher.observe lib o).1.map (·.decision) :=
      List.mem_map_of_mem hf
    rwa [FrameDispatcher.observe, FrameDispatcher.feed_decisions, hconfig] at hdecision
  obtain ⟨hnamed, hnonempty⟩ := h.backed_taking.accused h.given hmem
  refine ⟨hnonempty hadmitted hwarning, ?_, ?_⟩
  · intro id hid
    obtain ⟨ruleCode, hjudged, haccused⟩ := hnamed id hid
    exact heldAgainst_of_accused haccused hjudged
  · intro e he
    obtain ⟨id, hid, o', ho', heq⟩ := hcarried f hf e he
    obtain ⟨rfl, rfl⟩ := Prod.mk.inj heq
    exact ⟨o', ho', rfl, hid⟩

/-- What was earned by some messages is earned by more of them. -/
theorem Earned.mono {w' : Monitoring} (h : Earned lib config sid before w) (hdb : w'.db = w.db)
    (hlater : w.observed ⊆ w'.observed) : Earned lib config sid before w' := by
  refine ⟨?_, ?_, ?_⟩
  · intro row hrow
    rw [hdb] at hrow
    refine (h.telemetry row hrow).imp_right ?_
    rintro ⟨o, ho, hoffence⟩
    exact ⟨o, hlater ho, hoffence⟩
  · intro link hlink
    rw [hdb] at hlink ⊢
    refine (h.links link hlink).imp_right ?_
    rintro ⟨flag, hflag, hid, hheld⟩
    exact ⟨flag, hflag, hid, hheld.mono hlater⟩
  · intro flag hflag
    rw [hdb] at hflag ⊢
    refine (h.flags flag hflag).imp_right ?_
    rintro ⟨link, hlink, hid, hheld⟩
    exact ⟨link, hlink, hid, hheld.mono hlater⟩

theorem Monitoring.Sound.observe (h : Sound lib config sid before w)
    (hadmitted : config.policySnapshot.Admitted)
    (hwarning : 0 < config.policySnapshot.gazeWarningLimit)
    (hfresh : o.syntheticId ∉ w.observed.map (·.syntheticId)) :
    Sound lib config sid before
      { w with
        dispatcher := (w.dispatcher.observe lib o).2
        pending := (w.dispatcher.observe lib o).1
        observed := w.observed ++ [o] } where
  configured := FrameDispatcher.feed_config.trans h.configured
  distinct := by
    show ((w.observed ++ [o]).map (·.syntheticId)).Nodup
    rw [List.map_append]
    exact h.distinct.append (List.nodup_singleton _) (by simpa using hfresh)
  backed := by
    have hpolicy : (w.dispatcher.taking lib o).config = config := h.configured
    have hbacked : Backed (w.dispatcher.taking lib o).config.policySnapshot
        (w.dispatcher.taking lib o).config.context (Given lib config (w.observed ++ [o]))
        (w.dispatcher.taking lib o).aggregator := by
      rw [hpolicy]
      exact h.backed_taking
    have hfed := FrameDispatcher.feed_backed hbacked h.given
    rw [hpolicy] at hfed
    exact hfed
  buffered := (FrameDispatcher.feed_origin _ h.buffered_taking).2
  flags := by
    intro f hf
    rcases List.mem_append.mp hf with hold | hnew
    · exact (h.flags f (List.mem_append_left _ hold)).mono (List.subset_append_left _ _)
    · exact h.observe_flags hadmitted hwarning f hnew
  earned := h.earned.mono rfl (List.subset_append_left _ _)

end

/-! ### The worker's step -/

/-- An event that a flag carries offended: of the observed messages one drew its key. -/
theorem Monitoring.Sound.offence_of_carried (h : Sound lib config sid before w)
    (hflag : EarnedFlag lib config w.observed f) {e : DispatchedEvent}
    (he : e ∈ f.contributingEvents) :
    ∃ o ∈ w.observed, e = o.dispatched ∧
      ∃ ruleCode, Offence (o.libraries lib) config o.event.message ruleCode := by
  obtain ⟨o, ho, rfl, hid⟩ := hflag.carried e he
  obtain ⟨o', ho', hkey, ruleCode, -, hoffence⟩ := hflag.named _ hid
  obtain rfl : o' = o := List.inj_on_of_nodup_map h.distinct ho' ho hkey
  exact ⟨o', ho', rfl, ruleCode, hoffence⟩

/-- **The worker writes what the flag earned.** -/
theorem Monitoring.Sound.persisted {db' : Database} {flagId : UUID}
    (h : Sound lib config sid before w) (hflag : EarnedFlag lib config w.observed f)
    (hrows : DecisionRows w.db sid f flagId db') :
    Earned lib config sid before { w with db := db' } := by
  obtain ⟨flag, hid, hcode, hflags⟩ := hrows.flags
  have hlinked : ∀ telemetryId ∈ f.decision.contributingEventIds,
      ∃ link ∈ db'.flagTelemetryEvents,
        link.flagId = flagId ∧ link.telemetryEventId = telemetryId := by
    intro telemetryId hmem
    obtain ⟨i, hi⟩ := List.getElem?_of_mem hmem
    exact ⟨⟨flagId, telemetryId, 0 + i⟩, (hrows.links _).mpr (.inr ⟨i, hi, rfl, rfl⟩), rfl, rfl⟩
  -- a row of each table is an old one or one of this decision
  refine ⟨?_, ?_, ?_⟩
  · intro row hrow
    rcases hrows.telemetry row hrow with hold | ⟨e, he, hbuilt⟩
    · exact h.earned.telemetry row hold
    · obtain ⟨o, ho, rfl, hoffence⟩ := h.offence_of_carried hflag he
      exact .inr ⟨o, ho, hbuilt, hoffence⟩
  · intro link hlink
    rcases (hrows.links link).mp hlink with hold | ⟨i, hi, hflagId, -⟩
    · refine (h.earned.links link hold).imp_right ?_
      rintro ⟨old, hmem, hheld⟩
      exact ⟨old, (hflags old).mpr (.inl hmem), hheld⟩
    · have hheld := hflag.named _ (List.mem_of_getElem? hi)
      rw [← hcode] at hheld
      exact .inr ⟨flag, (hflags flag).mpr (.inr rfl), hid.trans hflagId.symm, hheld⟩
  · intro x hx
    rcases (hflags x).mp hx with hold | rfl
    · refine (h.earned.flags x hold).imp_right ?_
      rintro ⟨link, hmem, hheld⟩
      exact ⟨link, (hrows.links link).mpr (.inl hmem), hheld⟩
    -- the new flag: it names an event, and so has a link
    · obtain ⟨telemetryId, hmem⟩ := List.exists_mem_of_ne_nil _ hflag.nonempty
      obtain ⟨link, hlink, hflagId, rfl⟩ := hlinked telemetryId hmem
      have hheld := hflag.named _ hmem
      rw [← hcode] at hheld
      exact .inr ⟨link, hlink, hflagId.trans hid.symm, hheld⟩

theorem Monitoring.Sound.step (h : Sound lib config sid before w)
    (hadmitted : config.policySnapshot.Admitted)
    (hwarning : 0 < config.policySnapshot.gazeWarningLimit)
    (action : MonitoringStep) : Sound lib config sid before (w.step lib sid action) := by
  cases action with
  | observe o =>
    simp only [Monitoring.step]
    split
    · rename_i hfree
      exact h.observe hadmitted hwarning hfree.2
    · exact h
  -- A flag only moves from the pending ones to the queue.
  | putFlag =>
    simp only [Monitoring.step]
    split
    · exact h
    · rename_i item rest hpending
      refine { h with flags := ?_, earned := h.earned.mono rfl (List.Subset.refl _) }
      intro f hf
      refine h.flags f ?_
      rw [hpending]
      simpa using hf
  | persist c =>
    simp only [Monitoring.step]
    split
    · exact h
    · rename_i item rest hqueue
      -- The flag taken out was earned, so the rows written from it are.
      have hitem : EarnedFlag lib config w.observed item :=
        h.flags item (by rw [hqueue]; exact List.mem_append_left _ List.mem_cons_self)
      have hrest : ∀ f ∈ rest ++ w.pending, EarnedFlag lib config w.observed f :=
        fun f hf => h.flags f (by rw [hqueue]; exact List.mem_cons_of_mem item hf)
      have hearned : Earned lib config sid before
          { w with db := (persistOne w.db sid item c).db } := by
        obtain hsame | hrows := persistOne_decisionRows w.db sid item c
        · rw [hsame]
          exact h.earned
        · exact h.persisted hitem hrows
      exact { h with flags := hrest, earned := hearned.mono rfl (List.Subset.refl _) }

theorem Monitoring.sound_start (livenessBackend : Bool) :
    Sound lib config sid before (start config livenessBackend before) where
  configured := rfl
  distinct := List.nodup_nil
  backed := backed_new
  buffered _ hx := absurd hx List.not_mem_nil
  flags _ hf := absurd hf List.not_mem_nil
  earned := ⟨fun _ h => .inl h, fun _ h => .inl h, fun _ h => .inl h⟩

theorem Monitoring.sound_run (hadmitted : config.policySnapshot.Admitted)
    (hwarning : 0 < config.policySnapshot.gazeWarningLimit) (livenessBackend : Bool)
    (steps : List MonitoringStep) :
    Run.Always (Monitoring.step lib sid) (Sound lib config sid before)
      (start config livenessBackend before) steps :=
  Run.always_of_step (fun _ action h => h.step hadmitted hwarning action)
    (sound_start livenessBackend)

/-- **Every row a session's run writes goes back to a message that offended**, whatever the models
    answer, whenever the worker runs and whatever it fails to persist. -/
theorem Monitoring.every_record_earned (lib : Libraries Image) (config : FrameDispatcherConfig)
    (livenessBackend : Bool) (before : Database) (sid : UUID) (steps : List MonitoringStep)
    (hadmitted : config.policySnapshot.Admitted)
    (hwarning : 0 < config.policySnapshot.gazeWarningLimit) :
    Run.Always (Monitoring.step lib sid) (Earned lib config sid before)
      (start config livenessBackend before) steps :=
  (sound_run hadmitted hwarning livenessBackend steps).mono fun _ h => h.earned

/-- What was observed was offered. -/
theorem Monitoring.observed_run {steps : List MonitoringStep} :
    ∀ o ∈ (Run.final (Monitoring.step lib sid) w steps).observed,
      o ∈ w.observed ∨ .observe o ∈ steps := by
  induction steps generalizing w with
  | nil => exact fun o ho => .inl ho
  | cons action steps ih =>
    intro o ho
    obtain hbefore | hlater := ih o ho
    · cases action with
      | observe next =>
        simp only [Monitoring.step] at hbefore
        split at hbefore
        · rcases List.mem_append.mp hbefore with hbefore | hnext
          · exact .inl hbefore
          · rw [List.mem_singleton.mp hnext]
            exact .inr List.mem_cons_self
        · exact .inl hbefore
      | putFlag =>
        simp only [Monitoring.step] at hbefore
        split at hbefore
        all_goals exact .inl hbefore
      | persist c =>
        simp only [Monitoring.step] at hbefore
        split at hbefore
        all_goals exact .inl hbefore
    · exact .inr (List.mem_cons_of_mem action hlater)

/-- The rows about a participant are those there were. -/
structure Unrecorded (before db : Database) : Prop where
  telemetry : ∀ row ∈ db.telemetryEvents, row ∈ before.telemetryEvents
  links : ∀ link ∈ db.flagTelemetryEvents, link ∈ before.flagTelemetryEvents
  flags : ∀ flag ∈ db.flags, flag ∈ before.flags

/-- A session in which nothing offends leaves no row. -/
theorem Monitoring.clean_session_unrecorded {livenessBackend : Bool} {steps : List MonitoringStep}
    (hadmitted : config.policySnapshot.Admitted)
    (hwarning : 0 < config.policySnapshot.gazeWarningLimit)
    (hclean : ∀ o, .observe o ∈ steps →
      ∀ ruleCode, ¬ Offence (o.libraries lib) config o.event.message ruleCode) :
    Unrecorded before
      (Run.final (Monitoring.step lib sid) (start config livenessBackend before) steps).db := by
  have hsound : Run.Always (Monitoring.step lib sid) (Sound lib config sid before)
      (start config livenessBackend before) steps := sound_run hadmitted hwarning _ steps
  have hearned := hsound.final.earned
  have hnone : ∀ o ∈ (Run.final (Monitoring.step lib sid) (start config livenessBackend before)
      steps).observed, ∀ ruleCode, ¬ Offence (o.libraries lib) config o.event.message ruleCode :=
    fun o ho => hclean o ((observed_run o ho).resolve_left List.not_mem_nil)
  refine ⟨?_, ?_, ?_⟩
  · intro row hrow
    refine (hearned.telemetry row hrow).resolve_right ?_
    rintro ⟨o, ho, -, ruleCode, hoffence⟩
    exact hnone o ho ruleCode hoffence
  · intro link hlink
    refine (hearned.links link hlink).resolve_right ?_
    rintro ⟨_, -, -, o, ho, -, ruleCode, -, hoffence⟩
    exact hnone o ho ruleCode hoffence
  · intro flag hflag
    refine (hearned.flags flag hflag).resolve_right ?_
    rintro ⟨_, -, -, o, ho, -, ruleCode, -, hoffence⟩
    exact hnone o ho ruleCode hoffence

end

/-! ## 5. A phone on the desk -/

/-- Every picture is of an empty chair, 640 by 480, with a phone in front of it. -/
def deskLibraries : Libraries (List Nat) where
  imdecode raw := some raw
  shape _ := [480, 640, 3]
  detect _ := some []
  solvePnP _ _ _ := none
  norm _ := 0
  predict _ conf := some (some (([⟨1 / 2, 1 / 2, 3 / 4, 3 / 4, 9 / 10, 67⟩,
    ⟨0, 1 / 4, 1 / 2, 1, 8 / 10, 56⟩] : List YoloBox).filter (conf ≤ ·.conf)))
  classNames := [(56, "chair"), (67, "cell phone")]
  embed _ _ := none
  spoof _ _ := none
  isSpeech _ _ _ := some false
  rmsDb _ := -60

theorem deskFrame_nonempty : "AAAA" ≠ "" := by decide

theorem deskFrame_resolution : 0 < 640 ∧ 0 < 480 := by decide

theorem deskFrame_encoding : "jpeg" ∈ validFrameEncodings := by decide

/-- A heavy frame, dispatched under the key 10. -/
def deskFrame : Observation where
  event :=
    { message :=
        { (faceEvent 10 0).message with
          payload := .telemetryHeavyFrame
            { frame := "AAAA", width := 640, height := 480, encoding := "jpeg"
              frameNonempty := deskFrame_nonempty, resolutionPositive := deskFrame_resolution
              encodingValid := deskFrame_encoding } }
      receivedAt := 0
      seq := 0 }
  syntheticId := 10
  nows _ := 0
  landmarkerReady := true
  detectorReady := true
  isSpeech _ _ _ := some false

def deskSteps : List MonitoringStep := [.observe deskFrame, .putFlag, .persist ⟨20, 30, false⟩]

theorem Monitoring.every_record_earned_desk :
    Run.Always (Monitoring.step deskLibraries 1)
        (Earned deskLibraries (AuditRun.auditConfig .closedBook) 1
          (AuditRun.auditDatabase .closedBook))
        (start (AuditRun.auditConfig .closedBook) false (AuditRun.auditDatabase .closedBook))
        deskSteps ∧
      ((Run.final (Monitoring.step deskLibraries 1)
        (start (AuditRun.auditConfig .closedBook) false (AuditRun.auditDatabase .closedBook))
        deskSteps).db.flags.rows.map (·.ruleCode)) = ["object_detected"] :=
  ⟨every_record_earned deskLibraries (AuditRun.auditConfig .closedBook) false
    (AuditRun.auditDatabase .closedBook) 1 deskSteps (PolicySnapshot.admitted_ofRow _)
    (by decide), by decide +kernel⟩

end ProctorEngine
