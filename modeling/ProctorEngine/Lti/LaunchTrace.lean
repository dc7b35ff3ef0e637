import ProctorEngine.Lti.LaunchFlow

/-!
# Where an exam session comes from

What a launch counts on while it waits is there when it goes on: the documents that were served stay
on record, and a key that has been returned stays returned. So **every exam session goes back to a
platform**: to a login of it, to a discovery document that names it, to a key set published where
that document says, to a token signed with a key of that set, and to the claims of that token. And
since a login is good for one launch, there are never more sessions than logins.

The two caches and the flow have invariants of their own, which say what each of them holds at one
moment. A trace spans several moments: the document was returned before the key was asked for, and
the key before the state was consumed. Between these a launch only carries what it got. The bridge
is that the caches' logs grow (`Keeps`, `KeepsCalls`), whence `Backed`, the part of the trace that a
launch has reached, is kept by everybody else's steps.

The count is by the states of the logins. A launch that has ended in a session has consumed its
state, two launches have consumed different ones, and every session that is new belongs to a launch
that has ended.

Two things are assumed of a run: tokens and keys drawn at random are new (`Fresh`), and the rest of
the engine makes no sessions (`KeepsSessions`).
-/

set_option autoImplicit false

namespace ProctorEngine.Lti

/-! ## 1. What the caches keep

Both caches keep a log of the calls made on them, by position. A call may go on to its next phase,
but it stays a call for what it was for. -/

namespace DiscoveryCache

/-- The record grows, and a call is for the issuer it was for. -/
structure Keeps (s s' : DiscoveryCache) : Prop where
  served : s.served ⊆ s'.served
  calls : ∀ (n : Nat) (call : DiscoveryCall), s.calls[n]? = some call →
    ∃ call', s'.calls[n]? = some call' ∧ call'.issuer = call.issuer

section
variable {settings : DiscoverySettings} {s s' : DiscoveryCache} {call : DiscoveryCall} {n : Nat}

theorem keeps_begin (issuer : String) : Keeps s (s.begin issuer) where
  served := fun _ h => h
  calls := by
    intro m other hm
    have hlt := (List.getElem?_eq_some_iff.mp hm).1
    exact ⟨other, (List.getElem?_append_left hlt).trans hm, rfl⟩

theorem keeps_set (hcall : s.calls[n]? = some call) (phase : DiscoveryPhase)
    (m : Nat) (other : DiscoveryCall) (hm : s.calls[m]? = some other) :
    ∃ call', (s.calls.set n { call with phase })[m]? = some call' ∧
      call'.issuer = other.issuer := by
  by_cases hsame : n = m
  · subst hsame
    have hlt := (List.getElem?_eq_some_iff.mp hm).1
    cases hcall.symm.trans hm
    exact ⟨_, List.getElem?_set_self hlt, rfl⟩
  · exact ⟨other, (List.getElem?_set_ne hsame).trans hm, rfl⟩

theorem keeps_moves (hmoves : Moves s s') : Keeps s s' := by
  cases hmoves with
  | idle => exact ⟨fun _ h => h, fun n call hcall => ⟨call, hcall, rfl⟩⟩
  | began issuer => exact keeps_begin issuer
  | failed e hcall => exact ⟨fun _ h => h, keeps_set hcall _⟩
  | stored hcall => exact ⟨fun _ h => List.mem_cons_of_mem _ h, keeps_set hcall _⟩

theorem keeps_step (e : DiscoveryEvent) : Keeps s (s.step settings e) := keeps_moves (moves_step e)

theorem beginCall_issuer (issuer : String) : (s.beginCall issuer).issuer = issuer := by
  unfold beginCall
  split
  case isTrue => rfl
  case isFalse =>
    split
    case h_1 => rfl
    case h_2 => rfl

end

end DiscoveryCache

namespace JwksCache

variable {κ : Type}

/-- A call is for the key it was for, and one that has returned is over. -/
def KeepsCalls (calls calls' : List (JwksCall κ)) : Prop :=
  ∀ (n : Nat) (call : JwksCall κ), calls[n]? = some call →
    ∃ call', calls'[n]? = some call' ∧ call'.uri = call.uri ∧ call'.request = call.request ∧
      ∀ key t, call.phase = .returned key t → call' = call

section
variable {pyJwk : Dict → PyJwkResult κ} {ttl : JwksTtl} {s s' : JwksCache κ}
  {calls : List (JwksCall κ)} {call call' : JwksCall κ} {n : Nat}

theorem keepsCalls_refl : KeepsCalls calls calls :=
  fun _ call hcall => ⟨call, hcall, rfl, rfl, fun _ _ _ => rfl⟩

theorem keepsCalls_append : KeepsCalls calls (calls ++ [call]) := by
  intro n other hother
  have hlt := (List.getElem?_eq_some_iff.mp hother).1
  exact ⟨other, (List.getElem?_append_left hlt).trans hother, rfl, rfl, fun _ _ _ => rfl⟩

theorem keepsCalls_set (hcall : calls[n]? = some call) (huri : call'.uri = call.uri)
    (hrequest : call'.request = call.request) (hphase : ∀ key t, call.phase ≠ .returned key t) :
    KeepsCalls calls (calls.set n call') := by
  intro m other hother
  by_cases hsame : n = m
  · subst hsame
    have hlt := (List.getElem?_eq_some_iff.mp hother).1
    cases hcall.symm.trans hother
    exact ⟨call', List.getElem?_set_self hlt, huri, hrequest,
      fun key t hreturned => absurd hreturned (hphase key t)⟩
  · exact ⟨other, (List.getElem?_set_ne hsame).trans hother, rfl, rfl, fun _ _ _ => rfl⟩

theorem finishLookUp_uri {again : Bool} : (s.finishLookUp call again).uri = call.uri ∧
    (s.finishLookUp call again).request = call.request := by
  unfold finishLookUp
  repeat' split
  all_goals exact ⟨rfl, rfl⟩

theorem keepsCalls_moves (hmoves : Moves pyJwk ttl s s') : KeepsCalls s.calls s'.calls := by
  cases hmoves with
  | idle | dropped => exact keepsCalls_refl
  | served hit | asked => exact keepsCalls_append
  | answered hcall hphase =>
    exact keepsCalls_set hcall rfl rfl fun key t hreturned => nomatch hphase.symm.trans hreturned
  | resumed hcall hphase =>
    unfold finishRefresh
    split
    case h_1 =>
      exact keepsCalls_set hcall rfl rfl fun key t hreturned => nomatch hphase.symm.trans hreturned
    case h_2 =>
      exact keepsCalls_set hcall rfl rfl fun key t hreturned => nomatch hphase.symm.trans hreturned
  | lookedUp hcall hphase =>
    exact keepsCalls_set hcall finishLookUp_uri.1 finishLookUp_uri.2
      fun key t hreturned => nomatch hphase.symm.trans hreturned

theorem keepsCalls_step (e : ℚ × JwksEvent) :
    KeepsCalls s.calls (s.step pyJwk ttl e).calls :=
  keepsCalls_moves (s := s.tick e.1) (moves_act e.2)

theorem keepsCalls_getKey (time : ℚ) (uri kid : String) :
    KeepsCalls s.calls ((s.tick time).getKey uri kid).calls := by
  unfold getKey
  split
  case h_1 => exact keepsCalls_append
  case h_2 => exact keepsCalls_append

/-- The call that `get_key` begins. -/
theorem getKey_call (time : ℚ) (uri kid : String) :
    ∃ call, ((s.tick time).getKey uri kid).calls[s.calls.length]? = some call ∧ call.uri = uri ∧
      call.request = .getKey kid := by
  unfold getKey
  split
  case h_1 => exact ⟨_, List.getElem?_concat_length, rfl, rfl⟩
  case h_2 => exact ⟨_, List.getElem?_concat_length, rfl, rfl⟩

end

end JwksCache

/-! ## 2. What a launch writes

The upsert of the participant and the insert of the session, read off the transaction that
commits. -/

/-- The participant is the one the claims name, and the session is theirs, for the resource and
    under the policy of the claims. -/
structure LaunchedFor (claims : LtiIdToken) (participant : Participant)
    (examSession : ExamSession) : Prop where
  issuer : participant.ltiIssuer = claims.issuer
  subject : participant.lmsUserReference = claims.subject
  participantId : examSession.participantId = participant.id
  examReference : examSession.examReference = claims.resourceLinkId
  status : examSession.status = .pending

section
variable {db : Database} {claims : LtiIdToken} {role : AppRole} {ids : LaunchIds}
  {consentAt : DateTime} {result : LaunchResult}

theorem upsertParticipant_participant {db' : Database} {id : UUID} {participant : Participant}
    (h : upsertParticipant db claims id = some (participant, db')) :
    participant.ltiIssuer = claims.issuer ∧ participant.lmsUserReference = claims.subject ∧
      db'.examSessions = db.examSessions := by
  unfold upsertParticipant at h
  split at h
  case h_1 found hfound =>
    cases h
    have hkey := Table.of_find?_eq_some hfound
    rw [decide_eq_true_eq] at hkey
    exact ⟨hkey.1, hkey.2, rfl⟩
  case h_2 =>
    obtain ⟨participants, -, hpair⟩ := Option.map_eq_some_iff.mp h
    cases hpair
    exact ⟨rfl, rfl, rfl⟩

/-- A launch that goes through adds one session, its own. -/
theorem processLaunch_ok (h : processLaunch db claims role ids consentAt = .ok result) :
    LaunchedFor claims result.participant result.examSession ∧
      result.db.examSessions.rows = db.examSessions.rows ++ [result.examSession] := by
  unfold processLaunch at h
  split at h
  case h_1 => exact nomatch h
  case h_2 policyName hname =>
    split at h
    case h_1 => exact nomatch h
    case h_2 policy hpolicy =>
      split at h
      case h_1 => exact nomatch h
      case h_2 participant db₁ hparticipant =>
        obtain ⟨hissuer, hsubject, hsessions⟩ := upsertParticipant_participant hparticipant
        dsimp only at h
        split at h
        case h_1 => exact nomatch h
        case h_2 examSessions hinsert =>
          split at h
          case h_1 => exact nomatch h
          case h_2 db₂ hadmin =>
            cases h
            obtain ⟨adminUsers, rfl, -⟩ := upsertAdminUser_cases hadmin
            refine ⟨⟨hissuer, hsubject, rfl, rfl, rfl⟩, ?_⟩
            rw [← hsessions]
            exact (Table.insert?_eq_some_iff.mp hinsert).2

end

/-! ## 3. The trace of a launch

`Backed` follows the program counter of a launch, so that the step lemma is a case for each move of
the flow. -/

namespace LaunchFlow

variable {σ κ : Type} {ttl : Nat} [LaunchStateStore σ ttl]

/-- The key was returned to the launch for its token's `kid`, from the key set of the document
    that names its issuer. -/
structure Keyed (w : LaunchFlow σ κ) (launch : Launching κ) (v : Verified κ) : Prop where
  documented : w.discovery.Documented launch.issuer v.discovery
  returned : ∃ call ∈ w.jwks.calls, call.uri = v.discovery.jwksUri ∧
    ∃ returnedAt, JwksCache.Returned call launch.kid v.key returnedAt

/-- What a launch counts on where it is. -/
def Backed (w : LaunchFlow σ κ) (launch : Launching κ) : FlowPc κ → Prop
  | .peeking | .failed _ => True
  | .discovering n =>
    ∃ call, w.discovery.calls[n]? = some call ∧ call.issuer = launch.issuer
  | .fetchingKey discovery n =>
    w.discovery.Documented launch.issuer discovery ∧
      ∃ call, w.jwks.calls[n]? = some call ∧ call.uri = discovery.jwksUri ∧
        call.request = .getKey launch.kid
  | .consuming v | .persisting v => w.Keyed launch v
  | .redirected v participant examSession =>
    w.Keyed launch v ∧ LaunchedFor v.claims.idToken participant examSession

/-- The caches as they can be, and every launch backed by them. -/
structure Linked (settings : FlowSettings κ) (w : LaunchFlow σ κ) : Prop where
  discovery : w.discovery.Invariant
  jwks : JwksCache.Invariant settings.pyJwk settings.ttl w.jwks
  consistent : ∀ launch ∈ w.launches, Consistent settings launch
  backed : ∀ launch ∈ w.launches, w.Backed launch launch.pc

section
variable {settings : FlowSettings κ} {w w' : LaunchFlow σ κ} {launch : Launching κ}
  {v : Verified κ} {pc : FlowPc κ} {l : FlowStep}

/-- The caches have moved on. -/
structure Later (w w' : LaunchFlow σ κ) : Prop where
  discovery : DiscoveryCache.Keeps w.discovery w'.discovery
  jwks : JwksCache.KeepsCalls w.jwks.calls w'.jwks.calls

theorem Later.same (hdiscovery : w'.discovery = w.discovery) (hjwks : w'.jwks = w.jwks) :
    Later w w' where
  discovery := by
    rw [hdiscovery]
    exact ⟨fun _ h => h, fun _ call hcall => ⟨call, hcall, rfl⟩⟩
  jwks := by
    rw [hjwks]
    exact JwksCache.keepsCalls_refl

theorem Keyed.later (h : w.Keyed launch v) (hlater : Later w w') : w'.Keyed launch v where
  documented := h.documented.of_subset hlater.discovery.served
  returned := by
    obtain ⟨call, hcall, huri, t, hreturned⟩ := h.returned
    obtain ⟨n, hn⟩ := List.getElem?_of_mem hcall
    obtain ⟨call', hn', -, -, hsame⟩ := hlater.jwks n call hn
    obtain rfl := hsame v.key t hreturned.2
    exact ⟨call', List.mem_of_getElem? hn', huri, t, hreturned⟩

theorem Backed.later (h : w.Backed launch pc) (hlater : Later w w') : w'.Backed launch pc := by
  cases pc with
  | peeking | failed e => trivial
  | discovering n =>
    obtain ⟨call, hcall, hissuer⟩ := h
    obtain ⟨call', hcall', hsame⟩ := hlater.discovery.calls n call hcall
    exact ⟨call', hcall', hsame.trans hissuer⟩
  | fetchingKey discovery n =>
    obtain ⟨hdocumented, call, hcall, huri, hrequest⟩ := h
    obtain ⟨call', hcall', huri', hrequest', -⟩ := hlater.jwks n call hcall
    exact ⟨hdocumented.of_subset hlater.discovery.served, call', hcall', huri'.trans huri,
      hrequest'.trans hrequest⟩
  | consuming v | persisting v => exact Keyed.later h hlater
  | redirected v participant examSession => exact ⟨h.1.later hlater, h.2⟩

theorem later_moves (hmoves : Moves settings w l w') : Later w w' := by
  cases hmoves with
  | idle | database db | stored store new | begun hconsistent hpc | failed store e hi hpc
  | verified hi hpc houtcome hverified | consumed store hi hpc | persisted hi hpc hprocess =>
    exact .same rfl rfl
  | discovery e => exact ⟨DiscoveryCache.keeps_step e, JwksCache.keepsCalls_refl⟩
  | jwks e => exact ⟨(Later.same rfl rfl).discovery, JwksCache.keepsCalls_step e⟩
  | peeked store hi hpc => exact ⟨DiscoveryCache.keeps_begin _, JwksCache.keepsCalls_refl⟩
  | discovered time hi hpc houtcome =>
    exact ⟨(Later.same rfl rfl).discovery, JwksCache.keepsCalls_getKey _ _ _⟩

theorem discovery_moves (h : w.discovery.Invariant) (hmoves : Moves settings w l w') :
    w'.discovery.Invariant := by
  cases hmoves with
  | idle | database db | stored store new | begun hconsistent hpc | failed store e hi hpc
  | verified hi hpc houtcome hverified | consumed store hi hpc | persisted hi hpc hprocess
  | jwks e | discovered time hi hpc houtcome => exact h
  | discovery e => exact h.step e
  | peeked store hi hpc => exact h.begin _

theorem jwks_moves (h : JwksCache.Invariant settings.pyJwk settings.ttl w.jwks)
    (hmoves : Moves settings w l w') :
    JwksCache.Invariant settings.pyJwk settings.ttl w'.jwks := by
  cases hmoves with
  | idle | database db | stored store new | begun hconsistent hpc | failed store e hi hpc
  | verified hi hpc houtcome hverified | consumed store hi hpc | persisted hi hpc hprocess
  | discovery e | peeked store hi hpc => exact h
  | jwks e => exact h.step e
  | discovered time hi hpc houtcome => exact h.step (time, .getKey _ _)

/-- A document that discovery says it has is one that was returned. -/
theorem returned_of_discovery {n : Nat} {discovery : OidcDiscovery}
    (h : w.discovery.calls[n]?.bind (·.phase.outcome) = some (.ok discovery)) :
    ∃ call, w.discovery.calls[n]? = some call ∧ call.phase = .returned discovery := by
  obtain ⟨call, hcall, houtcome⟩ := Option.bind_eq_some_iff.mp h
  refine ⟨call, hcall, ?_⟩
  unfold DiscoveryPhase.outcome at houtcome
  split at houtcome
  case h_2 document hphase =>
    cases houtcome
    exact hphase
  all_goals cases houtcome

/-- The same of a key. -/
theorem returned_of_jwks {n : Nat} {key : κ}
    (h : w.jwks.calls[n]?.bind (·.phase.outcome) = some (.ok key)) :
    ∃ call, w.jwks.calls[n]? = some call ∧ ∃ returnedAt, call.phase = .returned key returnedAt := by
  obtain ⟨call, hcall, houtcome⟩ := Option.bind_eq_some_iff.mp h
  refine ⟨call, hcall, ?_⟩
  unfold JwksPhase.outcome at houtcome
  split at houtcome
  case h_1 found returnedAt hphase =>
    cases houtcome
    exact ⟨returnedAt, hphase⟩
  all_goals cases houtcome

/-- The launch that moves is backed where it goes. -/
theorem backed_set (h : Linked settings w) (hlater : Later w w') {i : Nat}
    (hlaunches : w'.launches = w.launches.set i { launch with pc })
    (hnew : w'.Backed launch pc) : ∀ launch ∈ w'.launches, w'.Backed launch launch.pc := by
  intro other hother
  rw [hlaunches] at hother
  rcases List.mem_or_eq_of_mem_set hother with hold | rfl
  · exact (h.backed other hold).later hlater
  · -- where a launch is backed depends on its issuer and its `kid` only
    cases pc with
    | peeking | failed e | discovering n | fetchingKey discovery n => exact hnew
    | consuming v | persisting v => exact ⟨hnew.documented, hnew.returned⟩
    | redirected v participant examSession =>
      exact ⟨⟨hnew.1.documented, hnew.1.returned⟩, hnew.2⟩

theorem backed_moves (h : Linked settings w) (hmoves : Moves settings w l w') :
    ∀ launch ∈ w'.launches, w'.Backed launch launch.pc := by
  have hlater := later_moves hmoves
  have hkept : ∀ launch ∈ w.launches, w'.Backed launch launch.pc :=
    fun launch hlaunch => (h.backed launch hlaunch).later hlater
  cases hmoves with
  | idle | discovery e | jwks e | database db | stored store new => exact hkept
  | @begun _ launch hconsistent hpc =>
    intro other hother
    rcases List.mem_append.mp hother with hother | hother
    · exact hkept other hother
    · rw [List.mem_singleton.mp hother, hpc]
      trivial
  | failed store e hi hpc => exact backed_set h hlater rfl trivial
  | peeked store hi hpc =>
    apply backed_set h hlater rfl
    exact ⟨_, List.getElem?_concat_length, DiscoveryCache.beginCall_issuer _⟩
  -- the document arrives, and the call for the key is begun with what it says
  | discovered time hi hpc houtcome =>
    apply backed_set h hlater rfl
    have hbacked := hkept _ (List.mem_of_getElem? hi)
    rw [hpc] at hbacked
    obtain ⟨call, hcall, hissuer⟩ := hbacked
    obtain ⟨call', hcall', hreturned⟩ := returned_of_discovery houtcome
    cases hcall.symm.trans hcall'
    have hdocumented := h.discovery.returned call (List.mem_of_getElem? hcall) _ hreturned
    rw [hissuer] at hdocumented
    exact ⟨hdocumented, JwksCache.getKey_call time _ _⟩
  -- the key arrives, and the token verifies under it
  | verified hi hpc houtcome hverified =>
    have hmem := List.mem_of_getElem? hi
    obtain ⟨rfl, rfl, -⟩ := verifyToken_ok (h.consistent _ hmem) hverified
    apply backed_set h hlater rfl
    have hbacked := hkept _ hmem
    rw [hpc] at hbacked
    obtain ⟨hdocumented, call, hcall, huri, hrequest⟩ := hbacked
    obtain ⟨call', hcall', t, hreturned⟩ := returned_of_jwks houtcome
    cases hcall.symm.trans hcall'
    exact ⟨hdocumented, call, List.mem_of_getElem? hcall, huri, t, hrequest, hreturned⟩
  -- the rest of the way nothing is asked of a cache
  | consumed store hi hpc =>
    apply backed_set h hlater rfl
    have hbacked := hkept _ (List.mem_of_getElem? hi)
    rw [hpc] at hbacked
    exact hbacked
  | persisted hi hpc hprocess =>
    apply backed_set h hlater rfl
    have hbacked := hkept _ (List.mem_of_getElem? hi)
    rw [hpc] at hbacked
    exact ⟨hbacked, (processLaunch_ok hprocess).1⟩

theorem Linked.step (h : Linked settings w) (l : FlowStep) :
    Linked settings (w.step settings l) where
  discovery := discovery_moves h.discovery (moves_step l)
  jwks := jwks_moves h.jwks (moves_step l)
  consistent := consistent_step w l h.consistent
  backed := backed_moves h (moves_step l)

theorem Linked.start {now : ℚ} {db : Database} :
    Linked settings (start now db : LaunchFlow σ κ) where
  discovery := DiscoveryCache.Invariant.init
  jwks := JwksCache.Invariant.init now
  consistent := consistent_start
  backed := by
    intro launch hlaunch
    cases hlaunch

/-! ## 4. The sessions

Sessions against launches, and launches against logins. A launch is in the list once for each
callback, also when the same token is replayed, so the count is of launches that have ended in a
session. -/

/-- What the rest of the engine writes has no session that was not there. -/
def KeepsSessions (w : LaunchFlow σ κ) : FlowStep → Prop
  | .database db => ∀ s ∈ db.examSessions, ∃ s' ∈ w.db.examSessions, s'.id = s.id
  | _ => True

/-- A session was there before, or a launch has ended in it. -/
def Accounted (before : Database) (w : LaunchFlow σ κ) : Prop :=
  ∀ s ∈ w.db.examSessions, (∃ s₀ ∈ before.examSessions, s₀.id = s.id) ∨
    ∃ launch ∈ w.launches, ∃ created, launch.pc.examSession? = some created ∧ created.id = s.id

/-- A launch that has ended in a session is over. -/
theorem ended_of_set {i : Nat} {created : ExamSession} (hi : w.launches[i]? = some launch)
    (hpc : launch.pc.examSession? = none) :
    (∃ launch ∈ w.launches, launch.pc.examSession? = some created) →
      ∃ launch' ∈ w.launches.set i { launch with pc }, launch'.pc.examSession? = some created := by
  rintro ⟨ended, hended, hsession⟩
  obtain ⟨j, hj⟩ := List.getElem?_of_mem hended
  have hne : i ≠ j := by
    rintro rfl
    cases hi.symm.trans hj
    exact nomatch hpc.symm.trans hsession
  exact ⟨ended, List.mem_of_getElem? ((List.getElem?_set_ne hne).trans hj), hsession⟩

theorem ended_moves {created : ExamSession} (hmoves : Moves settings w l w') :
    (∃ launch ∈ w.launches, launch.pc.examSession? = some created) →
      ∃ launch ∈ w'.launches, launch.pc.examSession? = some created := by
  cases hmoves with
  | idle | discovery e | jwks e | database db | stored store new => exact id
  | begun hconsistent hpc =>
    rintro ⟨launch, hlaunch, hsession⟩
    exact ⟨launch, List.mem_append_left _ hlaunch, hsession⟩
  | failed store e hi hpc => exact ended_of_set hi hpc
  | peeked store hi hpc | discovered time hi hpc houtcome | verified hi hpc houtcome hverified
  | consumed store hi hpc | persisted hi hpc hprocess =>
    exact ended_of_set hi (by rw [hpc]; rfl)

theorem Accounted.moves {before : Database} (h : Accounted before w)
    (hmoves : Moves settings w l w') (hknown : w.KeepsSessions l) : Accounted before w' := by
  -- what was accounted for stays so
  have hkept : ∀ s ∈ w.db.examSessions, (∃ s₀ ∈ before.examSessions, s₀.id = s.id) ∨
      ∃ launch ∈ w'.launches, ∃ created,
        launch.pc.examSession? = some created ∧ created.id = s.id := by
    intro s hs
    obtain hbefore | ⟨launch, hlaunch, created, hcreated, hid⟩ := h s hs
    · exact .inl hbefore
    · obtain ⟨launch', hlaunch', hcreated'⟩ := ended_moves hmoves ⟨launch, hlaunch, hcreated⟩
      exact .inr ⟨launch', hlaunch', created, hcreated', hid⟩
  cases hmoves with
  | idle | discovery e | jwks e | stored store new | begun hconsistent hpc | failed store e hi hpc
  | peeked store hi hpc | discovered time hi hpc houtcome | verified hi hpc houtcome hverified
  | consumed store hi hpc => exact hkept
  | database db =>
    intro s hs
    obtain ⟨s', hs', hid⟩ := hknown s hs
    rw [← hid]
    exact hkept s' hs'
  | persisted hi hpc hprocess =>
    intro s hs
    have hrows := (processLaunch_ok hprocess).2
    rw [← Table.mem_rows, hrows] at hs
    rcases List.mem_append.mp hs with hs | hs
    · exact hkept s hs
    · rw [List.mem_singleton.mp hs]
      have hlt := (List.getElem?_eq_some_iff.mp hi).1
      exact .inr ⟨_, List.mem_of_getElem? (List.getElem?_set_self hlt), _, rfl, rfl⟩

/-- The state of a launch that has ended in a session. -/
def endedState (launch : Launching κ) : Option String :=
  launch.pc.examSession?.bind fun _ => launch.callback.stateValue

theorem redirected_of_examSession {launch : Launching κ} {created : ExamSession}
    (h : launch.pc.examSession? = some created) : launch.callback.pc = .redirected := by
  show launch.pc.abs = .redirected
  cases hpc : launch.pc with
  | redirected v participant examSession => rfl
  | peeking | discovering n | fetchingKey discovery n | consuming v | persisting v | failed e =>
    rw [hpc] at h
    cases h

/-- It is the state of a login, and no other launch has ended on it. -/
theorem endedState_login (h : w.abs.Bound) {i : Nat} {launch : Launching κ}
    (hi : w.launches[i]? = some launch) {state : String} (hstate : endedState launch = some state) :
    state ∈ w.logins.map (·.state) ∧
      ∀ (j : Nat) (other : Launching κ), j ≠ i → w.launches[j]? = some other →
        endedState other ≠ some state := by
  obtain ⟨created, hcreated, hvalue⟩ := Option.bind_eq_some_iff.mp hstate
  obtain ⟨login, hlogin, hsame, -, -, hothers⟩ :=
    h i launch.callback (callbacks_get hi) (redirected_of_examSession hcreated)
  cases hvalue.symm.trans hsame
  refine ⟨List.mem_map_of_mem hlogin, ?_⟩
  intro j other hne hj hother
  obtain ⟨created', hcreated', hvalue'⟩ := Option.bind_eq_some_iff.mp hother
  exact hothers j other.callback hne (callbacks_get hj) (redirected_of_examSession hcreated')
    hvalue'

/-- Every launch that has ended has one. -/
theorem length_endedStates (h : w.abs.Bound) :
    (w.launches.filterMap endedState).length =
      (w.launches.filterMap (·.pc.examSession?)).length := by
  rw [List.length_filterMap_eq_countP, List.length_filterMap_eq_countP]
  apply List.countP_congr
  intro launch hlaunch
  cases hcreated : launch.pc.examSession? with
  | none => simp [endedState, hcreated]
  | some created =>
    obtain ⟨i, hi⟩ := List.getElem?_of_mem hlaunch
    obtain ⟨login, -, hsame, -⟩ :=
      h i launch.callback (callbacks_get hi) (redirected_of_examSession hcreated)
    simp [endedState, hcreated, hsame]

/-- The launches that have ended in a session have used up as many logins. -/
theorem ended_le_logins (h : w.abs.Bound) :
    (w.launches.filterMap (·.pc.examSession?)).length ≤ w.logins.length := by
  have hnodup : (w.launches.filterMap endedState).Nodup := by
    refine List.pairwise_filterMap.mpr (List.pairwise_iff_getElem.mpr ?_)
    intro i j hi hj hlt state hstate other hother
    rintro rfl
    obtain ⟨-, hothers⟩ := endedState_login h (List.getElem?_eq_getElem hi) hstate
    exact hothers j _ (Nat.ne_of_gt hlt) (List.getElem?_eq_getElem hj) hother
  have hsubset : w.launches.filterMap endedState ⊆ w.logins.map (·.state) := by
    intro state hstate
    obtain ⟨launch, hlaunch, hvalue⟩ := List.mem_filterMap.mp hstate
    obtain ⟨i, hi⟩ := List.getElem?_of_mem hlaunch
    exact (endedState_login h hi hvalue).1
  rw [← length_endedStates h]
  calc (w.launches.filterMap endedState).length
      ≤ (w.logins.map (·.state)).length := (List.subperm_of_subset hnodup hsubset).length_le
    _ = w.logins.length := List.length_map _

theorem sessions_le {before : Database} (h : Accounted before w) (hbound : w.abs.Bound) :
    w.db.examSessions.rows.length ≤ before.examSessions.rows.length + w.logins.length := by
  have hnodup : (w.db.examSessions.rows.map (·.id)).Nodup :=
    List.pairwise_map.mpr w.db.examSessions.distinct
  have hsubset : w.db.examSessions.rows.map (·.id) ⊆ before.examSessions.rows.map (·.id) ++
      (w.launches.filterMap (·.pc.examSession?)).map (·.id) := by
    intro id hid
    obtain ⟨s, hs, rfl⟩ := List.mem_map.mp hid
    obtain ⟨s₀, hs₀, hsame⟩ | ⟨launch, hlaunch, created, hcreated, hsame⟩ := h s hs
    · exact List.mem_append_left _ (List.mem_map.mpr ⟨s₀, hs₀, hsame⟩)
    · exact List.mem_append_right _ (List.mem_map.mpr
        ⟨created, List.mem_filterMap.mpr ⟨launch, hlaunch, hcreated⟩, hsame⟩)
  have hlength := (List.subperm_of_subset hnodup hsubset).length_le
  rw [List.length_append, List.length_map, List.length_map, List.length_map] at hlength
  exact hlength.trans (Nat.add_le_add_left (ended_le_logins hbound) _)

/-! ## 5. Every interleaving

The invariant of the flow, of the caches and of the sessions, over a run from a start with no
launches. -/

/-- Where a session comes from. -/
structure Traced (settings : FlowSettings κ) (w : LaunchFlow σ κ) (id : UUID) (launch : Launching κ)
    (v : Verified κ) (participant : Participant) (created : ExamSession) : Prop where
  ended : launch.pc = .redirected v participant created
  id : created.id = id
  login : ∃ login ∈ w.logins, login.issuer = launch.issuer ∧
    launch.callback.stateValue = some login.state ∧ v.claims.nonce.val = login.nonce
  documented : w.discovery.Documented launch.issuer v.discovery
  key : ∃ call ∈ w.jwks.calls, call.uri = v.discovery.jwksUri ∧ ∃ returnedAt,
    JwksCache.FetchedInTime settings.pyJwk settings.ttl w.jwks call launch.kid v.key returnedAt
  passed : Passed settings launch v
  reads : Reads v.payload v.claims
  issuer : v.claims.issuer.val = launch.issuer
  launchedFor : LaunchedFor v.claims.idToken participant created

theorem traced_of_linked {created : ExamSession} (h : Linked settings w) (hbound : w.abs.Bound)
    (hlaunch : launch ∈ w.launches) (hcreated : launch.pc.examSession? = some created) :
    ∃ v participant, Traced settings w created.id launch v participant created := by
  have hbacked := h.backed launch hlaunch
  have hconsistent := h.consistent launch hlaunch
  obtain ⟨i, hi⟩ := List.getElem?_of_mem hlaunch
  cases hpc : launch.pc with
  | peeking | discovering n | fetchingKey discovery n | consuming v | persisting v | failed e =>
    rw [hpc] at hcreated
    exact nomatch hcreated
  | redirected v participant examSession =>
    rw [hpc] at hcreated hbacked
    cases hcreated
    obtain ⟨⟨hdocumented, call, hcall, huri, t, hreturned⟩, hlaunched⟩ := hbacked
    have hpassed := hconsistent.passed v (by rw [hpc]; rfl)
    have hreads := readClaims_ok hpassed.read
    obtain ⟨login, hlogin, hstate, hissuer, hnonce, -⟩ :=
      hbound i launch.callback (callbacks_get hi) (congrArg FlowPc.abs hpc)
    have hsame : v.claims.issuer.val = launch.issuer := by
      have hclaim := hreads.issuer
      rw [hpassed.payload] at hclaim
      exact Json.str.inj (Option.some.inj (hclaim.symm.trans hconsistent.issuer))
    refine ⟨v, participant, hpc, rfl, ⟨login, hlogin, hissuer, hstate, ?_⟩, hdocumented,
      ⟨call, hcall, huri, t, ?_⟩, hpassed, hreads, hsame, hlaunched⟩
    · exact Option.some.inj (hpassed.nonce.symm.trans hnonce)
    · exact (h.jwks.calls call hcall).returned launch.kid v.key t hreturned

/-- The guards of a run under which its sessions are traced. -/
def Orderly (w : LaunchFlow σ κ) (l : FlowStep) : Prop := w.Fresh l ∧ w.KeepsSessions l

theorem sound_run {now : ℚ} {db : Database} {steps : List FlowStep}
    (horderly : Run.EachStep (step settings) Orderly (start now db : LaunchFlow σ κ) steps) :
    Run.Always (step settings)
      (fun w => (Linked settings w ∧ Accounted db w) ∧ w.abs.Bound)
      (start now db : LaunchFlow σ κ) steps := by
  have haccounted : Accounted db (start now db : LaunchFlow σ κ) :=
    fun s hs => .inl ⟨s, hs, rfl⟩
  have hlinked : Run.Always (step settings) (fun w => Linked settings w ∧ Accounted db w)
      (start now db : LaunchFlow σ κ) steps :=
    Run.always_of_eachStep (fun w l hw hl => ⟨hw.1.step l, hw.2.moves (moves_step l) hl.2⟩)
      ⟨Linked.start, haccounted⟩ horderly
  have hguarded : Run.EachStep (step settings)
      (Simulation.Guarded abs (translate settings) LaunchSystem.Fresh)
      (start now db : LaunchFlow σ κ) steps := horderly.mono fun w l hl => guarded_of_fresh hl.1
  have hcoarse := Simulation.eachStep_coarse simulates consistent_step consistent_start hguarded
  have hbound := Simulation.always_of_coarse simulates consistent_step consistent_start
    (bound_run hcoarse)
  exact hlinked.and hbound

/-- **Every exam session goes back to a platform**: whatever interleaves, a session that was not
    there before was launched for a login of the platform its token names, with a token that
    verified under a key from the key set of the document that names the platform, not older than
    one TTL, and for the user and the resource that token names. -/
theorem every_session_traced (settings : FlowSettings κ) (now : ℚ) (db : Database)
    (steps : List FlowStep)
    (horderly : Run.EachStep (step settings) Orderly (start now db : LaunchFlow σ κ) steps) :
    Run.Always (step settings)
      (fun w => ∀ s ∈ w.db.examSessions, (∃ s₀ ∈ db.examSessions, s₀.id = s.id) ∨
        ∃ launch ∈ w.launches, ∃ v participant created,
          Traced settings w s.id launch v participant created)
      (start now db : LaunchFlow σ κ) steps := by
  refine (sound_run horderly).mono ?_
  rintro w ⟨⟨hlinked, haccounted⟩, hbound⟩ s hs
  obtain hbefore | ⟨launch, hlaunch, created, hcreated, hid⟩ := haccounted s hs
  · exact .inl hbefore
  · obtain ⟨v, participant, htraced⟩ := traced_of_linked hlinked hbound hlaunch hcreated
    rw [hid] at htraced
    exact .inr ⟨launch, hlaunch, v, participant, created, htraced⟩

/-- **There are never more exam sessions than logins**, but for those that were there before,
    however many tokens arrive and however often each. A replayed token finds the registration of
    its state consumed, and a state is registered by one login. -/
theorem sessions_at_most_logins (settings : FlowSettings κ) (now : ℚ) (db : Database)
    (steps : List FlowStep)
    (horderly : Run.EachStep (step settings) Orderly (start now db : LaunchFlow σ κ) steps) :
    Run.Always (step settings)
      (fun w => w.db.examSessions.rows.length ≤
        db.examSessions.rows.length + w.logins.length)
      (start now db : LaunchFlow σ κ) steps :=
  (sound_run horderly).mono fun _ hw => sessions_le hw.1.2 hw.2

end

theorem flowSteps_orderly : Run.EachStep (step knownSettings) Orderly
    (start 0 knownDatabase : LaunchFlow (InMemoryLaunchStateStore 600) Dict) flowSteps := by
  have hknown : Run.EachStep (step knownSettings) KeepsSessions
      (start 0 knownDatabase : LaunchFlow (InMemoryLaunchStateStore 600) Dict) flowSteps :=
    ⟨trivial, trivial, trivial, trivial, trivial, trivial, trivial, trivial, trivial, trivial,
      trivial, trivial, trivial, trivial, trivial, trivial, trivial, trivial, trivial, trivial,
      trivial⟩
  exact flowSteps_fresh.and hknown

theorem flowSteps_traced :
    Run.Always (step knownSettings)
      (fun w => ∀ s ∈ w.db.examSessions, (∃ s₀ ∈ knownDatabase.examSessions, s₀.id = s.id) ∨
        ∃ launch ∈ w.launches, ∃ v participant created,
          Traced knownSettings w s.id launch v participant created)
      (start 0 knownDatabase : LaunchFlow (InMemoryLaunchStateStore 600) Dict) flowSteps :=
  every_session_traced knownSettings 0 knownDatabase flowSteps flowSteps_orderly

theorem flowSteps_at_most_logins :
    Run.Always (step knownSettings)
      (fun w => w.db.examSessions.rows.length ≤
        knownDatabase.examSessions.rows.length + w.logins.length)
      (start 0 knownDatabase : LaunchFlow (InMemoryLaunchStateStore 600) Dict) flowSteps :=
  sessions_at_most_logins knownSettings 0 knownDatabase flowSteps flowSteps_orderly

end LaunchFlow

end ProctorEngine.Lti
