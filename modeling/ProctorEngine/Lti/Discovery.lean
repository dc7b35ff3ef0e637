import ProctorEngine.Lti.Jwks
import ProctorEngine.Lti.Routes

/-!
# The discovery documents

`OidcDiscoveryCache` under any number of calls at once. There is no TTL and nothing is ever dropped:
a call looks into the cache once, before it fetches, and puts its document over whatever is there by
the time it has one. The document has to name the issuer it was fetched for, whatever URL it came
from, so **no platform answers for another**, and an issuer's document can only change while an
earlier fetch for it is still under way.

`urljoin` is a parameter; nothing below depends on the URL a document is fetched from.

The cache keeps, for the record, every document it has stored with the payload it was built from.
What is trusted about a document is a statement about that record (`Documented`): it was stored for
the issuer, it names the issuer, and its fields are those of the payload. The record only grows, so
a launch that waits between the document and the key finds it as it was.

Two calls for one issuer may both fetch, and the later answer wins. That is the one way in which a
document can change, and it is over as soon as no fetch for the issuer is under way, because from
then on every call finds the document before it would ask.
-/

set_option autoImplicit false

namespace ProctorEngine.Lti

/-! ## 1. The documents

What can be wrong with a response, in the order in which the code looks, and what is known of a
document that has passed. -/

structure OidcDiscovery where
  issuer : String
  authorizationEndpoint : String
  jwksUri : String
  tokenEndpoint : Option String
deriving DecidableEq

/-- `OidcDiscoveryError`, by the sentence it carries. -/
inductive DiscoveryError where
  | issuerRequired
  | fetchFailed (url detail : String)
  | httpStatus (url : String) (status : Int)
  | notJson (url : String)
  | notObject (url : String)
  | issuerMissing
  | issuerMismatch (documentIssuer issuer : String)
  | authorizationEndpointMissing
  | jwksUriMissing

/-- `str(exc)`, with `repr` what `!r` writes for a string. -/
def DiscoveryError.message (repr : String → String) : DiscoveryError → String
  | .issuerRequired => "issuer is required"
  | .fetchFailed url detail =>
    "failed to fetch OIDC discovery document at " ++ url ++ ": " ++ detail
  | .httpStatus url status =>
    "OIDC discovery document at " ++ url ++ " returned HTTP " ++ toString status
  | .notJson url => "OIDC discovery document at " ++ url ++ " is not valid JSON"
  | .notObject url => "OIDC discovery document at " ++ url ++ " is not a JSON object"
  | .issuerMissing => "OIDC discovery document is missing the 'issuer' field"
  | .issuerMismatch documentIssuer issuer =>
    "OIDC discovery issuer " ++ repr documentIssuer ++ " does not match the requested issuer " ++
      repr issuer
  | .authorizationEndpointMissing =>
    "OIDC discovery document is missing 'authorization_endpoint'"
  | .jwksUriMissing => "OIDC discovery document is missing 'jwks_uri'"

/-- What a call raises. `other` is an exception the code does not catch. -/
inductive DiscoveryFailure where
  | discoveryError (e : DiscoveryError)
  | other (name : String)

/-- `_build_discovery` The issuer comes first: a document of another one is refused whatever else is
    in it. -/
def buildDiscovery (issuer : String) (payload : Dict) : Except DiscoveryError OidcDiscovery :=
  match text? (Json.get? payload "issuer") with
  | none => .error .issuerMissing
  | some documentIssuer =>
    if documentIssuer ≠ issuer then .error (.issuerMismatch documentIssuer issuer)
    else
      match text? (Json.get? payload "authorization_endpoint"),
        text? (Json.get? payload "jwks_uri") with
      | none, _ => .error .authorizationEndpointMissing
      | some _, none => .error .jwksUriMissing
      | some authz, some jwksUri =>
        .ok ⟨documentIssuer, authz, jwksUri, text? (Json.get? payload "token_endpoint")⟩

/-- `oidc_discovery_url` of the settings, and `urllib.parse.urljoin`. -/
structure DiscoverySettings where
  overrideUrl : Option String
  urljoin : String → String → String

/-- `_default_discovery_url` -/
def defaultDiscoveryUrl (urljoin : String → String → String) (issuer : String) : String :=
  urljoin (if issuer.endsWith "/" then issuer else issuer ++ "/") ".well-known/openid-configuration"

/-- `override_url or _default_discovery_url(issuer)`: an empty override is none. -/
def DiscoverySettings.url (settings : DiscoverySettings) (issuer : String) : String :=
  (settings.overrideUrl.filter (· ≠ "")).getD (defaultDiscoveryUrl settings.urljoin issuer)

/-- `_fetch_document` from the response on, with the payload the document was built from. Nothing
    but an object under status 200 is looked at. -/
def readDocument (url issuer : String) :
    HttpAnswer → Except DiscoveryFailure (Dict × OidcDiscovery)
  | .httpError detail => .error (.discoveryError (.fetchFailed url detail))
  | .raised name => .error (.other name)
  | .response statusCode body =>
    if statusCode ≠ 200 then .error (.discoveryError (.httpStatus url statusCode))
    else
      match body with
      | none => .error (.discoveryError (.notJson url))
      | some (.obj payload) =>
        match buildDiscovery issuer payload with
        | .error e => .error (.discoveryError e)
        | .ok discovery => .ok (payload, discovery)
      | some _ => .error (.discoveryError (.notObject url))

/-- The document as it is published: it names its issuer, and has both endpoints. -/
structure Publishes (payload : Dict) (discovery : OidcDiscovery) : Prop where
  issuer : Json.get? payload "issuer" = some (.str discovery.issuer)
  authorizationEndpoint :
    Json.get? payload "authorization_endpoint" = some (.str discovery.authorizationEndpoint)
  jwksUri : Json.get? payload "jwks_uri" = some (.str discovery.jwksUri)
  tokenEndpoint : ∀ endpoint ∈ discovery.tokenEndpoint,
    Json.get? payload "token_endpoint" = some (.str endpoint)
  nonempty : discovery.issuer ≠ "" ∧ discovery.authorizationEndpoint ≠ "" ∧ discovery.jwksUri ≠ ""

theorem text?_eq_some {j : Option Json} {s : String} (h : text? j = some s) :
    j = some (.str s) ∧ s ≠ "" := by
  have hne : s ≠ "" := fun hs => text?_ne_empty (hs ▸ h)
  unfold text? at h
  split at h
  case h_1 =>
    split at h
    case isTrue => exact nomatch h
    case isFalse => exact ⟨by rw [Option.some.inj h], hne⟩
  case h_2 => exact nomatch h

section
variable {issuer url : String} {payload : Dict} {discovery : OidcDiscovery}

theorem buildDiscovery_ok (h : buildDiscovery issuer payload = .ok discovery) :
    discovery.issuer = issuer ∧ Publishes payload discovery := by
  unfold buildDiscovery at h
  split at h
  case h_1 => exact nomatch h
  case h_2 documentIssuer hissuer =>
    split at h
    case isTrue => exact nomatch h
    case isFalse hsame =>
      split at h
      case h_1 => exact nomatch h
      case h_2 => exact nomatch h
      case h_3 authz jwksUri hauthz hjwks =>
        cases h
        refine ⟨not_not.mp hsame, (text?_eq_some hissuer).1, (text?_eq_some hauthz).1,
          (text?_eq_some hjwks).1, ?_, (text?_eq_some hissuer).2, (text?_eq_some hauthz).2,
          (text?_eq_some hjwks).2⟩
        intro endpoint hendpoint
        exact (text?_eq_some hendpoint).1

/-- What is read from an answer is in its document, whatever the URL. -/
theorem readDocument_ok {answer : HttpAnswer}
    (h : readDocument url issuer answer = .ok (payload, discovery)) :
    answer = .response 200 (some (.obj payload)) ∧ discovery.issuer = issuer ∧
      Publishes payload discovery := by
  cases answer with
  | httpError detail => exact nomatch h
  | raised name => exact nomatch h
  | response statusCode body =>
    simp only [readDocument] at h
    split at h
    case isTrue => exact nomatch h
    case isFalse hstatus =>
      split at h
      case h_1 => exact nomatch h
      case h_3 => exact nomatch h
      case h_2 payload' =>
        split at h
        case h_1 => exact nomatch h
        case h_2 discovery' hbuild =>
          cases h
          exact ⟨by rw [not_not.mp hstatus], buildDiscovery_ok hbuild⟩

end

/-! ## 2. The calls

A call begins with a look into the cache, and goes on when its answer comes. There may be any number
of calls in between. -/

inductive DiscoveryPhase where
  | fetching
  | returned (discovery : OidcDiscovery)
  | raised (e : DiscoveryFailure)

/-- A call of `fetch`. `asked` says that it has gone to the network. -/
structure DiscoveryCall where
  issuer : String
  asked : Bool
  phase : DiscoveryPhase

/-- A document that was stored, with what it was built from and the issuer it was fetched for. -/
structure ServedDocument where
  issuer : String
  payload : Dict
  discovery : OidcDiscovery

/-- One `OidcDiscoveryCache`, its calls in the order of their beginning and, for the record, the
    documents it has stored. -/
structure DiscoveryCache where
  cache : String → Option OidcDiscovery
  calls : List DiscoveryCall
  served : List ServedDocument

inductive DiscoveryEvent where
  | fetch (issuer : String)
  | answer (call : Nat) (result : HttpAnswer)

namespace DiscoveryCache

def init : DiscoveryCache := ⟨fun _ => none, [], []⟩

/-- `fetch` up to the request. -/
def beginCall (s : DiscoveryCache) (issuer : String) : DiscoveryCall :=
  if issuer = "" then ⟨issuer, false, .raised (.discoveryError .issuerRequired)⟩
  else
    match s.cache issuer with
    | some cached => ⟨issuer, false, .returned cached⟩
    | none => ⟨issuer, true, .fetching⟩

def begin (s : DiscoveryCache) (issuer : String) : DiscoveryCache :=
  { s with calls := s.calls ++ [s.beginCall issuer] }

def setPhase (s : DiscoveryCache) (n : Nat) (call : DiscoveryCall) (phase : DiscoveryPhase) :
    DiscoveryCache :=
  { s with calls := s.calls.set n { call with phase } }

/-- The document is put into the cache. -/
def store (s : DiscoveryCache) (issuer : String) (payload : Dict) (discovery : OidcDiscovery) :
    DiscoveryCache :=
  { s with
    cache := Function.update s.cache issuer (some discovery)
    served := ⟨issuer, payload, discovery⟩ :: s.served }

/-- `fetch` from the answer on. -/
def finish (settings : DiscoverySettings) (s : DiscoveryCache) (n : Nat) (call : DiscoveryCall)
    (answer : HttpAnswer) : DiscoveryCache :=
  match readDocument (settings.url call.issuer) call.issuer answer with
  | .error e => s.setPhase n call (.raised e)
  | .ok (payload, discovery) =>
    (s.store call.issuer payload discovery).setPhase n call (.returned discovery)

/-- An answer to a call that is not waiting for one is none. -/
def step (settings : DiscoverySettings) (s : DiscoveryCache) : DiscoveryEvent → DiscoveryCache
  | .fetch issuer => s.begin issuer
  | .answer n result =>
    match s.calls[n]? with
    | some call =>
      match call.phase with
      | .fetching => s.finish settings n call result
      | _ => s
    | none => s

/-! ## 3. What an event does

Four kinds of step; every invariant below has these four cases. -/

section
variable {settings : DiscoverySettings} {s s' : DiscoveryCache} {issuer : String}
  {discovery : OidcDiscovery} {call : DiscoveryCall} {n : Nat}

/-- The states one event can lead to. -/
inductive Moves (s : DiscoveryCache) : DiscoveryCache → Prop
  | idle : Moves s s
  | began (issuer : String) : Moves s (s.begin issuer)
  | failed {n : Nat} {call : DiscoveryCall} (e : DiscoveryFailure)
      (hcall : s.calls[n]? = some call) (hphase : call.phase = .fetching) :
      Moves s (s.setPhase n call (.raised e))
  | stored {n : Nat} {call : DiscoveryCall} {payload : Dict} {discovery : OidcDiscovery}
      (hcall : s.calls[n]? = some call) (hphase : call.phase = .fetching)
      (hissuer : discovery.issuer = call.issuer) (hpublishes : Publishes payload discovery) :
      Moves s ((s.store call.issuer payload discovery).setPhase n call (.returned discovery))

theorem moves_step (e : DiscoveryEvent) : Moves s (s.step settings e) := by
  cases e with
  | fetch issuer => exact .began issuer
  | answer n result =>
    simp only [step]
    split
    case h_2 => exact .idle
    case h_1 call hcall =>
      split
      case h_2 => exact .idle
      case h_1 hphase =>
        unfold finish
        split
        case h_1 e hread => exact .failed e hcall hphase
        case h_2 payload discovery hread =>
          obtain ⟨-, hissuer, hpublishes⟩ := readDocument_ok hread
          exact .stored hcall hphase hissuer hpublishes

/-! ## 4. The invariant

Whatever is in the cache, and whatever a call has returned, is on record. -/

/-- The document was stored for the issuer, which it names. -/
def Documented (s : DiscoveryCache) (issuer : String) (discovery : OidcDiscovery) : Prop :=
  ∃ r ∈ s.served, r.issuer = issuer ∧ r.discovery = discovery ∧ discovery.issuer = issuer ∧
    Publishes r.payload discovery

structure Invariant (s : DiscoveryCache) : Prop where
  entries : ∀ issuer discovery, s.cache issuer = some discovery → s.Documented issuer discovery
  returned : ∀ call ∈ s.calls, ∀ discovery, call.phase = .returned discovery →
    s.Documented call.issuer discovery
  /-- Whose document has been returned has one in the cache. -/
  cached : ∀ call ∈ s.calls, ∀ discovery, call.phase = .returned discovery →
    (s.cache call.issuer).isSome

theorem Documented.of_subset (h : s.Documented issuer discovery) (hserved : s.served ⊆ s'.served) :
    s'.Documented issuer discovery := by
  obtain ⟨r, hr, hrest⟩ := h
  exact ⟨r, hserved hr, hrest⟩

theorem mem_calls_set {other : DiscoveryCall} (h : other ∈ s.calls.set n call) :
    other ∈ s.calls ∨ other = call :=
  List.mem_or_eq_of_mem_set h

namespace Invariant

theorem init : Invariant init where
  entries := by
    intro issuer discovery h
    cases h
  returned := by
    intro call hcall
    cases hcall
  cached := by
    intro call hcall
    cases hcall

/-- What a call begins with is in the cache already. -/
theorem begin (h : Invariant s) (issuer : String) : Invariant (s.begin issuer) := by
  -- a call that returns at once has found its document in the cache
  have hnew : ∀ discovery, (s.beginCall issuer).phase = .returned discovery →
      (s.beginCall issuer).issuer = issuer ∧ s.cache issuer = some discovery := by
    intro discovery hphase
    unfold beginCall at hphase ⊢
    split at hphase
    case isTrue => exact nomatch hphase
    case isFalse hne =>
      rw [if_neg hne]
      split at hphase
      case h_1 cached hcached =>
        cases hphase
        rw [hcached]
        exact ⟨rfl, rfl⟩
      case h_2 => exact nomatch hphase
  constructor
  case entries => exact h.entries
  case returned =>
    intro call hcall discovery hphase
    rcases List.mem_append.mp hcall with hcall | hcall
    · exact h.returned call hcall discovery hphase
    · rw [List.mem_singleton.mp hcall] at hphase ⊢
      obtain ⟨hissuer, hcached⟩ := hnew discovery hphase
      rw [hissuer]
      exact h.entries issuer discovery hcached
  case cached =>
    intro call hcall discovery hphase
    rcases List.mem_append.mp hcall with hcall | hcall
    · exact h.cached call hcall discovery hphase
    · rw [List.mem_singleton.mp hcall] at hphase ⊢
      obtain ⟨hissuer, hcached⟩ := hnew discovery hphase
      rw [hissuer]
      exact Option.isSome_of_eq_some hcached

/-- A call that raises has nothing to say. -/
theorem failed (h : Invariant s) (e : DiscoveryFailure) :
    Invariant (s.setPhase n call (.raised e)) := by
  have hold : ∀ other ∈ (s.setPhase n call (.raised e)).calls, ∀ discovery,
      other.phase = .returned discovery → other ∈ s.calls := by
    intro other hother discovery hphase
    rcases mem_calls_set hother with hother | rfl
    · exact hother
    · exact nomatch hphase
  constructor
  case entries => exact h.entries
  case returned =>
    intro other hother discovery hphase
    exact h.returned other (hold other hother discovery hphase) discovery hphase
  case cached =>
    intro other hother discovery hphase
    exact h.cached other (hold other hother discovery hphase) discovery hphase

theorem stored (h : Invariant s) {payload : Dict} (hissuer : discovery.issuer = call.issuer)
    (hpublishes : Publishes payload discovery) :
    Invariant ((s.store call.issuer payload discovery).setPhase n call (.returned discovery)) := by
  have hserved : s.served ⊆ ⟨call.issuer, payload, discovery⟩ :: s.served :=
    List.subset_cons_self _ _
  have hnew : ((s.store call.issuer payload discovery).setPhase n call
      (.returned discovery)).Documented call.issuer discovery :=
    ⟨_, List.mem_cons_self, rfl, rfl, hissuer, hpublishes⟩
  constructor
  case entries =>
    intro issuer' discovery' hcache
    by_cases hsame : issuer' = call.issuer
    · subst hsame
      simp only [setPhase, store, Function.update_self] at hcache
      cases hcache
      exact hnew
    · simp only [setPhase, store, Function.update_of_ne hsame] at hcache
      exact (h.entries issuer' discovery' hcache).of_subset hserved
  case returned =>
    intro other hother discovery' hphase
    rcases mem_calls_set hother with hother | rfl
    · exact (h.returned other hother discovery' hphase).of_subset hserved
    · cases hphase
      exact hnew
  -- a call of the same issuer finds this entry, any other keeps its own
  case cached =>
    intro other hother discovery' hphase
    by_cases hsame : other.issuer = call.issuer
    · simp [setPhase, store, hsame]
    · simp only [setPhase, store, Function.update_of_ne hsame]
      rcases mem_calls_set hother with hother | rfl
      · exact h.cached other hother discovery' hphase
      · exact absurd rfl hsame

theorem moves (h : Invariant s) (hmoves : Moves s s') : Invariant s' := by
  cases hmoves with
  | idle => exact h
  | began issuer => exact h.begin issuer
  | failed e => exact h.failed e
  | stored hcall hphase hissuer hpublishes => exact h.stored hissuer hpublishes

theorem step (h : Invariant s) (e : DiscoveryEvent) : Invariant (s.step settings e) :=
  h.moves (moves_step e)

end Invariant

/-! ## 5. Once the fetches are over

An issuer whose document is there and whose fetches are over: nothing can overwrite the document,
since only a fetch for the issuer would. -/

/-- The issuer's document is in the cache, and no fetch for it is under way. -/
def Settled (issuer : String) (discovery : OidcDiscovery) (s : DiscoveryCache) : Prop :=
  s.cache issuer = some discovery ∧
    ∀ call ∈ s.calls, call.issuer = issuer → call.phase ≠ .fetching

/-- The calls for the issuer from the `first`-th on are answered with the document, without a
    fetch. -/
def AnswersWith (issuer : String) (discovery : OidcDiscovery) (first : Nat)
    (s : DiscoveryCache) : Prop :=
  ∀ n call, first ≤ n → s.calls[n]? = some call → call.issuer = issuer → issuer ≠ "" →
    call.asked = false ∧ call.phase = .returned discovery

theorem Settled.begin (h : Settled issuer discovery s) (issuer' : String) :
    Settled issuer discovery (s.begin issuer') := by
  refine ⟨h.1, ?_⟩
  intro call hcall hissuer
  rcases List.mem_append.mp hcall with hcall | hcall
  · exact h.2 call hcall hissuer
  · rw [List.mem_singleton.mp hcall] at hissuer ⊢
    unfold beginCall at hissuer ⊢
    split
    case isTrue => exact fun hphase => nomatch hphase
    case isFalse hne =>
      rw [if_neg hne] at hissuer
      split
      case h_1 => exact fun hphase => nomatch hphase
      case h_2 hnone =>
        rw [hnone] at hissuer
        have hsame : issuer' = issuer := hissuer
        rw [hsame, h.1] at hnone
        exact nomatch hnone

/-- What stays of a settled issuer: every call from the `first` on is answered with its
    document. -/
structure Kept (issuer : String) (discovery : OidcDiscovery) (first : Nat) (s : DiscoveryCache) :
    Prop where
  settled : Settled issuer discovery s
  answers : AnswersWith issuer discovery first s
  begun : first ≤ s.calls.length

theorem Kept.moves {first : Nat} (hkept : Kept issuer discovery first s) (hmoves : Moves s s') :
    Kept issuer discovery first s' := by
  obtain ⟨h, hanswers, hfirst⟩ := hkept
  -- whoever goes on with an answer was fetching, and asks for another issuer
  have hother : ∀ {n : Nat} {call : DiscoveryCall}, s.calls[n]? = some call →
      call.phase = .fetching → call.issuer ≠ issuer :=
    fun hcall hphase hissuer => h.2 _ (List.mem_of_getElem? hcall) hissuer hphase
  cases hmoves with
  | idle => exact ⟨h, hanswers, hfirst⟩
  -- a new call: for the issuer, it finds the document; for another, it is none of its business
  | began issuer' =>
    refine ⟨h.begin issuer', ?_, ?_⟩
    · intro n call hn hcall hissuer hne
      rcases getElem?_append_cases hcall with hcall | ⟨-, rfl⟩
      · exact hanswers n call hn hcall hissuer hne
      · have hsame : issuer' = issuer := by
          unfold beginCall at hissuer
          split at hissuer
          case isTrue => exact hissuer
          case isFalse =>
            split at hissuer
            case h_1 => exact hissuer
            case h_2 => exact hissuer
        subst hsame
        unfold beginCall
        rw [if_neg hne, h.1]
        exact ⟨rfl, rfl⟩
    · exact hfirst.trans (by simp [DiscoveryCache.begin])
  | failed e hcall hphase =>
    have hissuer := hother hcall hphase
    refine ⟨⟨h.1, ?_⟩, ?_, by simpa [setPhase] using hfirst⟩
    · intro other hmem hsame
      rcases mem_calls_set hmem with hmem | rfl
      · exact h.2 other hmem hsame
      · exact absurd hsame hissuer
    · intro m other hm hget hsame hne
      rcases getElem?_set_cases hget with ⟨-, rfl⟩ | ⟨-, hget⟩
      · exact absurd hsame hissuer
      · exact hanswers m other hm hget hsame hne
  -- a document for another issuer
  | stored hcall hphase hsame' hpublishes =>
    have hissuer := hother hcall hphase
    refine ⟨⟨?_, ?_⟩, ?_, by simpa [setPhase, store] using hfirst⟩
    · simp only [setPhase, store, Function.update_of_ne (Ne.symm hissuer)]
      exact h.1
    · intro other hmem hsame
      rcases mem_calls_set hmem with hmem | rfl
      · exact h.2 other hmem hsame
      · exact absurd hsame hissuer
    · intro m other hm hget hsame hne
      rcases getElem?_set_cases hget with ⟨-, rfl⟩ | ⟨-, hget⟩
      · exact absurd hsame hissuer
      · exact hanswers m other hm hget hsame hne

theorem Settled.always {events : List DiscoveryEvent} (h : Settled issuer discovery s) :
    Run.Always (step settings)
      (fun s' => Settled issuer discovery s' ∧ AnswersWith issuer discovery s.calls.length s') s
      events := by
  have hstart : Kept issuer discovery s.calls.length s := by
    refine ⟨h, ?_, le_rfl⟩
    intro n call hn hcall
    exact absurd (List.getElem?_eq_some_iff.mp hcall).1 (Nat.not_lt.mpr hn)
  exact (Run.always_of_step (fun s' e hkept => hkept.moves (moves_step e)) hstart).mono
    fun s' hkept => ⟨hkept.settled, hkept.answers⟩

/-- What holds of the documents the calls have returned. -/
structure Trusted (settings : DiscoverySettings) (s : DiscoveryCache) : Prop where
  returned : ∀ call ∈ s.calls, ∀ discovery, call.phase = .returned discovery →
    s.Documented call.issuer discovery
  once : ∀ call ∈ s.calls, ∀ discovery, call.phase = .returned discovery →
    (s.beginCall call.issuer).asked = false
  settled : ∀ issuer discovery, Settled issuer discovery s → ∀ later,
    Run.Always (step settings)
      (fun s' => Settled issuer discovery s' ∧ AnswersWith issuer discovery s.calls.length s') s
      later

theorem Invariant.trusted (h : Invariant s) : Trusted settings s where
  returned := h.returned
  once := by
    intro call hcall discovery hphase
    obtain ⟨cached, hcached⟩ := Option.isSome_iff_exists.mp (h.cached call hcall discovery hphase)
    unfold beginCall
    split
    case isTrue => rfl
    case isFalse => rw [hcached]
  settled := fun _ _ hsettled _ => hsettled.always

/-- **No platform answers for another**, however the fetches interleave: a document that is
    returned names the issuer that was asked for, and the cache has asked nobody twice whose
    document it has returned. Once no fetch for an issuer is under way its document is fixed. -/
theorem documents_trusted (settings : DiscoverySettings) (events : List DiscoveryEvent) :
    Run.Always (step settings) (Trusted settings) init events := by
  have hinv : Run.Always (step settings) Invariant init events :=
    Run.always_of_step (fun s e h => h.step e) Invariant.init
  exact hinv.mono fun s h => h.trusted

end

end DiscoveryCache

end ProctorEngine.Lti
