import ProctorEngine.Lib.Simulation
import ProctorEngine.Lti.Claims
import ProctorEngine.Lti.Discovery
import ProctorEngine.Lti.Roles

/-!
# A launch from end to end

The launch flow with everything it rests on: the discovery cache, the cache of key sets, the
library that verifies a token, the claim model, the role table and the transaction. A callback
waits in them for other callbacks' fetches, and between any two of its pieces anything can happen
anywhere.

`lti_launch` is cut into the pieces between its awaits, and a callback is a record of the variables
that live across them. `FlowPc` says which piece comes next:

* `peeking` — the token is parsed, its state has not been looked up;
* `discovering`, `fetchingKey` — a call of a cache is under way, which may be another callback's;
* `consuming` — the token is verified, the registration is not used up yet;
* `persisting` — the registration is used up, nothing is written yet;
* `redirected`, `failed` — the two ends.

The scheduler is the list of steps: it picks the next piece of any callback, an answer of the
network, a login, a sweep of the store or time going by, and a piece whose turn it is not does
nothing.

**To the store of launch states all of this is one step**, the verification of `Routes`: seen
through `abs`, a run of the whole flow is a run of the launch system there. What `Routes` proves of
the system, that a redirect has consumed a registration of the token's platform, is then true of the
flow without a second proof. The invariant that carries the simulation is `Consistent`: the verified
claims of a callback are the ones its token showed before it was verified.
-/

set_option autoImplicit false

namespace ProctorEngine
namespace Lti

/-! ## 1. Tokens

What a token is to `lti_launch`, and the steps of the callback that look at nothing but the token.
PyJWK, PyJWT and pydantic are parameters; of PyJWT one law is used, that verification decodes the
payload that decoding without it gives. -/

/-- The exceptions of `jwt.decode`, as `lti_launch` tells them apart. -/
inductive JwtDecodeError where
  | expiredSignature
  | invalidAudience (detail : String)
  | invalidIssuer (detail : String)
  | invalidToken (detail : String)

/-- PyJWT, as far as a launch uses it. The payload of a verified token is the one that decodes
    without verification. -/
structure IdTokenLibrary (κ : Type) where
  getUnverifiedHeader : String → Option Dict
  decodeUnverified : String → Option Dict
  /-- At a time, with a key and its algorithm, an audience and an issuer. -/
  decode : DateTime → String → κ → String → String → Except JwtDecodeError Dict
  decodeUnverified_of_decode : ∀ now idToken key audience issuer payload,
    decode now idToken key audience issuer = .ok payload → decodeUnverified idToken = some payload

/-- The settings of the launch, and what it is given from outside. -/
structure FlowSettings (κ : Type) where
  lti : LtiSettings
  discovery : DiscoverySettings
  audienceOverride : Option String
  library : IdTokenLibrary κ
  pydantic : Pydantic
  pyJwk : Dict → PyJwkResult κ
  ttl : JwksTtl

/-- `audience_override or tool_client_id` -/
def FlowSettings.expectedAud {κ : Type} (settings : FlowSettings κ) : String :=
  (settings.audienceOverride.filter (· ≠ "")).getD settings.lti.toolClientId

/-- What steps 3 to 6 have found out about a token. -/
structure Verified (κ : Type) where
  discovery : OidcDiscovery
  key : κ
  payload : Dict
  claims : LtiIdTokenClaims
  role : AppRole

inductive FlowPc (κ : Type) where
  | peeking
  | discovering (call : Nat)
  | fetchingKey (discovery : OidcDiscovery) (call : Nat)
  | consuming (verified : Verified κ)
  | persisting (verified : Verified κ)
  | redirected (verified : Verified κ) (participant : Participant) (examSession : ExamSession)
  | failed (e : LaunchError)

/-- A callback, with the variables of `lti_launch` it goes on using. -/
structure Launching (κ : Type) where
  idToken : String
  kid : String
  unverified : Dict
  issuer : String
  pc : FlowPc κ

section
variable {κ : Type}

/-- Steps 1 and 2. Header and payload are read without a check of the signature, for the key to look
    up and the platform to ask. A launch that fails here is not in the list. -/
def beginLaunch (library : IdTokenLibrary κ) (idToken : String) :
    Except LaunchError (Launching κ) :=
  match library.getUnverifiedHeader idToken with
  | none => .error .claimsInvalid
  | some header =>
    match text? (Json.get? header "kid"), library.decodeUnverified idToken with
    | none, _ | _, none => .error .claimsInvalid
    | some kid, some unverified =>
      match text? (Json.get? unverified "iss") with
      | none => .error .claimsInvalid
      | some issuer => .ok ⟨idToken, kid, unverified, issuer, .peeking⟩

/-- The code an exception of `jwt.decode` is answered with. -/
def JwtDecodeError.launchError : JwtDecodeError → LaunchError
  | .expiredSignature => .claimsInvalid
  | .invalidAudience _ => .audienceInvalid
  | .invalidIssuer _ => .issuerInvalid
  | .invalidToken _ => .signatureInvalid

/-- Steps 4 to 6. Signature, audience, issuer and times by the library, then the claims, then the
    roles. -/
def verifyToken (settings : FlowSettings κ) (now : DateTime) (launch : Launching κ)
    (discovery : OidcDiscovery) (key : κ) : Except LaunchError (Verified κ) :=
  match settings.library.decode now launch.idToken key settings.expectedAud launch.issuer with
  | .error e => .error e.launchError
  | .ok payload =>
    match readClaims settings.pydantic payload with
    | .error _ => .error .claimsInvalid
    | .ok claims =>
      match mapRoles claims.roles with
      | .error (.missing _) => .error .serverError
      | .error _ => .error .claimsInvalid
      | .ok role => .ok ⟨discovery, key, payload, claims, role⟩

/-- What the launch is told of its discovery: nothing yet, an error, or a document. -/
def DiscoveryPhase.outcome : DiscoveryPhase → Option (Except LaunchError OidcDiscovery)
  | .fetching => none
  | .returned discovery => some (.ok discovery)
  | .raised (.discoveryError _) => some (.error .discoveryError)
  | .raised (.other _) => some (.error .serverError)

/-- The same of its key. -/
def JwksPhase.outcome : JwksPhase κ → Option (Except LaunchError κ)
  | .returned key _ => some (.ok key)
  | .raised (.jwksError _) => some (.error .signatureInvalid)
  | .raised .assertionError | .raised (.other _) => some (.error .serverError)
  | .fetching _ | .answered .. | .relooking _ | .refreshed _ => none

/-- The code a failure of `process_launch` is answered with. Only `LtiLaunchError` is mapped. -/
def LaunchFailure.launchError : LaunchFailure → LaunchError
  | .policyNotFound => .policyNotFound
  | .policyNameRequired | .integrity => .serverError

end

/-! ## 2. The flow

The state of the whole flow, and one step of it. Each piece is a function of its own, with the
number of the step of `lti_launch` it stands for, and `step` only finds out whose turn it is. -/

structure LaunchFlow (σ κ : Type) where
  store : σ
  discovery : DiscoveryCache
  jwks : JwksCache κ
  db : Database
  logins : List Login
  launches : List (Launching κ)

/-- `discovery` and `jwks` are what happens in the caches besides: the network's answers, and the
    calls of logins and administrators. `database` is what the rest of the engine writes. -/
inductive FlowStep where
  | discovery (e : DiscoveryEvent)
  | jwks (e : ℚ × JwksEvent)
  | database (db : Database)
  | login (request : LoginRequest) (call : Nat) (state nonce : String) (now : ℚ)
  | launch (idToken : String)
  | peek (i : Nat)
  | discovered (i : Nat) (time : ℚ)
  | verify (i : Nat) (now : DateTime)
  | consume (i : Nat) (now : ℚ)
  | persist (i : Nat) (ids : LaunchIds) (consentAt : DateTime)
  | purgeExpired
  | elapse (dt : ℚ≥0)

namespace LaunchFlow

variable {σ κ : Type} {ttl : Nat} [LaunchStateStore σ ttl]

def start (now : ℚ) (db : Database) : LaunchFlow σ κ :=
  ⟨LaunchStateStore.empty, .init, .init now, db, [], []⟩

def setPc (w : LaunchFlow σ κ) (i : Nat) (launch : Launching κ) (pc : FlowPc κ) :
    LaunchFlow σ κ :=
  { w with launches := w.launches.set i { launch with pc } }

/-- What discovery says to a login that has made the call. -/
def loginEndpoint (w : LaunchFlow σ κ) (request : LoginRequest) (call : Nat) :
    Option (Option String) :=
  match w.discovery.calls[call]? with
  | none => none
  | some discoveryCall =>
    if discoveryCall.issuer = request.iss then
      discoveryCall.phase.outcome.map fun outcome =>
        outcome.toOption.map (·.authorizationEndpoint)
    else none

/-- Step 2a, and the beginning of step 3. The state names the issuer it was registered for; a token
    of another one goes no further. A state that is not known is left to the consumption. -/
def peek (w : LaunchFlow σ κ) (i : Nat) (launch : Launching κ) : LaunchFlow σ κ :=
  match text? (Json.get? launch.unverified "state") with
  | none =>
    { w.setPc i launch (.discovering w.discovery.calls.length) with
      discovery := w.discovery.begin launch.issuer }
  | some state =>
    let (store, registeredIssuer) := LaunchStateStore.peek w.store state
    if registeredIssuer.all (· = launch.issuer) then
      { w.setPc i launch (.discovering w.discovery.calls.length) with
        store
        discovery := w.discovery.begin launch.issuer }
    else { w.setPc i launch (.failed .issuerInvalid) with store }

/-- The document is there: `get_key` is called. -/
def askForKey (w : LaunchFlow σ κ) (i : Nat) (launch : Launching κ) (time : ℚ)
    (discovery : OidcDiscovery) : LaunchFlow σ κ :=
  { w.setPc i launch (.fetchingKey discovery w.jwks.calls.length) with
    jwks := (w.jwks.tick time).getKey discovery.jwksUri launch.kid }

/-- Step 3, once the call of the discovery cache is over. -/
def discovered (w : LaunchFlow σ κ) (i : Nat) (launch : Launching κ) (call : Nat) (time : ℚ) :
    LaunchFlow σ κ :=
  match w.discovery.calls[call]?.bind (·.phase.outcome) with
  | none => w
  | some (.error e) => w.setPc i launch (.failed e)
  | some (.ok discovery) => w.askForKey i launch time discovery

/-- What steps 3 to 6 come to, once the key is there. -/
def verification (settings : FlowSettings κ) (w : LaunchFlow σ κ) (launch : Launching κ)
    (discovery : OidcDiscovery) (call : Nat) (now : DateTime) :
    Option (Except LaunchError (Verified κ)) :=
  (w.jwks.calls[call]?.bind (·.phase.outcome)).map fun
    | .error e => .error e
    | .ok key => verifyToken settings now launch discovery key

def verify (settings : FlowSettings κ) (w : LaunchFlow σ κ) (i : Nat) (launch : Launching κ)
    (discovery : OidcDiscovery) (call : Nat) (now : DateTime) : LaunchFlow σ κ :=
  match w.verification settings launch discovery call now with
  | none => w
  | some (.error e) => w.setPc i launch (.failed e)
  | some (.ok verified) => w.setPc i launch (.consuming verified)

/-- Step 7 The entry is taken under the nonce of the verified claims, and the five answers of the
    store are five ends of the launch. -/
def consume (w : LaunchFlow σ κ) (i : Nat) (launch : Launching κ) (verified : Verified κ)
    (now : ℚ) : LaunchFlow σ κ :=
  match text? (Json.get? launch.unverified "state") with
  | none => w.setPc i launch (.failed .claimsInvalid)
  | some state =>
    let (store, result) := LaunchStateStore.consume w.store now state verified.claims.nonce
    match result with
    | .ok _ => { w.setPc i launch (.persisting verified) with store }
    | .error .missing => { w.setPc i launch (.failed .stateUnknown) with store }
    | .error .expired => { w.setPc i launch (.failed .stateExpired) with store }
    | .error .nonceMismatch => { w.setPc i launch (.failed .nonceMismatch) with store }
    | .error .notAscii => { w.setPc i launch (.failed .serverError) with store }

/-- Step 8 -/
def persist (w : LaunchFlow σ κ) (i : Nat) (launch : Launching κ) (verified : Verified κ)
    (ids : LaunchIds) (consentAt : DateTime) : LaunchFlow σ κ :=
  match processLaunch w.db verified.claims.idToken verified.role ids consentAt with
  | .error e => w.setPc i launch (.failed e.launchError)
  | .ok result =>
    { w.setPc i launch (.redirected verified result.participant result.examSession) with
      db := result.db }

/-- A piece of a launch that is not its next one is none. -/
def step (settings : FlowSettings κ) (w : LaunchFlow σ κ) : FlowStep → LaunchFlow σ κ
  | .discovery e => { w with discovery := w.discovery.step settings.discovery e }
  | .jwks e => { w with jwks := w.jwks.step settings.pyJwk settings.ttl e }
  | .database db => { w with db }
  | .login request call state nonce now =>
    match w.loginEndpoint request call with
    | none => w
    | some endpoint =>
      match ltiLogin settings.lti request endpoint state nonce with
      | .error _ => w
      | .ok (r, _) =>
        if r.Valid then
          { w with
            store := LaunchStateStore.register w.store now r
            logins := w.logins ++ [⟨r.ltiIssuer, r.state, r.nonce⟩] }
        else w
  | .launch idToken =>
    match beginLaunch settings.library idToken with
    | .error _ => w
    | .ok launch => { w with launches := w.launches ++ [launch] }
  | .peek i =>
    match w.launches[i]? with
    | some launch =>
      match launch.pc with
      | .peeking => w.peek i launch
      | _ => w
    | none => w
  | .discovered i time =>
    match w.launches[i]? with
    | some launch =>
      match launch.pc with
      | .discovering call => w.discovered i launch call time
      | _ => w
    | none => w
  | .verify i now =>
    match w.launches[i]? with
    | some launch =>
      match launch.pc with
      | .fetchingKey discovery call => w.verify settings i launch discovery call now
      | _ => w
    | none => w
  | .consume i now =>
    match w.launches[i]? with
    | some launch =>
      match launch.pc with
      | .consuming verified => w.consume i launch verified now
      | _ => w
    | none => w
  | .persist i ids consentAt =>
    match w.launches[i]? with
    | some launch =>
      match launch.pc with
      | .persisting verified => w.persist i launch verified ids consentAt
      | _ => w
    | none => w
  | .purgeExpired => { w with store := (LaunchStateStore.purgeExpired w.store).1 }
  | .elapse dt => { w with store := LaunchStateStore.elapse w.store dt }

/-! ## 3. The launch system in it

What of the flow the launch system can see. A callback that is discovering or fetching a key is
verifying to it, and `translate` is the step it is told of: none, where a piece ends in nothing the
store could notice. -/

end LaunchFlow

def FlowPc.abs {κ : Type} : FlowPc κ → LaunchPc
  | .peeking => .peeking
  | .discovering _ | .fetchingKey .. => .verifying
  | .consuming _ => .consuming
  | .persisting _ => .persisting
  | .redirected .. => .redirected
  | .failed e => .failed e

theorem FlowPc.abs_eq_peeking {κ : Type} {pc : FlowPc κ} (h : pc.abs = .peeking) :
    pc = .peeking := by
  cases pc with
  | peeking => rfl
  | discovering call | fetchingKey discovery call | consuming v | persisting v
  | redirected v participant examSession | failed e => exact nomatch h

theorem FlowPc.abs_eq_consuming {κ : Type} {pc : FlowPc κ} (h : pc.abs = .consuming) :
    ∃ v, pc = .consuming v := by
  cases pc with
  | consuming v => exact ⟨v, rfl⟩
  | peeking | discovering call | fetchingKey discovery call | persisting v
  | redirected v participant examSession | failed e => exact nomatch h

/-- The verified payload a launch goes on with. -/
def FlowPc.verified? {κ : Type} : FlowPc κ → Option (Verified κ)
  | .consuming verified | .persisting verified | .redirected verified .. => some verified
  | .peeking | .discovering _ | .fetchingKey .. | .failed _ => none

/-- The session a launch has ended in. -/
def FlowPc.examSession? {κ : Type} : FlowPc κ → Option ExamSession
  | .redirected _ _ examSession => some examSession
  | .peeking | .discovering _ | .fetchingKey .. | .consuming _ | .persisting _ | .failed _ => none

def Launching.callback {κ : Type} (launch : Launching κ) : Callback where
  issuer := launch.issuer
  stateValue := text? (Json.get? launch.unverified "state")
  named := text?_ne_empty
  nonce := text? (Json.get? launch.unverified "nonce")
  pc := launch.pc.abs

namespace LaunchFlow

variable {σ κ : Type} {ttl : Nat} [LaunchStateStore σ ttl]

def abs (w : LaunchFlow σ κ) : LaunchSystem σ :=
  ⟨w.store, w.logins, w.launches.map Launching.callback⟩

/-- What a step is to the launch system. -/
def translate (settings : FlowSettings κ) (w : LaunchFlow σ κ) : FlowStep → Option LaunchStep
  | .discovery _ | .jwks _ | .database _ => none
  | .login request call state nonce now =>
    (w.loginEndpoint request call).map fun endpoint => .login request endpoint state nonce now
  | .launch idToken =>
    some (.launch ⟨settings.library.getUnverifiedHeader idToken,
      settings.library.decodeUnverified idToken⟩)
  | .peek i => some (.peek i)
  | .discovered i _ =>
    match w.launches[i]? with
    | some launch =>
      match launch.pc with
      | .discovering call =>
        match w.discovery.calls[call]?.bind (·.phase.outcome) with
        | some (.error e) => some (.verify i (.error e))
        | _ => none
      | _ => none
    | none => none
  | .verify i now =>
    match w.launches[i]? with
    | some launch =>
      match launch.pc with
      | .fetchingKey discovery call =>
        (w.verification settings launch discovery call now).map fun answer =>
          .verify i (answer.map fun _ => ())
      | _ => none
    | none => none
  | .consume i now => some (.consume i now)
  | .persist i ids consentAt =>
    match w.launches[i]? with
    | some launch =>
      match launch.pc with
      | .persisting verified =>
        match processLaunch w.db verified.claims.idToken verified.role ids consentAt with
        | .error e => some (.persist i (.error e.launchError))
        | .ok _ => some (.persist i (.ok ()))
      | _ => none
    | none => none
  | .purgeExpired => some .purgeExpired
  | .elapse dt => some (.elapse dt)

/-! ## 4. What a token has passed

The nonce and the state that are consumed are read off a payload nobody has verified yet; that
they are the verified ones is `Passed`, and it holds of every callback that is past its checks. -/

/-- Steps 4 to 6 have let the token through. -/
structure Passed (settings : FlowSettings κ) (launch : Launching κ) (v : Verified κ) : Prop where
  decoded : ∃ now, settings.library.decode now launch.idToken v.key settings.expectedAud
    launch.issuer = .ok v.payload
  payload : v.payload = launch.unverified
  read : readClaims settings.pydantic v.payload = .ok v.claims
  role : mapRoles v.claims.roles = .ok v.role

/-- The variables of a callback belong to its token. -/
structure Consistent (settings : FlowSettings κ) (launch : Launching κ) : Prop where
  unverified : settings.library.decodeUnverified launch.idToken = some launch.unverified
  issuer : Json.get? launch.unverified "iss" = some (.str launch.issuer)
  passed : ∀ v, launch.pc.verified? = some v → Passed settings launch v

section
variable {settings : FlowSettings κ} {w w' : LaunchFlow σ κ} {launch launch' : Launching κ}
  {v : Verified κ} {i : Nat} {pc : FlowPc κ}

/-- The launch system begins the same callbacks. -/
theorem begin_eq {idToken : String} :
    Callback.begin ⟨settings.library.getUnverifiedHeader idToken,
        settings.library.decodeUnverified idToken⟩ =
      (beginLaunch settings.library idToken).map Launching.callback := by
  unfold beginLaunch Callback.begin
  cases settings.library.getUnverifiedHeader idToken with
  | none => rfl
  | some header =>
    dsimp only
    -- both sides go through the header, the payload and the issuer in the same order
    cases text? (Json.get? header "kid") with
    | none => rfl
    | some kid =>
      cases settings.library.decodeUnverified idToken with
      | none => rfl
      | some unverified =>
        dsimp only
        cases text? (Json.get? unverified "iss") with
        | none => rfl
        | some issuer => rfl

theorem beginLaunch_ok {idToken : String}
    (h : beginLaunch settings.library idToken = .ok launch) :
    Consistent settings launch ∧ launch.pc = .peeking := by
  unfold beginLaunch at h
  split at h
  case h_1 => exact nomatch h
  case h_2 header hheader =>
    split at h
    case h_1 => exact nomatch h
    case h_2 => exact nomatch h
    case h_3 kid unverified hkid hunverified =>
      split at h
      case h_1 => exact nomatch h
      case h_2 issuer hissuer =>
        cases h
        refine ⟨⟨hunverified, (text?_eq_some hissuer).1, ?_⟩, rfl⟩
        intro v hv
        cases hv

/-- Another place in the flow, the same callback. -/
theorem Consistent.setPc (h : Consistent settings launch)
    (hpassed : ∀ v, pc.verified? = some v → Passed settings launch v) :
    Consistent settings { launch with pc } where
  unverified := h.unverified
  issuer := h.issuer
  passed := by
    intro v hv
    obtain ⟨hdecoded, hpayload, hread, hrole⟩ := hpassed v hv
    exact ⟨hdecoded, hpayload, hread, hrole⟩

theorem verifyToken_ok {now : DateTime} {discovery : OidcDiscovery} {key : κ}
    (hconsistent : Consistent settings launch)
    (h : verifyToken settings now launch discovery key = .ok v) :
    v.discovery = discovery ∧ v.key = key ∧ Passed settings launch v := by
  unfold verifyToken at h
  split at h
  case h_1 => exact nomatch h
  case h_2 payload hdecode =>
    split at h
    case h_1 => exact nomatch h
    case h_2 claims hclaims =>
      split at h
      case h_1 => exact nomatch h
      case h_2 => exact nomatch h
      case h_3 role hrole =>
        cases h
        -- the library's law: verified or not, the payload is the same
        have hunverified := settings.library.decodeUnverified_of_decode _ _ _ _ _ _ hdecode
        have hpayload : payload = launch.unverified :=
          Option.some.inj (hunverified.symm.trans hconsistent.unverified)
        exact ⟨rfl, rfl, ⟨now, hdecode⟩, hpayload, hclaims, hrole⟩

/-- The nonce that is consumed is the one the launch system sees. -/
theorem Passed.nonce (h : Passed settings launch v) :
    text? (Json.get? launch.unverified "nonce") = some v.claims.nonce := by
  have hnonce := (readClaims_ok h.read).nonce
  rw [h.payload] at hnonce
  -- the claim model refuses an empty nonce, so the unverified reading does not skip it
  have hne : v.claims.nonce.val ≠ "" := by
    intro hempty
    have hlength := v.claims.nonce.property.1
    rw [hempty] at hlength
    exact absurd hlength (by decide)
  show text? (Json.get? launch.unverified claimNonce) = _
  rw [hnonce]
  exact if_neg hne

/-! ## 5. The simulation

One lemma for each piece: the piece is the launch system's step, seen through `abs`. They all go
through `abs_moved`, which says what moving one callback is on the other side. -/

variable (w launch i pc) in
theorem abs_setPc :
    (w.setPc i launch pc).abs =
      { w.abs with callbacks := w.abs.callbacks.set i { launch.callback with pc := pc.abs } } := by
  show LaunchSystem.mk _ _ ((w.launches.set i { launch with pc }).map Launching.callback) = _
  rw [List.map_set]
  rfl

theorem callbacks_get (hi : w.launches[i]? = some launch) :
    w.abs.callbacks[i]? = some launch.callback := by
  show (w.launches.map Launching.callback)[i]? = _
  rw [List.getElem?_map, hi]
  rfl

theorem callbacks_get_none (hi : w.launches[i]? = none) : w.abs.callbacks[i]? = none := by
  show (w.launches.map Launching.callback)[i]? = _
  rw [List.getElem?_map, hi]
  rfl

/-- A launch system that moves a callback where there is none, or one that is not waiting. -/
theorem move_eq_self {f : σ → Callback → σ × Callback}
    (hf : ∀ launch, w.launches[i]? = some launch →
      f w.store launch.callback = (w.store, launch.callback)) :
    w.abs.move i f = w.abs := by
  unfold LaunchSystem.move
  cases hi : w.launches[i]? with
  | none => rw [callbacks_get_none hi]
  | some launch =>
    rw [callbacks_get hi]
    dsimp only
    have hsame := hf launch hi
    have hset : w.abs.callbacks.set i launch.callback = w.abs.callbacks := by
      obtain ⟨hlt, hget⟩ := List.getElem?_eq_some_iff.mp (callbacks_get hi)
      rw [← hget, List.set_getElem_self]
    show LaunchSystem.mk (f w.store launch.callback).1 _
      (w.abs.callbacks.set i (f w.store launch.callback).2) = _
    rw [hsame, hset]
    rfl

theorem move_of_none {f : σ → Callback → σ × Callback} (hi : w.launches[i]? = none) :
    w.abs.move i f = w.abs := by
  apply move_eq_self
  intro launch hi'
  cases hi.symm.trans hi'

theorem move_eq {f : σ → Callback → σ × Callback} (hi : w.launches[i]? = some launch) :
    w.abs.move i f = { w.abs with
      store := (f w.store launch.callback).1
      callbacks := w.abs.callbacks.set i (f w.store launch.callback).2 } := by
  unfold LaunchSystem.move
  rw [callbacks_get hi]
  rfl

/-- A callback that changes its place, with the store as it then is. -/
theorem abs_moved {store : σ} {f : σ → Callback → σ × Callback} {discovery : DiscoveryCache}
    {jwks : JwksCache κ} {db : Database} (hi : w.launches[i]? = some launch)
    (hf : f w.store launch.callback = (store, { launch.callback with pc := pc.abs })) :
    abs { w.setPc i launch pc with store, discovery, jwks, db } = w.abs.move i f := by
  rw [move_eq hi, hf]
  have hset := abs_setPc w launch i pc
  have hcallbacks := congrArg LaunchSystem.callbacks hset
  show LaunchSystem.mk store w.logins (w.setPc i launch pc).abs.callbacks = _
  rw [hcallbacks]
  rfl

theorem abs_peek (hi : w.launches[i]? = some launch) (hpc : launch.pc = .peeking) :
    (w.peek i launch).abs = w.abs.move i Callback.peek := by
  have hcallback : launch.callback.pc = .peeking := congrArg FlowPc.abs hpc
  unfold peek
  -- No state, an entry of another issuer, an entry of this one.
  split
  case h_1 hstate =>
    apply abs_moved hi
    have hvalue : launch.callback.stateValue = none := hstate
    unfold Callback.peek
    rw [if_pos hcallback]
    simp only [hvalue]
    rfl
  case h_2 state hstate =>
    have hvalue : launch.callback.stateValue = some state := hstate
    dsimp only
    split
    case isTrue hall =>
      apply abs_moved hi
      unfold Callback.peek
      rw [if_pos hcallback]
      simp only [hvalue]
      exact if_pos hall
    case isFalse hall =>
      apply abs_moved hi
      unfold Callback.peek
      rw [if_pos hcallback]
      simp only [hvalue]
      exact if_neg hall

theorem abs_failed {e : LaunchError} (hi : w.launches[i]? = some launch)
    (hpc : launch.pc.abs = .verifying) :
    (w.setPc i launch (.failed e)).abs =
      w.abs.move i fun s cb => (s, cb.verify (.error e)) := by
  apply abs_moved hi
  have hcallback : launch.callback.pc = .verifying := hpc
  unfold Callback.verify
  rw [if_pos hcallback]
  rfl

theorem abs_verified (hi : w.launches[i]? = some launch) (hpc : launch.pc.abs = .verifying)
    (hpassed : Passed settings launch v) :
    (w.setPc i launch (.consuming v)).abs =
      w.abs.move i fun s cb => (s, cb.verify (.ok ())) := by
  apply abs_moved hi
  have hcallback : launch.callback.pc = .verifying := hpc
  have hnonce : launch.callback.nonce = some v.claims.nonce.val := hpassed.nonce
  unfold Callback.verify
  rw [if_pos hcallback]
  simp only [hnonce]
  rfl

theorem abs_consume {now : ℚ} (hi : w.launches[i]? = some launch)
    (hpc : launch.pc = .consuming v) (hpassed : Passed settings launch v) :
    (w.consume i launch v now).abs = w.abs.move i fun s cb => cb.consume s now := by
  have hcallback : launch.callback.pc = .consuming := congrArg FlowPc.abs hpc
  have hnonce : launch.callback.nonce = some v.claims.nonce.val := hpassed.nonce
  unfold consume
  split
  case h_1 hstate =>
    apply abs_moved hi
    have hvalue : launch.callback.stateValue = none := hstate
    unfold Callback.consume
    rw [if_pos hcallback]
    simp only [hvalue]
    rfl
  case h_2 state hstate =>
    have hvalue : launch.callback.stateValue = some state := hstate
    dsimp only
    -- the same five answers on both sides
    split
    all_goals
      rename_i hresult
      apply abs_moved hi
      unfold Callback.consume
      rw [if_pos hcallback]
      simp only [hvalue, hnonce, hresult]
      rfl

theorem abs_persisted {answer : Except LaunchError Unit} {db : Database}
    (hi : w.launches[i]? = some launch)
    (hanswer : { launch.callback with pc := pc.abs } = launch.callback.persist answer) :
    abs { w.setPc i launch pc with db } = w.abs.move i fun s cb => (s, cb.persist answer) := by
  apply abs_moved hi
  rw [hanswer]
  rfl

/-- The launch system makes of this step what the flow does. -/
def SimulatesStep (settings : FlowSettings κ) (w : LaunchFlow σ κ) (l : FlowStep) : Prop :=
  (w.step settings l).abs =
    Run.final (LaunchSystem.step settings.lti) w.abs (translate settings w l).toList

theorem simulates_login {request : LoginRequest} {call : Nat} {state nonce : String} {now : ℚ} :
    SimulatesStep settings w (.login request call state nonce now) := by
  simp only [SimulatesStep, step, translate]
  cases w.loginEndpoint request call with
  -- discovery has no answer yet, or an error
  | none => rfl
  | some endpoint =>
    dsimp only [Option.map_some, Option.toList_some, Run.final_cons, Run.final_nil,
      LaunchSystem.step]
    cases ltiLogin settings.lti request endpoint state nonce with
    | error e => rfl
    | ok answer =>
      dsimp only
      split
      case isTrue => rfl
      case isFalse => rfl

theorem simulates_launch {idToken : String} : SimulatesStep settings w (.launch idToken) := by
  simp only [SimulatesStep, step, translate, Option.toList_some, Run.final_cons, Run.final_nil,
    LaunchSystem.step, begin_eq]
  cases beginLaunch settings.library idToken with
  | error e => rfl
  | ok launch =>
    show LaunchSystem.mk _ _ ((w.launches ++ [launch]).map Launching.callback) = _
    rw [List.map_append]
    rfl

theorem simulates_peek : SimulatesStep settings w (.peek i) := by
  show (step settings w (.peek i)).abs = w.abs.move i Callback.peek
  simp only [step]
  split
  case h_1 launch hi =>
    split
    case h_1 hpc => exact abs_peek hi hpc
    -- a callback that is past its peek is past it to the launch system
    case h_2 hpc =>
      refine (move_eq_self fun launch' hi' => if_neg fun hwaits => ?_).symm
      cases hi.symm.trans hi'
      exact hpc (FlowPc.abs_eq_peeking hwaits)
  case h_2 hi => exact (move_of_none hi).symm

/-- A document changes nothing: the callback was verifying and still is. -/
theorem abs_askForKey {time : ℚ} {discovery : OidcDiscovery} (hi : w.launches[i]? = some launch)
    (hverifying : launch.pc.abs = .verifying) :
    (w.askForKey i launch time discovery).abs = w.abs := by
  have hmoved : (w.askForKey i launch time discovery).abs =
      w.abs.move i fun s cb => (s, cb) :=
    abs_moved hi (by rw [FlowPc.abs, ← hverifying]; rfl)
  exact hmoved.trans (move_eq_self fun launch' hi' => rfl)

theorem simulates_discovered {time : ℚ} : SimulatesStep settings w (.discovered i time) := by
  simp only [SimulatesStep, step, translate]
  split
  case h_2 => rfl
  case h_1 launch hi =>
    split
    case h_2 => rfl
    case h_1 call hpc =>
      unfold discovered
      have hverifying : launch.pc.abs = .verifying := by rw [hpc]; rfl
      cases w.discovery.calls[call]?.bind (·.phase.outcome) with
      -- the call is still in flight
      | none => rfl
      | some outcome =>
        cases outcome with
        | error e => exact abs_failed hi hverifying
        | ok discovery => exact abs_askForKey hi hverifying

theorem simulates_verify {now : DateTime}
    (hconsistent : ∀ launch ∈ w.launches, Consistent settings launch) :
    SimulatesStep settings w (.verify i now) := by
  simp only [SimulatesStep, step, translate]
  split
  case h_2 => rfl
  case h_1 launch hi =>
    split
    case h_2 => rfl
    case h_1 discovery call hpc =>
      have hverifying : launch.pc.abs = .verifying := by rw [hpc]; rfl
      unfold LaunchFlow.verify
      cases hanswer : w.verification settings launch discovery call now with
      -- the key is still being fetched
      | none => rfl
      | some answer =>
        cases answer with
        | error e => exact abs_failed hi hverifying
        | ok v =>
          obtain ⟨outcome, -, hverified⟩ := Option.map_eq_some_iff.mp hanswer
          cases outcome with
          | error e => cases hverified
          | ok key =>
            obtain ⟨-, -, hpassed⟩ :=
              verifyToken_ok (hconsistent launch (List.mem_of_getElem? hi)) hverified
            exact abs_verified hi hverifying hpassed

theorem simulates_consume {now : ℚ}
    (hconsistent : ∀ launch ∈ w.launches, Consistent settings launch) :
    SimulatesStep settings w (.consume i now) := by
  show (step settings w (.consume i now)).abs = w.abs.move i fun s cb => cb.consume s now
  simp only [step]
  split
  case h_1 launch hi =>
    split
    case h_1 v hpc =>
      have hpassed := (hconsistent launch (List.mem_of_getElem? hi)).passed v (by rw [hpc]; rfl)
      exact abs_consume hi hpc hpassed
    case h_2 hpc =>
      refine (move_eq_self fun launch' hi' => if_neg fun hwaits => ?_).symm
      cases hi.symm.trans hi'
      obtain ⟨v, hv⟩ := FlowPc.abs_eq_consuming hwaits
      exact hpc v hv
  case h_2 hi => exact (move_of_none hi).symm

theorem simulates_persist {ids : LaunchIds} {consentAt : DateTime} :
    SimulatesStep settings w (.persist i ids consentAt) := by
  simp only [SimulatesStep, step, translate]
  split
  case h_2 => rfl
  case h_1 launch hi =>
    split
    case h_2 => rfl
    case h_1 v hpc =>
      have hcallback : launch.callback.pc = .persisting := congrArg FlowPc.abs hpc
      unfold LaunchFlow.persist
      cases processLaunch w.db v.claims.idToken v.role ids consentAt with
      | error e => exact abs_persisted hi (if_pos hcallback).symm
      | ok result => exact abs_persisted hi (if_pos hcallback).symm

/-- **Every step of the flow is one step of the launch system, or none.** -/
theorem simulates :
    Simulation.Simulates (step settings)
      (fun w : LaunchFlow σ κ => ∀ launch ∈ w.launches, Consistent settings launch)
      (LaunchSystem.step settings.lti) abs (translate settings) := by
  intro w l hconsistent
  cases l with
  -- the launch system knows nothing of caches and tables
  | discovery e => rfl
  | jwks e => rfl
  | database db => rfl
  | login request call state nonce now => exact simulates_login
  | launch idToken => exact simulates_launch
  | peek i => exact simulates_peek
  | discovered i time => exact simulates_discovered
  -- what is verified and consumed is what the launch system reads off the token
  | verify i now => exact simulates_verify hconsistent
  | consume i now => exact simulates_consume hconsistent
  | persist i ids consentAt => exact simulates_persist
  | purgeExpired => rfl
  | elapse dt => rfl

end

/-! ## 6. What a step does -/

/-- The states one step can lead to. -/
inductive Moves (settings : FlowSettings κ) (w : LaunchFlow σ κ) :
    FlowStep → LaunchFlow σ κ → Prop
  | idle {l : FlowStep} : Moves settings w l w
  | discovery {l : FlowStep} (e : DiscoveryEvent) :
      Moves settings w l { w with discovery := w.discovery.step settings.discovery e }
  | jwks {l : FlowStep} (e : ℚ × JwksEvent) :
      Moves settings w l { w with jwks := w.jwks.step settings.pyJwk settings.ttl e }
  | database (db : Database) : Moves settings w (.database db) { w with db }
  | stored {l : FlowStep} (store : σ) (new : List Login) :
      Moves settings w l { w with store, logins := w.logins ++ new }
  | begun {l : FlowStep} {launch : Launching κ} (hconsistent : Consistent settings launch)
      (hpc : launch.pc = .peeking) :
      Moves settings w l { w with launches := w.launches ++ [launch] }
  | failed {l : FlowStep} {i : Nat} {launch : Launching κ} (store : σ) (e : LaunchError)
      (hi : w.launches[i]? = some launch) (hpc : launch.pc.examSession? = none) :
      Moves settings w l { w.setPc i launch (.failed e) with store }
  /-- Past its peek a callback waits for the discovery call it has just made. -/
  | peeked {l : FlowStep} {i : Nat} {launch : Launching κ} (store : σ)
      (hi : w.launches[i]? = some launch) (hpc : launch.pc = .peeking) :
      Moves settings w l
        { w.setPc i launch (.discovering w.discovery.calls.length) with
          store
          discovery := w.discovery.begin launch.issuer }
  | discovered {l : FlowStep} {i call : Nat} {launch : Launching κ} {discovery : OidcDiscovery}
      (time : ℚ) (hi : w.launches[i]? = some launch) (hpc : launch.pc = .discovering call)
      (houtcome : w.discovery.calls[call]?.bind (·.phase.outcome) = some (.ok discovery)) :
      Moves settings w l (w.askForKey i launch time discovery)
  /-- The one place a token is verified, with the key its own call came back with. -/
  | verified {l : FlowStep} {i call : Nat} {launch : Launching κ} {discovery : OidcDiscovery}
      {key : κ} {now : DateTime} {v : Verified κ} (hi : w.launches[i]? = some launch)
      (hpc : launch.pc = .fetchingKey discovery call)
      (houtcome : w.jwks.calls[call]?.bind (·.phase.outcome) = some (.ok key))
      (hverified : verifyToken settings now launch discovery key = .ok v) :
      Moves settings w l (w.setPc i launch (.consuming v))
  | consumed {l : FlowStep} {i : Nat} {launch : Launching κ} {v : Verified κ} (store : σ)
      (hi : w.launches[i]? = some launch) (hpc : launch.pc = .consuming v) :
      Moves settings w l { w.setPc i launch (.persisting v) with store }
  | persisted {l : FlowStep} {i : Nat} {launch : Launching κ} {v : Verified κ} {ids : LaunchIds}
      {consentAt : DateTime} {result : LaunchResult} (hi : w.launches[i]? = some launch)
      (hpc : launch.pc = .persisting v)
      (hprocess : processLaunch w.db v.claims.idToken v.role ids consentAt = .ok result) :
      Moves settings w l
        { w.setPc i launch (.redirected v result.participant result.examSession) with
          db := result.db }

section
variable {settings : FlowSettings κ} {w w' : LaunchFlow σ κ} {launch : Launching κ}
  {v : Verified κ} {i : Nat} {pc : FlowPc κ} {l : FlowStep}

theorem moves_peek (hi : w.launches[i]? = some launch) (hpc : launch.pc = .peeking) :
    Moves settings w l (w.peek i launch) := by
  unfold peek
  split
  case h_1 => exact .peeked w.store hi hpc
  case h_2 state hstate =>
    dsimp only
    split
    case isTrue => exact .peeked _ hi hpc
    case isFalse => exact .failed _ _ hi (by rw [hpc]; rfl)

theorem moves_discovered {call : Nat} {time : ℚ} (hi : w.launches[i]? = some launch)
    (hpc : launch.pc = .discovering call) :
    Moves settings w l (w.discovered i launch call time) := by
  unfold discovered
  split
  case h_1 => exact .idle
  case h_2 e houtcome => exact .failed w.store e hi (by rw [hpc]; rfl)
  case h_3 discovery houtcome => exact .discovered time hi hpc houtcome

theorem moves_verify {discovery : OidcDiscovery} {call : Nat} {now : DateTime}
    (hi : w.launches[i]? = some launch) (hpc : launch.pc = .fetchingKey discovery call) :
    Moves settings w l (w.verify settings i launch discovery call now) := by
  unfold LaunchFlow.verify
  split
  case h_1 => exact .idle
  case h_2 e hanswer => exact .failed w.store e hi (by rw [hpc]; rfl)
  case h_3 v hanswer =>
    obtain ⟨outcome, houtcome, hverified⟩ := Option.map_eq_some_iff.mp hanswer
    cases outcome with
    | error e => exact nomatch hverified
    | ok key => exact .verified hi hpc houtcome hverified

theorem moves_consume {now : ℚ} (hi : w.launches[i]? = some launch)
    (hpc : launch.pc = .consuming v) : Moves settings w l (w.consume i launch v now) := by
  have hnone : launch.pc.examSession? = none := by rw [hpc]; rfl
  unfold consume
  split
  case h_1 => exact .failed w.store _ hi hnone
  case h_2 state hstate =>
    dsimp only
    split
    case h_1 => exact .consumed _ hi hpc
    case h_2 => exact .failed _ _ hi hnone
    case h_3 => exact .failed _ _ hi hnone
    case h_4 => exact .failed _ _ hi hnone
    case h_5 => exact .failed _ _ hi hnone

theorem moves_persist {ids : LaunchIds} {consentAt : DateTime} (hi : w.launches[i]? = some launch)
    (hpc : launch.pc = .persisting v) :
    Moves settings w l (w.persist i launch v ids consentAt) := by
  unfold LaunchFlow.persist
  split
  case h_1 e hprocess => exact .failed w.store e.launchError hi (by rw [hpc]; rfl)
  case h_2 result hprocess => exact .persisted hi hpc hprocess

theorem moves_store (store : σ) : Moves settings w l { w with store } := by
  have hmoves : Moves settings w l { w with store, logins := w.logins ++ [] } := .stored store []
  rwa [List.append_nil] at hmoves

/-- Every step is one of the moves; the cases are the branches of `step`, and where it is not the
    turn of a callback the step is `idle`. -/
theorem moves_step (l : FlowStep) : Moves settings w l (w.step settings l) := by
  cases l with
  | discovery e => exact .discovery e
  | jwks e => exact .jwks e
  | database db => exact .database db
  -- A login stores an entry, or is invisible: no document, a refused request, a refused entry.
  | login request call state nonce now =>
    simp only [step]
    split
    case h_1 => exact .idle
    case h_2 endpoint hendpoint =>
      split
      case h_1 => exact .idle
      case h_2 r redirect hlogin =>
        split
        case isTrue => exact .stored _ _
        case isFalse => exact .idle
  | launch idToken =>
    simp only [step]
    split
    case h_1 => exact .idle
    case h_2 launch hbegin =>
      obtain ⟨hconsistent, hpc⟩ := beginLaunch_ok hbegin
      exact .begun hconsistent hpc
  -- Each later call moves a launch that stands at the await before it, and is idle elsewhere.
  | peek i =>
    simp only [step]
    split
    case h_2 => exact .idle
    case h_1 launch hi =>
      split
      case h_1 hpc => exact moves_peek hi hpc
      case h_2 => exact .idle
  | discovered i time =>
    simp only [step]
    split
    case h_2 => exact .idle
    case h_1 launch hi =>
      split
      case h_1 call hpc => exact moves_discovered hi hpc
      case h_2 => exact .idle
  | verify i now =>
    simp only [step]
    split
    case h_2 => exact .idle
    case h_1 launch hi =>
      split
      case h_1 discovery call hpc => exact moves_verify hi hpc
      case h_2 => exact .idle
  | consume i now =>
    simp only [step]
    split
    case h_2 => exact .idle
    case h_1 launch hi =>
      split
      case h_1 v hpc => exact moves_consume hi hpc
      case h_2 => exact .idle
  | persist i ids consentAt =>
    simp only [step]
    split
    case h_2 => exact .idle
    case h_1 launch hi =>
      split
      case h_1 v hpc => exact moves_persist hi hpc
      case h_2 => exact .idle
  | purgeExpired => exact moves_store _
  | elapse dt => exact moves_store _

/-- What is said of every callback, once it is said of the one that moved. -/
theorem forall_launches_set {P : Launching κ → Prop} (h : ∀ launch ∈ w.launches, P launch)
    (hnew : P { launch with pc }) : ∀ launch' ∈ (w.setPc i launch pc).launches, P launch' := by
  intro launch' hmem
  rcases List.mem_or_eq_of_mem_set hmem with hold | rfl
  · exact h launch' hold
  · exact hnew

/-- A callback stays with its token: a move touches one callback, and the only move that gives it
    claims is the one that verified them. -/
theorem consistent_moves (h : ∀ launch ∈ w.launches, Consistent settings launch)
    (hmoves : Moves settings w l w') : ∀ launch ∈ w'.launches, Consistent settings launch := by
  cases hmoves with
  | idle | discovery e | jwks e | database db | stored store new => exact h
  | begun hconsistent hpc =>
    intro launch hmem
    rcases List.mem_append.mp hmem with hmem | hmem
    · exact h launch hmem
    · rw [List.mem_singleton.mp hmem]
      exact hconsistent
  -- nothing is verified in these places
  | failed store e hi hpc | peeked store hi hpc | discovered time hi hpc houtcome =>
    apply forall_launches_set h
    apply (h _ (List.mem_of_getElem? hi)).setPc
    intro v hv
    cases hv
  | verified hi hpc houtcome hverified =>
    have hconsistent := h _ (List.mem_of_getElem? hi)
    apply forall_launches_set h
    apply hconsistent.setPc
    intro v' hv
    cases hv
    exact (verifyToken_ok hconsistent hverified).2.2
  -- the claims are carried on from the piece before
  | consumed store hi hpc =>
    have hconsistent := h _ (List.mem_of_getElem? hi)
    apply forall_launches_set h
    apply hconsistent.setPc
    intro v' hv
    cases hv
    exact hconsistent.passed _ (by rw [hpc]; rfl)
  | persisted hi hpc hprocess =>
    have hconsistent := h _ (List.mem_of_getElem? hi)
    apply forall_launches_set h
    apply hconsistent.setPc
    intro v' hv
    cases hv
    exact hconsistent.passed _ (by rw [hpc]; rfl)

theorem consistent_step (w : LaunchFlow σ κ) (l : FlowStep)
    (h : ∀ launch ∈ w.launches, Consistent settings launch) :
    ∀ launch ∈ (w.step settings l).launches, Consistent settings launch :=
  consistent_moves h (moves_step l)

theorem consistent_start {now : ℚ} {db : Database} :
    ∀ launch ∈ (start now db : LaunchFlow σ κ).launches, Consistent settings launch := by
  intro launch hmem
  cases hmem

/-! ## 7. Every interleaving

Fresh values are the one thing the environment promises: `generate_launch_state` draws a state
nobody has drawn or been sent. The refinement then carries the bound of the launch system over. -/

/-- A generated state was not generated before and is in no token that has arrived. -/
def Fresh (w : LaunchFlow σ κ) : FlowStep → Prop
  | .login _ _ state _ _ =>
    (∀ login ∈ w.logins, login.state ≠ state) ∧
      ∀ launch ∈ w.launches, launch.callback.stateValue ≠ some state
  | _ => True

instance {w : LaunchFlow σ κ} : DecidablePred w.Fresh
  | .login _ _ state _ _ => inferInstanceAs (Decidable ((∀ login ∈ w.logins, login.state ≠ state) ∧
      ∀ launch ∈ w.launches, launch.callback.stateValue ≠ some state))
  | .discovery _ | .jwks _ | .database _ | .launch _ | .peek _ | .discovered .. | .verify .. |
    .consume .. | .persist .. | .purgeExpired | .elapse _ => isTrue trivial

theorem guarded_of_fresh (hfresh : w.Fresh l) :
    Simulation.Guarded abs (translate settings) LaunchSystem.Fresh w l := by
  intro coarse hcoarse
  cases l with
  | login request call state nonce now =>
    obtain ⟨endpoint, -, rfl⟩ := Option.map_eq_some_iff.mp hcoarse
    refine ⟨hfresh.1, ?_⟩
    intro cb hcb
    obtain ⟨launch, hlaunch, rfl⟩ := List.mem_map.mp hcb
    exact hfresh.2 launch hlaunch
  -- The only freshness asked for is that of a login, so the other steps are free.
  | discovery e | jwks e | database db => exact nomatch hcoarse
  | launch idToken | peek i | consume i now | purgeExpired | elapse dt =>
    cases hcoarse
    trivial
  | discovered i time =>
    simp only [translate] at hcoarse
    repeat' split at hcoarse
    all_goals cases hcoarse
    trivial
  | verify i now =>
    simp only [translate] at hcoarse
    repeat' split at hcoarse
    case h_1 =>
      obtain ⟨answer, -, rfl⟩ := Option.map_eq_some_iff.mp hcoarse
      trivial
    all_goals cases hcoarse
  | persist i ids consentAt =>
    simp only [translate] at hcoarse
    repeat' split at hcoarse
    all_goals cases hcoarse
    all_goals trivial

end

/-- **The whole launch flow is a run of the launch system**, whatever the caches, the platforms'
    answers and the rest of the engine do in between; so a callback that redirects has consumed
    the registration of a login of the platform that signed its token, and no other has. -/
theorem flow_refines_launch_system (settings : FlowSettings κ) (now : ℚ) (db : Database)
    (steps : List FlowStep)
    (hfresh : Run.EachStep (step settings) Fresh (start now db : LaunchFlow σ κ) steps) :
    (∃ coarse : List LaunchStep,
      Run.EachStep (LaunchSystem.step settings.lti) LaunchSystem.Fresh
          (LaunchSystem.start : LaunchSystem σ) coarse ∧
        Run.final (LaunchSystem.step settings.lti) (LaunchSystem.start : LaunchSystem σ) coarse =
          abs (Run.final (step settings) (start now db : LaunchFlow σ κ) steps)) ∧
      Run.Always (step settings) (fun w => w.abs.Bound) (start now db : LaunchFlow σ κ) steps := by
  have hguarded : Run.EachStep (step settings)
      (Simulation.Guarded abs (translate settings) LaunchSystem.Fresh)
      (start now db : LaunchFlow σ κ) steps := hfresh.mono fun w l hl => guarded_of_fresh hl
  have hcoarse := Simulation.eachStep_coarse simulates consistent_step consistent_start hguarded
  refine ⟨⟨_, hcoarse, Simulation.final_coarse simulates consistent_step consistent_start⟩, ?_⟩
  exact Simulation.always_of_coarse simulates consistent_step consistent_start (bound_run hcoarse)

/-! ## 8. One launch -/

def knownPayload : Dict :=
  [(claimIssuer, .str "https://lms"), (claimSubject, .str "user"), (claimAudience, .str "tool"),
    (claimExpiresAt, .num 3600), (claimIssuedAt, .num 0), (claimNonce, .str "nonce"),
    (claimMessageType, .str resourceLinkRequest), (claimVersion, .str ltiVersion),
    (claimDeploymentId, .str "1"),
    (claimRoles, .arr [.str "http://purl.imsglobal.org/vocab/lis/v2/membership#Learner"]),
    (claimContext, .obj [("id", .str "course")]), (claimResourceLink, .obj [("id", .str "exam")]),
    (claimToolPlatform, .obj [("guid", .str "1"), ("name", .str "lms"),
      ("product_family_code", .str "lms")]),
    (claimTargetLinkUri, .str "https://tool/launch"),
    (claimCustom, .obj [("policy_config_name", .str "default")]), ("state", .str "state")]

/-- A library that knows one token, signed with the platform's key for an hour. -/
def knownToken : IdTokenLibrary Dict where
  getUnverifiedHeader idToken :=
    if idToken = "token" then some [("kid", .str "key-1")] else none
  decodeUnverified idToken := if idToken = "token" then some knownPayload else none
  decode now idToken key audience issuer :=
    if idToken ≠ "token" ∨ key ≠ JwksCache.platformKey then .error (.invalidToken "signature")
    else if 3600000000 ≤ now then .error .expiredSignature
    else if audience ≠ "tool" then .error (.invalidAudience "audience")
    else if issuer ≠ "https://lms" then .error (.invalidIssuer "issuer")
    else .ok knownPayload
  decodeUnverified_of_decode := by
    intro now idToken key audience issuer payload h
    split at h
    case isTrue => exact nomatch h
    case isFalse hknown =>
      rw [if_pos (not_not.mp (not_or.mp hknown).1)]
      repeat' split at h
      all_goals cases h
      rfl

def knownSettings : FlowSettings Dict where
  lti := ⟨"https://tool/launch", "tool"⟩
  discovery := ⟨none, fun base url => base ++ url⟩
  audienceOverride := none
  library := knownToken
  pydantic := .strict
  pyJwk := JwksCache.ed25519Only
  ttl := JwksCache.tenMinutes

def knownDocument : HttpAnswer :=
  .response 200 (some (.obj [("issuer", .str "https://lms"),
    ("authorization_endpoint", .str "https://lms/auth"), ("jwks_uri", .str "https://lms/jwks")]))

def knownDatabase : Database :=
  { Database.empty with policyConfigs := .single (PolicyConfig.default 1) }

/-- A login, the launch it leads to, and the same token once more. -/
def flowSteps : List FlowStep :=
  [.discovery (.fetch "https://lms"), .discovery (.answer 0 knownDocument),
    .login ⟨"https://lms", "user", "https://tool/launch", "hint", none⟩ 0 "state" "nonce" 0,
    .launch "token", .launch "token", .peek 0, .peek 1, .discovered 0 1, .discovered 1 1,
    .jwks (1, .answer 0 (JwksCache.document [.obj JwksCache.platformKey])), .jwks (2, .resume 0),
    .jwks (2, .lookUp 0), .jwks (3, .answer 1 (JwksCache.document [.obj JwksCache.platformKey])),
    .jwks (3, .resume 1), .jwks (3, .lookUp 1), .verify 1 3000000, .verify 0 3000000,
    .consume 1 4, .consume 0 4, .persist 1 ⟨7, 8, 9⟩ 5000000]

theorem flowSteps_fresh : Run.EachStep (step knownSettings) Fresh
    (start 0 knownDatabase : LaunchFlow (InMemoryLaunchStateStore 600) Dict) flowSteps := by
  decide +kernel

theorem flowSteps_refines :
    (∃ coarse : List LaunchStep,
      Run.EachStep (LaunchSystem.step knownSettings.lti) LaunchSystem.Fresh
          (LaunchSystem.start : LaunchSystem (InMemoryLaunchStateStore 600)) coarse ∧
        Run.final (LaunchSystem.step knownSettings.lti)
            (LaunchSystem.start : LaunchSystem (InMemoryLaunchStateStore 600)) coarse =
          abs (Run.final (step knownSettings) (start 0 knownDatabase) flowSteps)) ∧
      Run.Always (step knownSettings) (fun w => w.abs.Bound)
        (start 0 knownDatabase : LaunchFlow (InMemoryLaunchStateStore 600) Dict) flowSteps :=
  flow_refines_launch_system knownSettings 0 knownDatabase flowSteps flowSteps_fresh

end LaunchFlow

end Lti
end ProctorEngine
