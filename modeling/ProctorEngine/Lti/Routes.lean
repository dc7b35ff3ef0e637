import ProctorEngine.Lti.State
import ProctorEngine.Models

/-!
# The launch flow

`lti_login` registers a fresh state for the platform that asks for it. `lti_launch` runs in pieces,
with other requests between any two of them: it reads the token without verifying it and **peeks**
at the state's issuer, then fetches keys and verifies the token for the issuer the token names, then
**consumes** the state, and never looks at the issuer the consumption returns. A state the peek does
not find passes the check.

The check holds all the same, and the reason is freshness: what the peek did not find cannot come
back, because nobody registers a state that a token already carries.

So the peek is stable, although it is repeated nowhere: of the states that a token carries, the
store only loses entries from the moment the token has arrived. Whatever is live under the state
when it is consumed was live at the peek, and was checked there. `Sound.checked` is that invariant,
and it survives the expiry and the consumption of entries because it is about what is live, not
about what was.

That no two launches consume the same login is the store's part: `consume` takes the entry away in
the same step, under either store, and a state is registered once.

The store is any `LaunchStateStore`; its rules (`Shrinks`, `live`) are those of the class, and the
theorem is instantiated at both stores.
-/

set_option autoImplicit false

namespace ProctorEngine
namespace Lti

open OneShot

/-! ## 1. The requests

The pieces of a callback between its awaits, each a function of the store and the callback. The
parts that need keys and claims are answers here; the composition with discovery, key sets and
verification is `LaunchFlow`. -/

structure LtiSettings where
  launchUrl : String
  toolClientId : String
deriving DecidableEq, Repr

/-- The codes of `_LAUNCH_ERROR_HTTP`, and the 500 of an exception the handler does not map. -/
inductive LaunchError where
  | signatureInvalid | claimsInvalid | policyNotFound | stateUnknown | stateExpired
  | nonceMismatch | audienceInvalid | issuerInvalid | discoveryError | serverError
deriving DecidableEq, Repr

structure LoginRequest where
  iss : String
  loginHint : String
  targetLinkUri : String
  ltiMessageHint : String
  clientId : Option String
deriving DecidableEq, Repr

/-- The query string of the redirect, as far as it varies. -/
structure AuthorizationRequest where
  authorizationEndpoint : String
  clientId : String
  redirectUri : String
  loginHint : String
  state : String
  nonce : String
  ltiMessageHint : String
deriving DecidableEq, Repr

/-- `lti_login`, with what discovery answers and the generated values. The launch URL is the one
    this tool is registered under, or the login is refused. -/
def ltiLogin (settings : LtiSettings) (request : LoginRequest)
    (authorizationEndpoint : Option String) (state nonce : String) :
    Except LaunchError (Registration × AuthorizationRequest) :=
  if request.targetLinkUri ≠ settings.launchUrl then .error .claimsInvalid
  else
    match authorizationEndpoint with
    | none => .error .discoveryError
    | some endpoint =>
      .ok (⟨state, nonce, settings.launchUrl, request.iss⟩,
        { authorizationEndpoint := endpoint
          -- `client_id or tool_client_id`: an empty one is none
          clientId := (request.clientId.filter (· ≠ "")).getD settings.toolClientId
          redirectUri := settings.launchUrl
          loginHint := request.loginHint
          state := state
          nonce := nonce
          ltiMessageHint := request.ltiMessageHint })

/-- An `id_token` as it decodes without verification. -/
structure IdToken where
  header : Option Dict
  payload : Option Dict
deriving DecidableEq

/-- `isinstance(x, str) and x`. -/
def text? : Option Json → Option String
  | some (.str s) => if s = "" then none else some s
  | _ => none

theorem text?_ne_empty {j : Option Json} : text? j ≠ some "" := by
  intro h
  unfold text? at h
  split at h
  · split at h
    · exact absurd h (by simp)
    · rename_i hne
      exact hne (Option.some.inj h)
  · exact absurd h (by simp)

/-- Where a launch callback is between its awaits. -/
inductive LaunchPc where
  | peeking
  | verifying
  | consuming
  | persisting
  | redirected
  | failed (e : LaunchError)
deriving DecidableEq, Repr

structure Callback where
  issuer : String
  /-- The token's `state`, if it is a non-empty string. -/
  stateValue : Option String
  named : stateValue ≠ some ""
  /-- The token's `nonce`, if it is a non-empty string, as the claim model requires. -/
  nonce : Option String
  pc : LaunchPc
deriving DecidableEq, Repr

/-- `lti_launch` up to the peek. What is taken from the unverified payload here is what the later
    steps go by: the issuer, the state and the nonce. -/
def Callback.begin (token : IdToken) : Except LaunchError Callback :=
  match token.header with
  | none => .error .claimsInvalid
  | some header =>
    match text? (Json.get? header "kid"), token.payload with
    | none, _ | _, none => .error .claimsInvalid
    | some _, some payload =>
      match text? (Json.get? payload "iss") with
      | none => .error .claimsInvalid
      | some issuer =>
        .ok
          { issuer := issuer
            stateValue := text? (Json.get? payload "state")
            named := text?_ne_empty
            nonce := text? (Json.get? payload "nonce")
            pc := .peeking }

section
variable {σ : Type} {ttl : Nat} [LaunchStateStore σ ttl]

open LaunchStateStore

/-- Step 2a. -/
def Callback.peek (s : σ) (cb : Callback) : σ × Callback :=
  if cb.pc = .peeking then
    match cb.stateValue with
    | none => (s, { cb with pc := .verifying })
    | some state =>
      let (s', registeredIssuer) := LaunchStateStore.peek s state
      if registeredIssuer.all (· = cb.issuer) then (s', { cb with pc := .verifying })
      else (s', { cb with pc := .failed .issuerInvalid })
  else (s, cb)

/-- Steps 3 to 6, with what discovery, the key set, the signature, the claim model and the role
    table say together. -/
def Callback.verify (cb : Callback) (answer : Except LaunchError Unit) : Callback :=
  if cb.pc = .verifying then
    match answer, cb.nonce with
    | .error e, _ => { cb with pc := .failed e }
    | .ok (), none => { cb with pc := .failed .claimsInvalid }
    | .ok (), some _ => { cb with pc := .consuming }
  else cb

/-- Step 7; the issuer of the consumed entry is discarded. The entry is asked for by state and
    nonce, and only a call that gets it goes on to persist. -/
def Callback.consume (s : σ) (now : ℚ) (cb : Callback) : σ × Callback :=
  if cb.pc = .consuming then
    match cb.stateValue, cb.nonce with
    | some state, some nonce =>
      let (s', result) := LaunchStateStore.consume s now state nonce
      match result with
      | .ok _ => (s', { cb with pc := .persisting })
      | .error .missing => (s', { cb with pc := .failed .stateUnknown })
      | .error .expired => (s', { cb with pc := .failed .stateExpired })
      | .error .nonceMismatch => (s', { cb with pc := .failed .nonceMismatch })
      | .error .notAscii => (s', { cb with pc := .failed .serverError })
    | _, _ => (s, { cb with pc := .failed .claimsInvalid })
  else (s, cb)

/-- Step 8, with what `process_launch` and its commit say. -/
def Callback.persist (cb : Callback) (answer : Except LaunchError Unit) : Callback :=
  if cb.pc = .persisting then
    match answer with
    | .error e => { cb with pc := .failed e }
    | .ok () => { cb with pc := .redirected }
  else cb

/-! ## 2. The system

Logins and callbacks over one store, with the time at which a step happens where the store looks at
it. The logins are the log of the run. -/

/-- A login initiation that registered: the platform, and what was generated for it. -/
structure Login where
  issuer : String
  state : String
  nonce : String
deriving DecidableEq, Repr

structure LaunchSystem (σ : Type) where
  store : σ
  logins : List Login
  callbacks : List Callback

inductive LaunchStep where
  | login (request : LoginRequest) (authorizationEndpoint : Option String) (state nonce : String)
      (now : ℚ)
  | launch (token : IdToken)
  | peek (i : Nat)
  | verify (i : Nat) (answer : Except LaunchError Unit)
  | consume (i : Nat) (now : ℚ)
  | persist (i : Nat) (answer : Except LaunchError Unit)
  | purgeExpired
  | elapse (dt : ℚ≥0)

namespace LaunchSystem

def start : LaunchSystem σ := ⟨LaunchStateStore.empty, [], []⟩

/-- One callback moves, and the store with it. -/
def move (w : LaunchSystem σ) (i : Nat) (f : σ → Callback → σ × Callback) : LaunchSystem σ :=
  match w.callbacks[i]? with
  | none => w
  | some cb =>
    { w with store := (f w.store cb).1, callbacks := w.callbacks.set i (f w.store cb).2 }

/-- One piece of a login or a launch, between two of its waits. A piece that is not the next of its
    launch changes nothing. -/
def step (settings : LtiSettings) (w : LaunchSystem σ) : LaunchStep → LaunchSystem σ
  | .login request endpoint state nonce now =>
    match ltiLogin settings request endpoint state nonce with
    | .error _ => w
    | .ok (r, _) =>
      -- an empty token would make `register` raise
      if r.Valid then
        { w with
          store := LaunchStateStore.register w.store now r
          logins := w.logins ++ [⟨r.ltiIssuer, r.state, r.nonce⟩] }
      else w
  | .launch token =>
    match Callback.begin token with
    | .error _ => w
    | .ok cb => { w with callbacks := w.callbacks ++ [cb] }
  | .peek i => w.move i Callback.peek
  | .verify i answer => w.move i fun s cb => (s, cb.verify answer)
  | .consume i now => w.move i fun s cb => cb.consume s now
  | .persist i answer => w.move i fun s cb => (s, cb.persist answer)
  | .purgeExpired => { w with store := (LaunchStateStore.purgeExpired w.store).1 }
  | .elapse dt => { w with store := LaunchStateStore.elapse w.store dt }

/-- A generated state was not generated before and is in no token that has arrived. -/
def Fresh (w : LaunchSystem σ) : LaunchStep → Prop
  | .login _ _ state _ _ =>
    (∀ login ∈ w.logins, login.state ≠ state) ∧ ∀ cb ∈ w.callbacks, cb.stateValue ≠ some state
  | _ => True

instance {w : LaunchSystem σ} : DecidablePred w.Fresh
  | .login _ _ state _ _ => inferInstanceAs (Decidable ((∀ login ∈ w.logins, login.state ≠ state) ∧
      ∀ cb ∈ w.callbacks, cb.stateValue ≠ some state))
  | .launch _ | .peek _ | .verify _ _ | .consume _ _ | .persist _ _ | .purgeExpired | .elapse _ =>
    isTrue trivial

/-- A callback that succeeds has consumed a registration of the platform its token was verified
    for, with its token's nonce, and no other callback succeeds with that registration. -/
def Bound (w : LaunchSystem σ) : Prop :=
  ∀ (i : Nat) (cb : Callback), w.callbacks[i]? = some cb → cb.pc = .redirected →
    ∃ login ∈ w.logins, cb.stateValue = some login.state ∧ login.issuer = cb.issuer ∧
      cb.nonce = some login.nonce ∧
        ∀ (j : Nat) (other : Callback), j ≠ i → w.callbacks[j]? = some other →
          other.pc = .redirected → other.stateValue ≠ some login.state

/-! ## 3. The invariant

For every live entry there is its login, past the peek the live entry is the token's platform's, and
past the consumption the entry is gone. -/

end LaunchSystem

/-- Past the peek, and not failed. -/
def LaunchPc.Checked : LaunchPc → Prop
  | .verifying | .consuming | .persisting | .redirected => True
  | .peeking | .failed _ => False

/-- Past the consumption, and not failed. -/
def LaunchPc.Consumed : LaunchPc → Prop
  | .persisting | .redirected => True
  | .peeking | .verifying | .consuming | .failed _ => False

namespace LaunchSystem

/-- What the peek established: whatever is live under the token's state is the token's
    platform's. -/
def Checks (look : String → Option Entry) (cb : Callback) : Prop :=
  cb.pc.Checked → ∀ state ∈ cb.stateValue, ∀ e ∈ look state, e.ltiIssuer = cb.issuer

/-- The registration a callback consumed. -/
structure Took (look : String → Option Entry) (cb : Callback) (login : Login) : Prop where
  state : cb.stateValue = some login.state
  issuer : login.issuer = cb.issuer
  nonce : cb.nonce = some login.nonce
  gone : look login.state = none

structure Sound (w : LaunchSystem σ) : Prop where
  registered : ∀ state e, live w.store state = some e →
    ∃ login ∈ w.logins, login.state = state ∧ login.issuer = e.ltiIssuer ∧ login.nonce = e.nonce
  checked : ∀ cb ∈ w.callbacks, Checks (live w.store) cb
  took : ∀ (i : Nat) (cb : Callback), w.callbacks[i]? = some cb → cb.pc.Consumed →
    ∃ login ∈ w.logins, Took (live w.store) cb login ∧
      ∀ (j : Nat) (other : Callback), j ≠ i → w.callbacks[j]? = some other →
        other.pc.Consumed → other.stateValue ≠ some login.state

section
variable {settings : LtiSettings} {w : LaunchSystem σ} {look look' : String → Option Entry}
  {cb : Callback} {login : Login}

theorem Checks.shrinks (h : Checks look cb) (hs : Shrinks look look') : Checks look' cb :=
  fun hpc state hstate e he => h hpc state hstate e (hs.of_some he)

theorem Took.shrinks (h : Took look cb login) (hs : Shrinks look look') : Took look' cb login :=
  ⟨h.state, h.issuer, h.nonce, hs.none h.gone⟩

/-- A store that only loses entries keeps the invariant. -/
theorem Sound.shrinks {store : σ} (h : Sound w) (hs : Shrinks (live w.store) (live store)) :
    Sound { w with store } := by
  refine ⟨fun state e he => h.registered state e (hs.of_some he),
    fun cb hcb => (h.checked cb hcb).shrinks hs, ?_⟩
  intro i cb hi hpc
  obtain ⟨login, hlogin, htook, hothers⟩ := h.took i cb hi hpc
  exact ⟨login, hlogin, htook.shrinks hs, hothers⟩

/-- A callback that moves on without consuming anything. -/
theorem Sound.move {store : σ} {i : Nat} {cb' : Callback} (h : Sound w)
    (hi : w.callbacks[i]? = some cb) (hs : Shrinks (live w.store) (live store))
    (hchecks : Checks (live store) cb') (hpc : cb'.pc.Consumed → cb.pc.Consumed)
    (hstate : cb'.stateValue = cb.stateValue) (hissuer : cb'.issuer = cb.issuer)
    (hnonce : cb'.nonce = cb.nonce) :
    Sound { w with store, callbacks := w.callbacks.set i cb' } := by
  have h' := h.shrinks hs
  refine ⟨h'.registered, ?_, ?_⟩
  · intro x hx
    rcases List.mem_or_eq_of_mem_set hx with hx | rfl
    · exact h'.checked x hx
    · exact hchecks
  · intro j x hj hconsumed
    -- the others are judged as before, whichever callback moved
    have hbefore : ∀ (k : Nat) (y : Callback), (w.callbacks.set i cb')[k]? = some y →
        y.pc.Consumed → ∃ y', w.callbacks[k]? = some y' ∧ y'.pc.Consumed ∧
          y'.stateValue = y.stateValue ∧ y'.issuer = y.issuer ∧ y'.nonce = y.nonce := by
      intro k y hk hy
      rcases getElem?_set_cases hk with ⟨rfl, rfl⟩ | ⟨-, hk⟩
      · exact ⟨cb, hi, hpc hy, hstate.symm, hissuer.symm, hnonce.symm⟩
      · exact ⟨y, hk, hy, rfl, rfl, rfl⟩
    obtain ⟨x', hj', hx', hxstate, hxissuer, hxnonce⟩ := hbefore j x hj hconsumed
    obtain ⟨login, hlogin, htook, hothers⟩ := h'.took j x' hj' hx'
    refine ⟨login, hlogin, ⟨hxstate ▸ htook.state, htook.issuer.trans hxissuer,
      hxnonce ▸ htook.nonce, htook.gone⟩, ?_⟩
    intro k y hne hk hy
    obtain ⟨y', hk', hy', hystate, -, -⟩ := hbefore k y hk hy
    exact hystate ▸ hothers k y' hne hk' hy'

/-- Consuming what the peek has checked. -/
theorem Sound.consumed {store : σ} {i : Nat} {state nonce : String} {e : Entry} (h : Sound w)
    (hi : w.callbacks[i]? = some cb) (hpc : cb.pc = .consuming)
    (hstate : cb.stateValue = some state) (hnonce : cb.nonce = some nonce)
    (hlive : live w.store state = some e) (he : e.nonce = nonce)
    (hgone : live store state = none)
    (hrest : ShrinksBut state (live w.store) (live store)) :
    Sound { w with store, callbacks := w.callbacks.set i { cb with pc := .persisting } } := by
  have hs : Shrinks (live w.store) (live store) := by
    intro k
    by_cases hk : k = state
    · exact .inr (hk ▸ hgone)
    · exact hrest k hk
  have h' := h.shrinks hs
  have hcb := h.checked cb (List.mem_of_getElem? hi)
  have hissuer : e.ltiIssuer = cb.issuer :=
    hcb (by simp [hpc, LaunchPc.Checked]) state hstate e hlive
  obtain ⟨login, hlogin, hkey, hloginIssuer, hloginNonce⟩ := h.registered state e hlive
  -- whoever has consumed before has consumed something else
  have hothers : ∀ (j : Nat) (other : Callback), w.callbacks[j]? = some other →
      other.pc.Consumed → other.stateValue ≠ some state := by
    intro j other hj hother heq
    obtain ⟨login', -, htook, -⟩ := h.took j other hj hother
    have hnone := htook.gone
    rw [Option.some.inj (htook.state.symm.trans heq), hlive] at hnone
    exact absurd hnone (by simp)
  refine ⟨h'.registered, ?_, ?_⟩
  · intro x hx
    rcases List.mem_or_eq_of_mem_set hx with hx | rfl
    · exact h'.checked x hx
    · exact fun _ state' hstate' e' he' =>
        hcb (by simp [hpc, LaunchPc.Checked]) state' hstate' e' (hs.of_some he')
  · intro j x hj hconsumed
    -- the callback that consumed now, and one that had before
    rcases getElem?_set_cases hj with ⟨rfl, rfl⟩ | ⟨-, hold⟩
    · refine ⟨login, hlogin, ⟨by rw [hkey]; exact hstate, hloginIssuer.trans hissuer,
        by rw [hloginNonce, he]; exact hnonce, by rw [hkey]; exact hgone⟩, ?_⟩
      intro k other hk hother hotherPc
      rcases getElem?_set_cases hother with ⟨hself, -⟩ | ⟨-, hother⟩
      · exact absurd hself hk
      · rw [hkey]
        exact hothers k other hother hotherPc
    · obtain ⟨login', hlogin', htook, hrest'⟩ := h'.took j x hold hconsumed
      refine ⟨login', hlogin', htook, ?_⟩
      intro k other hk hother hotherPc
      rcases getElem?_set_cases hother with ⟨rfl, rfl⟩ | ⟨-, hother⟩
      · intro heq
        exact hothers j x hold hconsumed (htook.state.trans (heq.symm.trans hstate))
      · exact hrest' k other hk hother hotherPc

/-! ## 4. What a step preserves

One lemma for each way a step can change the store and the callbacks: it registers, only loses
entries, or consumes. -/

theorem sound_start : Sound (start : LaunchSystem σ) :=
  ⟨fun state e he => absurd ((live_empty state).symm.trans he) (by simp),
    fun cb hcb => absurd hcb (by simp [start]),
    fun i cb hi _ => absurd hi (by simp [start])⟩

/-- A state nobody has seen is filed for the platform that asks. -/
theorem Sound.registers {now : ℚ} {r : Registration} (h : Sound w) (hvalid : r.Valid)
    (hlogins : ∀ login ∈ w.logins, login.state ≠ r.state)
    (htokens : ∀ cb ∈ w.callbacks, cb.stateValue ≠ some r.state) :
    Sound { w with store := LaunchStateStore.register w.store now r,
                   logins := w.logins ++ [⟨r.ltiIssuer, r.state, r.nonce⟩] } := by
  obtain ⟨hnew, hrest⟩ := register_live w.store now r hvalid
  refine ⟨?_, ?_, ?_⟩
  · intro state e he
    by_cases hkey : state = r.state
    · subst hkey
      obtain rfl := Option.some.inj (hnew.symm.trans he)
      exact ⟨_, List.mem_append_right _ List.mem_cons_self, rfl, rfl, rfl⟩
    · have hold : live w.store state = some e :=
        (hrest state hkey).elim (fun hsame => hsame.symm.trans he)
          fun hnone => absurd (hnone.symm.trans he) (by simp)
      obtain ⟨login, hlogin, hlive⟩ := h.registered state e hold
      exact ⟨login, List.mem_append_left _ hlogin, hlive⟩
  · intro cb hcb hpc state hstate e he
    -- the state is in no token, so a token's state is another
    have hkey : state ≠ r.state := fun heq => htokens cb hcb (heq ▸ hstate)
    rcases hrest state hkey with hsame | hnone
    · exact h.checked cb hcb hpc state hstate e (hsame.symm.trans he)
    · exact absurd (hnone.symm.trans he) (by simp)
  · intro i cb hi hpc
    obtain ⟨login, hlogin, htook, hothers⟩ := h.took i cb hi hpc
    refine ⟨login, List.mem_append_left _ hlogin, ⟨htook.state, htook.issuer, htook.nonce, ?_⟩,
      hothers⟩
    rcases hrest login.state (hlogins login hlogin) with hsame | hnone
    · exact hsame.trans htook.gone
    · exact hnone

theorem ltiLogin_state {request : LoginRequest} {endpoint : Option String} {state nonce : String}
    {r : Registration} {redirect : AuthorizationRequest}
    (h : ltiLogin settings request endpoint state nonce = .ok (r, redirect)) :
    r.state = state := by
  unfold ltiLogin at h
  repeat' split at h
  all_goals cases h
  rfl

theorem Callback.begin_pc {token : IdToken} (h : Callback.begin token = .ok cb) :
    cb.pc = .peeking := by
  unfold Callback.begin at h
  repeat' split at h
  all_goals cases h
  rfl

theorem Sound.launches (h : Sound w) (hpc : cb.pc = .peeking) :
    Sound { w with callbacks := w.callbacks ++ [cb] } := by
  have hconsumed : ¬ cb.pc.Consumed := by simp [hpc, LaunchPc.Consumed]
  -- a consumed callback was there before
  have hbefore : ∀ (k : Nat) (x : Callback), (w.callbacks ++ [cb])[k]? = some x →
      x.pc.Consumed → w.callbacks[k]? = some x := by
    intro k x hk hx
    rw [List.getElem?_append] at hk
    split at hk
    · exact hk
    · obtain rfl := List.mem_singleton.mp (List.mem_of_getElem? hk)
      exact absurd hx hconsumed
  refine ⟨h.registered, ?_, ?_⟩
  · intro x hx
    rcases List.mem_append.mp hx with hx | hx
    · exact h.checked x hx
    · obtain rfl := List.mem_singleton.mp hx
      exact fun hchecked => absurd hchecked (by simp [hpc, LaunchPc.Checked])
  · intro i x hi hx
    obtain ⟨login, hlogin, htook, hothers⟩ := h.took i x (hbefore i x hi hx) hx
    exact ⟨login, hlogin, htook, fun j other hne hj hother =>
      hothers j other hne (hbefore j other hj hother) hother⟩

/-- A callback whose place is all that changes. -/
theorem Sound.advances {i : Nat} {pc : LaunchPc} (h : Sound w) (hi : w.callbacks[i]? = some cb)
    (hchecked : pc.Checked → cb.pc.Checked) (hconsumed : pc.Consumed → cb.pc.Consumed) :
    Sound { w with callbacks := w.callbacks.set i { cb with pc } } :=
  h.move hi .refl (fun hpc => h.checked cb (List.mem_of_getElem? hi) (hchecked hpc)) hconsumed
    rfl rfl rfl

/-- A callback that fails, whatever went from the store. -/
theorem Sound.fails {store : σ} {i : Nat} {e : LaunchError} (h : Sound w)
    (hi : w.callbacks[i]? = some cb) (hs : Shrinks (live w.store) (live store)) :
    Sound { w with store, callbacks := w.callbacks.set i { cb with pc := .failed e } } :=
  h.move hi hs (fun hfailed => absurd hfailed (by simp [LaunchPc.Checked]))
    (by simp [LaunchPc.Consumed]) rfl rfl rfl

theorem Sound.peeks {i : Nat} (h : Sound w) (hi : w.callbacks[i]? = some cb) :
    Sound { w with store := (cb.peek w.store).1,
                   callbacks := w.callbacks.set i (cb.peek w.store).2 } := by
  unfold Callback.peek
  split
  · split
    · rename_i hnone
      exact h.move hi .refl (fun _ state hsome => absurd (hnone.symm.trans hsome) (by simp))
        (by simp [LaunchPc.Consumed]) rfl rfl rfl
    · rename_i state hvalue
      have hne : state ≠ "" := fun heq => cb.named (heq ▸ hvalue)
      have hshrinks := peek_shrinks w.store state
      have hlive := peek_live w.store state hne
      dsimp only
      split
      · -- nothing is live under the state, or something of the token's platform
        rename_i hall
        refine h.move hi hshrinks ?_ (by simp [LaunchPc.Consumed])
          rfl rfl rfl
        intro _ state' hsome e he
        obtain rfl := Option.some.inj (hvalue.symm.trans hsome)
        rw [hlive, he] at hall
        simpa using hall
      · exact h.fails hi hshrinks
  · exact h.advances hi id id

theorem Sound.verifies {i : Nat} {answer : Except LaunchError Unit} (h : Sound w)
    (hi : w.callbacks[i]? = some cb) :
    Sound { w with callbacks := w.callbacks.set i (cb.verify answer) } := by
  unfold Callback.verify
  split
  · rename_i hpc
    split
    · exact h.fails hi .refl
    · exact h.fails hi .refl
    · exact h.advances hi (by simp [hpc, LaunchPc.Checked]) (by simp [LaunchPc.Consumed])
  · exact h.advances hi id id

theorem Sound.consumes {i : Nat} {now : ℚ} (h : Sound w) (hi : w.callbacks[i]? = some cb) :
    Sound { w with store := (cb.consume w.store now).1,
                   callbacks := w.callbacks.set i (cb.consume w.store now).2 } := by
  unfold Callback.consume
  split
  · rename_i hpc
    split
    · rename_i state nonce hstate hnonce
      cases hresult : (LaunchStateStore.consume w.store now state nonce).2 with
      | ok c =>
        obtain ⟨⟨e, hlive, he, -, -⟩, hgone, hrest⟩ :=
          consume_ok w.store now state nonce c hresult
        dsimp only
        rw [hresult]
        exact h.consumed hi hpc hstate hnonce hlive he hgone hrest
      | error e =>
        have hshrinks := consume_error w.store now state nonce e hresult
        dsimp only
        rw [hresult]
        cases e <;> exact h.fails hi hshrinks
    · exact h.fails hi .refl
  · exact h.advances hi id id

theorem Sound.persists {i : Nat} {answer : Except LaunchError Unit} (h : Sound w)
    (hi : w.callbacks[i]? = some cb) :
    Sound { w with callbacks := w.callbacks.set i (cb.persist answer) } := by
  unfold Callback.persist
  split
  · rename_i hpc
    split
    · exact h.fails hi .refl
    · exact h.advances hi (by simp [hpc, LaunchPc.Checked]) (by simp [hpc, LaunchPc.Consumed])
  · exact h.advances hi id id

theorem Sound.moves {i : Nat} {f : σ → Callback → σ × Callback} (h : Sound w)
    (hf : ∀ cb, w.callbacks[i]? = some cb →
      Sound { w with store := (f w.store cb).1,
                     callbacks := w.callbacks.set i (f w.store cb).2 }) :
    Sound (w.move i f) := by
  unfold LaunchSystem.move
  cases hi : w.callbacks[i]? with
  | none => exact h
  | some cb => exact hf cb hi

/-- **A step whose generated state is fresh keeps the invariant.** -/
theorem Sound.step {l : LaunchStep} (h : Sound w) (hfresh : w.Fresh l) :
    Sound (w.step settings l) := by
  cases l with
  | login request endpoint state nonce now =>
    obtain ⟨hlogins, htokens⟩ := hfresh
    simp only [LaunchSystem.step]
    cases hlogin : ltiLogin settings request endpoint state nonce with
    | error e => exact h
    | ok answer =>
      obtain ⟨r, redirect⟩ := answer
      dsimp only
      split
      · rename_i hvalid
        have hstate : r.state = state := ltiLogin_state hlogin
        exact h.registers hvalid (hstate ▸ hlogins) (hstate ▸ htokens)
      · exact h
  | launch token =>
    simp only [LaunchSystem.step]
    cases hbegin : Callback.begin token with
    | error e => exact h
    | ok cb => exact h.launches (Callback.begin_pc hbegin)
  -- The steps of one callback differ in what they do to the store, and share `moves`.
  | peek i => exact h.moves fun cb hi => h.peeks hi
  | verify i answer =>
    exact h.moves (f := fun s cb => (s, cb.verify answer)) fun cb hi => h.verifies hi
  | consume i now => exact h.moves (f := fun s cb => cb.consume s now) fun cb hi => h.consumes hi
  | persist i answer =>
    exact h.moves (f := fun s cb => (s, cb.persist answer)) fun cb hi => h.persists hi
  | purgeExpired => exact h.shrinks (LaunchStateStore.purge_shrinks w.store)
  | elapse dt => exact h.shrinks (elapse_shrinks w.store dt)

theorem Sound.bound (h : Sound w) : Bound w := by
  intro i cb hi hpc
  obtain ⟨login, hlogin, htook, hothers⟩ := h.took i cb hi (by simp [hpc, LaunchPc.Consumed])
  exact ⟨login, hlogin, htook.state, htook.issuer, htook.nonce, fun j other hne hj hother =>
    hothers j other hne hj (by simp [hother, LaunchPc.Consumed])⟩

end

end LaunchSystem

/-! ## 5. Every interleaving

At both stores. -/

theorem bound_run {settings : LtiSettings} {steps : List LaunchStep}
    (hfresh : Run.EachStep (LaunchSystem.step settings) LaunchSystem.Fresh
      (LaunchSystem.start : LaunchSystem σ) steps) :
    Run.Always (LaunchSystem.step settings) LaunchSystem.Bound
      (LaunchSystem.start : LaunchSystem σ) steps := by
  have hsound : Run.Always (LaunchSystem.step settings) LaunchSystem.Sound
      (LaunchSystem.start : LaunchSystem σ) steps :=
    Run.always_of_eachStep (fun w l hw hl => hw.step hl) LaunchSystem.sound_start hfresh
  exact hsound.mono fun w hw => hw.bound

end

/-- **A launch is bound to the platform that started it**, over either store, however logins and the
    pieces of launches interleave. A callback that consumes took an entry of the issuer whose key
    verified its token, with the nonce of that token, and it is the only one that took it. -/
theorem launch_bound (ttl : Nat) (settings : LtiSettings) (steps : List LaunchStep) :
    (Run.EachStep (LaunchSystem.step settings) LaunchSystem.Fresh
        (LaunchSystem.start : LaunchSystem (InMemoryLaunchStateStore ttl)) steps →
      Run.Always (LaunchSystem.step settings) LaunchSystem.Bound
        (LaunchSystem.start : LaunchSystem (InMemoryLaunchStateStore ttl)) steps) ∧
    (Run.EachStep (LaunchSystem.step settings) LaunchSystem.Fresh
        (LaunchSystem.start : LaunchSystem (RedisLaunchStateStore ttl)) steps →
      Run.Always (LaunchSystem.step settings) LaunchSystem.Bound
        (LaunchSystem.start : LaunchSystem (RedisLaunchStateStore ttl)) steps) :=
  ⟨bound_run, bound_run⟩

/-- The token of a platform, for a state. -/
def tokenOf (issuer state nonce : String) : IdToken where
  header := some [("kid", .str "key")]
  payload := some [("iss", .str issuer), ("state", .str state), ("nonce", .str nonce)]

/-- A launch, its replay overtaking it, and another platform's token for the same state. -/
def launchSteps : List LaunchStep :=
  [.login ⟨"https://lms", "user", "https://tool/launch", "hint", none⟩ (some "https://lms/auth")
      "state" "nonce" 0,
    .launch (tokenOf "https://lms" "state" "nonce"),
    .launch (tokenOf "https://other" "state" "nonce"),
    .launch (tokenOf "https://lms" "state" "nonce"),
    .peek 0, .peek 1, .peek 2, .verify 0 (.ok ()), .verify 2 (.ok ()),
    .consume 2 5, .consume 0 5, .persist 2 (.ok ())]

theorem launchSteps_bound :
    (Run.final (LaunchSystem.step ⟨"https://tool/launch", "tool"⟩)
        (LaunchSystem.start : LaunchSystem (InMemoryLaunchStateStore 600))
        launchSteps).callbacks.map (·.pc) =
      [.failed .stateUnknown, .failed .issuerInvalid, .redirected] ∧
    Run.Always (LaunchSystem.step ⟨"https://tool/launch", "tool"⟩) LaunchSystem.Bound
      (LaunchSystem.start : LaunchSystem (InMemoryLaunchStateStore 600)) launchSteps ∧
    Run.Always (LaunchSystem.step ⟨"https://tool/launch", "tool"⟩) LaunchSystem.Bound
      (LaunchSystem.start : LaunchSystem (RedisLaunchStateStore 600)) launchSteps :=
  ⟨by decide +kernel,
    (launch_bound 600 ⟨"https://tool/launch", "tool"⟩ launchSteps).1 (by decide +kernel),
    (launch_bound 600 ⟨"https://tool/launch", "tool"⟩ launchSteps).2 (by decide +kernel)⟩

end Lti
end ProctorEngine
