import Mathlib.Algebra.Order.Ring.Rat
import Mathlib.Tactic.Linarith
import ProctorEngine.Lib.Run
import ProctorEngine.Lib.Stamped
import ProctorEngine.Models

/-!
# The cache of key sets

`JwksCache` under any number of calls at once. A call to `get_key` answers at once from a fresh
entry; otherwise it fetches, stores what it parsed and looks again, and it does so twice before it
gives up. While it waits, other calls put their entries over its own and `invalidate` drops it, so
the entry a call finds need not be the one it stored: **it is never older than the call**, and that
is what makes the key fresh.

The time an entry carries is read after the document has been parsed, not when the platform sent it.
What the platform withdraws in between lives for one TTL more, counted from the later time.

A call is a record with a phase, and the calls of a cache are a list: `getKey` and `refresh` append,
and the events of a fetch name the call they are about. The cache itself is one function from URIs
to entries, overwritten by whoever stores last.

What is proved of a call rests on two facts about everything that may happen while it waits, which
are `Extends`: the clock and the record of what was fetched only grow, and whatever is put under a
URI is not older than the moment it is put there. From the second, an entry found after a refresh is
no older than the call that refreshed, although it may be another's.
-/

set_option autoImplicit false

namespace ProctorEngine.Lti

open Stamped

/-! ## 1. The documents

From the bytes of a document to `keys_by_kid`, with every way it can fail. `PyJWK` is a parameter;
`Lists` says, without the parser, that a document holds a key under a `kid`, and whatever the parser
reads from a document is listed there. -/

/-- `JwksError`, by the sentence it carries. -/
inductive JwksError where
  | fetchFailed (uri detail : String)
  | httpStatus (uri : String) (status : Int)
  | notJson (uri : String)
  | notObject (uri : String)
  | keysMissing (uri : String)
  | keyNotObject (uri : String)
  | malformedKey (uri kid detail : String)
  | unknownKid (uri kid : String)

/-- `str(exc)`, with `repr` what `!r` writes for a string. -/
def JwksError.message (repr : String → String) : JwksError → String
  | .fetchFailed uri detail => "failed to fetch JWKS at " ++ uri ++ ": " ++ detail
  | .httpStatus uri status => "JWKS at " ++ uri ++ " returned HTTP " ++ toString status
  | .notJson uri => "JWKS at " ++ uri ++ " is not valid JSON"
  | .notObject uri => "JWKS at " ++ uri ++ " is not a JSON object"
  | .keysMissing uri => "JWKS at " ++ uri ++ " is missing the 'keys' array"
  | .keyNotObject uri => "JWKS at " ++ uri ++ " contains a non-object key entry"
  | .malformedKey uri kid detail =>
    "JWKS at " ++ uri ++ " contains a malformed key with kid=" ++ repr kid ++ ": " ++ detail
  | .unknownKid uri kid => "JWKS at " ++ uri ++ " does not contain a key with kid=" ++ repr kid

/-- What a call raises. `other` is an exception the code does not catch. -/
inductive JwksFailure where
  | jwksError (e : JwksError)
  | assertionError
  | other (name : String)

/-- What `PyJWK(key_dict)` does. `malformed` is an `InvalidKeyError` or a `ValueError`. -/
inductive PyJwkResult (κ : Type*) where
  | key (k : κ)
  | malformed (detail : String)
  | raised (name : String)

/-- How `client.get` and `client.aclose` end. The body is what `response.json()` returns, if
    anything. -/
inductive HttpAnswer where
  | response (statusCode : Int) (body : Option Json)
  | httpError (detail : String)
  | raised (name : String)

structure JwksEntry (κ : Type*) where
  jwksUri : String
  keysByKid : String → Option κ
  fetchedAt : ℚ
  ttlSeconds : ℚ

def JwksEntry.isFresh {κ : Type*} (e : JwksEntry κ) (now : ℚ) : Bool :=
  now - e.fetchedAt < e.ttlSeconds

/-- `ttl_seconds`, as the constructor of `JwksCache` accepts it. -/
abbrev JwksTtl := { seconds : ℚ // 0 < seconds }

section
variable {κ : Type*} (pyJwk : Dict → PyJwkResult κ) (uri : String)

/-- The loop over `keys_raw`. An entry that is no object or makes no key raises and loses the
    document; one without a `kid` is passed over. Of two entries with one `kid` the later one stays.
    -/
def parseKeys : List Json → (String → Option κ) → Except JwksFailure (String → Option κ)
  | [], keysByKid => .ok keysByKid
  | .obj keyDict :: rest, keysByKid =>
    match Json.get? keyDict "kid" with
    | some (.str kid) =>
      if kid = "" then parseKeys rest keysByKid
      else
        match pyJwk keyDict with
        | .key key => parseKeys rest (Function.update keysByKid kid (some key))
        | .malformed detail => .error (.jwksError (.malformedKey uri kid detail))
        | .raised name => .error (.other name)
    | _ => parseKeys rest keysByKid
  | _ :: _, _ => .error (.jwksError (.keyNotObject uri))

def parsePayload : Json → Except JwksFailure (String → Option κ)
  | .obj payload =>
    match Json.get? payload "keys" with
    | some (.arr keysRaw) => parseKeys pyJwk uri keysRaw fun _ => none
    | _ => .error (.jwksError (.keysMissing uri))
  | _ => .error (.jwksError (.notObject uri))

/-- `_refresh` from the response to `keys_by_kid`, with the payload these were read from. -/
def readAnswer : HttpAnswer → Except JwksFailure (Json × (String → Option κ))
  | .httpError detail => .error (.jwksError (.fetchFailed uri detail))
  | .raised name => .error (.other name)
  | .response statusCode body =>
    if statusCode ≠ 200 then .error (.jwksError (.httpStatus uri statusCode))
    else
      match body with
      | none => .error (.jwksError (.notJson uri))
      | some payload => (parsePayload pyJwk uri payload).map (payload, ·)

end

/-- The document lists the key under the `kid`. -/
def Lists {κ : Type*} (pyJwk : Dict → PyJwkResult κ) (payload : Json) (kid : String) (key : κ) :
    Prop :=
  ∃ members keysRaw keyDict, payload = .obj members ∧
    Json.get? members "keys" = some (.arr keysRaw) ∧ .obj keyDict ∈ keysRaw ∧
    Json.get? keyDict "kid" = some (.str kid) ∧ pyJwk keyDict = .key key

section
variable {κ : Type*} {pyJwk : Dict → PyJwkResult κ} {uri kid : String} {key : κ}

/-- What the loop ends with under a `kid` was there before it or is one of the keys it saw. -/
theorem parseKeys_cases {keysRaw : List Json} {before after : String → Option κ}
    (h : parseKeys pyJwk uri keysRaw before = .ok after) (hkey : after kid = some key) :
    before kid = some key ∨
      ∃ keyDict, .obj keyDict ∈ keysRaw ∧ Json.get? keyDict "kid" = some (.str kid) ∧
        pyJwk keyDict = .key key := by
  fun_induction parseKeys with
  | case1 keysByKid =>
    cases h
    exact .inl hkey
  | case2 keyDict rest keysByKid hkid ih | case6 keyDict rest keysByKid hkid ih =>
    obtain hbefore | ⟨found, hmem, hfound⟩ := ih h
    · exact .inl hbefore
    · exact .inr ⟨found, List.mem_cons_of_mem _ hmem, hfound⟩
  -- a key that is read: later entries of the same `kid` put theirs over it
  | case3 keyDict rest keysByKid kid' hkid hne key' hpy ih =>
    obtain hbefore | ⟨found, hmem, hfound⟩ := ih h
    · by_cases hk : kid = kid'
      · subst hk
        rw [Function.update_self] at hbefore
        cases hbefore
        exact .inr ⟨keyDict, List.mem_cons_self, hkid, hpy⟩
      · rw [Function.update_of_ne hk] at hbefore
        exact .inl hbefore
    · exact .inr ⟨found, List.mem_cons_of_mem _ hmem, hfound⟩
  | case4 => cases h
  | case5 => cases h
  | case7 => cases h

theorem lists_of_parsePayload {payload : Json} {keys : String → Option κ}
    (h : parsePayload pyJwk uri payload = .ok keys) (hkey : keys kid = some key) :
    Lists pyJwk payload kid key := by
  cases payload with
  | obj members =>
    simp only [parsePayload] at h
    split at h
    case h_1 _ keysRaw hkeys =>
      obtain hnone | ⟨keyDict, hmem, hkid, hpy⟩ := parseKeys_cases h hkey
      · cases hnone
      · exact ⟨members, keysRaw, keyDict, rfl, hkeys, hmem, hkid, hpy⟩
    case h_2 => cases h
  | null | bool b | num n | str t | arr xs => cases h

/-- **A key that is read from an answer is in its document.** -/
theorem lists_of_readAnswer {answer : HttpAnswer} {payload : Json} {keys : String → Option κ}
    (h : readAnswer pyJwk uri answer = .ok (payload, keys)) (hkey : keys kid = some key) :
    Lists pyJwk payload kid key := by
  cases answer with
  | httpError detail => cases h
  | raised name => cases h
  | response statusCode body =>
    simp only [readAnswer] at h
    split at h
    case isTrue => cases h
    case isFalse =>
      cases body with
      | none => cases h
      | some payload' =>
        cases hparse : parsePayload pyJwk uri payload' with
        | error e =>
          simp only [hparse] at h
          cases h
        | ok keys' =>
          simp only [hparse] at h
          cases h
          exact lists_of_parsePayload hparse hkey

end

/-! ## 2. The calls

A fetch is three events, so that others can come between: the platform sends the answer, the call
goes on with it and stores, the call looks again. The clock is read at each of them. -/

inductive JwksRequest where
  | getKey (kid : String)
  | refresh
deriving DecidableEq

/-- Where a call stands. `again` is the second `_refresh` of `get_key`. -/
inductive JwksPhase (κ : Type*) where
  | fetching (again : Bool)
  | answered (again : Bool) (servedAt : ℚ) (answer : HttpAnswer)
  | relooking (again : Bool)
  | returned (key : κ) (returnedAt : ℚ)
  | refreshed (entry : JwksEntry κ)
  | raised (e : JwksFailure)

/-- A call that is or has been in flight, with the number of its `client.get`. -/
structure JwksCall (κ : Type*) where
  uri : String
  request : JwksRequest
  startedAt : ℚ
  fetches : Nat
  phase : JwksPhase κ

/-- What a refresh has stored, and the document it comes from. -/
structure FetchedJwks (κ : Type*) where
  payload : Json
  servedAt : ℚ
  entry : JwksEntry κ

/-- One `JwksCache`: the reading of `time.monotonic`, the entries, the calls in the order of
    their beginning and, for the record, what has been fetched. -/
structure JwksCache (κ : Type*) where
  now : ℚ
  cache : String → Option (JwksEntry κ)
  calls : List (JwksCall κ)
  fetched : List (FetchedJwks κ)

/-- `answer` is the platform's sending of an answer to a call, `resume` the call's going on with
    it, and `lookUp` its going on after it has stored its entry. On one event loop nothing comes
    between these last two; nothing below depends on that. -/
inductive JwksEvent where
  | getKey (uri kid : String)
  | refresh (uri : String)
  | invalidate (uri : String)
  | answer (call : Nat) (result : HttpAnswer)
  | resume (call : Nat)
  | lookUp (call : Nat)

namespace JwksCache

variable {κ : Type*}

def init (now : ℚ) : JwksCache κ := ⟨now, fun _ => none, [], []⟩

/-- The key under the `kid`, if there is an entry that has it. -/
def keyOf (s : JwksCache κ) (uri kid : String) : Option κ :=
  (s.cache uri).bind (·.keysByKid kid)

/-- The same, if the entry is fresh. -/
def freshKeyOf (s : JwksCache κ) (uri kid : String) : Option κ :=
  (s.cache uri).bind fun cached => if cached.isFresh s.now then cached.keysByKid kid else none

def begin (s : JwksCache κ) (call : JwksCall κ) : JwksCache κ :=
  { s with calls := s.calls ++ [call] }

def setCall (s : JwksCache κ) (n : Nat) (call : JwksCall κ) : JwksCache κ :=
  { s with calls := s.calls.set n call }

def getKey (s : JwksCache κ) (uri kid : String) : JwksCache κ :=
  match s.freshKeyOf uri kid with
  | some key => s.begin ⟨uri, .getKey kid, s.now, 0, .returned key s.now⟩
  | none => s.begin ⟨uri, .getKey kid, s.now, 1, .fetching false⟩

def refresh (s : JwksCache κ) (uri : String) : JwksCache κ :=
  s.begin ⟨uri, .refresh, s.now, 1, .fetching false⟩

def invalidate (s : JwksCache κ) (uri : String) : JwksCache κ :=
  { s with cache := Function.update s.cache uri none }

/-- The entry that `_refresh` makes of what it has parsed. -/
def newEntry (s : JwksCache κ) (ttl : JwksTtl) (uri : String) (keysByKid : String → Option κ) :
    JwksEntry κ :=
  ⟨uri, keysByKid, s.now, ttl⟩

/-- The entry is put into the cache. -/
def store (s : JwksCache κ) (n : Nat) (call : JwksCall κ) (again : Bool)
    (f : FetchedJwks κ) : JwksCache κ :=
  { s with
    cache := Function.update s.cache call.uri (some f.entry)
    calls := s.calls.set n { call with phase := .relooking again }
    fetched := f :: s.fetched }

/-- The rest of `_refresh`, once the answer is there. -/
def finishRefresh (pyJwk : Dict → PyJwkResult κ) (ttl : JwksTtl) (s : JwksCache κ) (n : Nat)
    (call : JwksCall κ) (again : Bool) (servedAt : ℚ) (answer : HttpAnswer) : JwksCache κ :=
  match readAnswer pyJwk call.uri answer with
  | .error e => s.setCall n { call with phase := .raised e }
  | .ok (payload, keysByKid) =>
    s.store n call again ⟨payload, servedAt, s.newEntry ttl call.uri keysByKid⟩

/-- The rest of a call, once its entry has been stored. A `kid` that is not in the entry is fetched
    for once more, and then is unknown. -/
def finishLookUp (s : JwksCache κ) (call : JwksCall κ) (again : Bool) : JwksCall κ :=
  match call.request with
  | .getKey kid =>
    match s.keyOf call.uri kid with
    | some key => { call with phase := .returned key s.now }
    | none =>
      if again then { call with phase := .raised (.jwksError (.unknownKid call.uri kid)) }
      else { call with fetches := call.fetches + 1, phase := .fetching true }
  | .refresh =>
    match s.cache call.uri with
    | some entry => { call with phase := .refreshed entry }
    | none => { call with phase := .raised .assertionError }

/-- What happens at one moment. An event of a call that is not waiting for it is none. A call waits
    at an `await` for its answer, and for the loop to come back to it; in between the others run. -/
def act (pyJwk : Dict → PyJwkResult κ) (ttl : JwksTtl) (s : JwksCache κ) :
    JwksEvent → JwksCache κ
  | .getKey uri kid => s.getKey uri kid
  | .refresh uri => s.refresh uri
  | .invalidate uri => s.invalidate uri
  | .answer n result =>
    match s.calls[n]? with
    | some call =>
      match call.phase with
      | .fetching again => s.setCall n { call with phase := .answered again s.now result }
      | _ => s
    | none => s
  | .resume n =>
    match s.calls[n]? with
    | some call =>
      match call.phase with
      | .answered again servedAt answer => s.finishRefresh pyJwk ttl n call again servedAt answer
      | _ => s
    | none => s
  | .lookUp n =>
    match s.calls[n]? with
    | some call =>
      match call.phase with
      | .relooking again => s.setCall n (s.finishLookUp call again)
      | _ => s
    | none => s

/-- The clock only goes forward. -/
def tick (s : JwksCache κ) (time : ℚ) : JwksCache κ := { s with now := max s.now time }

/-- An event and the reading of the clock at its time. -/
def step (pyJwk : Dict → PyJwkResult κ) (ttl : JwksTtl) (s : JwksCache κ)
    (e : ℚ × JwksEvent) : JwksCache κ :=
  (s.tick e.1).act pyJwk ttl e.2

/-! ## 3. What an event does

`Moves` lists what an event may do, `Extends` what it may not. Everything about a waiting call is
carried over steps of other calls by `Extends` alone. -/

section
variable {pyJwk : Dict → PyJwkResult κ} {ttl : JwksTtl} {s s' : JwksCache κ} {uri kid : String}
  {key : κ}

/-- The states one event can lead to. -/
inductive Moves (pyJwk : Dict → PyJwkResult κ) (ttl : JwksTtl) (s : JwksCache κ) :
    JwksCache κ → Prop
  | idle : Moves pyJwk ttl s s
  | served {uri kid : String} {key : κ} (hit : s.freshKeyOf uri kid = some key) :
      Moves pyJwk ttl s (s.begin ⟨uri, .getKey kid, s.now, 0, .returned key s.now⟩)
  | asked {uri : String} {request : JwksRequest} :
      Moves pyJwk ttl s (s.begin ⟨uri, request, s.now, 1, .fetching false⟩)
  | dropped {uri : String} : Moves pyJwk ttl s (s.invalidate uri)
  | answered {n : Nat} {call : JwksCall κ} {again : Bool} {result : HttpAnswer}
      (hcall : s.calls[n]? = some call) (hphase : call.phase = .fetching again) :
      Moves pyJwk ttl s (s.setCall n { call with phase := .answered again s.now result })
  | resumed {n : Nat} {call : JwksCall κ} {again : Bool} {servedAt : ℚ} {answer : HttpAnswer}
      (hcall : s.calls[n]? = some call) (hphase : call.phase = .answered again servedAt answer) :
      Moves pyJwk ttl s (s.finishRefresh pyJwk ttl n call again servedAt answer)
  | lookedUp {n : Nat} {call : JwksCall κ} {again : Bool}
      (hcall : s.calls[n]? = some call) (hphase : call.phase = .relooking again) :
      Moves pyJwk ttl s (s.setCall n (s.finishLookUp call again))

/-- An event of a call there is not, or that is not waiting for it, does nothing. -/
theorem moves_act (e : JwksEvent) : Moves pyJwk ttl s (s.act pyJwk ttl e) := by
  cases e with
  | getKey uri kid =>
    show Moves pyJwk ttl s (s.getKey uri kid)
    unfold getKey
    split
    case h_1 key hit => exact .served hit
    case h_2 => exact .asked
  | refresh uri => exact .asked
  | invalidate uri => exact .dropped
  -- A call moves from the phase it waits in; at any other it is no move.
  | answer n result =>
    simp only [act]
    split
    case h_2 => exact .idle
    case h_1 call hcall =>
      split
      case h_1 again hphase => exact .answered hcall hphase
      case h_2 => exact .idle
  | resume n =>
    simp only [act]
    split
    case h_2 => exact .idle
    case h_1 call hcall =>
      split
      case h_1 again servedAt answer hphase => exact .resumed hcall hphase
      case h_2 => exact .idle
  | lookUp n =>
    simp only [act]
    split
    case h_2 => exact .idle
    case h_1 call hcall =>
      split
      case h_1 again hphase => exact .lookedUp hcall hphase
      case h_2 => exact .idle

/-- What a call counts on while it waits: the clock and the record only grow, and what is put
    into the cache is not older than the moment. -/
structure Extends (s s' : JwksCache κ) : Prop where
  now : s.now ≤ s'.now
  fetched : s.fetched ⊆ s'.fetched
  since : ∀ uri t, t ≤ s.now → Since (·.fetchedAt) s.cache uri t →
    Since (·.fetchedAt) s'.cache uri t

theorem extends_begin {call : JwksCall κ} : Extends s (s.begin call) :=
  ⟨le_rfl, fun _ h => h, fun _ _ _ h => h⟩

theorem extends_setCall {n : Nat} {call : JwksCall κ} : Extends s (s.setCall n call) :=
  ⟨le_rfl, fun _ h => h, fun _ _ _ h => h⟩

theorem extends_tick (time : ℚ) : Extends s (s.tick time) :=
  ⟨le_max_left _ _, fun _ h => h, fun _ _ _ h => h⟩

theorem extends_invalidate : Extends s (s.invalidate uri) :=
  ⟨le_rfl, fun _ h => h, fun _ _ _ h => h.drop⟩

/-- An entry is stored at the time it carries, so it is not older than any call there is. -/
theorem extends_store {n : Nat} {call : JwksCall κ} {again : Bool} {f : FetchedJwks κ}
    (hf : f.entry.fetchedAt = s.now) : Extends s (s.store n call again f) := by
  constructor
  case now => exact le_rfl
  case fetched =>
    intro g hg
    exact List.mem_cons_of_mem f hg
  case since =>
    intro uri t ht hsince
    apply hsince.update
    intro x hx
    cases hx
    rw [hf]
    exact ht

end

/-! ## 4. The invariant

Three parts: an entry of the cache was fetched and is on record; what is on record was listed by its
document and lives for one TTL; and of each call what its phase promises. -/

/-- `get_key` was asked for the `kid` and has returned the key. -/
def Returned (call : JwksCall κ) (kid : String) (key : κ) (returnedAt : ℚ) : Prop :=
  call.request = .getKey kid ∧ call.phase = .returned key returnedAt

/-- A document fetched from the call's URI, less than one TTL before the call or while it was
    going on, lists the key under the `kid`. -/
def FetchedInTime (pyJwk : Dict → PyJwkResult κ) (ttl : JwksTtl) (s : JwksCache κ)
    (call : JwksCall κ) (kid : String) (key : κ) (returnedAt : ℚ) : Prop :=
  ∃ f ∈ s.fetched, f.entry.jwksUri = call.uri ∧ Lists pyJwk f.payload kid key ∧
    (f.entry.fetchedAt ≤ call.startedAt ∧ call.startedAt - f.entry.fetchedAt < ttl ∨
      call.startedAt ≤ f.entry.fetchedAt ∧ f.entry.fetchedAt ≤ returnedAt)

/-- The fetches a call can have made by then. -/
def fetchLimit : JwksPhase κ → Nat
  | .fetching again | .answered again .. | .relooking again => if again then 2 else 1
  | .returned .. | .refreshed .. | .raised .. => 2

/-- There is nothing to say of the key of such a call. -/
def IsQuiet : JwksPhase κ → Prop
  | .relooking _ | .returned .. => False
  | .fetching _ | .answered .. | .refreshed _ | .raised _ => True

structure CallInvariant (pyJwk : Dict → PyJwkResult κ) (ttl : JwksTtl) (s : JwksCache κ)
    (call : JwksCall κ) : Prop where
  started : call.startedAt ≤ s.now
  fetches : call.fetches ≤ fetchLimit call.phase
  since : ∀ again, call.phase = .relooking again →
    Since (·.fetchedAt) s.cache call.uri call.startedAt
  returned : ∀ kid key returnedAt, Returned call kid key returnedAt →
    FetchedInTime pyJwk ttl s call kid key returnedAt

/-- A document of the record, and the entry that was made of it. -/
structure Recorded (pyJwk : Dict → PyJwkResult κ) (ttl : JwksTtl) (s : JwksCache κ)
    (f : FetchedJwks κ) : Prop where
  listed : ∀ kid key, f.entry.keysByKid kid = some key → Lists pyJwk f.payload kid key
  past : f.entry.fetchedAt ≤ s.now
  lives : f.entry.ttlSeconds = ttl

structure Invariant (pyJwk : Dict → PyJwkResult κ) (ttl : JwksTtl) (s : JwksCache κ) : Prop where
  entries : ∀ uri entry, s.cache uri = some entry →
    entry.jwksUri = uri ∧ ∃ f ∈ s.fetched, f.entry = entry
  records : ∀ f ∈ s.fetched, Recorded pyJwk ttl s f
  calls : ∀ call ∈ s.calls, CallInvariant pyJwk ttl s call

section
variable {pyJwk : Dict → PyJwkResult κ} {ttl : JwksTtl} {s s' : JwksCache κ} {uri kid : String}
  {key : κ} {call : JwksCall κ}

theorem FetchedInTime.mono {returnedAt : ℚ} (hext : Extends s s')
    (h : FetchedInTime pyJwk ttl s call kid key returnedAt) :
    FetchedInTime pyJwk ttl s' call kid key returnedAt := by
  obtain ⟨f, hf, hrest⟩ := h
  exact ⟨f, hext.fetched hf, hrest⟩

theorem Recorded.mono {f : FetchedJwks κ} (hext : Extends s s') (h : Recorded pyJwk ttl s f) :
    Recorded pyJwk ttl s' f :=
  ⟨h.listed, h.past.trans hext.now, h.lives⟩

theorem CallInvariant.mono (hext : Extends s s') (h : CallInvariant pyJwk ttl s call) :
    CallInvariant pyJwk ttl s' call where
  started := h.started.trans hext.now
  fetches := h.fetches
  since := fun again hphase => hext.since _ _ h.started (h.since again hphase)
  returned := fun kid key t hreturned => (h.returned kid key t hreturned).mono hext

theorem CallInvariant.fetches_le (h : CallInvariant pyJwk ttl s call) {phase : JwksPhase κ}
    (hphase : call.phase = phase) : call.fetches ≤ fetchLimit phase := by
  rw [← hphase]
  exact h.fetches

theorem fetchLimit_le_two (phase : JwksPhase κ) : fetchLimit phase ≤ 2 := by
  cases phase with
  | fetching again | answered again servedAt answer | relooking again =>
    cases again with
    | false => exact Nat.le_succ 1
    | true => exact le_rfl
  | returned key t | refreshed entry | raised e => exact le_rfl

/-- A call that is not looking again and has not returned a key need only count its fetches. -/
theorem callInvariant_of_quiet (hstarted : call.startedAt ≤ s.now)
    (hfetches : call.fetches ≤ fetchLimit call.phase) (hquiet : IsQuiet call.phase) :
    CallInvariant pyJwk ttl s call where
  started := hstarted
  fetches := hfetches
  since := by
    intro again hphase
    rw [hphase] at hquiet
    exact hquiet.elim
  returned := by
    rintro kid key t ⟨-, hphase⟩
    rw [hphase] at hquiet
    exact hquiet.elim

namespace Invariant

theorem init (now : ℚ) : Invariant pyJwk ttl (init now) where
  entries := by
    intro uri entry h
    cases h
  records := by
    intro f hf
    cases hf
  calls := by
    intro call hcall
    cases hcall

/-- What is found under a `kid` is in a document fetched from the URI. -/
theorem fetched_of_entry (h : Invariant pyJwk ttl s) {entry : JwksEntry κ}
    (hentry : s.cache uri = some entry) (hkey : entry.keysByKid kid = some key) :
    ∃ f ∈ s.fetched, f.entry = entry ∧ f.entry.jwksUri = uri ∧ Lists pyJwk f.payload kid key := by
  obtain ⟨huri, f, hf, hfe⟩ := h.entries uri entry hentry
  subst hfe
  exact ⟨f, hf, rfl, huri, (h.records f hf).listed kid key hkey⟩

/-- A fresh entry was stored less than one TTL ago. -/
theorem served (h : Invariant pyJwk ttl s) (hit : s.freshKeyOf uri kid = some key) :
    CallInvariant pyJwk ttl s ⟨uri, .getKey kid, s.now, 0, .returned key s.now⟩ where
  started := le_rfl
  fetches := Nat.zero_le _
  since := by
    intro again hphase
    cases hphase
  returned := by
    rintro kid' key' t ⟨hrequest, hphase⟩
    cases hrequest
    cases hphase
    -- the entry is fresh now, and the call starts now
    obtain ⟨entry, hentry, hfresh⟩ := Option.bind_eq_some_iff.mp hit
    split at hfresh
    case isFalse => cases hfresh
    case isTrue hlive =>
      obtain ⟨f, hf, hfe, huri, hlists⟩ := h.fetched_of_entry hentry hfresh
      have hage : s.now - entry.fetchedAt < entry.ttlSeconds := of_decide_eq_true hlive
      rw [← hfe, (h.records f hf).lives] at hage
      exact ⟨f, hf, huri, hlists, .inl ⟨(h.records f hf).past, hage⟩⟩

/-- The entry a call finds after its refresh is no older than the call. -/
theorem lookedUp (h : Invariant pyJwk ttl s) {again : Bool} (hcall : call ∈ s.calls)
    (hphase : call.phase = .relooking again) :
    CallInvariant pyJwk ttl s (s.finishLookUp call again) := by
  have hinv := h.calls call hcall
  have hfetches : call.fetches ≤ 2 :=
    (hinv.fetches_le hphase).trans (fetchLimit_le_two (.relooking again))
  unfold finishLookUp
  split
  case h_1 kid hrequest =>
    split
    -- the key is there: whoever stored the entry did so after this call began
    case h_1 key hkey =>
      constructor
      case started => exact hinv.started
      case fetches => exact hfetches
      case since =>
        intro again' hphase'
        cases hphase'
      case returned =>
        rintro kid' key' t ⟨hrequest', hreturned⟩
        rw [hrequest] at hrequest'
        cases hrequest'
        cases hreturned
        obtain ⟨entry, hentry, hkid⟩ := Option.bind_eq_some_iff.mp hkey
        obtain ⟨f, hf, hfe, huri, hlists⟩ := h.fetched_of_entry hentry hkid
        have hsince := hinv.since again hphase entry hentry
        rw [← hfe] at hsince
        exact ⟨f, hf, huri, hlists, .inr ⟨hsince, (h.records f hf).past⟩⟩
    case h_2 =>
      split
      case isTrue => exact callInvariant_of_quiet hinv.started hfetches trivial
      -- the second refresh, after which it gives up
      case isFalse hfirst =>
        have hone := hinv.fetches_le hphase
        rw [fetchLimit, if_neg hfirst] at hone
        exact callInvariant_of_quiet hinv.started (Nat.succ_le_succ hone) trivial
  case h_2 =>
    split
    case h_1 => exact callInvariant_of_quiet hinv.started hfetches trivial
    case h_2 => exact callInvariant_of_quiet hinv.started hfetches trivial

/-- What leaves the entries and the record alone keeps the invariant if it keeps the calls. -/
theorem of_extends (h : Invariant pyJwk ttl s) (hext : Extends s s')
    (hcache : s'.cache = s.cache) (hfetched : s'.fetched = s.fetched)
    (hcalls : ∀ call ∈ s'.calls, call ∈ s.calls ∨ CallInvariant pyJwk ttl s call) :
    Invariant pyJwk ttl s' where
  entries := by
    rw [hcache, hfetched]
    exact h.entries
  records := by
    intro f hf
    rw [hfetched] at hf
    exact (h.records f hf).mono hext
  calls := by
    intro call hcall
    obtain hold | hnew := hcalls call hcall
    · exact (h.calls call hold).mono hext
    · exact hnew.mono hext

theorem setCall (h : Invariant pyJwk ttl s) {n : Nat}
    (hcall : CallInvariant pyJwk ttl s call) : Invariant pyJwk ttl (s.setCall n call) := by
  apply h.of_extends extends_setCall rfl rfl
  intro other hother
  obtain hold | rfl := List.mem_or_eq_of_mem_set hother
  · exact .inl hold
  · exact .inr hcall

theorem begin (h : Invariant pyJwk ttl s) (hcall : CallInvariant pyJwk ttl s call) :
    Invariant pyJwk ttl (s.begin call) := by
  apply h.of_extends extends_begin rfl rfl
  intro other hother
  obtain hold | hnew := List.mem_append.mp hother
  · exact .inl hold
  · rw [List.mem_singleton.mp hnew]
    exact .inr hcall

theorem tick (h : Invariant pyJwk ttl s) (time : ℚ) : Invariant pyJwk ttl (s.tick time) :=
  h.of_extends (extends_tick time) rfl rfl fun _ hcall => .inl hcall

theorem invalidate (h : Invariant pyJwk ttl s) : Invariant pyJwk ttl (s.invalidate uri) where
  entries := by
    intro uri' entry hentry
    by_cases huri : uri' = uri
    · subst huri
      simp [JwksCache.invalidate] at hentry
    · simp only [JwksCache.invalidate, Function.update_of_ne huri] at hentry
      exact h.entries uri' entry hentry
  records := fun f hf => (h.records f hf).mono extends_invalidate
  calls := fun call hcall => (h.calls call hcall).mono extends_invalidate

/-- A call whose entry has just been stored finds nothing older than itself. -/
theorem store (h : Invariant pyJwk ttl s) {n : Nat} {again : Bool} {f : FetchedJwks κ}
    (hstarted : call.startedAt ≤ s.now)
    (hfetches : call.fetches ≤ fetchLimit (.relooking again : JwksPhase κ))
    (huri : f.entry.jwksUri = call.uri) (hnow : f.entry.fetchedAt = s.now)
    (hrecord : Recorded pyJwk ttl s f) : Invariant pyJwk ttl (s.store n call again f) where
  entries := by
    intro uri entry hentry
    simp only [JwksCache.store] at hentry
    by_cases hcall : uri = call.uri
    · subst hcall
      rw [Function.update_self] at hentry
      cases hentry
      exact ⟨huri, f, List.mem_cons_self, rfl⟩
    · rw [Function.update_of_ne hcall] at hentry
      obtain ⟨hsame, g, hg, hge⟩ := h.entries uri entry hentry
      exact ⟨hsame, g, List.mem_cons_of_mem f hg, hge⟩
  records := by
    intro g hg
    obtain rfl | hg := List.mem_cons.mp hg
    · exact hrecord.mono (extends_store hnow)
    · exact (h.records g hg).mono (extends_store hnow)
  calls := by
    intro other hother
    obtain hold | rfl := List.mem_or_eq_of_mem_set hother
    · exact (h.calls other hold).mono (extends_store hnow)
    · constructor
      case started => exact hstarted
      case fetches => exact hfetches
      -- the entry of the moment is later than the start of its call
      case since =>
        intro again' hphase'
        apply since_update
        intro entry hentry
        cases hentry
        rw [hnow]
        exact hstarted
      case returned =>
        rintro kid key t ⟨hrequest, hreturned⟩
        cases hreturned

theorem finishRefresh (h : Invariant pyJwk ttl s) {n : Nat} {again : Bool} {servedAt : ℚ}
    {answer : HttpAnswer} (hcall : call ∈ s.calls)
    (hphase : call.phase = .answered again servedAt answer) :
    Invariant pyJwk ttl (s.finishRefresh pyJwk ttl n call again servedAt answer) := by
  have hinv := h.calls call hcall
  have hfetches := hinv.fetches_le hphase
  unfold JwksCache.finishRefresh
  split
  case h_1 e hread =>
    apply h.setCall
    exact callInvariant_of_quiet hinv.started (hfetches.trans (fetchLimit_le_two _)) trivial
  case h_2 payload keysByKid hread =>
    apply h.store hinv.started hfetches rfl rfl
    constructor
    case listed =>
      intro kid key hkey
      exact lists_of_readAnswer hread hkey
    case past => exact le_rfl
    case lives => rfl

theorem moves (h : Invariant pyJwk ttl s) (hmoves : Moves pyJwk ttl s s') :
    Invariant pyJwk ttl s' := by
  cases hmoves with
  | idle => exact h
  | served hit => exact h.begin (h.served hit)
  | asked => exact h.begin (callInvariant_of_quiet le_rfl le_rfl trivial)
  | dropped => exact h.invalidate
  | answered hcall hphase =>
    have hinv := h.calls _ (List.mem_of_getElem? hcall)
    have hfetches := hinv.fetches_le hphase
    exact h.setCall (callInvariant_of_quiet hinv.started hfetches trivial)
  | resumed hcall hphase => exact h.finishRefresh (List.mem_of_getElem? hcall) hphase
  | lookedUp hcall hphase =>
    exact h.setCall (h.lookedUp (List.mem_of_getElem? hcall) hphase)

theorem step (h : Invariant pyJwk ttl s) (e : ℚ × JwksEvent) :
    Invariant pyJwk ttl (s.step pyJwk ttl e) :=
  (h.tick e.1).moves (moves_act e.2)

end Invariant

end

/-! ## 5. Every interleaving

What the invariant says of the calls that have returned a key, in every state of every interleaving.
The last clause of `Fresh` is about a key the platform has withdrawn: the record bounds how long it
goes on being accepted. -/

/-- The call goes on with an answer out of which no keys can be read. -/
def FailedRefresh (pyJwk : Dict → PyJwkResult κ) (s : JwksCache κ) (e : ℚ × JwksEvent) : Prop :=
  ∃ n call again servedAt answer failure, e.2 = .resume n ∧ s.calls[n]? = some call ∧
    call.phase = .answered again servedAt answer ∧
      readAnswer pyJwk call.uri answer = .error failure

/-- No answer sent after `withdrawnAt` and stored since lists the key under the `kid`. -/
def Withdrawn (pyJwk : Dict → PyJwkResult κ) (s : JwksCache κ) (uri kid : String) (key : κ)
    (withdrawnAt : ℚ) : Prop :=
  ∀ f ∈ s.fetched, f.entry.jwksUri = uri → Lists pyJwk f.payload kid key →
    f.servedAt ≤ withdrawnAt

/-- The answers that list the key are stored at most `delay` after they were sent. -/
def StoredWithin (pyJwk : Dict → PyJwkResult κ) (s : JwksCache κ) (uri kid : String) (key : κ)
    (delay : ℚ) : Prop :=
  ∀ f ∈ s.fetched, f.entry.jwksUri = uri → Lists pyJwk f.payload kid key →
    f.entry.fetchedAt ≤ f.servedAt + delay

/-- No call that begins at `deadline` or later returns the key. -/
def NotAcceptedFrom (s : JwksCache κ) (uri kid : String) (key : κ) (deadline : ℚ) : Prop :=
  ∀ call ∈ s.calls, ∀ returnedAt, call.uri = uri → Returned call kid key returnedAt →
    call.startedAt < deadline

/-- A key withdrawn by the platform is returned at most one TTL later. -/
def AcceptedAtMostOneTtlLater (pyJwk : Dict → PyJwkResult κ) (ttl : JwksTtl) (s : JwksCache κ) :
    Prop :=
  ∀ uri kid key withdrawnAt, Withdrawn pyJwk s uri kid key withdrawnAt →
    ∀ call ∈ s.calls, ∀ returnedAt, call.uri = uri → Returned call kid key returnedAt →
      returnedAt ≤ withdrawnAt + ttl

/-- What holds of the calls there have been. -/
structure Fresh (pyJwk : Dict → PyJwkResult κ) (ttl : JwksTtl) (s : JwksCache κ) : Prop where
  inTime : ∀ call ∈ s.calls, ∀ kid key returnedAt, Returned call kid key returnedAt →
    FetchedInTime pyJwk ttl s call kid key returnedAt
  atMostTwo : ∀ call ∈ s.calls, call.fetches ≤ 2
  withdrawn : ∀ uri kid key withdrawnAt delay, Withdrawn pyJwk s uri kid key withdrawnAt →
    StoredWithin pyJwk s uri kid key delay →
      NotAcceptedFrom s uri kid key (withdrawnAt + delay + ttl)

section
variable {pyJwk : Dict → PyJwkResult κ} {ttl : JwksTtl} {s : JwksCache κ} {uri kid : String}
  {key : κ}

/-- A key that was fetched in time is not accepted for longer than the documents that list it
    live. -/
theorem notAcceptedFrom_of_inTime {withdrawnAt delay : ℚ}
    (hinTime : ∀ call ∈ s.calls, ∀ kid key returnedAt, Returned call kid key returnedAt →
      FetchedInTime pyJwk ttl s call kid key returnedAt)
    (hwithdrawn : Withdrawn pyJwk s uri kid key withdrawnAt)
    (hstored : StoredWithin pyJwk s uri kid key delay) :
    NotAcceptedFrom s uri kid key (withdrawnAt + delay + ttl) := by
  intro call hcall returnedAt huri hreturned
  obtain ⟨f, hf, hfuri, hlists, htime⟩ := hinTime call hcall kid key returnedAt hreturned
  rw [huri] at hfuri
  have hserved := hwithdrawn f hf hfuri hlists
  have hdelay := hstored f hf hfuri hlists
  have hpos := ttl.property
  obtain ⟨-, hage⟩ | ⟨hduring, -⟩ := htime
  · linarith
  · linarith

theorem Invariant.fresh (h : Invariant pyJwk ttl s) : Fresh pyJwk ttl s where
  inTime := fun call hcall => (h.calls call hcall).returned
  atMostTwo := fun call hcall => (h.calls call hcall).fetches.trans (fetchLimit_le_two _)
  withdrawn := by
    intro uri kid key withdrawnAt delay hwithdrawn hstored
    have hinTime := fun call hcall => (h.calls call hcall).returned
    exact notAcceptedFrom_of_inTime hinTime hwithdrawn hstored

theorem cache_of_failedRefresh {e : ℚ × JwksEvent} (h : FailedRefresh pyJwk s e) :
    (s.step pyJwk ttl e).cache = s.cache := by
  obtain ⟨n, call, again, servedAt, answer, failure, he, hcall, hphase, hread⟩ := h
  have hcall' : (s.tick e.1).calls[n]? = some call := hcall
  simp only [step, he, act, hcall', hphase, finishRefresh, hread]
  rfl

/-- **A key is accepted for one TTL from the storing of the last document that lists it.** So the
    platform is believed for as long, after it has withdrawn a key, as one TTL and the time a
    fetched document takes to be stored. -/
theorem fresh_of_interleaving (pyJwk : Dict → PyJwkResult κ) (ttl : JwksTtl) (now : ℚ)
    (events : List (ℚ × JwksEvent)) :
    Run.Always (step pyJwk ttl) (Fresh pyJwk ttl) (init now) events ∧
      Run.EachStep (step pyJwk ttl)
        (fun s e => FailedRefresh pyJwk s e → (s.step pyJwk ttl e).cache = s.cache)
        (init now) events := by
  constructor
  · have hinv : Run.Always (step pyJwk ttl) (Invariant pyJwk ttl) (init now) events :=
      Run.always_of_step (fun s e h => h.step e) (Invariant.init now)
    exact hinv.mono fun s h => h.fresh
  · exact Run.eachStep_of_forall fun s e => cache_of_failedRefresh

end

/-- `PyJWK` on Ed25519 keys, which it takes as they are. -/
def ed25519Only (keyDict : Dict) : PyJwkResult Dict :=
  match Json.get? keyDict "kty", Json.get? keyDict "crv", Json.get? keyDict "x" with
  | some (.str "OKP"), some (.str "Ed25519"), some (.str _) => .key keyDict
  | _, _, _ => .malformed "kty is not found"

def platformKey : Dict :=
  [("kty", .str "OKP"), ("crv", .str "Ed25519"), ("kid", .str "key-1"),
    ("x", .str "11qYAYKxCrfVS_7TyWQHOg7hcvPapiMlrwIaaPcHURo")]

def platformUri : String := "https://lms.example.edu/jwks"

def tenMinutes : JwksTtl := ⟨600, by norm_num⟩

def document (keys : List Json) : HttpAnswer := .response 200 (some (.obj [("keys", .arr keys)]))

/-- The platform sends its document with the key at 0, withdraws the key at 1 and sends a document
    without it at 2. The first is stored last, at 5, and still there at 604. -/
def overtakenFetch : List (ℚ × JwksEvent) :=
  [(0, .getKey platformUri "key-1"), (0, .answer 0 (document [.obj platformKey])),
    (2, .refresh platformUri), (2, .answer 1 (document [])), (3, .resume 1), (3, .lookUp 1),
    (5, .resume 0), (5, .lookUp 0), (604, .getKey platformUri "key-1")]

/-- The key a call has returned, and when. -/
def keyReturned? : JwksPhase κ → Option (κ × ℚ)
  | .returned key returnedAt => some (key, returnedAt)
  | _ => none

theorem returned_of_keyReturned? {phase : JwksPhase κ} {key : κ} {t : ℚ}
    (h : keyReturned? phase = some (key, t)) : phase = .returned key t := by
  cases phase with
  | returned key' t' =>
    cases h
    rfl
  | fetching again | answered again servedAt answer | relooking again | refreshed entry
  | raised e => cases h

theorem not_lists_nil {pyJwk : Dict → PyJwkResult κ} {kid : String} {key : κ} :
    ¬ Lists pyJwk (.obj [("keys", .arr [])]) kid key := by
  rintro ⟨members, keysRaw, keyDict, hmembers, hkeys, hmem, -⟩
  cases hmembers
  cases hkeys
  cases hmem

/-- The key is returned 603 seconds after it was withdrawn. -/
theorem overtakenFetch_accepted_past_ttl :
    ¬ Run.Always (step ed25519Only tenMinutes) (AcceptedAtMostOneTtlLater ed25519Only tenMinutes)
      (init 0) overtakenFetch := by
  intro h
  let s := Run.final (step ed25519Only tenMinutes) (init 0) overtakenFetch
  have hserved : ∀ f ∈ s.fetched, f.servedAt ≤ 1 ∨ f.payload = .obj [("keys", .arr [])] := by
    decide +kernel
  have hwithdrawn : Withdrawn ed25519Only s platformUri "key-1" platformKey 1 := by
    intro f hf _ hlists
    obtain hearly | hempty := hserved f hf
    · exact hearly
    · rw [hempty] at hlists
      exact absurd hlists not_lists_nil
  have hreturned : ∃ call ∈ s.calls, call.uri = platformUri ∧ call.request = .getKey "key-1" ∧
      keyReturned? call.phase = some (platformKey, 604) := by
    decide +kernel
  obtain ⟨call, hcall, huri, hrequest, hkey⟩ := hreturned
  have hlate : (604 : ℚ) ≤ 1 + tenMinutes :=
    h.final _ _ _ _ hwithdrawn call hcall 604 huri ⟨hrequest, returned_of_keyReturned? hkey⟩
  exact absurd hlate (by decide +kernel)

end JwksCache

end ProctorEngine.Lti
