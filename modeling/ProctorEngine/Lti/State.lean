import Mathlib.Data.List.AList
import Mathlib.Data.NNRat.Defs
import Mathlib.Tactic.Linarith
import ProctorEngine.Lib.Json
import ProctorEngine.Lib.OneShot

/-!
# Launch states

The store of pending LTI launches: the protocol the routes depend on and its two implementations.
The in-memory one keeps a dictionary and purges it as it goes; each call reads the clock before it
takes the lock, so the reading is an argument here and may be as old as the call. The Redis one
keeps a key per state with an expiry of its own and consumes by a script.

`LaunchStateStore` is the protocol with what its clients rely on as proof fields. **A state is live,
for some entry, from its registration until it is consumed or lost to the clock**; an implementation
shows what each operation does to the live entries, and the rest follows from `OneShot`.

The two stores differ in much that a client can observe: in when an expired entry goes, in whose
clock counts, and in what a nonce that is not ASCII comes to. They agree in what the fields say.
Time is rational and only goes on; the readings of the process clock may be any number in the
in-memory store, late ones included, which is why the age of an entry is bounded at the reading and
not at the clock.

A call is an atomic step. In memory that is the lock, in Redis the script, which reads and deletes
the key in one go.
-/

set_option autoImplicit false

namespace ProctorEngine
namespace Lti

open OneShot

/-! ## 1. The protocol

The operations, and for each of them what it does to the live entries: it adds one, takes one away,
or only loses some. -/

/-- `_Entry`. -/
structure Entry where
  nonce : String
  redirectUri : String
  ltiIssuer : String
  issuedAt : ℚ
deriving DecidableEq, Repr

inductive ConsumeError where
  | missing
  | expired
  /-- The `ValueError` of a wrong nonce. -/
  | nonceMismatch
  /-- The `TypeError` of `secrets.compare_digest` on a string that is not ASCII. -/
  | notAscii
deriving DecidableEq, Repr

/-- `redirect_uri` and `lti_issuer`. -/
abbrev Consumed := String × String

/-- The arguments of `register`. -/
structure Registration where
  state : String
  nonce : String
  redirectUri : String
  ltiIssuer : String
deriving DecidableEq, Repr

/-- The `ValueError`s of `register` aside, its arguments. -/
def Registration.Valid (r : Registration) : Prop := r.state ≠ "" ∧ r.nonce ≠ ""

instance {r : Registration} : Decidable r.Valid := inferInstanceAs (Decidable (_ ∧ _))

def Registration.entry (r : Registration) (issuedAt : ℚ) : Entry :=
  ⟨r.nonce, r.redirectUri, r.ltiIssuer, issuedAt⟩

class LaunchStateStore (σ : Type) (ttl : outParam Nat) where
  empty : σ
  /-- The time of a call that has read the process clock as `reading`. -/
  time : σ → ℚ → ℚ
  register : σ → ℚ → Registration → σ
  consume : σ → ℚ → String → String → σ × Except ConsumeError Consumed
  peek : σ → String → σ × Option String
  purgeExpired : σ → σ × Nat
  /-- Time passes; the clock is monotone. -/
  elapse : σ → ℚ≥0 → σ
  live : σ → String → Option Entry
  live_empty (state : String) : live empty state = none
  register_invalid (s : σ) (now : ℚ) (r : Registration) : ¬ r.Valid → register s now r = s
  register_live (s : σ) (now : ℚ) (r : Registration) : r.Valid →
    live (register s now r) r.state = some (r.entry (time s now)) ∧
      ShrinksBut r.state (live s) (live (register s now r))
  consume_ok (s : σ) (now : ℚ) (state nonce : String) (c : Consumed) :
    (consume s now state nonce).2 = .ok c →
      (∃ e, live s state = some e ∧ e.nonce = nonce ∧ (e.redirectUri, e.ltiIssuer) = c ∧
        time s now - e.issuedAt ≤ ttl) ∧
      live (consume s now state nonce).1 state = none ∧
      ShrinksBut state (live s) (live (consume s now state nonce).1)
  consume_error (s : σ) (now : ℚ) (state nonce : String) (e : ConsumeError) :
    (consume s now state nonce).2 = .error e → Shrinks (live s) (live (consume s now state nonce).1)
  /-- A wrong nonce consumes nothing. -/
  consume_mismatch (s : σ) (now : ℚ) (state nonce : String) :
    (consume s now state nonce).2 = .error .nonceMismatch → (consume s now state nonce).1 = s
  peek_live (s : σ) (state : String) : state ≠ "" →
    (peek s state).2 = (live (peek s state).1 state).map (·.ltiIssuer)
  peek_shrinks (s : σ) (state : String) : Shrinks (live s) (live (peek s state).1)
  purge_shrinks (s : σ) : Shrinks (live s) (live (purgeExpired s).1)
  elapse_shrinks (s : σ) (dt : ℚ≥0) : Shrinks (live s) (live (elapse s dt))

/-! ## 2. What the clients see

The log of a run has the registrations and the successful consumptions. Every call is an operation
of a one-shot store on the live entries, with this log. -/

inductive Call where
  | register (now : ℚ) (r : Registration)
  | consume (now : ℚ) (state nonce : String)
  | peek (state : String)
  | purgeExpired
  | elapse (dt : ℚ≥0)

/-- A successful `consume`: its nonce, its time and what it returned. -/
structure Consumption where
  nonce : String
  at_ : ℚ
  redirectUri : String
  ltiIssuer : String
deriving DecidableEq, Repr

/-- The consumption returns the entry's data, with the entry's nonce, within the TTL. -/
structure Honors (ttl : Nat) (e : Entry) (c : Consumption) : Prop where
  nonce : e.nonce = c.nonce
  redirectUri : e.redirectUri = c.redirectUri
  ltiIssuer : e.ltiIssuer = c.ltiIssuer
  age : c.at_ - e.issuedAt ≤ ttl

section
variable {σ : Type} {ttl : Nat} [LaunchStateStore σ ttl]

open LaunchStateStore

def step (s : σ) : Call → σ
  | .register now r => register s now r
  | .consume now state nonce => (consume s now state nonce).1
  | .peek state => (peek s state).1
  | .purgeExpired => (purgeExpired s).1
  | .elapse dt => elapse s dt

/-- The registration or the successful consumption a call is. -/
def event (s : σ) : Call → Option (Event String Entry Consumption)
  | .register now r => if r.Valid then some (.put r.state (r.entry (time s now))) else none
  | .consume now state nonce =>
    match (consume s now state nonce).2 with
    | .ok c => some (.take state ⟨nonce, time s now, c.1, c.2⟩)
    | .error _ => none
  | .peek _ | .purgeExpired | .elapse _ => none

/-- **Every call is a one-shot store's operation on the live entries.** -/
theorem step_change (s : σ) (call : Call) :
    Change (Honors ttl) (live s) (live (step s call)) (event s call) := by
  cases call with
  | register now r =>
    simp only [step, event]
    by_cases hvalid : r.Valid
    · rw [if_pos hvalid]
      obtain ⟨hnew, hrest⟩ := register_live s now r hvalid
      exact .put hnew hrest
    · rw [if_neg hvalid, register_invalid s now r hvalid]
      exact .idle .refl
  | consume now state nonce =>
    simp only [step, event]
    cases hresult : (consume s now state nonce).2 with
    | ok c =>
      obtain ⟨⟨e, hlive, hnonce, hdata, hage⟩, hgone, hrest⟩ :=
        consume_ok s now state nonce c hresult
      obtain ⟨hredirect, hissuer⟩ := Prod.mk.inj hdata
      exact .take hlive ⟨hnonce, hredirect, hissuer, hage⟩ hgone hrest
    | error e => exact .idle (consume_error s now state nonce e hresult)
  | peek state => exact .idle (peek_shrinks s state)
  | purgeExpired => exact .idle (purge_shrinks s)
  | elapse dt => exact .idle (elapse_shrinks s dt)

theorem kept_run (calls : List Call) :
    Run.Always (logged step event) (fun w => Kept (Honors ttl) w.2) ((empty : σ), []) calls :=
  kept_always step_change live_empty

end

/-! ## 3. In memory

An entry past its TTL stays in the dictionary until the next call that purges, and is live until
then; `consume` looks at the age itself. -/

/-- `secrets.compare_digest` on two strings; `none` is its `TypeError`. -/
def compareDigest (a b : String) : Option Bool :=
  if a.toList.all (·.toNat < 128) ∧ b.toList.all (·.toNat < 128) then some (a = b) else none

theorem eq_of_compareDigest {a b : String} (h : compareDigest a b = some true) : a = b := by
  unfold compareDigest at h
  split at h
  · simpa using h
  · exact absurd h (by simp)

structure InMemoryLaunchStateStore (ttl : Nat) where
  clock : ℚ
  entries : AList fun _ : String => Entry

namespace InMemoryLaunchStateStore

variable {ttl : Nat}

def lookup (s : InMemoryLaunchStateStore ttl) (state : String) : Option Entry :=
  s.entries.lookup state

def insert (s : InMemoryLaunchStateStore ttl) (state : String) (entry : Entry) :
    InMemoryLaunchStateStore ttl :=
  { s with entries := s.entries.insert state entry }

def delete (s : InMemoryLaunchStateStore ttl) (state : String) : InMemoryLaunchStateStore ttl :=
  { s with entries := s.entries.erase state }

/-- `_purge_expired_locked`, with the number removed. -/
def purgeExpiredLocked (s : InMemoryLaunchStateStore ttl) : InMemoryLaunchStateStore ttl × Nat :=
  let expired := (s.entries.entries.filter fun x => (ttl : ℚ) < s.clock - x.2.issuedAt).map (·.1)
  (expired.foldl delete s, expired.length)

def register (s : InMemoryLaunchStateStore ttl) (now : ℚ) (r : Registration) :
    InMemoryLaunchStateStore ttl :=
  if r.Valid then s.purgeExpiredLocked.1.insert r.state (r.entry now) else s

def consume (s : InMemoryLaunchStateStore ttl) (now : ℚ) (state nonce : String) :
    InMemoryLaunchStateStore ttl × Except ConsumeError Consumed :=
  if state = "" then (s, .error .missing)
  else
    match s.lookup state with
    | none => (s, .error .missing)
    | some entry =>
      if (ttl : ℚ) < now - entry.issuedAt then (s.delete state, .error .expired)
      else
        match compareDigest entry.nonce nonce with
        | none => (s, .error .notAscii)
        | some false => (s, .error .nonceMismatch)
        | some true => (s.delete state, .ok (entry.redirectUri, entry.ltiIssuer))

def peek (s : InMemoryLaunchStateStore ttl) (state : String) :
    InMemoryLaunchStateStore ttl × Option String :=
  let purged := s.purgeExpiredLocked.1
  (purged, (purged.lookup state).map (·.ltiIssuer))

section
variable {s : InMemoryLaunchStateStore ttl} {state : String}

theorem insert_lookup {entry : Entry} : (s.insert state entry).lookup state = some entry :=
  AList.lookup_insert s.entries

theorem insert_lookup_ne {entry : Entry} {j : String} (h : j ≠ state) :
    (s.insert state entry).lookup j = s.lookup j := AList.lookup_insert_ne h

theorem delete_lookup : (s.delete state).lookup state = none := AList.lookup_erase state s.entries

theorem delete_shrinks : Shrinks s.lookup (s.delete state).lookup := by
  intro k
  by_cases hk : k = state
  · subst hk
    exact .inr delete_lookup
  · exact .inl (AList.lookup_erase_ne hk)

theorem purge_shrinks : Shrinks s.lookup s.purgeExpiredLocked.1.lookup := by
  simp only [purgeExpiredLocked]
  generalize List.map _ _ = expired
  induction expired generalizing s with
  | nil => exact .refl
  | cons k expired ih => exact delete_shrinks.trans ih

end

instance : LaunchStateStore (InMemoryLaunchStateStore ttl) ttl where
  empty := ⟨0, ∅⟩
  time _ reading := reading
  register := register
  consume := consume
  peek := peek
  purgeExpired := purgeExpiredLocked
  elapse s dt := { s with clock := s.clock + dt }
  live := lookup
  live_empty _ := rfl
  register_invalid _ _ _ h := if_neg h
  register_live s now r hvalid := by
    simp only [register, if_pos hvalid]
    refine ⟨insert_lookup, ?_⟩
    intro j hj
    rw [insert_lookup_ne hj]
    exact purge_shrinks j
  consume_ok s now state nonce c h := by
    simp only [consume] at h ⊢
    split at h
    · exact absurd h (by simp)
    rename_i hstate
    cases hentry : s.lookup state with
    | none => exact absurd h (by simp [hentry])
    | some entry =>
      simp only [hentry, if_neg hstate] at h ⊢
      split at h
      · exact absurd h (by simp)
      rename_i hage
      cases hdigest : compareDigest entry.nonce nonce with
      | none => exact absurd h (by simp [hdigest])
      | some same =>
        cases same with
        | false => exact absurd h (by simp [hdigest])
        | true =>
          simp only [hdigest, if_neg hage, Except.ok.injEq] at h ⊢
          exact ⟨⟨entry, rfl, eq_of_compareDigest hdigest, h, not_lt.mp hage⟩, delete_lookup,
            delete_shrinks.but state⟩
  consume_error s now state nonce e h := by
    simp only [consume]
    repeat' split
    all_goals first
      | exact .refl
      | exact delete_shrinks
  consume_mismatch s now state nonce h := by
    simp only [consume] at h ⊢
    repeat' split
    all_goals first
      | rfl
      | simp_all
  peek_live s state _ := rfl
  peek_shrinks s state := purge_shrinks
  purge_shrinks s := purge_shrinks
  elapse_shrinks s dt := .refl

end InMemoryLaunchStateStore

/-! ## 4. Redis

A key past its expiry is not there for `GET`, so it is not live. The payload goes through JSON both
ways, and the script's answers are told apart by their keys. -/

/-- `_REDIS_KEY_PREFIX`. -/
def redisKeyPrefix : String := "proctoring:lti:state"

/-- `_key`. -/
def redisKey (state : String) : String := redisKeyPrefix ++ ":" ++ state

theorem redisKey_inj {a b : String} : redisKey a = redisKey b ↔ a = b := by simp [redisKey]

/-- A value of the module's keyspace: the payload `register` dumps, and when the key expires. -/
structure RedisValue where
  nonce : String
  redirectUri : String
  ltiIssuer : String
  expireAt : ℚ
deriving DecidableEq, Repr

/-- The payload as JSON. -/
def RedisValue.raw (v : RedisValue) : List (String × Json) :=
  [("nonce", .str v.nonce), ("redirect_uri", .str v.redirectUri), ("lti_issuer", .str v.ltiIssuer)]

/-- The keyspace and the server's clock. -/
structure RedisLaunchStateStore (ttl : Nat) where
  clock : ℚ
  keys : AList fun _ : String => RedisValue

/-- What `_CONSUME_LUA` answers to the value it got and the expected nonce, and whether it
    deletes the key. -/
def consumeLua (raw : Option (List (String × Json))) (nonce : String) :
    Option (List (String × Json)) × Bool :=
  match raw with
  | none => (none, false)
  | some parsed =>
    if Json.get? parsed "nonce" = some (.str nonce) then
      (some (["redirect_uri", "lti_issuer", "nonce"].filterMap fun name =>
        (Json.get? parsed name).map (name, ·)), true)
    else (some [("__nonce_mismatch__", .bool true)], false)

namespace RedisLaunchStateStore

variable {ttl : Nat}

/-- `GET`: a key past its expiry is not there, evicted or not. -/
def get (s : RedisLaunchStateStore ttl) (key : String) : Option RedisValue :=
  (s.keys.lookup key).filter fun v => s.clock ≤ v.expireAt

/-- `SET … EX ttl`. -/
def set (s : RedisLaunchStateStore ttl) (key : String) (r : Registration) :
    RedisLaunchStateStore ttl :=
  { s with keys := s.keys.insert key ⟨r.nonce, r.redirectUri, r.ltiIssuer, s.clock + ttl⟩ }

/-- `DEL`. -/
def del (s : RedisLaunchStateStore ttl) (key : String) : RedisLaunchStateStore ttl :=
  { s with keys := s.keys.erase key }

def register (s : RedisLaunchStateStore ttl) (r : Registration) : RedisLaunchStateStore ttl :=
  if r.Valid then s.set (redisKey r.state) r else s

def consume (s : RedisLaunchStateStore ttl) (state nonce : String) :
    RedisLaunchStateStore ttl × Except ConsumeError Consumed :=
  if state = "" then (s, .error .missing)
  else
    let answer := consumeLua ((s.get (redisKey state)).map (·.raw)) nonce
    let s' := if answer.2 then s.del (redisKey state) else s
    match answer.1 with
    | none => (s', .error .missing)
    | some parsed =>
      if Json.get? parsed "__nonce_mismatch__" = some (.bool true) then (s', .error .nonceMismatch)
      else
        match Json.get? parsed "redirect_uri", Json.get? parsed "lti_issuer" with
        | some (.str redirectUri), some (.str ltiIssuer) => (s', .ok (redirectUri, ltiIssuer))
        | _, _ => (s', .error .missing)

/-- `peek`, on the dumped payload. -/
def peek (s : RedisLaunchStateStore ttl) (state : String) : Option String :=
  if state = "" then none
  else
    match (s.get (redisKey state)).map fun v => Json.get? v.raw "lti_issuer" with
    | some (some (.str ltiIssuer)) => some ltiIssuer
    | _ => none

/-- The entry behind a key: a key set with the TTL was set that long before its expiry. -/
def live (s : RedisLaunchStateStore ttl) (state : String) : Option Entry :=
  (s.get (redisKey state)).map fun v => ⟨v.nonce, v.redirectUri, v.ltiIssuer, v.expireAt - ttl⟩

section
variable {s : RedisLaunchStateStore ttl} {state nonce : String}

theorem get_set {r : Registration} {key : String} :
    (s.set key r).get key = some ⟨r.nonce, r.redirectUri, r.ltiIssuer, s.clock + ttl⟩ := by
  simp [get, set]

theorem get_set_ne {r : Registration} {key j : String} (h : j ≠ key) :
    (s.set key r).get j = s.get j :=
  congrArg (Option.filter _) (AList.lookup_insert_ne h)

theorem get_del {key : String} : (s.del key).get key = none := by simp [get, del]

theorem get_del_ne {key j : String} (h : j ≠ key) : (s.del key).get j = s.get j :=
  congrArg (Option.filter _) (AList.lookup_erase_ne h)

theorem get_raw_nonce {v : RedisValue} : Json.get? v.raw "nonce" = some (.str v.nonce) := rfl

/-- The script on a payload. -/
theorem consumeLua_raw {v : RedisValue} :
    consumeLua (some v.raw) nonce =
      if v.nonce = nonce then
        (some [("redirect_uri", .str v.redirectUri), ("lti_issuer", .str v.ltiIssuer),
          ("nonce", .str v.nonce)], true)
      else (some [("__nonce_mismatch__", .bool true)], false) := by
  simp only [consumeLua, get_raw_nonce, Option.some.injEq, Json.str.injEq]
  rfl

/-- `consume`, with the script run. -/
theorem consume_eq (hstate : state ≠ "") :
    s.consume state nonce =
      match s.get (redisKey state) with
      | none => (s, .error .missing)
      | some v =>
        if v.nonce = nonce then (s.del (redisKey state), .ok (v.redirectUri, v.ltiIssuer))
        else (s, .error .nonceMismatch) := by
  simp only [consume, if_neg hstate]
  cases s.get (redisKey state) with
  | none => rfl
  | some v =>
    simp only [Option.map_some, consumeLua_raw]
    by_cases hnonce : v.nonce = nonce
    · simp only [if_pos hnonce]
      rfl
    · simp only [if_neg hnonce]
      rfl

theorem del_shrinks : ShrinksBut state s.live (s.del (redisKey state)).live := by
  intro j hj
  have hkey : redisKey j ≠ redisKey state := fun h => hj (redisKey_inj.mp h)
  exact .inl (by rw [live, get_del_ne hkey, live])

end

instance : LaunchStateStore (RedisLaunchStateStore ttl) ttl where
  empty := ⟨0, ∅⟩
  time s _ := s.clock
  register s _ r := s.register r
  consume s _ state nonce := s.consume state nonce
  peek s state := (s, s.peek state)
  purgeExpired s := (s, 0)
  elapse s dt := { s with clock := s.clock + dt }
  live := live
  live_empty _ := rfl
  register_invalid _ _ _ h := if_neg h
  register_live s now r hvalid := by
    simp only [register, if_pos hvalid]
    refine ⟨?_, fun j hj => .inl ?_⟩
    · simp [live, get_set, Registration.entry]
    · rw [live, get_set_ne fun h => hj (redisKey_inj.mp h), live]
  consume_ok s now state nonce c h := by
    by_cases hstate : state = ""
    · simp [consume, hstate] at h
    rw [consume_eq hstate] at h ⊢
    cases hget : s.get (redisKey state) with
    | none => exact absurd h (by simp [hget])
    | some v =>
      simp only [hget] at h ⊢
      by_cases hnonce : v.nonce = nonce
      · simp only [if_pos hnonce, Except.ok.injEq] at h ⊢
        have hlive : s.clock ≤ v.expireAt := by
          obtain ⟨-, hv⟩ := Option.filter_eq_some_iff.mp hget
          simpa using hv
        refine ⟨⟨_, by rw [live, hget]; rfl, hnonce, h, ?_⟩, by rw [live, get_del]; rfl,
          del_shrinks⟩
        show s.clock - (v.expireAt - ttl) ≤ ttl
        linarith
      · rw [if_neg hnonce] at h
        exact absurd h (by simp)
  consume_error s now state nonce e h := by
    by_cases hstate : state = ""
    · simp only [consume, if_pos hstate]
      exact .refl
    rw [consume_eq hstate] at h ⊢
    cases hget : s.get (redisKey state) with
    | none => exact .refl
    | some v =>
      simp only [hget] at h ⊢
      by_cases hnonce : v.nonce = nonce
      · exact absurd h (by simp [hnonce])
      · simp only [if_neg hnonce]
        exact .refl
  consume_mismatch s now state nonce h := by
    by_cases hstate : state = ""
    · simp only [consume, if_pos hstate]
    rw [consume_eq hstate] at h ⊢
    cases hget : s.get (redisKey state) with
    | none => rfl
    | some v =>
      simp only [hget] at h ⊢
      by_cases hnonce : v.nonce = nonce
      · exact absurd h (by simp [hnonce])
      · simp only [if_neg hnonce]
  peek_live s state hstate := by
    simp only [peek, if_neg hstate, live]
    cases s.get (redisKey state) <;> rfl
  peek_shrinks s state := .refl
  purge_shrinks s := .refl
  elapse_shrinks s dt := by
    -- a later clock lets fewer keys through
    intro state
    simp only [live, get]
    cases hkey : s.keys.lookup (redisKey state) with
    | none => exact .inl rfl
    | some v =>
      by_cases hlater : s.clock + dt ≤ v.expireAt
      · have hbefore : s.clock ≤ v.expireAt := by
          have hdt : (0 : ℚ) ≤ dt := dt.coe_nonneg
          linarith
        left
        simp only [Option.filter_some, decide_eq_true hlater, decide_eq_true hbefore]
      · right
        simp only [Option.filter_some, decide_eq_false hlater]
        rfl

end RedisLaunchStateStore

/-! ## 5. One-shot launches

The rule of `OneShot` at both stores, and the clause about the nonce from the protocol. -/

/-- **Both stores are one-shot.** In the log of any calls, a successful `consume` returns what the
    latest registration of its state filed, with that registration's nonce and within the TTL, and
    between two successful consumptions of a state lies a registration of it; and a `consume` that
    fails on the nonce leaves the store as it was. The log is read newest first, and it is the same
    statement for the dictionary under its lock and for the Lua script. -/
theorem launchState_oneShot (ttl : Nat) :
    (∀ calls, Run.Always (logged step event) (fun w => Kept (Honors ttl) w.2)
      ((LaunchStateStore.empty : InMemoryLaunchStateStore ttl), []) calls) ∧
    (∀ calls, Run.Always (logged step event) (fun w => Kept (Honors ttl) w.2)
      ((LaunchStateStore.empty : RedisLaunchStateStore ttl), []) calls) ∧
    (∀ (s : InMemoryLaunchStateStore ttl) (now : ℚ) (state nonce : String),
      (s.consume now state nonce).2 = .error .nonceMismatch →
        (s.consume now state nonce).1 = s) ∧
    (∀ (s : RedisLaunchStateStore ttl) (state nonce : String),
      (s.consume state nonce).2 = .error .nonceMismatch → (s.consume state nonce).1 = s) :=
  ⟨kept_run, kept_run, LaunchStateStore.consume_mismatch,
    fun s state nonce => LaunchStateStore.consume_mismatch s 0 state nonce⟩

/-- A launch that was registered, tried with a wrong nonce, consumed and tried again. -/
def launchCalls : List Call :=
  [.register 0 ⟨"state", "nonce", "https://tool/launch", "https://lms"⟩,
    .elapse 5, .consume 5 "state" "wrong", .consume 5 "state" "nonce", .consume 5 "state" "nonce"]

theorem launchCalls_oneShot :
    (Run.final (logged step event)
        ((LaunchStateStore.empty : InMemoryLaunchStateStore 600), []) launchCalls).2 =
      [.take "state" ⟨"nonce", 5, "https://tool/launch", "https://lms"⟩,
        .put "state" ⟨"nonce", "https://tool/launch", "https://lms", 0⟩] ∧
    Run.Always (logged step event) (fun w => Kept (Honors 600) w.2)
      ((LaunchStateStore.empty : InMemoryLaunchStateStore 600), []) launchCalls ∧
    (((InMemoryLaunchStateStore.insert ⟨5, ∅⟩ "state" ⟨"nonce", "", "", 0⟩ :
      InMemoryLaunchStateStore 600).consume 5 "state" "wrong").1.lookup "state").isSome := by
  refine ⟨by decide +kernel, (launchState_oneShot 600).1 launchCalls, ?_⟩
  rw [(launchState_oneShot 600).2.2.1 _ 5 "state" "wrong" (by decide +kernel)]
  decide +kernel

end Lti
end ProctorEngine
