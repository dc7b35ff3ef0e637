import ProctorEngine.Lib.Run
import ProctorEngine.Lti.State

/-!
# One protocol, two backends

The in-memory store keeps expired entries until something sweeps them, Redis loses a key with its
expiry; one compares nonces with `secrets.compare_digest`, the other in Lua. To a client the first
difference is none, since a lookup that misses and one that finds an expired entry are both a launch
that is gone. The second is one: **`compare_digest` takes ASCII, and raises on anything else**, an
exception the protocol does not name.

`Agree` is the simulation: the keys Redis serves are the entries of the dictionary that have not
aged past the TTL. The two give the same answers exactly as long as no live entry is consumed with a
nonce outside ASCII, or has one.

The stores are run side by side under one clock, with the same operations at the same times. An
operation is at a time, and between two of them any time may pass; so an entry may age in either
store while nobody looks. A nonce that is registered is not looked at until somebody consumes its
state, which is why the condition is about `consume` alone.

Where the answers differ the stores need not agree any more, and nothing is said about the rest of
the run: the two sides of the equivalence speak of every step from the start, so the first
difference decides.
-/

set_option autoImplicit false

namespace ProctorEngine
namespace Lti

/-! ## 1. Operations and outcomes

What a client of the protocol can tell apart. A launch that is missing and one that has expired are
answered alike by the routes, so they are one outcome. -/

inductive Operation where
  | register (r : Registration)
  | consume (state nonce : String)
  | peek (state : String)
deriving DecidableEq

/-- What the caller of an operation sees. -/
inductive Outcome where
  | registered
  | consumed (c : Consumed)
  /-- `LaunchStateMissing` or `LaunchStateExpired`. -/
  | gone
  | valueError
  | typeError
  | issuer (registered : Option String)
deriving DecidableEq

def ConsumeError.outcome : ConsumeError → Outcome
  | .missing | .expired => .gone
  | .nonceMismatch => .valueError
  | .notAscii => .typeError

/-- An operation at a time, with what its caller sees. -/
def perform {σ : Type} {ttl : Nat} [LaunchStateStore σ ttl] (s : σ) (now : ℚ) :
    Operation → σ × Outcome
  | .register r =>
    if r.Valid then (LaunchStateStore.register s now r, .registered) else (s, .valueError)
  | .consume state nonce =>
    let result := LaunchStateStore.consume s now state nonce
    (result.1, match result.2 with
      | .ok c => .consumed c
      | .error e => e.outcome)
  | .peek state =>
    let result := LaunchStateStore.peek s state
    (result.1, .issuer result.2)

/-- A string `compare_digest` takes. -/
def Ascii (s : String) : Prop := s.toList.all (·.toNat < 128) = true

instance : DecidablePred Ascii := fun s =>
  inferInstanceAs (Decidable (s.toList.all (·.toNat < 128) = true))

/-- The entry has not aged past the TTL. -/
def Entry.Fresh (ttl : Nat) (now : ℚ) (e : Entry) : Prop := now - e.issuedAt ≤ ttl

instance {ttl : Nat} {now : ℚ} : DecidablePred (Entry.Fresh ttl now) := fun e =>
  inferInstanceAs (Decidable (now - e.issuedAt ≤ ttl))

theorem Entry.Fresh.before {ttl : Nat} {now : ℚ} {dt : ℚ≥0} {e : Entry}
    (h : e.Fresh ttl (now + dt)) : e.Fresh ttl now := by
  have hdt : (0 : ℚ) ≤ dt := dt.coe_nonneg
  unfold Entry.Fresh at *
  linarith

/-- Of the entries that have not aged, those that have not aged later. -/
theorem Entry.filter_fresh_filter {ttl : Nat} {now : ℚ} {dt : ℚ≥0} {o : Option Entry} :
    (o.filter (·.Fresh ttl now)).filter (·.Fresh ttl (now + dt)) =
      o.filter (·.Fresh ttl (now + dt)) := by
  rw [Option.filter_filter]
  congr 1
  funext e
  by_cases h : e.Fresh ttl (now + dt)
  · rw [decide_eq_true h, decide_eq_true h.before]
    rfl
  · rw [decide_eq_false h]
    exact Bool.and_false _

/-- The two stores under one clock. -/
structure Backends (ttl : Nat) where
  now : ℚ
  memory : InMemoryLaunchStateStore ttl
  redis : RedisLaunchStateStore ttl

namespace Backends

variable {ttl : Nat}

def start : Backends ttl := ⟨0, LaunchStateStore.empty, LaunchStateStore.empty⟩

/-- Time passes. -/
def wait (b : Backends ttl) (dt : ℚ≥0) : Backends ttl where
  now := b.now + dt
  memory := LaunchStateStore.elapse b.memory dt
  redis := LaunchStateStore.elapse b.redis dt

/-- Both stores perform the operation, so much later. -/
def step (b : Backends ttl) (op : ℚ≥0 × Operation) : Backends ttl :=
  { b.wait op.1 with
    memory := (perform (b.wait op.1).memory (b.wait op.1).now op.2).1
    redis := (perform (b.wait op.1).redis (b.wait op.1).now op.2).1 }

/-- Both give the same outcome. -/
def Same (b : Backends ttl) (op : ℚ≥0 × Operation) : Prop :=
  (perform (b.wait op.1).memory (b.wait op.1).now op.2).2 =
    (perform (b.wait op.1).redis (b.wait op.1).now op.2).2

instance {b : Backends ttl} : DecidablePred b.Same := fun op =>
  inferInstanceAs (Decidable ((perform (b.wait op.1).memory (b.wait op.1).now op.2).2 =
    (perform (b.wait op.1).redis (b.wait op.1).now op.2).2))

/-- A `consume` that finds a live entry finds two nonces in ASCII. -/
def Comparable (b : Backends ttl) (op : ℚ≥0 × Operation) : Prop :=
  ∀ state nonce, op.2 = .consume state nonce → ∀ e, b.memory.lookup state = some e →
    e.Fresh ttl (b.now + op.1) → Ascii e.nonce ∧ Ascii nonce

/-! ## 2. The simulation

The dictionary and the keyspace, each seen as a function from states to live entries. -/

/-- What Redis serves is what has not aged in the dictionary. -/
structure Agree (b : Backends ttl) : Prop where
  memoryClock : b.memory.clock = b.now
  redisClock : b.redis.clock = b.now
  live : ∀ state, b.redis.live state = (b.memory.lookup state).filter (·.Fresh ttl b.now)
  named : b.memory.lookup "" = none

end Backends

/-! ### The dictionary -/

namespace InMemoryLaunchStateStore

variable {ttl : Nat} {s : InMemoryLaunchStateStore ttl} {state : String}

theorem delete_lookup_ne {j : String} (h : j ≠ state) : (s.delete state).lookup j = s.lookup j :=
  AList.lookup_erase_ne h

@[simp] theorem foldl_delete_clock {keys : List String} :
    (keys.foldl delete s).clock = s.clock := by
  induction keys generalizing s with
  | nil => rfl
  | cons key keys ih => exact ih

theorem foldl_delete_lookup {keys : List String} :
    (keys.foldl delete s).lookup state = if state ∈ keys then none else s.lookup state := by
  induction keys generalizing s with
  | nil => rfl
  | cons key keys ih =>
    rw [List.foldl_cons, ih]
    by_cases hkeys : state ∈ keys
    · rw [if_pos hkeys, if_pos (List.mem_cons_of_mem key hkeys)]
    · rw [if_neg hkeys]
      by_cases hkey : state = key
      · rw [if_pos (hkey ▸ List.mem_cons_self), hkey, delete_lookup]
      · rw [if_neg (by simp [hkey, hkeys]), delete_lookup_ne hkey]

/-- What a purge leaves. -/
theorem purgeExpiredLocked_lookup :
    s.purgeExpiredLocked.1.lookup state = (s.lookup state).filter (·.Fresh ttl s.clock) := by
  unfold purgeExpiredLocked
  dsimp only
  rw [foldl_delete_lookup]
  -- A key is deleted exactly if its one entry has expired.
  have hmem : state ∈ (s.entries.entries.filter fun x => (ttl : ℚ) < s.clock - x.2.issuedAt).map
      (·.1) ↔ ∃ e, s.lookup state = some e ∧ (ttl : ℚ) < s.clock - e.issuedAt := by
    rw [List.mem_map]
    constructor
    · rintro ⟨x, hx, rfl⟩
      obtain ⟨hentry, hexpired⟩ := List.mem_filter.mp hx
      exact ⟨x.2, AList.mem_lookup_iff.mpr hentry, by simpa using hexpired⟩
    · rintro ⟨e, he, hexpired⟩
      exact ⟨⟨state, e⟩, List.mem_filter.mpr ⟨AList.mem_lookup_iff.mp he, by simpa using hexpired⟩,
        rfl⟩
  cases hlookup : s.lookup state with
  | none => simp
  | some e =>
    rw [hlookup] at hmem
    rw [Option.filter_some]
    by_cases hexpired : (ttl : ℚ) < s.clock - e.issuedAt
    · have haged : ¬ e.Fresh ttl s.clock := not_le.mpr hexpired
      rw [if_pos (hmem.mpr ⟨e, rfl, hexpired⟩), decide_eq_false haged]
      rfl
    · have hkept : state ∉ (s.entries.entries.filter fun x =>
          (ttl : ℚ) < s.clock - x.2.issuedAt).map (·.1) := by
        intro h
        obtain ⟨e', he', hexpired'⟩ := hmem.mp h
        exact hexpired (Option.some.inj he' ▸ hexpired')
      have hfresh : e.Fresh ttl s.clock := not_lt.mp hexpired
      rw [if_neg hkept, decide_eq_true hfresh]
      rfl

@[simp] theorem purgeExpiredLocked_clock : s.purgeExpiredLocked.1.clock = s.clock :=
  foldl_delete_clock

theorem compareDigest_of_ascii {a b : String} (ha : Ascii a) (hb : Ascii b) :
    compareDigest a b = some (decide (a = b)) := if_pos ⟨ha, hb⟩

theorem compareDigest_of_not_ascii {a b : String} (h : ¬ (Ascii a ∧ Ascii b)) :
    compareDigest a b = none := if_neg h

/-- `consume` of a state that has an entry. -/
theorem consume_entry (now : ℚ) (nonce : String) {e : Entry} (hstate : state ≠ "")
    (he : s.lookup state = some e) :
    s.consume now state nonce =
      if e.Fresh ttl now then
        match compareDigest e.nonce nonce with
        | none => (s, .error .notAscii)
        | some false => (s, .error .nonceMismatch)
        | some true => (s.delete state, .ok (e.redirectUri, e.ltiIssuer))
      else (s.delete state, .error .expired) := by
  simp only [consume, if_neg hstate, he]
  by_cases hfresh : e.Fresh ttl now
  · exact (if_neg (not_lt.mpr hfresh)).trans (if_pos hfresh).symm
  · exact (if_pos (not_le.mp hfresh)).trans (if_neg hfresh).symm

end InMemoryLaunchStateStore

/-! ### The keyspace -/

namespace RedisLaunchStateStore

variable {ttl : Nat} {s : RedisLaunchStateStore ttl} {state nonce : String}

/-- What the keyspace serves are the entries it holds that have not aged. -/
theorem live_eq_filter :
    s.live state = ((s.keys.lookup (redisKey state)).map fun v =>
      (⟨v.nonce, v.redirectUri, v.ltiIssuer, v.expireAt - ttl⟩ : Entry)).filter
        (·.Fresh ttl s.clock) := by
  unfold live get
  cases s.keys.lookup (redisKey state) with
  | none => rfl
  | some v =>
    rw [Option.filter_some, Option.map_some, Option.filter_some]
    have hage :
        (⟨v.nonce, v.redirectUri, v.ltiIssuer, v.expireAt - ttl⟩ : Entry).Fresh ttl s.clock ↔
        s.clock ≤ v.expireAt := by
      unfold Entry.Fresh
      constructor
      · intro h
        linarith
      · intro h
        linarith
    by_cases hserved : s.clock ≤ v.expireAt
    · rw [decide_eq_true hserved, decide_eq_true (hage.mpr hserved)]
      rfl
    · rw [decide_eq_false hserved, decide_eq_false fun h => hserved (hage.mp h)]
      rfl

/-- A later clock serves those that have still not aged. -/
theorem elapse_live {dt : ℚ≥0} :
    (LaunchStateStore.elapse s dt).live state =
      (s.live state).filter (·.Fresh ttl (s.clock + dt)) := by
  rw [live_eq_filter, live_eq_filter, Entry.filter_fresh_filter]
  rfl

theorem del_live : (s.del (redisKey state)).live state = none := by
  rw [live, get_del]
  rfl

theorem del_live_ne {j : String} (h : j ≠ state) :
    (s.del (redisKey state)).live j = s.live j := by
  rw [live, get_del_ne fun heq => h (redisKey_inj.mp heq), live]

/-- `consume`, over what is live. -/
theorem consume_live (hstate : state ≠ "") :
    s.consume state nonce =
      match s.live state with
      | none => (s, .error .missing)
      | some e =>
        if e.nonce = nonce then (s.del (redisKey state), .ok (e.redirectUri, e.ltiIssuer))
        else (s, .error .nonceMismatch) := by
  rw [consume_eq hstate, live]
  cases s.get (redisKey state) with
  | none => rfl
  | some v => rfl

end RedisLaunchStateStore

/-! ## 3. One operation

Registering, deleting and aging, each of them kept in step. -/

namespace Backends

variable {ttl : Nat} {b : Backends ttl} {dt : ℚ≥0} {r : Registration} {state : String}

theorem agree_start : Agree (start : Backends ttl) := ⟨rfl, rfl, fun _ => rfl, rfl⟩

theorem Agree.wait (h : Agree b) : Agree (b.wait dt) := by
  refine ⟨?_, ?_, ?_, h.named⟩
  · exact congrArg (· + (dt : ℚ)) h.memoryClock
  · exact congrArg (· + (dt : ℚ)) h.redisClock
  · intro state
    have hlive : (b.wait dt).redis.live state =
        (b.redis.live state).filter (·.Fresh ttl (b.redis.clock + dt)) :=
      RedisLaunchStateStore.elapse_live
    rw [hlive, h.live, h.redisClock, Entry.filter_fresh_filter]
    rfl

/-- Both registrations file the entry; only the dictionary is swept. -/
theorem Agree.register (h : Agree b) (hvalid : r.Valid) :
    Agree { b with memory := b.memory.register b.now r, redis := b.redis.register r } := by
  simp only [InMemoryLaunchStateStore.register, RedisLaunchStateStore.register, if_pos hvalid]
  refine ⟨?_, h.redisClock, ?_, ?_⟩
  · exact (InMemoryLaunchStateStore.purgeExpiredLocked_clock).trans h.memoryClock
  · intro state
    dsimp only
    -- the new entry, or one that was there and may be swept
    by_cases hstate : state = r.state
    · subst hstate
      have hfresh : (r.entry b.now).Fresh ttl b.now := by simp [Entry.Fresh, Registration.entry]
      rw [InMemoryLaunchStateStore.insert_lookup, RedisLaunchStateStore.live,
        RedisLaunchStateStore.get_set, h.redisClock, Option.filter_some, decide_eq_true hfresh]
      simp [Registration.entry]
    · rw [InMemoryLaunchStateStore.insert_lookup_ne hstate,
        InMemoryLaunchStateStore.purgeExpiredLocked_lookup, h.memoryClock,
        RedisLaunchStateStore.live, RedisLaunchStateStore.get_set_ne
          fun heq => hstate (redisKey_inj.mp heq)]
      rw [← RedisLaunchStateStore.live, h.live]
      simp [Option.filter_filter]
  · dsimp only
    rw [InMemoryLaunchStateStore.insert_lookup_ne (Ne.symm hvalid.1),
      InMemoryLaunchStateStore.purgeExpiredLocked_lookup, h.named]
    rfl

/-- A key and an entry deleted together. -/
theorem Agree.delete (h : Agree b) (state : String) :
    Agree { b with memory := b.memory.delete state, redis := b.redis.del (redisKey state) } := by
  refine ⟨h.memoryClock, h.redisClock, ?_, ?_⟩
  · intro j
    dsimp only
    by_cases hj : j = state
    · rw [hj, RedisLaunchStateStore.del_live, InMemoryLaunchStateStore.delete_lookup]
      rfl
    · rw [RedisLaunchStateStore.del_live_ne hj, InMemoryLaunchStateStore.delete_lookup_ne hj]
      exact h.live j
  · by_cases hstate : "" = state
    · rw [hstate]
      exact InMemoryLaunchStateStore.delete_lookup
    · exact (InMemoryLaunchStateStore.delete_lookup_ne hstate).trans h.named

/-- An aged entry deleted: Redis has lost its key before. -/
theorem Agree.expire {e : Entry} (h : Agree b) (he : b.memory.lookup state = some e)
    (haged : ¬ e.Fresh ttl b.now) : Agree { b with memory := b.memory.delete state } := by
  have hdelete := h.delete state
  refine ⟨h.memoryClock, h.redisClock, ?_, hdelete.named⟩
  intro j
  by_cases hj : j = state
  · have hnone : b.redis.live state = none := by
      rw [h.live, he, Option.filter_some, decide_eq_false haged]
      rfl
    have hgone : (b.memory.delete state).lookup state = none :=
      InMemoryLaunchStateStore.delete_lookup
    dsimp only
    rw [hj, hnone, hgone]
    rfl
  · have hother := hdelete.live j
    dsimp only at hother ⊢
    rwa [RedisLaunchStateStore.del_live_ne hj] at hother

/-! ## 4. What a client sees

Operation by operation: the outcomes, and that the stores go on agreeing. Of `consume` there are two
cases, with a live entry and without one. -/

/-- The stores after an operation performed at once. -/
def after (b : Backends ttl) (op : Operation) : Backends ttl :=
  { b with memory := (perform b.memory b.now op).1, redis := (perform b.redis b.now op).1 }

/-- A state without a live entry is gone from both. -/
theorem consume_gone (nonce : String) (h : Agree b)
    (hgone : ∀ e, b.memory.lookup state = some e → ¬ e.Fresh ttl b.now) :
    (perform b.memory b.now (.consume state nonce)).2 = .gone ∧
      (perform b.redis b.now (.consume state nonce)).2 = .gone ∧
        Agree (b.after (.consume state nonce)) := by
  by_cases hstate : state = ""
  · subst hstate
    exact ⟨rfl, rfl, h⟩
  have hnone : b.redis.live state = none := by
    rw [h.live, Option.filter_eq_none_iff]
    intro e he
    simpa using hgone e he
  have hredis : b.redis.consume state nonce = (b.redis, .error .missing) := by
    rw [RedisLaunchStateStore.consume_live hstate, hnone]
  cases he : b.memory.lookup state with
  -- nothing under the state, in either store
  | none =>
    have hmemory : b.memory.consume b.now state nonce = (b.memory, .error .missing) := by
      simp only [InMemoryLaunchStateStore.consume, if_neg hstate, he]
    simp only [after, perform, LaunchStateStore.consume, hmemory, hredis]
    exact ⟨rfl, rfl, h⟩
  -- an aged entry, which only the dictionary still has to delete
  | some e =>
    have hmemory : b.memory.consume b.now state nonce =
        (b.memory.delete state, .error .expired) := by
      rw [InMemoryLaunchStateStore.consume_entry b.now nonce hstate he, if_neg (hgone e he)]
    simp only [after, perform, LaunchStateStore.consume, hmemory, hredis]
    exact ⟨rfl, rfl, h.expire he (hgone e he)⟩

/-- A live entry: the same answer from both, unless `compare_digest` raises. -/
theorem consume_found {e : Entry} (nonce : String) (h : Agree b)
    (he : b.memory.lookup state = some e) (hfresh : e.Fresh ttl b.now) :
    ((perform b.memory b.now (.consume state nonce)).2 =
        (perform b.redis b.now (.consume state nonce)).2 ↔ Ascii e.nonce ∧ Ascii nonce) ∧
      (Ascii e.nonce ∧ Ascii nonce → Agree (b.after (.consume state nonce))) := by
  have hstate : state ≠ "" := by
    intro hempty
    exact absurd ((hempty ▸ he).symm.trans h.named) (by simp)
  have hlive : b.redis.live state = some e := by
    rw [h.live, he, Option.filter_some, decide_eq_true hfresh]
    rfl
  have hredis : b.redis.consume state nonce =
      if e.nonce = nonce then (b.redis.del (redisKey state), .ok (e.redirectUri, e.ltiIssuer))
      else (b.redis, .error .nonceMismatch) := by
    rw [RedisLaunchStateStore.consume_live hstate, hlive]
  have hmemory := InMemoryLaunchStateStore.consume_entry b.now nonce hstate he
  rw [if_pos hfresh] at hmemory
  by_cases hascii : Ascii e.nonce ∧ Ascii nonce
  · rw [InMemoryLaunchStateStore.compareDigest_of_ascii hascii.1 hascii.2] at hmemory
    -- the right nonce takes the entry from both stores, a wrong one from neither
    by_cases hnonce : e.nonce = nonce
    · rw [decide_eq_true hnonce] at hmemory
      rw [if_pos hnonce] at hredis
      simp only [after, perform, LaunchStateStore.consume, hmemory, hredis]
      exact ⟨iff_of_true trivial hascii, fun _ => h.delete state⟩
    · rw [decide_eq_false hnonce] at hmemory
      rw [if_neg hnonce] at hredis
      simp only [after, perform, LaunchStateStore.consume, hmemory, hredis]
      exact ⟨iff_of_true trivial hascii, fun _ => h⟩
  · rw [InMemoryLaunchStateStore.compareDigest_of_not_ascii hascii] at hmemory
    refine ⟨iff_of_false ?_ hascii, fun h => absurd h hascii⟩
    -- a `TypeError` here, and there a success or a `ValueError`
    by_cases hnonce : e.nonce = nonce
    · rw [if_pos hnonce] at hredis
      simp [perform, LaunchStateStore.consume, hmemory, hredis, ConsumeError.outcome]
    · rw [if_neg hnonce] at hredis
      simp [perform, LaunchStateStore.consume, hmemory, hredis, ConsumeError.outcome]

/-- Both name the issuer of a live entry. -/
theorem peek_same (state : String) (h : Agree b) :
    (perform b.memory b.now (.peek state)).2 = (perform b.redis b.now (.peek state)).2 ∧
      Agree (b.after (.peek state)) := by
  have hpurged : ∀ j, b.memory.purgeExpiredLocked.1.lookup j =
      (b.memory.lookup j).filter (·.Fresh ttl b.now) := by
    intro j
    rw [InMemoryLaunchStateStore.purgeExpiredLocked_lookup, h.memoryClock]
  refine ⟨?_, ?_⟩
  · show Outcome.issuer ((b.memory.purgeExpiredLocked.1.lookup state).map (·.ltiIssuer)) =
      .issuer (b.redis.peek state)
    congr 1
    rw [hpurged]
    -- The dictionary has no check of the empty state, and needs none: nothing is stored under it.
    by_cases hstate : state = ""
    · subst hstate
      rw [h.named]
      rfl
    · rw [← h.live]
      exact (LaunchStateStore.peek_live b.redis state hstate).symm
  · refine ⟨?_, h.redisClock, ?_, ?_⟩
    · exact InMemoryLaunchStateStore.purgeExpiredLocked_clock.trans h.memoryClock
    · intro j
      show b.redis.live j = (b.memory.purgeExpiredLocked.1.lookup j).filter (·.Fresh ttl b.now)
      rw [hpurged, Option.filter_filter, h.live]
      simp
    · show b.memory.purgeExpiredLocked.1.lookup "" = none
      rw [hpurged, h.named]
      rfl

/-- **One operation on agreeing stores**: the outcomes are the same exactly where the nonces can
    be compared, and then the stores go on agreeing. -/
theorem Agree.operation {op : ℚ≥0 × Operation} (h : Agree b) :
    (b.Same op ↔ b.Comparable op) ∧ (b.Comparable op → Agree (b.step op)) := by
  obtain ⟨dt, op⟩ := op
  have hwait : Agree (b.wait dt) := h.wait
  cases op with
  | register r =>
    have hcomparable : b.Comparable (dt, .register r) := by
      intro state nonce heq
      exact absurd heq (by simp)
    -- Both stores validate before they write, so they refuse the same registrations.
    by_cases hvalid : r.Valid
    · have hmemory : perform (b.wait dt).memory (b.wait dt).now (.register r) =
          ((b.wait dt).memory.register (b.wait dt).now r, .registered) := if_pos hvalid
      have hredis : perform (b.wait dt).redis (b.wait dt).now (.register r) =
          ((b.wait dt).redis.register r, .registered) := if_pos hvalid
      unfold Same step
      rw [hmemory, hredis]
      exact ⟨iff_of_true rfl hcomparable, fun _ => hwait.register hvalid⟩
    · have hmemory : perform (b.wait dt).memory (b.wait dt).now (.register r) =
          ((b.wait dt).memory, .valueError) := if_neg hvalid
      have hredis : perform (b.wait dt).redis (b.wait dt).now (.register r) =
          ((b.wait dt).redis, .valueError) := if_neg hvalid
      unfold Same step
      rw [hmemory, hredis]
      exact ⟨iff_of_true rfl hcomparable, fun _ => hwait⟩
  | peek state =>
    have hcomparable : b.Comparable (dt, .peek state) := by
      intro state nonce heq
      exact absurd heq (by simp)
    obtain ⟨hsame, hagree⟩ := peek_same state hwait
    exact ⟨iff_of_true hsame hcomparable, fun _ => hagree⟩
  | consume state nonce =>
    have hcomparable : b.Comparable (dt, .consume state nonce) ↔
        ∀ e, (b.wait dt).memory.lookup state = some e → e.Fresh ttl (b.wait dt).now →
          Ascii e.nonce ∧ Ascii nonce := by
      constructor
      · intro hcomparable
        exact hcomparable state nonce rfl
      · intro hcomparable state' nonce' heq
        obtain ⟨rfl, rfl⟩ := Operation.consume.inj heq
        exact hcomparable
    -- Where no fresh entry is left neither store reaches the comparison of nonces, which is the
    -- only place they part.
    by_cases hgone : ∀ e, (b.wait dt).memory.lookup state = some e → ¬ e.Fresh ttl (b.wait dt).now
    · obtain ⟨hmemory, hredis, hagree⟩ := consume_gone nonce hwait hgone
      refine ⟨iff_of_true (hmemory.trans hredis.symm) (hcomparable.mpr ?_), fun _ => hagree⟩
      intro e he hfresh
      exact absurd hfresh (hgone e he)
    · push Not at hgone
      obtain ⟨e, he, hfresh⟩ := hgone
      obtain ⟨hsame, hagree⟩ := consume_found nonce hwait he hfresh
      have hnonces : b.Comparable (dt, .consume state nonce) ↔ Ascii e.nonce ∧ Ascii nonce := by
        rw [hcomparable]
        constructor
        · intro hall
          exact hall e he hfresh
        · intro hascii e' he' _
          exact Option.some.inj (he.symm.trans he') ▸ hascii
      exact ⟨hsame.trans hnonces.symm, fun hcomparable => hagree (hnonces.mp hcomparable)⟩

/-- **The backends are interchangeable exactly as long as every `consume` of a live entry finds two
    nonces in ASCII.** The dictionary compares with `compare_digest`, which takes no other strings;
    the script compares them as they are. -/
theorem same_iff (ttl : Nat) (ops : List (ℚ≥0 × Operation)) :
    Run.EachStep step Same (start : Backends ttl) ops ↔
      Run.EachStep step Comparable (start : Backends ttl) ops := by
  apply Run.eachStep_iff_of_kept (I := Agree)
  · intro b op h hsame
    exact h.operation.2 (h.operation.1.mp hsame)
  · intro b op h
    exact h.operation.1
  · exact agree_start

/-- A launch whose platform answers with a nonce outside ASCII. -/
def accentedLaunch : List (ℚ≥0 × Operation) :=
  [(0, .register ⟨"state", "nonce", "https://tool/launch", "https://lms"⟩),
    (1, .consume "state" "noncé")]

/-- A wrong nonce is a `TypeError` in memory. -/
theorem accentedLaunch_not_same :
    ¬ ∀ (ttl : Nat) (ops : List (ℚ≥0 × Operation)),
      Run.EachStep step Same (start : Backends ttl) ops := by
  intro h
  exact absurd (h 600 accentedLaunch) (by decide +kernel)

end Backends

end Lti
end ProctorEngine
