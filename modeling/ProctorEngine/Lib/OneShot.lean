import Mathlib.Data.List.Basic
import ProctorEngine.Lib.Run

/-!
# One-shot stores

A one-shot store holds at most one entry a key. A *put* files an entry, over whatever was
there; a *take* removes it and hands out something made of it; and at any time an entry may go
by itself, because it expired or was swept. A client sees the puts and the takes, never the
store.

What the client is promised is a property of that log: a take hands out what the latest put of
its key filed, and **between two takes of one key lies a put**, so nothing that was put is taken
twice. An implementation owes one fact per operation (`Change`); the rest is here.
-/

set_option autoImplicit false

namespace OneShot

/-- What a client sees: an entry put under a key, or something taken from one. -/
inductive Event (κ ε ρ : Type*) where
  | put (k : κ) (e : ε)
  | take (k : κ) (r : ρ)
deriving DecidableEq, Repr

variable {κ ε ρ σ α : Type*}

def Event.key : Event κ ε ρ → κ
  | .put k _ => k
  | .take k _ => k

/-- The latest event about a key; a log has its newest event first. -/
def latest [DecidableEq κ] (log : List (Event κ ε ρ)) (k : κ) : Option (Event κ ε ρ) :=
  log.find? fun x => x.key = k

/-- The entry of a put under the key, if the event is one. -/
def Event.put? [DecidableEq κ] (k : κ) : Event κ ε ρ → Option ε
  | .put j e => if j = k then some e else none
  | .take _ _ => none

/-- The entry of the latest put of a key. -/
def latestPut [DecidableEq κ] (log : List (Event κ ε ρ)) (k : κ) : Option ε :=
  log.findSome? (Event.put? k)

/-- No entry comes or changes; entries may go. -/
def Shrinks (look look' : κ → Option ε) : Prop := ∀ k, look' k = look k ∨ look' k = none

/-- The same at every key but one. -/
def ShrinksBut (k : κ) (look look' : κ → Option ε) : Prop :=
  ∀ j, j ≠ k → look' j = look j ∨ look' j = none

/-- What an operation owes: `yields` relates an entry to what a take may make of it. -/
inductive Change (yields : ε → ρ → Prop) (look look' : κ → Option ε) :
    Option (Event κ ε ρ) → Prop
  | idle (rest : Shrinks look look') : Change yields look look' none
  | put {k : κ} {e : ε} (new : look' k = some e) (rest : ShrinksBut k look look') :
      Change yields look look' (some (.put k e))
  | take {k : κ} {e : ε} {r : ρ} (old : look k = some e) (made : yields e r)
      (gone : look' k = none) (rest : ShrinksBut k look look') :
      Change yields look look' (some (.take k r))

/-- The promise. -/
structure Kept [DecidableEq κ] (yields : ε → ρ → Prop) (log : List (Event κ ε ρ)) : Prop where
  honest : ∀ newer k r older, log = newer ++ .take k r :: older →
    ∃ e, latestPut older k = some e ∧ yields e r
  once : ∀ newer k r mid r' older, log = newer ++ .take k r :: (mid ++ .take k r' :: older) →
    ∃ e, .put k e ∈ mid

section
variable {look look' : κ → Option ε} {k : κ} {e : ε}

theorem Shrinks.refl : Shrinks look look := fun _ => .inl rfl

theorem Shrinks.trans {look'' : κ → Option ε} (h : Shrinks look look')
    (h' : Shrinks look' look'') : Shrinks look look'' := by
  intro k
  rcases h' k with hk | hk
  · rw [hk]
    exact h k
  · exact .inr hk

theorem Shrinks.but (h : Shrinks look look') (k : κ) : ShrinksBut k look look' :=
  fun j _ => h j

theorem Shrinks.of_some (h : Shrinks look look') (hk : look' k = some e) : look k = some e := by
  rcases h k with hsame | hnone
  · exact hsame.symm.trans hk
  · exact absurd (hnone.symm.trans hk) (by simp)

theorem Shrinks.none (h : Shrinks look look') (hk : look k = none) : look' k = none := by
  rcases h k with hsame | hnone
  · exact hsame.trans hk
  · exact hnone

end

section
variable [DecidableEq κ] {yields : ε → ρ → Prop} {look look' : κ → Option ε}
  {log : List (Event κ ε ρ)} {event : Option (Event κ ε ρ)} {k : κ} {e : ε} {r : ρ}

theorem latest_cons {x : Event κ ε ρ} :
    latest (x :: log) k = if x.key = k then some x else latest log k := by
  unfold latest
  by_cases hx : x.key = k <;> simp [hx]

/-- If the latest event about a key is a put, it is the latest put. -/
theorem latestPut_of_latest (h : latest log k = some (.put k e)) : latestPut log k = some e := by
  induction log with
  | nil => exact absurd h (by simp [latest])
  | cons x log ih =>
    rw [latest_cons] at h
    by_cases hx : x.key = k
    · rw [if_pos hx] at h
      obtain rfl := Option.some.inj h
      simp [latestPut, Event.put?]
    · rw [if_neg hx] at h
      rw [latestPut, List.findSome?_cons]
      cases x with
      | put j e' =>
        have hne : j ≠ k := hx
        rw [Event.put?, if_neg hne]
        exact ih h
      | take j r => exact ih h

/-- The put that is the latest event about a key is newer than any take of it. -/
theorem mem_of_latest {newer older : List (Event κ ε ρ)} {r' : ρ}
    (h : latest (newer ++ .take k r' :: older) k = some (.put k e)) : .put k e ∈ newer := by
  induction newer with
  | nil => exact absurd h (by simp [latest_cons, Event.key])
  | cons x newer ih =>
    rw [List.cons_append, latest_cons] at h
    by_cases hx : x.key = k
    · rw [if_pos hx] at h
      obtain rfl := Option.some.inj h
      exact List.mem_cons_self
    · rw [if_neg hx] at h
      exact List.mem_cons_of_mem x (ih h)

/-- The invariant: what the store holds was put, and has not been taken since. -/
def Tracks (log : List (Event κ ε ρ)) (look : κ → Option ε) : Prop :=
  ∀ k e, look k = some e → latest log k = some (.put k e)

theorem Tracks.change (h : Tracks log look) (hchange : Change yields look look' event) :
    Tracks (event.toList ++ log) look' := by
  intro j e' hj
  cases hchange with
  | idle hrest => exact h j e' (hrest.of_some hj)
  | @put k e hnew hrest =>
    show latest (.put k e :: log) j = _
    rw [latest_cons, Event.key]
    by_cases hjk : j = k
    · subst hjk
      obtain rfl := Option.some.inj (hnew.symm.trans hj)
      exact if_pos rfl
    · rw [if_neg (Ne.symm hjk)]
      rcases hrest j hjk with hsame | hnone
      · exact h j e' (hsame.symm.trans hj)
      · exact absurd (hnone.symm.trans hj) (by simp)
  | @take k e r _ _ hgone hrest =>
    show latest (.take k r :: log) j = _
    rw [latest_cons, Event.key]
    by_cases hjk : j = k
    · subst hjk
      exact absurd (hgone.symm.trans hj) (by simp)
    · rw [if_neg (Ne.symm hjk)]
      rcases hrest j hjk with hsame | hnone
      · exact h j e' (hsame.symm.trans hj)
      · exact absurd (hnone.symm.trans hj) (by simp)

/-- The converse, for a store whose entries do not go by themselves: what was put and has not
    been taken since is still there. -/
def Retains (log : List (Event κ ε ρ)) (look : κ → Option ε) : Prop :=
  ∀ k e, latest log k = some (.put k e) → look k = some e

theorem Retains.change (h : Retains log look) (hchange : Change yields look look' event)
    (hstay : ∀ k e, look k = some e → look' k = some e ∨ ∃ x ∈ event, x.key = k) :
    Retains (event.toList ++ log) look' := by
  intro j e' hj
  -- what is not about the event's key was there before, and has stayed
  have hother : (∀ x ∈ event, x.key ≠ j) → latest log j = some (.put j e') →
      look' j = some e' := by
    intro hkey hlatest
    rcases hstay j e' (h j e' hlatest) with hsame | ⟨x, hx, hxj⟩
    · exact hsame
    · exact absurd hxj (hkey x hx)
  cases hchange with
  | idle _ => exact hother (by simp) hj
  | @put k e hnew _ =>
    rw [Option.toList_some, List.singleton_append, latest_cons, Event.key] at hj
    by_cases hkj : k = j
    · subst hkj
      rw [if_pos rfl] at hj
      obtain ⟨-, rfl⟩ := Event.put.inj (Option.some.inj hj)
      exact hnew
    · rw [if_neg hkj] at hj
      exact hother (by simpa [Event.key] using hkj) hj
  | @take k e r _ _ _ _ =>
    rw [Option.toList_some, List.singleton_append, latest_cons, Event.key] at hj
    by_cases hkj : k = j
    · rw [if_pos hkj] at hj
      exact absurd hj (by simp)
    · rw [if_neg hkj] at hj
      exact hother (by simpa [Event.key] using hkj) hj

theorem kept_nil : Kept yields ([] : List (Event κ ε ρ)) :=
  ⟨fun _ _ _ _ h => absurd h (by simp), fun _ _ _ _ _ _ h => absurd h (by simp)⟩

theorem Kept.change (h : Kept yields log) (htracks : Tracks log look)
    (hchange : Change yields look look' event) : Kept yields (event.toList ++ log) := by
  cases hchange with
  | idle _ => exact h
  | @put k e _ _ =>
    refine ⟨?_, ?_⟩
    · intro newer j r older hlog
      cases newer with
      | nil => exact absurd (List.cons.inj hlog).1 (by simp)
      | cons x newer => exact h.honest newer j r older (List.cons.inj hlog).2
    · intro newer j r mid r' older hlog
      cases newer with
      | nil => exact absurd (List.cons.inj hlog).1 (by simp)
      | cons x newer => exact h.once newer j r mid r' older (List.cons.inj hlog).2
  -- The newest event of `k` is its put, so what is taken was put and not taken since.
  | @take k e r hold hyields _ _ =>
    have hlatest : latest log k = some (.put k e) := htracks k e hold
    refine ⟨?_, ?_⟩
    · intro newer j r older hlog
      cases newer with
      | nil =>
        obtain ⟨hhead, rfl⟩ := List.cons.inj hlog
        obtain ⟨rfl, rfl⟩ := Event.take.inj hhead
        exact ⟨e, latestPut_of_latest hlatest, hyields⟩
      | cons x newer => exact h.honest newer j r older (List.cons.inj hlog).2
    · intro newer j r mid r' older hlog
      cases newer with
      | nil =>
        obtain ⟨hhead, rfl⟩ := List.cons.inj hlog
        obtain ⟨rfl, rfl⟩ := Event.take.inj hhead
        exact ⟨e, mem_of_latest hlatest⟩
      | cons x newer => exact h.once newer j r mid r' older (List.cons.inj hlog).2

end

/-! ## Runs -/

/-- A system and the log of what its clients saw. -/
def logged {E : Type*} (step : σ → α → σ) (event : σ → α → Option E) (w : σ × List E) (a : α) :
    σ × List E :=
  (step w.1 a, (event w.1 a).toList ++ w.2)

/-- **An implementation whose every operation pays what it owes keeps the promise.** -/
theorem kept_always [DecidableEq κ] {yields : ε → ρ → Prop} {step : σ → α → σ}
    {event : σ → α → Option (Event κ ε ρ)} {look : σ → κ → Option ε}
    (hchange : ∀ s a, Change yields (look s) (look (step s a)) (event s a)) {s : σ}
    (hempty : ∀ k, look s k = none) {as : List α} :
    Run.Always (logged step event) (fun w => Kept yields w.2) (s, []) as := by
  have hinv : Run.Always (logged step event)
      (fun w => Tracks w.2 (look w.1) ∧ Kept yields w.2) (s, []) as := by
    refine Run.always_of_step ?_ ⟨?_, kept_nil⟩
    · intro w a hw
      exact ⟨hw.1.change (hchange w.1 a), hw.2.change hw.1 (hchange w.1 a)⟩
    · intro k e hk
      exact absurd ((hempty k).symm.trans hk) (by simp)
  exact hinv.mono fun w hw => hw.2

end OneShot
