import Mathlib.Data.List.Pairwise
import Mathlib.Data.List.Basic

/-!
# Tables with uniqueness constraints

A relational table is a list of rows in insertion order together with the proof that no two
of them *clash*, where `clash` is the union of the table's primary key and its unique
constraints. An insert either appends the row or is refused; nothing else can be built, so
**no theorem about a program over a `Table` ever re-proves that a unique column is unique**.

An update maps the rows by a function that creates no clash. The interface is membership:
`mem_insert?`, `mem_update` and `find?_eq_some_iff` are all a proof about a program needs,
and none of them mentions the list.
-/

set_option autoImplicit false

universe u

/-- Rows in insertion order, no two of which clash. -/
@[ext] structure Table (ρ : Type u) (clash : ρ → ρ → Prop) where
  rows : List ρ
  distinct : rows.Pairwise fun a b => ¬ clash a b

namespace Table

variable {ρ : Type u} {clash : ρ → ρ → Prop}

instance : Membership ρ (Table ρ clash) := ⟨fun t r => r ∈ t.rows⟩

theorem mem_rows {t : Table ρ clash} {r : ρ} : r ∈ t.rows ↔ r ∈ t := Iff.rfl

instance [DecidableEq ρ] (t : Table ρ clash) (r : ρ) : Decidable (r ∈ t) :=
  inferInstanceAs (Decidable (r ∈ t.rows))

/-- The table without rows. -/
def empty : Table ρ clash := ⟨[], .nil⟩

instance : EmptyCollection (Table ρ clash) := ⟨empty⟩

@[simp] theorem not_mem_empty {r : ρ} : r ∉ (∅ : Table ρ clash) := List.not_mem_nil

/-- A table of one row. -/
def single (r : ρ) : Table ρ clash := ⟨[r], List.pairwise_singleton _ _⟩

/-! ## 1. Insert

The one operation that can be refused. -/

/-- Append a row, unless it clashes with one that is there. -/
def insert? [DecidableRel clash] (t : Table ρ clash) (r : ρ) : Option (Table ρ clash) :=
  if h : ∀ x ∈ t.rows, ¬ clash x r then
    some ⟨t.rows ++ [r], List.pairwise_append.mpr
      ⟨t.distinct, List.pairwise_singleton _ _, fun x hx y hy => by
        obtain rfl := List.mem_singleton.mp hy
        exact h x hx⟩⟩
  else none

section
variable [DecidableRel clash] {t t' : Table ρ clash} {r x : ρ}

theorem insert?_eq_some_iff :
    t.insert? r = some t' ↔ (∀ x ∈ t, ¬ clash x r) ∧ t'.rows = t.rows ++ [r] := by
  unfold insert?
  split
  case isTrue h =>
    simp only [Option.some.injEq]
    constructor
    · rintro rfl
      exact ⟨h, rfl⟩
    · rintro ⟨-, hrows⟩
      exact Table.ext hrows.symm
  case isFalse h =>
    simp only [reduceCtorEq, false_iff, not_and]
    exact fun h' => absurd h' h

theorem insert?_eq_none_iff : t.insert? r = none ↔ ∃ x ∈ t, clash x r := by
  unfold insert?
  split
  case isTrue h =>
    simp only [reduceCtorEq, false_iff, not_exists, not_and]
    exact h
  case isFalse h =>
    simp only [true_iff]
    push Not at h
    exact h

theorem mem_insert? (h : t.insert? r = some t') : x ∈ t' ↔ x ∈ t ∨ x = r := by
  obtain ⟨-, hrows⟩ := insert?_eq_some_iff.mp h
  rw [← mem_rows, hrows, List.mem_append, List.mem_singleton, mem_rows]

/-- Where nothing clashes the insert goes through. -/
theorem exists_insert? (h : ∀ x ∈ t, ¬ clash x r) : ∃ t', t.insert? r = some t' := by
  cases hi : t.insert? r with
  | some t' => exact ⟨t', rfl⟩
  | none =>
    obtain ⟨x, hx, hc⟩ := insert?_eq_none_iff.mp hi
    exact absurd hc (h x hx)

end

/-! ## 2. Lookup

By a test of the row. Lookups by a key come out as membership. -/

/-- The first row that satisfies `p`; with `p` a test for a unique key, the only one. -/
def find? (t : Table ρ clash) (p : ρ → Bool) : Option ρ := t.rows.find? p

theorem find?_eq_none_iff {t : Table ρ clash} {p : ρ → Bool} :
    t.find? p = none ↔ ∀ r ∈ t, ¬ p r := List.find?_eq_none

theorem mem_of_find?_eq_some {t : Table ρ clash} {p : ρ → Bool} {r : ρ}
    (h : t.find? p = some r) : r ∈ t := List.mem_of_find?_eq_some h

theorem of_find?_eq_some {t : Table ρ clash} {p : ρ → Bool} {r : ρ}
    (h : t.find? p = some r) : p r := List.find?_some h

/-- Two rows of a table that clash are the same row. -/
theorem eq_of_clash [Std.Symm clash] {t : Table ρ clash} {a b : ρ} (ha : a ∈ t) (hb : b ∈ t)
    (h : clash a b) : a = b := by
  by_contra hne
  have hsymm : Std.Symm fun a b => ¬ clash a b := ⟨fun a b hab hba => hab (symm_of clash hba)⟩
  exact t.distinct.forall ha hb hne h

/-- Where `p` tests a unique key, lookup is membership. -/
theorem find?_eq_some_iff [Std.Symm clash] {t : Table ρ clash} {p : ρ → Bool} {r : ρ}
    (hp : ∀ a b, p a → p b → clash a b) : t.find? p = some r ↔ r ∈ t ∧ p r := by
  constructor
  · exact fun h => ⟨mem_of_find?_eq_some h, of_find?_eq_some h⟩
  · rintro ⟨hr, hpr⟩
    cases hf : t.find? p with
    | none => exact absurd hpr (find?_eq_none_iff.mp hf r hr)
    | some x =>
      have hc : clash x r := hp x r (of_find?_eq_some hf) hpr
      rw [eq_of_clash (mem_of_find?_eq_some hf) hr hc]

theorem find?_insert? [DecidableRel clash] {t t' : Table ρ clash} {p : ρ → Bool} {r : ρ}
    (h : t.insert? r = some t') :
    t'.find? p = (t.find? p).or (if p r then some r else none) := by
  obtain ⟨-, hrows⟩ := insert?_eq_some_iff.mp h
  unfold find?
  rw [hrows, List.find?_append]
  rw [List.find?_singleton]

/-! ## 3. Update

Over all rows at once, with a proof that the key survives. -/

/-- Rewrite every row by a function that makes no two rows clash that did not. -/
def update (t : Table ρ clash) (f : ρ → ρ) (hf : ∀ a b, clash (f a) (f b) → clash a b) :
    Table ρ clash :=
  ⟨t.rows.map f, List.pairwise_map.mpr (t.distinct.imp fun hab h => hab (hf _ _ h))⟩

@[simp] theorem mem_update {t : Table ρ clash} {f : ρ → ρ}
    {hf : ∀ a b, clash (f a) (f b) → clash a b} {x : ρ} :
    x ∈ t.update f hf ↔ ∃ r ∈ t, f r = x := List.mem_map

/-- A lookup that does not look at what an update changes finds the updated row. -/
theorem find?_update {t : Table ρ clash} {f : ρ → ρ} {hf : ∀ a b, clash (f a) (f b) → clash a b}
    {p : ρ → Bool} (h : ∀ r, p (f r) = p r) : (t.update f hf).find? p = (t.find? p).map f := by
  unfold find? update
  rw [List.find?_map, show p ∘ f = p from funext h]

/-- `UPDATE … WHERE`, for columns no constraint looks at. -/
def updateWhere (t : Table ρ clash) (p : ρ → Bool) (f : ρ → ρ)
    (hleft : ∀ a b, clash (f a) b → clash a b) (hright : ∀ a b, clash a (f b) → clash a b) :
    Table ρ clash :=
  t.update (fun r => if p r then f r else r) fun a b h => by
    split at h <;> split at h
    · exact hleft a b (hright _ b h)
    · exact hleft a b h
    · exact hright a b h
    · exact h

theorem mem_updateWhere {t : Table ρ clash} {p : ρ → Bool} {f : ρ → ρ}
    (hleft : ∀ a b, clash (f a) b → clash a b) (hright : ∀ a b, clash a (f b) → clash a b) {x : ρ} :
    x ∈ t.updateWhere p f hleft hright ↔ (x ∈ t ∧ ¬ p x) ∨ ∃ r ∈ t, p r ∧ f r = x := by
  rw [updateWhere, mem_update]
  constructor
  · rintro ⟨r, hr, rfl⟩
    by_cases hp : p r
    · rw [if_pos hp]
      exact .inr ⟨r, hr, hp, rfl⟩
    · rw [if_neg hp]
      exact .inl ⟨hr, hp⟩
  · rintro (⟨hx, hp⟩ | ⟨r, hr, hp, rfl⟩)
    · exact ⟨x, hx, if_neg hp⟩
    · exact ⟨r, hr, if_pos hp⟩

/-- An update that changes no row it selects is none. -/
theorem updateWhere_eq_self_iff {t : Table ρ clash} {p : ρ → Bool} {f : ρ → ρ}
    (hleft : ∀ a b, clash (f a) b → clash a b) (hright : ∀ a b, clash a (f b) → clash a b) :
    t.updateWhere p f hleft hright = t ↔ ∀ r ∈ t, p r → f r = r := by
  have hrows : t.updateWhere p f hleft hright = t ↔
      t.rows.map (fun r => if p r then f r else r) = t.rows.map id := by
    rw [List.map_id]
    exact ⟨congrArg Table.rows, fun h => Table.ext h⟩
  rw [hrows, List.map_eq_map_iff]
  apply forall₂_congr
  intro r _
  by_cases hp : p r <;> simp [hp]

/-! ## 4. Delete

A delete makes no clash. -/

/-- `DELETE … WHERE`. -/
def deleteWhere (t : Table ρ clash) (p : ρ → Bool) : Table ρ clash :=
  ⟨t.rows.filter fun r => !p r, t.distinct.filter _⟩

@[simp] theorem mem_deleteWhere {t : Table ρ clash} {p : ρ → Bool} {x : ρ} :
    x ∈ t.deleteWhere p ↔ x ∈ t ∧ ¬ p x := by
  rw [← mem_rows, deleteWhere, List.mem_filter, mem_rows]
  simp

/-- Where `p` tests a unique key, a delete takes one row. -/
theorem length_deleteWhere {t : Table ρ clash} {p : ρ → Bool} {r : ρ}
    (hp : ∀ a b, p a → p b → clash a b) (hr : r ∈ t) (hpr : p r) :
    (t.deleteWhere p).rows.length + 1 = t.rows.length := by
  have hone : (t.rows.filter p).length = 1 := by
    have hdistinct : (t.rows.filter p).Pairwise fun a b => ¬ clash a b := t.distinct.filter _
    have hmem : r ∈ t.rows.filter p := List.mem_filter.mpr ⟨mem_rows.mpr hr, hpr⟩
    have hall : ∀ x ∈ t.rows.filter p, p x := fun x hx => (List.mem_filter.mp hx).2
    match t.rows.filter p, hdistinct, hmem, hall with
    | [], _, hmem, _ => exact absurd hmem List.not_mem_nil
    | [_], _, _, _ => rfl
    | a :: b :: _, hdistinct, _, hall =>
      have hclash : clash a b := hp a b (hall a (by simp)) (hall b (by simp))
      exact absurd hclash ((List.pairwise_cons.mp hdistinct).1 b (by simp))
  have hsplit := List.length_eq_length_filter_add (l := t.rows) p
  rw [hone] at hsplit
  show (t.rows.filter fun r => !p r).length + 1 = t.rows.length
  omega

end Table
