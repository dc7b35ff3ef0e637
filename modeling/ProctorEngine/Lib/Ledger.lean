import ProctorEngine.Lib.Table

/-!
# Tables as ledgers

A ledger is a table no row of which is ever lost, and of whose rows only some columns may change:
`fixed` maps a row to what may not. **Inserts keep a ledger whatever they insert; an update keeps
it exactly where it leaves the fixed part of every row alone.** With `id` for the fixed part a
ledger is append-only.
-/

set_option autoImplicit false

universe u v

namespace Table

variable {ρ : Type u} {α : Type v} {clash : ρ → ρ → Prop} {fixed : ρ → α}
  {t t' t'' : Table ρ clash} {r : ρ}

/-- Every row is still there, in its fixed part. -/
def Keeps (fixed : ρ → α) (t t' : Table ρ clash) : Prop :=
  ∀ x ∈ t, ∃ y ∈ t', fixed y = fixed x

theorem Keeps.refl (t : Table ρ clash) : t.Keeps fixed t := fun x hx => ⟨x, hx, rfl⟩

theorem Keeps.trans (h : t.Keeps fixed t') (h' : t'.Keeps fixed t'') : t.Keeps fixed t'' := by
  intro x hx
  obtain ⟨y, hy, hxy⟩ := h x hx
  obtain ⟨z, hz, hyz⟩ := h' y hy
  exact ⟨z, hz, hyz.trans hxy⟩

theorem keeps_insert? [DecidableRel clash] (h : t.insert? r = some t') : t.Keeps fixed t' :=
  fun x hx => ⟨x, (mem_insert? h).mpr (.inl hx), rfl⟩

/-- An update, by what it does to the rows. -/
theorem keeps_of_rows {f : ρ → ρ} (hrows : t'.rows = t.rows.map f)
    (hfixed : ∀ x, fixed (f x) = fixed x) : t.Keeps fixed t' := by
  intro x hx
  refine ⟨f x, ?_, hfixed x⟩
  rw [← mem_rows, hrows]
  exact List.mem_map_of_mem hx

/-- An `UPDATE … WHERE`. -/
theorem keeps_of_rows_where {p : ρ → Bool} {f : ρ → ρ}
    (hrows : t'.rows = t.rows.map fun x => if p x then f x else x)
    (hfixed : ∀ x, fixed (f x) = fixed x) : t.Keeps fixed t' := by
  apply keeps_of_rows hrows
  intro x
  split
  · exact hfixed x
  · rfl

end Table
