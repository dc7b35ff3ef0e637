import Mathlib.Data.List.DropRight
import Mathlib.Data.List.TakeWhile

/-!
# Two ways to trim

Two readers trim the same text, and one calls more characters blank than the other. At the end
that hardly matters, the wider trim takes what the narrower one leaves. **At the front it
does**: the two see the same beginning exactly when the narrower trim leaves nothing there that
the wider one would take.
-/

set_option autoImplicit false

namespace Trim

variable {α : Type*}

/-- Blanks taken off both ends. -/
def trim (blank : α → Bool) (cs : List α) : List α := (cs.dropWhile blank).rdropWhile blank

/-- What `narrow` leaves at the front is nothing that `wide` would take. -/
def Leads (narrow wide : α → Bool) (cs : List α) : Prop :=
  ∀ c ∈ (cs.dropWhile narrow).head?, wide c = false

section
variable {narrow wide : α → Bool} {cs word : List α}

instance : Decidable (Leads narrow wide cs) :=
  inferInstanceAs (Decidable (∀ c ∈ (cs.dropWhile narrow).head?, wide c = false))

theorem dropWhile_dropWhile (h : ∀ c ∈ cs, narrow c = true → wide c = true) :
    (cs.dropWhile narrow).dropWhile wide = cs.dropWhile wide := by
  induction cs with
  | nil => rfl
  | cons c cs ih =>
    have hcs := ih fun x hx => h x (List.mem_cons_of_mem c hx)
    by_cases hc : narrow c = true
    · have hwide := h c List.mem_cons_self hc
      rw [List.dropWhile_cons_of_pos hc, hcs, List.dropWhile_cons_of_pos hwide]
    · rw [List.dropWhile_cons_of_neg hc]

theorem rdropWhile_rdropWhile (h : ∀ c ∈ cs, narrow c = true → wide c = true) :
    (cs.rdropWhile narrow).rdropWhile wide = cs.rdropWhile wide := by
  unfold List.rdropWhile
  rw [List.reverse_reverse, dropWhile_dropWhile fun c hc => h c (List.mem_reverse.mp hc)]

/-- A text without blanks is its own trim. -/
theorem trim_of_forall_not (h : ∀ c ∈ cs, narrow c = false) : trim narrow cs = cs := by
  have hfront : cs.dropWhile narrow = cs := by
    apply List.dropWhile_eq_self_iff.mpr
    intro hlength hblank
    rw [h _ (List.getElem_mem hlength)] at hblank
    exact Bool.false_ne_true hblank
  unfold trim
  rw [hfront, List.rdropWhile_eq_self_iff]
  intro hne hblank
  rw [h _ (List.getLast_mem hne)] at hblank
  exact Bool.false_ne_true hblank

theorem mem_of_mem_dropWhile {c : α} (hc : c ∈ cs.dropWhile narrow) : c ∈ cs :=
  (List.dropWhile_suffix narrow).subset hc

/-- Where the fronts agree, the narrower trim leaves what the wider one does, and blanks. -/
theorem Leads.trim_eq_append (hl : Leads narrow wide cs)
    (h : ∀ c ∈ cs, narrow c = true → wide c = true) :
    ∃ rest, trim narrow cs = trim wide cs ++ rest ∧ ∀ c ∈ rest, wide c = true := by
  have hfront : cs.dropWhile wide = cs.dropWhile narrow := by
    rw [← dropWhile_dropWhile h]
    cases hcs : cs.dropWhile narrow with
    | nil => rfl
    | cons c rest =>
      have hc : wide c = false := hl c (by rw [hcs]; rfl)
      exact List.dropWhile_cons_of_neg (by rw [hc]; decide)
  have hend : ((cs.dropWhile narrow).rdropWhile narrow).rdropWhile wide =
      (cs.dropWhile narrow).rdropWhile wide :=
    rdropWhile_rdropWhile fun c hc => h c (mem_of_mem_dropWhile hc)
  refine ⟨((cs.dropWhile narrow).rdropWhile narrow).rtakeWhile wide, ?_,
    fun c hc => List.mem_rtakeWhile_imp hc⟩
  unfold trim
  rw [hfront, ← hend, List.rdropWhile_append_rtakeWhile]

/-- A word that neither begins nor ends with a blank stands at the front after the narrower trim
    exactly when it does after the wider one, and nothing led it. -/
theorem prefix_trim_iff (h : ∀ c ∈ cs, narrow c = true → wide c = true) (hne : word ≠ [])
    (hfirst : ∀ c ∈ word.head?, wide c = false) (hlast : ∀ c ∈ word.getLast?, wide c = false) :
    word <+: trim narrow cs ↔ word <+: trim wide cs ∧ Leads narrow wide cs := by
  constructor
  · intro hword
    have hleads : Leads narrow wide cs := by
      intro c hc
      apply hfirst c
      have htrim := List.rdropWhile_prefix narrow (cs.dropWhile narrow)
      obtain ⟨rest, hrest⟩ := hword.trans htrim
      rwa [← hrest, List.head?_append_of_ne_nil word hne] at hc
    refine ⟨?_, hleads⟩
    obtain ⟨blanks, hblanks, hblank⟩ := hleads.trim_eq_append h
    rw [hblanks] at hword
    obtain hshort | ⟨more, hmore⟩ :=
      List.prefix_or_prefix_of_prefix hword (List.prefix_append (trim wide cs) blanks)
    · exact hshort
    -- a word that goes on beyond the wider trim would end with a blank
    · cases more using List.reverseRecOn with
      | nil => exact ⟨[], by simpa using hmore.symm⟩
      | append_singleton more c =>
        obtain ⟨rest, hrest⟩ := hword
        rw [← hmore, List.append_assoc, List.append_cancel_left_eq] at hrest
        have hc : wide c = true := hblank c (by rw [← hrest]; simp)
        have hc' : wide c = false := hlast c (by rw [← hmore]; simp)
        rw [hc] at hc'
        exact nomatch hc'
  · rintro ⟨hword, hleads⟩
    obtain ⟨rest, hrest, -⟩ := hleads.trim_eq_append h
    rw [hrest]
    exact hword.trans (List.prefix_append _ _)

end

end Trim
