import ProctorEngine.Lib.JsonText

/-!
# Decoding UTF-8

A decoder that never fails: a byte that cannot stand where it stands gives the replacement
character and is then read again as a first byte. **What was encoded is decoded to itself**, also
in front of bytes that were not.
-/

set_option autoImplicit false

namespace Utf8

open JsonText

def replacement : Char := Char.ofNat 0xFFFD

/-- A character of which some bytes are still to come, and the range of the next one. -/
structure Pending where
  left : Nat
  codePoint : Nat
  lower : Nat
  upper : Nat

/-- A first byte: what it gives, and what it leaves open. -/
def lead (b : Nat) : List Char × Option Pending :=
  if b < 0x80 then ([Char.ofNat b], none)
  else if 0xC2 ≤ b ∧ b ≤ 0xDF then ([], some ⟨1, b - 0xC0, 0x80, 0xBF⟩)
  else if 0xE0 ≤ b ∧ b ≤ 0xEF then
    ([], some ⟨2, b - 0xE0, if b = 0xE0 then 0xA0 else 0x80, if b = 0xED then 0x9F else 0xBF⟩)
  else if 0xF0 ≤ b ∧ b ≤ 0xF4 then
    ([], some ⟨3, b - 0xF0, if b = 0xF0 then 0x90 else 0x80, if b = 0xF4 then 0x8F else 0xBF⟩)
  else ([replacement], none)

def next : Option Pending → Nat → List Char × Option Pending
  | none, b => lead b
  | some p, b =>
    if p.lower ≤ b ∧ b ≤ p.upper then
      let codePoint := p.codePoint * 64 + (b - 0x80)
      if p.left = 1 then ([Char.ofNat codePoint], none)
      else ([], some ⟨p.left - 1, codePoint, 0x80, 0xBF⟩)
    else (replacement :: (lead b).1, (lead b).2)

def decodeFrom : Option Pending → List Nat → List Char
  | none, [] => []
  | some _, [] => [replacement]
  | pending, b :: bs => (next pending b).1 ++ decodeFrom (next pending b).2 bs

def decode (bs : List Nat) : List Char := decodeFrom none bs

section
variable {bs : List Nat} {b : Nat} {p : Pending}

theorem decodeFrom_cons {pending : Option Pending} :
    decodeFrom pending (b :: bs) =
      (next pending b).1 ++ decodeFrom (next pending b).2 bs := by
  cases pending <;> rfl

/-- What is open asks for no byte of ASCII. -/
theorem next_lower {pending : Option Pending} (h : ∀ p ∈ pending, 0x80 ≤ p.lower) :
    ∀ p ∈ (next pending b).2, 0x80 ≤ p.lower := by
  have hlead : ∀ p, (lead b).2 = some p → 0x80 ≤ p.lower := by
    intro p hp
    unfold lead at hp
    split_ifs at hp
    all_goals cases hp
    all_goals exact Nat.le_of_ble_eq_true rfl
  intro q hq
  cases pending with
  | none => exact hlead q hq
  | some p =>
    rw [Option.mem_def] at hq
    unfold next at hq
    dsimp only at hq
    split at hq
    · split at hq
      · exact nomatch hq
      · cases hq
        exact Nat.le_refl _
    · exact hlead q hq

/-- A byte in range is taken. -/
theorem decodeFrom_some (hlower : p.lower ≤ b) (hupper : b ≤ p.upper) (hleft : p.left ≠ 1) :
    decodeFrom (some p) (b :: bs) =
      decodeFrom (some ⟨p.left - 1, p.codePoint * 64 + (b - 0x80), 0x80, 0xBF⟩) bs := by
  have hnext : next (some p) b =
      ([], some ⟨p.left - 1, p.codePoint * 64 + (b - 0x80), 0x80, 0xBF⟩) :=
    (if_pos ⟨hlower, hupper⟩).trans (if_neg hleft)
  rw [decodeFrom_cons, hnext]
  rfl

/-- The last byte of a character. -/
theorem decodeFrom_last {codePoint : Nat} {c : Char} (hlower : p.lower ≤ b) (hupper : b ≤ p.upper)
    (hleft : p.left = 1) (hcode : p.codePoint * 64 + (b - 0x80) = codePoint)
    (hc : c.toNat = codePoint) :
    decodeFrom (some p) (b :: bs) = c :: decode bs := by
  have hnext : next (some p) b = ([Char.ofNat (p.codePoint * 64 + (b - 0x80))], none) :=
    (if_pos ⟨hlower, hupper⟩).trans (if_pos hleft)
  rw [decodeFrom_cons, hnext, hcode, ← hc, Char.ofNat_toNat]
  rfl

theorem decodeFrom_lead {pending : Pending} (h : lead b = ([], some pending)) :
    decode (b :: bs) = decodeFrom (some pending) bs := by
  unfold decode
  rw [decodeFrom_cons]
  show (lead b).1 ++ decodeFrom (lead b).2 bs = _
  rw [h]
  rfl

/-- A code point is none of the surrogates. -/
theorem toNat_cases (c : Char) : c.toNat < 0xD800 ∨ 0xDFFF < c.toNat ∧ c.toNat < 0x110000 := by
  rcases c.valid with h | ⟨h₁, h₂⟩
  · exact .inl h
  · exact .inr ⟨h₁, h₂⟩

theorem lead_two {x : Nat} (hx : 2 ≤ x) (hx' : x < 32) :
    lead (x + 0xC0) = ([], some ⟨1, x, 0x80, 0xBF⟩) := by
  unfold lead
  rw [if_neg (by omega), if_pos (by omega), Nat.add_sub_cancel]

theorem lead_three {x : Nat} (hx : x < 16) :
    lead (x + 0xE0) = ([], some ⟨2, x, if x + 0xE0 = 0xE0 then 0xA0 else 0x80,
      if x + 0xE0 = 0xED then 0x9F else 0xBF⟩) := by
  unfold lead
  rw [if_neg (by omega), if_neg (by omega), if_pos (by omega), Nat.add_sub_cancel]

theorem lead_four {x : Nat} (hx : x < 5) :
    lead (x + 0xF0) = ([], some ⟨3, x, if x + 0xF0 = 0xF0 then 0x90 else 0x80,
      if x + 0xF0 = 0xF4 then 0x8F else 0xBF⟩) := by
  unfold lead
  rw [if_neg (by omega), if_neg (by omega), if_neg (by omega), if_pos (by omega),
    Nat.add_sub_cancel]

/-- One character is decoded, whatever follows it. -/
theorem decode_utf8Char_append (c : Char) : decode (utf8Char c ++ bs) = c :: decode bs := by
  have hvalid := toNat_cases c
  have hbyte : ∀ n, n < 256 → (UInt8.ofNat n).toNat = n := fun n hn => Nat.mod_eq_of_lt hn
  unfold utf8Char String.utf8EncodeChar
  simp only [Char.toNat_val]
  generalize hv : c.toNat = v at hvalid ⊢
  -- by the number of bytes
  by_cases h₁ : v ≤ 0x7f
  · have hlead : lead v = ([Char.ofNat v], none) := if_pos (by omega)
    rw [if_pos h₁, List.map_singleton, hbyte v (by omega), List.singleton_append]
    unfold decode
    rw [decodeFrom_cons]
    show (lead v).1 ++ decodeFrom (lead v).2 bs = _
    rw [hlead, ← hv, Char.ofNat_toNat]
    rfl
  rw [if_neg h₁]
  by_cases h₂ : v ≤ 0x7ff
  · rw [if_pos h₂]
    simp only [List.map_cons, List.map_nil, List.cons_append, List.nil_append]
    rw [hbyte _ (by omega), hbyte _ (by omega), decodeFrom_lead (lead_two (by omega) (by omega))]
    exact decodeFrom_last (by dsimp only; omega) (by dsimp only; omega) rfl (by dsimp only; omega)
      hv
  rw [if_neg h₂]
  by_cases h₃ : v ≤ 0xffff
  · rw [if_pos h₃]
    simp only [List.map_cons, List.map_nil, List.cons_append, List.nil_append]
    rw [hbyte _ (by omega), hbyte _ (by omega), hbyte _ (by omega),
      decodeFrom_lead (lead_three (by omega)), decodeFrom_some (by dsimp only; split <;> omega)
      (by dsimp only; split <;> omega) (by dsimp only; omega)]
    exact decodeFrom_last (by dsimp only; omega) (by dsimp only; omega) rfl (by dsimp only; omega)
      hv
  rw [if_neg h₃]
  simp only [List.map_cons, List.map_nil, List.cons_append, List.nil_append]
  rw [hbyte _ (by omega), hbyte _ (by omega), hbyte _ (by omega), hbyte _ (by omega),
    decodeFrom_lead (lead_four (by omega)), decodeFrom_some (by dsimp only; split <;> omega)
    (by dsimp only; split <;> omega) (by dsimp only; omega), decodeFrom_some (by dsimp only; omega)
    (by dsimp only; omega) (by dsimp only; omega)]
  exact decodeFrom_last (by dsimp only; omega) (by dsimp only; omega) rfl (by dsimp only; omega) hv

/-- **What was encoded is decoded to itself.** -/
theorem decode_utf8 (cs : List Char) : decode (utf8 cs) = cs := by
  induction cs with
  | nil => rfl
  | cons c cs ih =>
    show decode (utf8Char c ++ utf8 cs) = c :: cs
    rw [decode_utf8Char_append, ih]

end

end Utf8
