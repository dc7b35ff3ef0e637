import ProctorEngine.Lib.HexText
import ProctorEngine.Models

/-!
# `uuid.UUID(text)`

The constructor every identity from outside goes through. It takes away `urn:` and `uuid:`
wherever they stand, braces at both ends and all hyphens, and hands what is left to
`int(hex, 16)`. Only the length of that is checked, so **one UUID has many texts**.
-/

set_option autoImplicit false

namespace ProctorEngine

/-- `text.replace(old, "")`; the number counts the characters still to skip of an occurrence. -/
def removeAll (old : List Char) : Nat → List Char → List Char
  -- occurrences do not overlap: the search goes on behind the one that was found
  | _, [] => []
  | skip + 1, _ :: cs => removeAll old skip cs
  | 0, c :: cs =>
    if old.isPrefixOf (c :: cs) then removeAll old (old.length - 1) cs
    else c :: removeAll old 0 cs

def isBrace (c : Char) : Bool := c = '\x7b' || c = '\x7d'

/-- What the constructor takes for the hexadecimal digits. -/
def uuidHex (text : List Char) : List Char :=
  (Trim.trim isBrace (removeAll "uuid:".toList 0 (removeAll "urn:".toList 0 text))).filter
    (· ≠ '-')

def parseUuid (text : String) : Option UUID :=
  if (uuidHex text.toList).length ≠ 32 then none
  else
    match HexText.int? (uuidHex text.toList) with
    | none => none
    | some n => if 0 ≤ n ∧ n < 2 ^ 128 then some (BitVec.ofInt 128 n) else none

section
variable {c : Char} {old text digits : List Char} {u : UUID}

theorem removeAll_of_not_mem (h : c ∉ text) : removeAll (c :: old) 0 text = text := by
  induction text with
  | nil => rfl
  | cons d text ih =>
    rw [List.mem_cons, not_or] at h
    have hprefix : ¬ (c :: old).isPrefixOf (d :: text) = true := by
      rw [List.isPrefixOf_iff_prefix, List.cons_prefix_cons, not_and_or]
      exact .inl h.1
    unfold removeAll
    rw [if_neg hprefix, ih h.2]

/-- Digits and hyphens are left as they are, without the hyphens. -/
theorem uuidHex_of_isDigit (h : ∀ c ∈ text, c ≠ '-' → HexText.isDigit c = true) :
    uuidHex text = text.filter (· ≠ '-') := by
  have hu : 'u' ∉ text := fun hmem => absurd (h 'u' hmem (by decide)) (by decide)
  have hbrace : ∀ c ∈ text, isBrace c = false := by
    intro c hc
    by_contra hb
    unfold isBrace at hb
    rw [Bool.not_eq_false, Bool.or_eq_true, decide_eq_true_eq, decide_eq_true_eq] at hb
    obtain rfl | rfl := hb
    · exact absurd (h _ hc (by decide)) (by decide)
    · exact absurd (h _ hc (by decide)) (by decide)
  have hurn : "urn:".toList = 'u' :: ['r', 'n', ':'] := by decide
  have huuid : "uuid:".toList = 'u' :: ['u', 'i', 'd', ':'] := by decide
  unfold uuidHex
  rw [hurn, huuid, removeAll_of_not_mem hu, removeAll_of_not_mem hu,
    Trim.trim_of_forall_not hbrace]

/-- **Digits and hyphens, of which 32 are digits, are the UUID of the number they denote.** -/
theorem parseUuid_of_isDigit (h : ∀ c ∈ text, c ≠ '-' → HexText.isDigit c = true)
    (hdigits : text.filter (· ≠ '-') = digits) (hlength : digits.length = 32)
    (hu : HexText.number digits = u.toNat) : parseUuid (String.ofList text) = some u := by
  have hhex : uuidHex text = digits := by rw [uuidHex_of_isDigit h, hdigits]
  have hall : ∀ c ∈ digits, HexText.isDigit c = true := by
    intro c hc
    rw [← hdigits, List.mem_filter, decide_eq_true_eq] at hc
    exact h c hc.1 hc.2
  have hne : digits ≠ [] := List.ne_nil_of_length_pos (by omega)
  have hrange : (0 : Int) ≤ (u.toNat : Int) ∧ (u.toNat : Int) < 2 ^ 128 := by
    have hlt := u.isLt
    omega
  unfold parseUuid
  rw [String.toList_ofList, hhex, if_neg (not_not.mpr hlength), HexText.int?_of_isDigit hall hne,
    hu]
  show (if _ then some (BitVec.ofInt 128 u.toNat) else none) = some u
  rw [if_pos hrange, BitVec.ofInt_natCast, BitVec.ofNat_toNat, BitVec.setWidth_eq]

end

end ProctorEngine
