import Mathlib.Data.List.Basic
import Mathlib.Tactic.Ring
import ProctorEngine.Lib.Trim

/-!
# Hexadecimal numbers in text

How Python reads a number of base 16: blanks around it, a sign, the prefix `0x`, underscores
between the digits and the decimal digits of any script are all accepted. **A text of nothing but
hexadecimal digits is the number they denote**, whichever of these liberties other texts take.
-/

set_option autoImplicit false

namespace HexText

/-! ## Digits -/

/-- The value of a hexadecimal digit. -/
def value? (c : Char) : Option Nat :=
  if '0' ≤ c ∧ c ≤ '9' then some (c.toNat - '0'.toNat)
  else if 'a' ≤ c ∧ c ≤ 'f' then some (c.toNat - 'a'.toNat + 10)
  else if 'A' ≤ c ∧ c ≤ 'F' then some (c.toNat - 'A'.toNat + 10)
  else none

def isDigit (c : Char) : Bool := (value? c).isSome

/-- The number that digits denote, the most significant first. -/
def number (cs : List Char) : Nat := cs.foldl (fun n c => n * 16 + (value? c).getD 0) 0

/-! ## Texts -/

/-- The zeros of the decimal digits outside ASCII, Unicode 14. The nine digits of a script
    follow its zero. -/
def zeros : List Nat :=
  [0x660, 0x6f0, 0x7c0, 0x966, 0x9e6, 0xa66, 0xae6, 0xb66, 0xbe6, 0xc66, 0xce6, 0xd66, 0xde6, 0xe50,
    0xed0, 0xf20, 0x1040, 0x1090, 0x17e0, 0x1810, 0x1946, 0x19d0, 0x1a80, 0x1a90, 0x1b50, 0x1bb0,
    0x1c40, 0x1c50, 0xa620, 0xa8d0, 0xa900, 0xa9d0, 0xa9f0, 0xaa50, 0xabf0, 0xff10, 0x104a0,
    0x10d30, 0x11066, 0x110f0, 0x11136, 0x111d0, 0x112f0, 0x11450, 0x114d0, 0x11650, 0x116c0,
    0x11730, 0x118e0, 0x11950, 0x11c50, 0x11d50, 0x11da0, 0x16a60, 0x16ac0, 0x16b50, 0x1d7ce,
    0x1d7d8, 0x1d7e2, 0x1d7ec, 0x1d7f6, 0x1e140, 0x1e2f0, 0x1e950, 0x1fbf0]

/-- The blanks outside ASCII. -/
def blanks : List Nat :=
  [0x85, 0xa0, 0x1680, 0x2000, 0x2001, 0x2002, 0x2003, 0x2004, 0x2005, 0x2006, 0x2007, 0x2008,
    0x2009, 0x200a, 0x2028, 0x2029, 0x202f, 0x205f, 0x3000]

/-- A decimal digit of any script as the ASCII digit, a blank as a space. Any other character
    outside ASCII becomes one that no number contains. -/
def toAscii (c : Char) : Char :=
  if c.toNat < 127 then c
  else if c.toNat ∈ blanks then ' '
  else
    match zeros.find? fun z => z ≤ c.toNat ∧ c.toNat < z + 10 with
    | some z => Nat.digitChar (c.toNat - z)
    | none => '?'

/-- The blanks of C. -/
def isBlank (c : Char) : Bool := c.toNat ∈ [9, 10, 11, 12, 13, 32]

/-- The prefix `0x` goes, and one underscore after it. -/
def dropRadix : List Char → List Char
  | '0' :: 'x' :: '_' :: cs => cs
  | '0' :: 'X' :: '_' :: cs => cs
  | '0' :: 'x' :: cs => cs
  | '0' :: 'X' :: cs => cs
  | cs => cs

/-- Digits, where single underscores may stand between two of them. -/
def read? (cs : List Char) : Option Nat :=
  if (cs.splitOn '_').any List.isEmpty then none
  else if (cs.filter (· ≠ '_')).all isDigit then some (number (cs.filter (· ≠ '_')))
  else none

/-- `int(text, 16)`. -/
def int? (text : List Char) : Option Int :=
  -- the sign stands before the prefix
  match Trim.trim isBlank (text.map toAscii) with
  | '+' :: cs => (read? (dropRadix cs)).map fun n : Nat => (n : Int)
  | '-' :: cs => (read? (dropRadix cs)).map fun n : Nat => -(n : Int)
  | cs => (read? (dropRadix cs)).map fun n : Nat => (n : Int)

section
variable {c : Char} {cs ds : List Char}

@[simp] theorem number_nil : number [] = 0 := rfl

theorem number_append_singleton : number (cs ++ [c]) = number cs * 16 + (value? c).getD 0 := by
  unfold number
  rw [List.foldl_append]
  rfl

/-- Digits are ASCII letters and decimal digits. -/
theorem range_of_isDigit (h : isDigit c = true) :
    (48 ≤ c.toNat ∧ c.toNat ≤ 57) ∨ (97 ≤ c.toNat ∧ c.toNat ≤ 102) ∨
      (65 ≤ c.toNat ∧ c.toNat ≤ 70) := by
  unfold isDigit value? at h
  split at h
  case isTrue hdecimal => exact .inl hdecimal
  case isFalse =>
    split at h
    case isTrue hlower => exact .inr (.inl hlower)
    case isFalse =>
      split at h
      case isTrue hupper => exact .inr (.inr hupper)
      case isFalse => cases h

theorem toAscii_of_isDigit (h : isDigit c = true) : toAscii c = c := by
  apply if_pos
  have hrange := range_of_isDigit h
  omega

theorem not_isBlank_of_isDigit (h : isDigit c = true) : isBlank c = false := by
  have hrange := range_of_isDigit h
  simp only [isBlank, List.mem_cons, List.not_mem_nil, or_false, decide_eq_false_iff_not]
  omega

theorem dropRadix_of_isDigit (h : ∀ c ∈ cs, isDigit c = true) : dropRadix cs = cs := by
  unfold dropRadix
  split
  case h_5 => rfl
  -- in the other cases the second character is the letter of the prefix
  all_goals
    have hx := h _ (List.mem_cons_of_mem _ List.mem_cons_self)
    exact absurd hx (by decide)

theorem read?_of_isDigit (h : ∀ c ∈ cs, isDigit c = true) (hne : cs ≠ []) :
    read? cs = some (number cs) := by
  have hnone : '_' ∉ cs := fun hmem => absurd (h '_' hmem) (by decide)
  have hsplit : ¬ (cs.splitOn '_').any List.isEmpty = true := by
    rw [List.splitOn_eq_singleton hnone]
    simpa using hne
  have hfilter : cs.filter (· ≠ '_') = cs := by
    apply List.filter_eq_self.mpr
    intro c hc
    exact decide_eq_true (ne_of_mem_of_not_mem hc hnone)
  unfold read?
  rw [if_neg hsplit, hfilter, if_pos (List.all_eq_true.mpr h)]

theorem trim_of_isDigit (h : ∀ c ∈ cs, isDigit c = true) :
    Trim.trim isBlank (cs.map toAscii) = cs := by
  have hmap : cs.map toAscii = cs := by
    conv_rhs => rw [← List.map_id cs]
    exact List.map_congr_left fun c hc => toAscii_of_isDigit (h c hc)
  rw [hmap]
  exact Trim.trim_of_forall_not fun c hc => not_isBlank_of_isDigit (h c hc)

/-- **Digits alone are read as the number they denote.** -/
theorem int?_of_isDigit (h : ∀ c ∈ cs, isDigit c = true) (hne : cs ≠ []) :
    int? cs = some (number cs : Int) := by
  unfold int?
  rw [trim_of_isDigit h]
  split
  case h_1 cs => exact absurd (h '+' List.mem_cons_self) (by decide)
  case h_2 cs => exact absurd (h '-' List.mem_cons_self) (by decide)
  case h_3 => rw [dropRadix_of_isDigit h, read?_of_isDigit h hne, Option.map_some]

end

end HexText
