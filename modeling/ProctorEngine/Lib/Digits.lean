import Mathlib.Tactic.Ring
import Mathlib.Data.Nat.Basic

/-!
# Fixed-width decimal fields

A date written as text is a sequence of fields of known width: `2026`, `08`, `09`. Writing a
number into a field keeps its low digits, and **reading the field back gives the number
modulo `10 ^ width`**, so a number that fits is read back as itself.
-/

set_option autoImplicit false

namespace Digits

/-- The `width` low decimal digits of a number, most significant first. -/
def field : Nat → Nat → List Char
  | 0, _ => []
  | width + 1, n => field width (n / 10) ++ [Nat.digitChar (n % 10)]

/-- The value of a decimal digit. -/
def digit? (c : Char) : Option Nat := if c.isDigit then some (c.toNat - '0'.toNat) else none

/-- The number a string of decimal digits denotes, `none` where a character is no digit. -/
def read? (cs : List Char) : Option Nat :=
  cs.foldlM (fun acc c => (digit? c).map fun d => acc * 10 + d) 0

/-- Read a field off the front of a text, followed by `sep`. -/
def readField? (width : Nat) (sep : Char) (cs : List Char) : Option (Nat × List Char) :=
  match cs.drop width with
  | c :: rest => if c = sep then (read? (cs.take width)).map fun n => (n, rest) else none
  | [] => none

@[simp] theorem length_field (width n : Nat) : (field width n).length = width := by
  induction width generalizing n with
  | zero => rfl
  | succ width ih => simp [field, ih]

theorem digit?_digitChar {d : Nat} (h : d < 10) : digit? (Nat.digitChar d) = some d := by
  revert d
  decide

theorem read?_append_singleton (cs : List Char) (c : Char) :
    read? (cs ++ [c]) = (read? cs).bind fun n => (digit? c).map fun d => n * 10 + d := by
  unfold read?
  rw [List.foldlM_append]
  cases cs.foldlM (fun acc c => (digit? c).map fun d => acc * 10 + d) 0 with
  | none => rfl
  | some n =>
    show (digit? c).map _ >>= pure = _
    simp

/-- A field is read back as the number modulo the field's range. -/
theorem read?_field (width n : Nat) : read? (field width n) = some (n % 10 ^ width) := by
  induction width generalizing n with
  | zero => simp [field, read?, Nat.mod_one]
  | succ width ih =>
    rw [field, read?_append_singleton, ih, digit?_digitChar (Nat.mod_lt n (by decide))]
    show some (n / 10 % 10 ^ width * 10 + n % 10) = some (n % 10 ^ (width + 1))
    rw [Nat.pow_succ', Nat.mod_mul]
    congr 1
    ring

/-- A number that fits its field is read off the front of what was written. -/
theorem readField?_field {width n : Nat} (h : n < 10 ^ width) (sep : Char) (rest : List Char) :
    readField? width sep (field width n ++ sep :: rest) = some (n, rest) := by
  have hdrop : (field width n ++ sep :: rest).drop width = sep :: rest :=
    List.drop_left' (length_field width n)
  have htake : (field width n ++ sep :: rest).take width = field width n :=
    List.take_left' (length_field width n)
  unfold readField?
  rw [hdrop, htake, read?_field, Nat.mod_eq_of_lt h]
  simp

end Digits
