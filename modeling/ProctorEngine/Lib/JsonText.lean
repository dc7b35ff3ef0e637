import Mathlib.Data.List.Basic
import Mathlib.Data.List.TakeWhile
import Mathlib.Tactic.Ring

/-!
# JSON text

One language writes an object of strings and integers, in ASCII and without a blank, and another
reads it. The writer's strings are sequences of characters, **the reader's are sequences of UTF-16
code units**: a character outside the ASCII range goes over the wire as one or two escapes of four
hexadecimal digits each, and every escape arrives as a unit. The reader is a reader of all of JSON;
what the writer writes it reads back.

The reader is a function of fuel, one unit for each level of nesting and one for each member of an
object, and `parse` gives it as much as the text is long, which is always enough. A string literal
is read by a machine with three states, and the round trip of strings is an induction over the
characters that keeps the machine in its plain state between any two of them.

How a writer may spell a character is the relation `Spells`. A reader's lemma about strings needs no
more than that, so another writer that escapes less, or more, has only to show that it spells.
-/

set_option autoImplicit false

namespace JsonText

/-- A string as its UTF-16 code units. -/
abbrev Units := List Nat

/-- A character as code units. -/
def utf16Char (c : Char) : Units :=
  if c.toNat < 0x10000 then [c.toNat]
  else [0xD800 + (c.toNat - 0x10000) / 0x400, 0xDC00 + (c.toNat - 0x10000) % 0x400]

def utf16 (s : String) : Units := s.toList.flatMap utf16Char

/-- A character as bytes. -/
def utf8Char (c : Char) : List Nat := (String.utf8EncodeChar c).map UInt8.toNat

def utf8 (cs : List Char) : List Nat := cs.flatMap utf8Char

/-- Bytes as characters, one each. -/
def latin1 (bs : List Nat) : List Char := bs.map Char.ofNat

/-! ## 1. Writing

A writer of flat objects, one definition for each thing that can be written. -/

inductive Scalar where
  | str (s : String)
  | int (n : Int)
deriving DecidableEq, Repr

/-- `n` in hexadecimal, in lower case, `width` digits wide. -/
def hexDigits : Nat → Nat → List Char
  | 0, _ => []
  | width + 1, n => hexDigits width (n / 16) ++ [Nat.digitChar (n % 16)]

/-- `\uXXXX` -/
def escapeUnit (u : Nat) : List Char := '\\' :: 'u' :: hexDigits 4 u

/-- A character inside a string literal that is to be ASCII. -/
def writeChar (c : Char) : List Char :=
  if c = '"' then ['\\', '"']
  else if c = '\\' then ['\\', '\\']
  else if c = '\n' then ['\\', 'n']
  else if c = '\r' then ['\\', 'r']
  else if c = '\t' then ['\\', 't']
  else if c = '\x0c' then ['\\', 'f']
  else if c = '\x08' then ['\\', 'b']
  else if ' ' ≤ c ∧ c ≤ '~' then [c]
  else (utf16Char c).flatMap escapeUnit

def writeString (s : String) : List Char := '"' :: (s.toList.flatMap writeChar ++ ['"'])

def writeInt : Int → List Char
  | .ofNat n => Nat.toDigits 10 n
  | .negSucc n => '-' :: Nat.toDigits 10 (n + 1)

def writeScalar : Scalar → List Char
  | .str s => writeString s
  | .int n => writeInt n

def writeMember (field : String × Scalar) : List Char :=
  writeString field.1 ++ ':' :: writeScalar field.2

def writeMembers : List (String × Scalar) → List Char
  | [] => []
  | [field] => writeMember field
  | field :: field' :: rest => writeMember field ++ ',' :: writeMembers (field' :: rest)

/-- An object, with the separators `,` and `:`. -/
def writeObject (fields : List (String × Scalar)) : List Char :=
  '{' :: (writeMembers fields ++ ['}'])

/-! ## 2. Reading

The grammar, from left to right. Every function returns what it has read with the characters it has
not looked at, or `none` where no text with this beginning is JSON. -/

/-- A value as it is read. A number is left as the literal it is written as. -/
inductive Value where
  | null
  | bool (b : Bool)
  | num (literal : List Char)
  | str (s : Units)
  | arr (xs : List Value)
  | obj (members : List (Units × Value))

def isBlank (c : Char) : Bool := c = ' ' ∨ c = '\t' ∨ c = '\n' ∨ c = '\r'

def skip (cs : List Char) : List Char := cs.dropWhile isBlank

/-- A hexadecimal digit, of either case. -/
def hexDigit? (c : Char) : Option Nat :=
  if '0' ≤ c ∧ c ≤ '9' then some (c.toNat - '0'.toNat)
  else if 'a' ≤ c ∧ c ≤ 'f' then some (c.toNat - 'a'.toNat + 10)
  else if 'A' ≤ c ∧ c ≤ 'F' then some (c.toNat - 'A'.toNat + 10)
  else none

/-- What stands after a backslash, the `u` of an escape apart. -/
def simpleEscape? (c : Char) : Option Nat :=
  if c = '"' then some '"'.toNat
  else if c = '\\' then some '\\'.toNat
  else if c = '/' then some '/'.toNat
  else if c = 'n' then some '\n'.toNat
  else if c = 'r' then some '\r'.toNat
  else if c = 't' then some '\t'.toNat
  else if c = 'f' then some '\x0c'.toNat
  else if c = 'b' then some '\x08'.toNat
  else none

/-- Where a reader is in a string literal. -/
inductive StringState where
  | plain
  | escape
  /-- So many digits of an escape are still to come. -/
  | hex (left value : Nat)

/-- The rest of a string literal, and what follows it. -/
def readString : StringState → Units → List Char → Option (Units × List Char)
  | _, _, [] => none
  | .plain, read, c :: cs =>
    if c = '"' then some (read, cs)
    else if c = '\\' then readString .escape read cs
    else if c < ' ' then none
    else readString .plain (read ++ utf16Char c) cs
  | .escape, read, c :: cs =>
    if c = 'u' then readString (.hex 4 0) read cs
    else
      match simpleEscape? c with
      | some u => readString .plain (read ++ [u]) cs
      | none => none
  | .hex left value, read, c :: cs =>
    match hexDigit? c with
    | some d =>
      if left = 1 then readString .plain (read ++ [value * 16 + d]) cs
      else readString (.hex (left - 1) (value * 16 + d)) read cs
    | none => none

/-- A character that a number can hold. None of them can follow a number. -/
def isNumeric (c : Char) : Bool := c.isDigit ∨ c = '-' ∨ c = '+' ∨ c = '.' ∨ c = 'e' ∨ c = 'E'

/-- At least one digit at the front, and the rest. -/
def readDigits (cs : List Char) : Option (List Char) :=
  if cs.takeWhile Char.isDigit = [] then none else some (cs.dropWhile Char.isDigit)

/-- An exponent, or nothing. -/
def isExponent : List Char → Bool
  | [] => true
  | e :: sign :: cs =>
    (e = 'e' ∨ e = 'E') ∧
      readDigits (if sign = '+' ∨ sign = '-' then cs else sign :: cs) = some []
  | _ => false

/-- A fraction and an exponent, either or none. -/
def isFraction : List Char → Bool
  | '.' :: cs => (readDigits cs).any isExponent
  | cs => isExponent cs

/-- Whether a numeric text is a number: no zero leads other digits. -/
def isNumber (cs : List Char) : Bool :=
  let cs := if cs.head? = some '-' then cs.tail else cs
  let whole := cs.takeWhile Char.isDigit
  (whole = ['0'] ∨ whole ≠ [] ∧ whole.head? ≠ some '0') ∧ isFraction (cs.dropWhile Char.isDigit)

def readNumber (cs : List Char) : Option (Value × List Char) :=
  let literal := cs.takeWhile isNumeric
  if isNumber literal then some (.num literal, cs.dropWhile isNumeric) else none

/-- A keyword, or a number. -/
def readWord (cs : List Char) : Option (Value × List Char) :=
  if ['t', 'r', 'u', 'e'].isPrefixOf cs then some (.bool true, cs.drop 4)
  else if ['f', 'a', 'l', 's', 'e'].isPrefixOf cs then some (.bool false, cs.drop 5)
  else if ['n', 'u', 'l', 'l'].isPrefixOf cs then some (.null, cs.drop 4)
  else readNumber cs

/-- What follows a character, if that is what comes. -/
def expect (c : Char) : List Char → Option (List Char)
  | [] => none
  | c' :: cs => if c' = c then some cs else none

/-- The members of an object up to its closing brace, at most so many. -/
def readMembers (value : List Char → Option (Value × List Char)) :
    Nat → List Char → Option (List (Units × Value) × List Char)
  | 0, _ => none
  | n + 1, cs => do
    let cs ← expect '"' cs
    let (name, cs) ← readString .plain [] cs
    let cs ← expect ':' (skip cs)
    let (v, cs) ← value (skip cs)
    match expect ',' (skip cs) with
    | some cs => do
      let (members, cs) ← readMembers value n (skip cs)
      some ((name, v) :: members, cs)
    | none => do
      let cs ← expect '}' (skip cs)
      some ([(name, v)], cs)

/-- The elements of an array up to its closing bracket, at most so many. -/
def readElements (value : List Char → Option (Value × List Char)) :
    Nat → List Char → Option (List Value × List Char)
  | 0, _ => none
  | n + 1, cs => do
    let (v, cs) ← value cs
    match expect ',' (skip cs) with
    | some cs => do
      let (xs, cs) ← readElements value n (skip cs)
      some (v :: xs, cs)
    | none => do
      let cs ← expect ']' (skip cs)
      some ([v], cs)

/-- A value, with values inside values at most so deep. -/
def readValue : Nat → List Char → Option (Value × List Char)
  | 0, _ => none
  | depth + 1, cs =>
    match expect '"' cs, expect '{' cs, expect '[' cs with
    | some cs, _, _ => (readString .plain [] cs).map fun (s, cs) => (.str s, cs)
    | _, some cs, _ =>
      match expect '}' (skip cs) with
      | some cs => some (.obj [], cs)
      | none =>
        (readMembers (readValue depth) cs.length (skip cs)).map fun (ms, cs) => (.obj ms, cs)
    | _, _, some cs =>
      match expect ']' (skip cs) with
      | some cs => some (.arr [], cs)
      | none =>
        (readElements (readValue depth) cs.length (skip cs)).map fun (xs, cs) => (.arr xs, cs)
    | none, none, none => readWord cs

/-- A text that is one value. It cannot nest deeper than it is long. -/
def parse (text : List Char) : Option Value :=
  match readValue (text.length + 1) (skip text) with
  | some (v, rest) => if skip rest = [] then some v else none
  | none => none

/-- The member of an object under a name, the last one where a name is repeated. -/
def Value.member? : Value → Units → Option Value
  | .obj members, name => (members.reverse.find? fun m => m.1 = name).map (·.2)
  | _, _ => none

/-- What a scalar is read as. -/
def Scalar.read : Scalar → Value
  | .str s => .str (utf16 s)
  | .int n => .num (writeInt n)

/-! ## 3. Strings

The digits of an escape come back as the number they were made of, the escape as the unit, the units
as the character, and the characters as the string. -/

section
variable {cs : List Char} {read : Units}

theorem hexDigit?_digitChar : ∀ d < 16, hexDigit? (Nat.digitChar d) = some d := by
  decide

/-- The digits at the front of an escape, with `left + 1` more to come. -/
theorem readString_hexDigits_append (left value n : Nat) :
    ∀ width, n < 16 ^ width →
      readString (.hex (width + (left + 1)) value) read (hexDigits width n ++ cs) =
        readString (.hex (left + 1) (value * 16 ^ width + n)) read cs := by
  intro width
  induction width generalizing left n cs with
  | zero =>
    intro hn
    have hzero : n = 0 := by simpa using hn
    subst hzero
    simp [hexDigits]
  | succ width ih =>
    intro hn
    have hdiv : n / 16 < 16 ^ width := by
      rw [Nat.div_lt_iff_lt_mul (by decide), ← Nat.pow_succ]
      exact hn
    have hdigit := hexDigit?_digitChar (n % 16) (Nat.mod_lt n (by decide))
    have hvalue : (value * 16 ^ width + n / 16) * 16 + n % 16 = value * 16 ^ (width + 1) + n := by
      rw [Nat.pow_succ, Nat.add_mul, Nat.mul_assoc, Nat.add_assoc, Nat.div_add_mod']
    rw [hexDigits, List.append_assoc, Nat.add_right_comm width 1 (left + 1), Nat.add_assoc width,
      ih (left + 1) (n / 16) hdiv, List.singleton_append, readString, hdigit]
    simp only [Nat.add_eq_right, Nat.add_eq_zero_iff, Nat.one_ne_zero, and_false, if_false,
      Nat.add_sub_cancel, hvalue]

/-- An escape is read back as its unit. -/
theorem readString_escapeUnit {u : Nat} (hu : u < 0x10000) :
    readString .plain read (escapeUnit u ++ cs) = readString .plain (read ++ [u]) cs := by
  have hdigit := hexDigit?_digitChar (u % 16) (Nat.mod_lt u (by decide))
  have hvalue : (0 * 16 ^ 3 + u / 16) * 16 + u % 16 = u := by omega
  have hread : readString .plain read (escapeUnit u ++ cs) =
      readString (.hex (3 + (0 + 1)) 0) read (hexDigits 4 u ++ cs) := rfl
  rw [hread, hexDigits, List.append_assoc, readString_hexDigits_append 0 0 (u / 16) 3 (by omega),
    List.singleton_append, readString, hdigit]
  simp only [if_true, hvalue]

theorem utf16Char_lt {c : Char} : ∀ u ∈ utf16Char c, u < 0x10000 := by
  have hvalid : c.toNat < 0x110000 := by
    obtain h | ⟨-, h⟩ := c.valid
    · exact Nat.lt_trans h (by decide)
    · exact h
  unfold utf16Char
  split
  · intro u hu
    rw [List.mem_singleton] at hu
    omega
  · intro u hu
    simp only [List.mem_cons, List.not_mem_nil, or_false] at hu
    omega

theorem readString_escapeUnits {us : Units} (hus : ∀ u ∈ us, u < 0x10000) :
    readString .plain read (us.flatMap escapeUnit ++ cs) = readString .plain (read ++ us) cs := by
  induction us generalizing read with
  | nil => simp
  | cons u us ih =>
    rw [List.flatMap_cons, List.append_assoc, readString_escapeUnit (hus u List.mem_cons_self),
      ih fun v hv => hus v (List.mem_cons_of_mem u hv), List.append_assoc, List.singleton_append]

/-- A backslash and the letter `d` stand for the character `c`. -/
structure Escapes (d c : Char) : Prop where
  notHex : d ≠ 'u'
  ascii : d.toNat < 128
  value : simpleEscape? d = some c.toNat
  unit : c.toNat < 0x10000

/-- The ways to write the character `c` in a string literal: a backslash and a letter, itself where
    it is one of the `bare` characters, or the numbers of its code units. -/
inductive Spells (bare : Char → Prop) (c : Char) : List Char → Prop
  | letter {d : Char} (escapes : Escapes d c) : Spells bare c ['\\', d]
  | itself (not_quote : c ≠ '"') (not_backslash : c ≠ '\\') (printable : ' ' ≤ c)
      (is_bare : bare c) : Spells bare c [c]
  | units : Spells bare c ((utf16Char c).flatMap escapeUnit)

section
variable {bare : Char → Prop} {c : Char} {written rest : List Char}

/-- **A character is read back as its code units, however it is written.** -/
theorem Spells.readString (h : Spells bare c written) :
    readString .plain read (written ++ cs) = readString .plain (read ++ utf16Char c) cs := by
  cases h with
  | letter escapes =>
    have hunits : utf16Char c = [c.toNat] := if_pos escapes.unit
    rw [hunits]
    show (if _ = 'u' then _ else _) = _
    rw [if_neg escapes.notHex, escapes.value]
    rfl
  | itself not_quote not_backslash printable =>
    rw [List.singleton_append, JsonText.readString, if_neg not_quote, if_neg not_backslash,
      if_neg (Char.not_lt.mpr printable)]
  | units => exact readString_escapeUnits utf16Char_lt

/-- The characters that have a letter of their own are written by it; what a writer does with the
    others is `rest`. -/
theorem Spells.escaped (hrest : c ≠ '"' → c ≠ '\\' → Spells bare c rest) :
    Spells bare c
      (if c = '"' then ['\\', '"']
        else if c = '\\' then ['\\', '\\']
        else if c = '\n' then ['\\', 'n']
        else if c = '\r' then ['\\', 'r']
        else if c = '\t' then ['\\', 't']
        else if c = '\x0c' then ['\\', 'f']
        else if c = '\x08' then ['\\', 'b']
        else rest) := by
  by_cases hquote : c = '"'
  · rw [if_pos hquote, hquote]
    exact .letter ⟨by decide, by decide, rfl, by decide⟩
  rw [if_neg hquote]
  by_cases hbackslash : c = '\\'
  · rw [if_pos hbackslash, hbackslash]
    exact .letter ⟨by decide, by decide, rfl, by decide⟩
  rw [if_neg hbackslash]
  by_cases hnewline : c = '\n'
  · rw [if_pos hnewline, hnewline]
    exact .letter ⟨by decide, by decide, rfl, by decide⟩
  rw [if_neg hnewline]
  by_cases hreturn : c = '\r'
  · rw [if_pos hreturn, hreturn]
    exact .letter ⟨by decide, by decide, rfl, by decide⟩
  rw [if_neg hreturn]
  by_cases htab : c = '\t'
  · rw [if_pos htab, htab]
    exact .letter ⟨by decide, by decide, rfl, by decide⟩
  rw [if_neg htab]
  by_cases hfeed : c = '\x0c'
  · rw [if_pos hfeed, hfeed]
    exact .letter ⟨by decide, by decide, rfl, by decide⟩
  rw [if_neg hfeed]
  by_cases hbackspace : c = '\x08'
  · rw [if_pos hbackspace, hbackspace]
    exact .letter ⟨by decide, by decide, rfl, by decide⟩
  -- none of the seven
  rw [if_neg hbackspace]
  exact hrest hquote hbackslash

/-- **A literal is read back as the code units of its text**, whoever wrote its characters. -/
theorem readString_flatMap {write : Char → List Char} (hwrite : ∀ c, Spells bare c (write c))
    (chars : List Char) :
    readString .plain read (chars.flatMap write ++ '"' :: cs) =
      some (read ++ chars.flatMap utf16Char, cs) := by
  induction chars generalizing read with
  | nil => simp [JsonText.readString]
  | cons c chars ih =>
    rw [List.flatMap_cons, List.append_assoc, (hwrite c).readString, ih, List.flatMap_cons,
      List.append_assoc]

end

/-- The writer of ASCII texts leaves the printable ASCII characters as they are. -/
theorem writeChar_spells (c : Char) : Spells (· ≤ '~') c (writeChar c) := by
  refine Spells.escaped ?_
  intro hquote hbackslash
  by_cases hprintable : ' ' ≤ c ∧ c ≤ '~'
  · rw [if_pos hprintable]
    exact .itself hquote hbackslash hprintable.1 hprintable.2
  · rw [if_neg hprintable]
    exact .units

theorem readString_writeString (s : String) :
    readString .plain [] ((writeString s).tail ++ cs) = some (utf16 s, cs) := by
  have htail : (writeString s).tail ++ cs = s.toList.flatMap writeChar ++ '"' :: cs := by
    simp [writeString]
  rw [htail, readString_flatMap writeChar_spells, List.nil_append]
  rfl

/-! ## 4. Integers -/

/-- No zero leads other digits. -/
theorem toDigits_head (n : Nat) :
    Nat.toDigits 10 n = ['0'] ∨ Nat.toDigits 10 n ≠ [] ∧ (Nat.toDigits 10 n).head? ≠ some '0' := by
  by_cases hzero : n = 0
  · subst hzero
    exact .inl (Nat.toDigits_zero 10)
  refine .inr ⟨Nat.toDigits_ne_nil, ?_⟩
  induction n using Nat.strongRecOn with
  | ind n ih =>
    by_cases hlt : n < 10
    · rw [Nat.toDigits_of_lt_base hlt]
      have hdigit : ∀ d < 10, d ≠ 0 → [Nat.digitChar d].head? ≠ some '0' := by decide
      exact hdigit n hlt hzero
    · rw [Nat.toDigits_of_base_le (by decide) (Nat.le_of_not_lt hlt),
        List.head?_append_of_ne_nil _ Nat.toDigits_ne_nil]
      exact ih (n / 10) (Nat.div_lt_self (Nat.pos_of_ne_zero hzero) (by decide)) (by omega)

theorem isDigit_of_mem_toDigits {n : Nat} {c : Char} (hc : c ∈ Nat.toDigits 10 n) :
    c.isDigit = true := Nat.isDigit_of_mem_toDigits (by decide) (by decide) hc

/-- The digits of a number, with nothing after them, are a number. -/
theorem isNumber_toDigits (n : Nat) :
    (decide (Nat.toDigits 10 n = ['0'] ∨
        Nat.toDigits 10 n ≠ [] ∧ (Nat.toDigits 10 n).head? ≠ some '0') &&
      isFraction []) = true := by
  simp only [Bool.and_eq_true, decide_eq_true_eq]
  exact ⟨toDigits_head n, rfl⟩

theorem takeWhile_toDigits (n : Nat) :
    (Nat.toDigits 10 n).takeWhile Char.isDigit = Nat.toDigits 10 n :=
  List.takeWhile_eq_self_iff.mpr fun _ hc => isDigit_of_mem_toDigits hc

theorem dropWhile_toDigits (n : Nat) : (Nat.toDigits 10 n).dropWhile Char.isDigit = [] :=
  List.dropWhile_eq_nil_iff.mpr fun _ hc => isDigit_of_mem_toDigits hc

theorem isNumber_writeInt (n : Int) : isNumber (writeInt n) = true := by
  have hnumber : ∀ m, isNumber ('-' :: Nat.toDigits 10 m) = true := by
    intro m
    unfold isNumber
    simp only [List.head?_cons, if_true, List.tail_cons, takeWhile_toDigits, dropWhile_toDigits]
    simpa using isNumber_toDigits m
  cases n with
  | negSucc n => exact hnumber (n + 1)
  | ofNat n =>
    have hminus : (Nat.toDigits 10 n).head? ≠ some '-' := by
      intro h
      have hdigit := isDigit_of_mem_toDigits (List.mem_of_mem_head? h)
      exact absurd hdigit (by decide)
    show isNumber (Nat.toDigits 10 n) = true
    unfold isNumber
    simp only [if_neg hminus, takeWhile_toDigits, dropWhile_toDigits]
    simpa using isNumber_toDigits n

theorem isNumeric_of_mem_writeInt {n : Int} {c : Char} (hc : c ∈ writeInt n) :
    isNumeric c = true := by
  have hdigits : ∀ {m : Nat}, c ∈ Nat.toDigits 10 m → isNumeric c = true := by
    intro m hc
    simp [isNumeric, isDigit_of_mem_toDigits hc]
  cases n with
  | ofNat n => exact hdigits hc
  | negSucc n =>
    obtain rfl | hc := List.mem_cons.mp hc
    · rfl
    · exact hdigits hc

theorem writeInt_ne_nil (n : Int) : writeInt n ≠ [] := by
  cases n with
  | ofNat n => exact Nat.toDigits_ne_nil
  | negSucc n => exact List.cons_ne_nil _ _

/-- An integer is read up to the character after it. -/
theorem readWord_writeInt (n : Int) (hcs : cs.head?.all fun c => !isNumeric c) :
    readWord (writeInt n ++ cs) = some (.num (writeInt n), cs) := by
  have hfirst : ∀ c, isNumeric c = false → (writeInt n ++ cs).head? ≠ some c := by
    intro c hc h
    rw [List.head?_append_of_ne_nil _ (writeInt_ne_nil n)] at h
    rw [isNumeric_of_mem_writeInt (List.mem_of_mem_head? h)] at hc
    exact nomatch hc
  have hword : ∀ c word, isNumeric c = false → ¬ (c :: word).isPrefixOf (writeInt n ++ cs) := by
    intro c word hc h
    obtain ⟨rest, hrest⟩ := List.isPrefixOf_iff_prefix.mp h
    apply hfirst c hc
    rw [← hrest]
    rfl
  have hnone : cs.takeWhile isNumeric = [] ∧ cs.dropWhile isNumeric = cs := by
    cases cs with
    | nil => exact ⟨rfl, rfl⟩
    | cons c cs =>
      have hc : isNumeric c = false := by simpa using hcs
      simp [hc]
  have hnumeric : ∀ c ∈ writeInt n, isNumeric c = true := fun _ => isNumeric_of_mem_writeInt
  unfold readWord readNumber
  rw [if_neg (hword 't' _ (by decide)), if_neg (hword 'f' _ (by decide)),
    if_neg (hword 'n' _ (by decide))]
  simp only [List.takeWhile_append_of_pos hnumeric, List.dropWhile_append_of_pos hnumeric,
    hnone.1, hnone.2, List.append_nil, isNumber_writeInt, if_true]

/-! ## 5. Objects -/

theorem expect_self {c : Char} : expect c (c :: cs) = some cs := if_pos rfl

theorem expect_of_ne {c c' : Char} (h : c' ≠ c) : expect c (c' :: cs) = none := if_neg h

theorem skip_of_not_isBlank {c : Char} (hc : isBlank c = false) : skip (c :: cs) = c :: cs := by
  unfold skip
  rw [List.dropWhile_cons_of_neg (by rw [hc]; decide)]

/-- An integer begins with a numeric character. -/
theorem writeInt_eq_cons (n : Int) : ∃ c digits, writeInt n = c :: digits ∧ isNumeric c = true := by
  cases hn : writeInt n with
  | nil => exact absurd hn (writeInt_ne_nil n)
  | cons c digits =>
    have hc : c ∈ writeInt n := hn ▸ List.mem_cons_self
    exact ⟨c, digits, rfl, isNumeric_of_mem_writeInt hc⟩

/-- No scalar begins with a blank. -/
theorem skip_writeScalar (x : Scalar) : skip (writeScalar x ++ cs) = writeScalar x ++ cs := by
  cases x with
  | str s => exact skip_of_not_isBlank rfl
  | int n =>
    obtain ⟨c, digits, hn, hnumeric⟩ := writeInt_eq_cons n
    have hblank : isBlank c = false := by
      by_contra h
      simp only [isBlank, Bool.not_eq_false, decide_eq_true_eq] at h
      obtain rfl | rfl | rfl | rfl := h <;> exact absurd hnumeric (by decide)
    show skip (writeInt n ++ cs) = writeInt n ++ cs
    rw [hn]
    exact skip_of_not_isBlank hblank

theorem readValue_writeScalar (depth : Nat) (x : Scalar)
    (hcs : cs.head?.all fun c => !isNumeric c) :
    readValue (depth + 1) (writeScalar x ++ cs) = some (x.read, cs) := by
  cases x with
  | str s =>
    show readValue (depth + 1) ('"' :: ((writeString s).tail ++ cs)) = _
    rw [readValue, expect_self]
    dsimp only
    rw [readString_writeString]
    rfl
  | int n =>
    obtain ⟨c, digits, hn, hnumeric⟩ := writeInt_eq_cons n
    have hne : ∀ c', isNumeric c' = false → expect c' (writeInt n ++ cs) = none := by
      intro c' hc'
      rw [hn]
      apply expect_of_ne
      rintro rfl
      rw [hnumeric] at hc'
      exact nomatch hc'
    show readValue (depth + 1) (writeInt n ++ cs) = _
    rw [readValue, hne '"' (by decide), hne '{' (by decide), hne '[' (by decide)]
    exact readWord_writeInt n hcs

/-- What the members of an object are read as. -/
def readFields (fields : List (String × Scalar)) : List (Units × Value) :=
  fields.map fun f => (utf16 f.1, f.2.read)

/-- A member begins with the quotation mark of its name. -/
theorem skip_writeMembers (field : String × Scalar) (rest : List (String × Scalar)) :
    skip (writeMembers (field :: rest) ++ cs) = writeMembers (field :: rest) ++ cs := by
  cases rest with
  | nil => exact skip_of_not_isBlank rfl
  | cons field' rest => exact skip_of_not_isBlank rfl

section
variable {value : List Char → Option (Value × List Char)} {n : Nat}

/-- A member and the character after its value. -/
theorem readMembers_writeMember
    (hvalue : ∀ x rest, (rest.head?.all fun c => !isNumeric c) →
      value (writeScalar x ++ rest) = some (x.read, rest)) (field : String × Scalar)
    (hcs : cs.head?.all fun c => !isNumeric c) :
    readMembers value (n + 1) (writeMember field ++ cs) =
      (match expect ',' (skip cs) with
      | some cs => do
        let (members, cs) ← readMembers value n (skip cs)
        some ((utf16 field.1, field.2.read) :: members, cs)
      | none => do
        let cs ← expect '}' (skip cs)
        some ([(utf16 field.1, field.2.read)], cs)) := by
  have htext : writeMember field ++ cs =
      '"' :: ((writeString field.1).tail ++ ':' :: (writeScalar field.2 ++ cs)) := by
    simp [writeMember, writeString]
  rw [htext, readMembers, expect_self]
  dsimp only [Option.bind_eq_bind, Option.bind_some]
  rw [readString_writeString]
  dsimp only [Option.bind_some]
  rw [skip_of_not_isBlank rfl, expect_self]
  dsimp only [Option.bind_some]
  rw [skip_writeScalar, hvalue field.2 cs hcs]
  rfl

theorem readMembers_writeMembers
    (hvalue : ∀ x rest, (rest.head?.all fun c => !isNumeric c) →
      value (writeScalar x ++ rest) = some (x.read, rest)) {fields : List (String × Scalar)}
    (hne : fields ≠ []) (hn : fields.length ≤ n) :
    readMembers value n (writeMembers fields ++ '}' :: cs) = some (readFields fields, cs) := by
  induction fields using writeMembers.induct generalizing n with
  | case1 => exact absurd rfl hne
  | case2 field =>
    obtain ⟨n, rfl⟩ : ∃ m, n = m + 1 := ⟨n - 1, by simp at hn; omega⟩
    rw [writeMembers, readMembers_writeMember hvalue field rfl, skip_of_not_isBlank rfl,
      expect_of_ne (by decide), expect_self]
    rfl
  | case3 field field' rest ih =>
    obtain ⟨n, rfl⟩ : ∃ m, n = m + 1 := ⟨n - 1, by simp at hn; omega⟩
    have hrest := ih (List.cons_ne_nil _ _) (Nat.le_of_succ_le_succ hn)
    rw [writeMembers, List.append_assoc, readMembers_writeMember hvalue field rfl,
      List.cons_append, skip_of_not_isBlank rfl, expect_self]
    dsimp only
    rw [skip_writeMembers, hrest]
    rfl

end

/-- Every member takes a character of its own. -/
theorem length_le_length_writeMembers (fields : List (String × Scalar)) :
    fields.length ≤ (writeMembers fields).length := by
  have hmember : ∀ field, 1 ≤ (writeMember field).length := by
    intro field
    simp [writeMember, writeString]
  induction fields using writeMembers.induct with
  | case1 => exact Nat.zero_le _
  | case2 field => exact hmember field
  | case3 field field' rest ih =>
    have hpos := hmember field
    simp only [writeMembers, List.length_append, List.length_cons] at *
    omega

theorem readValue_writeObject (depth : Nat) (fields : List (String × Scalar)) :
    readValue (depth + 1 + 1) (writeObject fields) = some (.obj (readFields fields), []) := by
  cases fields with
  | nil => rfl
  | cons field rest =>
    have hlength : (field :: rest).length ≤ (writeMembers (field :: rest) ++ ['}']).length := by
      have hle := length_le_length_writeMembers (field :: rest)
      rw [List.length_append]
      omega
    have hmembers : readMembers (readValue (depth + 1))
        (writeMembers (field :: rest) ++ ['}']).length (writeMembers (field :: rest) ++ ['}']) =
          some (readFields (field :: rest), []) :=
      readMembers_writeMembers (fun x _ => readValue_writeScalar depth x)
        (List.cons_ne_nil field rest) hlength
    have hquote : ∃ cs, writeMembers (field :: rest) ++ ['}'] = '"' :: cs := by
      cases rest with
      | nil => exact ⟨_, rfl⟩
      | cons field' rest => exact ⟨_, rfl⟩
    rw [writeObject, readValue, expect_of_ne (by decide), expect_self]
    dsimp only
    rw [skip_writeMembers, hmembers]
    obtain ⟨cs, hcs⟩ := hquote
    rw [hcs, expect_of_ne (by decide)]
    rfl

/-- **What is written is what is read.** -/
theorem parse_writeObject (fields : List (String × Scalar)) :
    parse (writeObject fields) = some (.obj (readFields fields)) := by
  have hskip : skip (writeObject fields) = writeObject fields := skip_of_not_isBlank rfl
  obtain ⟨depth, hdepth⟩ : ∃ depth, (writeObject fields).length + 1 = depth + 1 + 1 :=
    ⟨(writeObject fields).length - 1, by simp [writeObject]⟩
  unfold parse
  rw [hskip, hdepth, readValue_writeObject]
  rfl

/-! ## 6. Bytes -/

theorem hexDigits_injective {n m : Nat} : ∀ width, n < 16 ^ width → m < 16 ^ width →
    hexDigits width n = hexDigits width m → n = m := by
  have hdigit : ∀ d < 16, ∀ d' < 16, Nat.digitChar d = Nat.digitChar d' → d = d' := by decide
  intro width
  induction width generalizing n m with
  | zero =>
    intro hn hm _
    omega
  | succ width ih =>
    intro hn hm heq
    have hlt : ∀ {k}, k < 16 ^ (width + 1) → k / 16 < 16 ^ width := fun hk =>
      (Nat.div_lt_iff_lt_mul (by decide)).mpr (Nat.pow_succ .. ▸ hk)
    obtain ⟨hinit, hlast⟩ := List.append_inj' heq rfl
    have hdiv := ih (hlt hn) (hlt hm) hinit
    have hmod := hdigit _ (Nat.mod_lt n (by decide)) _ (Nat.mod_lt m (by decide))
      (List.singleton_inj.mp hlast)
    rw [← Nat.div_add_mod n 16, ← Nat.div_add_mod m 16, hdiv, hmod]

theorem mem_hexDigits {width n : Nat} {c : Char} (hc : c ∈ hexDigits width n) :
    ∃ d < 16, c = Nat.digitChar d := by
  induction width generalizing n with
  | zero => exact absurd hc List.not_mem_nil
  | succ width ih =>
    obtain hc | hc := List.mem_append.mp hc
    · exact ih hc
    · exact ⟨n % 16, Nat.mod_lt n (by decide), List.mem_singleton.mp hc⟩

/-- A text that can be sent a byte a character. -/
def IsAscii (cs : List Char) : Prop := ∀ c ∈ cs, c.toNat < 128

instance (cs : List Char) : Decidable (IsAscii cs) :=
  decidable_of_iff (cs.all fun c => c.toNat < 128) (by simp [IsAscii])

theorem isAscii_append {cs' : List Char} : IsAscii (cs ++ cs') ↔ IsAscii cs ∧ IsAscii cs' :=
  List.forall_mem_append

theorem isAscii_cons {c : Char} : IsAscii (c :: cs) ↔ c.toNat < 128 ∧ IsAscii cs :=
  List.forall_mem_cons

theorem isAscii_nil : IsAscii [] := nofun

theorem isAscii_flatMap {α : Type*} {f : α → List Char} {xs : List α}
    (h : ∀ x, IsAscii (f x)) : IsAscii (xs.flatMap f) := by
  intro c hc
  obtain ⟨x, -, hx⟩ := List.mem_flatMap.mp hc
  exact h x c hx

theorem isAscii_hexDigits (width n : Nat) : IsAscii (hexDigits width n) := by
  have hdigit : ∀ d < 16, (Nat.digitChar d).toNat < 128 := by decide
  induction width generalizing n with
  | zero => exact isAscii_nil
  | succ width ih =>
    exact isAscii_append.mpr ⟨ih (n / 16), isAscii_cons.mpr
      ⟨hdigit (n % 16) (Nat.mod_lt n (by decide)), isAscii_nil⟩⟩

theorem isAscii_escapeUnit (u : Nat) : IsAscii (escapeUnit u) :=
  isAscii_cons.mpr ⟨by decide, isAscii_cons.mpr ⟨by decide, isAscii_hexDigits 4 u⟩⟩

theorem isAscii_escape {c : Char} (hc : c.toNat < 128) : IsAscii ['\\', c] :=
  isAscii_cons.mpr ⟨by decide, isAscii_cons.mpr ⟨hc, isAscii_nil⟩⟩

theorem isAscii_writeChar (c : Char) : IsAscii (writeChar c) := by
  have hspells := writeChar_spells c
  generalize writeChar c = written at hspells
  cases hspells with
  | letter escapes => exact isAscii_escape escapes.ascii
  | itself _ _ _ is_bare =>
    have hc : c.toNat ≤ '~'.toNat := is_bare
    exact isAscii_cons.mpr ⟨Nat.lt_of_le_of_lt hc (by decide), isAscii_nil⟩
  | units => exact isAscii_flatMap isAscii_escapeUnit

theorem isAscii_writeString (s : String) : IsAscii (writeString s) :=
  isAscii_cons.mpr ⟨by decide, isAscii_append.mpr
    ⟨isAscii_flatMap isAscii_writeChar, isAscii_cons.mpr ⟨by decide, isAscii_nil⟩⟩⟩

theorem isAscii_writeScalar (x : Scalar) : IsAscii (writeScalar x) := by
  have hnumeric : ∀ c, isNumeric c = true → c.toNat < 128 := by
    intro c hc
    simp only [isNumeric, Char.isDigit, Bool.and_eq_true, decide_eq_true_eq] at hc
    obtain ⟨-, hle⟩ | rfl | rfl | rfl | rfl | rfl := hc
    · have hle' : c.toNat ≤ '9'.toNat := hle
      exact Nat.lt_of_le_of_lt hle' (by decide)
    all_goals decide
  cases x with
  | str s => exact isAscii_writeString s
  | int n => exact fun c hc => hnumeric c (isNumeric_of_mem_writeInt hc)

theorem isAscii_writeMember (field : String × Scalar) : IsAscii (writeMember field) :=
  isAscii_append.mpr ⟨isAscii_writeString field.1,
    isAscii_cons.mpr ⟨by decide, isAscii_writeScalar field.2⟩⟩

theorem isAscii_writeObject (fields : List (String × Scalar)) : IsAscii (writeObject fields) := by
  have hmembers : IsAscii (writeMembers fields) := by
    induction fields using writeMembers.induct with
    | case1 => exact isAscii_nil
    | case2 field => exact isAscii_writeMember field
    | case3 field field' rest ih =>
      exact isAscii_append.mpr ⟨isAscii_writeMember field, isAscii_cons.mpr ⟨by decide, ih⟩⟩
  exact isAscii_cons.mpr ⟨by decide, isAscii_append.mpr
    ⟨hmembers, isAscii_cons.mpr ⟨by decide, isAscii_nil⟩⟩⟩

theorem utf8Char_of_ascii {c : Char} (h : c.toNat < 128) : utf8Char c = [c.toNat] := by
  have hle : c.toNat ≤ 0x7f := Nat.le_of_lt_succ h
  unfold utf8Char String.utf8EncodeChar
  simp only [Char.toNat_val, hle, if_true, List.map_cons, List.map_nil, List.cons.injEq, and_true]
  exact Nat.mod_eq_of_lt (Nat.lt_trans h (by decide))

theorem utf8_of_isAscii (h : IsAscii cs) : utf8 cs = cs.map Char.toNat := by
  induction cs with
  | nil => rfl
  | cons c cs ih =>
    obtain ⟨hc, hcs⟩ := isAscii_cons.mp h
    unfold utf8 at *
    rw [List.flatMap_cons, utf8Char_of_ascii hc, ih hcs]
    rfl

/-- An ASCII text arrives a character a byte. -/
theorem latin1_utf8 (h : IsAscii cs) : latin1 (utf8 cs) = cs := by
  unfold latin1
  rw [utf8_of_isAscii h, List.map_map]
  exact List.map_id'' (fun c => Char.ofNat_toNat c) cs

theorem utf16_of_isAscii {s : String} (h : IsAscii s.toList) :
    utf16 s = s.toList.map Char.toNat := by
  unfold utf16
  rw [List.map_eq_flatMap]
  apply List.flatMap_congr
  intro c hc
  exact if_pos (Nat.lt_trans (h c hc) (by decide))

theorem utf8_lt (h : IsAscii cs) : ∀ b ∈ utf8 cs, b < 256 := by
  intro b hb
  rw [utf8_of_isAscii h, List.mem_map] at hb
  obtain ⟨c, hc, rfl⟩ := hb
  exact Nat.lt_trans (h c hc) (by decide)

end

end JsonText
