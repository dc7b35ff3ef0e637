import Mathlib.Data.List.Basic

/-!
# Base64

The two ends of a base64 channel that do not speak quite the same dialect: the sender writes the
URL-safe alphabet **without padding**, the receiver puts the standard alphabet in its place and
decodes forgivingly, dropping whitespace and padding. What arrives is what was sent.

Bytes and sextets are natural numbers, below 256 and 64.
-/

set_option autoImplicit false

namespace Base64

/-- The digit of a sextet in the URL-safe alphabet. -/
def urlChar (n : Nat) : Char :=
  if n < 26 then Char.ofNat ('A'.toNat + n)
  else if n < 52 then Char.ofNat ('a'.toNat + (n - 26))
  else if n < 62 then Char.ofNat ('0'.toNat + (n - 52))
  else if n = 62 then '-'
  else '_'

/-- The sextet of a digit in the standard alphabet. -/
def value? (c : Char) : Option Nat :=
  if 'A' ≤ c ∧ c ≤ 'Z' then some (c.toNat - 'A'.toNat)
  else if 'a' ≤ c ∧ c ≤ 'z' then some (c.toNat - 'a'.toNat + 26)
  else if '0' ≤ c ∧ c ≤ '9' then some (c.toNat - '0'.toNat + 52)
  else if c = '+' then some 62
  else if c = '/' then some 63
  else none

/-- From the URL-safe alphabet to the standard one. -/
def toStandard (c : Char) : Char := if c = '-' then '+' else if c = '_' then '/' else c

/-- Three bytes are four sextets; one or two bytes at the end are two or three. -/
def sextets : List Nat → List Nat
  | a :: b :: c :: rest =>
    a / 4 :: (a % 4 * 16 + b / 16) :: (b % 16 * 4 + c / 64) :: c % 64 :: sextets rest
  | [a, b] => [a / 4, a % 4 * 16 + b / 16, b % 16 * 4]
  | [a] => [a / 4, a % 4 * 16]
  | [] => []

/-- The bytes of sextets, where the bits left over at the end are dropped. One sextet alone is
    not a byte. -/
def bytes : List Nat → Option (List Nat)
  | a :: b :: c :: d :: rest =>
    (bytes rest).map ([a * 4 + b / 16, b % 16 * 16 + c / 4, c % 4 * 64 + d] ++ ·)
  | [a, b, c] => some [a * 4 + b / 16, b % 16 * 16 + c / 4]
  | [a, b] => some [a * 4 + b / 16]
  | [_] => none
  | [] => some []

/-- URL-safe, without padding. -/
def urlEncode (bs : List Nat) : List Char := (sextets bs).map urlChar

/-- The whitespace a forgiving decoder drops. -/
def isAsciiWhitespace (c : Char) : Bool :=
  c = '\t' ∨ c = '\n' ∨ c = '\x0c' ∨ c = '\r' ∨ c = ' '

/-- One or two padding characters at the end. -/
def dropPadding (cs : List Char) : List Char :=
  match cs.reverse with
  | '=' :: '=' :: rest => rest.reverse
  | '=' :: rest => rest.reverse
  | _ => cs

/-- A forgiving decoder: whitespace goes first, then padding where the length is a multiple of
    four. -/
def forgivingDecode (cs : List Char) : Option (List Nat) := do
  let data := cs.filter fun c => !isAsciiWhitespace c
  let data := if data.length % 4 = 0 then dropPadding data else data
  bytes (← data.mapM value?)

/-- What a strict decoder makes of the characters from the first padding on, where `digits` digits
    stand before it: padding that completes a quantum ends the text, padding behind whole quanta is
    passed over. -/
def strictPadding (digits : Nat) : Nat → List Char → Except String Unit
  | _, [] =>
    if digits % 4 = 0 then .ok ()
    else if digits % 4 = 1 then
      .error ("Invalid base64-encoded string: number of data characters (" ++ toString digits ++
        ") cannot be 1 more than a multiple of 4")
    else .error "Incorrect padding"
  | pads, c :: cs =>
    if c = '=' then
      if digits % 4 < 2 then strictPadding digits pads cs
      else if digits % 4 + (pads + 1) < 4 then strictPadding digits (pads + 1) cs
      else if cs.isEmpty then .ok ()
      else .error "Excess data after padding"
    else if (value? c).isNone then .error "Only base64 data is allowed"
    else .error "Discontinuous padding not allowed"

/-- A strict decoder: digits of the standard alphabet, and padding that completes them. -/
def strictDecode (cs : List Char) : Except String (List Nat) :=
  if cs.any (127 < ·.toNat) then .error "string argument should contain only ASCII characters"
  else if cs.head? = some '=' then .error "Leading padding not allowed"
  else
    match (cs.takeWhile (· ≠ '=')).mapM value? with
    | none => .error "Only base64 data is allowed"
    | some digits =>
      match strictPadding digits.length 0 (cs.dropWhile (· ≠ '=')) with
      | .error e => .error e
      | .ok () => .ok ((bytes digits).getD [])

/-! ## What arrives -/

section
variable {bs : List Nat}

theorem sextets_lt (h : ∀ b ∈ bs, b < 256) : ∀ n ∈ sextets bs, n < 64 := by
  induction bs using sextets.induct with
  | case1 a b c rest ih =>
    have ha := h a (by simp)
    have hb := h b (by simp)
    have hc := h c (by simp)
    have hrest := ih fun x hx => h x (by simp [hx])
    intro n hn
    simp only [sextets, List.mem_cons] at hn
    obtain rfl | rfl | rfl | rfl | hn := hn
    · omega
    · omega
    · omega
    · omega
    · exact hrest n hn
  | case2 a b =>
    have ha := h a (by simp)
    have hb := h b (by simp)
    simp only [sextets, List.mem_cons, List.not_mem_nil, or_false, forall_eq_or_imp, forall_eq]
    omega
  | case3 a =>
    have ha := h a (by simp)
    simp only [sextets, List.mem_cons, List.not_mem_nil, or_false, forall_eq_or_imp, forall_eq]
    omega
  | case4 => exact nofun

/-- Sextets keep every bit of the bytes. -/
theorem bytes_sextets (h : ∀ b ∈ bs, b < 256) : bytes (sextets bs) = some bs := by
  induction bs using sextets.induct with
  | case1 a b c rest ih =>
    have ha := h a (by simp)
    have hb := h b (by simp)
    have hc := h c (by simp)
    have hrest := ih fun x hx => h x (by simp [hx])
    simp only [sextets, bytes, hrest, Option.map_some, List.cons_append, List.nil_append,
      Option.some.injEq, List.cons.injEq, and_true]
    omega
  | case2 a b =>
    have ha := h a (by simp)
    have hb := h b (by simp)
    simp only [sextets, bytes, Option.some.injEq, List.cons.injEq, and_true]
    omega
  | case3 a =>
    have ha := h a (by simp)
    simp only [sextets, bytes, Option.some.injEq, List.cons.injEq, and_true]
    omega
  | case4 => rfl

/-- The digits of the two alphabets stand for the same sextets, and none is whitespace, padding
    or the dot that separates the segments of a token. -/
theorem urlChar_spec : ∀ n < 64,
    value? (toStandard (urlChar n)) = some n ∧
      isAsciiWhitespace (toStandard (urlChar n)) = false ∧ toStandard (urlChar n) ≠ '=' ∧
      urlChar n ≠ '.' := by
  decide

theorem dropPadding_of_not_mem {cs : List Char} (h : '=' ∉ cs) : dropPadding cs = cs := by
  unfold dropPadding
  split
  case h_1 rest heq => exact absurd (List.mem_reverse.mp (heq ▸ List.mem_cons_self)) h
  case h_2 rest heq => exact absurd (List.mem_reverse.mp (heq ▸ List.mem_cons_self)) h
  case h_3 => rfl

theorem mapM_value?_map {ns : List Nat} (h : ∀ n ∈ ns, n < 64) :
    (ns.map fun n => toStandard (urlChar n)).mapM value? = some ns := by
  induction ns with
  | nil => rfl
  | cons n ns ih =>
    have hn := (urlChar_spec n (h n List.mem_cons_self)).1
    have hns := ih fun m hm => h m (List.mem_cons_of_mem n hm)
    rw [List.map_cons, List.mapM_cons, hn, hns]
    rfl

/-- **What was sent URL-safe and without padding is what a forgiving decoder reads.** -/
theorem forgivingDecode_urlEncode (h : ∀ b ∈ bs, b < 256) :
    forgivingDecode ((urlEncode bs).map toStandard) = some bs := by
  have hlt := sextets_lt h
  have hmap : (urlEncode bs).map toStandard =
      (sextets bs).map fun n => toStandard (urlChar n) := by
    unfold urlEncode
    rw [List.map_map]
    rfl
  have hfilter : ((urlEncode bs).map toStandard).filter (fun c => !isAsciiWhitespace c) =
      (urlEncode bs).map toStandard := by
    apply List.filter_eq_self.mpr
    intro c hc
    rw [hmap, List.mem_map] at hc
    obtain ⟨n, hn, rfl⟩ := hc
    simp [(urlChar_spec n (hlt n hn)).2.1]
  have hpadding : '=' ∉ (urlEncode bs).map toStandard := by
    intro hc
    rw [hmap, List.mem_map] at hc
    obtain ⟨n, hn, heq⟩ := hc
    exact (urlChar_spec n (hlt n hn)).2.2.1 heq
  unfold forgivingDecode
  dsimp only
  rw [hfilter, dropPadding_of_not_mem hpadding, ite_self, hmap, mapM_value?_map hlt]
  exact bytes_sextets h

theorem dot_not_mem_urlEncode (h : ∀ b ∈ bs, b < 256) : '.' ∉ urlEncode bs := by
  intro hc
  unfold urlEncode at hc
  rw [List.mem_map] at hc
  obtain ⟨n, hn, heq⟩ := hc
  exact (urlChar_spec n (sextets_lt h n hn)).2.2.2 heq

end

end Base64
