import ProctorEngine.Lib.Segments
import ProctorEngine.Lib.Utf8

/-!
# `application/x-www-form-urlencoded`

Pairs of texts as one text. The writer joins names and values with `=` and pairs with `&`, writes a
blank as `+` and everything that is not unreserved as the escapes of its bytes; the reader cuts at
every `&` and at the first `=`. Neither separator is unreserved, so **the reader finds the pairs the
writer was given**, whatever characters are in them.

The round trip goes in two halves. `percentDecode` over `quotePlus` gives the UTF-8 of a text, one
character at a time, and `Utf8.decode` gives the text; and since a quoted text holds no separator,
the cuts of the reader are the joins of the writer (`parse_intercalate`).

A reader is also given texts that no writer of this kind has made, so the last section says what
becomes of their characters: what stands for itself survives in some pair.
-/

set_option autoImplicit false

namespace UrlEncoded

open JsonText

/-! ## 1. Writing

Letters, digits and four marks stand for themselves. An escape is the two upper-case hex digits of
one byte of UTF-8. -/

def isUnreserved (c : Char) : Bool :=
  c.isAlphanum || c = '_' || c = '.' || c = '-' || c = '~'

def upperHexDigit (d : Nat) : Char := Char.ofNat (if d < 10 then 0x30 + d else 0x37 + d)

def escapeByte (b : Nat) : List Char := ['%', upperHexDigit (b / 16), upperHexDigit (b % 16)]

def quoteChar (c : Char) : List Char :=
  if c = ' ' then ['+'] else if isUnreserved c then [c] else (utf8Char c).flatMap escapeByte

def quotePlus (cs : List Char) : List Char := cs.flatMap quoteChar

def writePair (pair : List Char × List Char) : List Char :=
  quotePlus pair.1 ++ '=' :: quotePlus pair.2

def urlencode (pairs : List (List Char × List Char)) : List Char :=
  ['&'].intercalate (pairs.map writePair)

/-! ## 2. Reading

The reader takes the digits of an escape in either case, and a `%` that begins none is a character
like any other. -/

/-- The bytes of a text with escapes. A `%` that begins no escape stands for itself. -/
def percentDecode : List Char → List Nat
  | [] => []
  | '%' :: a :: b :: cs =>
    match hexDigit? a, hexDigit? b with
    | some x, some y => (16 * x + y) :: percentDecode cs
    | _, _ => '%'.toNat :: percentDecode (a :: b :: cs)
  | c :: cs => utf8Char c ++ percentDecode cs

def plusToSpace (c : Char) : Char := if c = '+' then ' ' else c

def unquotePlus (cs : List Char) : List Char := Utf8.decode (percentDecode (cs.map plusToSpace))

def readPair (segment : List Char) : List Char × List Char :=
  (unquotePlus (segment.takeWhile (· ≠ '=')),
    unquotePlus ((segment.dropWhile (· ≠ '=')).drop 1))

def parse (cs : List Char) : List (List Char × List Char) :=
  ((cs.splitOn '&').filter (· ≠ [])).map readPair

/-! ## 3. What is written is read

Characters of ASCII are checked one by one; `of_isUnreserved` brings the check to all unreserved
characters, which are of ASCII. -/

section
variable {c : Char} {cs : List Char} {pairs : List (List Char × List Char)}

theorem upperHexDigit_spec : ∀ d < 16, hexDigit? (upperHexDigit d) = some d ∧
    upperHexDigit d ≠ '+' ∧ upperHexDigit d ≠ '=' ∧ upperHexDigit d ≠ '&' ∧
      upperHexDigit d ≠ '#' := by
  decide

theorem isAlphanum_lt (h : c.isAlphanum = true) : c.toNat < 128 := by
  have hle : ∀ n : UInt32, n.toNat < 128 → c.val ≤ n → c.toNat < 128 :=
    fun n hn h => Nat.lt_of_le_of_lt h hn
  rcases Bool.or_eq_true_iff.mp h with halpha | hdigit
  · rcases Bool.or_eq_true_iff.mp halpha with hupper | hlower
    · exact hle _ (by decide) (of_decide_eq_true hupper).2
    · exact hle _ (by decide) (of_decide_eq_true (Bool.and_eq_true_iff.mp hlower).2)
  · exact hle _ (by decide) (of_decide_eq_true (Bool.and_eq_true_iff.mp hdigit).2)

theorem isUnreserved_lt (h : isUnreserved c = true) : c.toNat < 128 := by
  simp only [isUnreserved, Bool.or_eq_true, decide_eq_true_eq] at h
  rcases h with (((h | rfl) | rfl) | rfl) | rfl
  · exact isAlphanum_lt h
  all_goals decide

/-- What holds of the unreserved characters of ASCII holds of all unreserved characters. -/
theorem of_isUnreserved {P : Char → Prop}
    (hP : ∀ n < 128, isUnreserved (Char.ofNat n) = true → P (Char.ofNat n))
    (h : isUnreserved c = true) : P c := by
  have hc := hP c.toNat (isUnreserved_lt h)
  rw [Char.ofNat_toNat] at hc
  exact hc h

theorem isUnreserved_not_mem (h : isUnreserved c = true) : c ∉ ['%', '+', '=', '&', '#'] := by
  intro hmem
  have hall : (['%', '+', '=', '&', '#'].all fun c => !isUnreserved c) = true := by decide
  have hnot := List.all_eq_true.mp hall c hmem
  rw [h] at hnot
  exact absurd hnot (by decide)

theorem utf8Char_lt : ∀ b ∈ utf8Char c, b < 256 := by
  intro b hb
  obtain ⟨x, -, rfl⟩ := List.mem_map.mp hb
  exact x.toNat_lt

/-- No separator is in a quoted text. -/
theorem mem_quoteChar {x : Char} (hx : x ∈ quoteChar c) : x ≠ '=' ∧ x ≠ '&' ∧ x ≠ '#' := by
  unfold quoteChar at hx
  split at hx
  · rw [List.mem_singleton.mp hx]
    decide
  · split at hx
    case isTrue hunreserved =>
      have hnot := isUnreserved_not_mem hunreserved
      rw [List.mem_singleton.mp hx]
      refine ⟨?_, ?_, ?_⟩
      all_goals
        rintro rfl
        exact hnot (by decide)
    case isFalse =>
      obtain ⟨b, hb, hx⟩ := List.mem_flatMap.mp hx
      have hlt := utf8Char_lt b hb
      have hhigh := upperHexDigit_spec (b / 16) (by omega)
      have hlow := upperHexDigit_spec (b % 16) (by omega)
      rcases List.mem_cons.mp hx with rfl | hx
      · decide
      rcases List.mem_cons.mp hx with rfl | hx
      · exact hhigh.2.2
      · rw [List.mem_singleton.mp hx]
        exact hlow.2.2

theorem mem_quotePlus {x : Char} (hx : x ∈ quotePlus cs) : x ≠ '=' ∧ x ≠ '&' ∧ x ≠ '#' := by
  obtain ⟨c, -, hx⟩ := List.mem_flatMap.mp hx
  exact mem_quoteChar hx

theorem percentDecode_cons (h : c ≠ '%') :
    percentDecode (c :: cs) = utf8Char c ++ percentDecode cs := by
  cases cs with
  | nil => simp [percentDecode]
  | cons a cs =>
    cases cs with
    | nil => simp [percentDecode]
    | cons b cs => simp [percentDecode, h]

theorem percentDecode_escapeByte {b : Nat} (hb : b < 256) :
    percentDecode ((escapeByte b).map plusToSpace ++ cs) = b :: percentDecode cs := by
  obtain ⟨hhigh, hplus, -⟩ := upperHexDigit_spec (b / 16) (by omega)
  obtain ⟨hlow, hplus', -⟩ := upperHexDigit_spec (b % 16) (by omega)
  have hmap : (escapeByte b).map plusToSpace = escapeByte b := by
    simp [escapeByte, plusToSpace, hplus, hplus']
  have hvalue : 16 * (b / 16) + b % 16 = b := Nat.div_add_mod b 16
  rw [hmap]
  show percentDecode ('%' :: upperHexDigit (b / 16) :: upperHexDigit (b % 16) :: cs) = _
  simp only [percentDecode, hhigh, hlow, hvalue]

theorem percentDecode_escapeBytes {bs : List Nat} (hbs : ∀ b ∈ bs, b < 256) :
    percentDecode ((bs.flatMap escapeByte).map plusToSpace ++ cs) = bs ++ percentDecode cs := by
  induction bs with
  | nil => rfl
  | cons b bs ih =>
    rw [List.flatMap_cons, List.map_append, List.append_assoc,
      percentDecode_escapeByte (hbs b List.mem_cons_self),
      ih fun b' hb' => hbs b' (List.mem_cons_of_mem _ hb')]
    rfl

theorem percentDecode_quoteChar :
    percentDecode ((quoteChar c).map plusToSpace ++ cs) = utf8Char c ++ percentDecode cs := by
  unfold quoteChar
  split
  case isTrue hblank =>
    rw [hblank]
    exact percentDecode_cons (by decide)
  case isFalse =>
    split
    case isTrue hunreserved =>
      have hnot := isUnreserved_not_mem hunreserved
      have hplus : plusToSpace c = c := if_neg fun h => hnot (by rw [h]; decide)
      rw [List.map_singleton, hplus]
      exact percentDecode_cons fun h => hnot (by rw [h]; decide)
    case isFalse => exact percentDecode_escapeBytes utf8Char_lt

theorem percentDecode_quotePlus (text : List Char) :
    percentDecode ((quotePlus text).map plusToSpace) = utf8 text := by
  induction text with
  | nil => rfl
  | cons c text ih =>
    unfold quotePlus at *
    rw [List.flatMap_cons, List.map_append, percentDecode_quoteChar, ih]
    rfl

theorem unquotePlus_quotePlus (text : List Char) : unquotePlus (quotePlus text) = text := by
  unfold unquotePlus
  rw [percentDecode_quotePlus, Utf8.decode_utf8]

/-- A text without escapes is read as it stands. -/
theorem unquotePlus_of_plain (h : ∀ c ∈ cs, c ≠ '%' ∧ c ≠ '+') : unquotePlus cs = cs := by
  have hmap : cs.map plusToSpace = cs :=
    (List.map_congr_left fun c hc => if_neg (h c hc).2).trans (List.map_id cs)
  have hbytes : percentDecode cs = utf8 cs := by
    clear hmap
    induction cs with
    | nil => rfl
    | cons c cs ih =>
      rw [percentDecode_cons (h c List.mem_cons_self).1,
        ih fun c' hc' => h c' (List.mem_cons_of_mem _ hc')]
      rfl
  unfold unquotePlus
  rw [hmap, hbytes, Utf8.decode_utf8]

/-- Cut at the first `=`. -/
theorem readPair_append {name value : List Char} (h : '=' ∉ name) :
    readPair (name ++ '=' :: value) = (unquotePlus name, unquotePlus value) := by
  have hname : ∀ c ∈ name, decide (c ≠ '=') = true := fun c hc =>
    decide_eq_true fun heq => h (heq ▸ hc)
  unfold readPair
  rw [List.takeWhile_append_of_pos hname, List.dropWhile_append_of_pos hname,
    List.takeWhile_cons_of_neg (by decide), List.dropWhile_cons_of_neg (by decide),
    List.append_nil]
  rfl

theorem readPair_writePair (pair : List Char × List Char) : readPair (writePair pair) = pair := by
  unfold writePair
  rw [readPair_append fun h => (mem_quotePlus h).1 rfl, unquotePlus_quotePlus,
    unquotePlus_quotePlus]

theorem writePair_ne_nil (pair : List Char × List Char) : writePair pair ≠ [] := by
  simp [writePair]

theorem amp_not_mem_writePair (pair : List Char × List Char) : '&' ∉ writePair pair := by
  intro h
  rcases List.mem_append.mp h with h | h
  · exact (mem_quotePlus h).2.1 rfl
  · rcases List.mem_cons.mp h with h | h
    · exact absurd h (by decide)
    · exact (mem_quotePlus h).2.1 rfl

/-- The segments of a text that has been joined. -/
theorem parse_intercalate {segments : List (List Char)} (h : ∀ s ∈ segments, '&' ∉ s)
    (hne : ∀ s ∈ segments, s ≠ []) :
    parse (['&'].intercalate segments) = segments.map readPair := by
  cases segments with
  | nil => rfl
  | cons segment segments =>
    have hfilter : (segment :: segments).filter (· ≠ []) = segment :: segments :=
      List.filter_eq_self.mpr fun s hs => decide_eq_true (hne s hs)
    unfold parse
    rw [List.splitOn_intercalate '&' h (List.cons_ne_nil _ _), hfilter]

/-- **What is written is read**, names and values of any characters. -/
theorem parse_urlencode (pairs : List (List Char × List Char)) :
    parse (urlencode pairs) = pairs := by
  have hamp : ∀ s ∈ pairs.map writePair, '&' ∉ s := by
    intro s hs
    obtain ⟨pair, -, rfl⟩ := List.mem_map.mp hs
    exact amp_not_mem_writePair pair
  have hne : ∀ s ∈ pairs.map writePair, s ≠ [] := by
    intro s hs
    obtain ⟨pair, -, rfl⟩ := List.mem_map.mp hs
    exact writePair_ne_nil pair
  unfold urlencode
  rw [parse_intercalate hamp hne, List.map_map]
  exact List.map_id'' (fun pair => readPair_writePair pair) pairs

theorem mem_intercalate {sep : Char} {segments : List (List Char)}
    (h : c ∈ [sep].intercalate segments) : c = sep ∨ ∃ s ∈ segments, c ∈ s := by
  induction segments with
  | nil => exact absurd h List.not_mem_nil
  | cons segment segments ih =>
    cases segments with
    | nil =>
      rw [List.intercalate_singleton] at h
      exact .inr ⟨segment, List.mem_cons_self, h⟩
    | cons segment' segments =>
      rw [List.intercalate_cons_of_ne_nil (List.cons_ne_nil _ _)] at h
      rcases List.mem_append.mp h with h | h
      · rcases List.mem_append.mp h with h | h
        · exact .inr ⟨segment, List.mem_cons_self, h⟩
        · exact .inl (List.mem_singleton.mp h)
      · rcases ih h with h | ⟨s, hs, hc⟩
        · exact .inl h
        · exact .inr ⟨s, List.mem_cons_of_mem _ hs, hc⟩

/-- What is written begins no fragment. -/
theorem hash_not_mem_urlencode (pairs : List (List Char × List Char)) :
    '#' ∉ urlencode pairs := by
  intro h
  rcases mem_intercalate h with h | ⟨segment, hsegment, h⟩
  · exact absurd h (by decide)
  · obtain ⟨pair, -, rfl⟩ := List.mem_map.mp hsegment
    rcases List.mem_append.mp h with h | h
    · exact (mem_quotePlus h).2.2 rfl
    · rcases List.mem_cons.mp h with h | h
      · exact absurd h (by decide)
      · exact (mem_quotePlus h).2.2 rfl

theorem urlencode_cons_cons (pair pair' : List Char × List Char) :
    urlencode (pair :: pair' :: pairs) = writePair pair ++ '&' :: urlencode (pair' :: pairs) := by
  unfold urlencode
  rw [List.map_cons, List.map_cons, List.intercalate_cons_of_ne_nil (List.cons_ne_nil _ _),
    List.append_assoc]
  rfl

/-! ## 4. Texts that were not written here -/

/-- The pairs of two texts that were joined. -/
theorem parse_append_cons (cs cs' : List Char) :
    parse (cs ++ '&' :: cs') = parse cs ++ parse cs' := by
  unfold parse
  rw [List.splitOn_append_cons_self, List.filter_append, List.map_append]

/-- A character that no reading changes or takes away. -/
def Survives (c : Char) : Prop :=
  c.toNat < 0x80 ∧ hexDigit? c = none ∧ c ∉ ['%', '+', '=', '&']

instance : Decidable (Survives c) := inferInstanceAs (Decidable (_ ∧ _))

theorem mem_decodeFrom {bs : List Nat} {b : Nat} {pending : Option Utf8.Pending} (hb : b < 0x80)
    (hmem : b ∈ bs) (hlower : ∀ p ∈ pending, 0x80 ≤ p.lower) :
    Char.ofNat b ∈ Utf8.decodeFrom pending bs := by
  induction bs generalizing pending with
  | nil => exact absurd hmem List.not_mem_nil
  | cons a bs ih =>
    rw [Utf8.decodeFrom_cons]
    rcases List.mem_cons.mp hmem with rfl | hmem
    · apply List.mem_append_left
      have hlead : Utf8.lead b = ([Char.ofNat b], none) := if_pos hb
      cases pending with
      | none =>
        show Char.ofNat b ∈ (Utf8.lead b).1
        rw [hlead]
        exact List.mem_singleton_self _
      | some p =>
        have hout : ¬ (p.lower ≤ b ∧ b ≤ p.upper) := fun h =>
          absurd (hlower p rfl) (by omega)
        have hnext : Utf8.next (some p) b =
            (Utf8.replacement :: (Utf8.lead b).1, (Utf8.lead b).2) := if_neg hout
        rw [hnext, hlead]
        exact List.mem_cons_of_mem _ (List.mem_singleton_self _)
    · exact List.mem_append_right _ (ih hmem (Utf8.next_lower hlower))

theorem mem_percentDecode (hc : Survives c) (hmem : c ∈ cs) : c.toNat ∈ percentDecode cs := by
  have hchar : c.toNat ∈ utf8Char c := by
    rw [utf8Char_of_ascii hc.1]
    exact List.mem_singleton_self _
  induction cs using percentDecode.induct with
  | case1 => exact absurd hmem List.not_mem_nil
  | case2 a b cs x y hb ha ih =>
    -- no digit of an escape survives
    have hne : c ≠ '%' ∧ c ≠ a ∧ c ≠ b := by
      refine ⟨fun h => hc.2.2 (by rw [h]; decide), ?_, ?_⟩
      · intro h
        rw [h] at hc
        exact nomatch ha.symm.trans hc.2.1
      · intro h
        rw [h] at hc
        exact nomatch hb.symm.trans hc.2.1
    have hrest : c ∈ cs := by simpa [hne] using hmem
    simp only [percentDecode, ha, hb]
    exact List.mem_cons_of_mem _ (ih hrest)
  | case3 a b cs hnot ih =>
    have hne : c ≠ '%' := fun h => hc.2.2 (by rw [h]; decide)
    have hrest : c ∈ a :: b :: cs := List.mem_of_ne_of_mem hne hmem
    have heq : percentDecode ('%' :: a :: b :: cs) = '%'.toNat :: percentDecode (a :: b :: cs) := by
      cases ha : hexDigit? a with
      | none => simp only [percentDecode, ha]
      | some x =>
        cases hb : hexDigit? b with
        | none => simp only [percentDecode, ha, hb]
        | some y => exact (hnot x y ha hb).elim
    rw [heq]
    exact List.mem_cons_of_mem _ (ih hrest)
  | case4 c' cs hnot ih =>
    have heq : percentDecode (c' :: cs) = utf8Char c' ++ percentDecode cs := by
      rw [percentDecode]
      exact hnot
    rw [heq]
    rcases List.mem_cons.mp hmem with rfl | hmem
    · exact List.mem_append_left _ hchar
    · exact List.mem_append_right _ (ih hmem)

theorem mem_unquotePlus (hc : Survives c) (hmem : c ∈ cs) : c ∈ unquotePlus cs := by
  have hplus : plusToSpace c = c := if_neg fun h => hc.2.2 (by rw [h]; decide)
  have hmap : c ∈ cs.map plusToSpace := List.mem_map.mpr ⟨c, hmem, hplus⟩
  have hdecoded : Char.ofNat c.toNat ∈ Utf8.decodeFrom none (percentDecode (cs.map plusToSpace)) :=
    mem_decodeFrom hc.1 (mem_percentDecode hc hmap) nofun
  rwa [Char.ofNat_toNat] at hdecoded

/-- It is in the name or in the value of some pair. -/
theorem exists_mem_parse (hc : Survives c) (hmem : c ∈ cs) :
    ∃ pair ∈ parse cs, c ∈ pair.1 ∨ c ∈ pair.2 := by
  have hamp : c ≠ '&' := fun h => hc.2.2 (by rw [h]; decide)
  have heq : c ≠ '=' := fun h => hc.2.2 (by rw [h]; decide)
  -- `c` is no separator, so it lies in a segment, in the name or in the value.
  have hflat : c ∈ (cs.splitOn '&').flatten := by
    rw [Segments.flatten_splitOn]
    exact List.mem_filter.mpr ⟨hmem, by simpa using hamp⟩
  obtain ⟨segment, hsegment, hc'⟩ := List.mem_flatten.mp hflat
  refine ⟨readPair segment, List.mem_map.mpr ⟨segment, List.mem_filter.mpr ⟨hsegment, ?_⟩, rfl⟩, ?_⟩
  · simpa using List.ne_nil_of_mem hc'
  · have hsplit : c ∈ segment.takeWhile (· ≠ '=') ++ segment.dropWhile (· ≠ '=') := by
      rwa [List.takeWhile_append_dropWhile]
    rcases List.mem_append.mp hsplit with hname | hvalue
    · exact .inl (mem_unquotePlus hc hname)
    · apply Or.inr
      apply mem_unquotePlus hc
      cases hdrop : segment.dropWhile (· ≠ '=') with
      | nil =>
        rw [hdrop] at hvalue
        exact absurd hvalue List.not_mem_nil
      | cons a rest =>
        have hhead : decide (a ≠ '=') = false := by
          have h := List.head?_dropWhile_not (fun c => decide (c ≠ '=')) segment
          rwa [hdrop] at h
        rw [hdrop] at hvalue
        rcases List.mem_cons.mp hvalue with hca | hvalue
        · rw [← hca, decide_eq_true heq] at hhead
          exact nomatch hhead
        · exact hvalue

end

end UrlEncoded
