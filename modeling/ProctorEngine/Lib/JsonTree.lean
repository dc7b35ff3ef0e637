import ProctorEngine.Lib.JsonText

/-!
# JSON text of nested objects

The writer of `JsonText` writes flat objects in ASCII. This one writes objects inside objects and
escapes only what a string literal cannot hold; the reader is the same, **and reads back what was
written**. A string that was read as UTF-16 code units is a string of characters where no surrogate
stands alone.

The two writers escape differently and are read alike, because both spell characters: the relation
`Spells` of `JsonText` is what the reader's lemma is about, and each writer shows that it spells.

The reader of a value has a bound on the depth, and the reader of members one on their number. The
induction is over the tree, mutual with its members; the depth of a member is below that of its
object, and the text is at least as long as it has members.
-/

set_option autoImplicit false

namespace JsonText

/-! ## 1. Writing

Two mutual definitions, for a tree and for the members of an object. -/

inductive Tree where
  | scalar (x : Scalar)
  | obj (members : List (String × Tree))

/-- A character inside a string literal. -/
def writeRawChar (c : Char) : List Char :=
  if c = '"' then ['\\', '"']
  else if c = '\\' then ['\\', '\\']
  else if c = '\n' then ['\\', 'n']
  else if c = '\r' then ['\\', 'r']
  else if c = '\t' then ['\\', 't']
  else if c = '\x0c' then ['\\', 'f']
  else if c = '\x08' then ['\\', 'b']
  else if c < ' ' then escapeUnit c.toNat
  else [c]

def writeRawString (s : String) : List Char := '"' :: (s.toList.flatMap writeRawChar ++ ['"'])

mutual

def Tree.write : Tree → List Char
  | .scalar (.str s) => writeRawString s
  | .scalar (.int n) => writeInt n
  | .obj members => '{' :: (writeTrees members ++ ['}'])

def writeTrees : List (String × Tree) → List Char
  | [] => []
  | [(name, t)] => writeRawString name ++ ':' :: t.write
  | (name, t) :: member :: rest =>
    writeRawString name ++ ':' :: (t.write ++ ',' :: writeTrees (member :: rest))

end

/-! ## 2. What is read

The value that a tree is read as. A literal is read as UTF-16 code units, whichever way it was
spelled. -/

mutual

def Tree.read : Tree → Value
  | .scalar x => x.read
  | .obj members => .obj (readTrees members)

def readTrees : List (String × Tree) → List (Units × Value)
  | [] => []
  | (name, t) :: rest => (utf16 name, t.read) :: readTrees rest

end

mutual

def Tree.depth : Tree → Nat
  | .scalar _ => 0
  | .obj members => depthOf members + 1

/-- The depth of the deepest of some members. -/
def depthOf : List (String × Tree) → Nat
  | [] => 0
  | (_, t) :: rest => max t.depth (depthOf rest)

end

/-- Code units as characters, after a high surrogate or not; `none` where a surrogate has no
    partner. -/
def decodeUtf16 : Option Nat → Units → Option (List Char)
  | none, [] => some []
  | some _, [] => none
  | none, u :: us =>
    if 0xD800 ≤ u ∧ u < 0xDC00 then decodeUtf16 (some u) us
    else if 0xDC00 ≤ u ∧ u < 0xE000 then none
    else (decodeUtf16 none us).map (Char.ofNat u :: ·)
  | some u, v :: us =>
    if 0xDC00 ≤ v ∧ v < 0xE000 then
      (decodeUtf16 none us).map (Char.ofNat (0x10000 + (u - 0xD800) * 0x400 + (v - 0xDC00)) :: ·)
    else none

/-- The characters of a string value. -/
def Value.text? : Value → Option String
  | .str us => (decodeUtf16 none us).map String.ofList
  | .null | .bool _ | .num _ | .arr _ | .obj _ => none

/-! ## 3. Strings

Every character is spelled, so the lemma about spelled literals applies. -/

section
variable {cs : List Char} {read : Units}

/-- Only the control characters without a letter of their own are written by number here. -/
theorem writeRawChar_spells (c : Char) : Spells (fun _ => True) c (writeRawChar c) := by
  refine Spells.escaped ?_
  intro hquote hbackslash
  by_cases hcontrol : c < ' '
  · have hunit : c.toNat < 0x10000 := by
      have hlt : c.toNat < ' '.toNat := hcontrol
      exact Nat.lt_trans hlt (by decide)
    have hunits : utf16Char c = [c.toNat] := if_pos hunit
    have hnumber : escapeUnit c.toNat = (utf16Char c).flatMap escapeUnit := by
      rw [hunits, List.flatMap_singleton]
    rw [if_pos hcontrol, hnumber]
    exact .units
  · rw [if_neg hcontrol]
    exact .itself hquote hbackslash (Char.not_lt.mp hcontrol) trivial

theorem readString_writeRawString (s : String) :
    readString .plain [] ((writeRawString s).tail ++ cs) = some (utf16 s, cs) := by
  have htail : (writeRawString s).tail ++ cs = s.toList.flatMap writeRawChar ++ '"' :: cs := by
    simp [writeRawString]
  rw [htail, readString_flatMap writeRawChar_spells, List.nil_append]
  rfl

/-! ## 4. Objects

Three things are carried: no value is deeper than its text is long, no text has more members than
characters, and what follows a value does not belong to it. -/

theorem skip_write (t : Tree) : skip (t.write ++ cs) = t.write ++ cs := by
  match t with
  | .scalar (.str s) =>
    rw [Tree.write]
    exact skip_of_not_isBlank rfl
  | .scalar (.int n) =>
    rw [Tree.write]
    exact skip_writeScalar (.int n)
  | .obj members =>
    rw [Tree.write]
    exact skip_of_not_isBlank rfl

/-- Members begin with the quotation mark of a name. -/
theorem writeTrees_cons (member : String × Tree) (rest : List (String × Tree)) :
    ∃ tail, writeTrees (member :: rest) = '"' :: tail := by
  obtain ⟨name, t⟩ := member
  cases rest with
  | nil => exact ⟨_, by rw [writeTrees]; rfl⟩
  | cons member rest => exact ⟨_, by rw [writeTrees]; rfl⟩

/-- A member whose value is read, and what comes after it. -/
theorem readMembers_member {value : List Char → Option (Value × List Char)} {n : Nat}
    {name : String} {t : Tree} (hvalue : value (t.write ++ cs) = some (t.read, cs)) :
    readMembers value (n + 1) (writeRawString name ++ ':' :: (t.write ++ cs)) =
      (match expect ',' (skip cs) with
      | some cs => do
        let (members, cs) ← readMembers value n (skip cs)
        some ((utf16 name, t.read) :: members, cs)
      | none => do
        let cs ← expect '}' (skip cs)
        some ([(utf16 name, t.read)], cs)) := by
  have htext : writeRawString name ++ ':' :: (t.write ++ cs) =
      '"' :: ((writeRawString name).tail ++ ':' :: (t.write ++ cs)) := by
    simp [writeRawString]
  rw [htext, readMembers, expect_self]
  dsimp only [Option.bind_eq_bind, Option.bind_some]
  rw [readString_writeRawString]
  dsimp only [Option.bind_some]
  rw [skip_of_not_isBlank rfl, expect_self]
  dsimp only [Option.bind_some]
  rw [skip_write, hvalue]
  rfl

theorem length_le_length_writeTrees (members : List (String × Tree)) :
    members.length ≤ (writeTrees members).length := by
  match members with
  | [] => exact Nat.zero_le _
  | [(name, t)] => simp [writeTrees, writeRawString]
  | (name, t) :: member :: rest =>
    have h := length_le_length_writeTrees (member :: rest)
    rw [writeTrees]
    simp only [List.length_append, List.length_cons] at h ⊢
    omega

mutual

/-- **A value is read back, whatever comes after it that is no part of a number.** -/
theorem readValue_write (t : Tree) {depth : Nat} {cs : List Char} (hdepth : t.depth < depth)
    (hcs : cs.head?.all fun c => !isNumeric c) :
    readValue depth (t.write ++ cs) = some (t.read, cs) := by
  obtain ⟨depth, rfl⟩ : ∃ d, depth = d + 1 := ⟨depth - 1, by omega⟩
  match t with
  | .scalar (.str s) =>
    rw [Tree.write, Tree.read]
    show readValue (depth + 1) ('"' :: ((writeRawString s).tail ++ cs)) = _
    rw [readValue, expect_self]
    dsimp only
    rw [readString_writeRawString]
    rfl
  -- A number ends where the text after it does not go on with one; only here is `hcs` needed.
  | .scalar (.int n) =>
    rw [Tree.write, Tree.read]
    exact readValue_writeScalar depth (.int n) hcs
  | .obj [] =>
    rw [Tree.write, Tree.read, writeTrees, readTrees]
    rfl
  -- The fuel of the members is the length of the text, which is at least their number.
  | .obj (member :: rest) =>
    have hmembers := readMembers_writeTrees (member :: rest) depth
      (writeTrees (member :: rest) ++ '}' :: cs).length cs
      (by rw [Tree.depth] at hdepth; omega) (List.cons_ne_nil member rest)
      (by
        have hlength := length_le_length_writeTrees (member :: rest)
        rw [List.length_append]
        omega)
    obtain ⟨tail, htail⟩ := writeTrees_cons member rest
    have hskip : skip (writeTrees (member :: rest) ++ '}' :: cs) =
        writeTrees (member :: rest) ++ '}' :: cs := by
      rw [htail]
      exact skip_of_not_isBlank rfl
    have htext : (Tree.obj (member :: rest)).write ++ cs =
        '{' :: (writeTrees (member :: rest) ++ '}' :: cs) := by
      rw [Tree.write]
      simp
    rw [htext, readValue, expect_of_ne (by decide), expect_self]
    dsimp only
    rw [hskip, hmembers, htail, List.cons_append, expect_of_ne (by decide), Tree.read]
    rfl

theorem readMembers_writeTrees (members : List (String × Tree)) (depth n : Nat) (cs : List Char)
    (hdepth : depthOf members < depth) (hne : members ≠ []) (hn : members.length ≤ n) :
    readMembers (readValue depth) n (writeTrees members ++ '}' :: cs) =
      some (readTrees members, cs) := by
  match members with
  | [] => exact absurd rfl hne
  -- The last member stands before the brace, every other before a comma.
  | [(name, t)] =>
    obtain ⟨n, rfl⟩ : ∃ m, n = m + 1 := ⟨n - 1, by simp at hn; omega⟩
    have ht : t.depth < depth := by simp only [depthOf] at hdepth; omega
    have htext : writeTrees [(name, t)] ++ '}' :: cs =
        writeRawString name ++ ':' :: (t.write ++ '}' :: cs) := by
      rw [writeTrees]
      simp
    rw [htext, readMembers_member (readValue_write t ht rfl), skip_of_not_isBlank rfl,
      expect_of_ne (by decide), expect_self, readTrees, readTrees]
    rfl
  | (name, t) :: member :: rest =>
    obtain ⟨n, rfl⟩ : ∃ m, n = m + 1 := ⟨n - 1, by simp at hn; omega⟩
    have ht : t.depth < depth := by simp only [depthOf] at hdepth ⊢; omega
    have hrest := readMembers_writeTrees (member :: rest) depth n cs
      (by simp only [depthOf] at hdepth ⊢; omega) (List.cons_ne_nil member rest)
      (Nat.le_of_succ_le_succ hn)
    obtain ⟨tail, htail⟩ := writeTrees_cons member rest
    have htext : writeTrees ((name, t) :: member :: rest) ++ '}' :: cs =
        writeRawString name ++ ':' ::
          (t.write ++ ',' :: (writeTrees (member :: rest) ++ '}' :: cs)) := by
      rw [writeTrees]
      simp
    have hskip : skip (writeTrees (member :: rest) ++ '}' :: cs) =
        writeTrees (member :: rest) ++ '}' :: cs := by
      rw [htail]
      exact skip_of_not_isBlank rfl
    rw [htext, readMembers_member (readValue_write t ht rfl), skip_of_not_isBlank rfl,
      expect_self]
    dsimp only
    rw [hskip, hrest, readTrees]
    rfl

end

mutual

/-- A value is not nested deeper than it is long. -/
theorem depth_le_length_write (t : Tree) : t.depth ≤ t.write.length := by
  match t with
  | .scalar (.str s) => exact Nat.zero_le _
  | .scalar (.int n) => exact Nat.zero_le _
  | .obj members =>
    have h := depthOf_le_length_writeTrees members
    rw [Tree.depth, Tree.write, List.length_cons, List.length_append]
    omega

theorem depthOf_le_length_writeTrees (members : List (String × Tree)) :
    depthOf members ≤ (writeTrees members).length := by
  match members with
  | [] => exact Nat.zero_le _
  | [(name, t)] =>
    have h := depth_le_length_write t
    rw [depthOf, depthOf, writeTrees, List.length_append, List.length_cons]
    omega
  | (name, t) :: member :: rest =>
    have h := depth_le_length_write t
    have hrest := depthOf_le_length_writeTrees (member :: rest)
    rw [depthOf, writeTrees]
    simp only [List.length_append, List.length_cons]
    omega

end

/-- **What is written is what is read**, at any depth. -/
theorem parse_write (t : Tree) : parse t.write = some t.read := by
  have hskip : skip (t.write ++ []) = t.write ++ [] := skip_write t
  have hread : readValue (t.write.length + 1) (t.write ++ []) = some (t.read, []) :=
    readValue_write t (Nat.lt_succ_of_le (depth_le_length_write t)) rfl
  rw [List.append_nil] at hskip hread
  unfold parse
  rw [hskip, hread]
  rfl

/-! ## 5. Code units as characters

Back from code units to characters, for a reader that wants text. -/

/-- A pair of surrogates, or the number of a character that is none. -/
theorem utf16Char_cases (c : Char) :
    (utf16Char c = [c.toNat] ∧ (c.toNat < 0xD800 ∨ 0xE000 ≤ c.toNat)) ∨
      ∃ u v, utf16Char c = [u, v] ∧ (0xD800 ≤ u ∧ u < 0xDC00) ∧ (0xDC00 ≤ v ∧ v < 0xE000) ∧
        0x10000 + (u - 0xD800) * 0x400 + (v - 0xDC00) = c.toNat := by
  have hvalid : c.toNat < 0xD800 ∨ 0xDFFF < c.toNat ∧ c.toNat < 0x110000 := c.valid
  unfold utf16Char
  by_cases h : c.toNat < 0x10000
  · rw [if_pos h]
    exact .inl ⟨rfl, by omega⟩
  · rw [if_neg h]
    exact .inr ⟨_, _, rfl, by omega, by omega, by omega⟩

theorem decodeUtf16_append (c : Char) (us : Units) :
    decodeUtf16 none (utf16Char c ++ us) = (decodeUtf16 none us).map (c :: ·) := by
  rcases utf16Char_cases c with ⟨hunits, hplain⟩ | ⟨u, v, hunits, hu, hv, hvalue⟩
  · rw [hunits, List.singleton_append, decodeUtf16, if_neg (by omega), if_neg (by omega),
      Char.ofNat_toNat]
  · rw [hunits, List.cons_append, List.singleton_append, decodeUtf16, if_pos hu, decodeUtf16,
      if_pos hv, hvalue, Char.ofNat_toNat]

/-- **A string survives the code units.** -/
theorem text?_str (s : String) : (Value.str (utf16 s)).text? = some s := by
  have hchars : ∀ chars : List Char,
      decodeUtf16 none (chars.flatMap utf16Char) = some chars := by
    intro chars
    induction chars with
    | nil => rfl
    | cons c chars ih => rw [List.flatMap_cons, decodeUtf16_append, ih, Option.map_some]
  show (decodeUtf16 none (s.toList.flatMap utf16Char)).map String.ofList = some s
  rw [hchars, Option.map_some, String.ofList_toList]

end

end JsonText
