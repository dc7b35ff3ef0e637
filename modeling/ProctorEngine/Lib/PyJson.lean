import ProctorEngine.Lib.Json
import ProctorEngine.Lib.JsonText

/-!
# What Python's `json` reads

Python's reader takes more than JSON has values for:

- `NaN`, `Infinity` and `-Infinity` are words of its own, and a literal too large for a float
  (`1e400`) is an infinity;
- a `\u` escape of half a surrogate pair gives a string with that half in it, a **lone
  surrogate**, in a member's name as well as in a value.

`PyJson` is the whole of it, over strings of code points (`PyStr`). `Json.toPy` embeds the values
JSON does have and `PyJson.toJson?` finds them again; a member is looked up the same on both sides
(`PyJson.get?_toPyFields`), so what is proved of a reader of `PyJson` is about a reader of `Json`
too.

A string with a lone surrogate lives in memory only: it has no UTF-8, so writing it anywhere
raises. `PyStr.Fits` says that a cut of a string can be written in so many bytes, and how that
goes with text of ASCII around it.
-/

set_option autoImplicit false

/-! ## 1. Strings -/

/-- A code point, a surrogate or not. -/
abbrev CodePoint := Fin 0x110000

/-- A Python string. -/
abbrev PyStr := List CodePoint

def CodePoint.ofChar (c : Char) : CodePoint :=
  ⟨c.toNat, by
    rcases c.valid with h | ⟨-, h⟩
    · exact h.trans (by decide)
    · exact h⟩

/-- The character of a code point; a surrogate is none. -/
def CodePoint.toChar? (n : CodePoint) : Option Char :=
  if n.val.isValidChar then some (Char.ofNat n.val) else none

namespace PyStr

def ofString (s : String) : PyStr := s.toList.map CodePoint.ofChar

/-- The characters of a string without lone surrogates. -/
def toChars? : PyStr → Option (List Char)
  | [] => some []
  | n :: s => do
    let c ← n.toChar?
    let cs ← toChars? s
    return c :: cs

def toString? (s : PyStr) : Option String := s.toChars?.map String.ofList

end PyStr

theorem CodePoint.toChar?_ofChar (c : Char) : (CodePoint.ofChar c).toChar? = some c := by
  have hvalid : c.toNat.isValidChar := c.valid
  unfold toChar?
  rw [show (CodePoint.ofChar c).val = c.toNat from rfl, if_pos hvalid, Char.ofNat_toNat]

namespace PyStr
variable {s t : PyStr} {cs ds : List Char}

@[simp] theorem toChars?_map (cs : List Char) :
    toChars? (cs.map CodePoint.ofChar) = some cs := by
  induction cs with
  | nil => rfl
  | cons c cs ih => simp [toChars?, CodePoint.toChar?_ofChar, ih]

@[simp] theorem toString?_ofString (s : String) : (ofString s).toString? = some s := by
  simp [toString?, ofString]

theorem ofString_injective : Function.Injective ofString := by
  intro s t h
  have hread := congrArg toString? h
  simpa using hread

/-- A concatenation has characters where both its parts do. -/
theorem toChars?_append :
    toChars? (s ++ t) = (do return (← toChars? s) ++ (← toChars? t)) := by
  induction s with
  | nil => cases h : toChars? t <;> simp [toChars?, h]
  | cons n s ih =>
    rw [List.cons_append, toChars?, toChars?, ih]
    cases n.toChar? <;> cases toChars? s <;> cases toChars? t <;> rfl

/-- Reading keeps the number of characters. -/
theorem length_of_toChars? (h : toChars? s = some cs) : cs.length = s.length := by
  induction s generalizing cs with
  | nil =>
    cases h
    rfl
  | cons n s ih =>
    rw [toChars?] at h
    cases hn : n.toChar? with
    | none => simp [hn] at h
    | some c =>
      cases hs : toChars? s with
      | none => simp [hn, hs] at h
      | some ds =>
        simp only [hn, hs, Option.pure_def, Option.bind_eq_bind, Option.bind_some,
          Option.some.injEq] at h
        subst h
        simp [ih hs]

/-! ### Cuts that can be written -/

/-- The first `room` characters can be encoded, in at most `bytes` bytes. -/
def Fits (room bytes : Nat) (s : PyStr) : Prop :=
  ∃ cs, toChars? (s.take room) = some cs ∧ (JsonText.utf8 cs).length ≤ bytes

instance (room bytes : Nat) (s : PyStr) : Decidable (Fits room bytes s) :=
  match h : toChars? (s.take room) with
  | none => isFalse fun ⟨cs, hcs, _⟩ => by simp [h] at hcs
  | some cs => decidable_of_iff ((JsonText.utf8 cs).length ≤ bytes) (by simp [Fits, h])

theorem length_utf8_append : (JsonText.utf8 (cs ++ ds)).length =
    (JsonText.utf8 cs).length + (JsonText.utf8 ds).length := by
  simp [JsonText.utf8]

/-- ASCII takes a byte a character. -/
theorem length_utf8_of_isAscii (h : JsonText.IsAscii cs) :
    (JsonText.utf8 cs).length = cs.length := by
  rw [JsonText.utf8_of_isAscii h, List.length_map]

/-- ASCII in front leaves so much less room. -/
theorem fits_append_left {room bytes : Nat} (hascii : JsonText.IsAscii cs)
    (hroom : cs.length ≤ room) (hbytes : cs.length ≤ bytes) :
    Fits room bytes (cs.map CodePoint.ofChar ++ s) ↔
      Fits (room - cs.length) (bytes - cs.length) s := by
  have htake : (cs.map CodePoint.ofChar ++ s).take room =
      cs.map CodePoint.ofChar ++ s.take (room - cs.length) := by
    rw [List.take_append, List.length_map, List.take_of_length_le (by simpa using hroom)]
  have hsum : ∀ ds, (JsonText.utf8 (cs ++ ds)).length ≤ bytes ↔
      (JsonText.utf8 ds).length ≤ bytes - cs.length := by
    intro ds
    rw [length_utf8_append, length_utf8_of_isAscii hascii]
    omega
  unfold Fits
  rw [htake, toChars?_append, toChars?_map]
  constructor
  · rintro ⟨es, hes, hlen⟩
    cases hs : toChars? (s.take (room - cs.length)) with
    | none => simp [hs] at hes
    | some ds =>
      simp only [hs, Option.pure_def, Option.bind_eq_bind, Option.bind_some,
        Option.some.injEq] at hes
      subst hes
      exact ⟨ds, rfl, (hsum ds).mp hlen⟩
  · rintro ⟨ds, hds, hlen⟩
    exact ⟨cs ++ ds, by simp [hds], (hsum ds).mpr hlen⟩

/-- ASCII behind fills what is left of the room. -/
theorem fits_append_right {room bytes : Nat} (hascii : JsonText.IsAscii cs)
    (hroom : room ≤ s.length + cs.length) (hbytes : room ≤ bytes) :
    Fits room bytes (s ++ cs.map CodePoint.ofChar) ↔
      Fits room (min s.length room + (bytes - room)) s := by
  have htake : (s ++ cs.map CodePoint.ofChar).take room =
      s.take room ++ (cs.take (room - s.length)).map CodePoint.ofChar := by
    rw [List.take_append, List.map_take]
  -- What follows `s` is ASCII, so each character fills one place and one octet.
  have hfill : (JsonText.utf8 (cs.take (room - s.length))).length = room - s.length := by
    rw [length_utf8_of_isAscii fun c hc => hascii c (List.mem_of_mem_take hc), List.length_take]
    omega
  have hsum : ∀ ds, (JsonText.utf8 (ds ++ cs.take (room - s.length))).length ≤ bytes ↔
      (JsonText.utf8 ds).length ≤ min s.length room + (bytes - room) := by
    intro ds
    rw [length_utf8_append, hfill]
    omega
  unfold Fits
  rw [htake, toChars?_append, toChars?_map]
  constructor
  · rintro ⟨es, hes, hlen⟩
    cases hs : toChars? (s.take room) with
    | none => simp [hs] at hes
    | some ds =>
      simp only [hs, Option.pure_def, Option.bind_eq_bind, Option.bind_some,
        Option.some.injEq] at hes
      subst hes
      exact ⟨ds, rfl, (hsum ds).mp hlen⟩
  · rintro ⟨ds, hds, hlen⟩
    exact ⟨ds ++ cs.take (room - s.length), by simp [hds], (hsum ds).mpr hlen⟩

end PyStr

/-! ## 2. Values -/

inductive PyJson where
  | null
  | bool (b : Bool)
  | num (n : ℚ)
  | nan
  | infinity (negative : Bool)
  | str (s : PyStr)
  | arr (xs : List PyJson)
  | obj (fields : List (PyStr × PyJson))

/-- A dictionary `json.loads` returns. -/
abbrev PyDict := List (PyStr × PyJson)

mutual

def Json.toPy : Json → PyJson
  | .null => .null
  | .bool b => .bool b
  | .num n => .num n
  | .str s => .str (PyStr.ofString s)
  | .arr xs => .arr (Json.toPyList xs)
  | .obj fields => .obj (Json.toPyFields fields)

def Json.toPyList : List Json → List PyJson
  | [] => []
  | x :: xs => x.toPy :: Json.toPyList xs

def Json.toPyFields : List (String × Json) → PyDict
  | [] => []
  | (name, value) :: fields => (PyStr.ofString name, value.toPy) :: Json.toPyFields fields

end

namespace PyJson

mutual

/-- The value as one of JSON. -/
def toJson? : PyJson → Option Json
  | .null => some .null
  | .bool b => some (.bool b)
  | .num n => some (.num n)
  | .nan | .infinity _ => none
  | .str s => s.toString?.map .str
  | .arr xs => (toJsonList? xs).map .arr
  | .obj fields => (toJsonFields? fields).map .obj

def toJsonList? : List PyJson → Option (List Json)
  | [] => some []
  | x :: xs => do
    let y ← x.toJson?
    let ys ← toJsonList? xs
    return y :: ys

def toJsonFields? : PyDict → Option (List (String × Json))
  | [] => some []
  | (name, value) :: fields => do
    let name ← name.toString?
    let value ← value.toJson?
    let fields ← toJsonFields? fields
    return (name, value) :: fields

end

/-- The member of a name, the last one where a name is repeated. -/
def get? (fields : PyDict) (name : String) : Option PyJson :=
  (fields.reverse.find? fun f => f.1 = PyStr.ofString name).map (·.2)

mutual

/-- What was embedded is found again. -/
theorem toJson?_toPy : (v : Json) → v.toPy.toJson? = some v
  | .null | .bool _ | .num _ => rfl
  | .str s => by simp [Json.toPy, toJson?]
  | .arr xs => by simp [Json.toPy, toJson?, toJsonList?_toPyList xs]
  | .obj fields => by simp [Json.toPy, toJson?, toJsonFields?_toPyFields fields]

theorem toJsonList?_toPyList :
    (xs : List Json) → toJsonList? (Json.toPyList xs) = some xs
  | [] => rfl
  | x :: xs => by
    simp [Json.toPyList, toJsonList?, toJson?_toPy x, toJsonList?_toPyList xs]

theorem toJsonFields?_toPyFields :
    (fields : List (String × Json)) → toJsonFields? (Json.toPyFields fields) = some fields
  | [] => rfl
  | (name, value) :: fields => by
    simp [Json.toPyFields, toJsonFields?, toJson?_toPy value, toJsonFields?_toPyFields fields]

end

theorem toPyFields_eq_map (fields : List (String × Json)) :
    Json.toPyFields fields = fields.map fun f => (PyStr.ofString f.1, f.2.toPy) := by
  induction fields with
  | nil => rfl
  | cons f fields ih => rw [Json.toPyFields, ih, List.map_cons]

/-- **A member is looked up the same on both sides.** -/
theorem get?_toPyFields (fields : List (String × Json)) (name : String) :
    get? (Json.toPyFields fields) name = (Json.get? fields name).map Json.toPy := by
  have hname : ((fun f : PyStr × PyJson => decide (f.1 = PyStr.ofString name)) ∘
      fun f : String × Json => (PyStr.ofString f.1, f.2.toPy)) = fun f => decide (f.1 = name) := by
    funext f
    exact decide_eq_decide.mpr PyStr.ofString_injective.eq_iff
  unfold get? Json.get?
  rw [toPyFields_eq_map, ← List.map_reverse, List.find?_map, hname, Option.map_map,
    Option.map_map]
  rfl

end PyJson
