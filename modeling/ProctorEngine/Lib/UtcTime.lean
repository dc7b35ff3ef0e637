import ProctorEngine.Lib.Digits

/-!
# Instants and their ISO-8601 text

A `UtcTime` is the calendar reading of an instant, to the millisecond, in the years 1 to 9999.
Its text is the one `Date.prototype.toISOString` writes, `YYYY-MM-DDTHH:mm:ss.sssZ`, and
**the text determines the instant**: reading it back is a left inverse of writing it.
-/

set_option autoImplicit false

/-- Leap years of the proleptic Gregorian calendar. -/
def isLeapYear (year : Nat) : Bool := year % 4 = 0 ∧ (year % 100 ≠ 0 ∨ year % 400 = 0)

def daysInMonth (year : Nat) : Nat → Nat
  | 2 => if isLeapYear year then 29 else 28
  | 4 | 6 | 9 | 11 => 30
  | _ => 31

theorem daysInMonth_le (year month : Nat) : daysInMonth year month ≤ 31 := by
  unfold daysInMonth
  split
  · split <;> decide
  all_goals decide

structure UtcTime where
  year : Nat
  month : Nat
  day : Nat
  hour : Nat
  minute : Nat
  second : Nat
  millisecond : Nat
  yearInRange : 1 ≤ year ∧ year ≤ 9999
  monthInRange : 1 ≤ month ∧ month ≤ 12
  dayInRange : 1 ≤ day ∧ day ≤ daysInMonth year month
  timeInRange : hour < 24 ∧ minute < 60 ∧ second < 60 ∧ millisecond < 1000
deriving DecidableEq, Repr

namespace UtcTime

/-- The time with these fields, if there is one. -/
def ofFields? (year month day hour minute second millisecond : Nat) : Option UtcTime :=
  if h : (1 ≤ year ∧ year ≤ 9999) ∧ (1 ≤ month ∧ month ≤ 12) ∧
      (1 ≤ day ∧ day ≤ daysInMonth year month) ∧
      (hour < 24 ∧ minute < 60 ∧ second < 60 ∧ millisecond < 1000) then
    some ⟨year, month, day, hour, minute, second, millisecond, h.1, h.2.1, h.2.2.1, h.2.2.2⟩
  else none

/-- Days from 1 January of year 1 to the first of a month. -/
def daysBefore (year month : Nat) : Nat :=
  (year - 1) * 365 + (year - 1) / 4 - (year - 1) / 100 + (year - 1) / 400 +
    ((List.range (month - 1)).map fun m => daysInMonth year (m + 1)).sum

/-- Microseconds since the epoch; 719162 days lead from the calendar's first day to it. -/
def micros (t : UtcTime) : Int :=
  (((((daysBefore t.year t.month + (t.day - 1) : Nat) : Int) - 719162) * 24 + t.hour) * 60 +
    t.minute) * 60000000 + t.second * 1000000 + t.millisecond * 1000

def toISOString (t : UtcTime) : String :=
  String.ofList <| Digits.field 4 t.year ++ '-' :: (Digits.field 2 t.month ++ '-' ::
    (Digits.field 2 t.day ++ 'T' :: (Digits.field 2 t.hour ++ ':' ::
      (Digits.field 2 t.minute ++ ':' :: (Digits.field 2 t.second ++ '.' ::
        (Digits.field 3 t.millisecond ++ ['Z']))))))

def ofISOString? (s : String) : Option UtcTime := do
  let (year, cs) ← Digits.readField? 4 '-' s.toList
  let (month, cs) ← Digits.readField? 2 '-' cs
  let (day, cs) ← Digits.readField? 2 'T' cs
  let (hour, cs) ← Digits.readField? 2 ':' cs
  let (minute, cs) ← Digits.readField? 2 ':' cs
  let (second, cs) ← Digits.readField? 2 '.' cs
  let (millisecond, cs) ← Digits.readField? 3 'Z' cs
  if cs.isEmpty then ofFields? year month day hour minute second millisecond else none

example : (ofFields? 2026 8 9 12 30 0 5).map toISOString = some "2026-08-09T12:30:00.005Z" := by
  decide +kernel

theorem ofFields?_self (t : UtcTime) :
    ofFields? t.year t.month t.day t.hour t.minute t.second t.millisecond = some t :=
  dif_pos ⟨t.yearInRange, t.monthInRange, t.dayInRange, t.timeInRange⟩

/-- **Round trip**: the text of a time reads back as that time. -/
theorem ofISOString?_toISOString (t : UtcTime) : ofISOString? t.toISOString = some t := by
  have hday := daysInMonth_le t.year t.month
  have hd := t.dayInRange
  have hm := t.monthInRange
  have ht := t.timeInRange
  have hy := t.yearInRange
  unfold ofISOString? toISOString
  rw [String.toList_ofList]
  -- seven fields of known width, each read off the front
  simp (disch := omega) only [Digits.readField?_field, Option.bind_eq_bind, Option.bind_some]
  exact ofFields?_self t

end UtcTime
