import SqlCompose.Calendar.Date

/-!
# Date and time without a zone

A time of day has whole seconds up to 59 and nanoseconds; a leap second is the second 59 with a
further full second of nanoseconds, which is why these reach to two thousand million.
-/

namespace SqlCompose

/-- A date and a time of day. -/
structure DateTime where
  date : Date
  hour : Nat
  minute : Nat
  second : Nat
  nano : Nat
  hour_lt : hour < 24
  minute_lt : minute < 60
  second_lt : second < 60
  nano_lt : nano < 2000000000
  deriving DecidableEq

namespace DateTime

/-- The given time on a date, if there is such a time. -/
def ofTime? (date : Date) (hour minute second nano : Nat) : Option DateTime :=
  if h : hour < 24 ∧ minute < 60 ∧ second < 60 ∧ nano < 2000000000 then
    some ⟨date, hour, minute, second, nano, h.1, h.2.1, h.2.2.1, h.2.2.2⟩
  else none

/-- The beginning of a day. -/
def midnight (date : Date) : DateTime :=
  ⟨date, 0, 0, 0, 0, by decide, by decide, by decide, by decide⟩

/-- Whole seconds since the beginning of 1970. -/
def secondNumber (t : DateTime) : Int :=
  t.date.dayNumber * 86400 + (t.hour * 3600 + t.minute * 60 + t.second : Nat)

/-- The time with the given number of seconds since the beginning of 1970, if it is in range. -/
def ofSecondNumber? (seconds : Int) (nano : Nat) : Option DateTime := do
  let date ← Date.ofDayNumber? (seconds / 86400)
  let inDay := (seconds % 86400).toNat
  ofTime? date (inDay / 3600) (inDay / 60 % 60) (inDay % 60) nano

/-- The time in the zone of no offset, when this is the local time `offset` seconds east of it. -/
def utc? (t : DateTime) (offset : Int) : Option DateTime :=
  ofSecondNumber? (t.secondNumber - offset) t.nano

example : (ofSecondNumber? 1469195649 0).map (·.hour) = some 13 := by decide

end DateTime

end SqlCompose
