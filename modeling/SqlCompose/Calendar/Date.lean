/-!
# Calendar dates

Dates of the proleptic Gregorian calendar, from the year -262143 to the year 262142. A date carries
the proof that its month and day exist. Day numbers count from the first of January 1970.
-/

namespace SqlCompose

/-- Every fourth year, but of the full centuries only every fourth. -/
def isLeapYear (year : Int) : Bool :=
  year % 4 == 0 && (year % 100 != 0 || year % 400 == 0)

/-- The length of a month. -/
def daysInMonth (year : Int) (month : Nat) : Nat :=
  if month = 2 then (if isLeapYear year then 29 else 28)
  else if month = 4 ∨ month = 6 ∨ month = 9 ∨ month = 11 then 30
  else 31

/-- A day of the calendar. -/
structure Date where
  year : Int
  month : Nat
  day : Nat
  year_range : -262143 ≤ year ∧ year ≤ 262142
  month_range : 1 ≤ month ∧ month ≤ 12
  day_range : 1 ≤ day ∧ day ≤ daysInMonth year month
  deriving DecidableEq

namespace Date

/-- The date with the given year, month and day, if there is one. -/
def ofYmd? (year : Int) (month day : Nat) : Option Date :=
  if hy : -262143 ≤ year ∧ year ≤ 262142 then
    if hm : 1 ≤ month ∧ month ≤ 12 then
      if hd : 1 ≤ day ∧ day ≤ daysInMonth year month then
        some ⟨year, month, day, hy, hm, hd⟩
      else none
    else none
  else none

/-- Days since the first of January 1970. The year is taken to begin in March, so that the leap day
comes last. -/
def dayNumber (d : Date) : Int :=
  let year := if d.month ≤ 2 then d.year - 1 else d.year
  let era := year / 400
  let yearOfEra := year % 400
  let month : Int := if d.month ≤ 2 then d.month + 9 else d.month - 3
  let dayOfYear := (153 * month + 2) / 5 + d.day - 1
  era * 146097 + yearOfEra * 365 + yearOfEra / 4 - yearOfEra / 100 + dayOfYear - 719468

/-- The date with the given day number, if it is in range. -/
def ofDayNumber? (number : Int) : Option Date :=
  let days := number + 719468
  let era := days / 146097
  let dayOfEra := days % 146097
  let yearOfEra :=
    (dayOfEra - dayOfEra / 1460 + dayOfEra / 36524 - dayOfEra / 146096) / 365
  let dayOfYear := dayOfEra - (365 * yearOfEra + yearOfEra / 4 - yearOfEra / 100)
  let month := (5 * dayOfYear + 2) / 153
  let day := dayOfYear - (153 * month + 2) / 5 + 1
  let year := yearOfEra + era * 400
  if month < 10 then ofYmd? year (month + 3).toNat day.toNat
  else ofYmd? (year + 1) (month - 9).toNat day.toNat

/-- The day of the week, counted from Sunday as zero. -/
def weekday (d : Date) : Nat :=
  ((d.dayNumber + 4) % 7).toNat

/-- No month has more than 31 days. -/
theorem day_le (d : Date) : d.day ≤ 31 := by
  refine Nat.le_trans d.day_range.2 ?_
  unfold daysInMonth
  split
  · split <;> decide
  · split <;> decide

/-- The date of a year, a month and a day has these parts. -/
theorem ofYmd?_eq_some_iff {year : Int} {month day : Nat} {d : Date} :
    ofYmd? year month day = some d ↔ d.year = year ∧ d.month = month ∧ d.day = day := by
  obtain ⟨y, m, dd, hy, hm, hd⟩ := d
  unfold ofYmd?
  constructor
  · intro h
    split at h
    · split at h
      · split at h
        · simp_all
        · simp at h
      · simp at h
    · simp at h
  · rintro ⟨rfl, rfl, rfl⟩
    simp [hy, hm, hd]

/-- A date is the one with its own year, month and day. -/
theorem ofYmd?_self (d : Date) : ofYmd? d.year d.month d.day = some d :=
  ofYmd?_eq_some_iff.2 ⟨rfl, rfl, rfl⟩

example : (ofYmd? 1970 1 1).map dayNumber = some 0 := by decide
example : (ofYmd? 2000 2 29).map dayNumber = some 11016 := by decide
example : (ofYmd? 1970 1 1).map weekday = some 4 := by decide
example : ofDayNumber? 11016 = ofYmd? 2000 2 29 := by decide
example : ofDayNumber? (-719529) = ofYmd? (-1) 12 31 := by decide

end Date

end SqlCompose
