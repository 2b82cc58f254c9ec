import Mathlib.Tactic.SplitIfs
import SqlCompose.Proofs.Calendar.Conventions

/-!
# Dates written in a layout

A layout says how a time is written as well as how it is read (`Layout.write`). Its text shows some
parts of the time only: `Layout.cut` leaves out the others, so that a date alone is its midnight. The
parts that the text says (`Layout.fields`) name the time that is cut in this way
(`Layout.dateTime?_fields`), and cutting changes nothing about the text (`Layout.write_cut`).

A leap second is written as the second after the one that it belongs to. At the end of a minute this is
the second 60, and anywhere else an ordinary second: such a time is written as another one is that has
no leap second (`DateTime.normal`, `Layout.write_normal`).
-/

namespace SqlCompose

/-- The parts of a date and a time that a layout can write and read back. -/
structure Calendar.Fields.InRange (p : Calendar.Fields) : Prop where
  year : p.year.natAbs < 1000000
  month : 1 ≤ p.month ∧ p.month ≤ 12
  day : 1 ≤ p.day ∧ p.day ≤ 31
  hour : p.hour ≤ 23
  minute : p.minute ≤ 59
  second : p.second ≤ 60
  nano : p.nano < 1000000000

/-! ## Leap seconds -/

namespace DateTime

/-- The time without a leap second in the middle of a minute: this is the second after it. -/
def normal (t : DateTime) : DateTime :=
  if h : t.second < 59 ∧ 1000000000 ≤ t.nano then
    { t with
      second := t.second + 1
      nano := t.nano - 1000000000
      second_lt := by omega
      nano_lt := by have := t.nano_lt; omega }
  else t

/-- A leap second stands at the end of a minute only. -/
def IsNormal (t : DateTime) : Prop :=
  t.second < 59 → t.nano < 1000000000

/-- No leap second is left in the middle of a minute. -/
theorem isNormal_normal (t : DateTime) : t.normal.IsNormal := by
  unfold normal IsNormal
  have := t.nano_lt
  split
  · intro _
    simp only
    omega
  · intro hsecond
    omega

/-- Any other time stays as it is. -/
theorem IsNormal.normal_eq {t : DateTime} (h : t.IsNormal) : t.normal = t :=
  dif_neg fun hleap => absurd (h hleap.1) (by omega)

/-- The date stays the same. -/
theorem date_normal (t : DateTime) : t.normal.date = t.date := by
  unfold normal
  split <;> rfl

/-- All parts of a time, with the second as it is written. -/
def parts (t : DateTime) : Calendar.Fields :=
  ⟨t.date.year, t.date.month, t.date.day, t.hour, t.minute, t.writtenSecond, t.nano % 1000000000⟩

/-- The parts of a time can be written in a layout. -/
theorem inRange_parts (t : DateTime) : t.parts.InRange := by
  have := t.date.year_range
  have := t.second_lt
  have := t.nano_lt
  refine ⟨?_, t.date.month_range, ⟨t.date.day_range.1, t.date.day_le⟩, Nat.le_of_lt_succ t.hour_lt,
    Nat.le_of_lt_succ t.minute_lt, ?_, Nat.mod_lt _ (by decide)⟩
  · simp only [parts]
    omega
  · simp only [parts, writtenSecond]
    omega

/-- A time is the one with its own date, hour, minute, second and nanoseconds. -/
theorem ofTime?_self (t : DateTime) :
    ofTime? t.date t.hour t.minute t.second t.nano = some t :=
  dif_pos ⟨t.hour_lt, t.minute_lt, t.second_lt, t.nano_lt⟩

/-- The parts of a time name it, unless it has a leap second in the middle of a minute. -/
theorem IsNormal.dateTime?_parts {t : DateTime} (h : t.IsNormal) :
    t.parts.dateTime? = some t := by
  have hparts : t.parts.dateTime? =
      if t.writtenSecond = 60 then
        ofTime? t.date t.hour t.minute 59 (t.nano % 1000000000 + 1000000000)
      else ofTime? t.date t.hour t.minute t.writtenSecond (t.nano % 1000000000) := by
    rw [Calendar.Fields.dateTime?, parts, Date.ofYmd?_self]
    rfl
  have := t.second_lt
  have := t.nano_lt
  unfold IsNormal at h
  unfold writtenSecond at hparts
  rw [hparts]
  by_cases hleap : 1000000000 ≤ t.nano
  · have hsecond : t.second = 59 := by omega
    have hnano : t.nano % 1000000000 + 1000000000 = t.nano := by omega
    rw [if_pos (by omega), hnano, ← hsecond, ofTime?_self]
  · have hsecond : t.second + t.nano / 1000000000 = t.second := by omega
    have hnano : t.nano % 1000000000 = t.nano := by omega
    rw [if_neg (by omega), hsecond, hnano, ofTime?_self]

/-- A leap second in the middle of a minute has the parts of the second after it. -/
theorem parts_normal (t : DateTime) : t.normal.parts = t.parts := by
  unfold normal
  split
  · have := t.nano_lt
    simp only [parts, writtenSecond, Calendar.Fields.mk.injEq, true_and]
    omega
  · rfl

end DateTime

/-! ## Writing -/

namespace Calendar

/-- The first letter in upper case. -/
def capitalized : List Char → List Char
  | [] => []
  | c :: cs => c.toUpper :: cs

/-- The English name of a month. -/
def nameOfMonth (month : Nat) : List Char :=
  (monthNames[month - 1]?).elim [] fun (front, others) => capitalized (front ++ others).toList

/-- Nanoseconds as a fraction of a second: in groups of three digits, as many as it takes. -/
def fractionText (nano : Nat) : List Char :=
  if nano = 0 then []
  else if nano % 1000000 = 0 then '.' :: zeroPadded 3 (nano / 1000000)
  else if nano % 1000 = 0 then '.' :: zeroPadded 6 (nano / 1000)
  else '.' :: zeroPadded 9 nano

/-- One item of a layout as it is written, for a time with the given parts. -/
def Item.write (p : Fields) : Item → List Char
  | .literal c => [c]
  | .blank => [' ']
  | .year => yearText p.year
  | .month => zeroPadded 2 p.month
  | .day => zeroPadded 2 p.day
  | .hour => zeroPadded 2 p.hour
  | .minute => zeroPadded 2 p.minute
  | .second => zeroPadded 2 p.second
  | .fraction => fractionText p.nano
  | .monthName => nameOfMonth p.month
  | .shortMonth => (nameOfMonth p.month).take 3

namespace Layout

variable (l : Layout) (t : DateTime)

/-- A time written in a layout. -/
def write : List Char :=
  l.flatMap (Item.write t.parts)

/-- The time with nothing in it that the layout does not show. The leap second belongs to the
second. -/
def cut : DateTime :=
  { t with
    hour := if .hour ∈ l then t.hour else 0
    minute := if .minute ∈ l then t.minute else 0
    second := if .second ∈ l then t.second else 0
    nano := (if .second ∈ l then t.nano / 1000000000 * 1000000000 else 0)
      + (if .fraction ∈ l then t.nano % 1000000000 else 0)
    hour_lt := by have := t.hour_lt; split <;> omega
    minute_lt := by have := t.minute_lt; split <;> omega
    second_lt := by have := t.second_lt; split <;> omega
    nano_lt := by have := t.nano_lt; split <;> split <;> omega }

/-- What a text written in the layout says. -/
def fields : Fields where
  year := if .year ∈ l then t.date.year else 0
  month := if .month ∈ l ∨ .monthName ∈ l ∨ .shortMonth ∈ l then t.date.month else 1
  day := if .day ∈ l then t.date.day else 1
  hour := if .hour ∈ l then t.hour else 0
  minute := if .minute ∈ l then t.minute else 0
  second := if .second ∈ l then t.writtenSecond else 0
  nano := if .fraction ∈ l then t.nano % 1000000000 else 0

/-- The layout shows the year, the month and the day. -/
def ShowsDate : Prop :=
  .year ∈ l ∧ (.month ∈ l ∨ .monthName ∈ l ∨ .shortMonth ∈ l) ∧ .day ∈ l

instance : Decidable l.ShowsDate :=
  inferInstanceAs (Decidable (_ ∧ _))

/-- All layouts show a date. -/
theorem showsDate_of_mem_all : ∀ l ∈ all, ShowsDate l := by
  decide

/-- Cutting a time makes no leap second. -/
theorem isNormal_cut {t : DateTime} (ht : t.IsNormal) : (l.cut t).IsNormal := by
  have := t.nano_lt
  have hsecond : (l.cut t).second = if .second ∈ l then t.second else 0 := rfl
  have hnano : (l.cut t).nano = (if .second ∈ l then t.nano / 1000000000 * 1000000000 else 0)
    + (if .fraction ∈ l then t.nano % 1000000000 else 0) := rfl
  unfold DateTime.IsNormal at ht ⊢
  rw [hsecond, hnano]
  split_ifs <;> omega

/-- A leap second in the middle of a minute is written as the second after it. -/
theorem write_normal : l.write t.normal = l.write t := by
  rw [write, DateTime.parts_normal, write]

variable {l}

/-- The parts that a text says are all parts of the time as far as the layout shows it. -/
theorem parts_cut (hl : l.ShowsDate) (t : DateTime) : (l.cut t).parts = l.fields t := by
  obtain ⟨hyear, hmonth, hday⟩ := hl
  have := t.nano_lt
  simp only [fields, DateTime.parts, DateTime.writtenSecond, cut, hyear, hmonth, hday, if_true,
    Fields.mk.injEq, true_and]
  split_ifs <;> omega

/-- What a layout does not show is not written, and cutting it off changes nothing. -/
theorem write_cut (hl : l.ShowsDate) (t : DateTime) : l.write (l.cut t) = l.write t := by
  rw [write, parts_cut hl]
  refine List.flatMap_congr fun i hi => ?_
  cases i <;> simp only [Item.write, fields, DateTime.parts, hi, true_or, or_true, if_true]

/-- The parts that a text says name the time as far as the layout shows it. -/
theorem dateTime?_fields (hl : l.ShowsDate) {t : DateTime} (ht : t.IsNormal) :
    (l.fields t).dateTime? = some (l.cut t) := by
  rw [← parts_cut hl, (isNormal_cut l ht).dateTime?_parts]

end Layout

end Calendar

end SqlCompose
