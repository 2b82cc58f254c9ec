import SqlCompose.Calendar.DateTime

/-!
# Texts of dates

A date is written year, month and day with hyphens, a date and time adds hours, minutes and seconds
with colons. Every part has two digits and the year four; a year outside `0` to `9999` has a sign
and at least four digits. A leap second is written as second 60.
-/

namespace SqlCompose

/-- A whole number with zeros in front up to a width. -/
def zeroPadded (width n : Nat) : List Char :=
  let digits := Nat.toDigits 10 n
  List.replicate (width - digits.length) '0' ++ digits

/-- Four digits, or a sign and at least four digits for a year that four digits do not hold. -/
def yearText (year : Int) : List Char :=
  if 0 ≤ year && year ≤ 9999 then zeroPadded 4 year.natAbs
  else (if year < 0 then '-' else '+') :: zeroPadded 4 year.natAbs

/-- Year, month and day. -/
def Date.chars (d : Date) : List Char :=
  yearText d.year ++ '-' :: zeroPadded 2 d.month ++ '-' :: zeroPadded 2 d.day

/-- Year, month and day. -/
def Date.text (d : Date) : String :=
  String.ofList d.chars

/-- The second as written, which counts a leap second as the sixtieth. -/
def DateTime.writtenSecond (t : DateTime) : Nat :=
  t.second + t.nano / 1000000000

/-- Year, month, day, hour, minute and second. -/
def DateTime.chars (t : DateTime) : List Char :=
  t.date.chars ++ ' ' :: zeroPadded 2 t.hour ++ ':' :: zeroPadded 2 t.minute
    ++ ':' :: zeroPadded 2 t.writtenSecond

/-- Year, month, day, hour, minute and second. -/
def DateTime.text (t : DateTime) : String :=
  String.ofList t.chars

example : (Date.ofYmd? 7 1 2).map Date.text = some "0007-01-02" := by decide
example : (Date.ofYmd? (-1) 1 2).map Date.text = some "-0001-01-02" := by decide
example : (Date.ofYmd? 10000 1 2).map Date.text = some "+10000-01-02" := by decide

end SqlCompose
