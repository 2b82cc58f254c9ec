import SqlCompose.Calendar.Scan

/-!
# Layouts of dates

A layout is a list of items that a text has to show one after the other, to its very end. Blanks
before a number do not matter, and a blank of the layout stands for any number of them. The listed
layouts are tried in order.
-/

namespace SqlCompose.Calendar

/-- One item of a layout. -/
inductive Item where
  | literal (c : Char)
  /-- Any number of blanks. -/
  | blank
  /-- Up to four digits, or a sign and any number of digits. -/
  | year
  | month
  | day
  | hour
  | minute
  | second
  /-- A point and digits, or nothing. -/
  | fraction
  /-- A month by name or by the first three letters. -/
  | monthName
  /-- A month by the first three letters. -/
  | shortMonth
  deriving DecidableEq

/-- A layout: the items in order. -/
abbrev Layout := List Item

/-- One or two digits whose number lies between two bounds. -/
def scanTwoDigits (low high : Nat) (cs : List Char) : Option (Nat × List Char) := do
  let (n, rest) ← scanNumberUpTo 1 2 (Text.trimStart cs)
  if low ≤ n && n ≤ high then some (n, rest) else none

/-- A year: up to four digits, or a sign and any number of digits. -/
def scanYear (cs : List Char) : Option (Int × List Char) :=
  match Text.trimStart cs with
  | '-' :: rest => (scanNumber 1 rest).map fun (n, rest) => (-(n : Int), rest)
  | '+' :: rest => (scanNumber 1 rest).map fun (n, rest) => ((n : Int), rest)
  | rest => (scanNumberUpTo 1 4 rest).map fun (n, rest) => ((n : Int), rest)

/-- A year with a minus is a number of any length, taken negative. -/
theorem scanYear_of_minus {cs tail : List Char} (h : Text.trimStart cs = '-' :: tail) :
    scanYear cs = (scanNumber 1 tail).map fun (n, rest) => (-(n : Int), rest) := by
  rw [scanYear, h]
  rfl

/-- A year with a plus is a number of any length. -/
theorem scanYear_of_plus {cs tail : List Char} (h : Text.trimStart cs = '+' :: tail) :
    scanYear cs = (scanNumber 1 tail).map fun (n, rest) => ((n : Int), rest) := by
  rw [scanYear, h]
  rfl

/-- Without a sign a year has up to four digits. -/
theorem scanYear_of_head? {cs : List Char} (hplus : (Text.trimStart cs).head? ≠ some '+')
    (hminus : (Text.trimStart cs).head? ≠ some '-') : scanYear cs =
    (scanNumberUpTo 1 4 (Text.trimStart cs)).map fun (n, rest) => ((n : Int), rest) := by
  unfold scanYear
  split
  · rename_i heq
    exact absurd (congrArg List.head? heq) hminus
  · rename_i heq
    exact absurd (congrArg List.head? heq) hplus
  · rfl

/-- Reads one item and notes what it says. -/
def Item.scan (item : Item) (f : Fields) (cs : List Char) : Option (Fields × List Char) :=
  match item with
  | .literal c => (scanChar c cs).map fun rest => (f, rest)
  | .blank => some (f, Text.trimStart cs)
  | .year => (scanYear cs).map fun (n, rest) => ({ f with year := n }, rest)
  | .month => (scanTwoDigits 1 12 cs).map fun (n, rest) => ({ f with month := n }, rest)
  | .day => (scanTwoDigits 1 31 cs).map fun (n, rest) => ({ f with day := n }, rest)
  | .hour => (scanTwoDigits 0 23 cs).map fun (n, rest) => ({ f with hour := n }, rest)
  | .minute => (scanTwoDigits 0 59 cs).map fun (n, rest) => ({ f with minute := n }, rest)
  | .second => (scanTwoDigits 0 60 cs).map fun (n, rest) => ({ f with second := n }, rest)
  | .fraction => (scanOptionalFraction cs).map fun (n, rest) => ({ f with nano := n }, rest)
  | .monthName => (scanMonth cs).map fun (n, rest) => ({ f with month := n }, rest)
  | .shortMonth => (scanShortMonth cs).map fun (n, rest) => ({ f with month := n }, rest)

/-- The parts that a text shows in a layout, if nothing is left of it. -/
def Layout.scan (layout : Layout) (f : Fields) (cs : List Char) : Option Fields :=
  match layout with
  | [] => if cs.isEmpty then some f else none
  | item :: items => (item.scan f cs).bind fun (f, rest) => Layout.scan items f rest

/-- The time that a text shows in a layout. A layout without a time of day shows midnight. -/
def Layout.read? (layout : Layout) (cs : List Char) : Option DateTime :=
  (layout.scan {} cs).bind Fields.dateTime?

namespace Layout

/-- Year, month and day with `c` between them. -/
def yearFirst (c : Char) : Layout := [.year, .literal c, .month, .literal c, .day]

/-- Day, month and year with points between them. -/
def dayFirst : Layout := [.day, .literal '.', .month, .literal '.', .year]

/-- Month, day and year with slashes between them. -/
def monthFirst : Layout := [.month, .literal '/', .day, .literal '/', .year]

/-- Hour and minute. -/
def toMinute : Layout := [.hour, .literal ':', .minute]

/-- Hour, minute and second. -/
def toSecond : Layout := toMinute ++ [.literal ':', .second]

/-- Layouts with a time of day, in the order in which they are tried. -/
def withTime : List Layout := [
  yearFirst '-' ++ .blank :: toSecond,
  yearFirst '-' ++ .literal 'T' :: toSecond,
  yearFirst '-' ++ .blank :: toSecond ++ [.fraction],
  yearFirst '-' ++ .literal 'T' :: toSecond ++ [.fraction],
  yearFirst '-' ++ .blank :: toMinute,
  yearFirst '-' ++ .literal 'T' :: toMinute,
  yearFirst '/' ++ .blank :: toSecond,
  dayFirst ++ .blank :: toSecond,
  dayFirst ++ .blank :: toMinute,
  monthFirst ++ .blank :: toSecond]

/-- Layouts of a date alone, in the order in which they are tried. -/
def dateOnly : List Layout := [
  yearFirst '-',
  yearFirst '/',
  dayFirst,
  monthFirst,
  [.day, .blank, .monthName, .blank, .year],
  [.monthName, .blank, .day, .literal ',', .blank, .year],
  [.day, .blank, .shortMonth, .blank, .year],
  [.shortMonth, .blank, .day, .literal ',', .blank, .year]]

/-- All layouts, in the order in which they are tried. -/
def all : List Layout := withTime ++ dateOnly

end Layout

end SqlCompose.Calendar
