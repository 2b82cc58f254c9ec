import SqlCompose.Text.Blank
import SqlCompose.Text.Split
import SqlCompose.Decimal.Integer
import SqlCompose.Calendar.DateTime

/-!
# Reading the parts of a date

A reader takes a part off the front of a text and gives the rest, or fails. Numbers are runs of
ASCII digits of a bounded length, names are compared without regard to letter case. The parts that
were read are collected and checked together at the end.
-/

namespace SqlCompose.Calendar

open Decimal (numberOf)

/-- The digits at the front of a text. -/
def leadingDigits (cs : List Char) : List Char :=
  cs.takeWhile Char.isDigit

/-- A number of at least `least` digits. -/
def scanNumber (least : Nat) (cs : List Char) : Option (Nat × List Char) :=
  let digits := leadingDigits cs
  if digits.length < least then none
  else some (numberOf digits, cs.drop digits.length)

/-- A number of at least `least` and at most `most` digits; further digits stay in the rest. -/
def scanNumberUpTo (least most : Nat) (cs : List Char) : Option (Nat × List Char) :=
  let digits := (leadingDigits cs).take most
  if digits.length < least then none
  else some (numberOf digits, cs.drop digits.length)

/-- A given character. -/
def scanChar (c : Char) : List Char → Option (List Char)
  | [] => none
  | x :: rest => if x = c then some rest else none

/-- At least one blank, and all that follow. -/
def scanBlanks (cs : List Char) : Option (List Char) :=
  let rest := Text.trimStart cs
  if rest.length = cs.length then none else some rest

/-- The digits behind a decimal point, as nanoseconds: nine count, further ones are passed over. -/
def scanFraction (cs : List Char) : Option (Nat × List Char) :=
  let digits := leadingDigits cs
  if digits.isEmpty then none
  else
    let counted := digits.take 9
    some (numberOf (counted ++ List.replicate (9 - counted.length) '0'), cs.drop digits.length)

/-- A point and the digits behind it; without a point there are no nanoseconds. -/
def scanOptionalFraction : List Char → Option (Nat × List Char)
  | '.' :: rest => scanFraction rest
  | cs => some (0, cs)

/-- English names of the months: the first three letters and the others. -/
def monthNames : List (String × String) := [
  ("jan", "uary"), ("feb", "ruary"), ("mar", "ch"), ("apr", "il"), ("may", ""), ("jun", "e"),
  ("jul", "y"), ("aug", "ust"), ("sep", "tember"), ("oct", "ober"), ("nov", "ember"),
  ("dec", "ember")]

/-- The first three letters of the days of the week, from Sunday. -/
def weekdayNames : List String :=
  ["sun", "mon", "tue", "wed", "thu", "fri", "sat"]

/-- The characters of a text in lower case, as far as they are ASCII letters. -/
def lower (cs : List Char) : List Char :=
  cs.map Char.toLower

/-- The place of the name that three letters at the front of a text spell. -/
def scanShortName (names : List String) (cs : List Char) : Option (Nat × List Char) :=
  let head := lower (cs.take 3)
  (names.findIdx? fun name => name.toList == head).map fun i => (i, cs.drop 3)

/-- A month by its first three letters. -/
def scanShortMonth (cs : List Char) : Option (Nat × List Char) :=
  (scanShortName (monthNames.map (·.1)) cs).map fun (i, rest) => (i + 1, rest)

/-- A month by its first three letters or by its whole name. -/
def scanMonth (cs : List Char) : Option (Nat × List Char) := do
  let (month, rest) ← scanShortMonth cs
  let others := ((monthNames[month - 1]?).elim "" (·.2)).toList
  if lower (rest.take others.length) == others then some (month, rest.drop others.length)
  else some (month, rest)

/-- The parts of a date and a time, before it is known whether there is such a time. -/
structure Fields where
  year : Int := 0
  month : Nat := 1
  day : Nat := 1
  hour : Nat := 0
  minute : Nat := 0
  second : Nat := 0
  nano : Nat := 0

/-- The time that the parts name. The second 60 is the leap second of the second 59. -/
def Fields.dateTime? (f : Fields) : Option DateTime := do
  let date ← Date.ofYmd? f.year f.month f.day
  if f.second = 60 then DateTime.ofTime? date f.hour f.minute 59 (f.nano + 1000000000)
  else DateTime.ofTime? date f.hour f.minute f.second f.nano

/-! ## Numbers -/

/-- A number is read off the digits at the front, if these are enough. -/
theorem scanNumberUpTo_eq_some_iff {least most n : Nat} {cs rest : List Char} :
    scanNumberUpTo least most cs = some (n, rest) ↔ ∃ digits, (leadingDigits cs).take most = digits ∧
      least ≤ digits.length ∧ numberOf digits = n ∧ cs.drop digits.length = rest := by
  have hscan : scanNumberUpTo least most cs =
      if ((leadingDigits cs).take most).length < least then none
      else some (numberOf ((leadingDigits cs).take most),
        cs.drop ((leadingDigits cs).take most).length) := rfl
  rw [hscan]
  constructor
  · intro h
    split at h
    · cases h
    · rename_i hleast
      obtain ⟨hn, hrest⟩ := Prod.mk.inj (Option.some.inj h)
      exact ⟨_, rfl, Nat.le_of_not_lt hleast, hn, hrest⟩
  · rintro ⟨digits, rfl, hleast, rfl, rfl⟩
    exact if_neg (Nat.not_lt.2 hleast)

/-- A text has no more digits at its front than characters. -/
theorem scanNumber_eq (least : Nat) (cs : List Char) :
    scanNumber least cs = scanNumberUpTo least cs.length cs := by
  have htake : (leadingDigits cs).take cs.length = leadingDigits cs :=
    List.take_of_length_le (List.takeWhile_prefix Char.isDigit).length_le
  rw [scanNumber, scanNumberUpTo, htake]

/-! ## Characters -/

/-- A character is read off a text that begins with it. -/
theorem scanChar_eq_some_iff {c : Char} {cs rest : List Char} :
    scanChar c cs = some rest ↔ cs = c :: rest := by
  cases cs with
  | nil => simp [scanChar]
  | cons x cs => simp [scanChar]

/-- Without a point there is no fraction. -/
theorem scanOptionalFraction_of_head? {cs : List Char} (h : cs.head? ≠ some '.') :
    scanOptionalFraction cs = some (0, cs) := by
  unfold scanOptionalFraction
  split
  · exact absurd rfl h
  · rfl

end SqlCompose.Calendar
