import SqlCompose.Calendar.Scan

/-!
# RFC 2822

Dates of mail headers: `Fri, 22 Jul 2016 13:54:09 +0200 (a comment)`. The day of the week, if it is
given, has to be the right one. Short years belong to this century or the last one. The zone is an
offset or one of the old names.
-/

namespace SqlCompose.Calendar.Rfc2822

/-- The day of the week and a comma, or nothing. A day of the week without a comma is an error. -/
def scanWeekday (cs : List Char) : Option (Option Nat × List Char) :=
  match scanShortName weekdayNames cs with
  | none => some (none, cs)
  | some (day, rest) => (scanChar ',' rest).map fun rest => (some day, rest)

/-- Years of two digits lie between 1950 and 2049, those of three digits count from 1900. -/
def scanYear (cs : List Char) : Option (Nat × List Char) := do
  let (year, rest) ← scanNumber 2 cs
  match (leadingDigits cs).length with
  | 2 => some (if year ≤ 49 then year + 2000 else year + 1900, rest)
  | 3 => some (year + 1900, rest)
  | _ => some (year, rest)

/-- A colon with blanks around it. -/
def scanColon (cs : List Char) : Option (List Char) :=
  (scanChar ':' (Text.trimStart cs)).map Text.trimStart

/-- A colon and two digits, or nothing. -/
def scanSecond (cs : List Char) : Option (Nat × List Char) :=
  match scanChar ':' (Text.trimStart cs) with
  | some rest => scanNumberUpTo 2 2 rest
  | none => some (0, cs)

/-- Hours east of the zones with a name. -/
def namedZone (name : List Char) : Option Int :=
  match String.ofList (lower name) with
  | "gmt" | "ut" | "z" => some 0
  | "edt" => some (-4)
  | "est" | "cdt" => some (-5)
  | "cst" | "mdt" => some (-6)
  | "mst" | "pdt" => some (-7)
  | "pst" => some (-8)
  | _ =>
    match name with
    | [c] => if c = 'j' || c = 'J' then none else some 0
    | _ => none

/-- The offset east in seconds: a name, or a sign and four digits. -/
def scanZone (cs : List Char) : Option (Int × List Char) :=
  let name := cs.takeWhile Char.isAlpha
  if !name.isEmpty then
    (namedZone name).map fun hours => (hours * 3600, cs.drop name.length)
  else do
    let (sign, rest) ←
      match cs with
      | '+' :: rest => some ((1 : Int), rest)
      | '-' :: rest => some (-1, rest)
      | _ => none
    let (hours, rest) ← scanNumberUpTo 2 2 rest
    let (minutes, rest) ← scanNumberUpTo 2 2 rest
    if hours ≤ 23 && minutes ≤ 59 then some (sign * (hours * 3600 + minutes * 60 : Nat), rest)
    else none

/-- The text behind a comment of which `depth` parentheses are open. A backslash takes the special
meaning from the character behind it. -/
def skipOpen : Nat → List Char → Option (List Char)
  | 0, cs => some cs
  | _ + 1, [] => none
  | depth + 1, '\\' :: _ :: rest => skipOpen (depth + 1) rest
  | depth + 2, ')' :: rest => skipOpen (depth + 1) rest
  | 1, ')' :: rest => some rest
  | depth + 1, '(' :: rest => skipOpen (depth + 2) rest
  | depth + 1, _ :: rest => skipOpen (depth + 1) rest

/-- Whether a text is made of comments and the blanks before them. -/
def areComments (fuel : Nat) (cs : List Char) : Bool :=
  match fuel, cs with
  | _, [] => true
  | 0, _ => false
  | fuel + 1, _ =>
    match Text.trimStart cs with
    | '(' :: rest =>
      match skipOpen 1 rest with
      | some rest => areComments fuel rest
      | none => false
    | _ => false

/-- The time, in the zone of no offset, that a mail date names. -/
def read? (cs : List Char) : Option DateTime := do
  let (weekday, rest) ← scanWeekday (Text.trimStart cs)
  let (day, rest) ← scanNumberUpTo 1 2 (Text.trimStart rest)
  let rest ← scanBlanks rest
  let (month, rest) ← scanShortMonth rest
  let rest ← scanBlanks rest
  let (year, rest) ← scanYear rest
  let rest ← scanBlanks rest
  let (hour, rest) ← scanNumberUpTo 2 2 rest
  let rest ← scanColon rest
  let (minute, rest) ← scanNumberUpTo 2 2 rest
  let (second, rest) ← scanSecond rest
  let rest ← scanBlanks rest
  let (offset, rest) ← scanZone rest
  if !areComments rest.length rest then none
  else
    let local' ← Fields.dateTime? ⟨year, month, day, hour, minute, second, 0⟩
    if weekday.all (· == local'.date.weekday) then local'.utc? offset else none

end SqlCompose.Calendar.Rfc2822
