import SqlCompose.Calendar.Scan

/-!
# RFC 3339

Internet timestamps: `2016-07-22T13:54:09.5+02:00`. Every part has a fixed number of digits; a small
`t` or a space may stand for the `T`, and a `Z` for the offset.
-/

namespace SqlCompose.Calendar.Rfc3339

/-- The sign of an offset: a plus, a hyphen or a minus sign. -/
def scanSign : List Char → Option (Int × List Char)
  | '+' :: rest => some (1, rest)
  | '-' :: rest => some (-1, rest)
  | '−' :: rest => some (-1, rest)
  | _ => none

/-- The offset east in seconds, less than a day. -/
def scanOffset (cs : List Char) : Option (Int × List Char) :=
  match cs with
  | 'Z' :: rest => some (0, rest)
  | 'z' :: rest => some (0, rest)
  | _ => do
    let (sign, rest) ← scanSign cs
    let (hours, rest) ← scanNumberUpTo 2 2 rest
    let rest ← scanChar ':' rest
    let (minutes, rest) ← scanNumberUpTo 2 2 rest
    if hours ≤ 23 && minutes ≤ 59 then some (sign * (hours * 3600 + minutes * 60 : Nat), rest)
    else none

/-- What stands between the date and the time. -/
def scanDivider : List Char → Option (List Char)
  | 'T' :: rest => some rest
  | 't' :: rest => some rest
  | ' ' :: rest => some rest
  | _ => none

/-- The time, in the zone of no offset, that a timestamp names. -/
def read? (cs : List Char) : Option DateTime := do
  let (year, rest) ← scanNumberUpTo 4 4 cs
  let rest ← scanChar '-' rest
  let (month, rest) ← scanNumberUpTo 2 2 rest
  let rest ← scanChar '-' rest
  let (day, rest) ← scanNumberUpTo 2 2 rest
  let rest ← scanDivider rest
  let (hour, rest) ← scanNumberUpTo 2 2 rest
  let rest ← scanChar ':' rest
  let (minute, rest) ← scanNumberUpTo 2 2 rest
  let rest ← scanChar ':' rest
  let (second, rest) ← scanNumberUpTo 2 2 rest
  let (nano, rest) ← scanOptionalFraction rest
  let (offset, rest) ← scanOffset rest
  if rest.isEmpty then
    let local' ← Fields.dateTime? ⟨year, month, day, hour, minute, second, nano⟩
    local'.utc? offset
  else none

end SqlCompose.Calendar.Rfc3339
