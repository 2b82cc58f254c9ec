import SqlCompose.Calendar.Layout
import SqlCompose.Calendar.Rfc2822
import SqlCompose.Calendar.Rfc3339
import SqlCompose.Connection

/-!
# Moments

A moment is said in one of several ways: as a number of seconds, as text, as a date. Text is read as a
number of seconds if it is one, then by RFC 3339, by RFC 2822 and by the layouts in their order; the
first that accepts it decides.
-/

namespace SqlCompose

/-- A way to say when. -/
inductive Moment where
  /-- The present time. -/
  | now
  /-- Seconds since the beginning of 1970. -/
  | timestamp (seconds : Int64)
  | text (s : String)
  | date (d : Date)
  | dateTime (t : DateTime)
  deriving DecidableEq

namespace Moment

/-- The time of a number of seconds. -/
def ofTimestamp (seconds : Int64) : Except QueryError DateTime :=
  match DateTime.ofSecondNumber? seconds.toInt 0 with
  | some t => .ok t
  | none => .error (.invalidDate (Decimal.int64Text seconds))

/-- The readings of a text that is no number, in the order in which they are tried. -/
def readings : List (List Char → Option DateTime) :=
  [Calendar.Rfc3339.read?, Calendar.Rfc2822.read?] ++ Calendar.Layout.all.map Calendar.Layout.read?

/-- The time that a text says. -/
def parse (text : String) : Except QueryError DateTime :=
  let cs := Text.trim text.toList
  match Decimal.readInt64? cs with
  | some seconds => ofTimestamp seconds
  | none =>
    match readings.findSome? fun read => read cs with
    | some t => .ok t
    | none => .error (.invalidDate (String.ofList cs))

/-- The time that a moment says, with a clock for the present. -/
def resolve (m : Moment) (clock : Except QueryError DateTime) : Except QueryError DateTime :=
  match m with
  | .now => clock
  | .timestamp seconds => ofTimestamp seconds
  | .text s => parse s
  | .date d => .ok (DateTime.midnight d)
  | .dateTime t => .ok t

end Moment

end SqlCompose
