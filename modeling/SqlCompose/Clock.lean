import SqlCompose.Adapter
import SqlCompose.Calendar.Moment

/-!
# The present time

The present time is that of the database, where there is a connection that tells it, and else that of
a clock on the wall. Moments are turned into the texts that a statement compares dates with.
-/

namespace SqlCompose.Adapter

/-- The present time. -/
def now (a : Adapter) (wallClock : DateTime) : Except QueryError DateTime :=
  match a.driver with
  | some d => d.now.map (·.getD wallClock)
  | none => .ok wallClock

/-- The date of a moment. -/
def dateText (a : Adapter) (wallClock : DateTime) (m : Moment) : Except QueryError String :=
  (m.resolve (a.now wallClock)).map (·.date.text)

/-- The date and the time of a moment. -/
def dateTimeText (a : Adapter) (wallClock : DateTime) (m : Moment) : Except QueryError String :=
  (m.resolve (a.now wallClock)).map (·.text)

end SqlCompose.Adapter
