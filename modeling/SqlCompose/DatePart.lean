import SqlCompose.Dialect

/-!
# Parts of a date

The expressions by which each dialect takes a part out of a date, as a whole number. The day of the
week counts from one for Sunday in all of them.
-/

namespace SqlCompose

/-- A part of a date or a time of day. -/
inductive DatePart where
  | year
  | month
  | day
  /-- From one for Sunday to seven for Saturday. -/
  | weekDay
  | hour
  | minute
  | second
  deriving DecidableEq

namespace DatePart

/-- All parts. -/
def all : List DatePart :=
  [.year, .month, .day, .weekDay, .hour, .minute, .second]

/-- The name of the lookup that compares the part. -/
def lookupName : DatePart → String
  | .year => "year"
  | .month => "month"
  | .day => "day"
  | .weekDay => "week_day"
  | .hour => "hour"
  | .minute => "minute"
  | .second => "second"

/-- The function of MySQL. -/
def mySqlFunction : DatePart → String
  | .year => "YEAR"
  | .month => "MONTH"
  | .day => "DAYOFMONTH"
  | .weekDay => "DAYOFWEEK"
  | .hour => "HOUR"
  | .minute => "MINUTE"
  | .second => "SECOND"

/-- The field name of the standard's `EXTRACT`. -/
def extractField : DatePart → String
  | .year => "YEAR"
  | .month => "MONTH"
  | .day => "DAY"
  | .weekDay => "DOW"
  | .hour => "HOUR"
  | .minute => "MINUTE"
  | .second => "SECOND"

/-- The conversion letter of SQLite's `strftime`. -/
def conversion : DatePart → String
  | .year => "%Y"
  | .month => "%m"
  | .day => "%d"
  | .weekDay => "%w"
  | .hour => "%H"
  | .minute => "%M"
  | .second => "%S"

/-- What is added to a day of the week that counts from zero. -/
def correction : DatePart → String
  | .weekDay => "+1"
  | _ => ""

/-- The part of `field` as a whole number. -/
def expression (part : DatePart) (dialect : Dialect) (field : String) : String :=
  match dialect with
  | .mySql => part.mySqlFunction ++ "(" ++ field ++ ")"
  | .postgreSql => "EXTRACT(" ++ part.extractField ++ " FROM " ++ field ++ ")" ++ part.correction
  | .sqlite =>
    "CAST(strftime('" ++ part.conversion ++ "', " ++ field ++ ") AS INTEGER)" ++ part.correction

end DatePart

end SqlCompose
