import SqlCompose.Calendar.Notation
import SqlCompose.Decimal.Integer
import SqlCompose.Decimal.Notation
import SqlCompose.Text.Ascii
import SqlCompose.Text.Blank

/-!
# Values

A value is a single literal: what a condition compares with, what a row holds and what a statement
binds.
-/

namespace SqlCompose

/-- A literal value. -/
inductive Value where
  | null
  | bool (b : Bool)
  | int (n : Int64)
  | float (x : Binary64)
  | text (s : String)
  | blob (bytes : List UInt8)
  | date (d : Date)
  | dateTime (t : DateTime)
  deriving DecidableEq, Inhabited

namespace Value

/-- The value, or null where there is none. -/
def ofOption : Option Value → Value
  | some v => v
  | none => .null

/-- Whether the value is null. -/
def isNull : Value → Bool
  | .null => true
  | _ => false

/-- The text of a text value. -/
def text? : Value → Option String
  | .text s => some s
  | _ => none

/-- The value as a whole number; text counts if it writes one. -/
def int? : Value → Option Int64
  | .int n => some n
  | .bool b => some (if b then 1 else 0)
  | .text s => Decimal.readInt64? (Text.trim s.toList)
  | _ => none

/-- The flag that a text spells, in any letter case. -/
def flagOfText (s : String) : Option Bool :=
  match Text.asciiLower s with
  | "1" | "true" | "t" | "yes" | "y" | "on" => some true
  | "0" | "false" | "f" | "no" | "n" | "off" => some false
  | _ => none

/-- The value as a flag: whole numbers other than zero are true, and text counts in its usual
spellings. -/
def bool? : Value → Option Bool
  | .bool b => some b
  | .int n => some (n != 0)
  | .text s => flagOfText s
  | _ => none

/-- The value as text without quotes, as it becomes part of a pattern. Null and bytes have none. -/
def plain? : Value → Option String
  | .null => none
  | .bool b => some (if b then "true" else "false")
  | .int n => some (Decimal.int64Text n)
  | .float x => some x.positionalText
  | .text s => some s
  | .blob _ => none
  | .date d => some d.text
  | .dateTime t => some t.text

end Value

end SqlCompose
