import SqlCompose.Decimal.Notation
import SqlCompose.Text.Quoted

/-!
# Documents

Structured data as it comes from a configuration or a request: scalars, lists and records. A record
keeps its fields in the order in which their names first occur; of fields with one name the last
value counts.
-/

namespace SqlCompose

/-- A document. -/
inductive Document where
  | null
  | bool (b : Bool)
  | integer (n : Int)
  | float (x : Binary64)
  | text (s : String)
  | list (items : List Document)
  | record (fields : List (String × Document))
  deriving Inhabited

namespace Document

/-- The fields with one more, which takes the place of an earlier one of its name. -/
def setField (name : String) (value : Document) :
    List (String × Document) → List (String × Document)
  | [] => [(name, value)]
  | (n, v) :: rest =>
    if n = name then (n, value) :: rest else (n, v) :: setField name value rest

/-- The record of a list of fields. -/
def ofFields (fields : List (String × Document)) : Document :=
  .record (fields.foldl (fun fs (name, value) => setField name value fs) [])

/-- The value of a field. -/
def field? (name : String) (fields : List (String × Document)) : Option Document :=
  fields.lookup name

mutual

/-- The compact text of a document. -/
def compact : Document → String
  | .null => "null"
  | .bool b => if b then "true" else "false"
  | .integer n => toString n
  | .float x => x.documentText
  | .text s => Text.quoted s
  | .list items => "[" ++ ",".intercalate (compactItems items) ++ "]"
  | .record fields => "\x7b" ++ ",".intercalate (compactFields fields) ++ "\x7d"

/-- The compact texts of the items of a list. -/
def compactItems : List Document → List String
  | [] => []
  | d :: ds => d.compact :: compactItems ds

/-- The compact texts of the fields of a record. -/
def compactFields : List (String × Document) → List String
  | [] => []
  | (name, d) :: rest => (Text.quoted name ++ ":" ++ d.compact) :: compactFields rest

end

end Document

end SqlCompose
