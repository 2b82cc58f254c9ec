import SqlCompose.Document.Basic
import SqlCompose.NameMap

/-!
# Reading documents

Readers take a value of a given form from a document and fail on any other form. Structures are
records, where fields of other names do not matter, or lists of their fields in order.
-/

namespace SqlCompose.Document

/-- A text. -/
def text? : Document → Option String
  | .text s => some s
  | _ => none

/-- A truth value. -/
def bool? : Document → Option Bool
  | .bool b => some b
  | _ => none

/-- A whole number that fits 32 bits without a sign. -/
def word? : Document → Option UInt32
  | .integer n => if 0 ≤ n ∧ n.toNat < UInt32.size then some n.toNat.toUInt32 else none
  | _ => none

/-- Null, or what `read` takes. -/
def orNull? {α : Type} (read : Document → Option α) : Document → Option (Option α)
  | .null => some none
  | d => (read d).map some

/-- A list of what `read` takes. -/
def listOf? {α : Type} (read : Document → Option α) : Document → Option (List α)
  | .list items => items.mapM read
  | _ => none

/-- A record of what `read` takes, in the order of the names. -/
def mapOf? {α : Type} (read : Document → Option α) : Document → Option (NameMap α)
  | .record fields =>
    (fields.mapM fun (e : String × Document) => (read e.2).map fun a => (e.1, a)).map
      NameMap.ofList
  | _ => none

/-- A name for one of several cases: a text, or a record whose only field has that name and is
null. -/
def caseName? : Document → Option String
  | .text s => some s
  | .record [(name, .null)] => some name
  | _ => none

/-- The fields of a structure, where the first `required` of them may not be missing from a list. -/
def fields? (names : List String) (required : Nat) : Document → Option (List (Option Document))
  | .record fields => some (names.map fun name => field? name fields)
  | .list items =>
    if required ≤ items.length ∧ items.length ≤ names.length then
      some (items.map some ++ List.replicate (names.length - items.length) none)
    else none
  | _ => none

end SqlCompose.Document
