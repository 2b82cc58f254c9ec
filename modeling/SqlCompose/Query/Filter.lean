import SqlCompose.Document.Basic
import SqlCompose.Query.Basic

/-!
# Filters from documents

A record is the conjunction of its fields, each a key with a scalar or a list of scalars; a list of
documents is the conjunction of their filters. A whole number that 64 bits with a sign do not hold
becomes the floating-point number nearest to it.
-/

namespace SqlCompose

namespace Filter

/-- The value that a scalar stands for. -/
def scalar (key : String) : Document → Except QueryError Value
  | .null => .ok .null
  | .bool b => .ok (.bool b)
  | .integer n =>
    match Decimal.int64? n with
    | some w => .ok (.int w)
    | none => .ok (.float (Binary64.ofInt n))
  | .float x => .ok (.float x)
  | .text s => .ok (.text s)
  | .list _ => .error (.invalidFilter (.nestedValue key))
  | .record _ => .error (.invalidFilter (.nestedValue key))

/-- The operand that a field stands for. -/
def operand (key : String) : Document → Except QueryError Operand
  | .list items => (items.mapM (scalar key)).map .list
  | d => (scalar key d).map .value

/-- The comparison that a field stands for. -/
def test (key : String) (d : Document) : Except QueryError (Condition Test) :=
  (operand key d).map fun o => .leaf (Test.ofKey key o)

end Filter

namespace Condition

mutual

/-- The condition that a document stands for. -/
def ofDocument : Document → Except QueryError (Condition Test)
  | .record fields => (fields.mapM fun (e : String × Document) => Filter.test e.1 e.2).map .all
  | .list items => (ofDocuments items).map .all
  | .null => .error (.invalidFilter (.notAGroup Document.null.compact))
  | .bool b => .error (.invalidFilter (.notAGroup (Document.bool b).compact))
  | .integer n => .error (.invalidFilter (.notAGroup (Document.integer n).compact))
  | .float x => .error (.invalidFilter (.notAGroup (Document.float x).compact))
  | .text s => .error (.invalidFilter (.notAGroup (Document.text s).compact))

/-- The conditions that documents stand for, up to the first that stands for none. -/
def ofDocuments : List Document → Except QueryError (List (Condition Test))
  | [] => .ok []
  | d :: ds => do
    let c ← ofDocument d
    let cs ← ofDocuments ds
    .ok (c :: cs)

end

end Condition

end SqlCompose
