import SqlCompose.Identifier.Quoting
import SqlCompose.Literal

/-!
# Values in a statement

A value is written where it comes in the statement, in the way that the parameters say: as its
literal, or as the placeholder that follows those written before it. This is how an adapter's own
statements write values, and how its lookups do.
-/

namespace SqlCompose

namespace Parameters

/-- The text for a value, and the parameters afterwards. -/
def write (p : Parameters) (a : Adapter) (v : Value) : String × Parameters :=
  match p.mode with
  | .inline => (a.quoteValue v, p)
  | .bound => (a.dialect.placeholder (p.count + 1), p.push v)

/-- Writing one value collects that value. -/
theorem write_snd (p : Parameters) (a : Adapter) (v : Value) : (p.write a v).2 = p.pushAll [v] := by
  obtain ⟨mode, values⟩ := p
  cases mode <;> rfl

end Parameters

namespace Adapter

/-- A value, as a literal or as a placeholder. -/
def value (a : Adapter) (v : Value) : Rendering where
  write p :=
    let (text, p) := p.write a v
    (.ok text, p)
  grows p := ⟨[v], p.write_snd a v⟩

/-- What the adapter gives to its lookups. -/
def context (a : Adapter) : LookupContext :=
  ⟨a.profile, a.value, a.quoteSql⟩

/-- Values separated by commas. -/
def values (a : Adapter) (vs : List Value) : Rendering :=
  a.context.list vs

end Adapter

end SqlCompose
