import SqlCompose.Connection
import SqlCompose.Dialect
import SqlCompose.NameMap
import SqlCompose.Query.Kind
import SqlCompose.Rendering
import SqlCompose.Text.Listed

/-!
# Lookups

A lookup writes the comparison of a field with something: a value, a list of values or a query. The
lookups of an adapter are known by name.

A lookup writes values and queries through the statement that it is a part of, with what
`LookupContext` gives it. It may look at all of a query that it is handed, also at the adapter that
the query was made with and at the texts that it has through that adapter.
-/

namespace SqlCompose

/-- What a lookup sees of an adapter. -/
structure Profile where
  dialect : Dialect
  /-- Put in the place of the percent sign in table placeholders. -/
  tablePrefix : String
  driver : Option Driver

/-- A query by itself: the adapter it was made with, and what it is through that adapter. -/
structure QueryOrigin where
  adapter : Profile
  /-- The statement with its values as literals. -/
  toSql : Thunk (Except QueryError String)
  /-- The statement with placeholders, and its values. -/
  build : Thunk (Except QueryError (String × List Value))

/-- A query that a field is compared with. -/
structure NestedQuery where
  kind : QueryKind
  /-- The query through the adapter of the statement it is a part of. -/
  rendering : Rendering
  origin : QueryOrigin

/-- What a field is compared with. -/
inductive Comparand where
  | value (v : Value)
  | list (vs : List Value)
  | query (q : NestedQuery)
  /-- Raw SQL of a query, which may hold placeholders. -/
  | raw (sql : String)

/-- The value, if it is a single one. -/
def Comparand.value? : Comparand → Option Value
  | .value v => some v
  | _ => none

/-- What a lookup is given of the statement it is a part of. -/
structure LookupContext where
  adapter : Profile
  /-- A value, as a literal or as a placeholder. -/
  value : Value → Rendering
  /-- Raw SQL with its placeholders expanded. -/
  quoteSql : String → String

namespace LookupContext

/-- Values separated by commas. -/
def list (ctx : LookupContext) (vs : List Value) : Rendering :=
  Rendering.joinWith ", " (vs.map ctx.value)

/-- A value, or a list or a query in parentheses. -/
def operand (ctx : LookupContext) : Comparand → Rendering
  | .value v => ctx.value v
  | .list vs => (ctx.list vs).paren
  | .query q => q.rendering.paren
  | .raw sql => (Rendering.text (ctx.quoteSql sql)).paren

end LookupContext

/-- From the context, the quoted field and the comparand to the comparison. -/
abbrev Lookup := LookupContext → String → Comparand → Rendering

/-- Lookups by name. -/
abbrev Registry := NameMap Lookup

/-- The names of the lookups in order, quoted and in braces. -/
def Registry.listing (r : Registry) : String :=
  "\x7b" ++ ", ".intercalate (r.names.map Text.listed) ++ "\x7d"

/-- The lookup meant by a condition that names none. -/
def Lookup.defaultName : String := "exact"

end SqlCompose
