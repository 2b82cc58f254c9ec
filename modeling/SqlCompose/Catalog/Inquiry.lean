import SqlCompose.Connection

/-!
# Inquiries

An inquiry is a plan of queries to a database, where later queries may depend on the rows that
earlier ones found, and an answer in the end. Carried out over a connection it leaves a transcript:
the queries that were sent, in order, and the answer or the error that cut the inquiry short.
-/

namespace SqlCompose.Catalog

/-- A plan of queries with an answer. -/
inductive Inquiry (α : Type) where
  | answer (a : α)
  | ask (sql : String) (next : List Row → Inquiry α)

namespace Inquiry

variable {α β : Type}

/-- One inquiry after the other. -/
def bind : Inquiry α → (α → Inquiry β) → Inquiry β
  | answer a, f => f a
  | ask sql next, f => ask sql fun rows => (next rows).bind f

instance : Monad Inquiry where
  pure := answer
  bind := bind

/-- A single query. -/
def rows (sql : String) : Inquiry (List Row) :=
  ask sql answer

/-- The first column of the first row that a query finds. -/
def scalar (sql : String) : Inquiry (Option Value) :=
  ask sql fun rows => answer (rows.head?.bind (·.values.head?))

end Inquiry

/-- What an inquiry leaves behind. -/
structure Transcript (α : Type) where
  queries : List String
  outcome : Except QueryError α

/-- Carries an inquiry out. An error of the database ends it. -/
def Inquiry.run {α : Type} (d : Driver) : Inquiry α → Transcript α
  | answer a => ⟨[], .ok a⟩
  | ask sql next =>
    match d.queryAll sql with
    | .error e => ⟨[sql], .error e⟩
    | .ok rows =>
      let rest := (next rows).run d
      ⟨sql :: rest.queries, rest.outcome⟩

end SqlCompose.Catalog
