/-!
# Kinds of queries

What a query says that it does.
-/

namespace SqlCompose

/-- The kind of a query. -/
inductive QueryKind where
  /-- Nothing was said; it selects. -/
  | uninitialized
  | select
  | insert
  | update
  | delete
  | createTable
  | alterTable
  | dropTable
  | truncateTable
  | createIndex
  | dropIndex
  /-- Sequences and the checking of foreign keys. -/
  | maintenance
  deriving DecidableEq

end SqlCompose
