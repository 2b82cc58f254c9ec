import SqlCompose.Catalog.Table
import SqlCompose.Text.Split

/-!
# From entries to keys and indexes

Databases report an index or a foreign key as several rows, one for each column. The rows of one name
are folded into one index or key: their columns in the order of the rows, everything else from the
first of them. Names are quoted for the queries that ask for them.
-/

namespace SqlCompose.Catalog

/-- The text in quotes, which are doubled inside. -/
def inQuotes (quote : Char) (s : String) : String :=
  String.ofList (quote :: Text.doubled quote s.toList ++ [quote])

/-- A string literal. -/
def literal (s : String) : String := inQuotes '\'' s

/-- A name in backticks. -/
def backticked (name : String) : String := inQuotes '\x60' name

/-- A column of an index, as it is reported. -/
structure IndexEntry where
  index : String
  column : String
  unique : Bool
  deriving DecidableEq

/-- A column of a foreign key, as it is reported. -/
structure ReferenceEntry where
  key : String
  column : String
  refTable : String
  refColumn : String
  deriving DecidableEq

/-- The indexes with one more column. -/
def addIndexEntry (m : NameMap Index) (e : IndexEntry) : NameMap Index :=
  m.alter e.index ⟨[], e.unique⟩ fun i => { i with columns := i.columns ++ [e.column] }

/-- The indexes that entries describe. -/
def collectIndexes (entries : List IndexEntry) : NameMap Index :=
  entries.foldl addIndexEntry {}

/-- The foreign keys with one more column. -/
def addReferenceEntry (m : NameMap Reference) (e : ReferenceEntry) : NameMap Reference :=
  m.alter e.key ⟨[], e.refTable, []⟩ fun r =>
    { r with columns := r.columns ++ [e.column], refColumns := r.refColumns ++ [e.refColumn] }

/-- The foreign keys that entries describe. -/
def collectReferences (entries : List ReferenceEntry) : NameMap Reference :=
  entries.foldl addReferenceEntry {}

/-- The columns of the unique indexes. -/
def uniqueOnly (m : NameMap Index) : NameMap (List String) :=
  (m.filter (·.unique)).map (·.columns)

end SqlCompose.Catalog
