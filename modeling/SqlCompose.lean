import SqlCompose.Text.Blank
import SqlCompose.Text.Ascii
import SqlCompose.Text.Split
import SqlCompose.Text.Hex
import SqlCompose.Text.Word
import SqlCompose.Text.Listed
import SqlCompose.Text.LowerCase
import SqlCompose.Decimal.Notation
import SqlCompose.Calendar.Notation
import SqlCompose.Calendar.Layout
import SqlCompose.Calendar.Rfc3339
import SqlCompose.Calendar.Rfc2822
import SqlCompose.Error
import SqlCompose.Value
import SqlCompose.NameMap
import SqlCompose.Identifier.Quoting
import SqlCompose.Parameters
import SqlCompose.Rendering
import SqlCompose.Binding
import SqlCompose.Query.Kind
import SqlCompose.Paging
import SqlCompose.Condition.Key
import SqlCompose.Schema.Statement
import SqlCompose.Query.Render
import SqlCompose.Calendar.Moment
import SqlCompose.Query.Filter
import SqlCompose.Catalog.Reflector
import SqlCompose.Settings
import SqlCompose.Clock
import SqlCompose.Proofs.Condition.Token
import SqlCompose.Proofs.Condition.Grammar
import SqlCompose.Proofs.Condition.Truth
import SqlCompose.Proofs.Condition.Tree
import SqlCompose.Proofs.Condition.Writing
import SqlCompose.Proofs.Literal.Reading
import SqlCompose.Proofs.Rendering.Uniform
import SqlCompose.Proofs.Query.Binding
import SqlCompose.Proofs.Condition.Rendering
import SqlCompose.Proofs.Condition.Clause
import SqlCompose.Proofs.Lookup.Alike
import SqlCompose.Proofs.Condition.Alike
import SqlCompose.Proofs.Query.Alike
import SqlCompose.Proofs.Catalog.Inquiry
import SqlCompose.Proofs.Catalog.Lexing
import SqlCompose.Proofs.Lookup.Like
import SqlCompose.Proofs.Catalog.MySql
import SqlCompose.Proofs.Catalog.Loader
import SqlCompose.Proofs.Catalog.Cache
import SqlCompose.Proofs.Catalog.Folding
import SqlCompose.Proofs.Catalog.UniqueIndexes
import SqlCompose.Proofs.Catalog.ForeignKeys
import SqlCompose.Proofs.Condition.Leaves
import SqlCompose.Proofs.Query.Nesting
import SqlCompose.Proofs.Union.Grammar
import SqlCompose.Proofs.Union.Tree
import SqlCompose.Proofs.Filter.Grammar
import SqlCompose.Proofs.Filter.Integers
import SqlCompose.Proofs.Filter.Tree
import SqlCompose.Proofs.Identifier.Expansion
import SqlCompose.Proofs.Schema.TableNames
import SqlCompose.Proofs.Query.Adapters
import SqlCompose.Proofs.Query.Calls
import SqlCompose.Proofs.Query.DataChange
import SqlCompose.Proofs.Catalog.WellFormed
import SqlCompose.Proofs.Lookup.Outcome
import SqlCompose.Proofs.Condition.Comparisons
import SqlCompose.Proofs.Condition.Tidying
import SqlCompose.Proofs.Identifier.Names
import SqlCompose.Proofs.Identifier.Replacement
import SqlCompose.Proofs.ColumnType.Reading
import SqlCompose.Proofs.ColumnType.Mapping
import SqlCompose.Proofs.ColumnType.Sizes
import SqlCompose.Proofs.Query.SelectLists
import SqlCompose.Proofs.Schema.Renaming
import SqlCompose.Proofs.Query.Paging
import SqlCompose.Proofs.Literal.Null
import SqlCompose.Proofs.Lookup.Scalars
import SqlCompose.Proofs.Query.Insertion
import SqlCompose.Proofs.Calendar.Conventions
import SqlCompose.Proofs.Calendar.Layouts
import SqlCompose.Proofs.Identifier.Signs
import SqlCompose.Proofs.Identifier.Chains
import SqlCompose.Proofs.Condition.Keys
import SqlCompose.Proofs.Condition.Merging
import SqlCompose.Proofs.Query.Subqueries
import SqlCompose.Proofs.Catalog.Grouping
