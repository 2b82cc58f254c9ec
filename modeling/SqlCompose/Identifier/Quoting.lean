import SqlCompose.Adapter
import SqlCompose.Identifier.Placeholder

/-!
# Quoted identifiers

The parts of a dotted name are quoted one by one. A name that already holds the quote character
counts as quoted, and names with a parenthesis or an opening placeholder count as raw SQL, of which
only the placeholders are expanded. A table name is expanded once its percent signs are replaced by
the prefix, so a prefix may bring placeholders of its own along; a prefix that brings its own
placeholder back is expanded without end. `expand?` goes down a given number of levels and has no
result where there are more. `quoteSql` first tries as many as any expansion needs that comes to an
end, and from one that does not it does not come back: it goes on to try ever more (`levels`).
-/

namespace SqlCompose

namespace Identifier

/-- A table name without dots, quoted unless it holds the quote character. -/
def quoteTablePart (quote : Char) (name : List Char) : List Char :=
  if name.contains quote then name else quote :: name ++ [quote]

/-- A column name without dots, quoted unless it holds the quote character or is a star. -/
def quoteColumnPart (quote : Char) (name : List Char) : List Char :=
  if name = ['*'] then name else quoteTablePart quote name

/-- A dotted table name with every part quoted. -/
def dottedTable (quote : Char) (name : List Char) : List Char :=
  Text.joinWith ['.'] ((Text.splitOn '.' name).map (quoteTablePart quote))

/-- A dotted column name: a table name, and behind the last dot the column. -/
def dottedColumn (quote : Char) (name : List Char) : List Char :=
  match Text.splitLast? '.' name with
  | some (table, column) => dottedTable quote table ++ '.' :: quoteColumnPart quote column
  | none => quoteColumnPart quote name

/-- Whether a table name is raw SQL. -/
def isRawTable (name : List Char) : Bool :=
  name.contains '(' || Text.hasPair '{' name

/-- Whether a column name is raw SQL. -/
def isRawColumn (name : List Char) : Bool :=
  name.contains '(' || Text.hasPair '[' name || Text.hasPair '{' name

/-- The text with its placeholders expanded, going down at most `depth` levels. A name in a column
placeholder is never raw. -/
def expand? (quote : Char) (tablePrefix : List Char) : Nat → List Char → Option (List Char)
  | 0, _ => none
  | depth + 1, cs =>
    ((Segment.segments cs).mapM' fun (s : Segment) =>
      match s with
      | .char c => some [c]
      | .column name => some (dottedColumn quote name)
      | .table name =>
        let name := Text.replaceChar '%' tablePrefix name
        if isRawTable name then expand? quote tablePrefix depth name
        else some (dottedTable quote name)).map List.flatten

/-- More levels than an expansion that comes to an end goes down. -/
def expansionDepth : Nat := 4

/-- A number of levels within which the text is expanded. Ever more of them are tried, without end
where no number is enough. -/
def levels (quote : Char) (tablePrefix cs : List Char) : Nat :=
  Id.run <| repeatM (fun depth =>
    if (expand? quote tablePrefix depth cs).isSome then .inr depth else .inl (depth * depth))
    expansionDepth

end Identifier

namespace Adapter

open Identifier

/-- Raw SQL with its placeholders expanded. -/
def quoteSqlChars (a : Adapter) (cs : List Char) : List Char :=
  (expand? a.quoteChar a.tablePrefix.toList expansionDepth cs
    <|> expand? a.quoteChar a.tablePrefix.toList
      (levels a.quoteChar a.tablePrefix.toList cs) cs).getD cs

/-- A table name, possibly with a schema in front of it. -/
def quoteTableChars (a : Adapter) (name : List Char) : List Char :=
  if isRawTable name then a.quoteSqlChars name else dottedTable a.quoteChar name

/-- A column name, possibly with a table in front of it. -/
def quoteColumnChars (a : Adapter) (name : List Char) : List Char :=
  if isRawColumn name then a.quoteSqlChars name else dottedColumn a.quoteChar name

/-- Raw SQL with its placeholders expanded. -/
def quoteSql (a : Adapter) (sql : String) : String :=
  String.ofList (a.quoteSqlChars sql.toList)

/-- A table name, possibly with a schema in front of it. -/
def quoteTable (a : Adapter) (name : String) : String :=
  String.ofList (a.quoteTableChars name.toList)

/-- A column name, possibly with a table in front of it. -/
def quoteColumn (a : Adapter) (name : String) : String :=
  String.ofList (a.quoteColumnChars name.toList)

/-- A table name without dots. -/
def quoteSimpleTable (a : Adapter) (name : String) : String :=
  String.ofList (quoteTablePart a.quoteChar name.toList)

/-- A column name without dots. -/
def quoteSimpleColumn (a : Adapter) (name : String) : String :=
  String.ofList (quoteColumnPart a.quoteChar name.toList)

/-- Column names separated by commas. -/
def columnList (a : Adapter) (columns : List String) : String :=
  ", ".intercalate (columns.map a.quoteColumn)

/-- What stands inside a pair of table braces that makes up the whole text. -/
def insideBraces? (cs : List Char) : Option (List Char) :=
  (Text.after? ['{', '{'] cs).bind fun rest =>
    (Text.after? ['}', '}'] rest.reverse).map List.reverse

/-- The name in a table placeholder with its percent signs replaced, without quotes; any other text
stays as it is. -/
def rawTable (a : Adapter) (name : String) : String :=
  match insideBraces? name.toList with
  | some inner => String.ofList (Text.replaceChar '%' a.tablePrefix.toList inner)
  | none => name

end Adapter

end SqlCompose
