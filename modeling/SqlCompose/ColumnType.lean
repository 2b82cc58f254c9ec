import SqlCompose.Dialect
import SqlCompose.Text.Ascii
import SqlCompose.Text.Blank
import SqlCompose.Text.Word

/-!
# Column types

A column definition begins with a type. Abstract types stand for a type of each dialect; a size in
parentheses and whatever follows are carried over. Definitions that begin with another type stay as
they are.
-/

namespace SqlCompose

/-- A definition, taken apart: `name(size)modifiers`. -/
structure TypeText where
  name : List Char
  size : Option (List Char)
  modifiers : List Char
  deriving DecidableEq

namespace TypeText

/-- The size in parentheses at the front of a text and what follows it, if they are closed. -/
def size? : List Char → Option (List Char × List Char)
  | '(' :: rest =>
    let size := rest.takeWhile (· != ')')
    match rest.drop size.length with
    | _ :: modifiers => some (size, modifiers)
    | [] => none
  | _ => none

/-- Takes a definition apart. It has to begin with a word, and there may be no line break behind the
size. -/
def read? (cs : List Char) : Option TypeText :=
  let name := cs.takeWhile Text.isWord
  let rest := cs.drop name.length
  let (size, modifiers) :=
    match size? rest with
    | some (size, modifiers) => (some size, modifiers)
    | none => (none, rest)
  if name.isEmpty || modifiers.contains '\n' then none else some ⟨name, size, modifiers⟩

/-- The text with the first parenthesised group replaced by a size, which is put at the end where
there is no such group. -/
def withSize (size : List Char) (cs : List Char) : List Char :=
  let before := cs.takeWhile (· != '(')
  match size? (cs.drop before.length) with
  | some (_, behind) => before ++ '(' :: size ++ ')' :: behind
  | none => cs ++ '(' :: size ++ [')']

end TypeText

namespace Dialect

/-- The types that the abstract types stand for. -/
def columnTypes : Dialect → List (String × String)
  | .mySql => [
    ("pk", "int(11) NOT NULL AUTO_INCREMENT PRIMARY KEY"),
    ("bigpk", "bigint(20) NOT NULL AUTO_INCREMENT PRIMARY KEY"),
    ("string", "varchar(255)"),
    ("text", "text"),
    ("smallint", "smallint(6)"),
    ("integer", "int(11)"),
    ("bigint", "bigint(20)"),
    ("float", "float"),
    ("double", "double"),
    ("decimal", "decimal(10,0)"),
    ("datetime", "datetime"),
    ("timestamp", "timestamp"),
    ("time", "time"),
    ("date", "date"),
    ("binary", "blob"),
    ("boolean", "tinyint(1)"),
    ("money", "decimal(19,4)")]
  | .postgreSql => [
    ("pk", "serial NOT NULL PRIMARY KEY"),
    ("bigpk", "bigserial NOT NULL PRIMARY KEY"),
    ("string", "varchar(255)"),
    ("text", "text"),
    ("smallint", "smallint"),
    ("integer", "integer"),
    ("bigint", "bigint"),
    ("float", "double precision"),
    ("double", "double precision"),
    ("decimal", "numeric(10,0)"),
    ("datetime", "timestamp(0)"),
    ("timestamp", "timestamp(0)"),
    ("time", "time(0)"),
    ("date", "date"),
    ("binary", "bytea"),
    ("boolean", "boolean"),
    ("money", "numeric(19,4)")]
  | .sqlite => [
    ("pk", "integer PRIMARY KEY AUTOINCREMENT NOT NULL"),
    ("bigpk", "integer PRIMARY KEY AUTOINCREMENT NOT NULL"),
    ("string", "varchar(255)"),
    ("text", "text"),
    ("smallint", "smallint"),
    ("integer", "integer"),
    ("bigint", "bigint"),
    ("float", "float"),
    ("double", "double"),
    ("decimal", "decimal(10,0)"),
    ("datetime", "datetime"),
    ("timestamp", "timestamp"),
    ("time", "time"),
    ("date", "date"),
    ("binary", "blob"),
    ("boolean", "boolean"),
    ("money", "decimal(19,4)")]

/-- The type that an abstract type stands for, whatever the case of its letters. -/
def mappedType? (d : Dialect) (name : List Char) : Option (List Char) :=
  (d.columnTypes.find? fun entry => Text.sameLetters entry.1.toList name).map (·.2.toList)

/-- The definition in the words of the dialect, if it begins with an abstract type. -/
def mappedDefinition? (d : Dialect) (definition : List Char) : Option (List Char) := do
  let parts ← TypeText.read? (Text.trim definition)
  let mapped ← d.mappedType? parts.name
  match parts.size with
  | some size => some (TypeText.withSize size mapped ++ parts.modifiers)
  | none => some (mapped ++ parts.modifiers)

/-- The definition in the words of the dialect. -/
def columnType (d : Dialect) (definition : String) : String :=
  match d.mappedDefinition? definition.toList with
  | some mapped => String.ofList mapped
  | none => definition

example : columnType .mySql "string(64) NOT NULL" = "varchar(64) NOT NULL" := by decide
example : columnType .mySql "pk(5)" = "int(5) NOT NULL AUTO_INCREMENT PRIMARY KEY" := by decide
example : columnType .sqlite " point " = " point " := by decide

end Dialect

end SqlCompose
