import SqlCompose.Adapter
import SqlCompose.Text.Hex
import SqlCompose.Text.Split

/-!
# Literals

Values as they are written into a statement. A quote inside a string literal is written twice; in
MySQL so is a backslash, which has a meaning there. Floating-point numbers that are not finite have
no literal and are written as null.
-/

namespace SqlCompose

namespace Dialect

/-- The characters of a string as they stand inside a literal. -/
def escapeChars (d : Dialect) (cs : List Char) : List Char :=
  match d with
  | .mySql => Text.doubled '\'' (Text.doubled '\\' cs)
  | _ => Text.doubled '\'' cs

/-- The string as it stands inside a literal. -/
def escapeString (d : Dialect) (s : String) : String :=
  String.ofList (d.escapeChars s.toList)

/-- The string literal. -/
def stringLiteral (d : Dialect) (s : String) : String :=
  "'" ++ d.escapeString s ++ "'"

/-- The literal of a truth value. -/
def boolLiteral (d : Dialect) (b : Bool) : String :=
  match d with
  | .postgreSql => if b then "TRUE" else "FALSE"
  | _ => if b then "1" else "0"

/-- The literal of bytes, in hexadecimal digits. -/
def blobLiteral (d : Dialect) (bytes : List UInt8) : String :=
  match d with
  | .postgreSql => "'\\x" ++ String.ofList (Text.hexOf 'a' bytes) ++ "'::bytea"
  | _ => "X'" ++ String.ofList (Text.hexOf 'A' bytes) ++ "'"

/-- The place of the parameter with the given number, counted from one. -/
def placeholder (d : Dialect) (index : Nat) : String :=
  match d with
  | .postgreSql => "$" ++ toString index
  | _ => "?"

end Dialect

namespace Adapter

/-- The string literal, in the words of the connection if it has its own. -/
def quoteString (a : Adapter) (s : String) : String :=
  (a.driver.bind fun d => d.quoteString s).getD (a.dialect.stringLiteral s)

/-- The literal of a value. -/
def quoteValue (a : Adapter) : Value → String
  | .null => "NULL"
  | .bool b => a.dialect.boolLiteral b
  | .int n => Decimal.int64Text n
  | .float x => if x.isFinite then x.positionalText else "NULL"
  | .text s => a.quoteString s
  | .blob bytes => a.dialect.blobLiteral bytes
  | .date d => a.quoteString d.text
  | .dateTime t => a.quoteString t.text

end Adapter

end SqlCompose
