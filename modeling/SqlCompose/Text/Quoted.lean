import SqlCompose.Text.Hex

/-!
# Quoted text

A text in double quotes, as a document has it: quotes and backslashes have a backslash in front, and
control characters are written by name or by number, with four digits.
-/

namespace SqlCompose.Text

/-- A character inside a quoted text of a document. -/
def escapeChar (c : Char) : List Char :=
  match c with
  | '"' => ['\\', '"']
  | '\\' => ['\\', '\\']
  | '\x08' => ['\\', 'b']
  | '\x0c' => ['\\', 'f']
  | '\n' => ['\\', 'n']
  | '\r' => ['\\', 'r']
  | '\t' => ['\\', 't']
  | c =>
    if c.toNat < 32 then '\\' :: 'u' :: '0' :: '0' :: hexOf 'a' [c.toNat.toUInt8]
    else [c]

/-- A text in quotes, as a document has it. -/
def quoted (s : String) : String :=
  "\"" ++ String.ofList (s.toList.flatMap escapeChar) ++ "\""

example : quoted "a\"b\x01" = "\"a\\\"b\\u0001\"" := by decide

end SqlCompose.Text
