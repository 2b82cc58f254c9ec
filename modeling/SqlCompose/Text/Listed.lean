import SqlCompose.Text.HiddenTable

/-!
# Listed names

A name in a listing stands in double quotes. Quotes and backslashes have a backslash in front, and
every hidden character is written by name or by its number in braces, so that a reader of the
listing sees all of the name.
-/

namespace SqlCompose.Text

/-- Characters that show nothing, or nothing without a neighbour. The space is not one of them. -/
def isHidden (c : Char) : Bool :=
  c.toNat < 32 || (127 ≤ c.toNat && inRanges hiddenRanges c.toNat)

/-- A character inside a listed name. -/
def escapeListed (c : Char) : List Char :=
  match c with
  | '"' => ['\\', '"']
  | '\\' => ['\\', '\\']
  | '\x00' => ['\\', '0']
  | '\n' => ['\\', 'n']
  | '\r' => ['\\', 'r']
  | '\t' => ['\\', 't']
  | c =>
    if isHidden c then '\\' :: 'u' :: '{' :: Nat.toDigits 16 c.toNat ++ ['}']
    else [c]

/-- A name in quotes, as a listing has it. -/
def listed (s : String) : String :=
  "\"" ++ String.ofList (s.toList.flatMap escapeListed) ++ "\""

example : listed "a\"b\x7f" = "\"a\\\"b\\u\x7b7f\x7d\"" := by decide
example : isHidden '\u0301' = true ∧ isHidden '\uff9e' = false ∧ isHidden '\uffa0' = true := by
  decide +kernel

end SqlCompose.Text
