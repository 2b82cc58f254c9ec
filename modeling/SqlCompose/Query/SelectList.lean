import SqlCompose.Query.Basic
import SqlCompose.Text.Ascii
import SqlCompose.Text.Split
import SqlCompose.Text.Word

/-!
# Select lists and other short texts

Columns, sources, orderings and joins may be given as text. A select list is cut at the commas that
stand outside quotes and parentheses, and an entry may end in an alias: `t.id AS foo`. A text that
begins with the word `SELECT` is a nested query. An ordering is a column name with a hyphen in front
of it, or with its direction behind it.
-/

namespace SqlCompose

/-- Whether a text begins with `SELECT` and a space, in any letter case. -/
def isSelectText (cs : List Char) : Bool :=
  Text.sameLetters ((Text.trimStart cs).take 7) "SELECT ".toList

/-- The column that a text names: the trimmed text, as a nested query where it is one. -/
def Selected.ofChars (cs : List Char) : Selected :=
  let text := String.ofList (Text.trim cs)
  if isSelectText cs then .raw text else .column text

/-- The source that a text names: the trimmed text, as a nested query where it is one. -/
def Source.ofText (s : String) : Source :=
  if isSelectText s.toList then .raw (Text.trimmed s) else .table (Text.trimmed s)

namespace SelectList

/-- The parts with one more character in front of the first. -/
def prepend (c : Char) : List (List Char) → List (List Char)
  | [] => [[c]]
  | part :: parts => (c :: part) :: parts

/-- The characters that open a quotation, which the same character closes. -/
def isQuote (c : Char) : Bool :=
  c == '\'' || c == '"' || c == '\x60'

/-- The parts between the commas outside quotes and parentheses, of which `depth` are open. Closing
parentheses that match none do not count. -/
def parts (depth : Nat) (quote : Option Char) : List Char → List (List Char)
  | [] => [[]]
  | c :: cs =>
    match quote with
    | some q => prepend c (parts depth (if c = q then none else some q) cs)
    | none =>
      if isQuote c then prepend c (parts depth (some c) cs)
      else if c = '(' then prepend c (parts (depth + 1) none cs)
      else if c = ')' then prepend c (parts (depth - 1) none cs)
      else if c = ',' && depth = 0 then [] :: parts 0 none cs
      else prepend c (parts depth none cs)

/-- The entries of a select list, trimmed and without empty ones. -/
def entries (cs : List Char) : List (List Char) :=
  ((parts 0 none cs).map Text.trim).filter (!·.isEmpty)

/-- The characters of an alias. -/
def isAliasChar (c : Char) : Bool :=
  Text.isWord c || c == '.' || c == '[' || c == ']' || c == '\x60'

/-- What stands before the word `AS` and the blanks behind it, read from the right: `cs` is
reversed. The long s counts as a letter s. -/
def beforeAs? (cs : List Char) : Option (List Char) :=
  match cs with
  | s :: a :: rest =>
    if (s == 's' || s == 'S' || s == 'ſ') && (a == 'a' || a == 'A') then some rest else none
  | _ => none

/-- An expression and its alias, if an entry ends in one: blanks, the word `AS`, blanks and the
alias. -/
def splitAlias? (entry : List Char) : Option (List Char × List Char) := do
  let reversed := entry.reverse
  let name := reversed.takeWhile (!Text.isBlank ·)
  let rest := reversed.drop name.length
  let before ← beforeAs? (Text.trimStart rest)
  let expr := Text.trimStart before
  if !name.isEmpty && name.all isAliasChar && Text.isBlank (rest.headD 'x')
      && Text.isBlank (before.headD 'x') && !expr.isEmpty then
    some (Text.trim expr.reverse, name.reverse)
  else none

/-- The column that an entry names. -/
def column (entry : List Char) : SelectColumn :=
  match splitAlias? entry with
  | some (expr, name) => ⟨Selected.ofChars expr, some (String.ofList name)⟩
  | none => ⟨Selected.ofChars entry, none⟩

/-- The columns that a select list names. -/
def parse (list : String) : List SelectColumn :=
  (entries list.toList).map column

end SelectList

namespace OrderBy

/-- The ordering that a text names. -/
def parse (text : String) : OrderBy :=
  let cs := Text.trim text.toList
  let entry (column : List Char) (direction : Direction) : OrderBy :=
    ⟨.column (String.ofList (Text.trim column)), direction, none⟩
  match cs with
  | '-' :: column => entry column .descending
  | _ =>
    match Text.splitLastBy? Text.isBlank cs with
    | some (column, word) =>
      if Text.sameLetters word "DESC".toList then entry column .descending
      else if Text.sameLetters word "ASC".toList then entry column .ascending
      else entry cs .ascending
    | none => entry cs .ascending

/-- The dialect's random order. -/
def atRandom : OrderBy := ⟨.random, .ascending, none⟩

end OrderBy

namespace JoinKind

/-- The words of a text in upper case, without those that every join may have. -/
def significantWords (text : String) : List String :=
  ((Text.words (Text.trim (Text.asciiUpper text).toList)).map String.ofList).filter fun word =>
    word != "JOIN" && word != "OUTER"

/-- The join that a text names. -/
def parse (text : String) : Except QueryError JoinKind :=
  match significantWords text with
  | [] => .ok .inner
  | ["INNER"] => .ok .inner
  | ["LEFT"] => .ok .left
  | ["RIGHT"] => .ok .right
  | ["FULL"] => .ok .full
  | ["CROSS"] => .ok .cross
  | _ => .error (.invalidFilter (.unknownJoin text))

end JoinKind

end SqlCompose
