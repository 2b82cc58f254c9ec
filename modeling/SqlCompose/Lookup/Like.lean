import SqlCompose.Lookup.Basic
import SqlCompose.Text.LowerCase

/-!
# Patterns

The lookups of the `LIKE` family put the text of a value between wildcards. A backslash takes the
special meaning from a wildcard inside the text, and from a backslash; SQLite has to be told so.
-/

namespace SqlCompose

/-- Where a text has to stand in a longer one. -/
inductive LikeMatch where
  | contains
  | startsWith
  | endsWith
  deriving DecidableEq

/-- An escaped text with wildcards where other text may stand. -/
def LikeMatch.pattern (kind : LikeMatch) (escaped : List Char) : List Char :=
  match kind with
  | .contains => '%' :: escaped ++ ['%']
  | .startsWith => escaped ++ ['%']
  | .endsWith => '%' :: escaped

/-- What names the escape character where it is not the backslash anyway. -/
def Dialect.likeEscape : Dialect → String
  | .sqlite => " ESCAPE '\\'"
  | _ => ""

namespace Lookup

/-- The characters with a meaning in a pattern. -/
def isPatternMark (c : Char) : Bool :=
  c == '\\' || c == '%' || c == '_'

/-- The text with a backslash in front of every character that has a meaning in a pattern. -/
def escapeLike (cs : List Char) : List Char :=
  cs.flatMap fun c => if isPatternMark c then ['\\', c] else [c]

/-- The pattern that finds `text` where `kind` says, in lower case if `lower` is set. -/
def likePattern (kind : LikeMatch) (lower : Bool) (text : String) : Value :=
  let text := if lower then Text.lowerCase text else text
  .text (String.ofList (kind.pattern (escapeLike text.toList)))

/-- `lhs operator pattern` for the plain text of a single value. With `lower` the text is put in
lower case, to be compared with a left-hand side in lower case. -/
def like (name operator : String) (kind : LikeMatch) (lower : Bool) : Lookup :=
  fun ctx lhs comparand =>
    match comparand.value?.bind Value.plain? with
    | none => .fail (.invalidOperand name .notText)
    | some text =>
      .text (lhs ++ " " ++ operator ++ " ") ++ ctx.value (likePattern kind lower text)
        ++ .text ctx.adapter.dialect.likeEscape

/-- `lhs operator pattern`, with the plain text of a single value as the pattern behind `lead`. -/
def patternAfter (lead name operator : String) : Lookup :=
  fun ctx lhs comparand =>
    match comparand.value?.bind Value.plain? with
    | none => .fail (.invalidOperand name .notPattern)
    | some text => .text (lhs ++ " " ++ operator ++ " ") ++ ctx.value (.text (lead ++ text))

/-- `lhs operator pattern`, with the plain text of a single value as the pattern. -/
def pattern (name operator : String) : Lookup :=
  patternAfter "" name operator

end Lookup

end SqlCompose
