import SqlCompose.Condition.Basic

/-!
# Conditions as token sequences

A condition is written as a sequence of tokens: leaves and raw SQL, the words `AND`, `OR` and `NOT`,
and parentheses. Empty parts leave no token. A group is put in parentheses when it stands inside
another group that has several parts and has several parts itself; a group with one part is written
as that part. A negation always has its own parentheses, inside which no group needs any.

The conditions of a clause are joined by `AND`. The first one that is not empty stands as it is, and
the later ones are put in parentheses.
-/

namespace SqlCompose

/-- A token of a written condition. -/
inductive Token (α : Type) where
  | leaf (a : α)
  | raw (sql : String)
  | opening
  | closing
  | and
  | or
  | not
  deriving DecidableEq

namespace Token

variable {α : Type}

/-- Tokens in parentheses. -/
def paren (ts : List (Token α)) : List (Token α) :=
  .opening :: ts ++ [.closing]

/-- The parts one after the other, with a glue between neighbours. -/
def join (glue : Token α) : List (List (Token α)) → List (Token α)
  | [] => []
  | [part] => part
  | part :: parts => part ++ glue :: join glue parts

/-- The parts of a group that are not empty, joined, and in parentheses if there are several inside
another group. -/
def group (glue : Token α) (nested : Bool) (parts : List (List (Token α))) : List (Token α) :=
  if nested && 1 < parts.length then paren (join glue parts) else join glue parts

end Token

namespace Condition

variable {α : Type}

mutual

/-- The tokens of a condition; `nested` says that it stands inside a group of several parts. -/
def tokens (nested : Bool) : Condition α → List (Token α)
  | leaf a => [.leaf a]
  | raw sql =>
    if Text.isBlankText sql then []
    else if nested then Token.paren [.raw sql] else [.raw sql]
  | all parts => Token.group .and nested (partTokens (nested || 1 < liveCount parts) parts)
  | any parts => Token.group .or nested (partTokens (nested || 1 < liveCount parts) parts)
  | not part =>
    match tokens false part with
    | [] => []
    | inner => .not :: Token.paren inner

/-- The tokens of every condition of a list that is not empty. -/
def partTokens (nested : Bool) : List (Condition α) → List (List (Token α))
  | [] => []
  | c :: cs => if c.isEmpty then partTokens nested cs else tokens nested c :: partTokens nested cs

end

/-- The tokens of the conditions of a clause. -/
def clauseTokens (cs : List (Condition α)) : List (Token α) :=
  match (cs.map (tokens false)).filter (!·.isEmpty) with
  | [] => []
  | first :: others => Token.join .and (first :: others.map Token.paren)

end Condition

end SqlCompose
