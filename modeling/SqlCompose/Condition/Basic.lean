import SqlCompose.Text.Blank

/-!
# Conditions

A condition is a tree of conjunctions, disjunctions and negations over leaves, whatever the leaves
are, and over stretches of raw SQL. Groups may be empty; a condition in which nothing is left to
write is empty as a whole (`Condition.isEmpty`).
-/

namespace SqlCompose

/-- A boolean condition over leaves in `α`. -/
inductive Condition (α : Type) where
  | leaf (a : α)
  /-- Raw SQL, which may hold placeholders. -/
  | raw (sql : String)
  /-- All parts hold. -/
  | all (parts : List (Condition α))
  /-- At least one of the parts holds. -/
  | any (parts : List (Condition α))
  /-- The part does not hold. -/
  | not (part : Condition α)

namespace Condition

variable {α : Type}

mutual

/-- Whether there is nothing to write: no leaf and no raw SQL but blanks. -/
def isEmpty : Condition α → Bool
  | leaf _ => false
  | raw sql => Text.isBlankText sql
  | all parts => areEmpty parts
  | any parts => areEmpty parts
  | not part => part.isEmpty

/-- `isEmpty` of every condition of a list. -/
def areEmpty : List (Condition α) → Bool
  | [] => true
  | c :: cs => c.isEmpty && areEmpty cs

end

/-- The number of conditions that are not empty. -/
def liveCount (cs : List (Condition α)) : Nat :=
  cs.countP fun c => !c.isEmpty

/-- Both hold. A conjunction on either side takes the other one in, instead of being nested. -/
def and : Condition α → Condition α → Condition α
  | all left, all right => all (left ++ right)
  | all left, right => all (left ++ [right])
  | left, all right => all (left :: right)
  | left, right => all [left, right]

/-- At least one holds. A disjunction on either side takes the other one in, instead of being
nested. -/
def or : Condition α → Condition α → Condition α
  | any left, any right => any (left ++ right)
  | any left, right => any (left ++ [right])
  | left, any right => any (left :: right)
  | left, right => any [left, right]

/-- Not all of the conditions hold. -/
def notAll (cs : List (Condition α)) : Condition α := not (all cs)

/-- None of the conditions holds. -/
def notAny (cs : List (Condition α)) : Condition α := not (any cs)

end Condition

end SqlCompose
