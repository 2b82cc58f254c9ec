import SqlCompose.DatePart
import SqlCompose.Lookup.Like

/-!
# Standard lookups

The lookups that every adapter begins with. Comparisons refuse null, for nothing compares with it;
`exact` and `isnull` ask for null by name. Dialects differ in how they match patterns with and
without regard to letter case. What is to hold of all standard lookups is to be shown for each kind of
them (`Lookup.standard_cases`).
-/

namespace SqlCompose.Lookup

/-- `field operator operand`, for a value other than null or a nested query. -/
def comparison (name operator : String) : Lookup :=
  fun ctx field comparand =>
    match comparand with
    | .value .null => .fail (.invalidOperand name .notScalarOrQuery)
    | .list _ => .fail (.invalidOperand name .notScalarOrQuery)
    | operand => .text (field ++ operator) ++ ctx.operand operand

/-- Equality; the null value asks whether the field is null. -/
def exact : Lookup :=
  fun ctx field comparand =>
    match comparand with
    | .value .null => .text (field ++ " IS NULL")
    | .list _ => .fail (.invalidOperand "exact" .listOfValues)
    | operand => .text (field ++ "=") ++ ctx.operand operand

/-- Membership. Nothing is a member of the empty list. -/
def oneOf : Lookup :=
  fun ctx field comparand =>
    match comparand with
    | .list [] => .text "0=1"
    | .value v => .text (field ++ " IN ") ++ (ctx.value v).paren
    | operand => .text (field ++ " IN ") ++ ctx.operand operand

/-- Whether the field is null, as a flag says. -/
def isNull : Lookup :=
  fun _ field comparand =>
    match comparand.value?.bind Value.bool? with
    | none => .fail (.invalidOperand "isnull" .notFlag)
    | some true => .text (field ++ " IS NULL")
    | some false => .text (field ++ " IS NOT NULL")

/-- Between two values, both included. -/
def range : Lookup :=
  fun ctx field comparand =>
    match comparand with
    | .list [low, high] =>
      .text (field ++ " BETWEEN ") ++ ctx.value low ++ .text " AND " ++ ctx.value high
    | _ => .fail (.invalidOperand "range" .notPair)

/-- A text at a place, with regard to letter case as far as the dialect offers it. -/
def matching (name : String) (kind : LikeMatch) : Lookup :=
  fun ctx field comparand =>
    match ctx.adapter.dialect with
    | .mySql => like name "LIKE BINARY" kind false ctx field comparand
    | _ => like name "LIKE" kind false ctx field comparand

/-- A text at a place, without regard to letter case. -/
def matchingAnyCase (name : String) (kind : LikeMatch) : Lookup :=
  fun ctx field comparand =>
    match ctx.adapter.dialect with
    | .postgreSql => like name "ILIKE" kind false ctx field comparand
    | _ => like name "LIKE" kind true ctx ("LOWER(" ++ field ++ ")") comparand

/-- A regular expression. -/
def regex : Lookup :=
  fun ctx field comparand =>
    match ctx.adapter.dialect with
    | .mySql => pattern "regex" "REGEXP BINARY" ctx field comparand
    | .postgreSql => pattern "regex" "~" ctx field comparand
    | .sqlite => pattern "regex" "REGEXP" ctx field comparand

/-- A regular expression without regard to letter case. -/
def regexAnyCase : Lookup :=
  fun ctx field comparand =>
    match ctx.adapter.dialect with
    | .mySql => pattern "iregex" "REGEXP" ctx field comparand
    | .postgreSql => pattern "iregex" "~*" ctx field comparand
    | .sqlite => patternAfter "(?i)" "iregex" "REGEXP" ctx field comparand

/-- Equality of a part of a date. -/
def datePart (part : DatePart) : Lookup :=
  fun ctx field comparand =>
    comparison part.lookupName "=" ctx (part.expression ctx.adapter.dialect field) comparand

/-- The standard lookups with their names. -/
def standardEntries : List (String × Lookup) := [
  ("exact", exact),
  ("gt", comparison "gt" ">"),
  ("gte", comparison "gte" ">="),
  ("lt", comparison "lt" "<"),
  ("lte", comparison "lte" "<="),
  ("in", oneOf),
  ("isnull", isNull),
  ("range", range),
  ("contains", matching "contains" .contains),
  ("icontains", matchingAnyCase "icontains" .contains),
  ("startswith", matching "startswith" .startsWith),
  ("istartswith", matchingAnyCase "istartswith" .startsWith),
  ("endswith", matching "endswith" .endsWith),
  ("iendswith", matchingAnyCase "iendswith" .endsWith),
  ("regex", regex),
  ("iregex", regexAnyCase)]
  ++ DatePart.all.map fun part => (part.lookupName, datePart part)

/-- The standard lookups. -/
def standard : Registry :=
  NameMap.ofList standardEntries

/-- What holds of every kind of lookup holds of the standard lookups. -/
theorem standard_cases {P : String → Lookup → Prop} (hexact : P "exact" exact)
    (hcomparison : ∀ name operator, operator ≠ "" → P name (comparison name operator))
    (honeOf : P "in" oneOf) (hisNull : P "isnull" isNull) (hrange : P "range" range)
    (hmatching : ∀ name kind, P name (matching name kind))
    (hmatchingAnyCase : ∀ name kind, P name (matchingAnyCase name kind))
    (hregex : P "regex" regex) (hregexAnyCase : P "iregex" regexAnyCase)
    (hdatePart : ∀ part : DatePart, P part.lookupName (datePart part)) {name : String} {l : Lookup}
    (h : standard.get? name = some l) : P name l := by
  obtain hmem | hmem := List.mem_append.1 (NameMap.mem_of_get?_ofList h)
  · simp only [List.mem_cons, List.not_mem_nil, or_false, Prod.mk.injEq] at hmem
    rcases hmem with ⟨rfl, rfl⟩ | ⟨rfl, rfl⟩ | ⟨rfl, rfl⟩ | ⟨rfl, rfl⟩ | ⟨rfl, rfl⟩ | ⟨rfl, rfl⟩ |
      ⟨rfl, rfl⟩ | ⟨rfl, rfl⟩ | hmem
    · exact hexact
    iterate 4 exact hcomparison _ _ (by decide)
    · exact honeOf
    · exact hisNull
    · exact hrange
    rcases hmem with ⟨rfl, rfl⟩ | ⟨rfl, rfl⟩ | ⟨rfl, rfl⟩ | ⟨rfl, rfl⟩ | ⟨rfl, rfl⟩ | ⟨rfl, rfl⟩ |
      ⟨rfl, rfl⟩ | ⟨rfl, rfl⟩
    · exact hmatching _ _
    · exact hmatchingAnyCase _ _
    · exact hmatching _ _
    · exact hmatchingAnyCase _ _
    · exact hmatching _ _
    · exact hmatchingAnyCase _ _
    · exact hregex
    · exact hregexAnyCase
  · obtain ⟨part, -, hpart⟩ := List.mem_map.1 hmem
    obtain ⟨rfl, rfl⟩ := Prod.mk.inj hpart
    exact hdatePart part

end SqlCompose.Lookup
