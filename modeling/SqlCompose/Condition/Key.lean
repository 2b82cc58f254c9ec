/-!
# Keys

A key names a field and, behind the last pair of underscores, possibly a lookup: `id__in`. Where
nothing stands before or behind that pair, the whole key is the field.
-/

namespace SqlCompose

/-- What stands before and behind the last pair of underscores. -/
def splitLastPair? : List Char → Option (List Char × List Char)
  | [] => none
  | c :: cs =>
    match splitLastPair? cs with
    | some (before, behind) => some (c :: before, behind)
    | none =>
      match c, cs with
      | '_', '_' :: behind => some ([], behind)
      | _, _ => none

/-- A field with the name of a lookup, if one is named. -/
structure Key where
  field : String
  operator : Option String
  deriving DecidableEq

/-- Reads a key. -/
def Key.parse (key : String) : Key :=
  match splitLastPair? key.toList with
  | some (field, operator) =>
    if field.isEmpty || operator.isEmpty then ⟨key, none⟩
    else ⟨String.ofList field, some (String.ofList operator)⟩
  | none => ⟨key, none⟩

example : Key.parse "user__name__contains" = ⟨"user__name", some "contains"⟩ := by decide
example : Key.parse "a___b" = ⟨"a_", some "b"⟩ := by decide
example : Key.parse "__b" = ⟨"__b", none⟩ := by decide

end SqlCompose
