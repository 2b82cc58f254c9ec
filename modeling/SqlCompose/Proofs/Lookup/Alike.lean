import Mathlib.Data.List.Forall2
import SqlCompose.Lookup.Standard
import SqlCompose.Proofs.Rendering.Alike

/-!
# Lookups and the content of values

The standard lookups look at the kinds of values, and at how many there are, but not at what is in
them (`Lookup.standard_blind`). So comparands that differ in the content of their values only are
rendered alike. The one that does look is `isnull`, which asks a flag what to write.
-/

namespace SqlCompose

/-- The kinds of values. -/
inductive ValueKind where
  | null
  | bool
  | int
  | float
  | text
  | blob
  | date
  | dateTime
  deriving DecidableEq

namespace Value

/-- The kind of a value. -/
def kind : Value → ValueKind
  | .null => .null
  | .bool _ => .bool
  | .int _ => .int
  | .float _ => .float
  | .text _ => .text
  | .blob _ => .blob
  | .date _ => .date
  | .dateTime _ => .dateTime

/-- Null is the only value of its kind. -/
theorem null_or_ne_null {v v' : Value} (h : v.kind = v'.kind) :
    v = .null ∧ v' = .null ∨ v ≠ .null ∧ v' ≠ .null := by
  cases v <;> cases v' <;> simp [kind] at h ⊢

/-- Whether a value has a plain text is a matter of its kind. -/
theorem isSome_plain?_congr {v v' : Value} (h : v.kind = v'.kind) :
    v.plain?.isSome = v'.plain?.isSome := by
  cases v <;> cases v' <;> simp [kind, plain?] at h ⊢

end Value

/-- Comparands that are the same but for the content of their values. Of queries, what they are by
themselves is left open. -/
inductive Comparand.Alike : List Value → List Value → Comparand → Comparand → Prop
  | value {v v'} : v.kind = v'.kind → Alike [v] [v'] (.value v) (.value v')
  | list {vs vs'} : List.Forall₂ (·.kind = ·.kind) vs vs' → Alike vs vs' (.list vs) (.list vs')
  | query {us us' q q'} : Rendering.Alike us us' q.rendering q'.rendering →
      Alike us us' (.query q) (.query q')
  | raw (sql : String) : Alike [] [] (.raw sql) (.raw sql)

/-- Each value has a place, on both sides. -/
theorem Comparand.Alike.length_places {us us' : List Value} {c c' : Comparand}
    (h : Comparand.Alike us us' c c') : us.length = us'.length := by
  cases h with
  | value | raw => rfl
  | list h => exact h.length_eq
  | query h => exact h.length_places

namespace Lookup

/-- A lookup that does not look at the content of values. -/
structure Blind (l : Lookup) : Prop where
  alike (a : Adapter) (field : String) {us us' c c'} : Comparand.Alike us us' c c' →
    Rendering.Alike us us' (l a.context field c) (l a.context field c')

variable {a : Adapter} {us us' : List Value} {c c' : Comparand}

/-- Alike operands are written alike. -/
theorem operand_alike (a : Adapter) (h : Comparand.Alike us us' c c') :
    Rendering.Alike us us' (a.context.operand c) (a.context.operand c') := by
  cases h with
  | value => exact .value a id
  | list h => exact (Rendering.Alike.values a h.length_eq).paren
  | query h => exact h.paren
  | raw sql => exact (Rendering.Alike.text _).paren

/-- A value other than null is compared as an operand. -/
theorem comparison_of_ne_null {name operator field : String} {v : Value} (h : v ≠ .null) :
    comparison name operator a.context field (.value v) =
      .text (field ++ operator) ++ a.context.operand (.value v) := by
  cases v <;> first | rfl | contradiction

/-- A comparison asks for nothing but null, and for the form of its comparand. -/
theorem comparison_blind (name operator : String) : Blind (comparison name operator) := by
  refine ⟨fun a field us us' c c' h => ?_⟩
  have hoperand := (operand_alike a h).text_append (field ++ operator)
  cases h with
  | value hv =>
    obtain ⟨rfl, rfl⟩ | ⟨hnull, hnull'⟩ := Value.null_or_ne_null hv
    · exact .fail rfl _
    · rw [comparison_of_ne_null hnull, comparison_of_ne_null hnull']
      exact hoperand
  | list h => exact .fail h.length_eq _
  | query | raw => exact hoperand

/-- So is a value other than null whose equality is asked for. -/
theorem exact_of_ne_null {field : String} {v : Value} (h : v ≠ .null) :
    exact a.context field (.value v) = .text (field ++ "=") ++ a.context.operand (.value v) := by
  cases v <;> first | rfl | contradiction

/-- Equality asks for the same. -/
theorem exact_blind : Blind exact := by
  refine ⟨fun a field us us' c c' h => ?_⟩
  have hoperand := (operand_alike a h).text_append (field ++ "=")
  cases h with
  | value hv =>
    obtain ⟨rfl, rfl⟩ | ⟨hnull, hnull'⟩ := Value.null_or_ne_null hv
    · exact (Rendering.Alike.text (field ++ " IS NULL")).append_empty (by rfl)
    · rw [exact_of_ne_null hnull, exact_of_ne_null hnull']
      exact hoperand
  | list h => exact .fail h.length_eq _
  | query | raw => exact hoperand

/-- Of a list, only whether it is empty matters. -/
theorem oneOf_blind : Blind oneOf := by
  refine ⟨fun a field us us' c c' h => ?_⟩
  have hoperand := (operand_alike a h).text_append (field ++ " IN ")
  cases h with
  | value => exact (Rendering.Alike.value a id).paren.text_append _
  | query | raw => exact hoperand
  | list h =>
    cases h with
    | nil => exact .text "0=1"
    | cons => exact hoperand

/-- Of a list, only whether it is a pair matters. -/
theorem range_blind : Blind range := by
  refine ⟨fun a field us us' c c' h => ?_⟩
  cases h with
  | value => exact .fail (by rfl) _
  | query h => exact .fail h.length_places _
  | raw => exact .fail rfl _
  | list h =>
    have hlength := h.length_eq
    cases h with
    | nil => exact .fail hlength _
    | cons _ h =>
      cases h with
      | nil => exact .fail hlength _
      | cons _ h =>
        cases h with
        | nil =>
          exact (((Rendering.Alike.value a id).text_append _).append_text _).append (.value a id)
        | cons => exact .fail hlength _

/-- A lookup is blind that asks for the plain text of a single value, and only writes the value that
it makes of it. -/
theorem blind_of_plain {l : Lookup} {fault : QueryError} (value : String → Value)
    (write : LookupContext → String → Value → Rendering)
    (hl : ∀ ctx field c, l ctx field c =
      match c.value?.bind Value.plain? with
      | none => .fail fault
      | some text => write ctx field (value text))
    (hwrite : ∀ (a : Adapter) field {u u' v v' : Value}, (u = u' → v = v') →
      Rendering.Alike [u] [u'] (write a.context field v) (write a.context field v')) :
    Blind l := by
  refine ⟨fun a field us us' c c' h => ?_⟩
  rw [hl, hl]
  cases h with
  | list h => exact .fail h.length_eq _
  | query h => exact .fail h.length_places _
  | raw => exact .fail rfl _
  | @value v v' hv =>
    have hsome := Value.isSome_plain?_congr hv
    have hplain : v = v' → v.plain? = v'.plain? := congrArg Value.plain?
    simp only [Comparand.value?, Option.bind_some]
    cases htext : v.plain? <;> cases htext' : v'.plain? <;> rw [htext, htext'] at hsome hplain
    case none.none => exact .fail (by rfl) _
    case some.some => exact hwrite a field fun h => congrArg value (Option.some.inj (hplain h))
    all_goals cases hsome

/-- A pattern is made of the plain text. -/
theorem like_blind (name operator : String) (kind : LikeMatch) (lower : Bool) :
    Blind (like name operator kind lower) :=
  blind_of_plain (likePattern kind lower)
    (fun ctx lhs v => .text (lhs ++ " " ++ operator ++ " ") ++ ctx.value v
      ++ .text ctx.adapter.dialect.likeEscape)
    (fun _ _ _ => rfl)
    fun a _ _ _ _ _ h => ((Rendering.Alike.value a h).text_append _).append_text _

/-- So is a regular expression. -/
theorem patternAfter_blind (lead name operator : String) :
    Blind (patternAfter lead name operator) :=
  blind_of_plain (.text <| lead ++ ·)
    (fun ctx lhs v => .text (lhs ++ " " ++ operator ++ " ") ++ ctx.value v)
    (fun _ _ _ => rfl) fun a _ _ _ _ _ h => (Rendering.Alike.value a h).text_append _

/-- Which operator is written for a pattern is up to the dialect. -/
theorem matching_blind (name : String) (kind : LikeMatch) : Blind (matching name kind) := by
  refine ⟨fun a field us us' c c' h => ?_⟩
  unfold matching
  split <;> exact (like_blind _ _ _ _).alike a _ h

/-- Matching without regard to letter case looks at no value. -/
theorem matchingAnyCase_blind (name : String) (kind : LikeMatch) :
    Blind (matchingAnyCase name kind) := by
  refine ⟨fun a field us us' c c' h => ?_⟩
  unfold matchingAnyCase
  split <;> exact (like_blind _ _ _ _).alike a _ h

/-- Matching an expression looks at no value. -/
theorem regex_blind : Blind regex := by
  refine ⟨fun a field us us' c c' h => ?_⟩
  unfold regex
  split <;> exact (patternAfter_blind _ _ _).alike a _ h

/-- So does matching one without regard to letter case. -/
theorem regexAnyCase_blind : Blind regexAnyCase := by
  refine ⟨fun a field us us' c c' h => ?_⟩
  unfold regexAnyCase
  split <;> exact (patternAfter_blind _ _ _).alike a _ h

/-- Parts of dates are compared. -/
theorem datePart_blind (part : DatePart) : Blind (datePart part) :=
  ⟨fun a _ => (comparison_blind _ _).alike a _⟩

/-- All standard lookups are blind, except for the one that asks a flag. -/
theorem standard_blind {name : String} {l : Lookup} (h : standard.get? name = some l) :
    name = "isnull" ∧ l = isNull ∨ Blind l :=
  standard_cases (P := fun name l => name = "isnull" ∧ l = isNull ∨ Blind l) (.inr exact_blind)
    (fun name operator _ => .inr (comparison_blind name operator)) (.inr oneOf_blind)
    (.inl ⟨rfl, rfl⟩) (.inr range_blind) (fun name kind => .inr (matching_blind name kind))
    (fun name kind => .inr (matchingAnyCase_blind name kind)) (.inr regex_blind)
    (.inr regexAnyCase_blind) (fun part => .inr (datePart_blind part)) h

/-- What is asked of a flag depends on the flag only. -/
theorem isNull_alike {ctx : LookupContext} {field : String} (h : Comparand.Alike us us' c c')
    (hvalue : c.value? = c'.value?) :
    Rendering.Alike us us' (isNull ctx field c) (isNull ctx field c') := by
  have hsame : isNull ctx field c' = isNull ctx field c := by
    rw [isNull, isNull, hvalue]
  rw [hsame, isNull]
  split
  · exact .fail h.length_places _
  · exact (Rendering.Alike.text _).append_empty h.length_places
  · exact (Rendering.Alike.text _).append_empty h.length_places

end Lookup

end SqlCompose
