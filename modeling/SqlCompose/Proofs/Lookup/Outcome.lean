import SqlCompose.Proofs.Rendering.Writing
import SqlCompose.Query.Render

/-!
# What becomes of a comparison

Every standard lookup refuses what it is given, or it writes some text in front of the rest, and the
rest fails only where it is a nested query (`Lookup.standard_outcome`). So none of them writes the
empty text (`Lookup.standard_neverEmpty`), and a comparison that cannot be written has bound nothing,
unless a query in it had bound values before it failed (`Test.write_of_failure`).

Lookups that are added to the standard ones may be anything. That none of them writes the empty text
is what has to be known of them where a condition is read (`Registry.NeverEmpty`): its words and
parentheses are there for the comparisons between them.
-/

namespace SqlCompose

/-- A value can always be written. -/
theorem Adapter.neverFails_value (a : Adapter) (v : Value) : (a.value v).NeverFails :=
  fun p => ⟨(p.write a v).1, (p.write a v).2, rfl⟩

/-- So can any number of values. -/
theorem Adapter.neverFails_values (a : Adapter) (vs : List Value) : (a.values vs).NeverFails :=
  Rendering.neverFails_joinWith ", " (List.forall_mem_map.2 fun v _ => a.neverFails_value v)

/-- None of the lookups writes the empty text. -/
def Registry.NeverEmpty (r : Registry) : Prop :=
  ∀ name (l : Lookup), r.get? name = some l →
    ∀ (a : Adapter) field c, (l a.context field c).NeverEmpty

namespace Lookup

/-- What a lookup makes of a comparand: it is refused, or there is text in front of a rest that
fails only where it is a nested query. -/
inductive Outcome (c : Comparand) : Rendering → Prop
  | refused (e : QueryError) : Outcome c (.fail e)
  | written {s : String} {r : Rendering} : s ≠ "" →
      r.NeverFails ∨ (∃ q, c = .query q ∧ r = q.rendering.paren) → Outcome c (.text s ++ r)

/-- What is refused has no text, and any other text begins with the lookup's own words. -/
theorem Outcome.neverEmpty {c : Comparand} {r : Rendering} (h : Outcome c r) : r.NeverEmpty := by
  cases h with
  | refused e => exact Rendering.neverEmpty_fail e
  | written hs => exact (Rendering.neverEmpty_text hs).append _

/-- Words behind a field are not empty. -/
theorem append_ne_empty (field : String) {s : String} (h : s ≠ "") : field ++ s ≠ "" :=
  fun happend => h (String.append_eq_empty_iff.1 happend).2

variable {a : Adapter} {field : String} {c : Comparand}

/-- A text alone is a text in front of nothing. -/
theorem Outcome.text {s : String} (h : s ≠ "") : Outcome c (.text s) := by
  have hwritten : Outcome c (.text s ++ .empty) := .written h (.inl (Rendering.neverFails_text ""))
  rwa [Rendering.append_empty] at hwritten

/-- An operand fails only if it is a nested query. -/
theorem neverFails_operand_or (a : Adapter) (c : Comparand) :
    (a.context.operand c).NeverFails ∨
      ∃ q, c = .query q ∧ a.context.operand c = q.rendering.paren := by
  cases c with
  | value v => exact .inl (a.neverFails_value v)
  | list vs => exact .inl (a.neverFails_values vs).paren
  | query q => exact .inr ⟨q, rfl, rfl⟩
  | raw sql => exact .inl (Rendering.neverFails_text _).paren

/-- A comparison writes the field and its operator. -/
theorem comparison_outcome (name : String) {operator : String} (h : operator ≠ "") :
    Outcome c (comparison name operator a.context field c) := by
  unfold comparison
  split
  · exact .refused _
  · exact .refused _
  · exact .written (append_ne_empty field h) (neverFails_operand_or a c)

/-- An equality writes the field and an equals sign, or a test for null. -/
theorem exact_outcome : Outcome c (exact a.context field c) := by
  unfold exact
  split
  · exact .text (append_ne_empty field (by decide))
  · exact .refused _
  · exact .written (append_ne_empty field (by decide)) (neverFails_operand_or a c)

/-- Membership writes the field and the list, or a contradiction where the list is empty. -/
theorem oneOf_outcome : Outcome c (oneOf a.context field c) := by
  unfold oneOf
  split
  · exact .text (by decide)
  · exact .written (append_ne_empty field (by decide)) (.inl (a.neverFails_value _).paren)
  · exact .written (append_ne_empty field (by decide)) (neverFails_operand_or a c)

/-- A test for null writes the field and the test. -/
theorem isNull_outcome : Outcome c (isNull a.context field c) := by
  unfold isNull
  split
  · exact .refused _
  · exact .text (append_ne_empty field (by decide))
  · exact .text (append_ne_empty field (by decide))

/-- A range writes the field and its two ends. -/
theorem range_outcome : Outcome c (range a.context field c) := by
  unfold range
  split
  · next low high =>
    rw [Rendering.append_assoc, Rendering.append_assoc]
    exact .written (append_ne_empty field (by decide)) (.inl ((a.neverFails_value low).append
      ((Rendering.neverFails_text _).append (a.neverFails_value high))))
  · exact .refused _

/-- A search for a text writes the field and a pattern with its escape. -/
theorem like_outcome (name operator : String) (kind : LikeMatch) (lower : Bool) :
    Outcome c (like name operator kind lower a.context field c) := by
  unfold like
  split
  · exact .refused _
  · rw [Rendering.append_assoc]
    exact .written (append_ne_empty _ (by decide))
      (.inl ((a.neverFails_value _).append (Rendering.neverFails_text _)))

/-- An expression is written behind the field and the keyword for it. -/
theorem patternAfter_outcome (lead name operator : String) :
    Outcome c (patternAfter lead name operator a.context field c) := by
  unfold patternAfter
  split
  · exact .refused _
  · exact .written (append_ne_empty _ (by decide)) (.inl (a.neverFails_value _))

/-- A standard lookup refuses what it is given, or it writes text in front of what it is given. -/
theorem standard_outcome {name : String} {l : Lookup} (h : standard.get? name = some l)
    (a : Adapter) (field : String) (c : Comparand) : Outcome c (l a.context field c) := by
  refine standard_cases (P := fun _ l => Outcome c (l a.context field c)) exact_outcome
    (fun name _ hne => comparison_outcome name hne) oneOf_outcome isNull_outcome range_outcome
    ?matching ?matchingAnyCase ?regex ?regexAnyCase
    (fun part => comparison_outcome part.lookupName (by decide)) h
  case matching =>
    intro name kind
    unfold matching
    split <;> exact like_outcome ..
  case matchingAnyCase =>
    intro name kind
    unfold matchingAnyCase
    split <;> exact like_outcome ..
  case regex =>
    unfold regex pattern
    split <;> exact patternAfter_outcome ..
  case regexAnyCase =>
    unfold regexAnyCase pattern
    split <;> exact patternAfter_outcome ..

/-- No standard lookup writes the empty text. -/
theorem standard_neverEmpty : standard.NeverEmpty :=
  fun _ _ h a field c => (standard_outcome h a field c).neverEmpty

end Lookup

/-- An adapter with the standard lookups never writes the empty text for a comparison. -/
theorem Adapter.neverEmpty_of_standard {a : Adapter} (ha : a.lookups = Lookup.standard) :
    a.lookups.NeverEmpty :=
  ha ▸ Lookup.standard_neverEmpty

/-! ## Comparisons -/

namespace Test

variable {a : Adapter} {p p' : Parameters} {e : QueryError}

/-- Where no lookup writes the empty text, no comparison is written so. -/
theorem neverEmpty_rendering (ha : a.lookups.NeverEmpty) (t : Test) : (t.rendering a).NeverEmpty := by
  obtain ⟨field, operator, operand⟩ := t
  rw [Test.rendering]
  split
  · exact Rendering.neverEmpty_fail _
  · next hl => exact ha _ _ hl a _ _

/-- Every comparison of the standard lookups has the outcome that its operand says. -/
theorem rendering_outcome (ha : a.lookups = Lookup.standard) (t : Test) :
    Lookup.Outcome (t.operand.comparand a) (t.rendering a) := by
  obtain ⟨field, operator, operand⟩ := t
  rw [Test.rendering, ha]
  split
  · exact .refused _
  · next hl => exact Lookup.standard_outcome hl _ _ _

/-- A comparison that fails has bound nothing, unless it fails with a query in it; then it has bound
what that query has bound. -/
theorem write_of_failure (ha : a.lookups = Lookup.standard) {t : Test}
    (h : (t.rendering a).write p = (.error e, p')) :
    p' = p ∨ ∃ q, t.operand = .query q ∧ (q.rendering a).write p = (.error e, p') := by
  obtain ⟨field, operator, operand⟩ := t
  have houtcome := Test.rendering_outcome ha ⟨field, operator, operand⟩
  generalize Test.rendering a ⟨field, operator, operand⟩ = r at h houtcome
  cases houtcome with
  | refused =>
    cases h
    exact .inl rfl
  | @written s r hs hr =>
    rw [Rendering.write_text_append_eq, Prod.mk.injEq] at h
    obtain ⟨htext, rfl⟩ := h
    obtain hr | ⟨n, hn, rfl⟩ := hr
    · obtain ⟨text, p₁, htext'⟩ := hr p
      rw [htext'] at htext
      cases htext
    · cases operand with
      | value | list | raw =>
        rw [Operand.comparand] at hn
        cases hn
      | query q =>
        rw [Operand.comparand] at hn
        cases hn
        refine .inr ⟨q, rfl, ?_⟩
        rw [Rendering.paren, Rendering.write_append_text_eq, Rendering.write_text_append_eq] at *
        dsimp only at *
        rcases hq : (q.rendering a).write p with ⟨_ | text, p₁⟩
        · rw [hq] at htext
          cases htext
          rfl
        · rw [hq] at htext
          cases htext

end Test

end SqlCompose
