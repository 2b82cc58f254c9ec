import SqlCompose.Proofs.Literal.Null
import SqlCompose.Proofs.Rendering.Writing
import SqlCompose.Query.Render

/-!
# Comparisons with one value

Of the lookups that compare with one value, equality asks for null by name and the others refuse it, so
a comparison with null, which never holds, is not written for null. What is written for any other value
is a comparison with its literal, or with a parameter that has this value (`ScalarLookup.Compares`). But
numbers that are not finite have no literal and are written as null: these are the values for which
the comparison with a literal is one with null (`Test.compares_iff`, `Test.rendering_nan`).
-/

namespace SqlCompose

/-- The lookups that compare a field, or a part of it, with one value. -/
inductive ScalarLookup where
  | exact
  | gt
  | gte
  | lt
  | lte
  | part (p : DatePart)
  deriving DecidableEq

namespace ScalarLookup

/-- The name of the lookup. -/
def name : ScalarLookup → String
  | .exact => "exact"
  | .gt => "gt"
  | .gte => "gte"
  | .lt => "lt"
  | .lte => "lte"
  | .part p => p.lookupName

/-- The sign of the comparison. -/
def sign : ScalarLookup → String
  | .exact | .part _ => "="
  | .gt => ">"
  | .gte => ">="
  | .lt => "<"
  | .lte => "<="

/-- What is compared: the field itself or a part of its date. -/
def subject (l : ScalarLookup) (d : Dialect) (field : String) : String :=
  match l with
  | .part p => p.expression d field
  | _ => field

/-- What becomes of the comparison with a value. -/
def rendering (l : ScalarLookup) (ctx : LookupContext) (field : String) (v : Value) : Rendering :=
  if v ≠ .null then .text (l.subject ctx.adapter.dialect field ++ l.sign) ++ ctx.value v
  else if l = .exact then .text (field ++ " IS NULL")
  else .fail (.invalidOperand l.name .notScalarOrQuery)

/-- Each of them is a standard lookup, and compares so. -/
theorem exists_lookup (l : ScalarLookup) : ∃ lookup : Lookup,
    Lookup.standard.get? l.name = some lookup ∧
      ∀ ctx field v, lookup ctx field (.value v) = l.rendering ctx field v := by
  cases l with
  | exact =>
    refine ⟨Lookup.exact, rfl, fun ctx field v => ?_⟩
    cases v <;> rfl
  | part p =>
    refine ⟨Lookup.datePart p, by cases p <;> rfl, fun ctx field v => ?_⟩
    cases v <;> rfl
  | gt | gte | lt | lte =>
    refine ⟨Lookup.comparison _ _, rfl, fun ctx field v => ?_⟩
    cases v <;> rfl

/-- The text in front of what is compared with. -/
def lead (l : ScalarLookup) (a : Adapter) (field : String) : String :=
  l.subject a.dialect (a.quoteColumn field) ++ l.sign

/-- What a comparison with a value may be: null is refused or asked for by name, and any other value is
compared with, by its literal, which is not null, or by a parameter. -/
inductive Compares (l : ScalarLookup) (a : Adapter) (field : String) (v : Value) (r : Rendering) :
    Prop
  | refused (fault : OperandFault) : v = .null →
      r.inlineText = .error (.invalidOperand l.name fault) →
      r.boundText = .error (.invalidOperand l.name fault) → Compares l a field v r
  | isNull : v = .null → r.inlineText = .ok (a.quoteColumn field ++ " IS NULL") →
      r.boundText = .ok (a.quoteColumn field ++ " IS NULL", []) → Compares l a field v r
  | literal {s : String} : s ≠ "NULL" → s = a.quoteValue v →
      r.inlineText = .ok (l.lead a field ++ s) →
      r.boundText = .ok (l.lead a field ++ a.dialect.placeholder 1, [v]) → Compares l a field v r

end ScalarLookup

namespace Rendering

/-- A value behind a text is written with literals as its literal. -/
theorem inlineText_text_value (a : Adapter) (s : String) (v : Value) :
    (text s ++ a.value v).inlineText = .ok (s ++ a.quoteValue v) :=
  congrArg Prod.fst (write_text_append_eq s (a.value v) .inline)

/-- With placeholders it is written as the first of them. -/
theorem boundText_text_value (a : Adapter) (s : String) (v : Value) :
    (text s ++ a.value v).boundText = .ok (s ++ a.dialect.placeholder 1, [v]) :=
  boundText_of_ok (write_text_append_eq s (a.value v) .bound)

end Rendering

namespace Test

open ScalarLookup (Compares)

variable {a : Adapter} {l : ScalarLookup} {field : String} {operator : Option String} {v : Value}

/-- A leaf that names one of these lookups is written as it says. -/
theorem rendering_scalar (ha : a.lookups = Lookup.standard)
    (hname : operator.getD Lookup.defaultName = l.name) :
    rendering a ⟨field, operator, .value v⟩ = l.rendering a.context (a.quoteColumn field) v := by
  obtain ⟨lookup, hlookup, hrendering⟩ := l.exists_lookup
  simp only [rendering, hname, ha, hlookup]
  exact hrendering ..

/-- A leaf is refused, asks for null by name or compares with a literal other than null, which is the
literal of the value that a parameter stands for, just if its value is null or has a literal. -/
theorem compares_iff (ha : a.lookups = Lookup.standard) (hquote : a.QuotesStrings)
    (hname : operator.getD Lookup.defaultName = l.name) :
    Compares l a field v (rendering a ⟨field, operator, .value v⟩) ↔
      v = .null ∨ v.hasLiteral = true := by
  rw [rendering_scalar ha hname, ScalarLookup.rendering]
  by_cases hv : v = .null
  · refine iff_of_true ?_ (.inl hv)
    rw [if_neg (not_not_intro hv)]
    split
    · exact .isNull hv rfl rfl
    · exact .refused _ hv rfl rfl
  · rw [if_pos hv, or_iff_right hv]
    constructor
    · intro h
      cases h with
      | refused _ hnull => exact absurd hnull hv
      | isNull hnull => exact absurd hnull hv
      | literal hs heq =>
        rw [← Bool.not_eq_false, ← Adapter.quoteValue_eq_null_iff hquote, ← heq]
        exact hs
    · intro h
      refine .literal ?_ rfl (Rendering.inlineText_text_value ..) (Rendering.boundText_text_value ..)
      rw [ne_eq, Adapter.quoteValue_eq_null_iff hquote, h]
      exact nofun

/-- Of a field with the number one, under the lookup for leaves that name none. -/
theorem compares_iff_default :
    let a := Adapter.ofDialect .mySql "" none
    let one := Value.float ⟨0x3ff0000000000000⟩
    Compares .exact a "a" one (rendering a ⟨"a", none, .value one⟩) :=
  (compares_iff rfl (Adapter.quotesStrings_of_driver_eq_none rfl) rfl).2 (.inr (by decide))

/-- A NaN is compared with as null if it is written, and as a NaN if it is a parameter. -/
theorem rendering_nan :
    let a := Adapter.ofDialect .sqlite "" none
    let nan := Value.float ⟨0x7ff8000000000000⟩
    let r := rendering a ⟨"a", some "gt", .value nan⟩
    r.inlineText = .ok "`a`>NULL" ∧ r.boundText = .ok ("`a`>?", [nan]) ∧
      ¬ Compares .gt a "a" nan r := by
  intro a nan r
  have hinline : r.inlineText = .ok "`a`>NULL" := rfl
  have hnull : a.quoteValue nan = "NULL" := by decide
  refine ⟨hinline, rfl, fun h => ?_⟩
  cases h with
  | refused _ hvalue => exact absurd hvalue (by decide)
  | isNull hvalue => exact absurd hvalue (by decide)
  | literal hs heq => exact hs (heq.trans hnull)

end Test

end SqlCompose
