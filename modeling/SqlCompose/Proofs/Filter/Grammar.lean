import Mathlib.Data.List.Forall2
import SqlCompose.Query.Filter

/-!
# The grammar of filter documents

A filter is a record whose fields are operands, that is scalars or lists of scalars, or a list of
filters (`Document.IsFilter`). So a list means two things: a list of filters in the place of a filter,
and a list of values under a key. A document that is no filter has a first place, in document order,
that does not fit in (`Document.FirstFault`).

Reading accepts just the filters (`Condition.accepted_iff`), and fails with the fault at the first
place that does not fit in (`Condition.ofDocument_eq_error_iff`).
-/

namespace SqlCompose

/-! ## Lists that are read in order -/

section Lists

variable {α β ε : Type} {f : α → Except ε β}

/-- What succeeds after a function was applied did so before. -/
theorem exists_of_map_eq_ok {g : α → β} {x : Except ε α} {b : β} (h : x.map g = .ok b) :
    ∃ a, x = .ok a ∧ b = g a := by
  cases x with
  | error e => cases h
  | ok a =>
    cases h
    exact ⟨a, rfl, rfl⟩

/-- A list succeeds just if each of its members does. -/
theorem mapM_eq_ok_iff {as : List α} {bs : List β} :
    as.mapM f = .ok bs ↔ List.Forall₂ (fun a b => f a = .ok b) as bs := by
  constructor
  · intro h
    induction as generalizing bs with
    | nil =>
      cases h
      exact .nil
    | cons a as ih =>
      rw [List.mapM_cons] at h
      cases hfirst : f a with
      | error e =>
        rw [hfirst] at h
        cases h
      | ok b =>
        rw [hfirst] at h
        cases hrest : as.mapM f with
        | error e =>
          rw [hrest] at h
          cases h
        | ok bs =>
          rw [hrest] at h
          cases h
          exact .cons hfirst (ih hrest)
  · intro h
    induction h with
    | nil => rfl
    | cons hfirst _ ih =>
      rw [List.mapM_cons, hfirst, ih]
      rfl

/-- The first element that fails decides, whatever follows it. -/
theorem mapM_eq_error {before after : List α} {a : α} {e : ε}
    (hbefore : ∀ b ∈ before, ∃ c, f b = .ok c) (ha : f a = .error e) :
    (before ++ a :: after).mapM f = .error e := by
  induction before with
  | nil =>
    rw [List.nil_append, List.mapM_cons, ha]
    rfl
  | cons b rest ih =>
    obtain ⟨c, hc⟩ := hbefore b List.mem_cons_self
    rw [List.cons_append, List.mapM_cons, hc, ih fun b hb => hbefore b (List.mem_cons_of_mem _ hb)]
    rfl

/-- Where each member has a partner, there is a list of partners. -/
theorem exists_forall₂ {r : α → β → Prop} {as : List α} (h : ∀ a ∈ as, ∃ b, r a b) :
    ∃ bs, List.Forall₂ r as bs := by
  induction as with
  | nil => exact ⟨[], .nil⟩
  | cons a as ih =>
    obtain ⟨b, hb⟩ := h a List.mem_cons_self
    obtain ⟨bs, hbs⟩ := ih fun a ha => h a (List.mem_cons_of_mem _ ha)
    exact ⟨b :: bs, .cons hb hbs⟩

/-- Either all elements have a property, or there is a first one that does not have it. -/
theorem forall_or_first (p : α → Prop) (as : List α) :
    (∀ a ∈ as, p a) ∨
      ∃ before a after, as = before ++ a :: after ∧ (∀ b ∈ before, p b) ∧ ¬ p a := by
  induction as with
  | nil => exact .inl nofun
  | cons a as ih =>
    by_cases ha : p a
    · rcases ih with hall | ⟨before, b, after, rfl, hbefore, hb⟩
      · exact .inl (List.forall_mem_cons.2 ⟨ha, hall⟩)
      · exact .inr ⟨a :: before, b, after, rfl, List.forall_mem_cons.2 ⟨ha, hbefore⟩, hb⟩
    · exact .inr ⟨[], a, as, rfl, nofun, ha⟩

end Lists

/-! ## The grammar -/

namespace Document

/-- A document without parts. -/
def IsScalar : Document → Prop
  | .null | .bool _ | .integer _ | .float _ | .text _ => True
  | .list _ | .record _ => False

/-- A scalar or a list of scalars. -/
def IsOperand : Document → Prop
  | .list items => ∀ d ∈ items, d.IsScalar
  | d => d.IsScalar

/-- An operand that is no list is a scalar. -/
theorem isOperand_eq {d : Document} (h : ∀ items, d ≠ .list items) :
    d.IsOperand = d.IsScalar := by
  cases d with
  | list items => exact absurd rfl (h items)
  | null | bool | integer | float | text | record => rfl

/-- A record of operands, or a list of filters. -/
inductive IsFilter : Document → Prop
  | record {fields : List (String × Document)} :
      (∀ e ∈ fields, e.2.IsOperand) → IsFilter (.record fields)
  | list {items : List Document} : (∀ d ∈ items, IsFilter d) → IsFilter (.list items)

/-- The fault at the first place where a document is no filter. -/
inductive FirstFault : Document → FilterFault → Prop
  /-- A scalar in the place of a filter. -/
  | scalar {d : Document} : d.IsScalar → FirstFault d (.notAGroup d.compact)
  /-- A field that is no operand, behind fields that are. -/
  | field {before after : List (String × Document)} {key : String} {d : Document} :
      (∀ e ∈ before, e.2.IsOperand) → ¬ d.IsOperand →
      FirstFault (.record (before ++ (key, d) :: after)) (.nestedValue key)
  /-- The first fault of an item, behind items that are filters. -/
  | item {before after : List Document} {d : Document} {fault : FilterFault} :
      (∀ e ∈ before, e.IsFilter) → FirstFault d fault →
      FirstFault (.list (before ++ d :: after)) fault

/-- A document that is no filter has a first fault. -/
theorem isFilter_or_firstFault : ∀ d : Document, d.IsFilter ∨ ∃ fault, FirstFault d fault
  | .null => .inr ⟨_, .scalar trivial⟩
  | .bool _ => .inr ⟨_, .scalar trivial⟩
  | .integer _ => .inr ⟨_, .scalar trivial⟩
  | .float _ => .inr ⟨_, .scalar trivial⟩
  | .text _ => .inr ⟨_, .scalar trivial⟩
  | .record fields => by
    rcases forall_or_first (fun e => e.2.IsOperand) fields with
      hall | ⟨before, ⟨key, d⟩, after, rfl, hbefore, hd⟩
    · exact .inl (.record hall)
    · exact .inr ⟨_, .field hbefore hd⟩
  | .list items => by
    rcases forall_or_first IsFilter items with hall | ⟨before, d, after, hitems, hbefore, hd⟩
    · exact .inl (.list hall)
    · have hmem : d ∈ items := hitems ▸ List.mem_append_right _ List.mem_cons_self
      obtain ⟨fault, hfault⟩ := (isFilter_or_firstFault d).resolve_left hd
      exact .inr ⟨fault, hitems ▸ .item hbefore hfault⟩

end Document

/-! ## What is read -/

namespace Filter

open Document

variable {key : String} {d : Document}

/-- Every scalar stands for a value. -/
theorem exists_scalar (h : d.IsScalar) : ∃ v, scalar key d = .ok v := by
  cases d with
  | integer n =>
    rw [scalar]
    split <;> exact ⟨_, rfl⟩
  | null | bool | float | text => exact ⟨_, rfl⟩
  | list | record => exact h.elim

/-- Anything else in the place of a scalar is refused, with the key of its field. -/
theorem scalar_eq_error (h : ¬ d.IsScalar) :
    scalar key d = .error (.invalidFilter (.nestedValue key)) := by
  cases d with
  | null | bool | integer | float | text => exact absurd trivial h
  | list | record => rfl

/-- A list is an operand if its members are scalars. -/
theorem operand_list (items : List Document) :
    operand key (.list items) = (items.mapM (scalar key)).map .list :=
  rfl

/-- An operand that is no list is a scalar. -/
theorem operand_eq (h : ∀ items, d ≠ .list items) : operand key d = (scalar key d).map .value := by
  cases d with
  | list items => exact absurd rfl (h items)
  | null | bool | integer | float | text | record => rfl

/-- Every operand is accepted. -/
theorem exists_operand (h : d.IsOperand) : ∃ o, operand key d = .ok o := by
  by_cases hlist : ∃ items, d = .list items
  · obtain ⟨items, rfl⟩ := hlist
    have hitems : ∀ e ∈ items, ∃ v, scalar key e = .ok v := fun e he => exists_scalar (h e he)
    obtain ⟨vs, hvs⟩ := exists_forall₂ hitems
    exact ⟨.list vs, by rw [operand_list, mapM_eq_ok_iff.2 hvs]; rfl⟩
  · rw [isOperand_eq (not_exists.1 hlist)] at h
    obtain ⟨v, hv⟩ : ∃ v, scalar key d = .ok v := exists_scalar h
    exact ⟨.value v, by rw [operand_eq (not_exists.1 hlist), hv]; rfl⟩

/-- Anything else is refused, with the key of its field. -/
theorem operand_eq_error (h : ¬ d.IsOperand) :
    operand key d = .error (.invalidFilter (.nestedValue key)) := by
  by_cases hlist : ∃ items, d = .list items
  · obtain ⟨items, rfl⟩ := hlist
    obtain ⟨before, e, after, rfl, hbefore, he⟩ :=
      (forall_or_first IsScalar items).resolve_left h
    rw [operand_list, mapM_eq_error (fun b hb => exists_scalar (hbefore b hb)) (scalar_eq_error he)]
    rfl
  · rw [isOperand_eq (not_exists.1 hlist)] at h
    rw [operand_eq (not_exists.1 hlist), scalar_eq_error h]
    rfl

/-- A field with an operand is accepted. -/
theorem exists_test (h : d.IsOperand) : ∃ c, test key d = .ok c := by
  obtain ⟨o, ho⟩ : ∃ o, operand key d = .ok o := exists_operand h
  exact ⟨.leaf (Test.ofKey key o), by rw [test, ho]; rfl⟩

/-- A field with anything else is refused, under its key. -/
theorem test_eq_error (h : ¬ d.IsOperand) :
    test key d = .error (.invalidFilter (.nestedValue key)) := by
  rw [test, operand_eq_error h]
  rfl

end Filter

namespace Condition

open Document

variable {d : Document}

/-- Documents are read one after the other, up to the first that is refused. -/
theorem ofDocuments_eq_mapM (items : List Document) :
    ofDocuments items = items.mapM ofDocument := by
  induction items with
  | nil => rfl
  | cons d items ih =>
    rw [ofDocuments, List.mapM_cons, ih]
    rfl

/-- A list is the conjunction of its members. -/
theorem ofDocument_list (items : List Document) :
    ofDocument (.list items) = (items.mapM ofDocument).map .all := by
  rw [ofDocument, ofDocuments_eq_mapM]

/-- A record is the conjunction of its fields. -/
theorem ofDocument_record (fields : List (String × Document)) :
    ofDocument (.record fields) = (fields.mapM fun e => Filter.test e.1 e.2).map .all := by
  rw [ofDocument]

/-- A scalar alone is no filter, and is shown in the error. -/
theorem ofDocument_scalar (h : d.IsScalar) :
    ofDocument d = .error (.invalidFilter (.notAGroup d.compact)) := by
  cases d with
  | null | bool | integer | float | text => rw [ofDocument]
  | list | record => exact h.elim

/-- Every filter is accepted. -/
theorem exists_ofDocument (h : d.IsFilter) : ∃ c, ofDocument d = .ok c := by
  induction h with
  | record hfields =>
    obtain ⟨parts, hparts⟩ := exists_forall₂ fun e he => Filter.exists_test (hfields e he)
    exact ⟨.all parts, by rw [ofDocument_record, mapM_eq_ok_iff.2 hparts]; rfl⟩
  | list _ ih =>
    obtain ⟨parts, hparts⟩ := exists_forall₂ ih
    exact ⟨.all parts, by rw [ofDocument_list, mapM_eq_ok_iff.2 hparts]; rfl⟩

/-- A document with a fault is refused with its first fault. -/
theorem ofDocument_of_firstFault {fault : FilterFault} (h : FirstFault d fault) :
    ofDocument d = .error (.invalidFilter fault) := by
  induction h with
  | scalar h => exact ofDocument_scalar h
  | field hbefore hd =>
    rw [ofDocument_record, mapM_eq_error (fun b hb => Filter.exists_test (hbefore b hb))
      (Filter.test_eq_error hd)]
    rfl
  | item hbefore _ ih =>
    rw [ofDocument_list, mapM_eq_error (fun b hb => exists_ofDocument (hbefore b hb)) ih]
    rfl

/-- Just the filters are accepted. -/
theorem accepted_iff : (∃ c, ofDocument d = .ok c) ↔ d.IsFilter := by
  refine ⟨fun ⟨c, hc⟩ => ?_, exists_ofDocument⟩
  rcases isFilter_or_firstFault d with hfilter | ⟨fault, hfault⟩
  · exact hfilter
  · rw [ofDocument_of_firstFault hfault] at hc
    cases hc

/-- A document is refused just with its first fault. -/
theorem ofDocument_eq_error_iff {e : QueryError} :
    ofDocument d = .error e ↔ ∃ fault, FirstFault d fault ∧ e = .invalidFilter fault := by
  constructor
  · intro he
    rcases isFilter_or_firstFault d with hfilter | ⟨fault, hfault⟩
    · obtain ⟨c, hc⟩ := exists_ofDocument hfilter
      rw [he] at hc
      cases hc
    · rw [ofDocument_of_firstFault hfault] at he
      cases he
      exact ⟨fault, hfault, rfl⟩
  · rintro ⟨fault, hfault, rfl⟩
    exact ofDocument_of_firstFault hfault

end Condition

end SqlCompose
