import SqlCompose.Proofs.Filter.Grammar
import SqlCompose.Proofs.Query.Alike

/-!
# Whole numbers in filter documents

The whole numbers of a filter document that fit a signed word of 64 bits come out of it unchanged and
in their order; the others do not come out as whole numbers (`Condition.integers_ofDocument`). A
document is not refused for them: a number above or below this range becomes the floating-point number
nearest to it (`Filter.scalar_of_not_fits`), which other numbers become as well
(`Condition.ofDocument_rounded`).
-/

namespace SqlCompose

/-! ## Whole numbers -/

namespace Decimal

/-- Whether a whole number is a signed word of 64 bits. -/
def Fits (n : Int) : Prop :=
  Int64.minValue.toInt ≤ n ∧ n ≤ Int64.maxValue.toInt

instance : DecidablePred Fits :=
  fun _ => inferInstanceAs (Decidable (_ ∧ _))

/-- A number that fits is a signed word. -/
theorem int64?_of_fits {n : Int} (h : Fits n) : ∃ w, int64? n = some w ∧ w.toInt = n := by
  obtain ⟨hlow, hhigh⟩ := h
  rw [Int64.toInt_minValue] at hlow
  rw [Int64.toInt_maxValue] at hhigh
  have htoInt : (Int64.ofInt n).toInt = n := Int64.toInt_ofInt_of_le hlow (by omega)
  exact ⟨Int64.ofInt n, int64?_eq_some_iff.2 htoInt, htoInt⟩

/-- The number of a signed word fits. -/
theorem fits_toInt (w : Int64) : Fits w.toInt :=
  ⟨w.minValue_le_toInt, w.toInt_le⟩

/-- A number that does not fit is none. -/
theorem int64?_of_not_fits {n : Int} (h : ¬ Fits n) : int64? n = none := by
  rw [Option.eq_none_iff_forall_ne_some]
  intro w hw
  rw [int64?_eq_some_iff] at hw
  exact h (hw ▸ fits_toInt w)

end Decimal

open Decimal (Fits)

/-- The whole number that a value is, if it is one. -/
def Value.integers : Value → List Int
  | .int w => [w.toInt]
  | _ => []

/-- The whole numbers that a condition compares with, in order. -/
def Condition.integers (c : Condition Test) : List Int :=
  c.places.flatMap Value.integers

namespace Document

mutual

/-- The whole numbers of a document, at any depth and in order. -/
def integers : Document → List Int
  | .integer n => [n]
  | .list items => integersOfItems items
  | .record fields => integersOfFields fields
  | .null | .bool _ | .float _ | .text _ => []

/-- The whole numbers of the items of a list. -/
def integersOfItems : List Document → List Int
  | [] => []
  | d :: ds => d.integers ++ integersOfItems ds

/-- The whole numbers of the fields of a record. -/
def integersOfFields : List (String × Document) → List Int
  | [] => []
  | (_, d) :: rest => d.integers ++ integersOfFields rest

end

/-- The whole numbers of a list are those of its members, in order. -/
theorem integers_list (items : List Document) :
    (list items).integers = items.flatMap integers := by
  rw [integers]
  induction items with
  | nil => rw [integersOfItems, List.flatMap_nil]
  | cons d ds ih => rw [integersOfItems, ih, List.flatMap_cons]

/-- The whole numbers of a record are those of its fields, in order. -/
theorem integers_record (fields : List (String × Document)) :
    (record fields).integers = fields.flatMap (·.2.integers) := by
  rw [integers]
  induction fields with
  | nil => rw [integersOfFields, List.flatMap_nil]
  | cons e rest ih => rw [integersOfFields, ih, List.flatMap_cons]

end Document

/-! ## What comes out -/

/-- Lists whose members give the same give the same as a whole. -/
theorem flatMap_eq_of_forall₂ {α β γ : Type} {f : α → List γ} {g : β → List γ} {as : List α}
    {bs : List β} (h : List.Forall₂ (fun a b => g b = f a) as bs) :
    bs.flatMap g = as.flatMap f := by
  induction h with
  | nil => rfl
  | cons hab _ ih => rw [List.flatMap_cons, List.flatMap_cons, hab, ih]

namespace Filter

variable {key : String} {d : Document}

/-- A whole number that a signed word of 64 bits holds is kept. -/
theorem scalar_of_fits {n : Int} (h : Fits n) :
    ∃ w, scalar key (.integer n) = .ok (.int w) ∧ w.toInt = n := by
  obtain ⟨w, hw, hn⟩ := Decimal.int64?_of_fits h
  exact ⟨w, by rw [scalar, hw], hn⟩

/-- Any other whole number becomes the double nearest to it, whichever its sign. -/
theorem scalar_of_not_fits {n : Int} (h : ¬ Fits n) :
    scalar key (.integer n) = .ok (.float (Binary64.ofInt n)) := by
  rw [scalar, Decimal.int64?_of_not_fits h]

example : scalar "id" (.integer (-9223372036854775809)) =
    .ok (.float (Binary64.ofInt (-9223372036854775808))) := by
  decide +kernel

/-- The whole number of a scalar is kept if it fits. -/
theorem integers_scalar {v : Value} (h : scalar key d = .ok v) :
    v.integers = d.integers.filter (Fits ·) := by
  cases d with
  | integer n =>
    by_cases hfits : Fits n
    · obtain ⟨w, hw, rfl⟩ := scalar_of_fits hfits
      obtain rfl := Except.ok.inj (hw.symm.trans h)
      rw [Document.integers, List.filter_cons_of_pos (by simpa using hfits), List.filter_nil,
        Value.integers]
    · obtain rfl := Except.ok.inj ((scalar_of_not_fits hfits).symm.trans h)
      rw [Document.integers, List.filter_cons_of_neg (by simpa using hfits), List.filter_nil]
      rfl
  | null | bool | float | text =>
    cases h
    rw [Document.integers]
    rfl
  | list | record => cases h

/-- The whole numbers of an operand are kept where they fit. -/
theorem integers_operand {o : Operand} (h : operand key d = .ok o) :
    o.places.flatMap Value.integers = d.integers.filter (Fits ·) := by
  by_cases hlist : ∃ items, d = .list items
  · obtain ⟨items, rfl⟩ := hlist
    rw [operand_list] at h
    obtain ⟨vs, hvs, rfl⟩ := exists_of_map_eq_ok h
    rw [Operand.places, Document.integers_list, List.filter_flatMap]
    exact flatMap_eq_of_forall₂ ((mapM_eq_ok_iff.1 hvs).imp fun _ _ => integers_scalar)
  · rw [operand_eq (not_exists.1 hlist)] at h
    obtain ⟨v, hv, rfl⟩ := exists_of_map_eq_ok h
    rw [Operand.places, List.flatMap_singleton, integers_scalar hv]

/-- So are those of a field. -/
theorem integers_test {c : Condition Test} (h : test key d = .ok c) :
    c.integers = d.integers.filter (Fits ·) := by
  obtain ⟨o, ho, rfl⟩ := exists_of_map_eq_ok h
  rw [Condition.integers, Condition.places, Test.ofKey, Test.places]
  exact integers_operand ho

end Filter

namespace Condition

open Document

/-- The whole numbers of a conjunction are those of its parts, in order. -/
theorem integers_all (parts : List (Condition Test)) :
    (all parts).integers = parts.flatMap integers := by
  rw [integers, places]
  induction parts with
  | nil => rw [placesOf, List.flatMap_nil, List.flatMap_nil]
  | cons c cs ih => rw [placesOf, List.flatMap_append, ih, List.flatMap_cons, integers]

/-- The whole numbers that fit come out as they are, and in order. -/
theorem integers_of_ofDocument {d : Document} (hd : d.IsFilter) {c : Condition Test}
    (h : ofDocument d = .ok c) : c.integers = d.integers.filter (Fits ·) := by
  induction hd generalizing c with
  | record _ =>
    rw [ofDocument_record] at h
    obtain ⟨parts, hparts, rfl⟩ := exists_of_map_eq_ok h
    rw [integers_all, integers_record, List.filter_flatMap]
    exact flatMap_eq_of_forall₂ ((mapM_eq_ok_iff.1 hparts).imp fun _ _ => Filter.integers_test)
  | list _ ih =>
    rw [ofDocument_list] at h
    obtain ⟨parts, hparts, rfl⟩ := exists_of_map_eq_ok h
    rw [integers_all, integers_list, List.filter_flatMap]
    have hitems := (List.forall₂_and_left _ _).2 ⟨ih, mapM_eq_ok_iff.1 hparts⟩
    exact flatMap_eq_of_forall₂ (hitems.imp fun _ _ h => h.1 h.2)

/-- A filter is accepted whatever its whole numbers are. The ones that fit a signed word of 64 bits
are kept, in order, so all of them are kept just if all of them fit. -/
theorem integers_ofDocument (d : Document) :
    ((∃ c, ofDocument d = .ok c) ↔ d.IsFilter) ∧
      ∀ c, ofDocument d = .ok c →
        c.integers = d.integers.filter (Fits ·) ∧
          (c.integers = d.integers ↔ ∀ n ∈ d.integers, Fits n) := by
  refine ⟨accepted_iff, fun c hc => ?_⟩
  have hkept := integers_of_ofDocument (accepted_iff.1 ⟨c, hc⟩) hc
  refine ⟨hkept, ?_⟩
  rw [hkept, List.filter_eq_self]
  simp only [decide_eq_true_eq]

/-- Of whole numbers in nested lists, the least and the greatest of their type among them. -/
theorem integers_ofDocument_nested :
    let d := Document.list [
      .record [("id__in", .list [.integer 1, .integer (-9223372036854775808)])],
      .list [.record [("n", .integer 9223372036854775807), ("s", .text "x")]]]
    ∃ c, ofDocument d = .ok c ∧ (∀ n ∈ d.integers, Fits n) ∧
      c.integers = [1, -9223372036854775808, 9223372036854775807] := by
  intro d
  have hfits : ∀ n ∈ d.integers, Fits n := by decide
  obtain ⟨c, hc⟩ : ∃ c, ofDocument d = .ok c := ⟨_, rfl⟩
  exact ⟨c, hc, hfits, ((integers_ofDocument d).2 c hc).2.2 hfits⟩

/-- A number above the range of 64 bits with a sign is not refused. It is compared with as the
floating-point number nearest to it, which is that of another number. -/
theorem ofDocument_rounded :
    let d := Document.record [("id", .integer 9223372036854775809)]
    ∃ c, ofDocument d = .ok c ∧ d.integers = [9223372036854775809] ∧ c.integers = [] ∧
      c.places = [.float (Binary64.ofNat 9223372036854775808)] := by
  intro d
  refine ⟨_, rfl, by decide, rfl, ?_⟩
  decide +kernel

end Condition

end SqlCompose
