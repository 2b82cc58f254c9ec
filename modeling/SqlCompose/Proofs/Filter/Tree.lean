import SqlCompose.Proofs.Filter.Integers

/-!
# The condition that a filter document builds

By hand, a filter is put together from pairs of a key and an operand (`Condition.ofPairs`) and from
conjunctions of filters. A filter document builds the condition with the same structure
(`Document.Builds`): a record the one of its fields, a list the conjunction of its items, at every
level in the order of the document. That is the condition that is read from it, as long as its whole
numbers fit a signed word of 64 bits; so every adapter writes the two alike
(`Condition.ofDocument_iff_builds`).
-/

namespace SqlCompose

open Decimal (Fits)

namespace Document

/-- The value that a scalar writes. -/
inductive Writes : Document → Value → Prop
  | null : Writes .null .null
  | bool (b : Bool) : Writes (.bool b) (.bool b)
  | integer (w : Int64) : Writes (.integer w.toInt) (.int w)
  | float (x : Binary64) : Writes (.float x) (.float x)
  | text (s : String) : Writes (.text s) (.text s)

/-- The operand that a scalar or a list of scalars writes. -/
inductive WritesOperand : Document → Operand → Prop
  | value {d : Document} {v : Value} : Writes d v → WritesOperand d (.value v)
  | list {items : List Document} {vs : List Value} :
      List.Forall₂ Writes items vs → WritesOperand (.list items) (.list vs)

/-- The condition that a filter document stands for, put together by hand. -/
inductive Builds : Document → Condition Test → Prop
  | record {fields : List (String × Document)} {pairs : List (String × Operand)} :
      List.Forall₂ (fun e p => e.1 = p.1 ∧ WritesOperand e.2 p.2) fields pairs →
      Builds (.record fields) (.ofPairs pairs)
  | list {items : List Document} {parts : List (Condition Test)} :
      List.Forall₂ Builds items parts → Builds (.list items) (.all parts)

/-! ## Filters build a condition -/

/-- A scalar writes a value, if its number fits. -/
theorem exists_writes {d : Document} (h : d.IsScalar) (hd : ∀ n ∈ d.integers, Fits n) :
    ∃ v, d.Writes v := by
  cases d with
  | null => exact ⟨_, .null⟩
  | bool b => exact ⟨_, .bool b⟩
  | integer n =>
    have hn : n ∈ (integer n).integers := by rw [integers]; exact List.mem_singleton_self n
    obtain ⟨w, -, rfl⟩ := Decimal.int64?_of_fits (hd n hn)
    exact ⟨_, .integer w⟩
  | float x => exact ⟨_, .float x⟩
  | text s => exact ⟨_, .text s⟩
  | list | record => exact h.elim

/-- The numbers of a member are numbers of the list. -/
theorem fits_of_mem_list {items : List Document} (h : ∀ n ∈ (list items).integers, Fits n)
    {d : Document} (hd : d ∈ items) : ∀ n ∈ d.integers, Fits n := by
  intro n hn
  rw [integers_list] at h
  exact h n (List.mem_flatMap.2 ⟨d, hd, hn⟩)

/-- An operand writes one, if its numbers fit. -/
theorem exists_writesOperand {d : Document} (h : d.IsOperand) (hd : ∀ n ∈ d.integers, Fits n) :
    ∃ o, d.WritesOperand o := by
  by_cases hlist : ∃ items, d = .list items
  · obtain ⟨items, rfl⟩ := hlist
    obtain ⟨vs, hvs⟩ := exists_forall₂ fun e he => exists_writes (h e he) (fits_of_mem_list hd he)
    exact ⟨_, .list hvs⟩
  · rw [isOperand_eq (not_exists.1 hlist)] at h
    obtain ⟨v, hv⟩ := exists_writes h hd
    exact ⟨_, .value hv⟩

/-- A filter builds a condition, if its numbers fit. -/
theorem exists_builds {d : Document} (h : d.IsFilter) (hd : ∀ n ∈ d.integers, Fits n) :
    ∃ c, d.Builds c := by
  induction h with
  | @record fields hfields =>
    rw [integers_record] at hd
    have hpairs : ∀ e ∈ fields, ∃ p : String × Operand, e.1 = p.1 ∧ WritesOperand e.2 p.2 := by
      intro e he
      obtain ⟨o, ho⟩ := exists_writesOperand (hfields e he) fun n hn =>
        hd n (List.mem_flatMap.2 ⟨e, he, hn⟩)
      exact ⟨(e.1, o), rfl, ho⟩
    obtain ⟨pairs, hpairs⟩ := exists_forall₂ hpairs
    exact ⟨_, .record hpairs⟩
  | list _ ih =>
    obtain ⟨parts, hparts⟩ := exists_forall₂ fun e he => ih e he (fits_of_mem_list hd he)
    exact ⟨_, .list hparts⟩

end Document

/-! ## What is read is what is built -/

namespace Filter

open Document

variable {key : String} {d : Document}

/-- A scalar is read as the value that it writes. -/
theorem scalar_of_writes {v : Value} (h : d.Writes v) : scalar key d = .ok v := by
  cases h with
  | integer w => rw [scalar, Decimal.int64?_eq_some_iff.2 rfl]
  | null | bool | float | text => rfl

/-- An operand is read as the one that it writes. -/
theorem operand_of_writes {o : Operand} (h : d.WritesOperand o) : operand key d = .ok o := by
  cases h with
  | value h =>
    have hlist : ∀ items, d ≠ .list items := by
      rintro items rfl
      cases h
    rw [operand_eq hlist, scalar_of_writes h]
    rfl
  | list h =>
    rw [operand_list, mapM_eq_ok_iff.2 (h.imp fun _ _ => scalar_of_writes)]
    rfl

/-- A field is read as a comparison with the operand that it writes. -/
theorem test_of_writes {o : Operand} (h : d.WritesOperand o) :
    test key d = .ok (.leaf (Test.ofKey key o)) := by
  rw [test, operand_of_writes h]
  rfl

end Filter

namespace Condition

open Document

/-- A filter is read as the condition that it builds. -/
theorem ofDocument_of_builds {d : Document} {c : Condition Test} (h : d.Builds c) :
    ofDocument d = .ok c := by
  cases h with
  | @record fields pairs hfields =>
    have hparts : List.Forall₂ (fun (e : String × Document) c => Filter.test e.1 e.2 = .ok c)
        fields (pairs.map fun p => .leaf (Test.ofKey p.1 p.2)) := by
      rw [List.forall₂_map_right_iff]
      refine hfields.imp fun e p hp => ?_
      rw [hp.1]
      exact Filter.test_of_writes hp.2
    rw [ofDocument_record, mapM_eq_ok_iff.2 hparts]
    rfl
  | @list items parts hitems =>
    have hread : ∀ e ∈ items, ∀ c, e.Builds c → ofDocument e = .ok c :=
      fun e _ c hc => ofDocument_of_builds hc
    have hparts := (List.forall₂_and_left _ _).2 ⟨hread, hitems⟩
    rw [ofDocument_list, mapM_eq_ok_iff.2 (hparts.imp fun _ _ h => h.1 _ h.2)]
    rfl
termination_by sizeOf d

/-- A document whose whole numbers fit is accepted just if it is a filter. What is read from it is
the condition that it builds, which every adapter writes as the one put together by hand, with the
same text, parameters and error. A document that is no filter is refused with its first fault. -/
theorem ofDocument_iff_builds {d : Document} (hd : ∀ n ∈ d.integers, Fits n) :
    ((∃ c, ofDocument d = .ok c) ↔ d.IsFilter) ∧
      (∀ c, ofDocument d = .ok c ↔ d.Builds c) ∧
      (∀ c c', ofDocument d = .ok c → d.Builds c' →
        ∀ (a : Adapter) (p : Parameters), (c.rendering a).write p = (c'.rendering a).write p) ∧
      ∀ e, ofDocument d = .error e ↔ ∃ fault, d.FirstFault fault ∧ e = .invalidFilter fault := by
  have hbuilds : ∀ c, ofDocument d = .ok c ↔ d.Builds c := by
    refine fun c => ⟨fun hc => ?_, ofDocument_of_builds⟩
    obtain ⟨built, hbuilt⟩ := exists_builds (accepted_iff.1 ⟨c, hc⟩) hd
    have hsame := hc.symm.trans (ofDocument_of_builds hbuilt)
    cases hsame
    exact hbuilt
  refine ⟨accepted_iff, hbuilds, fun c c' hc hc' a p => ?_, fun e => ofDocument_eq_error_iff⟩
  have hsame := hc.symm.trans (ofDocument_of_builds hc')
  cases hsame
  rfl

/-- Of nested lists that are a filter, and of others with faults in several places. -/
theorem ofDocument_iff_builds_nested :
    let filter := Document.list [
      .record [("id__in", .list [.integer 1, .null])], .list [.record [("s", .text "x")]]]
    let other := Document.list [.record [("a", .integer 1)],
      .record [("b", .list [.null, .list []]), ("c", .record [])], .null]
    ((∀ n ∈ filter.integers, Fits n) ∧
      filter.Builds (.all [.ofPairs [("id__in", .list [.int 1, .null])],
        .all [.ofPairs [("s", .value (.text "x"))]]])) ∧
    (∀ n ∈ other.integers, Fits n) ∧ other.FirstFault (.nestedValue "b") := by
  intro filter other
  have hfilter : ∀ n ∈ filter.integers, Fits n := by decide
  have hother : ∀ n ∈ other.integers, Fits n := by decide
  refine ⟨⟨hfilter, ((ofDocument_iff_builds hfilter).2.1 _).1 rfl⟩, hother, ?_⟩
  obtain ⟨fault, hfault, heq⟩ := ((ofDocument_iff_builds hother).2.2.2 _).1 rfl
  cases heq
  exact hfault

end Condition

end SqlCompose
