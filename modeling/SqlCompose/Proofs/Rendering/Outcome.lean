import SqlCompose.Proofs.Rendering.Writing

/-!
# What renderings come to

Beside its text, a rendering comes to a failure or to none, and to the parameters that it leaves behind
(`Rendering.outcome`). Fixed texts do not matter to that. What is put together of several renderings
and of fixed texts between them comes to what the renderings come to one after the other, up to the
first that fails (`Rendering.inTurn`).
-/

namespace SqlCompose.Rendering

variable {p p' : Parameters} {e : QueryError} {r s : Rendering}

/-- What a rendering fails with, if it does, and the parameters that it leaves behind. -/
def outcome (r : Rendering) (p : Parameters) : Option QueryError × Parameters :=
  match r.write p with
  | (.ok _, p) => (none, p)
  | (.error e, p) => (some e, p)

/-- A text is no failure. -/
theorem outcome_of_ok {text : String} (h : r.write p = (.ok text, p')) :
    r.outcome p = (none, p') := by
  rw [outcome, h]

/-- A failure is one. -/
theorem outcome_of_error (h : r.write p = (.error e, p')) : r.outcome p = (some e, p') := by
  rw [outcome, h]

/-- A rendering comes to a failure where this is what is written of it. -/
theorem outcome_eq_some_iff : r.outcome p = (some e, p') ↔ r.write p = (.error e, p') := by
  rcases h : r.write p with ⟨_ | text, p₁⟩
  · rw [outcome_of_error h, Prod.mk.injEq, Prod.mk.injEq, Option.some.injEq, Except.error.injEq]
  · rw [outcome_of_ok h]
    exact iff_of_false nofun nofun

/-- It comes to none where a text is written of it. -/
theorem outcome_eq_none_iff :
    r.outcome p = (none, p') ↔ ∃ text, r.write p = (.ok text, p') := by
  rcases h : r.write p with ⟨_ | text, p₁⟩
  · rw [outcome_of_error h]
    exact iff_of_false nofun nofun
  · simp [outcome_of_ok h]

/-- The failure is the one that is written. -/
theorem outcome_fst_eq_some_iff : (r.outcome p).1 = some e ↔ (r.write p).1 = .error e := by
  rw [outcome]
  rcases r.write p with ⟨_ | _, _⟩ <;> simp

/-- The parameters are those that are left behind. -/
theorem outcome_snd (r : Rendering) (p : Parameters) : (r.outcome p).2 = (r.write p).2 := by
  rw [outcome]
  rcases r.write p with ⟨_ | _, _⟩ <;> rfl

/-! ## Fixed texts -/

/-- What is made of the text does not matter. -/
theorem outcome_map (f : String → String) (r : Rendering) (p : Parameters) :
    (r.map f).outcome p = r.outcome p := by
  rw [outcome, write_map, outcome]
  rcases r.write p with ⟨_ | _, _⟩ <;> rfl

/-- Nor does a text in front. -/
theorem outcome_text_append (t : String) (r : Rendering) (p : Parameters) :
    (text t ++ r).outcome p = r.outcome p :=
  outcome_map (t ++ ·) r p

/-- Nor does a text behind. -/
theorem outcome_append_text (r : Rendering) (t : String) (p : Parameters) :
    (r ++ text t).outcome p = r.outcome p :=
  outcome_map (· ++ t) r p

/-- Nor do parentheses. -/
theorem outcome_paren (r : Rendering) (p : Parameters) : r.paren.outcome p = r.outcome p := by
  rw [paren, outcome_append_text, outcome_text_append]

/-! ## One after the other -/

/-- What renderings come to one after the other, each with the parameters that the one before left
behind. Nothing follows a failure. -/
def inTurn : List Rendering → Parameters → Option QueryError × Parameters
  | [], p => (none, p)
  | r :: rs, p =>
    match r.outcome p with
    | (none, p) => inTurn rs p
    | (some e, p) => (some e, p)

/-- One rendering comes to what it comes to. -/
theorem inTurn_singleton (r : Rendering) (p : Parameters) : inTurn [r] p = r.outcome p := by
  rw [inTurn]
  rcases r.outcome p with ⟨_ | _, _⟩ <;> rfl

/-- Further renderings go on where the first ones end. -/
theorem inTurn_append_of_none {rs : List Rendering} (h : inTurn rs p = (none, p'))
    (ss : List Rendering) : inTurn (rs ++ ss) p = inTurn ss p' := by
  induction rs generalizing p with
  | nil =>
    cases h
    rfl
  | cons r rs ih =>
    rw [inTurn] at h
    rw [List.cons_append, inTurn]
    rcases hr : r.outcome p with ⟨_ | e, p₁⟩ <;> rw [hr] at h
    · exact ih h
    · cases h

/-- Nothing follows a failure of the first ones. -/
theorem inTurn_append_of_some {rs : List Rendering} (h : inTurn rs p = (some e, p'))
    (ss : List Rendering) : inTurn (rs ++ ss) p = (some e, p') := by
  induction rs generalizing p with
  | nil => cases h
  | cons r rs ih =>
    rw [inTurn] at h
    rw [List.cons_append, inTurn]
    rcases hr : r.outcome p with ⟨_ | e', p₁⟩ <;> rw [hr] at h
    · exact ih h
    · exact h

/-- Two renderings come to what they come to in turn. -/
theorem outcome_append {rs ss : List Rendering} (hr : ∀ p, r.outcome p = inTurn rs p)
    (hs : ∀ p, s.outcome p = inTurn ss p) (p : Parameters) :
    (r ++ s).outcome p = inTurn (rs ++ ss) p := by
  rcases h : inTurn rs p with ⟨_ | e, p₁⟩
  · rw [inTurn_append_of_none h, ← hs]
    obtain ⟨front, hfront⟩ := outcome_eq_none_iff.1 ((hr p).trans h)
    rcases hbehind : s.write p₁ with ⟨_ | behind, p₂⟩
    · rw [outcome_of_error hbehind, outcome_of_error (write_append_of_ok_error hfront hbehind)]
    · rw [outcome_of_ok hbehind, outcome_of_ok (write_append_of_ok hfront hbehind)]
  · rw [inTurn_append_of_some h]
    exact outcome_of_error (write_append_of_error (outcome_eq_some_iff.1 ((hr p).trans h)) s)

end SqlCompose.Rendering
