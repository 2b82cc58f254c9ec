import SqlCompose.Proofs.Rendering.Outcome

/-!
# Parts of renderings

Where values are written as literals, nothing is collected, so each part of a rendering is written as
it is alone. What a rendering fails with (`Rendering.fault?`) is then known from its parts, the first
of which to fail decides.

A rendering stands in another one if the text of that one holds its own text (`Rendering.StandsIn`).
-/

namespace SqlCompose.Rendering

variable {r s t : Rendering} {text : String} {f : String → Rendering}

/-! ## Literals -/

/-- What is written with literals leaves nothing behind. -/
theorem inlineText_eq_ok : r.inlineText = .ok text ↔ r.write .inline = (.ok text, .inline) := by
  rw [inlineText, Prod.ext_iff, write_inline_snd, and_iff_left rfl]

/-- With literals, what is written behind something goes on from its text alone. -/
theorem inlineText_bind (r : Rendering) (f : String → Rendering) :
    (r.bind f).inlineText = r.inlineText.bind fun front => (f front).inlineText := by
  have hp := r.write_inline_snd
  rcases h : r.write .inline with ⟨_ | front, p₁⟩ <;> rw [h] at hp <;> obtain rfl : p₁ = .inline := hp
  · rw [inlineText, inlineText, write_bind_of_error h, h]
    rfl
  · rw [inlineText, write_bind_of_ok h, inlineText, h]
    rfl

/-- With literals, joined renderings have the texts that they have alone. -/
theorem inlineText_append_eq_ok (h : (r ++ s).inlineText = .ok text) :
    ∃ before after, r.inlineText = .ok before ∧ s.inlineText = .ok after ∧ text = before ++ after := by
  obtain ⟨before, after, p₁, hbefore, hafter, rfl⟩ := write_append (inlineText_eq_ok.1 h)
  obtain rfl : Parameters.inline = p₁ := by
    rw [← write_inline_snd r, hbefore]
  exact ⟨before, after, congrArg Prod.fst hbefore, congrArg Prod.fst hafter, rfl⟩

/-! ## Failures -/

/-- The failure of a rendering, if it has no text with literals. -/
def fault? (r : Rendering) : Option QueryError :=
  match r.inlineText with
  | .ok _ => none
  | .error e => some e

/-- Where there is a failure, it is what comes instead of the text. -/
theorem fault?_eq_some_iff {e : QueryError} : r.fault? = some e ↔ r.inlineText = .error e := by
  rw [fault?]
  cases r.inlineText <;> simp

/-- Where there is no failure, there is a text. -/
theorem fault?_eq_none_iff : r.fault? = none ↔ ∃ text, r.inlineText = .ok text := by
  rw [fault?]
  cases r.inlineText <;> simp

/-- A plain text has no failure. -/
@[simp] theorem fault?_text (t : String) : (Rendering.text t).fault? = none := rfl

@[simp] theorem fault?_fail (e : QueryError) : (fail e).fault? = some e := rfl

/-- The first failure counts. -/
@[simp] theorem fault?_append (r s : Rendering) : (r ++ s).fault? = r.fault?.or s.fault? := by
  simp only [fault?, append_def, inlineText_bind]
  cases r.inlineText with
  | error e => rfl
  | ok front =>
    cases s.inlineText <;> rfl

/-- Parentheses do not fail. -/
@[simp] theorem fault?_paren (r : Rendering) : r.paren.fault? = r.fault? := by
  simp [Rendering.paren]

/-- With literals, a rendering has a failure just if it comes to one. -/
theorem fault?_eq_none_iff_outcome : r.fault? = none ↔ (r.outcome .inline).1 = none := by
  rw [fault?, inlineText, outcome]
  rcases r.write .inline with ⟨_ | _, _⟩ <;> simp

/-- With literals, nothing fails in turn if nothing fails alone. -/
theorem inTurn_inline (rs : List Rendering) :
    (inTurn rs .inline).1 = none ↔ ∀ r ∈ rs, r.fault? = none := by
  induction rs with
  | nil => exact iff_of_true rfl (List.forall_mem_nil _)
  | cons r rs ih =>
    have hp : (r.outcome .inline).2 = .inline := (r.outcome_snd .inline).trans r.write_inline_snd
    rw [inTurn, List.forall_mem_cons, ← ih, fault?_eq_none_iff_outcome]
    rcases h : r.outcome .inline with ⟨_ | e, p⟩ <;> rw [h] at hp <;> obtain rfl : p = .inline := hp
    · exact (and_iff_right rfl).symm
    · exact iff_of_false (Option.some_ne_none e) fun h => Option.some_ne_none e h.1

/-! ## Parts -/

/-- The text of `r`, if it has one with literals, holds that of `s`. -/
def StandsIn (s r : Rendering) : Prop :=
  ∀ text, r.inlineText = .ok text →
    ∃ before part behind, s.inlineText = .ok part ∧ text = before ++ part ++ behind

namespace StandsIn

/-- A rendering stands in itself. -/
theorem refl (r : Rendering) : r.StandsIn r :=
  fun text h => ⟨"", text, "", h, by rw [String.empty_append, String.append_empty]⟩

/-- The empty text stands anywhere. -/
theorem empty (r : Rendering) : (Rendering.text "").StandsIn r :=
  fun text _ => ⟨"", "", text, rfl, by rw [String.empty_append, String.empty_append]⟩

/-- What stands in a part stands in the whole. -/
theorem trans (hrs : r.StandsIn s) (hst : s.StandsIn t) : r.StandsIn t := by
  intro text h
  obtain ⟨before, middle, behind, hmiddle, rfl⟩ := hst text h
  obtain ⟨before', part, behind', hpart, rfl⟩ := hrs middle hmiddle
  exact ⟨before ++ before', part, behind' ++ behind, hpart, by simp only [String.append_assoc]⟩

/-- What stands in the first of two stands in both. -/
theorem append_left (h : s.StandsIn r) (t : Rendering) : s.StandsIn (r ++ t) := by
  intro text htext
  obtain ⟨front, after, hfront, -, rfl⟩ := inlineText_append_eq_ok htext
  obtain ⟨before, part, behind, hpart, rfl⟩ := h front hfront
  exact ⟨before, part, behind ++ after, hpart, String.append_assoc ..⟩

/-- What stands in the second of two stands in both. -/
theorem append_right (r : Rendering) (h : s.StandsIn t) : s.StandsIn (r ++ t) := by
  intro text htext
  obtain ⟨front, after, -, hafter, rfl⟩ := inlineText_append_eq_ok htext
  obtain ⟨before, part, behind, hpart, rfl⟩ := h after hafter
  exact ⟨front ++ before, part, behind, hpart, by simp only [String.append_assoc]⟩

/-- What stands in a rendering stands in its parentheses. -/
theorem paren (r : Rendering) : r.StandsIn r.paren :=
  ((refl r).append_right _).append_left _

/-- A failure has no text, so there is nothing to look for. -/
theorem fail (s : Rendering) (e : QueryError) : s.StandsIn (.fail e) :=
  nofun

/-- The first of two renderings stands in what is made of its text if it stands there in whatever
follows. -/
theorem bind (h : ∀ front, (Rendering.text front).StandsIn (f front)) : r.StandsIn (r.bind f) := by
  intro text htext
  rw [inlineText_bind] at htext
  cases hfront : r.inlineText with
  | error e =>
    rw [hfront] at htext
    cases htext
  | ok front =>
    rw [hfront] at htext
    obtain ⟨before, part, behind, hpart, rfl⟩ := h front text htext
    cases hpart
    exact ⟨before, front, behind, rfl, rfl⟩

/-- What follows some text in every case stands in the whole. -/
theorem bind_right (h : ∀ front, s.StandsIn (f front)) : s.StandsIn (r.bind f) := by
  intro text htext
  rw [inlineText_bind] at htext
  cases hfront : r.inlineText with
  | error e =>
    rw [hfront] at htext
    cases htext
  | ok front =>
    rw [hfront] at htext
    exact h front text htext

/-- Each of several renderings stands in all of them, joined. -/
theorem joinWith (sep : String) {rs : List Rendering} (h : r ∈ rs) :
    r.StandsIn (joinWith sep rs) := by
  induction h with
  | head rs =>
    cases rs with
    | nil => exact .refl r
    | cons r' rs => exact ((StandsIn.refl r).append_left _).append_left _
  | @tail r' rs hmem ih =>
    cases rs with
    | nil => cases hmem
    | cons => exact ih.append_right _

end StandsIn

end SqlCompose.Rendering
