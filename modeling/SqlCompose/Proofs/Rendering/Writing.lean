import SqlCompose.Rendering

/-!
# What is written of joined renderings

Renderings that are joined are written from the front: what comes first is written first, and what
follows goes on with the parameters that it leaves behind (`Rendering.write_append`).

Many renderings never come to the empty text (`Rendering.NeverEmpty`). Where the text of one decides
what is written around it, only that of the others has to be looked at.
-/

namespace SqlCompose.Rendering

variable {p p' : Parameters} {r s : Rendering} {text : String} {f g : String → Rendering}

/-! ## Texts -/

/-- A text is written as it is. -/
theorem write_text (t : String) : (Rendering.text t).write p = (.ok t, p) := rfl

/-- Nothing is written of no text. -/
theorem write_empty : empty.write p = (.ok "", p) := rfl

/-- What can be written behind something is written behind its text. -/
theorem write_bind (h : (r.bind f).write p = (.ok text, p')) :
    ∃ front p₁, r.write p = (.ok front, p₁) ∧ (f front).write p₁ = (.ok text, p') := by
  rcases hr : r.write p with ⟨_ | front, p₁⟩
  · rw [write_bind_of_error hr] at h
    cases h
  · exact ⟨front, p₁, rfl, (write_bind_of_ok hr).symm.trans h⟩

/-- A rendering with another text leaves the same parameters behind. -/
theorem write_map (f : String → String) (r : Rendering) (p : Parameters) :
    (r.map f).write p = ((r.write p).1.map f, (r.write p).2) := by
  rcases h : r.write p with ⟨_ | front, p₁⟩
  · exact write_bind_of_error h
  · exact write_bind_of_ok h

/-- Two renderings are written one after the other. -/
theorem write_append (h : (r ++ s).write p = (.ok text, p')) :
    ∃ before after p₁, r.write p = (.ok before, p₁) ∧ s.write p₁ = (.ok after, p') ∧
      text = before ++ after := by
  obtain ⟨before, p₁, hbefore, h⟩ := write_bind h
  obtain ⟨after, p₂, hafter, h⟩ := write_bind h
  rw [write_text, Prod.mk.injEq, Except.ok.injEq] at h
  obtain ⟨rfl, rfl⟩ := h
  exact ⟨before, after, p₁, hbefore, hafter, rfl⟩

/-- What can be written one after the other is written so. -/
theorem write_append_of_ok {p₁ : Parameters} {before after : String}
    (hr : r.write p = (.ok before, p₁)) (hs : s.write p₁ = (.ok after, p')) :
    (r ++ s).write p = (.ok (before ++ after), p') :=
  (write_bind_of_ok hr).trans (write_bind_of_ok hs)

/-- What fails hides what follows it. -/
theorem write_append_of_error {e : QueryError} (h : r.write p = (.error e, p')) (s : Rendering) :
    (r ++ s).write p = (.error e, p') :=
  write_bind_of_error h

/-- What fails behind something that is written fails the whole. -/
theorem write_append_of_ok_error {p₁ : Parameters} {before : String} {e : QueryError}
    (hr : r.write p = (.ok before, p₁)) (hs : s.write p₁ = (.error e, p')) :
    (r ++ s).write p = (.error e, p') :=
  (write_bind_of_ok hr).trans (write_bind_of_error hs)

/-- A text in front of a rendering stands in front of what is written of it. -/
theorem write_text_append_eq (t : String) (r : Rendering) (p : Parameters) :
    (Rendering.text t ++ r).write p = ((r.write p).1.map (t ++ ·), (r.write p).2) :=
  write_map (t ++ ·) r p

/-- A text behind a rendering stands behind what is written of it. -/
theorem write_append_text_eq (r : Rendering) (t : String) (p : Parameters) :
    (r ++ Rendering.text t).write p = ((r.write p).1.map (· ++ t), (r.write p).2) :=
  write_map (· ++ t) r p

/-- The text behind a text in front is that of the rendering. -/
theorem write_text_append {t : String} (h : (Rendering.text t ++ r).write p = (.ok text, p')) :
    ∃ s, r.write p = (.ok s, p') ∧ text = t ++ s := by
  obtain ⟨before, s, p₁, hbefore, hs, rfl⟩ := write_append h
  rw [write_text, Prod.mk.injEq, Except.ok.injEq] at hbefore
  obtain ⟨rfl, rfl⟩ := hbefore
  exact ⟨s, hs, rfl⟩

/-- The text in front of a text at the end is that of the rendering. -/
theorem write_append_text {t : String} (h : (r ++ Rendering.text t).write p = (.ok text, p')) :
    ∃ s, r.write p = (.ok s, p') ∧ text = s ++ t := by
  obtain ⟨s, after, p₁, hs, hafter, rfl⟩ := write_append h
  rw [write_text, Prod.mk.injEq, Except.ok.injEq] at hafter
  obtain ⟨rfl, rfl⟩ := hafter
  exact ⟨s, hs, rfl⟩

/-- What can be written can be written in parentheses. -/
theorem write_paren_of_ok (h : r.write p = (.ok text, p')) :
    r.paren.write p = (.ok ("(" ++ text ++ ")"), p') :=
  write_append_of_ok (write_append_of_ok (write_text "(") h) (write_text ")")

/-- The text between parentheses is that of the rendering. -/
theorem write_paren (h : r.paren.write p = (.ok text, p')) :
    ∃ s, r.write p = (.ok s, p') ∧ text = "(" ++ s ++ ")" := by
  obtain ⟨front, hfront, rfl⟩ := write_append_text h
  obtain ⟨s, hs, rfl⟩ := write_text_append hfront
  exact ⟨s, hs, rfl⟩

/-- The text with placeholders comes with the values that are left behind. -/
theorem boundText_of_ok (h : r.write .bound = (.ok text, p')) : r.boundText = .ok (text, p'.values) := by
  rw [boundText, h]
  rfl

/-- What fails with placeholders has no text. -/
theorem boundText_of_error {e : QueryError} (h : (r.write .bound).1 = .error e) :
    r.boundText = .error e :=
  congrArg (Except.map fun text => (text, (r.write .bound).2.values)) h

/-- Two texts are one. -/
theorem text_append_text (s t : String) : Rendering.text s ++ Rendering.text t = .text (s ++ t) :=
  rfl

/-! ## Renderings that say something -/

/-- A rendering that does not come to the empty text. -/
def NeverEmpty (r : Rendering) : Prop :=
  ∀ p text p', r.write p = (.ok text, p') → text ≠ ""

/-- Texts behind one that is not empty are not empty. -/
theorem NeverEmpty.append (h : r.NeverEmpty) (s : Rendering) : (r ++ s).NeverEmpty := by
  intro p text p' htext
  obtain ⟨before, after, p₁, hbefore, -, rfl⟩ := write_append htext
  exact fun hempty => h p before p₁ hbefore (String.append_eq_empty_iff.1 hempty).1

/-- A failure comes to no text at all. -/
theorem neverEmpty_fail (e : QueryError) : (fail e).NeverEmpty :=
  nofun

/-- A text says something unless it is empty. -/
theorem neverEmpty_text {t : String} (h : t ≠ "") : (Rendering.text t).NeverEmpty := by
  intro p text p' htext
  rw [write_text, Prod.mk.injEq, Except.ok.injEq] at htext
  exact htext.1 ▸ h

/-- Parentheses are never empty. -/
theorem neverEmpty_paren (r : Rendering) : r.paren.NeverEmpty :=
  ((neverEmpty_text (by decide)).append r).append _

/-- Of joined renderings the first decides. -/
theorem NeverEmpty.joinWith (h : r.NeverEmpty) (sep : String) (rs : List Rendering) :
    (Rendering.joinWith sep (r :: rs)).NeverEmpty := by
  cases rs with
  | nil => exact h
  | cons => exact (h.append _).append _

/-- Behind a rendering that says something, only what follows other texts than the empty one
matters. -/
theorem NeverEmpty.bind_congr (h : r.NeverEmpty) (hfg : ∀ s, s ≠ "" → f s = g s) :
    r.bind f = r.bind g := by
  refine Rendering.ext (funext fun p => ?_)
  rcases hr : r.write p with ⟨_ | s, p₁⟩
  · rw [write_bind_of_error hr, write_bind_of_error hr]
  · rw [write_bind_of_ok hr, write_bind_of_ok hr, hfg s (h p s p₁ hr)]

/-! ## Renderings that do not fail -/

/-- A rendering that can be written whatever was collected before. -/
def NeverFails (r : Rendering) : Prop :=
  ∀ p, ∃ text p', r.write p = (.ok text, p')

/-- A text can always be written. -/
theorem neverFails_text (t : String) : (Rendering.text t).NeverFails :=
  fun p => ⟨t, p, rfl⟩

/-- What can always be written can be written one after the other. -/
theorem NeverFails.append (hr : r.NeverFails) (hs : s.NeverFails) : (r ++ s).NeverFails := by
  intro p
  obtain ⟨before, p₁, hbefore⟩ := hr p
  obtain ⟨after, p₂, hafter⟩ := hs p₁
  exact ⟨before ++ after, p₂, write_append_of_ok hbefore hafter⟩

/-- Parentheses do not fail. -/
theorem NeverFails.paren (h : r.NeverFails) : r.paren.NeverFails :=
  ((neverFails_text "(").append h).append (neverFails_text ")")

/-! ## Several renderings -/

/-- Joined renderings are the first of them, and each of the others behind the text between them. -/
theorem joinWith_cons_cons (sep : String) (r s : Rendering) (rs : List Rendering) :
    Rendering.joinWith sep (r :: s :: rs) =
      r ++ (Rendering.text sep ++ Rendering.joinWith sep (s :: rs)) :=
  append_assoc ..

/-- What follows the first of joined renderings does not depend on it. -/
theorem exists_joinWith_cons (sep : String) (rs : List Rendering) :
    ∃ rest, ∀ r, Rendering.joinWith sep (r :: rs) = r ++ rest := by
  cases rs with
  | nil => exact ⟨.empty, fun r => r.append_empty.symm⟩
  | cons s rs => exact ⟨_, fun r => joinWith_cons_cons sep r s rs⟩

/-- Joined renderings do not fail if none of them does. -/
theorem neverFails_joinWith (sep : String) {rs : List Rendering} (h : ∀ r ∈ rs, r.NeverFails) :
    (Rendering.joinWith sep rs).NeverFails := by
  induction rs with
  | nil => exact neverFails_text ""
  | cons r rs ih =>
    obtain ⟨hr, hrs⟩ := List.forall_mem_cons.1 h
    cases rs with
    | nil => exact hr
    | cons => exact (hr.append (neverFails_text sep)).append (ih hrs)

end SqlCompose.Rendering
