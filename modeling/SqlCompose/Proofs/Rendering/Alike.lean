import SqlCompose.Binding
import SqlCompose.Proofs.Rendering.Writing

/-!
# Renderings of the same shape

Two renderings are alike if they are written alike with placeholders, wherever they stand
(`Rendering.Alike`): they fail alike, or they give the same text, and each of their values comes from a
place of its own. The places are given as two lists, one for each rendering, and where both lists have
the same value, so have the two renderings (`Drawn`). Places may also stay unused.

What goes on from the text of alike renderings goes on from the same text, so it is alike if what
follows is (`Rendering.Alike.bind`).
-/

namespace SqlCompose

/-! ## Drawing from places -/

/-- Values drawn in step from two lists, in their order and at the same positions of both. Where the
lists agree, so do the values. -/
inductive Drawn : (us us' vs vs' : List Value) → Prop
  | nil : Drawn [] [] [] []
  | unused {us us' vs vs'} (u u' : Value) : Drawn us us' vs vs' → Drawn (u :: us) (u' :: us') vs vs'
  | drawn {us us' vs vs'} {u u' v v' : Value} : (u = u' → v = v') → Drawn us us' vs vs' →
      Drawn (u :: us) (u' :: us') (v :: vs) (v' :: vs')

namespace Drawn

variable {us us' vs vs' ws ws' xs xs' : List Value}

/-- As many values are drawn from either list. -/
theorem length_eq (h : Drawn us us' vs vs') : vs.length = vs'.length := by
  induction h with
  | nil => rfl
  | unused _ _ _ ih => exact ih
  | drawn _ _ ih => exact congrArg (· + 1) ih

/-- Values that are drawn from later places come later. -/
theorem append (h : Drawn us us' vs vs') (h' : Drawn ws ws' xs xs') :
    Drawn (us ++ ws) (us' ++ ws') (vs ++ xs) (vs' ++ xs') := by
  induction h with
  | nil => exact h'
  | unused u u' _ ih => exact .unused u u' ih
  | drawn hv _ ih => exact .drawn hv ih

/-- All places may stay unused. -/
theorem ofUnused (h : us.length = us'.length) : Drawn us us' [] [] := by
  induction us generalizing us' with
  | nil => rw [List.length_eq_zero_iff.1 h.symm]; exact .nil
  | cons u us ih =>
    cases us' with
    | nil => cases h
    | cons u' us' => exact .unused u u' (ih (Nat.succ.inj h))

end Drawn

/-- Two lists that are related entry by entry, where each pair of entries has places of its own. -/
inductive Gathered {α : Type} (R : List Value → List Value → α → α → Prop) :
    List Value → List Value → List α → List α → Prop
  | nil : Gathered R [] [] [] []
  | unused {us us' xs xs'} (u u' : Value) : Gathered R us us' xs xs' →
      Gathered R (u :: us) (u' :: us') xs xs'
  | cons {us us' ws ws' x x' xs xs'} : R us us' x x' → Gathered R ws ws' xs xs' →
      Gathered R (us ++ ws) (us' ++ ws') (x :: xs) (x' :: xs')

namespace Gathered

variable {α : Type} {R : List Value → List Value → α → α → Prop} {us us' ws ws' : List Value}
  {x x' : α} {xs xs' : List α}

/-- Places in front may stay unused. -/
theorem append_unused (hlength : us.length = us'.length) (h : Gathered R ws ws' xs xs') :
    Gathered R (us ++ ws) (us' ++ ws') xs xs' := by
  induction us generalizing us' with
  | nil => rw [List.length_eq_zero_iff.1 hlength.symm]; exact h
  | cons u us ih =>
    cases us' with
    | nil => cases hlength
    | cons u' us' => exact .unused u u' (ih (Nat.succ.inj hlength))

/-- There are as many entries on either side. -/
theorem length_eq (h : Gathered R us us' xs xs') : xs.length = xs'.length := by
  induction h with
  | nil => rfl
  | unused _ _ _ ih => exact ih
  | cons _ _ ih => exact congrArg (· + 1) ih

/-- There is no entry on one side if there is none on the other. -/
theorem eq_nil_iff (h : Gathered R us us' xs xs') : xs = [] ↔ xs' = [] := by
  rw [← List.length_eq_zero_iff, h.length_eq, List.length_eq_zero_iff]

/-- There are as many places on either side. -/
theorem length_places (hR : ∀ {us us' x x'}, R us us' x x' → us.length = us'.length)
    (h : Gathered R us us' xs xs') : us.length = us'.length := by
  induction h with
  | nil => rfl
  | unused _ _ _ ih => exact congrArg (· + 1) ih
  | cons hx _ ih => rw [List.length_append, List.length_append, hR hx, ih]

end Gathered

/-! ## Alike renderings -/

namespace Rendering

/-- Two renderings that, behind as many values, fail alike or give the same text with placeholders,
and values that are drawn from their places. -/
structure Alike (us us' : List Value) (r r' : Rendering) : Prop where
  length_places : us.length = us'.length
  write (xs xs' : List Value) : xs.length = xs'.length →
    (∃ e, (r.write ⟨.bound, xs⟩).1 = .error e ∧ (r'.write ⟨.bound, xs'⟩).1 = .error e) ∨
      ∃ text vs vs', r.write ⟨.bound, xs⟩ = (.ok text, ⟨.bound, xs ++ vs⟩) ∧
        r'.write ⟨.bound, xs'⟩ = (.ok text, ⟨.bound, xs' ++ vs'⟩) ∧ Drawn us us' vs vs'

namespace Alike

variable {us us' ws ws' : List Value} {r r' s s' : Rendering} {rs rs' : List Rendering}

/-- What fails on both sides uses no place. -/
theorem fail (h : us.length = us'.length) (e : QueryError) : Alike us us' (fail e) (fail e) :=
  ⟨h, fun _ _ _ => .inl ⟨e, rfl, rfl⟩⟩

/-- A text has no values. -/
theorem text (t : String) : Alike [] [] (text t) (text t) := by
  refine ⟨rfl, fun xs xs' _ => .inr ⟨t, [], [], ?_, ?_, .nil⟩⟩
  · rw [List.append_nil, write_text]
  · rw [List.append_nil, write_text]

/-- Nothing uses no place. -/
theorem empty (h : us.length = us'.length) : Alike us us' empty empty := by
  refine ⟨h, fun xs xs' _ => .inr ⟨"", [], [], ?_, ?_, .ofUnused h⟩⟩
  · rw [List.append_nil, write_empty]
  · rw [List.append_nil, write_empty]

/-- A text that may be missing has no values either. -/
theorem ofExcept (x : Except QueryError String) : Alike [] [] (ofExcept x) (ofExcept x) := by
  cases x with
  | ok t => exact text t
  | error e => exact fail rfl e

/-- The placeholder of a value depends on the number of values in front of it only. -/
theorem value (a : Adapter) {u u' v v' : Value} (h : u = u' → v = v') :
    Alike [u] [u'] (a.value v) (a.value v') := by
  refine ⟨rfl, fun xs xs' hlength => .inr ⟨a.dialect.placeholder (xs.length + 1), [v], [v'], rfl,
    ?_, .drawn h .nil⟩⟩
  rw [hlength]
  rfl

/-- Alike renderings give the same text, so what follows it is compared for the same text. -/
theorem bind {f f' : String → Rendering} (h : Alike us us' r r')
    (hf : ∀ front, Alike ws ws' (f front) (f' front)) :
    Alike (us ++ ws) (us' ++ ws') (r.bind f) (r'.bind f') := by
  refine ⟨?_, fun xs xs' hlength => ?_⟩
  · rw [List.length_append, List.length_append, h.length_places, (hf "").length_places]
  obtain ⟨e, he, he'⟩ | ⟨front, vs, vs', hr, hr', hdrawn⟩ := h.write xs xs' hlength
  · refine .inl ⟨e, ?_, ?_⟩
    · rw [write_bind_of_error (Prod.ext he rfl)]
    · rw [write_bind_of_error (Prod.ext he' rfl)]
  · have hlength' : (xs ++ vs).length = (xs' ++ vs').length := by
      rw [List.length_append, List.length_append, hlength, hdrawn.length_eq]
    rw [write_bind_of_ok hr, write_bind_of_ok hr']
    obtain herror | ⟨t, us₁, us₁', ht, ht', hdrawn'⟩ := (hf front).write _ _ hlength'
    · exact .inl herror
    · rw [List.append_assoc] at ht ht'
      exact .inr ⟨t, vs ++ us₁, vs' ++ us₁', ht, ht', hdrawn.append hdrawn'⟩

/-- Another text that is made of their own is the same for both. -/
theorem map (f : String → String) (h : Alike us us' r r') : Alike us us' (r.map f) (r'.map f) := by
  have hbind := h.bind fun front => text (f front)
  rwa [List.append_nil, List.append_nil] at hbind

/-- The places of joined renderings are those of both. -/
theorem append (h : Alike us us' r r') (h' : Alike ws ws' s s') :
    Alike (us ++ ws) (us' ++ ws') (r ++ s) (r' ++ s') :=
  h.bind fun front => h'.map (front ++ ·)

/-- A text in front changes no places. -/
theorem text_append (t : String) (h : Alike us us' r r') :
    Alike us us' (Rendering.text t ++ r) (Rendering.text t ++ r') :=
  (text t).append h

/-- Nor does a text behind. -/
theorem append_text (h : Alike us us' r r') (t : String) :
    Alike us us' (r ++ Rendering.text t) (r' ++ Rendering.text t) := by
  have happend := h.append (text t)
  rwa [List.append_nil, List.append_nil] at happend

/-- Places at the end may stay unused. -/
theorem append_empty (h : Alike us us' r r') (hlength : ws.length = ws'.length) :
    Alike (us ++ ws) (us' ++ ws') r r' := by
  have happend := h.append (empty hlength)
  rwa [Rendering.append_empty, Rendering.append_empty] at happend

/-- Places at the front may stay unused. -/
theorem empty_append (hlength : us.length = us'.length) (h : Alike ws ws' r r') :
    Alike (us ++ ws) (us' ++ ws') r r' := by
  have happend := (empty hlength).append h
  rwa [Rendering.empty_append, Rendering.empty_append] at happend

/-- Parentheses change no places. -/
theorem paren (h : Alike us us' r r') : Alike us us' r.paren r'.paren :=
  (h.text_append "(").append_text ")"

/-- Renderings that are alike one by one are alike when they are joined. -/
theorem joinWith (sep : String) (h : Gathered Alike us us' rs rs') :
    Alike us us' (joinWith sep rs) (joinWith sep rs') := by
  induction h with
  | nil => exact empty rfl
  | unused u u' _ ih => exact empty_append (show [u].length = [u'].length from rfl) ih
  | @cons _ _ _ _ r r' rs rs' hr hrs ih =>
    cases rs with
    | nil =>
      obtain rfl := hrs.eq_nil_iff.1 rfl
      exact hr.append_empty (hrs.length_places length_places)
    | cons s rs =>
      obtain ⟨s', rs', rfl⟩ := List.exists_cons_of_length_eq_add_one hrs.length_eq.symm
      exact (hr.append_text sep).append ih

/-- Each value has a place. -/
theorem values (a : Adapter) (h : us.length = us'.length) :
    Alike us us' (a.values us) (a.values us') := by
  refine joinWith ", " ?_
  induction us generalizing us' with
  | nil => rw [List.length_eq_zero_iff.1 h.symm]; exact .nil
  | cons u us ih =>
    cases us' with
    | nil => cases h
    | cons u' us' => exact .cons (value a id) (ih (Nat.succ.inj h))

/-- Alike renderings fail alike, or give the same text with placeholders, and values that are drawn
from the places. -/
theorem boundText (h : Alike us us' r r') :
    (∃ e, r.boundText = .error e ∧ r'.boundText = .error e) ∨
      ∃ sql vs vs', r.boundText = .ok (sql, vs) ∧ r'.boundText = .ok (sql, vs') ∧
        Drawn us us' vs vs' := by
  obtain ⟨e, he, he'⟩ | ⟨sql, vs, vs', hsql, hsql', hdrawn⟩ := h.write [] [] rfl
  · exact .inl ⟨e, boundText_of_error he, boundText_of_error he'⟩
  · exact .inr ⟨sql, vs, vs', boundText_of_ok hsql, boundText_of_ok hsql', hdrawn⟩

end Alike

end Rendering

end SqlCompose
