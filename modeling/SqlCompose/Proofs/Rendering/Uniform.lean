import SqlCompose.Binding
import SqlCompose.Proofs.Rendering.Writing

/-!
# Literals and placeholders

A rendering is uniform if it is written in one way wherever it stands (`Rendering.Uniform`): it has
some values, and whatever was collected before and however values are written, either it gives the
same fixed text around what stands for its values, or it fails in the same way once they are written.
What stands for a value is its literal, or the placeholder that follows those written before it.

A rendering may be anything that only adds to the parameters, so one that looks at them is not uniform,
nor is one that writes a literal by itself or looks at what was written of another one. Uniform
renderings joined are uniform (`Rendering.Uniform.append`). With placeholders, a uniform rendering
differs from what it is with literals in nothing but its fillings
(`Rendering.Uniform.boundText_and_inlineText`).
-/

namespace SqlCompose

/-! ## Texts with gaps -/

/-- Text with gaps, and what fills each of them: fillings and the texts behind them in turn, behind
a text at the front. -/
def filled (front : String) (fillings behind : List String) : String :=
  front ++ String.join (List.zipWith (· ++ ·) fillings behind)

@[simp] theorem filled_nil (front : String) : filled front [] [] = front := by
  simp [filled]

/-- A filling stands between the text in front of it and the text behind it. -/
@[simp] theorem filled_cons (front filling text : String) (fillings behind : List String) :
    filled front (filling :: fillings) (text :: behind) =
      front ++ filling ++ filled text fillings behind := by
  simp [filled, String.join_cons, String.append_assoc]

/-- A text in front of the first gap belongs to what stands there. -/
theorem append_filled (s front : String) (fillings behind : List String) :
    s ++ filled front fillings behind = filled (s ++ front) fillings behind :=
  (String.append_assoc ..).symm

/-- Two texts with gaps are one, which has the gaps of both. -/
theorem exists_append_filled (front : String) (behind : List String) (front' : String)
    (behind' : List String) :
    ∃ front₁ behind₁, behind₁.length = behind.length + behind'.length ∧
      ∀ fillings fillings', fillings.length = behind.length →
        filled front fillings behind ++ filled front' fillings' behind' =
          filled front₁ (fillings ++ fillings') behind₁ := by
  induction behind generalizing front with
  | nil =>
    refine ⟨front ++ front', behind', (Nat.zero_add _).symm, fun fillings fillings' h => ?_⟩
    rw [List.length_eq_zero_iff.1 h, filled_nil, append_filled]
    rfl
  | cons text behind ih =>
    obtain ⟨front₁, behind₁, hlength, htexts⟩ := ih text
    refine ⟨front, front₁ :: behind₁, ?_, fun fillings fillings' h => ?_⟩
    · rw [List.length_cons, List.length_cons, hlength]
      omega
    · obtain ⟨filling, fillings, rfl⟩ := List.exists_cons_of_length_eq_add_one h
      rw [filled_cons, String.append_assoc, htexts fillings fillings' (Nat.succ.inj h),
        List.cons_append, filled_cons]

/-! ## Fillings -/

namespace Parameters

/-- What stands in a statement for values that follow those collected already. -/
def fillings (p : Parameters) (a : Adapter) (vs : List Value) : List String :=
  match p.mode with
  | .inline => vs.map a.quoteValue
  | .bound => (List.range' (p.count + 1) vs.length).map a.dialect.placeholder

/-- Nothing stands where there is no value. -/
@[simp] theorem fillings_nil (p : Parameters) (a : Adapter) : p.fillings a [] = [] := by
  unfold fillings
  cases p.mode <;> rfl

/-- One filling stands for each value. -/
theorem length_fillings (p : Parameters) (a : Adapter) (vs : List Value) :
    (p.fillings a vs).length = vs.length := by
  unfold fillings
  cases p.mode <;> simp

/-- What stands for later values goes on where the earlier ones end. -/
theorem fillings_append (p : Parameters) (a : Adapter) (us vs : List Value) :
    p.fillings a (us ++ vs) = p.fillings a us ++ (p.pushAll us).fillings a vs := by
  obtain ⟨mode, values⟩ := p
  cases mode with
  | inline => exact List.map_append
  | bound =>
    have hnext : values.length + 1 + us.length = (values ++ us).length + 1 := by
      rw [List.length_append]
      omega
    simp only [fillings, pushAll, count]
    rw [← List.map_append, ← hnext, List.range'_append_1, List.length_append]

/-- What stands for one value is what is written for it. -/
theorem fillings_singleton (p : Parameters) (a : Adapter) (v : Value) :
    p.fillings a [v] = [(p.write a v).1] := by
  obtain ⟨mode, values⟩ := p
  cases mode <;> rfl

end Parameters

/-! ## Uniform renderings -/

namespace Rendering

/-- A rendering that is written in one way, whatever was collected before and however values are
written. -/
inductive Uniform (a : Adapter) (r : Rendering) : Prop
  /-- The same fixed text, around what stands for the same values. -/
  | written (front : String) (behind : List String) (vs : List Value) :
      behind.length = vs.length →
      (∀ p, r.write p = (.ok (filled front (p.fillings a vs) behind), p.pushAll vs)) → Uniform a r
  /-- The same failure, behind the same values. -/
  | failed (e : QueryError) (vs : List Value) : (∀ p, r.write p = (.error e, p.pushAll vs)) →
      Uniform a r

namespace Uniform

variable {a : Adapter} {r s : Rendering} {rs : List Rendering}

/-- A text has no values. -/
theorem text (t : String) : (Rendering.text t).Uniform a :=
  .written t [] [] rfl fun p => by rw [p.fillings_nil, p.pushAll_nil, filled_nil, write_text]

/-- Nor has no text. -/
theorem empty : Rendering.empty.Uniform a :=
  text ""

/-- A failure is the same everywhere. -/
theorem fail (e : QueryError) : (Rendering.fail e).Uniform a :=
  .failed e [] fun p => by rw [p.pushAll_nil]; rfl

/-- So is a text that may be missing. -/
theorem ofExcept (x : Except QueryError String) : (Rendering.ofExcept x).Uniform a := by
  cases x with
  | ok t => exact text t
  | error e => exact fail e

/-- A value is written as what stands for it. -/
theorem value (v : Value) : (a.value v).Uniform a := by
  refine .written "" [""] [v] rfl fun p => ?_
  rw [p.fillings_singleton, filled_cons, filled_nil, String.empty_append, String.append_empty,
    ← p.write_snd a v]
  rfl

/-- The values of the first of two renderings come before those of the second. -/
theorem append (hr : r.Uniform a) (hs : s.Uniform a) : (r ++ s).Uniform a := by
  cases hr with
  | failed e vs h => exact .failed e vs fun p => write_append_of_error (h p) s
  | written front behind us hlength h =>
    cases hs with
    | failed e vs h' =>
      refine .failed e (us ++ vs) fun p => ?_
      rw [write_append_of_ok_error (h p) (h' _), p.pushAll_append]
    | written front' behind' vs hlength' h' =>
      obtain ⟨front₁, behind₁, hlength₁, htext⟩ := exists_append_filled front behind front' behind'
      refine .written front₁ behind₁ (us ++ vs) ?_ fun p => ?_
      · rw [hlength₁, hlength, hlength', List.length_append]
      · have hgaps : (p.fillings a us).length = behind.length :=
          (p.length_fillings a us).trans hlength.symm
        rw [write_append_of_ok (h p) (h' _), p.pushAll_append, p.fillings_append, htext _ _ hgaps]

/-- Parentheses are fixed text. -/
theorem paren (h : r.Uniform a) : r.paren.Uniform a :=
  ((text "(").append h).append (text ")")

/-- So is what stands between renderings. -/
theorem joinWith (sep : String) (h : ∀ r ∈ rs, r.Uniform a) :
    (Rendering.joinWith sep rs).Uniform a := by
  induction rs with
  | nil => exact empty
  | cons r rs ih =>
    obtain ⟨hr, hrs⟩ := List.forall_mem_cons.1 h
    cases rs with
    | nil => exact hr
    | cons => exact (hr.append (text sep)).append (ih hrs)

/-- Values are uniform. -/
theorem values (vs : List Value) : (a.values vs).Uniform a :=
  joinWith ", " (List.forall_mem_map.2 fun v _ => value v)

/-- A uniform rendering fails alike in both ways of writing it, or it gives text that differs in the
fillings of its gaps only. -/
theorem boundText_and_inlineText (h : r.Uniform a) :
    (∃ e, r.boundText = .error e ∧ r.inlineText = .error e) ∨
      ∃ front behind vs, behind.length = vs.length ∧
        r.boundText =
          .ok (filled front ((List.range' 1 vs.length).map a.dialect.placeholder) behind, vs) ∧
        r.inlineText = .ok (filled front (vs.map a.quoteValue) behind) := by
  cases h with
  | failed e vs h =>
    exact .inl ⟨e, boundText_of_error (congrArg Prod.fst (h .bound)), congrArg Prod.fst (h .inline)⟩
  | written front behind vs hlength h =>
    exact .inr ⟨front, behind, vs, hlength, boundText_of_ok (h .bound), congrArg Prod.fst (h .inline)⟩

end Uniform

end Rendering

end SqlCompose
