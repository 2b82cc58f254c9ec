import SqlCompose.Error
import SqlCompose.Parameters

/-!
# Renderings

A rendering writes a part of a statement. It is handed the parameters that were collected so far, and
gives the text or a failure, and the parameters behind it. It can add to the parameters, but it cannot
take anything away from them, nor choose how values are written.

Renderings run one after the other (`Rendering.bind`), each with the parameters that the one before
left behind. Nothing runs behind a failure, so the first one wins, and what was collected before it
stays. Joining texts with `++` is associative and has the empty text as its unit.
-/

namespace SqlCompose

/-- The writing of a part of a statement. -/
@[ext]
structure Rendering where
  /-- The text or the failure, and the parameters afterwards. -/
  write : Parameters → Except QueryError String × Parameters
  /-- Values are only added to the parameters. -/
  grows : ∀ p, ∃ vs, (write p).2 = p.pushAll vs

namespace Rendering

/-- A text without values. -/
def text (s : String) : Rendering where
  write p := (.ok s, p)
  grows p := ⟨[], p.pushAll_nil.symm⟩

/-- A failure. -/
def fail (e : QueryError) : Rendering where
  write p := (.error e, p)
  grows p := ⟨[], p.pushAll_nil.symm⟩

instance : Inhabited Rendering := ⟨text ""⟩

/-- No text. -/
def empty : Rendering := text ""

/-- Text, or the failure to find it. -/
def ofExcept : Except QueryError String → Rendering
  | .ok s => text s
  | .error e => fail e

/-- What depends on the text of a rendering is written behind its values, unless it fails. -/
def bind (r : Rendering) (f : String → Rendering) : Rendering where
  write p :=
    match r.write p with
    | (.ok s, p) => (f s).write p
    | (.error e, p) => (.error e, p)
  grows p := by
    obtain ⟨us, hus⟩ := r.grows p
    rcases hr : r.write p with ⟨_ | s, p'⟩ <;> rw [hr] at hus <;> obtain rfl := hus
    · exact ⟨us, rfl⟩
    · obtain ⟨vs, hvs⟩ := (f s).grows (p.pushAll us)
      exact ⟨us ++ vs, hvs.trans (p.pushAll_append us vs).symm⟩

/-- The rendering with another text made of its own. -/
def map (f : String → String) (r : Rendering) : Rendering :=
  r.bind fun s => text (f s)

/-- One text after the other. -/
def append (r s : Rendering) : Rendering :=
  r.bind fun front => s.map (front ++ ·)

instance : Append Rendering := ⟨append⟩

/-- The rendering in parentheses. -/
def paren (r : Rendering) : Rendering :=
  text "(" ++ r ++ text ")"

/-- All renderings in order, with a text between neighbours. -/
def joinWith (sep : String) : List Rendering → Rendering
  | [] => empty
  | [r] => r
  | r :: rs => r ++ text sep ++ joinWith sep rs

/-- The text with literals. -/
def inlineText (r : Rendering) : Except QueryError String :=
  (r.write .inline).1

/-- The text with placeholders, and the values in their order. -/
def boundText (r : Rendering) : Except QueryError (String × List Value) :=
  let (text, p) := r.write .bound
  text.map fun text => (text, p.values)

/-! ## One after the other -/

section
variable {r s t : Rendering} {f g : String → Rendering} {p p' : Parameters} {e : QueryError}

/-- Behind a text, writing goes on with what has been bound so far. -/
theorem write_bind_of_ok {front : String} (h : r.write p = (.ok front, p')) :
    (r.bind f).write p = (f front).write p' := by
  simp only [bind, h]

/-- A failure ends the writing, with what has been bound so far. -/
theorem write_bind_of_error (h : r.write p = (.error e, p')) :
    (r.bind f).write p = (.error e, p') := by
  simp only [bind, h]

/-- A plain text goes on at once. -/
@[simp] theorem text_bind (front : String) (f : String → Rendering) :
    (text front).bind f = f front := rfl

/-- Nothing is written behind a failure. -/
@[simp] theorem fail_bind (e : QueryError) (f : String → Rendering) :
    (fail e).bind f = fail e := rfl

/-- It does not matter how a chain of renderings is grouped. -/
theorem bind_assoc (r : Rendering) (f g : String → Rendering) :
    (r.bind f).bind g = r.bind fun front => (f front).bind g := by
  refine Rendering.ext (funext fun p => ?_)
  rcases h : r.write p with ⟨_ | front, p'⟩
  · rw [write_bind_of_error (write_bind_of_error h), write_bind_of_error h]
  · rw [write_bind_of_ok h]
    simp only [bind, h]

theorem bind_text (r : Rendering) : r.bind text = r := by
  refine Rendering.ext (funext fun p => ?_)
  rcases h : r.write p with ⟨_ | front, p'⟩
  · exact write_bind_of_error h
  · exact write_bind_of_ok h

/-- The text of the first stands in front of that of the second. -/
theorem append_def (r s : Rendering) :
    r ++ s = r.bind fun front => s.bind fun behind => text (front ++ behind) := rfl

/-- It does not matter how renderings are grouped that stand one behind the other. -/
theorem append_assoc (r s t : Rendering) : r ++ s ++ t = r ++ (s ++ t) := by
  simp only [append_def, bind_assoc, text_bind, String.append_assoc]

/-- Nothing may be written in front. -/
@[simp] theorem empty_append (r : Rendering) : empty ++ r = r := by
  simp only [append_def, empty, text_bind, String.empty_append]
  exact r.bind_text

/-- Nothing may be written behind. -/
@[simp] theorem append_empty (r : Rendering) : r ++ empty = r := by
  simp only [append_def, empty, text_bind, String.append_empty]
  exact r.bind_text

/-- A failure hides whatever would follow it. -/
@[simp] theorem fail_append (e : QueryError) (r : Rendering) : fail e ++ r = fail e := rfl

/-- Where values are literals, nothing is collected. -/
theorem write_inline_snd (r : Rendering) : (r.write .inline).2 = .inline := by
  obtain ⟨vs, hvs⟩ := r.grows .inline
  exact hvs

end

end Rendering

end SqlCompose
