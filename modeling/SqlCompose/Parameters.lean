import SqlCompose.Value

/-!
# Parameters

While a statement is written down, its values either go into the text as literals or are collected,
with a placeholder in the text for each. Placeholders are numbered from one, and go on counting where
values were collected before.
-/

namespace SqlCompose

/-- How values are written. -/
inductive BindMode where
  /-- As literals. -/
  | inline
  /-- As placeholders. -/
  | bound
  deriving DecidableEq

/-- The values collected so far. -/
structure Parameters where
  mode : BindMode
  values : List Value
  deriving DecidableEq

namespace Parameters

/-- Nothing is collected, values are written as literals. -/
def inline : Parameters := ⟨.inline, []⟩

/-- Values are collected; there are none yet. -/
def bound : Parameters := ⟨.bound, []⟩

/-- One more value. -/
def push (p : Parameters) (v : Value) : Parameters :=
  { p with values := p.values ++ [v] }

/-- The number of values, which is the position of the one that was pushed last. -/
def count (p : Parameters) : Nat :=
  p.values.length

/-- The parameters behind values that were written: they are collected unless they are literals. -/
def pushAll (p : Parameters) (vs : List Value) : Parameters :=
  match p.mode with
  | .inline => p
  | .bound => { p with values := p.values ++ vs }

/-- Collecting no values changes nothing. -/
@[simp] theorem pushAll_nil (p : Parameters) : p.pushAll [] = p := by
  obtain ⟨mode, values⟩ := p
  cases mode with
  | inline => rfl
  | bound => simp [pushAll]

/-- What is written in two steps is collected in that order. -/
theorem pushAll_append (p : Parameters) (us vs : List Value) :
    p.pushAll (us ++ vs) = (p.pushAll us).pushAll vs := by
  obtain ⟨mode, values⟩ := p
  cases mode with
  | inline => rfl
  | bound => simp [pushAll]

/-- Literals leave nothing behind. -/
@[simp] theorem pushAll_inline (vs : List Value) : inline.pushAll vs = inline := rfl

end Parameters

end SqlCompose
