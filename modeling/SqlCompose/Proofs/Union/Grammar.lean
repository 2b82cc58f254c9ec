/-!
# The grammar of written unions

How a sequence of tokens is read as a union of selections: `UNION` and `UNION ALL` bind alike and
nest from the left, and a group is read on its own. An ordering or a paging is for all that stands
before it in its group, or in the text if no group is open; nothing but the end follows it. So a
selection that is ordered by itself can only be a part of a union if it has a group of its own.

A text has at most one reading (`Compound.Reads.unique`). That is shown by a reader that goes
through the tokens once and keeps what it has read so far, with one frame for each open group.
-/

namespace SqlCompose

/-- A selection put together from atoms. -/
inductive Compound (α : Type) where
  | select (a : α)
  /-- The rows of the compound, in an order or cut to a page as the clauses say. -/
  | sorted (c : Compound α) (clauses : String)
  /-- The rows of both; with `all` those of the right are kept even if they are there already. -/
  | union (all : Bool) (left right : Compound α)

namespace Compound

/-- The atoms of a compound, from left to right. -/
def atoms {α : Type} : Compound α → List α
  | select a => [a]
  | sorted c _ => c.atoms
  | union _ left right => left.atoms ++ right.atoms

/-- A token of a written compound. -/
inductive Token (α : Type) where
  | select (a : α)
  /-- An ordering, a paging, or both. -/
  | sorting (clauses : String)
  | union (all : Bool)
  /-- What opens a group. -/
  | opening
  | closing

/-- Tokens as a group. -/
def Token.group {α : Type} (ts : List (Token α)) : List (Token α) :=
  .opening :: ts ++ [.closing]

/-- What a stretch of tokens can be, from the tightest to the loosest. -/
inductive Level where
  /-- An atom, or a group. -/
  | operand
  /-- Operands joined by `UNION`. -/
  | chain
  /-- All there is, or all there is in a group. -/
  | text

variable {α : Type}

/-- The compounds that tokens are read as. -/
inductive Reads : Level → List (Token α) → Compound α → Prop
  | select (a : α) : Reads .operand [.select a] (.select a)
  | group {ts c} : Reads .text ts c → Reads .operand (Token.group ts) c
  | operand {ts c} : Reads .operand ts c → Reads .chain ts c
  | union {ts us all c d} : Reads .chain ts c → Reads .operand us d →
      Reads .chain (ts ++ .union all :: us) (.union all c d)
  | chain {ts c} : Reads .chain ts c → Reads .text ts c
  | sorted {ts c} (clauses : String) : Reads .chain ts c →
      Reads .text (ts ++ [.sorting clauses]) (.sorted c clauses)

/-! ## The reader -/

/-- What has been read in front of an operand, inside one group: nothing, or a compound behind which
a union stands. -/
abbrev Lead (α : Type) := Option (Compound α × Bool)

/-- The operand behind what was read before it. -/
def Lead.take : Lead α → Compound α → Compound α
  | none, c => c
  | some (left, all), c => .union all left c

/-- Where the reader stands. `outer` is what stands in front of each open group, the innermost
first. -/
inductive ReaderState (α : Type) where
  /-- An operand has to follow. -/
  | wanting (lead : Lead α) (outer : List (Lead α))
  /-- An operand is complete. -/
  | holding (c : Compound α) (outer : List (Lead α))
  /-- What was read is sorted, and has to end. -/
  | sealed (c : Compound α) (outer : List (Lead α))

namespace ReaderState

/-- One token further, if it may stand there. -/
def step : ReaderState α → Token α → Option (ReaderState α)
  | wanting lead outer, .select a => some (holding (lead.take (.select a)) outer)
  | wanting lead outer, .opening => some (wanting none (lead :: outer))
  | holding c outer, .union all => some (wanting (some (c, all)) outer)
  | holding c outer, .sorting clauses => some (sealed (.sorted c clauses) outer)
  | holding c (lead :: outer), .closing => some (holding (lead.take c) outer)
  | sealed c (lead :: outer), .closing => some (holding (lead.take c) outer)
  | _, _ => none

/-- What was read, if the tokens may end here. -/
def result : ReaderState α → Option (Compound α)
  | holding c [] => some c
  | sealed c [] => some c
  | _ => none

/-- All tokens further. -/
def run (s : ReaderState α) (ts : List (Token α)) : Option (ReaderState α) :=
  ts.foldlM step s

/-- Tokens are read one after the other. -/
theorem run_append (s : ReaderState α) (ts us : List (Token α)) :
    s.run (ts ++ us) = (s.run ts).bind (·.run us) :=
  List.foldlM_append

/-- The first token is read first. -/
theorem run_cons (s : ReaderState α) (t : Token α) (ts : List (Token α)) :
    s.run (t :: ts) = (s.step t).bind (·.run ts) :=
  List.foldlM_cons

theorem run_singleton (s : ReaderState α) (t : Token α) : s.run [t] = s.step t := by
  rw [run_cons]
  cases s.step t <;> rfl

end ReaderState

/-- What the reader does on tokens that can be read, level by level. -/
def ReadOff : Level → List (Token α) → Compound α → Prop
  | .operand, ts, c => ∀ lead outer,
      (ReaderState.wanting lead outer).run ts = some (.holding (Lead.take lead c) outer)
  | .chain, ts, c => ∀ outer, (ReaderState.wanting none outer).run ts = some (.holding c outer)
  | .text, ts, c => ∃ s : List (Lead α) → ReaderState α, (s []).result = some c ∧
      (∀ lead outer, (s (lead :: outer)).step .closing =
        some (.holding (Lead.take lead c) outer)) ∧
      ∀ outer, (ReaderState.wanting none outer).run ts = some (s outer)

/-- The reader follows the grammar. -/
theorem Reads.readOff {level : Level} {ts : List (Token α)} {c : Compound α}
    (h : Reads level ts c) : ReadOff level ts c := by
  induction h with
  | select a => exact fun lead outer => ReaderState.run_singleton _ _
  | group _ ih =>
    intro lead outer
    obtain ⟨s, -, hclose, hrun⟩ := ih
    rw [Token.group, List.cons_append, ReaderState.run_cons, ReaderState.step, Option.bind_some,
      ReaderState.run_append, hrun, Option.bind_some, ReaderState.run_singleton, hclose]
  | operand _ ih => exact ih none
  | union _ _ ihc ihd =>
    intro outer
    rw [ReaderState.run_append, ihc, Option.bind_some, ReaderState.run_cons, ReaderState.step,
      Option.bind_some, ihd]
    rfl
  | @chain ts c _ ih => exact ⟨.holding c, rfl, fun _ _ => rfl, ih⟩
  | @sorted ts c clauses _ ih =>
    refine ⟨.sealed (.sorted c clauses), rfl, fun _ _ => rfl, fun outer => ?_⟩
    rw [ReaderState.run_append, ih, Option.bind_some, ReaderState.run_singleton]
    rfl

/-- The compound that a text is read as, if there is one. -/
def read? (ts : List (Token α)) : Option (Compound α) :=
  ((ReaderState.wanting none []).run ts).bind ReaderState.result

/-- A text that the grammar reads is read. -/
theorem Reads.read?_eq {ts : List (Token α)} {c : Compound α} (h : Reads .text ts c) :
    read? ts = some c := by
  obtain ⟨s, hresult, -, hrun⟩ := h.readOff
  rw [read?, hrun, Option.bind_some, hresult]

/-- A text has one reading. -/
theorem Reads.unique {ts : List (Token α)} {c d : Compound α} (hc : Reads .text ts c)
    (hd : Reads .text ts d) : c = d :=
  Option.some.inj (hc.read?_eq.symm.trans hd.read?_eq)

/-- The one reading of a text that has one. -/
theorem Reads.iff_eq {ts : List (Token α)} {d : Compound α} (hd : Reads .text ts d)
    (e : Compound α) : Reads .text ts e ↔ e = d := by
  refine ⟨fun he => he.unique hd, ?_⟩
  rintro rfl
  exact hd

/-! ## Ordered parts -/

/-- Wherever tokens sort something, it is one atom, and nothing else is in its group. -/
inductive SortedAlone : List (Token α) → Prop
  | nil : SortedAlone []
  | select (a : α) {ts} : SortedAlone ts → SortedAlone (.select a :: ts)
  | union (all : Bool) {ts} : SortedAlone ts → SortedAlone (.union all :: ts)
  | opening {ts} : SortedAlone ts → SortedAlone (.opening :: ts)
  | closing {ts} : SortedAlone ts → SortedAlone (.closing :: ts)
  | group (a : α) (clauses : String) {ts} : SortedAlone ts →
      SortedAlone (Token.group [.select a, .sorting clauses] ++ ts)

/-- Tokens may be put together. -/
theorem SortedAlone.append {ts us : List (Token α)} (hts : SortedAlone ts)
    (hus : SortedAlone us) : SortedAlone (ts ++ us) := by
  induction hts with
  | nil => exact hus
  | select a _ ih => exact .select a ih
  | union all _ ih => exact .union all ih
  | opening _ ih => exact .opening ih
  | closing _ ih => exact .closing ih
  | group a clauses _ ih => exact .group a clauses ih

/-- Tokens that are read as an operand. -/
structure Operand (ts : List (Token α)) (c : Compound α) : Prop where
  reads : Reads .operand ts c
  sortedAlone : SortedAlone ts

/-- Tokens that are read as a text: a chain, or one atom that is sorted. -/
inductive Spells : List (Token α) → Compound α → Prop
  | chain {ts c} : Reads .chain ts c → SortedAlone ts → Spells ts c
  | sorted (a : α) (clauses : String) :
      Spells [.select a, .sorting clauses] (.sorted (.select a) clauses)

variable {ts : List (Token α)} {c : Compound α}

/-- A selection is an operand. -/
theorem Operand.select (a : α) : Operand [.select a] (.select a) :=
  ⟨.select a, .select a .nil⟩

/-- An operand is a chain of one. -/
theorem Operand.spells (h : Operand ts c) : Spells ts c :=
  .chain (.operand h.reads) h.sortedAlone

namespace Spells

/-- What is spelled is read as a text. -/
theorem reads (h : Spells ts c) : Reads .text ts c := by
  cases h with
  | chain h _ => exact .chain h
  | sorted a clauses => exact .sorted clauses (.operand (.select a))

/-- What is sorted outside of groups is one atom, and nothing else is there. -/
theorem sortedAlone_or (h : Spells ts c) :
    SortedAlone ts ∨ ∃ a clauses, ts = [.select a, .sorting clauses] := by
  cases h with
  | chain _ hsorted => exact .inl hsorted
  | sorted a clauses => exact .inr ⟨a, clauses, rfl⟩

/-- In a group, whatever is spelled is an operand. -/
theorem group (h : Spells ts c) : Operand (Token.group ts) c := by
  refine ⟨.group h.reads, ?_⟩
  cases h with
  | chain _ hsorted => exact .opening (hsorted.append (.closing .nil))
  | sorted a clauses => exact .group a clauses .nil

end Spells

end Compound

end SqlCompose
