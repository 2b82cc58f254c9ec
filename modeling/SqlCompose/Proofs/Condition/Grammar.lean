import SqlCompose.Proofs.Condition.Token

/-!
# The grammar of written conditions

How a sequence of tokens is read as a condition: `NOT` binds tighter than `AND`, and `AND` tighter
than `OR`; what stands in parentheses is read on its own. A leaf is one operand. Raw SQL is not
looked into, so it can only be read where nothing else is beside it: as a whole text, or alone in
its parentheses.

A text has at most one reading (`Reads.unique`). That is shown by a reader that goes through the
tokens once and keeps what it has read so far, with one frame for each parenthesis that is open.
-/

namespace SqlCompose

/-- What a stretch of tokens can be, from the tightest to the loosest. -/
inductive Level where
  /-- A leaf, a negation, or anything in parentheses. -/
  | operand
  /-- Operands joined by `AND`. -/
  | conjunction
  /-- Conjunctions joined by `OR`. -/
  | disjunction
  /-- All there is, or all there is in a pair of parentheses. -/
  | text
  deriving DecidableEq

namespace Token

variable {α : Type}

/-- The conditions that tokens are read as. Joined operands nest from the left. -/
inductive Reads : Level → List (Token α) → Condition α → Prop
  | leaf (a : α) : Reads .operand [.leaf a] (.leaf a)
  | paren {ts c} : Reads .text ts c → Reads .operand (paren ts) c
  | not {ts c} : Reads .operand ts c → Reads .operand (.not :: ts) (.not c)
  | operand {ts c} : Reads .operand ts c → Reads .conjunction ts c
  | and {ts us c d} : Reads .conjunction ts c → Reads .operand us d →
      Reads .conjunction (ts ++ .and :: us) (.all [c, d])
  | conjunction {ts c} : Reads .conjunction ts c → Reads .disjunction ts c
  | or {ts us c d} : Reads .disjunction ts c → Reads .conjunction us d →
      Reads .disjunction (ts ++ .or :: us) (.any [c, d])
  | disjunction {ts c} : Reads .disjunction ts c → Reads .text ts c
  | raw (sql : String) : Reads .text [.raw sql] (.raw sql)

/-- Nothing is read of no tokens. -/
theorem Reads.ne_nil {level : Level} {ts : List (Token α)} {c : Condition α}
    (h : Reads level ts c) : ts ≠ [] := by
  induction h with
  | leaf | paren | not | raw => exact List.cons_ne_nil _ _
  | and | or => simp
  | operand _ ih | conjunction _ ih | disjunction _ ih => exact ih

/-! ## The reader -/

/-- What has been read in front of an operand, inside one pair of parentheses. -/
structure Lead (α : Type) where
  /-- The parts before the last `OR`. -/
  disjuncts : Option (Condition α)
  /-- The operands between there and the last `AND`. -/
  conjuncts : Option (Condition α)
  /-- The number of negations right before the operand. -/
  negations : Nat

/-- Nothing has been read. -/
def Lead.empty : Lead α := ⟨none, none, 0⟩

/-- Under a number of negations. -/
def negated : Nat → Condition α → Condition α
  | 0, c => c
  | n + 1, c => negated n (.not c)

/-- The operand behind what was read before it, up to the last `OR`. -/
def Lead.conjoin (l : Lead α) (c : Condition α) : Condition α :=
  match l.conjuncts with
  | none => negated l.negations c
  | some b => .all [b, negated l.negations c]

/-- A conjunction behind the parts before the last `OR`. -/
def disjoin (disjuncts : Option (Condition α)) (c : Condition α) : Condition α :=
  match disjuncts with
  | none => c
  | some b => .any [b, c]

/-- Where the reader stands. `outer` is what stands in front of each open parenthesis, the innermost
first. -/
inductive ReaderState (α : Type) where
  /-- An operand has to follow. -/
  | wanting (lead : Lead α) (outer : List (Lead α))
  /-- An operand is complete. -/
  | holding (disjuncts : Option (Condition α)) (conjunction : Condition α) (outer : List (Lead α))
  /-- Raw SQL was read, beside which nothing may stand. -/
  | sealed (c : Condition α) (outer : List (Lead α))

/-- The state behind an operand. -/
def Lead.take (l : Lead α) (c : Condition α) (outer : List (Lead α)) : ReaderState α :=
  .holding l.disjuncts (l.conjoin c) outer

namespace ReaderState

/-- One token further, if it may stand there. -/
def step : ReaderState α → Token α → Option (ReaderState α)
  | wanting lead outer, .leaf a => some (lead.take (.leaf a) outer)
  | wanting lead outer, .not => some (wanting { lead with negations := lead.negations + 1 } outer)
  | wanting lead outer, .opening => some (wanting .empty (lead :: outer))
  | wanting ⟨none, none, 0⟩ outer, .raw sql => some (sealed (.raw sql) outer)
  | holding disjuncts c outer, .and => some (wanting ⟨disjuncts, some c, 0⟩ outer)
  | holding disjuncts c outer, .or => some (wanting ⟨some (disjoin disjuncts c), none, 0⟩ outer)
  | holding disjuncts c (lead :: outer), .closing => some (lead.take (disjoin disjuncts c) outer)
  | sealed c (lead :: outer), .closing => some (lead.take c outer)
  | _, _ => none

/-- What was read, if the tokens may end here. -/
def result : ReaderState α → Option (Condition α)
  | holding disjuncts c [] => some (disjoin disjuncts c)
  | sealed c [] => some c
  | _ => none

/-- All tokens further. -/
def run (s : ReaderState α) (ts : List (Token α)) : Option (ReaderState α) :=
  ts.foldlM step s

/-- Tokens are read one after the other. -/
theorem run_append (s : ReaderState α) (ts us : List (Token α)) :
    s.run (ts ++ us) = (s.run ts).bind (·.run us) :=
  List.foldlM_append

/-- The first token is read first. -/
theorem run_cons (s : ReaderState α) (t : Token α) (ts : List (Token α)) :
    s.run (t :: ts) = (s.step t).bind (·.run ts) :=
  List.foldlM_cons

theorem run_singleton (s : ReaderState α) (t : Token α) : s.run [t] = s.step t := by
  rw [run_cons]
  cases s.step t <;> rfl

end ReaderState

/-- What the reader does on tokens that can be read, level by level. Up to a conjunction the tokens
add to what is in front of them; from a disjunction on they begin on their own. -/
def ReadOff : Level → List (Token α) → Condition α → Prop
  | .operand, ts, c => ∀ lead outer,
      (ReaderState.wanting lead outer).run ts = some (lead.take c outer)
  | .conjunction, ts, c => ∀ disjuncts outer,
      (ReaderState.wanting ⟨disjuncts, none, 0⟩ outer).run ts = some (.holding disjuncts c outer)
  | .disjunction, ts, c => ∃ disjuncts d, disjoin disjuncts d = c ∧ ∀ outer,
      (ReaderState.wanting .empty outer).run ts = some (.holding disjuncts d outer)
  | .text, ts, c => ∃ s : List (Lead α) → ReaderState α, (s []).result = some c ∧
      (∀ lead outer, (s (lead :: outer)).step .closing = some (lead.take c outer)) ∧
      ∀ outer, (ReaderState.wanting .empty outer).run ts = some (s outer)

/-- The reader follows the grammar. -/
theorem Reads.readOff {level : Level} {ts : List (Token α)} {c : Condition α}
    (h : Reads level ts c) : ReadOff level ts c := by
  induction h with
  | leaf a => exact fun lead outer => ReaderState.run_singleton _ _
  | paren _ ih =>
    intro lead outer
    obtain ⟨s, -, hclose, hrun⟩ := ih
    rw [Token.paren, List.cons_append, ReaderState.run_cons, ReaderState.step, Option.bind_some,
      ReaderState.run_append, hrun, Option.bind_some, ReaderState.run_singleton, hclose]
  | not _ ih =>
    intro lead outer
    rw [ReaderState.run_cons, ReaderState.step, Option.bind_some, ih]
    rfl
  | operand _ ih =>
    intro disjuncts outer
    rw [ih]
    rfl
  | and _ _ ihc ihd =>
    intro disjuncts outer
    rw [ReaderState.run_append, ihc, Option.bind_some, ReaderState.run_cons, ReaderState.step,
      Option.bind_some, ihd]
    rfl
  | @conjunction ts c _ ih => exact ⟨none, c, rfl, ih none⟩
  | @or ts us c d _ _ ihc ihd =>
    obtain ⟨disjuncts, e, rfl, hrun⟩ := ihc
    refine ⟨some (disjoin disjuncts e), d, rfl, fun outer => ?_⟩
    rw [ReaderState.run_append, hrun, Option.bind_some, ReaderState.run_cons, ReaderState.step,
      Option.bind_some, ihd]
  | disjunction _ ih =>
    obtain ⟨disjuncts, d, rfl, hrun⟩ := ih
    exact ⟨.holding disjuncts d, rfl, fun _ _ => rfl, hrun⟩
  | raw sql =>
    refine ⟨.sealed (.raw sql), rfl, fun _ _ => rfl, fun _ => ?_⟩
    exact ReaderState.run_singleton _ _

/-- The condition that a text is read as, if there is one. -/
def read? (ts : List (Token α)) : Option (Condition α) :=
  ((ReaderState.wanting .empty []).run ts).bind ReaderState.result

/-- A text that the grammar reads is read. -/
theorem Reads.read?_eq {ts : List (Token α)} {c : Condition α} (h : Reads .text ts c) :
    read? ts = some c := by
  obtain ⟨s, hresult, -, hrun⟩ := h.readOff
  rw [read?, hrun, Option.bind_some, hresult]

/-- A text has one reading. -/
theorem Reads.unique {ts : List (Token α)} {c d : Condition α} (hc : Reads .text ts c)
    (hd : Reads .text ts d) : c = d :=
  Option.some.inj (hc.read?_eq.symm.trans hd.read?_eq)

/-- The one reading of a text that has one. -/
theorem Reads.iff_eq {ts : List (Token α)} {d : Condition α} (hd : Reads .text ts d)
    (e : Condition α) : Reads .text ts e ↔ e = d := by
  refine ⟨fun he => he.unique hd, ?_⟩
  rintro rfl
  exact hd

/-! ## Bare disjunctions -/

/-- Whether an `OR` stands outside all parentheses, of which `depth` are open. -/
def bareOr (depth : Nat) : List (Token α) → Bool
  | [] => false
  | .or :: ts => depth == 0 || bareOr depth ts
  | .opening :: ts => bareOr (depth + 1) ts
  | .closing :: ts => bareOr (depth - 1) ts
  | _ :: ts => bareOr depth ts

/-- What can be read has no bare `OR` where a parenthesis is open around it. -/
theorem Reads.bareOr_succ {level : Level} {ts : List (Token α)} {c : Condition α}
    (h : Reads level ts c) (depth : Nat) (rest : List (Token α)) :
    bareOr (depth + 1) (ts ++ rest) = bareOr (depth + 1) rest := by
  induction h generalizing depth rest with
  | leaf | raw => rfl
  | paren _ ih => simp [Token.paren, bareOr, ih]
  | not _ ih => simp [bareOr, ih]
  | operand _ ih | conjunction _ ih | disjunction _ ih => exact ih depth rest
  | and _ _ ihc ihd => simp [bareOr, ihc, ihd]
  | or _ _ ihc ihd => simp [bareOr, ihc, ihd]

/-- Neither has an operand or a conjunction, outside its parentheses. -/
theorem Reads.bareOr_zero {level : Level} {ts : List (Token α)} {c : Condition α}
    (h : Reads level ts c) (hlevel : level = .operand ∨ level = .conjunction)
    (rest : List (Token α)) : bareOr 0 (ts ++ rest) = bareOr 0 rest := by
  induction h generalizing rest with
  | leaf => rfl
  | paren h _ => simp [Token.paren, bareOr, h.bareOr_succ]
  | not _ ih => simpa [bareOr] using ih (.inl rfl) rest
  | operand _ ih => exact ih (.inl rfl) rest
  | and _ _ ihc ihd => simp [bareOr, ihc (.inr rfl), ihd (.inl rfl)]
  | conjunction | or | disjunction | raw => simp at hlevel

/-- An `OR` behind a disjunction is bare. -/
theorem Reads.bareOr_or {level : Level} {ts : List (Token α)} {c : Condition α}
    (h : Reads level ts c) (hlevel : level = .disjunction) (rest : List (Token α)) :
    bareOr 0 (ts ++ .or :: rest) = true := by
  induction h generalizing rest with
  | conjunction h _ => rw [h.bareOr_zero (.inr rfl)]; rfl
  | or _ _ ihc _ =>
    rw [List.append_assoc]
    exact ihc rfl _
  | leaf | paren | not | operand | and | disjunction | raw => simp at hlevel

/-- A disjunction is one conjunction, unless an `OR` stands bare in it; then it is cut at the last
of these. -/
theorem Reads.cases_bareOr {ts : List (Token α)} {c : Condition α}
    (h : Reads .disjunction ts c) :
    (bareOr 0 ts = false ∧ Reads .conjunction ts c) ∨
      bareOr 0 ts = true ∧ ∃ us vs d e, ts = us ++ .or :: vs ∧ c = .any [d, e] ∧
        Reads .disjunction us d ∧ Reads .conjunction vs e := by
  cases h with
  | conjunction h =>
    refine .inl ⟨?_, h⟩
    have := h.bareOr_zero (.inr rfl) []
    rwa [List.append_nil] at this
  | or hc hd => exact .inr ⟨hc.bareOr_or rfl _, _, _, _, _, rfl, rfl, hc, hd⟩

end Token

end SqlCompose
