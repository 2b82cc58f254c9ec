import SqlCompose.Proofs.Condition.Writing
import SqlCompose.Proofs.Query.Binding
import SqlCompose.Proofs.Rendering.Outcome

/-!
# The comparisons of a condition, from left to right

The comparisons of a condition are among its tokens in their order, each of them once, however many
of its parts are empty (`Condition.comparisons_tokens`). All else that is written of a condition has
no values and does not fail, so a condition comes to what its comparisons come to, one after the other
(`Condition.outcome_rendering`): it fails with the first of them that does, and has the values of those
before it.

The standard lookups write a comparison in one way wherever it stands. Then what is written of a
condition, and what is collected with it, is known from what is written of each of its comparisons
alone (`Condition.write_of_comparisons`).
-/

namespace SqlCompose

open Token

/-! ## Comparisons and tokens -/

/-- The leaf that a token is. -/
def Token.leaf? {α : Type} : Token α → Option α
  | .leaf a => some a
  | _ => none

namespace Condition

variable {α : Type}

/-- The leaves of a condition that are no raw SQL, from left to right. -/
def comparisons (c : Condition α) : List α :=
  c.leaves.filterMap leaf?

/-- `comparisons` of all conditions of a list. -/
def comparisonsOf (cs : List (Condition α)) : List α :=
  (leavesOf cs).filterMap leaf?

/-- Parentheses add no leaves. -/
theorem filterMap_paren (ts : List (Token α)) : (paren ts).filterMap leaf? = ts.filterMap leaf? := by
  simp [paren, List.filterMap_cons, leaf?]

/-- The leaves of joined parts are those of the parts, in order. -/
theorem filterMap_join {glue : Token α} (hglue : glue.leaf? = none) (tss : List (List (Token α))) :
    (join glue tss).filterMap leaf? = tss.flatMap (·.filterMap leaf?) := by
  cases tss with
  | nil => rfl
  | cons ts tss =>
    rw [join_cons, List.filterMap_append, List.flatMap_cons, List.filterMap_flatMap]
    simp [hglue]

/-- So are those of a group. -/
theorem filterMap_group {glue : Token α} (hglue : glue.leaf? = none) (nested : Bool)
    (tss : List (List (Token α))) :
    (group glue nested tss).filterMap leaf? = tss.flatMap (·.filterMap leaf?) := by
  rw [group]
  split
  · rw [filterMap_paren, filterMap_join hglue]
  · exact filterMap_join hglue tss

mutual

/-- The comparisons of a condition are written once each, in their order. -/
theorem comparisons_tokens (nested : Bool) : ∀ c : Condition α,
    (c.tokens nested).filterMap leaf? = c.comparisons
  | .leaf _ => rfl
  | .raw sql => by
    rw [tokens]
    split
    · rfl
    · cases nested <;> rfl
  | .all parts => by
    rw [tokens, filterMap_group rfl]
    exact comparisons_partTokens _ parts
  | .any parts => by
    rw [tokens, filterMap_group rfl]
    exact comparisons_partTokens _ parts
  | .not part => by
    have hpart : (part.tokens false).filterMap leaf? = (Condition.not part).comparisons :=
      comparisons_tokens false part
    by_cases hts : part.tokens false = []
    · rw [← hpart, tokens, hts]
    · rw [tokens_not hts, ← hpart]
      exact filterMap_paren _

/-- The leaves among the tokens of several parts are their comparisons, in order. -/
theorem comparisons_partTokens (nested : Bool) : ∀ cs : List (Condition α),
    (partTokens nested cs).flatMap (·.filterMap leaf?) = comparisonsOf cs
  | [] => rfl
  | c :: cs => by
    have hc := comparisons_tokens nested c
    have hcs := comparisons_partTokens nested cs
    have hcons : comparisonsOf (c :: cs) = c.comparisons ++ comparisonsOf cs :=
      List.filterMap_append
    rw [partTokens, hcons]
    split
    · next hempty =>
      -- No comparison is dropped with an empty part, for it has none.
      rw [← hc, tokens_eq_nil nested hempty, hcs]
      rfl
    · rw [List.flatMap_cons, hc, hcs]

end

end Condition

/-! ## Failures and parameters -/

/-- Tokens come to what their leaves come to. -/
theorem Adapter.outcome_tokensRendering (a : Adapter) (ts : List (Token Test)) (p : Parameters) :
    (a.tokensRendering ts).outcome p =
      Rendering.inTurn ((ts.filterMap leaf?).map (Test.rendering a)) p := by
  induction ts generalizing p with
  | nil => rfl
  | cons t ts ih =>
    rw [tokensRendering]
    cases t with
    | leaf t =>
      exact Rendering.outcome_append (fun p => (Rendering.inTurn_singleton _ p).symm) ih p
    | raw | opening | closing | and | or | not =>
      exact (Rendering.outcome_text_append _ _ p).trans (ih p)

/-- A condition comes to what its comparisons come to, one after the other. -/
theorem Condition.outcome_rendering {a : Adapter} (ha : a.lookups.NeverEmpty) (c : Condition Test)
    (p : Parameters) :
    (c.rendering a).outcome p = Rendering.inTurn (c.comparisons.map (Test.rendering a)) p := by
  rw [rendering_eq_tokensRendering ha, Adapter.outcome_tokensRendering, comparisons_tokens]

/-! ## What is collected -/

/-- The text of a rendering, or its failure, and the values that it leaves behind where no value was
collected before. -/
def Rendering.alone (mode : BindMode) (r : Rendering) : Except QueryError String × List Value :=
  ((r.write ⟨mode, []⟩).1, (r.write ⟨mode, []⟩).2.values)

/-- What is written of a comparison that is the whole condition. -/
def Test.alone (a : Adapter) (mode : BindMode) (t : Test) : Except QueryError String × List Value :=
  ((Condition.leaf t).rendering a).alone mode

/-- Where values are pushed, they follow those that are there, or they are literals. -/
theorem Parameters.pushAll_eq (p : Parameters) (vs : List Value) :
    p.pushAll vs = ⟨p.mode, p.values ++ (Parameters.pushAll ⟨p.mode, []⟩ vs).values⟩ := by
  obtain ⟨mode, values⟩ := p
  cases mode <;> simp [pushAll]

/-- A uniform rendering comes to what it comes to alone, behind the values that are there. -/
theorem Rendering.Uniform.outcome_eq {a : Adapter} {r : Rendering} (h : r.Uniform a)
    (p : Parameters) :
    r.outcome p = ((r.outcome ⟨p.mode, []⟩).1, ⟨p.mode, p.values ++ (r.alone p.mode).2⟩) := by
  cases h with
  | written front behind vs _ h =>
    rw [outcome_of_ok (h p), outcome_of_ok (h ⟨p.mode, []⟩), alone, h ⟨p.mode, []⟩, p.pushAll_eq]
  | failed e vs h =>
    rw [outcome_of_error (h p), outcome_of_error (h ⟨p.mode, []⟩), alone, h ⟨p.mode, []⟩,
      p.pushAll_eq]

namespace Test

variable {a : Adapter} {mode : BindMode} {e : QueryError} {t : Test} {ts : List Test}
  {p p' : Parameters}

/-- A comparison that is the whole condition is written as the comparison. -/
theorem alone_eq (a : Adapter) (mode : BindMode) (t : Test) :
    t.alone a mode = (t.rendering a).alone mode := by
  rw [Test.alone, Condition.rendering, Condition.renderingIn]

/-- A comparison that cannot be written alone cannot be written anywhere, and what it collects
follows what is there. -/
theorem outcome_of_alone_error (ha : a.lookups = Lookup.standard)
    (h : (t.alone a p.mode).1 = .error e) :
    (t.rendering a).outcome p = (some e, ⟨p.mode, p.values ++ (t.alone a p.mode).2⟩) := by
  obtain ⟨field, operator, operand⟩ := t
  have huniform := uniform_rendering ha field operator (Operand.uniform_comparand ha operand)
  rw [alone_eq] at h ⊢
  rw [huniform.outcome_eq, Rendering.outcome_of_error (Prod.ext h rfl)]

/-- A comparison that can be written alone can be written anywhere. -/
theorem outcome_of_alone_ok (ha : a.lookups = Lookup.standard)
    (h : ∃ text, (t.alone a p.mode).1 = .ok text) :
    (t.rendering a).outcome p = (none, ⟨p.mode, p.values ++ (t.alone a p.mode).2⟩) := by
  obtain ⟨text, h⟩ := h
  obtain ⟨field, operator, operand⟩ := t
  have huniform := uniform_rendering ha field operator (Operand.uniform_comparand ha operand)
  rw [alone_eq] at h ⊢
  rw [huniform.outcome_eq, Rendering.outcome_of_ok (Prod.ext h rfl)]

/-- Comparisons that can be written alone can be written one after the other, and collect what each
of them collects. -/
theorem inTurn_of_ok (ha : a.lookups = Lookup.standard)
    (h : ∀ t ∈ ts, ∃ text, (t.alone a p.mode).1 = .ok text) :
    Rendering.inTurn (ts.map (Test.rendering a)) p =
      (none, ⟨p.mode, p.values ++ ts.flatMap fun t => (t.alone a p.mode).2⟩) := by
  induction ts generalizing p with
  | nil => rw [List.flatMap_nil, List.append_nil, List.map_nil, Rendering.inTurn]
  | cons t ts ih =>
    obtain ⟨ht, hts⟩ := List.forall_mem_cons.1 h
    rw [List.map_cons, Rendering.inTurn, outcome_of_alone_ok ha ht, List.flatMap_cons,
      ← List.append_assoc]
    exact ih hts

/-- The first comparison that cannot be written alone decides, and those behind it are not written. -/
theorem inTurn_of_error (ha : a.lookups = Lookup.standard)
    (hts : ∀ s ∈ ts, ∃ text, (s.alone a p.mode).1 = .ok text) (ht : (t.alone a p.mode).1 = .error e)
    (behind : List Test) :
    Rendering.inTurn ((ts ++ t :: behind).map (Test.rendering a)) p =
      (some e, ⟨p.mode, (p.values ++ ts.flatMap fun s => (s.alone a p.mode).2) ++
        (t.alone a p.mode).2⟩) := by
  have hfails := outcome_of_alone_error ha ht
    (p := ⟨p.mode, p.values ++ ts.flatMap fun s => (s.alone a p.mode).2⟩)
  rw [List.map_append, Rendering.inTurn_append_of_none (inTurn_of_ok ha hts), List.map_cons,
    Rendering.inTurn, hfails]

/-- Either all comparisons can be written alone, or one of them is the first that cannot. -/
theorem all_ok_or_first_error (a : Adapter) (mode : BindMode) (ts : List Test) :
    (∀ t ∈ ts, ∃ text, (t.alone a mode).1 = .ok text) ∨
      ∃ before t behind e, ts = before ++ t :: behind ∧
        (∀ s ∈ before, ∃ text, (s.alone a mode).1 = .ok text) ∧ (t.alone a mode).1 = .error e := by
  induction ts with
  | nil => exact .inl nofun
  | cons t ts ih =>
    cases ht : (t.alone a mode).1 with
    | error e => exact .inr ⟨[], t, ts, e, rfl, nofun, ht⟩
    | ok text =>
      obtain hts | ⟨before, s, behind, e, rfl, hbefore, hs⟩ := ih
      · exact .inl (List.forall_mem_cons.2 ⟨⟨text, ht⟩, hts⟩)
      · exact .inr ⟨t :: before, s, behind, e, rfl,
          List.forall_mem_cons.2 ⟨⟨text, ht⟩, hbefore⟩, hs⟩

/-- A comparison that fails collects nothing by itself, but a query in it may. -/
theorem alone_snd_of_error (ha : a.lookups = Lookup.standard) (h : (t.alone a mode).1 = .error e) :
    (t.alone a mode).2 = [] ∨ ∃ q, t.operand = .query q ∧
      (q.rendering a).alone mode = (.error e, (t.alone a mode).2) := by
  rw [alone_eq] at h ⊢
  obtain hnone | ⟨q, hq, hwrite⟩ := write_of_failure ha (Prod.ext h rfl)
  · exact .inl (congrArg Parameters.values hnone)
  · refine .inr ⟨q, hq, ?_⟩
    rw [Rendering.alone, hwrite]
    rfl

end Test

section
variable {a : Adapter}

/-- The comparisons of a condition are written from left to right, each of them once. A condition can
be written just if each of its comparisons can be written alone, and what is collected then is what
was before it and what each of them leaves behind, in order. Otherwise the first of its comparisons
that fails decides: the condition fails as this one does alone, and behind what was collected before
and what the earlier comparisons leave behind, there is at most what a query in the failing one left
before it failed. -/
theorem Condition.write_of_comparisons (ha : a.lookups = Lookup.standard) (c : Condition Test)
    (p : Parameters) :
    (c.rendering a = a.tokensRendering (c.tokens false) ∧
      (c.tokens false).filterMap leaf? = c.comparisons) ∧
    ((∃ text, ((c.rendering a).write p).1 = .ok text) ↔
      ∀ t ∈ c.comparisons, ∃ text, (t.alone a p.mode).1 = .ok text) ∧
    ((∀ t ∈ c.comparisons, ∃ text, (t.alone a p.mode).1 = .ok text) →
      ((c.rendering a).write p).2 =
        ⟨p.mode, p.values ++ c.comparisons.flatMap fun t => (t.alone a p.mode).2⟩) ∧
    ∀ before t behind e, c.comparisons = before ++ t :: behind →
      (∀ s ∈ before, ∃ text, (s.alone a p.mode).1 = .ok text) → (t.alone a p.mode).1 = .error e →
      (c.rendering a).write p =
          (.error e, ⟨p.mode, (p.values ++ before.flatMap fun s => (s.alone a p.mode).2) ++
            (t.alone a p.mode).2⟩) ∧
        ((t.alone a p.mode).2 = [] ∨ ∃ q, t.operand = .query q ∧
          (q.rendering a).alone p.mode = (.error e, (t.alone a p.mode).2)) := by
  have hempty := Adapter.neverEmpty_of_standard ha
  have houtcome := outcome_rendering hempty c p
  have hok (h : ∀ t ∈ c.comparisons, ∃ text, (t.alone a p.mode).1 = .ok text) :
      (c.rendering a).outcome p =
        (none, ⟨p.mode, p.values ++ c.comparisons.flatMap fun t => (t.alone a p.mode).2⟩) :=
    houtcome.trans (Test.inTurn_of_ok ha h)
  have herror {before behind : List Test} {t : Test} {e : QueryError}
      (hsplit : c.comparisons = before ++ t :: behind)
      (hbefore : ∀ s ∈ before, ∃ text, (s.alone a p.mode).1 = .ok text)
      (ht : (t.alone a p.mode).1 = .error e) :
      (c.rendering a).write p =
        (.error e, ⟨p.mode, (p.values ++ before.flatMap fun s => (s.alone a p.mode).2) ++
          (t.alone a p.mode).2⟩) := by
    rw [← Rendering.outcome_eq_some_iff, houtcome, hsplit, Test.inTurn_of_error ha hbefore ht]
  refine ⟨⟨rendering_eq_tokensRendering hempty c, comparisons_tokens false c⟩, ⟨?_, fun h => ?_⟩,
    fun h => ?_, fun before t behind e hsplit hbefore ht =>
      ⟨herror hsplit hbefore ht, Test.alone_snd_of_error ha ht⟩⟩
  · rintro ⟨text, htext⟩
    obtain hall | ⟨before, t, behind, e, hsplit, hbefore, ht⟩ :=
      Test.all_ok_or_first_error a p.mode c.comparisons
    · exact hall
    · rw [herror hsplit hbefore ht] at htext
      cases htext
  · obtain ⟨text, htext⟩ := Rendering.outcome_eq_none_iff.1 (hok h)
    exact ⟨text, congrArg Prod.fst htext⟩
  · obtain ⟨text, htext⟩ := Rendering.outcome_eq_none_iff.1 (hok h)
    exact congrArg Prod.snd htext

/-- Of three comparisons, the second of which is with a query that fails once it has bound a value. -/
theorem Condition.write_of_comparisons_query :
    let a := Adapter.ofDialect .sqlite "" none
    let q := (Query.new a).setWhere
      (.all [.leaf ⟨"c", none, .value (.int 2)⟩, .leaf ⟨"d", some "contains", .list []⟩])
    let x : Test := ⟨"a", none, .value (.int 1)⟩
    let t : Test := ⟨"b", some "in", .query q⟩
    let c : Condition Test := .all [.leaf x, .any [.all [], .not (.leaf t)], .leaf x]
    let fault : QueryError := .invalidOperand "contains" .notText
    (∃ text, (x.alone a .bound).1 = .ok text) ∧ (t.alone a .bound).1 = .error fault ∧
      (c.rendering a).write ⟨.bound, [.null]⟩ =
        (.error fault, ⟨.bound, [.null, .int 1] ++ (t.alone a .bound).2⟩) ∧
      (q.rendering a).alone .bound = (.error fault, [.int 2]) := by
  intro a q x t c fault
  have hx : (x.alone a .bound).1 = .ok "`a`=?" := by decide +kernel
  have hone : (x.alone a .bound).2 = [.int 1] := by decide +kernel
  have ht : (t.alone a .bound).1 = .error fault := by decide +kernel
  have hquery : (t.alone a .bound).2 = [.int 2] := by decide +kernel
  obtain ⟨hwrite, hnil | ⟨q', hq', hfails⟩⟩ := (write_of_comparisons rfl c ⟨.bound, [.null]⟩).2.2.2
    [x] t [x] fault rfl (List.forall_mem_singleton.2 ⟨_, hx⟩) ht
  · cases hquery.symm.trans hnil
  · cases hq'
    have hcollected := congrArg (Prod.mk (Except.error (α := String) fault)) hquery
    refine ⟨⟨_, hx⟩, ht, hwrite.trans ?_, hfails.trans hcollected⟩
    rw [List.flatMap_singleton, hone]
    rfl

end

end SqlCompose
