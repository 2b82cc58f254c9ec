import SqlCompose.Proofs.Condition.Rendering
import SqlCompose.Proofs.Condition.Tree

/-!
# The texts of conditions

Where no lookup writes the empty text, a condition is written as its tokens, one after the other
(`Condition.renderingIn_eq`), and so is a clause (`Condition.clauseRendering_eq_append`). How those
tokens are read is known from `Condition.spells_tokens`; together this is what the text of a condition
means.
-/

namespace SqlCompose

open Token

/-! ## The text of tokens -/

namespace Adapter

/-- A token of a condition. -/
def tokenRendering (a : Adapter) : Token Test → Rendering
  | .leaf t => t.rendering a
  | .raw sql => .text (a.quoteSql (Text.trimmed sql))
  | .opening => .text "("
  | .closing => .text ")"
  | .and => .text " AND "
  | .or => .text " OR "
  | .not => .text "NOT "

/-- Tokens of a condition, one after the other. -/
def tokensRendering (a : Adapter) : List (Token Test) → Rendering
  | [] => .empty
  | t :: ts => a.tokenRendering t ++ a.tokensRendering ts

/-- The text of tokens, which are written one after the other: a comparison as it is rendered, raw
SQL with its placeholders expanded, and the words and parentheses. -/
inductive Writes (a : Adapter) : Parameters → List (Token Test) → String → Parameters → Prop
  | nil {p} : Writes a p [] "" p
  | leaf {t ts s s' p p₁ p₂} : (t.rendering a).write p = (.ok s, p₁) → Writes a p₁ ts s' p₂ →
      Writes a p (.leaf t :: ts) (s ++ s') p₂
  | raw {sql ts s p p'} : Writes a p ts s p' →
      Writes a p (.raw sql :: ts) (a.quoteSql (Text.trimmed sql) ++ s) p'
  | opening {ts s p p'} : Writes a p ts s p' → Writes a p (.opening :: ts) ("(" ++ s) p'
  | closing {ts s p p'} : Writes a p ts s p' → Writes a p (.closing :: ts) (")" ++ s) p'
  | and {ts s p p'} : Writes a p ts s p' → Writes a p (.and :: ts) (" AND " ++ s) p'
  | or {ts s p p'} : Writes a p ts s p' → Writes a p (.or :: ts) (" OR " ++ s) p'
  | not {ts s p p'} : Writes a p ts s p' → Writes a p (.not :: ts) ("NOT " ++ s) p'

variable {a : Adapter} {p p' : Parameters} {text : String}

/-- Tokens are written as they stand. -/
theorem writes_of_tokensRendering {ts : List (Token Test)}
    (h : (a.tokensRendering ts).write p = (.ok text, p')) : a.Writes p ts text p' := by
  induction ts generalizing p text with
  | nil =>
    rw [tokensRendering, Rendering.write_empty, Prod.mk.injEq, Except.ok.injEq] at h
    obtain ⟨rfl, rfl⟩ := h
    exact .nil
  | cons t ts ih =>
    rw [tokensRendering] at h
    obtain ⟨before, after, p₁, hbefore, hafter, rfl⟩ := Rendering.write_append h
    have hts := ih hafter
    cases t with
    | leaf t => exact .leaf hbefore hts
    | raw | opening | closing | and | or | not =>
      rw [tokenRendering, Rendering.write_text, Prod.mk.injEq, Except.ok.injEq] at hbefore
      obtain ⟨rfl, rfl⟩ := hbefore
      constructor
      exact hts

/-- One token is written as itself. -/
theorem tokensRendering_single (a : Adapter) (t : Token Test) :
    a.tokensRendering [t] = a.tokenRendering t :=
  Rendering.append_empty _

/-- Tokens behind others are written behind them. -/
theorem tokensRendering_append (a : Adapter) (ts us : List (Token Test)) :
    a.tokensRendering (ts ++ us) = a.tokensRendering ts ++ a.tokensRendering us := by
  induction ts with
  | nil => exact (Rendering.empty_append _).symm
  | cons t ts ih => rw [List.cons_append, tokensRendering, tokensRendering, ih, Rendering.append_assoc]

/-- Tokens in parentheses are written in parentheses. -/
theorem tokensRendering_paren (a : Adapter) (ts : List (Token Test)) :
    a.tokensRendering (paren ts) = (a.tokensRendering ts).paren := by
  rw [paren, List.cons_append, tokensRendering, tokensRendering_append, tokensRendering_single,
    Rendering.paren, Rendering.append_assoc]
  rfl

/-- Joined parts are written with the text of the glue between them. -/
theorem tokensRendering_join (a : Adapter) {glue : Token Test} {sep : String}
    (hglue : a.tokenRendering glue = .text sep) (tss : List (List (Token Test))) :
    a.tokensRendering (join glue tss) = Rendering.joinWith sep (tss.map a.tokensRendering) := by
  induction tss with
  | nil => rfl
  | cons ts tss ih =>
    cases tss with
    | nil => rfl
    | cons us tss =>
      rw [join, tokensRendering_append, tokensRendering, ih, hglue]
      · exact (Rendering.joinWith_cons_cons sep _ _ _).symm
      · exact List.cons_ne_nil us tss

/-- A group is written as a group of what its parts are written as. -/
theorem tokensRendering_group (a : Adapter) {glue : Token Test} {sep : String}
    (hglue : a.tokenRendering glue = .text sep) (nested : Bool) (tss : List (List (Token Test))) :
    a.tokensRendering (group glue nested tss) =
      Condition.groupRendering sep nested (tss.map a.tokensRendering) := by
  rw [group, Condition.groupRendering, List.length_map, ← tokensRendering_join a hglue]
  split
  · exact tokensRendering_paren a _
  · rfl

end Adapter

/-! ## Conditions as tokens -/

namespace Condition

variable {a : Adapter} {c : Condition Test} {p p' : Parameters} {text : String}

mutual

/-- A condition is written as its tokens. -/
theorem renderingIn_eq (ha : a.lookups.NeverEmpty) (nested : Bool) : ∀ c : Condition Test,
    c.renderingIn a nested = a.tokensRendering (c.tokens nested)
  | .leaf t => by
    rw [renderingIn, tokens, Adapter.tokensRendering_single]
    rfl
  | .raw sql => by
    rw [renderingIn, tokens]
    split
    · rfl
    · cases nested with
      | true =>
        rw [if_pos rfl, Adapter.tokensRendering_paren, Adapter.tokensRendering_single]
        rfl
      | false => exact (Adapter.tokensRendering_single a (.raw sql)).symm
  | .all parts => by
    rw [renderingIn, tokens, Adapter.tokensRendering_group a rfl, liveRenderings_eq ha _ parts]
  | .any parts => by
    rw [renderingIn, tokens, Adapter.tokensRendering_group a rfl, liveRenderings_eq ha _ parts]
  | .not part => by
    by_cases hpart : part.isEmpty = true
    · have hempty : (Condition.not part).isEmpty = true := hpart
      rw [renderingIn_of_isEmpty a nested hempty, tokens_eq_nil nested hempty]
      rfl
    · have hlive : part.isEmpty = false := Bool.eq_false_iff.2 hpart
      rw [renderingIn, map_notText (neverEmpty_renderingIn ha false hlive),
        tokens_not (tokens_ne_nil hlive false), Adapter.tokensRendering,
        Adapter.tokensRendering_paren, renderingIn_eq ha false part]
      rfl

/-- So are the parts of a group that are not empty. -/
theorem liveRenderings_eq (ha : a.lookups.NeverEmpty) (nested : Bool) :
    ∀ cs : List (Condition Test),
      liveRenderings a nested cs = (partTokens nested cs).map a.tokensRendering
  | [] => by
    rw [liveRenderings]
    rfl
  | c :: cs => by
    rw [liveRenderings, partTokens]
    split
    · exact liveRenderings_eq ha nested cs
    · rw [renderingIn_eq ha nested c, liveRenderings_eq ha nested cs, List.map_cons]

end

/-- The tokens of a condition make up its rendering. -/
theorem rendering_eq_tokensRendering (ha : a.lookups.NeverEmpty) (c : Condition Test) :
    c.rendering a = a.tokensRendering (c.tokens false) :=
  renderingIn_eq ha false c

/-- A condition is written as its tokens. -/
theorem writes_tokens (ha : a.lookups.NeverEmpty) (h : (c.rendering a).write p = (.ok text, p')) :
    a.Writes p (c.tokens false) text p' := by
  rw [rendering_eq_tokensRendering ha] at h
  exact Adapter.writes_of_tokensRendering h

/-! ## The meaning of the text -/

/-- The text of a condition can be read, in one way only, and what is read agrees with the condition
without its empty parts: it has the same leaves in the same order, and the same truth whatever the
truth of each. There is no text of an empty condition. -/
theorem text_reads_iff (ha : a.lookups.NeverEmpty)
    (h : (c.rendering a).write p = (.ok text, p')) :
    ∃ ts, a.Writes p ts text p' ∧ (c.isEmpty = true → ts = []) ∧
      (c.isEmpty = false → ∃ d, (∀ e, Reads .text ts e ↔ e = d) ∧ d.Agrees c.pruned) := by
  refine ⟨c.tokens false, writes_tokens ha h, tokens_eq_nil false, fun hc => ?_⟩
  exact (spells_pruned hc false).exists_reads_iff

/-- Of a negated disjunction with an empty part. -/
theorem text_reads_iff_not_any :
    let a := Adapter.ofDialect .sqlite "" none
    let c : Condition Test :=
      .not (.any [.leaf ⟨"a", none, .value (.int 1)⟩, .all [], .raw "[[x]]"])
    ∃ ts, a.Writes .bound ts "NOT (`a`=? OR (`x`))" ⟨.bound, [.int 1]⟩ ∧
      (c.isEmpty = true → ts = []) ∧
      (c.isEmpty = false → ∃ d, (∀ e, Reads .text ts e ↔ e = d) ∧ d.Agrees c.pruned) :=
  text_reads_iff Lookup.standard_neverEmpty (by decide +kernel)

end Condition

end SqlCompose
