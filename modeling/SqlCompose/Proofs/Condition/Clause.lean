import SqlCompose.Proofs.Condition.Writing
import SqlCompose.Query.Verbs

/-!
# The conditions of a clause

The conditions of a clause are joined by `AND`. All but the first of those that are not empty stand
in parentheses (`Condition.clauseTokens_eq`), so they are operands, whatever is in them. The first
one is as loose as its shape says.

If an `OR` stands bare in it, the `AND` behind it takes the last conjunction only, and the clause
holds where a condition behind the first does not (`Token.Spells.reads_and_disjunction`). In all
other cases the clause means that all its conditions hold (`Token.Spells.reads_and`). Which of the
two it is can be told from the tokens (`Condition.reads_clauseTokens_iff`).
-/

namespace SqlCompose

namespace Token

variable {α γ : Type}

/-! ## Free leaves -/

/-- What can be read can be made to hold, and not to hold, by the truth of its leaves. -/
theorem Reads.exists_holds {level : Level} {ts : List (Token α)} {c : Condition α}
    (h : Reads level ts c) (k : Nat) (b : Bool) : ∃ v, c.holds v k = b := by
  induction h generalizing k b with
  | leaf | raw => exact ⟨fun _ => b, rfl⟩
  | paren _ ih | operand _ ih | conjunction _ ih | disjunction _ ih => exact ih k b
  | not _ ih =>
    obtain ⟨v, hv⟩ := ih k (!b)
    refine ⟨v, ?_⟩
    rw [Condition.holds, hv, Bool.not_not]
  | and _ _ ihc ihd =>
    obtain ⟨v, hc, hd⟩ := Condition.exists_holds_both (Nat.le_refl _) (ihc k b) (ihd _ b)
    refine ⟨v, ?_⟩
    rw [Condition.holds, Condition.holdAll, Condition.holdAll, Condition.holdAll, hc, hd,
      Bool.and_true, Bool.and_self]
  | or _ _ ihc ihd =>
    obtain ⟨v, hc, hd⟩ := Condition.exists_holds_both (Nat.le_refl _) (ihc k b) (ihd _ b)
    refine ⟨v, ?_⟩
    rw [Condition.holds, Condition.holdAny, Condition.holdAny, Condition.holdAny, hc, hd,
      Bool.or_false, Bool.or_self]

/-- So can what is spelled. -/
theorem Spells.exists_holds {level : Level} {ts : List (Token γ)} {c : Condition γ}
    (h : Spells level ts c) (k : Nat) (b : Bool) : ∃ v, c.holds v k = b := by
  obtain ⟨d, hd, hdc⟩ := h.reads
  obtain ⟨v, hv⟩ := hd.exists_holds k b
  exact ⟨v, (hdc.holds_eq v k).symm.trans hv⟩

/-! ## Conditions behind another one -/

/-- Operands that are joined to a conjunction by `AND`, or to an operand, are read as what they
stand for together. -/
theorem Spells.reads_and {level : Level} {ts : List (Token γ)} {c : Condition γ}
    (h : Spells level ts c) (hlevel : level = .operand ∨ level = .conjunction)
    {tss : List (List (Token γ))} {cs : List (Condition γ)}
    (hcs : List.Forall₂ (Spells .operand) tss cs) :
    Spells .conjunction (ts ++ tss.flatMap (.and :: ·)) (.all (c :: cs)) := by
  obtain ⟨d, hd, hdc⟩ := h.reads
  have hconj : Reads .conjunction ts d := by
    rcases hlevel with rfl | rfl
    · exact .operand hd
    · exact hd
  exact ⟨joins_and.reads_flatMap hcs hconj hdc, nofun⟩

/-- An `AND` behind a bare `OR` takes the last conjunction only: operands that are joined to a
disjunction need not hold for the whole to hold. -/
theorem Spells.reads_and_disjunction {ts us : List (Token γ)} {c d : Condition γ}
    (h : Spells .disjunction ts c) (hd : Spells .operand us d) {tss : List (List (Token γ))}
    {cs : List (Condition γ)} (hcs : List.Forall₂ (Spells .operand) tss cs) :
    ∃ e, Reads .text (ts ++ (us :: tss).flatMap (.and :: ·)) e ∧
      e.leaves = (Condition.all (c :: d :: cs)).leaves ∧
      ∃ v, e.holds v 0 = true ∧ (Condition.all (c :: d :: cs)).holds v 0 = false := by
  obtain ⟨c', hc', hcc⟩ := h.reads
  obtain ⟨hbare, -⟩ | ⟨-, front, back, x, y, rfl, rfl, hx, hy⟩ := hc'.cases_bareOr
  · rw [h.bare rfl] at hbare
    cases hbare
  obtain ⟨z, hz, hzy⟩ := joins_and.reads_flatMap (.cons hd hcs) hy (.refl y)
  have hleaves : x.leaves ++ y.leaves = c.leaves := by
    rw [← hcc.leaves_eq, Condition.leaves, Condition.leavesOf, Condition.leavesOf,
      Condition.leavesOf, List.append_nil]
  refine ⟨.any [x, z], ?_, ?_, ?_⟩
  · rw [List.append_assoc]
    exact .disjunction (.or hx hz)
  · simp only [Condition.leaves, Condition.leavesOf, List.append_nil, hzy.leaves_eq, ← hleaves,
      List.append_assoc]
  · have hlength : 0 + x.leaves.length ≤ 0 + c.leaves.length := by
      rw [← hleaves, List.length_append]
      omega
    obtain ⟨v, hx', hd'⟩ := Condition.exists_holds_both hlength (hx.exists_holds 0 true)
      (hd.exists_holds (0 + c.leaves.length) false)
    refine ⟨v, ?_, ?_⟩
    · rw [Condition.holds, Condition.holdAny, hx', Bool.true_or]
    · rw [Condition.holds, Condition.holdAll, Condition.holdAll, hd', Bool.false_and,
        Bool.and_false]

/-! ## Tokens of a clause -/

/-- Parts joined by `AND`, of which all but the first stand in parentheses. -/
def bracketed : List (List (Token α)) → List (Token α)
  | [] => []
  | ts :: tss => join .and (ts :: tss.map paren)

/-- Opening raw SQL leaves the parentheses of a clause where they are. -/
theorem opened_bracketed (leafOf : α → γ) (rawOf : String → List (Token γ))
    (tss : List (List (Token α))) :
    opened leafOf rawOf (bracketed tss) = bracketed (tss.map (opened leafOf rawOf)) := by
  cases tss with
  | nil => rfl
  | cons ts tss =>
    rw [bracketed, opened_join leafOf rawOf rfl, List.map_cons, List.map_cons, bracketed,
      List.map_map, List.map_map]
    simp only [Function.comp_def, opened_paren]

/-- How loosely tokens hold together that are read as a disjunction. -/
def bareLevel (ts : List (Token γ)) : Level :=
  if bareOr 0 ts then .disjunction else .conjunction

/-- Without its parentheses a text is a disjunction at most. -/
theorem bareLevel_ne_text (ts : List (Token γ)) : bareLevel ts ≠ .text := by
  rw [bareLevel]
  split <;> exact nofun

/-- What is read as a disjunction is spelled as tightly as its bare words allow. -/
theorem Reads.spells_bareLevel {ts : List (Token γ)} {c : Condition γ}
    (h : Reads .disjunction ts c) : Spells (bareLevel ts) ts c := by
  rw [bareLevel]
  obtain ⟨hbare, hconj⟩ | ⟨hbare, -⟩ := h.cases_bareOr
  · rw [hbare]
    exact ⟨⟨c, hconj, .refl c⟩, nofun⟩
  · rw [hbare]
    exact ⟨⟨c, h, .refl c⟩, fun _ => hbare⟩

end Token

namespace Condition

open Token

variable {α γ : Type}

/-- The conditions that are written are those that are not empty. -/
theorem filter_tokens (cs : List (Condition α)) :
    (cs.map (tokens false)).filter (!·.isEmpty) = partTokens false cs := by
  induction cs with
  | nil => rfl
  | cons c cs ih =>
    rw [List.map_cons, partTokens, List.filter_cons, ih]
    cases hc : c.isEmpty with
    | true =>
      rw [tokens_eq_nil false hc]
      rfl
    | false =>
      have hne : (c.tokens false).isEmpty = false :=
        List.isEmpty_eq_false_iff.2 (tokens_ne_nil hc false)
      rw [hne]
      rfl

/-- The conditions of a clause that are not empty are joined, in parentheses but for the first. -/
theorem clauseTokens_eq (cs : List (Condition α)) :
    clauseTokens cs = bracketed (partTokens false cs) := by
  rw [clauseTokens, filter_tokens]
  cases partTokens false cs <;> rfl

mutual

/-- A condition is a disjunction at most, if its raw SQL is. -/
theorem level_ne_text {rawLevel : String → Level} (h : ∀ sql, rawLevel sql ≠ .text) :
    ∀ c : Condition α, c.level rawLevel ≠ .text
  | .leaf _ | .not _ => nofun
  | .raw sql => h sql
  | .all parts | .any parts => by
    rw [level]
    split
    · exact nofun
    · exact firstLevel_ne_text h parts

/-- So is the first of several conditions. -/
theorem firstLevel_ne_text {rawLevel : String → Level} (h : ∀ sql, rawLevel sql ≠ .text) :
    ∀ cs : List (Condition α), firstLevel rawLevel cs ≠ .text
  | [] => nofun
  | c :: cs => by
    rw [firstLevel]
    split
    · exact firstLevel_ne_text h cs
    · exact level_ne_text h c

end

/-- Where no `OR` stands bare, the first condition is at most a conjunction. -/
theorem firstLevel_bareLevel (rawOf : String → List (Token γ)) {cs : List (Condition α)}
    (h : firstLevel (bareLevel <| rawOf ·) cs ≠ .disjunction) :
    firstLevel (bareLevel <| rawOf ·) cs = .operand ∨
      firstLevel (bareLevel <| rawOf ·) cs = .conjunction := by
  have htext := firstLevel_ne_text (fun sql => bareLevel_ne_text (rawOf sql)) cs
  cases hlevel : firstLevel (bareLevel <| rawOf ·) cs with
  | operand => exact .inl rfl
  | conjunction => exact .inr rfl
  | disjunction => exact absurd hlevel h
  | text => exact absurd hlevel htext

/-! ## Reading a clause -/

section
variable (leafOf : α → γ) {rawOf : String → List (Token γ)} {rawAs : String → Condition γ}
  {cs : List (Condition α)}

/-- A clause is its first condition that is not empty, with operands behind it for the others. -/
theorem exists_spells_clauseTokens
    (hraw : ∀ sql, .raw sql ∈ (Condition.all cs).pruned.leaves →
      Reads .disjunction (rawOf sql) (rawAs sql))
    (hlive : areEmpty cs = false) :
    ∃ ts tss c ds, opened leafOf rawOf (clauseTokens cs) = ts ++ tss.flatMap (.and :: ·) ∧
      (Condition.all cs).expand leafOf rawAs = .all (c :: ds) ∧
      Spells (firstLevel (bareLevel <| rawOf ·) cs) ts c ∧ List.Forall₂ (Spells .operand) tss ds ∧
      ds.length + 1 = liveCount cs := by
  have hparts : PartsSpelled leafOf rawOf rawAs (bareLevel <| rawOf ·) cs :=
    spells_partTokens fun sql hsql => (hraw sql hsql).spells_bareLevel
  have hlength := length_partTokens false cs
  have hlength' := length_expandLive leafOf rawAs cs
  have hpos := liveCount_pos hlive
  obtain ⟨ts, tss, hts⟩ := List.exists_cons_of_length_pos (hlength ▸ hpos)
  obtain ⟨c, ds, hds⟩ := List.exists_cons_of_length_pos (hlength' ▸ hpos)
  have hothers := hparts.bracketed
  rw [hts, hds, List.map_cons] at hothers
  rw [hds] at hlength'
  refine ⟨_, _, c, ds, ?_, congrArg Condition.all hds, hparts.first hts hds,
    (List.forall₂_cons.1 hothers).2, hlength'⟩
  rw [clauseTokens_eq, hts, opened_bracketed, List.map_cons, bracketed, join_cons, List.map_map]
  rfl

/-- A clause can be read, in one way only, and has all leaves of its conditions. It means that all
of them hold, unless there are several and an `OR` stands bare in the first. -/
theorem reads_clauseTokens_iff
    (hraw : ∀ sql, .raw sql ∈ (Condition.all cs).pruned.leaves →
      Reads .disjunction (rawOf sql) (rawAs sql))
    (hlive : areEmpty cs = false) :
    ∃ d, (∀ e, Reads .text (opened leafOf rawOf (clauseTokens cs)) e ↔ e = d) ∧
      d.leaves = ((Condition.all cs).expand leafOf rawAs).leaves ∧
      ((∀ v, d.holds v 0 = ((Condition.all cs).expand leafOf rawAs).holds v 0) ↔
        ¬ (1 < liveCount cs ∧ firstLevel (bareLevel <| rawOf ·) cs = .disjunction)) := by
  obtain ⟨ts, tss, c, ds, htokens, hmeaning, hfirst, hothers, hcount⟩ :=
    exists_spells_clauseTokens leafOf hraw hlive
  rw [htokens, hmeaning]
  by_cases hbare : 1 < liveCount cs ∧ firstLevel (bareLevel <| rawOf ·) cs = .disjunction
  · obtain ⟨hcs, hlevel⟩ := hbare
    rw [hlevel] at hfirst
    cases hothers with
    | nil => rw [← hcount] at hcs; exact absurd hcs (Nat.lt_irrefl 1)
    | cons hd hds =>
      obtain ⟨e, he, hleaves, v, htrue, hfalse⟩ := hfirst.reads_and_disjunction hd hds
      refine ⟨e, he.iff_eq, hleaves, iff_of_false (fun h => ?_) (not_not_intro ⟨hcs, hlevel⟩)⟩
      rw [h v, hfalse] at htrue
      cases htrue
  · obtain ⟨d, hd, hagrees⟩ : ∃ d, (∀ e, Reads .text (ts ++ tss.flatMap (.and :: ·)) e ↔ e = d) ∧
        d.Agrees (.all (c :: ds)) := by
      cases hothers with
      | nil =>
        rw [List.flatMap_nil, List.append_nil]
        exact (hfirst.agrees (associative_all.single c).symm).exists_reads_iff
      | cons hd hds =>
        have hlevel := firstLevel_bareLevel rawOf fun h =>
          hbare ⟨hcount ▸ Nat.succ_lt_succ (Nat.succ_pos _), h⟩
        exact (hfirst.reads_and hlevel (.cons hd hds)).exists_reads_iff
    exact ⟨d, hd, hagrees.leaves_eq, iff_of_true (fun v => hagrees.holds_eq v 0) hbare⟩

end

/-! ## The text of a clause -/

section
variable {a : Adapter} {keyword text : String} {cs : List (Condition Test)} {p p' : Parameters}

/-- Parts in parentheses but for the first are written so. -/
theorem tokensRendering_bracketed (a : Adapter) (tss : List (List (Token Test))) :
    a.tokensRendering (bracketed tss) = bracketedRendering (tss.map a.tokensRendering) := by
  cases tss with
  | nil => rfl
  | cons ts tss =>
    rw [bracketed, Adapter.tokensRendering_join a rfl, List.map_cons, List.map_map, List.map_cons,
      bracketedRendering, List.map_map]
    simp only [Function.comp_def, Adapter.tokensRendering_paren]

/-- A clause in which something is written is its keyword and its tokens. -/
theorem clauseRendering_eq_append (ha : a.lookups.NeverEmpty) (h : areEmpty cs = false) :
    clauseRendering keyword (renderings a cs) =
      .text keyword ++ a.tokensRendering (clauseTokens cs) := by
  rw [clauseRendering_of_live ha keyword h, clauseTokens_eq, tokensRendering_bracketed,
    liveRenderings_eq ha]

/-- The text of a clause behind its keyword can be read, in one way only, whatever raw SQL is read
as. It has all leaves of the conditions in their order, and it means that all conditions hold,
unless there are several that are not empty and an `OR` stands bare in the first of these. Nothing
is written if all conditions are empty. -/
theorem clauseText_reads_iff {γ : Type} {leafOf : Test → γ} {rawOf : String → List (Token γ)}
    {rawAs : String → Condition γ} (ha : a.lookups.NeverEmpty)
    (h : (clauseRendering keyword (renderings a cs)).write p = (.ok text, p'))
    (hraw : ∀ sql, .raw sql ∈ (Condition.all cs).pruned.leaves →
      Reads .disjunction (rawOf sql) (rawAs sql)) :
    (areEmpty cs = true → text = "") ∧
      (areEmpty cs = false → ∃ ts s, text = keyword ++ s ∧ a.Writes p ts s p' ∧
        ∃ d, (∀ e, Reads .text (opened leafOf rawOf ts) e ↔ e = d) ∧
          d.leaves = ((Condition.all cs).expand leafOf rawAs).leaves ∧
          ((∀ v, d.holds v 0 = ((Condition.all cs).expand leafOf rawAs).holds v 0) ↔
            ¬ (1 < liveCount cs ∧ firstLevel (bareLevel <| rawOf ·) cs = .disjunction))) := by
  constructor
  · intro hempty
    rw [clauseRendering_of_areEmpty a keyword hempty, Rendering.write_empty, Prod.mk.injEq,
      Except.ok.injEq] at h
    exact h.1.symm
  · intro hlive
    rw [clauseRendering_eq_append ha hlive] at h
    obtain ⟨front, s, p₁, hfront, hs, rfl⟩ := Rendering.write_append h
    rw [Rendering.write_text, Prod.mk.injEq, Except.ok.injEq] at hfront
    obtain ⟨rfl, rfl⟩ := hfront
    exact ⟨clauseTokens cs, s, rfl, Adapter.writes_of_tokensRendering hs,
      reads_clauseTokens_iff leafOf hraw hlive⟩

end

/-- Of a comparison and raw SQL with an `OR`, which stands in parentheses. -/
theorem clauseText_reads_iff_raw :
    let a := Adapter.ofDialect .sqlite "" none
    let rawOf : String → List (Token String) := fun _ => [.leaf "x", .or, .leaf "y"]
    ∃ ts s d, " WHERE `a`=1 AND (x OR y)" = " WHERE " ++ s ∧ a.Writes .inline ts s .inline ∧
      Reads .text (opened Test.field rawOf ts) d ∧
      ∀ v, d.holds v 0 = (v 0 && (v 1 || v 2)) := by
  intro a rawOf
  let cs : List (Condition Test) := [.leaf ⟨"a", none, .value (.int 1)⟩, .raw "x OR y"]
  have hwrite : (clauseRendering " WHERE " (renderings a cs)).write .inline =
      (.ok " WHERE `a`=1 AND (x OR y)", .inline) := by decide +kernel
  have hraw : Reads .disjunction (rawOf "x OR y") (.any [.leaf "x", .leaf "y"]) :=
    .or (.conjunction (.operand (.leaf "x"))) (.operand (.leaf "y"))
  obtain ⟨ts, s, hs, hts, d, hd, -, hmeans⟩ :=
    (clauseText_reads_iff Lookup.standard_neverEmpty hwrite fun _ _ => hraw).2 rfl
  refine ⟨ts, s, d, hs, hts, (hd d).2 rfl, fun v => ?_⟩
  rw [hmeans.2 (by decide)]
  change (v 0 && ((v 1 || (v 2 || false)) && true)) = (v 0 && (v 1 || v 2))
  rw [Bool.or_false, Bool.and_true]

/-- A disjunction at the front takes the conditions that are added behind it to its last part only:
rows with `a = 1` are found whatever else is asked of them. -/
theorem addWhere_behind_any :
    let a : Condition Test := .leaf ⟨"a", none, .value (.int 1)⟩
    let b : Condition Test := .leaf ⟨"b", none, .value (.int 2)⟩
    let c : Condition Test := .leaf ⟨"c", none, .value (.int 3)⟩
    let q := ((Query.new (.ofDialect .sqlite "" none)).setWhere (.any [a, b])).addWhere c
    q.toSql = .ok "SELECT * WHERE `a`=1 OR `b`=2 AND (`c`=3)" ∧
      ∃ d, (∀ e, Reads .text (clauseTokens q.wheres) e ↔ e = d) ∧
        ∃ v, d.holds v 0 = true ∧ (Condition.all q.wheres).holds v 0 = false := by
  intro a b c q
  have hc : Reads .operand (paren [.leaf _]) c :=
    .paren (.disjunction (.conjunction (.operand (.leaf _))))
  have hd : Reads .text (clauseTokens q.wheres) (.any [a, .all [b, c]]) :=
    .disjunction (.or (.conjunction (.operand (.leaf _))) (.and (.operand (.leaf _)) hc))
  exact ⟨by decide +kernel, .any [a, .all [b, c]], hd.iff_eq, fun i => i == 0, rfl, rfl⟩

end Condition

end SqlCompose
