import SqlCompose.Proofs.Condition.Grammar
import SqlCompose.Proofs.Condition.Truth

/-!
# The tokens of a condition mean the condition

The tokens that a condition is written as are read as a condition that agrees with it, once its
empty parts are dropped (`Condition.spells_tokens`). How loosely the tokens hold together is known
from the shape of the condition alone (`Condition.level`): inside a group of several parts they are
one operand, and elsewhere they may be a bare conjunction or a bare disjunction, also behind any
number of groups of one part.

Raw SQL may be looked into on the way. What it is made up of, and what it is read as, is given from
outside (`Token.opened`).
-/

namespace SqlCompose

namespace Token

variable {α γ : Type}

/-- Tokens with other leaves in the place of leaves, and with the tokens that raw SQL is made up of
in its place. -/
def opened (leafOf : α → γ) (rawOf : String → List (Token γ)) (ts : List (Token α)) :
    List (Token γ) :=
  ts.flatMap fun
    | .leaf a => [.leaf (leafOf a)]
    | .raw sql => rawOf sql
    | .opening => [.opening]
    | .closing => [.closing]
    | .and => [.and]
    | .or => [.or]
    | .not => [.not]

/-- Joined parts, the first one apart. -/
theorem join_cons (glue : Token α) (ts : List (Token α)) (tss : List (List (Token α))) :
    join glue (ts :: tss) = ts ++ tss.flatMap (glue :: ·) := by
  induction tss generalizing ts with
  | nil => exact (List.append_nil ts).symm
  | cons us tss ih =>
    rw [join, ih, List.flatMap_cons, List.cons_append]
    exact nofun

section
variable (leafOf : α → γ) (rawOf : String → List (Token γ))

/-- Tokens are opened one by one. -/
theorem opened_append (ts us : List (Token α)) :
    opened leafOf rawOf (ts ++ us) = opened leafOf rawOf ts ++ opened leafOf rawOf us :=
  List.flatMap_append

/-- A negation stays in front. -/
theorem opened_not (ts : List (Token α)) :
    opened leafOf rawOf (.not :: ts) = .not :: opened leafOf rawOf ts :=
  rfl

/-- Parentheses stay where they are. -/
theorem opened_paren (ts : List (Token α)) :
    opened leafOf rawOf (paren ts) = paren (opened leafOf rawOf ts) := by
  rw [paren, opened_append]
  rfl

/-- Joined parts are opened one by one, if the token between them stays one. -/
theorem opened_join {glue : Token α} {glue' : Token γ}
    (h : opened leafOf rawOf [glue] = [glue']) (tss : List (List (Token α))) :
    opened leafOf rawOf (join glue tss) = join glue' (tss.map (opened leafOf rawOf)) := by
  cases tss with
  | nil => rfl
  | cons ts tss =>
    rw [join_cons, List.map_cons, join_cons, opened_append]
    congr 1
    induction tss with
    | nil => rfl
    | cons us tss ih =>
      rw [List.flatMap_cons, opened_append, ih, List.map_cons, List.flatMap_cons,
        ← List.singleton_append, opened_append, h]
      rfl

end

/-- A token with another leaf, if it is one. -/
def relabel (leafOf : α → γ) : Token α → Token γ
  | .leaf a => .leaf (leafOf a)
  | .raw sql => .raw sql
  | .opening => .opening
  | .closing => .closing
  | .and => .and
  | .or => .or
  | .not => .not

theorem relabel_id : relabel id = @id (Token α) := by
  funext t
  cases t <;> rfl

/-- Raw SQL that stays as it is is only relabelled. -/
theorem opened_raw (leafOf : α → γ) (ts : List (Token α)) :
    opened leafOf ([.raw ·]) ts = ts.map (relabel leafOf) := by
  induction ts with
  | nil => rfl
  | cons t ts ih =>
    rw [← List.singleton_append, opened_append, ih]
    cases t <;> rfl

/-- The tokens are read as a condition that agrees with `c`; at the level of a disjunction an `OR`
does stand bare in them. -/
structure Spells (level : Level) (ts : List (Token γ)) (c : Condition γ) : Prop where
  reads : ∃ d, Reads level ts d ∧ d.Agrees c
  bare : level = .disjunction → bareOr 0 ts = true

namespace Spells

variable {level : Level} {ts us : List (Token γ)} {c d : Condition γ}

/-- What spells a condition spells those that agree with it. -/
theorem agrees (h : Spells level ts c) (hcd : c.Agrees d) : Spells level ts d := by
  obtain ⟨e, he, hec⟩ := h.reads
  exact ⟨⟨e, he, hec.trans hcd⟩, h.bare⟩

/-- Whatever can be read can be read as a text. -/
theorem text (h : Spells level ts c) : Spells .text ts c := by
  obtain ⟨d, hd, hdc⟩ := h.reads
  refine ⟨⟨d, ?_, hdc⟩, nofun⟩
  cases level with
  | operand => exact .disjunction (.conjunction (.operand hd))
  | conjunction => exact .disjunction (.conjunction hd)
  | disjunction => exact .disjunction hd
  | text => exact hd

/-- The one condition that the tokens are read as agrees with `c`. -/
theorem exists_reads_iff (h : Spells level ts c) :
    ∃ d, (∀ e, Reads .text ts e ↔ e = d) ∧ d.Agrees c := by
  obtain ⟨d, hd, hdc⟩ := h.text.reads
  exact ⟨d, hd.iff_eq, hdc⟩

/-- Anything in parentheses is an operand. -/
theorem paren (h : Spells level ts c) : Spells .operand (Token.paren ts) c := by
  obtain ⟨d, hd, hdc⟩ := h.text.reads
  exact ⟨⟨d, .paren hd, hdc⟩, nofun⟩

/-- A negated operand is an operand. -/
theorem not (h : Spells .operand ts c) : Spells .operand (.not :: ts) (.not c) := by
  obtain ⟨d, hd, hdc⟩ := h.reads
  exact ⟨⟨.not d, .not hd, hdc.not⟩, nofun⟩

end Spells

/-- Operands joined by `glue` are read at `level`, as a group from the left. -/
structure Joins (level : Level) (glue : Token γ) (group : List (Condition γ) → Condition γ) : Prop
    extends Condition.Associative group where
  start {ts : List (Token γ)} {c} : Reads .operand ts c → Reads level ts c
  step {ts us : List (Token γ)} {c d} : Reads level ts c → Reads .operand us d →
    Reads level (ts ++ glue :: us) (group [c, d])
  bare {ts us : List (Token γ)} {c} : level = .disjunction → Reads .operand ts c →
    bareOr 0 (ts ++ glue :: us) = true

/-- Operands joined by `AND` are a conjunction. -/
theorem joins_and : Joins .conjunction .and (@Condition.all γ) where
  toAssociative := Condition.associative_all
  start := .operand
  step := .and
  bare := nofun

/-- Operands joined by `OR` are a disjunction. -/
theorem joins_or : Joins .disjunction .or (@Condition.any γ) where
  toAssociative := Condition.associative_any
  start h := .conjunction (.operand h)
  step h h' := .or h (.operand h')
  bare _ h := by rw [h.bareOr_zero (.inl rfl)]; rfl

/-- Operands behind a glue each extend what is read in front of them. -/
theorem Joins.reads_flatMap {level : Level} {glue : Token γ}
    {group : List (Condition γ) → Condition γ} (J : Joins level glue group)
    {tss : List (List (Token γ))} {cs : List (Condition γ)}
    (h : List.Forall₂ (Spells .operand) tss cs) {ts : List (Token γ)} {c d : Condition γ}
    (hd : Reads level ts d) (hdc : d.Agrees c) :
    ∃ e, Reads level (ts ++ tss.flatMap (glue :: ·)) e ∧ e.Agrees (group (c :: cs)) := by
  induction h generalizing ts c d with
  | nil =>
    rw [List.flatMap_nil, List.append_nil]
    exact ⟨d, hd, (J.single d).symm.trans (J.congr (.cons hdc .nil))⟩
  | @cons us e tss cs hus _ ih =>
    obtain ⟨e', he', hee⟩ := hus.reads
    obtain ⟨f, hf, hfg⟩ := ih (J.step hd he') (J.congr (.cons hdc (.cons hee .nil)))
    rw [List.flatMap_cons, ← List.append_assoc]
    exact ⟨f, hf, hfg.trans (J.nested c e cs)⟩

/-- Several operands, joined. -/
theorem Joins.spells_join {level : Level} {glue : Token γ}
    {group : List (Condition γ) → Condition γ} (J : Joins level glue group)
    {ts us : List (Token γ)} {tss : List (List (Token γ))} {cs : List (Condition γ)}
    (h : List.Forall₂ (Spells .operand) (ts :: us :: tss) cs) :
    Spells level (join glue (ts :: us :: tss)) (group cs) := by
  obtain ⟨c, cs, hc, hcs, rfl⟩ := List.forall₂_cons_left_iff.1 h
  obtain ⟨d, hd, hdc⟩ := hc.reads
  rw [join_cons]
  refine ⟨J.reads_flatMap hcs (J.start hd) hdc, fun hlevel => ?_⟩
  rw [List.flatMap_cons]
  exact J.bare hlevel hd

end Token

namespace Condition

open Token

variable {α γ : Type}

/-! ## Empty conditions -/

/-- Conditions that are not empty are counted one by one. -/
theorem liveCount_cons (c : Condition α) (cs : List (Condition α)) :
    liveCount (c :: cs) = liveCount cs + if c.isEmpty then 0 else 1 := by
  rw [liveCount, liveCount, List.countP_cons]
  cases c.isEmpty <;> rfl

/-- As many parts are left as are not empty. -/
theorem length_expandLive (leafOf : α → γ) (rawAs : String → Condition γ)
    (cs : List (Condition α)) : (expandLive leafOf rawAs cs).length = liveCount cs := by
  induction cs with
  | nil => rfl
  | cons c cs ih =>
    rw [expandLive, liveCount_cons]
    split
    · exact ih
    · rw [List.length_cons, ih]

/-- As many parts are written as are not empty. -/
theorem length_partTokens (nested : Bool) (cs : List (Condition α)) :
    (partTokens nested cs).length = liveCount cs := by
  induction cs with
  | nil => rfl
  | cons c cs ih =>
    rw [partTokens, liveCount_cons]
    split
    · exact ih
    · rw [List.length_cons, ih]

/-- A list that is not empty has parts to count. -/
theorem liveCount_pos {cs : List (Condition α)} (h : areEmpty cs = false) : 0 < liveCount cs := by
  induction cs with
  | nil => cases h
  | cons c cs ih =>
    rw [areEmpty] at h
    rw [liveCount_cons]
    split
    · next hc => exact ih (by rwa [hc, Bool.true_and] at h)
    · exact Nat.succ_pos _

mutual

/-- Nothing is written of an empty condition. -/
theorem tokens_eq_nil (nested : Bool) : ∀ {c : Condition α}, c.isEmpty = true →
    c.tokens nested = []
  | .leaf _, h => by cases h
  | .raw sql, h => by
    rw [isEmpty] at h
    rw [tokens, if_pos h]
  | .all parts, h | .any parts, h => by
    have hparts : areEmpty parts = true := h
    rw [tokens, partTokens_eq_nil _ hparts, group]
    cases nested <;> rfl
  | .not part, h => by rw [tokens, tokens_eq_nil false (c := part) h]

/-- No parts are written of empty ones. -/
theorem partTokens_eq_nil (nested : Bool) : ∀ {cs : List (Condition α)}, areEmpty cs = true →
    partTokens nested cs = []
  | [], _ => rfl
  | c :: cs, h => by
    rw [areEmpty, Bool.and_eq_true] at h
    rw [partTokens, if_pos h.1, partTokens_eq_nil nested h.2]

end

/-- A negation is written around what it negates. -/
theorem tokens_not {nested : Bool} {part : Condition α} (h : part.tokens false ≠ []) :
    (Condition.not part).tokens nested = .not :: paren (part.tokens false) := by
  rw [tokens]
  split
  · contradiction
  · rfl

/-! ## The level of a condition -/

mutual

/-- How loosely the tokens of a condition hold together where it does not stand inside a group of
several parts. -/
def level (rawLevel : String → Level) : Condition α → Level
  | leaf _ => .operand
  | raw sql => rawLevel sql
  | all parts => if 1 < liveCount parts then .conjunction else firstLevel rawLevel parts
  | any parts => if 1 < liveCount parts then .disjunction else firstLevel rawLevel parts
  | not _ => .operand

/-- `level` of the first condition of a list that is not empty. -/
def firstLevel (rawLevel : String → Level) : List (Condition α) → Level
  | [] => .operand
  | c :: cs => if c.isEmpty then firstLevel rawLevel cs else c.level rawLevel

end

/-! ## Reading the tokens of a condition -/

section
variable (leafOf : α → γ) (rawOf : String → List (Token γ)) (rawAs : String → Condition γ)
  (rawLevel : String → Level)

/-- What is known of the parts of a group: written inside a group of several parts each is an
operand, and so it is in parentheses; the first one is otherwise as loose as its level says. -/
structure PartsSpelled (cs : List (Condition α)) : Prop where
  operands : List.Forall₂ (Spells .operand) ((partTokens true cs).map (opened leafOf rawOf))
    (expandLive leafOf rawAs cs)
  bracketed : List.Forall₂ (Spells .operand)
    ((partTokens false cs).map fun ts => paren (opened leafOf rawOf ts))
    (expandLive leafOf rawAs cs)
  first {ts tss c ds} : partTokens false cs = ts :: tss →
    expandLive leafOf rawAs cs = c :: ds →
      Spells (firstLevel rawLevel cs) (opened leafOf rawOf ts) c

variable {leafOf rawOf rawAs rawLevel}

namespace PartsSpelled

variable {cs : List (Condition α)} {level : Level} {glue : Token α} {glue' : Token γ}
  {combine : List (Condition γ) → Condition γ}

/-- Several parts of a group are joined operands. -/
theorem several (h : PartsSpelled leafOf rawOf rawAs rawLevel cs)
    (hglue : opened leafOf rawOf [glue] = [glue']) (J : Joins level glue' combine)
    (hlive : 1 < liveCount cs) :
    Spells level (opened leafOf rawOf (join glue (partTokens true cs)))
      (combine (expandLive leafOf rawAs cs)) := by
  have hlength := length_partTokens true cs
  have hoperands := h.operands
  rw [opened_join leafOf rawOf hglue]
  match hts : partTokens true cs with
  | [] | [_] =>
    rw [hts] at hlength
    simp only [List.length_nil, List.length_singleton] at hlength
    omega
  | ts :: us :: tss =>
    rw [hts] at hoperands
    exact J.spells_join hoperands

/-- The only part of a group is written as if it stood in the place of the group. -/
theorem alone (h : PartsSpelled leafOf rawOf rawAs rawLevel cs) (J : Joins level glue' combine)
    (hone : liveCount cs = 1) (nested : Bool) :
    Spells (if nested then .operand else firstLevel rawLevel cs)
      (opened leafOf rawOf (Token.group glue nested (partTokens nested cs)))
      (combine (expandLive leafOf rawAs cs)) := by
  obtain ⟨ts, hts⟩ := List.length_eq_one_iff.1 ((length_partTokens nested cs).trans hone)
  obtain ⟨c, hc⟩ := List.length_eq_one_iff.1 ((length_expandLive leafOf rawAs cs).trans hone)
  have hgroup : Token.group glue nested [ts] = ts := by cases nested <;> rfl
  rw [hts, hc, hgroup]
  cases nested with
  | false => exact (h.first hts hc).agrees (J.single c).symm
  | true =>
    have hoperands := h.operands
    rw [hts, hc] at hoperands
    cases hoperands with
    | cons hop _ => exact hop.agrees (J.single c).symm

/-- A group that is not empty is an operand where it stands inside a group of several parts, also if
it needs parentheses for that. -/
theorem group (h : PartsSpelled leafOf rawOf rawAs rawLevel cs)
    (hglue : opened leafOf rawOf [glue] = [glue']) (J : Joins level glue' combine)
    (hne : areEmpty cs = false) (nested : Bool) :
    Spells (if nested then .operand
        else if 1 < liveCount cs then level else firstLevel rawLevel cs)
      (opened leafOf rawOf
        (Token.group glue nested (partTokens (nested || decide (1 < liveCount cs)) cs)))
      (combine (expandLive leafOf rawAs cs)) := by
  by_cases hlive : 1 < liveCount cs
  · have hseveral := h.several hglue J hlive
    rw [decide_eq_true hlive, Bool.or_true, if_pos hlive, Token.group, length_partTokens,
      decide_eq_true hlive, Bool.and_true]
    cases nested with
    | false => exact hseveral
    | true =>
      simp only [if_true, opened_paren]
      exact hseveral.paren
  · have hone : liveCount cs = 1 := by
      have := liveCount_pos hne
      omega
    rw [decide_eq_false hlive, Bool.or_false, if_neg hlive]
    exact h.alone J hone nested

end PartsSpelled

mutual

/-- The tokens of a condition are read as a condition that agrees with it, without its empty parts:
as an operand inside a group of several parts, and elsewhere at its level. -/
theorem spells_tokens : ∀ {c : Condition α}, c.isEmpty = false →
    (∀ sql, .raw sql ∈ c.pruned.leaves → Spells (rawLevel sql) (rawOf sql) (rawAs sql)) →
    ∀ nested, Spells (if nested then .operand else c.level rawLevel)
      (opened leafOf rawOf (c.tokens nested)) (c.expand leafOf rawAs)
  | .leaf a, _, _, nested => by
    rw [level, ite_self]
    exact ⟨⟨_, .leaf _, .refl _⟩, nofun⟩
  | .raw sql, hlive, hraw, nested => by
    rw [isEmpty] at hlive
    have h := hraw sql (List.mem_singleton_self _)
    have hopened : opened leafOf rawOf [.raw sql] = rawOf sql := List.append_nil _
    simp only [tokens, hlive, Bool.false_eq_true, if_false, expand]
    cases nested with
    | false =>
      simp only [Bool.false_eq_true, if_false, hopened]
      exact h
    | true =>
      simp only [if_true, opened_paren, hopened]
      exact h.paren
  | .all parts, hlive, hraw, nested =>
    (spells_partTokens hraw).group rfl joins_and hlive nested
  | .any parts, hlive, hraw, nested =>
    (spells_partTokens hraw).group rfl joins_or hlive nested
  | .not part, hlive, hraw, nested => by
    have h := spells_tokens (c := part) hlive hraw false
    obtain ⟨d, hd, -⟩ := h.reads
    have hne : part.tokens false ≠ [] := fun hnil => hd.ne_nil (by rw [hnil]; rfl)
    rw [level, ite_self, tokens_not hne, opened_not, opened_paren]
    exact h.paren.not

/-- So are the parts of a group, each of them for itself. -/
theorem spells_partTokens : ∀ {cs : List (Condition α)},
    (∀ sql, .raw sql ∈ leavesOf (expandLive id .raw cs) →
      Spells (rawLevel sql) (rawOf sql) (rawAs sql)) →
    PartsSpelled leafOf rawOf rawAs rawLevel cs
  | [], _ => ⟨.nil, .nil, nofun⟩
  | c :: cs, hraw => by
    rw [expandLive] at hraw
    by_cases hc : c.isEmpty = true
    · rw [if_pos hc] at hraw
      have ih : PartsSpelled leafOf rawOf rawAs rawLevel cs := spells_partTokens hraw
      constructor
      · rw [partTokens, expandLive, if_pos hc, if_pos hc]
        exact ih.operands
      · rw [partTokens, expandLive, if_pos hc, if_pos hc]
        exact ih.bracketed
      · intro ts tss d ds hts hd
        rw [partTokens, if_pos hc] at hts
        rw [expandLive, if_pos hc] at hd
        rw [firstLevel, if_pos hc]
        exact ih.first hts hd
    · rw [if_neg hc, leavesOf] at hraw
      have hhead := spells_tokens (c := c) (Bool.eq_false_iff.2 hc)
        fun sql hsql => hraw sql (List.mem_append_left _ hsql)
      have ih : PartsSpelled leafOf rawOf rawAs rawLevel cs :=
        spells_partTokens fun sql hsql => hraw sql (List.mem_append_right _ hsql)
      constructor
      · rw [partTokens, expandLive, if_neg hc, if_neg hc]
        exact .cons (hhead true) ih.operands
      · rw [partTokens, expandLive, if_neg hc, if_neg hc]
        exact .cons (hhead false).paren ih.bracketed
      · intro ts tss d ds hts hd
        rw [partTokens, if_neg hc, List.cons.injEq] at hts
        rw [expandLive, if_neg hc, List.cons.injEq] at hd
        rw [firstLevel, if_neg hc, ← hts.1, ← hd.1]
        exact hhead false

end

end

/-- The tokens of a condition, as they are, spell the condition without its empty parts. -/
theorem spells_pruned {c : Condition α} (hc : c.isEmpty = false) (nested : Bool) :
    Spells (if nested then .operand else c.level fun _ => .text) (c.tokens nested) c.pruned := by
  have h : Spells (if nested then .operand else c.level fun _ => .text)
      (opened id ([.raw ·]) (c.tokens nested)) c.pruned :=
    spells_tokens hc (fun sql _ => ⟨⟨_, .raw sql, .refl _⟩, nofun⟩) nested
  rwa [opened_raw, relabel_id, List.map_id] at h

/-- Something is written of a condition that is not empty. -/
theorem tokens_ne_nil {c : Condition α} (hc : c.isEmpty = false) (nested : Bool) :
    c.tokens nested ≠ [] := by
  obtain ⟨d, hd, -⟩ := (spells_pruned hc nested).reads
  exact hd.ne_nil

end Condition

end SqlCompose
