import Mathlib.Logic.Function.Iterate
import SqlCompose.Proofs.Condition.Clause

/-!
# Empty parts and groups of one part

Two conditions are written alike if they are written as the same tokens wherever they stand
(`Condition.WrittenAlike`). This is kept by everything that may stand around a condition
(`Condition.WrittenAlike.fill`). Neither empty parts show in what is written
(`Condition.pruned_alike`), nor groups of one part (`Condition.collapsed_alike`), so a condition is
written like its tidy form, in which there are none of either (`Condition.tidy_tidied`).

Only of an empty condition is the text empty, and a negation puts its own words around any other one
(`Condition.tidied_interchangeable`).
-/

namespace SqlCompose

open Token

namespace Condition

variable {α : Type}

/-! ## What stands around a condition -/

/-- A condition with a gap in the place of one of its parts. -/
inductive Around (α : Type) where
  | gap
  | all (before : List (Condition α)) (inner : Around α) (behind : List (Condition α))
  | any (before : List (Condition α)) (inner : Around α) (behind : List (Condition α))
  | not (inner : Around α)

/-- The condition with `c` in the gap. -/
def Around.fill : Around α → Condition α → Condition α
  | gap, c => c
  | all before inner behind, c => .all (before ++ inner.fill c :: behind)
  | any before inner behind, c => .any (before ++ inner.fill c :: behind)
  | not inner, c => .not (inner.fill c)

/-! ## Tidy conditions -/

/-- A group of parts, or its part if there is one only. -/
def collapse (group : List (Condition α) → Condition α) : List (Condition α) → Condition α
  | [part] => part
  | parts => group parts

mutual

/-- The condition with the part in the place of every group of one part. -/
def collapsed : Condition α → Condition α
  | leaf a => leaf a
  | raw sql => raw sql
  | all parts => collapse all (collapsedAll parts)
  | any parts => collapse any (collapsedAll parts)
  | not part => not part.collapsed

/-- `collapsed` of every condition of a list. -/
def collapsedAll : List (Condition α) → List (Condition α)
  | [] => []
  | c :: cs => c.collapsed :: collapsedAll cs

end

/-- The condition without its empty parts, and then without groups of one part. -/
def tidied (c : Condition α) : Condition α :=
  c.pruned.collapsed

/-- Nothing in the condition is empty, and all its groups have several parts. -/
inductive Tidy : Condition α → Prop
  | leaf (a : α) : Tidy (leaf a)
  | raw {sql : String} : Text.isBlankText sql = false → Tidy (raw sql)
  | all {parts : List (Condition α)} : 1 < parts.length → (∀ c ∈ parts, Tidy c) → Tidy (all parts)
  | any {parts : List (Condition α)} : 1 < parts.length → (∀ c ∈ parts, Tidy c) → Tidy (any parts)
  | not {part : Condition α} : Tidy part → Tidy (not part)

/-- No condition gets lost. -/
theorem length_collapsedAll (cs : List (Condition α)) : (collapsedAll cs).length = cs.length := by
  induction cs with
  | nil => rfl
  | cons c cs ih => rw [collapsedAll, List.length_cons, List.length_cons, ih]

/-- Something is left of a list that is not empty. -/
theorem length_collapsedAll_pos {cs : List (Condition α)} (h : areEmpty cs = false) :
    0 < (collapsedAll (expandLive id raw cs)).length := by
  rw [length_collapsedAll, length_expandLive]
  exact liveCount_pos h

/-- Tidy parts, of which there is one at least, make a tidy group or a tidy part. -/
theorem tidy_collapse {group : List (Condition α) → Condition α} {parts : List (Condition α)}
    (hgroup : 1 < parts.length → (∀ c ∈ parts, Tidy c) → Tidy (group parts))
    (hpos : 0 < parts.length) (hparts : ∀ c ∈ parts, Tidy c) : Tidy (collapse group parts) := by
  match parts with
  | [] => cases hpos
  | [part] => exact hparts part List.mem_cons_self
  | _ :: _ :: _ => exact hgroup (by simp) hparts

mutual

/-- What is left of a condition that is not empty is tidy. -/
theorem tidy_tidied : ∀ c : Condition α, c.isEmpty = false → c.tidied.Tidy
  | .leaf a, _ => .leaf a
  | .raw _, h => .raw h
  | .all parts, h => tidy_collapse .all (length_collapsedAll_pos h) (tidy_collapsedAll parts)
  | .any parts, h => tidy_collapse .any (length_collapsedAll_pos h) (tidy_collapsedAll parts)
  | .not part, h => .not (tidy_tidied part h)

/-- So are all conditions of a list. -/
theorem tidy_collapsedAll : ∀ cs : List (Condition α),
    ∀ c ∈ collapsedAll (expandLive id raw cs), c.Tidy
  | [] => nofun
  | c :: cs => by
    rw [expandLive]
    split
    · exact tidy_collapsedAll cs
    · next hc =>
      exact List.forall_mem_cons.2 ⟨tidy_tidied c (Bool.eq_false_iff.2 hc), tidy_collapsedAll cs⟩

end

/-! ## Conditions that are written alike -/

/-- Conditions that are written as the same tokens, wherever they stand. -/
structure WrittenAlike (c d : Condition α) : Prop where
  isEmpty_eq : c.isEmpty = d.isEmpty
  tokens_eq : ∀ nested, c.tokens nested = d.tokens nested

/-- Lists of conditions that are written alike as the parts of a group. -/
structure PartsAlike (cs ds : List (Condition α)) : Prop where
  areEmpty_eq : areEmpty cs = areEmpty ds
  liveCount_eq : liveCount cs = liveCount ds
  partTokens_eq : ∀ nested, partTokens nested cs = partTokens nested ds

namespace PartsAlike

variable {c d : Condition α} {cs ds : List (Condition α)}

theorem refl (cs : List (Condition α)) : PartsAlike cs cs :=
  ⟨rfl, rfl, fun _ => rfl⟩

/-- One more part may stand in front. -/
theorem cons (h : WrittenAlike c d) (h' : PartsAlike cs ds) : PartsAlike (c :: cs) (d :: ds) := by
  refine ⟨?_, ?_, fun nested => ?_⟩
  · rw [areEmpty, areEmpty, h.isEmpty_eq, h'.areEmpty_eq]
  · rw [liveCount_cons, liveCount_cons, h.isEmpty_eq, h'.liveCount_eq]
  · rw [partTokens, partTokens, h.isEmpty_eq, h.tokens_eq, h'.partTokens_eq]

/-- An empty part is not written. -/
theorem cons_right (hd : d.isEmpty = true) (h : PartsAlike cs ds) : PartsAlike cs (d :: ds) := by
  refine ⟨?_, ?_, fun nested => ?_⟩
  · rw [areEmpty, hd, Bool.true_and, h.areEmpty_eq]
  · rw [liveCount_cons, if_pos hd, Nat.add_zero, h.liveCount_eq]
  · rw [partTokens, if_pos hd, h.partTokens_eq]

/-- One part may be replaced among others. -/
theorem replace (h : WrittenAlike c d) (before behind : List (Condition α)) :
    PartsAlike (before ++ c :: behind) (before ++ d :: behind) := by
  induction before with
  | nil => exact .cons h (.refl behind)
  | cons b before ih => exact .cons ⟨rfl, fun _ => rfl⟩ ih

/-- Conjunctions of parts that are written alike are written alike. -/
theorem all (h : PartsAlike cs ds) : WrittenAlike (all cs) (all ds) :=
  ⟨h.areEmpty_eq, fun nested => by rw [tokens, tokens, h.liveCount_eq, h.partTokens_eq]⟩

/-- Disjunctions of parts that are written alike are written alike. -/
theorem any (h : PartsAlike cs ds) : WrittenAlike (any cs) (any ds) :=
  ⟨h.areEmpty_eq, fun nested => by rw [tokens, tokens, h.liveCount_eq, h.partTokens_eq]⟩

/-- Clauses of conditions that are written alike are rendered alike. -/
theorem clauseRendering_eq {a : Adapter} {cs ds : List (Condition Test)} (h : PartsAlike cs ds)
    (ha : a.lookups.NeverEmpty) (keyword : String) :
    clauseRendering keyword (renderings a cs) = clauseRendering keyword (renderings a ds) := by
  have hempty := h.areEmpty_eq
  cases hds : areEmpty ds with
  | true =>
    rw [hds] at hempty
    rw [clauseRendering_of_areEmpty a keyword hempty, clauseRendering_of_areEmpty a keyword hds]
  | false =>
    rw [hds] at hempty
    have htokens : clauseTokens cs = clauseTokens ds := by
      rw [clauseTokens_eq, clauseTokens_eq, h.partTokens_eq]
    rw [clauseRendering_eq_append ha hempty, clauseRendering_eq_append ha hds, htokens]

end PartsAlike

namespace WrittenAlike

variable {c d e : Condition α}

theorem refl (c : Condition α) : WrittenAlike c c :=
  ⟨rfl, fun _ => rfl⟩

theorem symm (h : WrittenAlike c d) : WrittenAlike d c :=
  ⟨h.isEmpty_eq.symm, fun nested => (h.tokens_eq nested).symm⟩

theorem trans (h : WrittenAlike c d) (h' : WrittenAlike d e) : WrittenAlike c e :=
  ⟨h.isEmpty_eq.trans h'.isEmpty_eq, fun nested => (h.tokens_eq nested).trans (h'.tokens_eq nested)⟩

/-- Negations of conditions that are written alike are written alike. -/
theorem not (h : WrittenAlike c d) : WrittenAlike (not c) (not d) :=
  ⟨h.isEmpty_eq, fun nested => by rw [tokens, tokens, h.tokens_eq]⟩

/-- What stands around conditions that are written alike is written alike. -/
theorem fill (h : WrittenAlike c d) (around : Around α) :
    WrittenAlike (around.fill c) (around.fill d) := by
  induction around with
  | gap => exact h
  | all before _ behind ih => exact (PartsAlike.replace ih before behind).all
  | any before _ behind ih => exact (PartsAlike.replace ih before behind).any
  | not _ ih => exact ih.not

/-- Conditions that are written alike are rendered alike. -/
theorem rendering_eq {a : Adapter} {c d : Condition Test} (h : WrittenAlike c d)
    (ha : a.lookups.NeverEmpty) : c.rendering a = d.rendering a := by
  rw [rendering_eq_tokensRendering ha, rendering_eq_tokensRendering ha, h.tokens_eq]

/-- The only part of a group is written in its place. -/
theorem tokens_single {glue : Token α} (c : Condition α) (nested : Bool) :
    Token.group glue nested (partTokens (nested || 1 < liveCount [c]) [c]) = c.tokens nested := by
  have hcount : decide (1 < liveCount [c]) = false := by
    rw [liveCount_cons, liveCount, List.countP_nil]
    cases c.isEmpty <;> rfl
  rw [hcount, Bool.or_false, partTokens]
  split
  · next hc =>
    rw [tokens_eq_nil nested hc]
    cases nested <;> rfl
  · cases nested <;> rfl

/-- A conjunction of one condition is written as the condition. -/
theorem all_single (c : Condition α) : WrittenAlike (all [c]) c :=
  ⟨Bool.and_true _, tokens_single c⟩

/-- A disjunction of one condition is written as the condition. -/
theorem any_single (c : Condition α) : WrittenAlike (any [c]) c :=
  ⟨Bool.and_true _, tokens_single c⟩

end WrittenAlike

mutual

/-- Empty parts do not show. -/
theorem pruned_alike : ∀ c : Condition α, WrittenAlike c.pruned c
  | .leaf _ | .raw _ => .refl _
  | .all parts => (expandLive_alike parts).all
  | .any parts => (expandLive_alike parts).any
  | .not part => (pruned_alike part).not

/-- Empty parts do not show in a list. -/
theorem expandLive_alike : ∀ cs : List (Condition α), PartsAlike (expandLive id raw cs) cs
  | [] => .refl []
  | c :: cs => by
    rw [expandLive]
    split
    · next hc => exact .cons_right hc (expandLive_alike cs)
    · exact .cons (pruned_alike c) (expandLive_alike cs)

end

/-- A group of one part is written as the part, and any other one stays as it is. -/
theorem collapse_alike {group : List (Condition α) → Condition α}
    (hsingle : ∀ c, WrittenAlike (group [c]) c) (cs : List (Condition α)) :
    WrittenAlike (collapse group cs) (group cs) := by
  unfold collapse
  split
  · next c => exact (hsingle c).symm
  · exact .refl _

mutual

/-- Groups of one part do not show. -/
theorem collapsed_alike : ∀ c : Condition α, WrittenAlike c.collapsed c
  | .leaf _ | .raw _ => .refl _
  | .all parts => (collapse_alike .all_single _).trans (collapsedAll_alike parts).all
  | .any parts => (collapse_alike .any_single _).trans (collapsedAll_alike parts).any
  | .not part => (collapsed_alike part).not

/-- Groups of one part do not show in a list. -/
theorem collapsedAll_alike : ∀ cs : List (Condition α), PartsAlike (collapsedAll cs) cs
  | [] => .refl []
  | c :: cs => .cons (collapsed_alike c) (collapsedAll_alike cs)

end

/-- A condition is written like its tidy form. -/
theorem tidied_alike (c : Condition α) : WrittenAlike c.tidied c :=
  (collapsed_alike _).trans (pruned_alike c)

/-! ## Texts that are not empty -/

section
variable {a : Adapter} {c : Condition Test} {p p' : Parameters} {text : String}

/-- Nothing is written of an empty condition, and of no other. -/
theorem isEmpty_iff_write (ha : a.lookups.NeverEmpty) :
    c.isEmpty = true ↔ ((c.rendering a).write p).1 = .ok "" := by
  constructor
  · intro hc
    rw [Condition.rendering, renderingIn_of_isEmpty a false hc]
    rfl
  · intro h
    by_contra hc
    exact neverEmpty_renderingIn ha false (Bool.eq_false_iff.2 hc) p "" _ (Prod.ext h rfl) rfl

/-! ## Negations -/

/-- The text of a negation. -/
def negatedText (text : String) : String :=
  "NOT (" ++ text ++ ")"

/-- Negations are empty if what they negate is. -/
theorem isEmpty_nots (c : Condition Test) (n : Nat) : (Condition.not^[n] c).isEmpty = c.isEmpty := by
  induction n with
  | zero => rfl
  | succ n ih => rw [Function.iterate_succ_apply', isEmpty, ih]

/-- A negation puts its words around the text of a condition that is not empty. -/
theorem write_not (ha : a.lookups.NeverEmpty) (hc : c.isEmpty = false) (p : Parameters) :
    ((Condition.not c).rendering a).write p =
      (((c.rendering a).write p).1.map negatedText, ((c.rendering a).write p).2) := by
  have hrendering : (Condition.not c).rendering a = (c.rendering a).map notText := by
    rw [Condition.rendering, renderingIn, Condition.rendering]
  rw [hrendering, Rendering.write_map]
  cases htext : ((c.rendering a).write p).1 with
  | error e => rfl
  | ok text =>
    have hne : text ≠ "" := neverEmpty_renderingIn ha false hc p text _ (Prod.ext htext rfl)
    exact congrArg (fun text => (Except.ok text, _)) (if_neg hne)

/-- Each of several negations writes its own words around what is negated. -/
theorem write_nots (ha : a.lookups.NeverEmpty) (hc : c.isEmpty = false) (n : Nat) (p : Parameters) :
    ((Condition.not^[n] c).rendering a).write p =
      (((c.rendering a).write p).1.map negatedText^[n], ((c.rendering a).write p).2) := by
  induction n with
  | zero =>
    cases h : ((c.rendering a).write p).1 <;> exact Prod.ext h rfl
  | succ n ih =>
    have hn : (Condition.not^[n] c).isEmpty = false := (isEmpty_nots c n).trans hc
    rw [Function.iterate_succ_apply', write_not ha hn, ih, Function.iterate_succ']
    cases ((c.rendering a).write p).1 <;> rfl

end

/-! ## The tidy form in any place -/

/-- A condition may be replaced by its tidy form wherever it stands, alone, in other conditions and in
a clause: the same is written and the same values are collected, or it fails alike. Of an empty
condition, and of no other, the text is empty; what is written of any other one can be read, so that
no word and no pair of parentheses stands without its operands, and each of any number of negations
around it writes its own words. -/
theorem tidied_interchangeable {a : Adapter} (ha : a.lookups.NeverEmpty)
    (c : Condition Test) :
    (c.isEmpty = false → c.tidied.Tidy) ∧
    (∀ (around : Around Test) p,
      ((around.fill c).rendering a).write p = ((around.fill c.tidied).rendering a).write p) ∧
    (∀ keyword before (around : Around Test) behind p,
      (clauseRendering keyword (renderings a (before ++ around.fill c :: behind))).write p =
        (clauseRendering keyword (renderings a (before ++ around.fill c.tidied :: behind))).write
          p) ∧
    (∀ p, c.isEmpty = true ↔ ((c.rendering a).write p).1 = .ok "") ∧
    (c.isEmpty = false →
      (∃ ts d, Reads .text ts d ∧
        ∀ p text p', (c.rendering a).write p = (.ok text, p') → a.Writes p ts text p') ∧
      ∀ n p, ((Condition.not^[n] c).rendering a).write p =
        (((c.rendering a).write p).1.map negatedText^[n], ((c.rendering a).write p).2)) := by
  have hfill (around : Around Test) : WrittenAlike (around.fill c) (around.fill c.tidied) :=
    ((tidied_alike c).fill around).symm
  refine ⟨tidy_tidied c, fun around p => ?_, fun keyword before around behind p => ?_,
    fun p => isEmpty_iff_write ha, fun hc => ⟨?_, write_nots ha hc⟩⟩
  · rw [(hfill around).rendering_eq ha]
  · rw [(PartsAlike.replace (hfill around) before behind).clauseRendering_eq ha]
  · obtain ⟨d, hd, -⟩ := (spells_pruned hc false).text.reads
    exact ⟨c.tokens false, d, hd, fun _ _ _ => writes_tokens ha⟩

/-- Of a disjunction with an empty part, alone in a conjunction. -/
theorem tidied_interchangeable_any :
    let a := Adapter.ofDialect .sqlite "" none
    let x : Condition Test := .leaf ⟨"x", none, .value (.int 1)⟩
    let c : Condition Test := .all [.any [x, .not (.all []), .raw "[[y]]"]]
    let around : Around Test := .not (.all [x] .gap [.raw " "])
    c.isEmpty = false ∧ c.tidied = .any [x, .raw "[[y]]"] ∧ c.tidied.Tidy ∧
      ((around.fill c).rendering a).write .bound =
        (.ok "NOT (`x`=? AND (`x`=? OR (`y`)))", ⟨.bound, [.int 1, .int 1]⟩) ∧
      ((around.fill c.tidied).rendering a).write .bound =
        (.ok "NOT (`x`=? AND (`x`=? OR (`y`)))", ⟨.bound, [.int 1, .int 1]⟩) ∧
      ((Condition.not^[2] c).rendering a).write .inline =
        (.ok "NOT (NOT (`x`=1 OR (`y`)))", .inline) := by
  intro a x c around
  obtain ⟨htidy, hfill, -, -, hlive⟩ := tidied_interchangeable (a := a) Lookup.standard_neverEmpty c
  have hwrite : ((around.fill c).rendering a).write .bound =
      (.ok "NOT (`x`=? AND (`x`=? OR (`y`)))", ⟨.bound, [.int 1, .int 1]⟩) := by decide +kernel
  refine ⟨rfl, rfl, htidy rfl, hwrite, (hfill around .bound).symm.trans hwrite, ?_⟩
  exact ((hlive rfl).2 2 .inline).trans (by decide +kernel)

end Condition

end SqlCompose
