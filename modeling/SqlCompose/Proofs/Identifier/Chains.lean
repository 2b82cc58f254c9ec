import Mathlib.Data.List.Chain
import SqlCompose.Proofs.Identifier.Signs

/-!
# How far an expansion goes down

An expansion has a result just if it does not come back to a placeholder of the prefix, and then it
goes down fewer levels than are tried first (`exists_expand?_eq_some_iff`).

While raw SQL is quoted, the names in its placeholders are, and names that are raw SQL are quoted as
such in turn (`Adapter.Calls`). On the way, the prefix is asked for less and less often
(`Adapter.Calls.callsLeft_lt`), so these calls end if they do not come back, and otherwise they never
do (`Adapter.calls_end_iff`).
-/

namespace SqlCompose

open Text Segment

namespace Identifier

variable {tablePrefix cs name : List Char}

/-! ## Expansions with a result -/

variable {quote : Char} {out : List Char} {depth : ℕ}

section Lists

variable {α β : Type} {f g : α → Option β} {l : List α} {ys : List β}

/-- A list has a result just if each of its members has one. -/
theorem isSome_mapM'_iff : (l.mapM' f).isSome = true ↔ ∀ x ∈ l, (f x).isSome = true := by
  induction l with
  | nil => exact iff_of_true rfl (List.forall_mem_nil _)
  | cons x l ih =>
    rw [List.forall_mem_cons, ← ih, List.mapM'_cons]
    cases f x with
    | none => exact iff_of_false nofun fun h => nomatch h.1
    | some y =>
      cases l.mapM' f with
      | none => exact iff_of_false nofun fun h => nomatch h.2
      | some ys => exact iff_of_true rfl ⟨rfl, rfl⟩

/-- A list keeps its result if its members do. -/
theorem mapM'_eq_some_of_imp (h : ∀ x ∈ l, ∀ y, f x = some y → g x = some y)
    (hys : l.mapM' f = some ys) : l.mapM' g = some ys := by
  induction l generalizing ys with
  | nil => exact hys
  | cons x l ih =>
    obtain ⟨hx, hl⟩ := List.forall_mem_cons.1 h
    rw [List.mapM'_cons] at hys
    obtain ⟨y, hy, hbind⟩ := Option.bind_eq_some_iff.1 hys
    obtain ⟨rest, hrest, heq⟩ := Option.bind_eq_some_iff.1 hbind
    cases heq
    rw [List.mapM'_cons, hx y hy, ih hl hrest]
    rfl

end Lists

/-- An expansion that does not come back to a placeholder of the prefix goes down fewer levels than
there are percent signs, and then one more. -/
theorem isSome_expand? (quote : Char) (hback : ¬ BringsBack tablePrefix cs)
    (hdepth : mostSigns cs < depth) : (expand? quote tablePrefix depth cs).isSome = true := by
  induction depth generalizing cs with
  | zero => cases hdepth
  | succ depth ih =>
    rw [expand?, Option.isSome_map, isSome_mapM'_iff]
    intro s hs
    cases s with
    | char c => rfl
    | column name => rfl
    | table name =>
      dsimp only
      split
      · rename_i hraw
        obtain ⟨hlt, hback⟩ := Leads.mostSigns_lt ⟨name, hs, rfl, hraw⟩ hback
        exact ih hback (hlt.trans_le (Nat.le_of_lt_succ hdepth))
      · rfl

/-- An expansion that comes back to a placeholder of the prefix goes down more levels than any number
of them. -/
theorem not_bringsBack_of_expand? (h : (expand? quote tablePrefix depth cs).isSome = true) :
    ¬ BringsBack tablePrefix cs := by
  induction depth generalizing cs with
  | zero => cases h
  | succ depth ih =>
    intro hback
    obtain ⟨_, ⟨name, hmem, rfl, hraw⟩, hnext⟩ := exists_leads hback
    rw [expand?, Option.isSome_map, isSome_mapM'_iff] at h
    have htable := h _ hmem
    dsimp only at htable
    rw [if_pos hraw] at htable
    exact ih htable hnext

/-- The levels that are tried first are more than any text asks for. -/
theorem mostSigns_lt_expansionDepth (cs : List Char) : mostSigns cs < expansionDepth :=
  (mostSigns_le cs).trans_lt (by decide)

/-- One more level changes no result. -/
theorem expand?_succ_of_eq_some (h : expand? quote tablePrefix depth cs = some out) :
    expand? quote tablePrefix (depth + 1) cs = some out := by
  induction depth generalizing cs out with
  | zero => cases h
  | succ depth ih =>
    rw [expand?] at h
    obtain ⟨parts, hparts, rfl⟩ := Option.map_eq_some_iff.1 h
    rw [expand?, Option.map_eq_some_iff]
    refine ⟨parts, mapM'_eq_some_of_imp (fun s _ part hpart => ?_) hparts, rfl⟩
    cases s with
    | char c => exact hpart
    | column name => exact hpart
    | table name =>
      dsimp only at hpart ⊢
      split at hpart
      · rename_i hraw
        rw [if_pos hraw, ih hpart]
      · rename_i hraw
        rw [if_neg hraw, hpart]

/-- More levels change no result. -/
theorem expand?_mono {deeper : ℕ} (hle : depth ≤ deeper)
    (h : expand? quote tablePrefix depth cs = some out) :
    expand? quote tablePrefix deeper cs = some out := by
  induction hle with
  | refl => exact h
  | step _ ih => exact expand?_succ_of_eq_some ih

/-- Some number of levels is enough just if the expansion does not come back to a placeholder of the
prefix, and then the levels that are tried first are. -/
theorem exists_expand?_eq_some_iff :
    (∃ depth, expand? quote tablePrefix depth cs = some out) ↔
      ¬ BringsBack tablePrefix cs ∧ expand? quote tablePrefix expansionDepth cs = some out := by
  constructor
  · rintro ⟨depth, h⟩
    have hback : ¬ BringsBack tablePrefix cs :=
      not_bringsBack_of_expand? (Option.isSome_iff_exists.2 ⟨out, h⟩)
    obtain ⟨first, hfirst⟩ := Option.isSome_iff_exists.1
      (isSome_expand? quote hback (mostSigns_lt_expansionDepth cs))
    -- Both results are those of the deeper one of the two expansions.
    have hout := expand?_mono (le_max_left depth expansionDepth) h
    rw [expand?_mono (le_max_right depth expansionDepth) hfirst] at hout
    exact ⟨hback, hfirst.trans hout⟩
  · rintro ⟨-, h⟩
    exact ⟨expansionDepth, h⟩

/-- A call of one of the functions that quote raw SQL, a table name or a column name. -/
inductive Call where
  | sql (text : List Char)
  | table (name : List Char)
  | column (name : List Char)

/-- What is to be quoted. -/
def Call.text : Call → List Char
  | .sql text => text
  | .table name => name
  | .column name => name

end Identifier

namespace Adapter

open Identifier

/-- While the first call is answered, the second one is made. -/
inductive Calls (a : Adapter) : Call → Call → Prop
  | table {cs name : List Char} (h : .table name ∈ segments cs) :
    Calls a (.sql cs) (.table (replaceChar '%' a.tablePrefix.toList name))
  | column {cs name : List Char} (h : .column name ∈ segments cs) :
    Calls a (.sql cs) (.column name)
  | rawTable {name : List Char} (h : isRawTable name = true) : Calls a (.table name) (.sql name)
  | rawColumn {name : List Char} (h : isRawColumn name = true) : Calls a (.column name) (.sql name)
  | qualifier {name table column : List Char} (hraw : isRawColumn name = false)
      (h : splitLast? '.' name = some (table, column)) : Calls a (.column name) (.table table)

/-- The calls that are made while a call is answered come to an end. -/
def Ends (a : Adapter) (call : Call) : Prop :=
  Acc (fun next call => a.Calls call next) call

variable {a : Adapter}

/-! ## Raw SQL -/

/-- Where the levels that are tried first are not enough, no number of levels is. -/
theorem quoteSqlChars_eq_getD (a : Adapter) (cs : List Char) :
    a.quoteSqlChars cs =
      (expand? a.quoteChar a.tablePrefix.toList expansionDepth cs).getD cs := by
  rw [quoteSqlChars]
  cases hlevels : expand? a.quoteChar a.tablePrefix.toList expansionDepth cs with
  | some out => rfl
  | none =>
    have hnone : expand? a.quoteChar a.tablePrefix.toList
        (levels a.quoteChar a.tablePrefix.toList cs) cs = none := by
      refine Option.eq_none_iff_forall_ne_some.2 fun out hout => ?_
      rw [(exists_expand?_eq_some_iff.1 ⟨_, hout⟩).2] at hlevels
      cases hlevels
    rw [hnone]
    rfl

/-- Raw SQL that is not empty is quoted to something. -/
theorem quoteSqlChars_ne_nil {cs : List Char} (h : cs ≠ []) : a.quoteSqlChars cs ≠ [] := by
  rw [quoteSqlChars_eq_getD]
  cases hout : expand? a.quoteChar a.tablePrefix.toList expansionDepth cs with
  | none => exact h
  | some out => exact expand?_ne_nil h hout

/-! ## Calls -/

/-- A name is no raw SQL as a column. -/
theorem isRawColumn_names {name : List Char} (h : IsName name) : isRawColumn name = false := by
  have hbracket : hasPair '[' name = false :=
    hasPair_eq_false (not_mem_of_names h.2 (by decide))
  have hraw := isRawTable_names h.2
  rw [isRawTable, Bool.or_eq_false_iff] at hraw
  rw [isRawColumn, hraw.1, hraw.2, hbracket]
  rfl

/-- What is raw SQL as a table is raw SQL as a column. -/
theorem isRawColumn_of_isRawTable {name : List Char} (h : isRawTable name = true) :
    isRawColumn name = true := by
  rw [isRawTable, Bool.or_eq_true] at h
  rcases h with h | h <;> rw [isRawColumn, h] <;> simp

/-- What stands in front of the last dot of a column name is raw SQL only if the whole name is. -/
theorem isRawTable_qualifier {name table column : List Char} (hraw : isRawColumn name = false)
    (h : splitLast? '.' name = some (table, column)) : isRawTable table = false := by
  obtain ⟨rfl, -⟩ := eq_of_splitLast? h
  rw [isRawColumn, Bool.or_eq_false_iff, Bool.or_eq_false_iff] at hraw
  obtain ⟨⟨hparen, -⟩, hbrace⟩ := hraw
  rw [hasPair_eq_false_iff] at hbrace
  have hwithin : ¬ ['{', '{'] <:+: table := fun hpair =>
    hbrace (hpair.trans (List.prefix_append _ _).isInfix)
  rw [List.contains_append, Bool.or_eq_false_iff] at hparen
  rw [isRawTable, hparen.1, hasPair_eq_false_iff.2 hwithin]
  rfl

/-- How many more calls may follow. -/
def callsLeft : Call → ℕ
  | .sql cs => 2 * mostSigns cs + 2
  | .table name => if isRawTable name then 2 * mostSigns name + 3 else 0
  | .column name => if isRawColumn name then 2 * mostSigns name + 3 else 1

/-- Seven calls follow at most. -/
theorem callsLeft_le (call : Call) : callsLeft call ≤ 7 := by
  have hle := mostSigns_le call.text
  unfold callsLeft
  split
  · exact (Nat.add_le_add_right (Nat.mul_le_mul_left 2 hle) 2).trans (by decide)
  · split
    · exact Nat.add_le_add_right (Nat.mul_le_mul_left 2 hle) 3
    · exact Nat.zero_le _
  · split
    · exact Nat.add_le_add_right (Nat.mul_le_mul_left 2 hle) 3
    · decide

/-- A name that is no raw SQL brings nothing back. -/
theorem not_bringsBack_of_not_raw {tablePrefix name : List Char} (h : isRawTable name = false) :
    ¬ BringsBack tablePrefix name := by
  have hzero := mostSigns_eq_zero h
  rintro (⟨-, hpos⟩ | ⟨-, htwo⟩) <;> omega

/-- A call that does not come back to a placeholder of the prefix makes calls that do not either, and
fewer of them follow. -/
theorem Calls.callsLeft_lt {call next : Call} (h : a.Calls call next)
    (hback : ¬ BringsBack a.tablePrefix.toList call.text) :
    callsLeft next < callsLeft call ∧ ¬ BringsBack a.tablePrefix.toList next.text := by
  cases h with
  | @table cs name h =>
    cases hraw : isRawTable (replaceChar '%' a.tablePrefix.toList name) with
    | true =>
      obtain ⟨hlt, hnext⟩ := Leads.mostSigns_lt ⟨name, h, rfl, hraw⟩ hback
      refine ⟨?_, hnext⟩
      rw [callsLeft, callsLeft, if_pos hraw]
      omega
    | false =>
      refine ⟨?_, not_bringsBack_of_not_raw hraw⟩
      rw [callsLeft, callsLeft, if_neg (Bool.eq_false_iff.1 hraw)]
      exact Nat.succ_pos _
  | @column cs name h =>
    have hname : IsName name :=
      (isPlaceholder_of_mem_segments h).resolve_left fun ⟨_, hc⟩ => nomatch hc
    refine ⟨?_, not_bringsBack_of_not_raw (isRawTable_names hname.2)⟩
    rw [callsLeft, callsLeft, if_neg (Bool.eq_false_iff.1 (isRawColumn_names hname))]
    omega
  | rawTable hraw =>
    refine ⟨?_, hback⟩
    rw [callsLeft, callsLeft, if_pos hraw]
    exact Nat.lt_succ_self _
  | rawColumn hraw =>
    refine ⟨?_, hback⟩
    rw [callsLeft, callsLeft, if_pos hraw]
    exact Nat.lt_succ_self _
  | qualifier hraw h =>
    have htable := isRawTable_qualifier hraw h
    refine ⟨?_, not_bringsBack_of_not_raw htable⟩
    rw [callsLeft, callsLeft, if_neg (Bool.eq_false_iff.1 htable),
      if_neg (Bool.eq_false_iff.1 hraw)]
    exact Nat.one_pos

/-- A call that comes back to a placeholder of the prefix makes one that does, too. -/
theorem exists_calls {call : Call} (hback : BringsBack a.tablePrefix.toList call.text) :
    ∃ next, a.Calls call next ∧ BringsBack a.tablePrefix.toList next.text := by
  have hasks : 0 < mostSigns call.text := by
    rcases hback with ⟨-, hpos⟩ | ⟨-, htwo⟩ <;> omega
  have hraw := isRawTable_of_mostSigns hasks
  cases call with
  | sql cs =>
    obtain ⟨_, ⟨name, hmem, rfl, -⟩, hnext⟩ := exists_leads hback
    exact ⟨_, .table hmem, hnext⟩
  | table name => exact ⟨_, .rawTable hraw, hback⟩
  | column name => exact ⟨_, .rawColumn (isRawColumn_of_isRawTable hraw), hback⟩

/-- A call ends just if it does not come back to a placeholder of the prefix. -/
theorem ends_iff_not_bringsBack (a : Adapter) (call : Call) :
    a.Ends call ↔ ¬ BringsBack a.tablePrefix.toList call.text := by
  constructor
  · intro h
    induction h with
    | intro call _ ih =>
      intro hback
      obtain ⟨next, hcalls, hnext⟩ := exists_calls hback
      exact ih next hcalls hnext
  · intro hback
    induction hleft : callsLeft call using Nat.strong_induction_on generalizing call with
    | h left ih =>
      refine Acc.intro call fun next hcalls => ?_
      obtain ⟨hlt, hnext⟩ := hcalls.callsLeft_lt hback
      exact ih _ (hleft ▸ hlt) next hnext rfl

/-- As many calls follow one another as are left. -/
theorem length_le_callsLeft {call : Call} {calls : List Call} (hends : a.Ends call)
    (hchain : (call :: calls).IsChain a.Calls) : calls.length ≤ callsLeft call := by
  induction calls generalizing call with
  | nil => exact Nat.zero_le _
  | cons next calls ih =>
    obtain ⟨hcalls, hrest⟩ := List.isChain_cons_cons.1 hchain
    have hback := (a.ends_iff_not_bringsBack call).1 hends
    exact (ih (hends.inv hcalls) hrest).trans_lt (hcalls.callsLeft_lt hback).1

/-- No text comes back to a placeholder of a prefix that neither asks for itself nor stands across
one. -/
theorem forall_not_bringsBack_iff {tablePrefix : List Char} :
    (∀ cs, ¬ BringsBack tablePrefix cs) ↔ mostSigns tablePrefix = 0 ∧ ¬ Bridges tablePrefix := by
  constructor
  · intro h
    have htwo : 2 ≤ mostSigns (table ['%', 'x', '%']).source := by decide
    obtain ⟨hasks, hbridges⟩ := not_or.1 (h (table ['%', 'x', '%']).source)
    exact ⟨by omega, fun hbridge => hbridges ⟨hbridge, htwo⟩⟩
  · rintro ⟨hzero, hbridges⟩ cs (⟨hpos, -⟩ | ⟨hbridge, -⟩)
    · omega
    · exact hbridges hbridge

/-- The calls that quote a text, a table name or a column name end just if the prefix brings none of
its placeholders back. There are seven more of them at most then, and what is expanded is the result;
for other texts no number of levels is enough. So they end for all texts just if the prefix neither
asks for itself nor stands across a placeholder, on both sides of a name. -/
theorem calls_end_iff (a : Adapter) :
    (∀ call, a.Ends call ↔ ¬ BringsBack a.tablePrefix.toList call.text) ∧
    (∀ call calls, a.Ends call → (call :: calls).IsChain a.Calls → calls.length ≤ 7) ∧
    (∀ cs out, (∃ depth, expand? a.quoteChar a.tablePrefix.toList depth cs = some out) ↔
      a.Ends (.sql cs) ∧ out = a.quoteSqlChars cs) ∧
    ((∀ call, a.Ends call) ↔
      mostSigns a.tablePrefix.toList = 0 ∧ ¬ Bridges a.tablePrefix.toList) := by
  refine ⟨a.ends_iff_not_bringsBack, fun call calls hends hchain => ?_, fun cs out => ?_, ?_⟩
  · exact (length_le_callsLeft hends hchain).trans (callsLeft_le call)
  · rw [exists_expand?_eq_some_iff, a.ends_iff_not_bringsBack]
    refine and_congr_right fun hback => ?_
    obtain ⟨out', hout⟩ := Option.isSome_iff_exists.1
      (isSome_expand? a.quoteChar hback (mostSigns_lt_expansionDepth cs))
    rw [quoteSqlChars_eq_getD, hout, Option.some_inj, Option.getD_some, eq_comm]
  · rw [← forall_not_bringsBack_iff]
    exact ⟨fun h cs => (a.ends_iff_not_bringsBack (.sql cs)).1 (h (.sql cs)),
      fun h call => (a.ends_iff_not_bringsBack call).2 (h call.text)⟩

theorem not_ends_own_placeholder :
    ¬ (Adapter.ofDialect .sqlite "shop_production.\x7b\x7b%x\x7d\x7d" none).Ends
      (.sql "\x7b\x7b%x\x7d\x7d".toList) := by
  rw [ends_iff_not_bringsBack, not_not]
  exact .inl (by decide)

end Adapter

end SqlCompose
