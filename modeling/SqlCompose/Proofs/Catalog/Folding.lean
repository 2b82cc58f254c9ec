import SqlCompose.Catalog.Folding

/-!
# Entries under a name

Where entries are folded into a map, what is found under a name is made of the entries of this name
alone, in their order (`NameMap.get?_foldl_alter`). So an index has the columns of its entries, and
is unique if the first of them is (`Catalog.get?_collectIndexes`); a foreign key has the columns of
its entries, and refers to the table of the first of them (`Catalog.get?_collectReferences`).
-/

namespace SqlCompose

namespace NameMap

variable {ε α : Type} (key : ε → String) (start : ε → α) (change : ε → α → α)

/-- What is found under a name where entries are folded into a map: what was there, or what the
first entry of this name begins with, changed by all entries of this name in their order. -/
theorem get?_foldl_alter (entries : List ε) (m : NameMap α) (name : String) :
    (entries.foldl (fun m e => m.alter (key e) (start e) (change e)) m).get? name =
      match entries.filter (key · == name) with
      | [] => m.get? name
      | e :: es =>
        some ((e :: es).foldl (fun a e => change e a) ((m.get? name).getD (start e))) := by
  induction entries generalizing m with
  | nil => rfl
  | cons e rest ih =>
    rw [List.foldl_cons, ih, List.filter_cons]
    by_cases hname : key e = name
    · subst hname
      rw [get?_alter_self, if_pos (beq_self_eq_true (key e))]
      cases rest.filter (key · == key e) <;> rfl
    · rw [get?_alter_of_ne m _ _ (Ne.symm hname), if_neg (mt LawfulBEq.eq_of_beq hname)]

end NameMap

namespace Catalog

/-- Columns are added behind those of an index. -/
theorem foldl_addColumn (entries : List IndexEntry) (index : Index) :
    entries.foldl (fun (i : Index) e => { i with columns := i.columns ++ [e.column] }) index =
      { index with columns := index.columns ++ entries.map (·.column) } := by
  induction entries generalizing index with
  | nil => simp
  | cons e rest ih =>
    rw [List.foldl_cons, ih, List.map_cons, List.append_assoc]
    rfl

/-- The index of a name has the columns of the entries of this name, and the flag of the first. -/
theorem get?_collectIndexes (entries : List IndexEntry) (name : String) :
    (collectIndexes entries).get? name =
      match entries.filter (·.index == name) with
      | [] => none
      | e :: es => some ⟨(e :: es).map (·.column), e.unique⟩ := by
  have hfold := NameMap.get?_foldl_alter (·.index) (fun e => (⟨[], e.unique⟩ : Index))
    (fun e i => { i with columns := i.columns ++ [e.column] }) entries {} name
  rw [collectIndexes]
  refine hfold.trans ?_
  cases entries.filter (·.index == name) with
  | nil => rfl
  | cons e es => exact congrArg some (foldl_addColumn (e :: es) ⟨[], e.unique⟩)

/-- Columns are added behind those of a foreign key, each with the one that it refers to. -/
theorem foldl_addReference (entries : List ReferenceEntry) (key : Reference) :
    entries.foldl (fun (r : Reference) e =>
        { r with columns := r.columns ++ [e.column], refColumns := r.refColumns ++ [e.refColumn] })
      key =
      ⟨key.columns ++ entries.map (·.column), key.refTable,
        key.refColumns ++ entries.map (·.refColumn)⟩ := by
  induction entries generalizing key with
  | nil => simp
  | cons e rest ih =>
    rw [List.foldl_cons, ih, List.map_cons, List.map_cons, List.append_assoc, List.append_assoc]
    rfl

/-- The foreign key of a name has the columns of the entries of this name, and refers to the table
of the first. -/
theorem get?_collectReferences (entries : List ReferenceEntry) (name : String) :
    (collectReferences entries).get? name =
      match entries.filter (·.key == name) with
      | [] => none
      | e :: es => some ⟨(e :: es).map (·.column), e.refTable, (e :: es).map (·.refColumn)⟩ := by
  have hfold := NameMap.get?_foldl_alter (·.key) (fun e => (⟨[], e.refTable, []⟩ : Reference))
    (fun e r =>
      { r with columns := r.columns ++ [e.column], refColumns := r.refColumns ++ [e.refColumn] })
    entries {} name
  rw [collectReferences]
  refine hfold.trans ?_
  cases entries.filter (·.key == name) with
  | nil => rfl
  | cons e es => exact congrArg some (foldl_addReference (e :: es) ⟨[], e.refTable, []⟩)

/-- The columns of a unique index are those of the entries of its name. -/
theorem columns_of_uniqueOnly {entries : List IndexEntry} {name : String} {columns : List String}
    (h : (uniqueOnly (collectIndexes entries)).get? name = some columns) :
    columns = (entries.filter (·.index == name)).map (·.column) := by
  rw [uniqueOnly, NameMap.get?_map, NameMap.get?_filter, get?_collectIndexes] at h
  obtain ⟨index, hindex, rfl⟩ := Option.map_eq_some_iff.1 h
  cases hentries : entries.filter (·.index == name) with
  | nil =>
    rw [hentries] at hindex
    cases hindex
  | cons e es =>
    rw [hentries] at hindex
    have hindex := (Option.filter_eq_some_iff.1 hindex).1
    cases hindex
    rfl

end Catalog

end SqlCompose
