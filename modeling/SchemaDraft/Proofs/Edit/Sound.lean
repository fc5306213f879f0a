import Mathlib.Data.List.Perm.Basic
import SchemaDraft.Model.Edit
import SchemaDraft.Proofs.Export.NamedRelations
import SchemaDraft.Proofs.Script.WellFormed

/-!
What each edit does to a sound drawing, one whose relations end at columns that exist and whose
columns are valid. An end of a relation is lost only with its table or its column
(`Holds.updateTable`, `Holds.deleteTable`), and the edits that take one of these away take along
just the relations that end there. Ids stay different as long as what comes in brings new ones.
-/

namespace SchemaDraft

/-! ### Sound drawings -/

/-- Do all relations end at columns that exist, and are all columns valid? -/
structure Schema.IsSound (s : Schema) : Prop where
  source_exists : ∀ r ∈ s.relations, s.Holds r.source
  target_exists : ∀ r ∈ s.relations, s.Holds r.target
  columns_valid : ∀ t ∈ s.tables, ∀ c ∈ t.columns, c.IsValid

/-- Do ids tell apart the tables, the columns of each table, and the relations? -/
structure Schema.IdsDistinct (s : Schema) : Prop where
  tables_differ : Export.IdsDiffer s.tables
  relations_nodup : (s.relations.map (·.id)).Nodup

instance (s : Schema) (e : Endpoint) : Decidable (s.Holds e) :=
  inferInstanceAs
    (Decidable (∃ t ∈ s.tables, t.id = e.tableId ∧ ∃ c ∈ t.columns, c.id = e.columnId))

instance (s : Schema) : Decidable s.IsSound :=
  decidable_of_iff ((∀ r ∈ s.relations, s.Holds r.source) ∧ (∀ r ∈ s.relations, s.Holds r.target) ∧
      ∀ t ∈ s.tables, ∀ c ∈ t.columns, c.IsValid)
    ⟨fun h => ⟨h.1, h.2.1, h.2.2⟩, fun h => ⟨h.source_exists, h.target_exists, h.columns_valid⟩⟩

instance (s : Schema) : Decidable s.IdsDistinct :=
  decidable_of_iff ((s.tables.map (·.id)).Nodup ∧ (∀ t ∈ s.tables, (t.columns.map (·.id)).Nodup) ∧
      (s.relations.map (·.id)).Nodup)
    ⟨fun h => ⟨⟨h.1, h.2.1⟩, h.2.2⟩,
      fun h => ⟨h.tables_differ.tables_nodup, h.tables_differ.columns_nodup, h.relations_nodup⟩⟩

namespace Schema

variable {s imported : Schema} {t : Table} {e : Endpoint} {id : String}

/-! ### Ends -/

/-- An end exists wherever its table does. -/
theorem Holds.of_subset {s' : Schema} (h : s.Holds e) (htables : s.tables ⊆ s'.tables) :
    s'.Holds e := by
  obtain ⟨t, ht, hid, hcolumn⟩ := h
  exact ⟨t, htables ht, hid, hcolumn⟩

theorem holds_of_column? (ht : s.table? e.tableId = some t) {c : Column}
    (hc : t.column? e.columnId = some c) : s.Holds e := by
  have htid : t.id = e.tableId := by simpa using List.find?_some ht
  have hcid : c.id = e.columnId := by simpa using List.find?_some hc
  exact ⟨t, List.mem_of_find?_eq_some ht, htid, c, List.mem_of_find?_eq_some hc, hcid⟩

/-- An end stays when its table is replaced by one that has its column, however many tables have the
id. -/
theorem Holds.updateTable (h : s.Holds e) (hstays : staysWith t e = true) :
    (s.updateTable t).Holds e := by
  obtain ⟨u, hu, huid, hcolumn⟩ := h
  have hmem : (if u.id = t.id then t else u) ∈ (s.updateTable t).tables :=
    List.mem_map.mpr ⟨u, hu, rfl⟩
  by_cases hsame : u.id = t.id
  · -- the end is in the table that is replaced: it stays only if the new columns have it
    rw [if_pos hsame] at hmem
    have htid : t.id = e.tableId := hsame ▸ huid
    have hany : (t.columns.any fun c => c.id == e.columnId) = true := by
      simpa [staysWith, htid] using hstays
    obtain ⟨c, hc, hcid⟩ := List.any_eq_true.mp hany
    exact ⟨t, hmem, htid, c, hc, by simpa using hcid⟩
  · rw [if_neg hsame] at hmem
    exact ⟨u, hmem, huid, hcolumn⟩

theorem Holds.deleteTable (h : s.Holds e) (hne : e.tableId ≠ id) : (s.deleteTable id).Holds e := by
  obtain ⟨u, hu, huid, hcolumn⟩ := h
  exact ⟨u, List.mem_filter.mpr ⟨hu, by simpa [huid] using hne⟩, huid, hcolumn⟩

theorem endsProblem?_eq_none {source target : Endpoint} (h : s.endsProblem? source target = none) :
    s.Holds source ∧ s.Holds target := by
  unfold endsProblem? at h
  split at h
  · rename_i fromTable toTable hfromTable htoTable
    split at h
    · rename_i fromColumn toColumn hfromColumn htoColumn
      exact ⟨holds_of_column? hfromTable hfromColumn, holds_of_column? htoTable htoColumn⟩
    · exact absurd h (by simp)
  · exact absurd h (by simp)

/-! ### Tables of edited drawings -/

theorem mem_updateTable {u : Table} (h : u ∈ (s.updateTable t).tables) : u = t ∨ u ∈ s.tables := by
  obtain ⟨old, hold, rfl⟩ := List.mem_map.mp h
  split
  · exact .inl rfl
  · exact .inr hold

theorem ids_updateTable (s : Schema) (t : Table) :
    (s.updateTable t).tables.map (·.id) = s.tables.map (·.id) := by
  rw [updateTable, List.map_map]
  refine List.map_congr_left fun u _ => ?_
  show (if u.id = t.id then t else u).id = u.id
  split
  · rename_i hsame; exact hsame.symm
  · rfl

/-- Moving an item to another index of a list loses nothing. -/
theorem moveItem_perm {α : Type} {items : List α} {i j : Nat} (hi : i < items.length)
    (hj : j < items.length) : (moveItem items i j).Perm items := by
  have herase : (items.eraseIdx i).length = items.length - 1 := List.length_eraseIdx_of_lt hi
  rw [moveItem, List.getElem?_eq_getElem hi]
  calc ((items.eraseIdx i).insertIdx j items[i]).Perm (items[i] :: items.eraseIdx i) :=
        List.perm_insertIdx _ _ (by omega)
    _ |>.Perm items := List.getElem_cons_eraseIdx_perm hi

/-- What a reordering does: nothing, or a table is replaced by itself with its columns in another
order. -/
theorem reorderColumns_cases (s : Schema) (tableId : String) (start finish : Int) :
    s.reorderColumns tableId start finish = s ∨
      ∃ t ∈ s.tables, ∃ columns, columns.Perm t.columns ∧
        s.reorderColumns tableId start finish = s.updateTable { t with columns } := by
  unfold reorderColumns
  split
  · exact .inl rfl
  · rename_i t ht
    split
    · rename_i hindex
      simp only [isIndex, Bool.and_eq_true, decide_eq_true_eq] at hindex
      exact .inr ⟨t, List.mem_of_find?_eq_some ht, _, moveItem_perm (by omega) (by omega), rfl⟩
    · exact .inl rfl

/-- Moved tables keep their ids and columns. -/
theorem mem_shift {tables : List Table} {dx : Number} {u : Table} (h : u ∈ Canvas.shift tables dx) :
    ∃ t ∈ tables, u.id = t.id ∧ u.columns = t.columns := by
  obtain ⟨t, ht, rfl⟩ := List.mem_map.mp h
  exact ⟨t, ht, rfl, rfl⟩

theorem Holds.merge (h : imported.Holds e) : (s.importFrom imported .merge).Holds e := by
  obtain ⟨t, ht, htid, hcolumn⟩ := h
  exact ⟨_, List.mem_append_right _ (List.mem_map.mpr ⟨t, ht, rfl⟩), htid, hcolumn⟩

/-! ### Soundness, edit by edit -/

theorem IsSound.addTable (h : s.IsSound) (ht : ∀ c ∈ t.columns, c.IsValid) :
    (s.addTable t).IsSound where
  source_exists := fun r hr => (h.source_exists r hr).of_subset (List.subset_append_left _ _)
  target_exists := fun r hr => (h.target_exists r hr).of_subset (List.subset_append_left _ _)
  columns_valid := by
    intro u hu
    rcases List.mem_append.mp hu with hu | hu
    · exact h.columns_valid u hu
    · obtain rfl := List.mem_singleton.mp hu
      exact ht

theorem IsSound.updateTable (h : s.IsSound) (ht : ∀ c ∈ t.columns, c.IsValid) :
    (s.updateTable t).IsSound where
  source_exists := by
    intro r hr
    obtain ⟨hmem, hstays⟩ := List.mem_filter.mp hr
    exact (h.source_exists r hmem).updateTable (Bool.and_eq_true_iff.mp hstays).1
  target_exists := by
    intro r hr
    obtain ⟨hmem, hstays⟩ := List.mem_filter.mp hr
    exact (h.target_exists r hmem).updateTable (Bool.and_eq_true_iff.mp hstays).2
  columns_valid := by
    intro u hu
    rcases mem_updateTable hu with rfl | hu
    · exact ht
    · exact h.columns_valid u hu

theorem IsSound.deleteTable (h : s.IsSound) (id : String) : (s.deleteTable id).IsSound where
  source_exists := by
    intro r hr
    obtain ⟨hmem, hother⟩ := List.mem_filter.mp hr
    simp only [Bool.and_eq_true, bne_iff_ne] at hother
    exact (h.source_exists r hmem).deleteTable hother.1
  target_exists := by
    intro r hr
    obtain ⟨hmem, hother⟩ := List.mem_filter.mp hr
    simp only [Bool.and_eq_true, bne_iff_ne] at hother
    exact (h.target_exists r hmem).deleteTable hother.2
  columns_valid := fun u hu => h.columns_valid u (List.mem_of_mem_filter hu)

theorem IsSound.reorderColumns (h : s.IsSound) (tableId : String) (start finish : Int) :
    (s.reorderColumns tableId start finish).IsSound := by
  rcases reorderColumns_cases s tableId start finish with heq | ⟨t, ht, columns, hperm, heq⟩
  · rwa [heq]
  · rw [heq]
    exact h.updateTable fun c hc => h.columns_valid t ht c (hperm.mem_iff.mp hc)

theorem IsSound.addRelation (h : s.IsSound) (id : String) (source target : Endpoint)
    (type : String) : (s.addRelation id source target type).1.IsSound := by
  unfold Schema.addRelation
  split
  · exact h
  split
  · exact h
  · -- no problem with the ends: both columns are there
    rename_i hends
    obtain ⟨hsource, htarget⟩ := endsProblem?_eq_none hends
    refine ⟨fun r hr => ?_, fun r hr => ?_, h.columns_valid⟩
    · rcases List.mem_append.mp hr with hr | hr
      · exact h.source_exists r hr
      · obtain rfl := List.mem_singleton.mp hr
        exact hsource
    · rcases List.mem_append.mp hr with hr | hr
      · exact h.target_exists r hr
      · obtain rfl := List.mem_singleton.mp hr
        exact htarget

theorem IsSound.deleteRelation (h : s.IsSound) (id : String) : (s.deleteRelation id).IsSound where
  source_exists := fun r hr => h.source_exists r (List.mem_of_mem_filter hr)
  target_exists := fun r hr => h.target_exists r (List.mem_of_mem_filter hr)
  columns_valid := h.columns_valid

/-- A change of relations that makes no new ends keeps a drawing sound. -/
theorem IsSound.mapRelation (h : s.IsSound) (id : String) {change : Relation → Relation}
    (hchange : ∀ r, (change r).source ∈ [r.source, r.target] ∧
      (change r).target ∈ [r.source, r.target]) :
    (s.mapRelation id change).IsSound := by
  -- both ends of a relation exist, whichever of them a change takes
  have hends : ∀ r ∈ s.relations, ∀ e ∈ [r.source, r.target], s.Holds e := by
    intro r hr e he
    rcases List.mem_cons.mp he with rfl | he
    · exact h.source_exists r hr
    · obtain rfl := List.mem_singleton.mp he
      exact h.target_exists r hr
  refine ⟨fun r hr => ?_, fun r hr => ?_, h.columns_valid⟩
  · obtain ⟨old, hold, rfl⟩ := List.mem_map.mp hr
    split
    · exact hends old hold _ (hchange old).1
    · exact h.source_exists old hold
  · obtain ⟨old, hold, rfl⟩ := List.mem_map.mp hr
    split
    · exact hends old hold _ (hchange old).2
    · exact h.target_exists old hold

theorem IsSound.importFrom (h : s.IsSound) (himported : imported.IsSound) (mode : ImportMode) :
    (s.importFrom imported mode).IsSound := by
  cases mode with
  | replace => exact himported
  | merge =>
    -- relations of either side find their ends among the tables of that side
    have hleft : s.tables ⊆ (s.importFrom imported .merge).tables := List.subset_append_left _ _
    refine ⟨fun r hr => ?_, fun r hr => ?_, fun u hu => ?_⟩
    · rcases List.mem_append.mp hr with hr | hr
      · exact (h.source_exists r hr).of_subset hleft
      · exact (himported.source_exists r hr).merge
    · rcases List.mem_append.mp hr with hr | hr
      · exact (h.target_exists r hr).of_subset hleft
      · exact (himported.target_exists r hr).merge
    · rcases List.mem_append.mp hu with hu | hu
      · exact h.columns_valid u hu
      · obtain ⟨t, ht, _, hcolumns⟩ := mem_shift hu
        rw [hcolumns]
        exact himported.columns_valid t ht

/-! ### Different ids, edit by edit -/

theorem nodup_map_concat {α : Type} {f : α → String} {as : List α} {a : α} (h : (as.map f).Nodup)
    (ha : f a ∉ as.map f) : ((as ++ [a]).map f).Nodup := by
  rw [List.map_append, List.nodup_append]
  refine ⟨h, List.nodup_singleton _, fun x hx y hy heq => ?_⟩
  obtain rfl : y = f a := by simpa using hy
  exact ha (heq ▸ hx)

theorem IdsDistinct.addTable (h : s.IdsDistinct) (hid : t.id ∉ s.tables.map (·.id))
    (ht : (t.columns.map (·.id)).Nodup) : (s.addTable t).IdsDistinct where
  tables_differ := by
    refine ⟨nodup_map_concat h.tables_differ.tables_nodup hid, fun u hu => ?_⟩
    rcases List.mem_append.mp hu with hu | hu
    · exact h.tables_differ.columns_nodup u hu
    · obtain rfl := List.mem_singleton.mp hu
      exact ht
  relations_nodup := h.relations_nodup

/-- Fewer relations have fewer ids. -/
theorem IdsDistinct.nodup_filter (h : s.IdsDistinct) (p : Relation → Bool) :
    ((s.relations.filter p).map (·.id)).Nodup :=
  h.relations_nodup.sublist (List.filter_sublist.map _)

theorem IdsDistinct.updateTable (h : s.IdsDistinct) (ht : (t.columns.map (·.id)).Nodup) :
    (s.updateTable t).IdsDistinct where
  tables_differ := by
    refine ⟨(ids_updateTable s t) ▸ h.tables_differ.tables_nodup, fun u hu => ?_⟩
    rcases mem_updateTable hu with rfl | hu
    · exact ht
    · exact h.tables_differ.columns_nodup u hu
  relations_nodup := h.nodup_filter _

theorem IdsDistinct.deleteTable (h : s.IdsDistinct) (id : String) :
    (s.deleteTable id).IdsDistinct where
  tables_differ :=
    ⟨h.tables_differ.tables_nodup.sublist (List.filter_sublist.map _),
      fun u hu => h.tables_differ.columns_nodup u (List.mem_of_mem_filter hu)⟩
  relations_nodup := h.nodup_filter _

theorem IdsDistinct.reorderColumns (h : s.IdsDistinct) (tableId : String) (start finish : Int) :
    (s.reorderColumns tableId start finish).IdsDistinct := by
  rcases reorderColumns_cases s tableId start finish with heq | ⟨t, ht, columns, hperm, heq⟩
  · rwa [heq]
  · rw [heq]
    exact h.updateTable ((hperm.map (·.id)).nodup_iff.mpr (h.tables_differ.columns_nodup t ht))

theorem IdsDistinct.addRelation (h : s.IdsDistinct) (hid : id ∉ s.relations.map (·.id))
    (source target : Endpoint) (type : String) :
    (s.addRelation id source target type).1.IdsDistinct := by
  unfold Schema.addRelation
  split
  · exact h
  split
  · exact h
  · exact ⟨h.tables_differ,
      nodup_map_concat (a := ⟨id, source, target, type⟩) h.relations_nodup hid⟩

theorem IdsDistinct.deleteRelation (h : s.IdsDistinct) (id : String) :
    (s.deleteRelation id).IdsDistinct :=
  ⟨h.tables_differ, h.nodup_filter _⟩

theorem IdsDistinct.mapRelation (h : s.IdsDistinct) (id : String) {change : Relation → Relation}
    (hchange : ∀ r, (change r).id = r.id) : (s.mapRelation id change).IdsDistinct := by
  have hids : (s.mapRelation id change).relations.map (·.id) = s.relations.map (·.id) := by
    rw [Schema.mapRelation, List.map_map]
    refine List.map_congr_left fun r _ => ?_
    show (if r.id = id then change r else r).id = r.id
    split
    · exact hchange r
    · rfl
  exact ⟨h.tables_differ, hids ▸ h.relations_nodup⟩

theorem ids_shift (tables : List Table) (dx : Number) :
    (Canvas.shift tables dx).map (·.id) = tables.map (·.id) := by
  rw [Canvas.shift, List.map_map]
  rfl

theorem IdsDistinct.merge (h : s.IdsDistinct) (himported : imported.IdsDistinct)
    (htables : (s.tables.map (·.id)).Disjoint (imported.tables.map (·.id)))
    (hrelations : (s.relations.map (·.id)).Disjoint (imported.relations.map (·.id))) :
    (s.importFrom imported .merge).IdsDistinct where
  tables_differ := by
    refine ⟨?_, fun u hu => ?_⟩
    · rw [Schema.importFrom, List.map_append, ids_shift]
      exact h.tables_differ.tables_nodup.append himported.tables_differ.tables_nodup htables
    · rcases List.mem_append.mp hu with hu | hu
      · exact h.tables_differ.columns_nodup u hu
      · obtain ⟨t, ht, _, hcolumns⟩ := mem_shift hu
        rw [hcolumns]
        exact himported.tables_differ.columns_nodup t ht
  relations_nodup := by
    rw [Schema.importFrom, List.map_append]
    exact h.relations_nodup.append himported.relations_nodup hrelations

end Schema

end SchemaDraft
