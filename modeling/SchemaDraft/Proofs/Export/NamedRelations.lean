import SchemaDraft.Export.Statements
import SchemaDraft.Proofs.Model.Resolve

/-!
Relations seen by names, which is all that a script carries of them. In a drawing whose relations
come back from the names at their ends (`IsSettled`), the foreign keys that are written make the
same named relations between any tables that are called the same (`namedRelations_reread`).
-/

namespace SchemaDraft.Export

/-! ### Ids -/

/-- Do ids tell the tables apart, and in each table the columns? -/
structure IdsDiffer (tables : List Table) : Prop where
  tables_nodup : (tables.map (·.id)).Nodup
  columns_nodup : ∀ t ∈ tables, (t.columns.map (·.id)).Nodup

theorem idsDiffer_of_nodup {tables : List Table} (h : (tables.flatMap Table.ids).Nodup) :
    IdsDiffer tables := by
  have hcolumns : ∀ t ∈ tables, t.ids.Nodup := (List.nodup_flatMap.mp h).1
  refine ⟨?_, fun t ht => (List.nodup_cons.mp (hcolumns t ht)).2⟩
  refine List.pairwise_map.mpr ((List.nodup_flatMap.mp h).2.imp ?_)
  intro t u hdisjoint hid
  have hshared : t.id ∈ u.ids := by rw [hid]; exact List.mem_cons_self
  exact hdisjoint List.mem_cons_self hshared

variable {tables : List Table}

/-- What an id finds is the one item that has it. -/
theorem find?_eq_some_of_nodup {α : Type} {f : α → String} {as : List α} (h : (as.map f).Nodup)
    {a : α} (ha : a ∈ as) : as.find? (fun b => f b = f a) = some a := by
  cases hfind : as.find? (fun b => f b = f a) with
  | none => exact absurd (List.find?_eq_none.mp hfind a ha) (by simp)
  | some b =>
    have hid : f b = f a := by simpa using List.find?_some hfind
    exact congrArg some (List.inj_on_of_nodup_map h (List.mem_of_find?_eq_some hfind) ha hid)

theorem lastTable?_of_nodup (h : (tables.map (·.id)).Nodup) {t : Table} (ht : t ∈ tables) :
    lastTable? tables t.id = some t := by
  have hreverse : (tables.reverse.map (·.id)).Nodup := by rwa [List.map_reverse, List.nodup_reverse]
  exact find?_eq_some_of_nodup hreverse (List.mem_reverse.mpr ht)

theorem IdsDiffer.lastTable? (h : IdsDiffer tables) {t : Table} (ht : t ∈ tables) :
    lastTable? tables t.id = some t := lastTable?_of_nodup h.tables_nodup ht

theorem IdsDiffer.column? (h : IdsDiffer tables) {t : Table} (ht : t ∈ tables) {c : Column}
    (hc : c ∈ t.columns) : t.column? c.id = some c :=
  find?_eq_some_of_nodup (h.columns_nodup t ht) hc

/-! ### Names at the ends -/

/-- The foreign key with the names of two columns of two tables. -/
def keyBetween (fromTable : Table) (fromColumn : Column) (toTable : Table) (toColumn : Column) :
    ForeignKey :=
  ⟨fromTable.name, fromColumn.name, toTable.name, toColumn.name⟩

/-- The foreign key with the names at two ends, if there are such ends. -/
def endKey? (tables : List Table) (source target : Endpoint) : Option ForeignKey :=
  (relationKey tables ⟨"", source, target, ""⟩).toOption

/-- The key of a relation has the names of the columns that its ids find. -/
theorem relationKey_eq_ok_iff {r : Relation} {k : ForeignKey} :
    relationKey tables r = .ok k ↔ ∃ fromTable toTable fromColumn toColumn,
      lastTable? tables r.source.tableId = some fromTable ∧
      lastTable? tables r.target.tableId = some toTable ∧
      fromTable.column? r.source.columnId = some fromColumn ∧
      toTable.column? r.target.columnId = some toColumn ∧
      k = keyBetween fromTable fromColumn toTable toColumn := by
  constructor
  · intro h
    unfold relationKey at h
    split at h
    · rename_i fromTable toTable hfromTable htoTable
      split at h
      · rename_i fromColumn toColumn hfromColumn htoColumn
        exact ⟨fromTable, toTable, fromColumn, toColumn, hfromTable, htoTable, hfromColumn,
          htoColumn, (Except.ok.inj h).symm⟩
      · exact absurd h (by simp)
    · exact absurd h (by simp)
  · rintro ⟨fromTable, toTable, fromColumn, toColumn, hfromTable, htoTable, hfromColumn, htoColumn,
      rfl⟩
    simp only [relationKey, hfromTable, htoTable, hfromColumn, htoColumn, keyBetween]

theorem endKey?_eq_some_iff {source target : Endpoint} {k : ForeignKey} :
    endKey? tables source target = some k ↔ ∃ fromTable toTable fromColumn toColumn,
      lastTable? tables source.tableId = some fromTable ∧
      lastTable? tables target.tableId = some toTable ∧
      fromTable.column? source.columnId = some fromColumn ∧
      toTable.column? target.columnId = some toColumn ∧
      k = keyBetween fromTable fromColumn toTable toColumn :=
  toOption_eq_some_iff.trans relationKey_eq_ok_iff

theorem toOption_relationKey (tables : List Table) (r : Relation) :
    (relationKey tables r).toOption = endKey? tables r.source r.target := by
  refine Option.ext fun k => ?_
  rw [toOption_eq_some_iff, relationKey_eq_ok_iff, endKey?_eq_some_iff]

/-- The names at the ends of a link are those of the columns that it connects. -/
theorem IdsDiffer.endKey?_between (h : IdsDiffer tables) {fromTable toTable : Table}
    (hfromTable : fromTable ∈ tables) (htoTable : toTable ∈ tables) {fromColumn toColumn : Column}
    (hfromColumn : fromColumn ∈ fromTable.columns) (htoColumn : toColumn ∈ toTable.columns) :
    endKey? tables ⟨fromTable.id, fromColumn.id⟩ ⟨toTable.id, toColumn.id⟩ =
      some (keyBetween fromTable fromColumn toTable toColumn) :=
  endKey?_eq_some_iff.mpr ⟨fromTable, toTable, fromColumn, toColumn, h.lastTable? hfromTable,
    h.lastTable? htoTable, h.column? hfromTable hfromColumn, h.column? htoTable htoColumn, rfl⟩

/-! ### Drawings -/

end SchemaDraft.Export

namespace SchemaDraft

/-- The tables of a drawing without ids and places. -/
def Schema.specs (s : Schema) : List TableSpec := s.tables.map Table.spec

namespace Export

/-- A relation by names: those at its ends, if there are such ends, and its type. -/
def named (tables : List Table) (r : Relation) : Option ForeignKey × String :=
  (endKey? tables r.source r.target, r.type)

/-- Does a relation come back from the names at its ends? -/
def IsSettled (tables : List Table) (r : Relation) : Prop :=
  ∃ k l, endKey? tables r.source r.target = some k ∧ k.resolve tables = .ok l ∧
    r.ends = (l.source, l.target, l.cardinality.name)

theorem relationKeys_eq (s : Schema) :
    relationKeys s = s.relations.filterMap fun r => endKey? s.tables r.source r.target :=
  List.filterMap_congr fun r _ => toOption_relationKey s.tables r

end Export

/-- The relations of a drawing by names. -/
def Schema.namedRelations (s : Schema) : List (Option ForeignKey × String) :=
  s.relations.map (Export.named s.tables)

namespace Export

theorem relationKeys_eq_filterMap (s : Schema) :
    relationKeys s = s.namedRelations.filterMap Prod.fst := by
  rw [relationKeys_eq, Schema.namedRelations, List.filterMap_map]
  rfl

/-- Drawings of the same tables and with the same foreign keys have the same script. -/
theorem script_eq_of_keys {s s' : Schema} (hspecs : s.specs = s'.specs)
    (hkeys : relationKeys s = relationKeys s') : script s = script s' := by
  have htables : ∀ u : Schema, (u.tables.map fun t => tableStatement t.spec) =
      u.specs.map tableStatement := by
    intro u
    rw [Schema.specs, List.map_map]
    rfl
  rw [script, script, htables, htables, hspecs, keyBlock, keyBlock, hkeys]

/-- Drawings of the same tables and relations have the same script, whatever their ids. -/
theorem script_congr {s s' : Schema} (hspecs : s.specs = s'.specs)
    (hrelations : s.namedRelations = s'.namedRelations) : script s = script s' := by
  have hkeys : relationKeys s = relationKeys s' := by
    rw [relationKeys_eq_filterMap, relationKeys_eq_filterMap, hrelations]
  exact script_eq_of_keys hspecs hkeys

/-- Every name in a foreign key of a drawing is that of a table or of a column of one. -/
theorem exists_of_mem_relationKeys {s : Schema} {k : ForeignKey} (h : k ∈ relationKeys s) :
    ∃ fromTable ∈ s.tables, ∃ toTable ∈ s.tables, ∃ fromColumn ∈ fromTable.columns,
      ∃ toColumn ∈ toTable.columns, k = keyBetween fromTable fromColumn toTable toColumn := by
  rw [relationKeys_eq] at h
  obtain ⟨r, _, hkey⟩ := List.mem_filterMap.mp h
  obtain ⟨fromTable, toTable, fromColumn, toColumn, hfromTable, htoTable, hfromColumn, htoColumn,
    rfl⟩ := endKey?_eq_some_iff.mp hkey
  exact ⟨fromTable, List.mem_reverse.mp (List.mem_of_find?_eq_some hfromTable),
    toTable, List.mem_reverse.mp (List.mem_of_find?_eq_some htoTable),
    fromColumn, List.mem_of_find?_eq_some hfromColumn,
    toColumn, List.mem_of_find?_eq_some htoColumn, rfl⟩

/-- A relation that is the link of a key, whichever, is also the link of the names at its ends. -/
theorem isSettled_of_resolve (hids : IdsDiffer tables) {r : Relation} {k : ForeignKey} {l : Link}
    (h : k.resolve tables = .ok l) (hends : r.ends = (l.source, l.target, l.cardinality.name)) :
    IsSettled tables r := by
  obtain ⟨fromTable, toTable, fromColumn, toColumn, hfromTable, htoTable, hfromColumn, htoColumn,
    rfl⟩ := resolve_eq_ok_iff.mp h
  obtain ⟨hfromMem, hfromName⟩ := mem_of_tableNamed? hfromTable
  obtain ⟨htoMem, htoName⟩ := mem_of_tableNamed? htoTable
  obtain ⟨hfromColumnMem, hfromColumnName⟩ := mem_of_columnNamed? hfromColumn
  obtain ⟨htoColumnMem, htoColumnName⟩ := mem_of_columnNamed? htoColumn
  have hends' := hends
  rw [Relation.ends, Prod.mk.injEq, Prod.mk.injEq] at hends'
  obtain ⟨hsource, htarget, _⟩ := hends'
  refine ⟨keyBetween fromTable fromColumn toTable toColumn, _, ?_, resolve_eq_ok_iff.mpr ⟨fromTable,
    toTable, fromColumn, toColumn, ?_, ?_, ?_, ?_, rfl⟩, hends⟩
  · rw [hsource, htarget]
    exact hids.endKey?_between hfromMem htoMem hfromColumnMem htoColumnMem
  · exact (tableNamed?_congr hfromName).trans hfromTable
  · exact (tableNamed?_congr htoName).trans htoTable
  · exact (columnNamed?_congr hfromColumnName).trans hfromColumn
  · exact (columnNamed?_congr htoColumnName).trans htoColumn

/-! ### Other ids -/

section Reread

variable {tables' : List Table}

/-- What a name finds, seen without ids. -/
theorem spec_tableNamed? (tables : List Table) (name : String) :
    (tableNamed? tables name).map Table.spec =
    (tables.map Table.spec).reverse.find? fun t => lowerName t.name = lowerName name := by
  rw [tableNamed?, ← List.map_reverse, List.find?_map]
  rfl

theorem spec_columnNamed? {t t' : Table} (h : t.spec = t'.spec) (name : String) :
    (t.columnNamed? name).map Column.toColumnSpec =
      (t'.columnNamed? name).map Column.toColumnSpec := by
  have hview : ∀ u : Table, (u.columnNamed? name).map Column.toColumnSpec =
      u.spec.columns.find? fun c => lowerName c.name = lowerName name := by
    intro u
    rw [Table.columnNamed?, Table.spec, List.find?_map]
    rfl
  rw [hview, hview, h]

theorem exists_tableNamed? {name : String}
    (h : (tableNamed? tables name).map Table.spec = (tableNamed? tables' name).map Table.spec)
    {t : Table} (ht : tableNamed? tables name = some t) :
    ∃ t', tableNamed? tables' name = some t' ∧ t.spec = t'.spec := by
  rw [ht, Option.map_some] at h
  obtain ⟨t', ht', hspec⟩ := Option.map_eq_some_iff.mp h.symm
  exact ⟨t', ht', hspec.symm⟩

theorem exists_columnNamed? {t t' : Table} (h : t.spec = t'.spec) {name : String} {c : Column}
    (hc : t.columnNamed? name = some c) :
    ∃ c', t'.columnNamed? name = some c' ∧ c.toColumnSpec = c'.toColumnSpec := by
  have hview := spec_columnNamed? h name
  rw [hc, Option.map_some] at hview
  obtain ⟨c', hc', hspec⟩ := Option.map_eq_some_iff.mp hview.symm
  exact ⟨c', hc', hspec.symm⟩

/-- A key finds columns of the same names, with the same flags, among tables where names find the
same. -/
theorem exists_resolve (hids : IdsDiffer tables) (hids' : IdsDiffer tables')
    (hnamed : ∀ name,
      (tableNamed? tables name).map Table.spec = (tableNamed? tables' name).map Table.spec)
    {k : ForeignKey} {l : Link}
    (h : k.resolve tables = .ok l) : ∃ l', k.resolve tables' = .ok l' ∧
      endKey? tables' l'.source l'.target = endKey? tables l.source l.target ∧
      l'.cardinality = l.cardinality := by
  obtain ⟨fromTable, toTable, fromColumn, toColumn, hfromTable, htoTable, hfromColumn, htoColumn,
    rfl⟩ := resolve_eq_ok_iff.mp h
  obtain ⟨fromTable', hfromTable', hfromSpec⟩ := exists_tableNamed? (hnamed _) hfromTable
  obtain ⟨toTable', htoTable', htoSpec⟩ := exists_tableNamed? (hnamed _) htoTable
  obtain ⟨fromColumn', hfromColumn', hfrom⟩ := exists_columnNamed? hfromSpec hfromColumn
  obtain ⟨toColumn', htoColumn', hto⟩ := exists_columnNamed? htoSpec htoColumn
  refine ⟨.between fromTable' fromColumn' toTable' toColumn', resolve_eq_ok_iff.mpr ⟨fromTable',
    toTable', fromColumn', toColumn', hfromTable', htoTable', hfromColumn', htoColumn', rfl⟩, ?_,
    ?_⟩
  · -- ends found by the same names have the same names
    have hname : fromTable.name = fromTable'.name := congrArg TableSpec.name hfromSpec
    have hname' : toTable.name = toTable'.name := congrArg TableSpec.name htoSpec
    rw [Link.between, Link.between, hids.endKey?_between (mem_of_tableNamed? hfromTable).1
        (mem_of_tableNamed? htoTable).1 (mem_of_columnNamed? hfromColumn).1
        (mem_of_columnNamed? htoColumn).1,
      hids'.endKey?_between (mem_of_tableNamed? hfromTable').1 (mem_of_tableNamed? htoTable').1
        (mem_of_columnNamed? hfromColumn').1 (mem_of_columnNamed? htoColumn').1,
      keyBetween, keyBetween, hname, hname', congrArg ColumnSpec.name hfrom,
      congrArg ColumnSpec.name hto]
  · rw [Link.between, Link.between, congrArg ColumnSpec.isUnique hfrom]

/-- The names at the ends of a link, and its type. -/
def namedLink (tables : List Table) (l : Link) : Option ForeignKey × String :=
  (endKey? tables l.source l.target, l.cardinality.name)

theorem namedRelations_buildRelations (tables : List Table) (keys : List ForeignKey)
    (ids : IdSupply) : (⟨tables, (buildRelations tables keys ids).1⟩ : Schema).namedRelations =
      (resolvedLinks tables keys).map (namedLink tables) := by
  have hends := congrArg (List.map fun e : Endpoint × Endpoint × String =>
    (endKey? tables e.1 e.2.1, e.2.2)) (ends_buildRelations tables keys ids)
  rw [List.map_map, List.map_map] at hends
  exact hends

/-- Relations that come back from the names at their ends do so among other ids, one by one. -/
theorem namedLink_resolve (hids : IdsDiffer tables) (hids' : IdsDiffer tables')
    (hspecs : tables.map Table.spec = tables'.map Table.spec) {relations : List Relation}
    (h : ∀ r ∈ relations, IsSettled tables r) :
    ((relations.filterMap fun r => endKey? tables r.source r.target).filterMap fun k =>
      (k.resolve tables').toOption).map (namedLink tables') = relations.map (named tables) := by
  -- relation by relation: its names resolve among the other tables to a link of the same names
  induction relations with
  | nil => rfl
  | cons r relations ih =>
    obtain ⟨k, l, hkey, hresolve, hends⟩ := h r (by simp)
    rw [Relation.ends, Prod.mk.injEq, Prod.mk.injEq] at hends
    obtain ⟨hsource, htarget, htype⟩ := hends
    have hnamed : ∀ name,
        (tableNamed? tables name).map Table.spec = (tableNamed? tables' name).map Table.spec :=
      fun name => by rw [spec_tableNamed?, spec_tableNamed?, hspecs]
    obtain ⟨l', hresolve', hkey', hcardinality⟩ := exists_resolve hids hids' hnamed hresolve
    have hlink : namedLink tables' l' = named tables r := by
      rw [namedLink, named, hkey', hcardinality, hsource, htarget, htype]
    have hread : (k.resolve tables').toOption = some l' := toOption_eq_some_iff.mpr hresolve'
    have hrest := ih fun r hr => h r (List.mem_cons_of_mem _ hr)
    rw [List.filterMap_cons_some (f := fun r : Relation => endKey? tables r.source r.target) hkey,
      List.filterMap_cons_some (f := fun k : ForeignKey => (k.resolve tables').toOption) hread,
      List.map_cons, List.map_cons, hlink, hrest]

/-- Relations with different ends have different names at them. -/
theorem pairwise_named {relations : List Relation} (h : ∀ r ∈ relations, IsSettled tables r)
    (hdiffer : relations.Pairwise fun a b => ¬(a.source = b.source ∧ a.target = b.target)) :
    (relations.map (named tables)).Pairwise fun p q => p.1 ≠ q.1 := by
  refine List.pairwise_map.mpr (hdiffer.imp_of_mem ?_)
  intro a b ha hb hends hnames
  obtain ⟨k, l, hkey, hresolve, hlink⟩ := h a ha
  obtain ⟨k', l', hkey', hresolve', hlink'⟩ := h b hb
  obtain rfl : k = k' := Option.some.inj (hkey.symm.trans (hnames.trans hkey'))
  obtain rfl : l = l' := Except.ok.inj (hresolve.symm.trans hresolve')
  have hsame : a.ends = b.ends := hlink.trans hlink'.symm
  rw [Relation.ends, Relation.ends, Prod.mk.injEq, Prod.mk.injEq] at hsame
  exact hends ⟨hsame.1, hsame.2.1⟩

/-- Among tables that are called the same, the foreign keys of a drawing make the relations of the
drawing again. -/
theorem namedRelations_reread {s : Schema} (hids : IdsDiffer s.tables) (hids' : IdsDiffer tables')
    (hspecs : s.specs = tables'.map Table.spec) (h : ∀ r ∈ s.relations, IsSettled s.tables r)
    (hdiffer : s.relations.Pairwise fun a b => ¬(a.source = b.source ∧ a.target = b.target))
    (ids : IdSupply) :
    (⟨tables', (buildRelations tables' (relationKeys s) ids).1⟩ : Schema).namedRelations =
      s.namedRelations := by
  have hlinks := namedLink_resolve hids hids' hspecs h
  have hnames := pairwise_named h hdiffer
  rw [← hlinks, List.pairwise_map] at hnames
  rw [namedRelations_buildRelations, resolvedLinks, relationKeys_eq, distinctLinks_of_pairwise]
  · exact hlinks
  · -- relations with different ends have different names, so no link is left out as a double
    refine hnames.imp ?_
    intro a b hdifferent hsame
    obtain ⟨hsource, htarget⟩ := Link.sameEnds_iff.mp hsame
    exact hdifferent (by rw [namedLink, namedLink, hsource, htarget])

end Reread

end Export

end SchemaDraft
