import Mathlib.Data.List.Pairwise
import SchemaDraft.Proofs.Model.Resolve
import SchemaDraft.Proofs.Script.ReadColumns

/-!
Every drawing of a script is well formed, however malformed the script (`wellFormed_draw`): its ids
are all different, its relations connect columns that exist, no two of them the same ones, their
types agree with the flags of the columns as key clauses leave them, and its tables stand on the
grid. Only the supply has to be honest: no label may come twice.
-/

namespace SchemaDraft

/-! ### Well-formed drawings -/

/-- Is there a column at this end? -/
def Schema.Holds (s : Schema) (e : Endpoint) : Prop :=
  ∃ t ∈ s.tables, t.id = e.tableId ∧ ∃ c ∈ t.columns, c.id = e.columnId

/-- How many rows may refer to one row from a column: one if it is unique. -/
def Column.cardinality (c : Column) : Cardinality := if c.isUnique then .oneToOne else .oneToMany

/-- Is a drawing as the import promises it? -/
structure Schema.WellFormed (s : Schema) : Prop where
  ids_nodup : (s.tables.flatMap Table.ids ++ s.relations.map (·.id)).Nodup
  source_exists : ∀ r ∈ s.relations, s.Holds r.source
  target_exists : ∀ r ∈ s.relations, s.Holds r.target
  ends_differ : s.relations.Pairwise fun a b => ¬(a.source = b.source ∧ a.target = b.target)
  type_eq : ∀ r ∈ s.relations, ∀ t ∈ s.tables, ∀ c ∈ t.columns,
    t.id = r.source.tableId → c.id = r.source.columnId → r.type = c.cardinality.name
  tables_lower : ∀ t ∈ s.tables, IsLowerName t.name
  columns_lower : ∀ t ∈ s.tables, ∀ c ∈ t.columns, IsLowerName c.name
  columns_valid : ∀ t ∈ s.tables, ∀ c ∈ t.columns, c.IsValid
  on_grid : ∀ (k : Nat) (t : Table), s.tables[k]? = some t → t.position = Canvas.gridPosition k

/-! ### Tables -/

theorem symm_disjoint_ids : Std.Symm (Function.onFun List.Disjoint Table.ids) :=
  ⟨fun _ _ hdisjoint _ hsecond hfirst => hdisjoint hfirst hsecond⟩

theorem eq_of_table_id {tables : List Table} (h : (tables.flatMap Table.ids).Nodup) {t u : Table}
    (ht : t ∈ tables) (hu : u ∈ tables) (hid : t.id = u.id) : t = u := by
  by_contra hne
  have hsymm := symm_disjoint_ids
  have hdisjoint : List.Disjoint t.ids u.ids := (List.nodup_flatMap.mp h).2.forall ht hu hne
  have hshared : t.id ∈ u.ids := by rw [hid]; exact List.mem_cons_self
  exact hdisjoint List.mem_cons_self hshared

theorem eq_of_column_id {tables : List Table} (h : (tables.flatMap Table.ids).Nodup) {t : Table}
    (ht : t ∈ tables) {c d : Column} (hc : c ∈ t.columns) (hd : d ∈ t.columns)
    (hid : c.id = d.id) : c = d := by
  have htable : (t.id :: t.columns.map (·.id)).Nodup := (List.nodup_flatMap.mp h).1 t ht
  exact List.inj_on_of_nodup_map (List.nodup_cons.mp htable).2 hc hd hid

namespace Canvas

/-- What does not depend on the place is seen of placed tables as of the tables. -/
theorem map_placeFrom {α : Type} (view : Table → α)
    (h : ∀ t p, view { t with position := p } = view t) (index : Nat) (ts : List Table) :
    (placeFrom index ts).map view = ts.map view := by
  induction ts generalizing index with
  | nil => rfl
  | cons t ts ih => rw [placeFrom, List.map_cons, List.map_cons, h, ih]

theorem position_of_placeFrom {index k : Nat} {ts : List Table} {t : Table}
    (h : (placeFrom index ts)[k]? = some t) : t.position = gridPosition (index + k : Nat) := by
  induction ts generalizing index k with
  | nil => exact absurd h (by simp [placeFrom])
  | cons first ts ih =>
    cases k with
    | zero =>
      obtain rfl : _ = t := by simpa [placeFrom] using h
      rfl
    | succ k =>
      rw [placeFrom, List.getElem?_cons_succ] at h
      rw [ih h, Nat.add_right_comm, Nat.add_assoc]

end Canvas

namespace Script

/-- The tables of a script are those that its statements describe. -/
theorem spec_mintTables (tables : List TableSpec) (ids : IdSupply) :
    (mintTables tables ids).1.map Table.spec = tables := by
  have hminted := map_mintAll Table.spec id (spec_mintAt unplaced) tables ids
  rw [List.map_id] at hminted
  have hplaced := Canvas.map_placeFrom Table.spec (fun _ _ => rfl) 0
    (mintAll (TableSpec.mintAt unplaced) tables ids).1
  exact hplaced.trans hminted

theorem takesInOrder_tables :
    TakesInOrder mintTables fun tables => tables.flatMap Table.ids := by
  intro tables s
  obtain ⟨n, hids, hsupply⟩ := (takesInOrder_table unplaced).mintAll tables s
  refine ⟨n, ?_, hsupply⟩
  have hplaced := Canvas.map_placeFrom Table.ids (fun _ _ => rfl) 0
    (mintAll (TableSpec.mintAt unplaced) tables s).1
  simp only [List.flatMap_def] at hids ⊢
  exact (congrArg List.flatten hplaced).trans hids

/-! ### Drawings -/

variable (contents : Contents) {ids : IdSupply}

theorem tables_draw (ids : IdSupply) :
    (contents.draw ids).schema.tables = (mintTables contents.tables ids).1 := rfl

theorem relations_draw (ids : IdSupply) :
    (contents.draw ids).schema.relations =
      (buildRelations (mintTables contents.tables ids).1 contents.keys
        (mintTables contents.tables ids).2).1 := rfl

/-- The ids of the tables come first, and those of the relations after them. -/
theorem nodup_ids_draw (hids : Function.Injective ids.label) :
    ((contents.draw ids).schema.tables.flatMap Table.ids
      ++ (contents.draw ids).schema.relations.map (·.id)).Nodup := by
  obtain ⟨m, htables, hafter⟩ := takesInOrder_tables contents.tables ids
  obtain ⟨n, hrelations, _⟩ := takesInOrder_relation.mintAll
    (resolvedLinks (mintTables contents.tables ids).1 contents.keys) (ids.skip m)
  simp only [← List.map_eq_flatMap] at hrelations
  -- the relations take their ids where the tables stopped, so all of them are one run of ids
  have hall : (contents.draw ids).schema.relations.map (·.id) = (ids.skip m).next n := by
    rw [relations_draw, hafter]; exact hrelations
  simp only at htables
  rw [tables_draw, hall, htables, IdSupply.next_append]
  exact IdSupply.nodup_next hids _

/-- A relation is the link that one of the foreign keys resolves to. -/
theorem exists_link_of_mem_draw {r : Relation} (h : r ∈ (contents.draw ids).schema.relations) :
    ∃ k ∈ contents.keys, ∃ l, k.resolve (contents.draw ids).schema.tables = .ok l ∧
      r.source = l.source ∧ r.target = l.target ∧ r.type = l.cardinality.name := by
  obtain ⟨k, hk, l, hresolve, _, hends⟩ := exists_key_of_mem_buildRelations h
  rw [Relation.ends, Prod.mk.injEq, Prod.mk.injEq] at hends
  exact ⟨k, hk, l, hresolve, hends⟩

theorem ends_differ_draw :
    (contents.draw ids).schema.relations.Pairwise
      fun a b => ¬(a.source = b.source ∧ a.target = b.target) := by
  have hpairs : ((contents.draw ids).schema.relations.map Relation.ends).Pairwise
      fun a b => ¬(a.1 = b.1 ∧ a.2.1 = b.2.1) := by
    rw [relations_draw, ends_buildRelations, List.pairwise_map]
    refine (pairwise_distinctLinks _).imp ?_
    intro a b hdiffer hsame
    exact hdiffer (Link.sameEnds_iff.mpr hsame)
  exact List.pairwise_map.mp hpairs

theorem holds_of_resolve {s : Schema} {k : ForeignKey} {l : Link}
    (h : k.resolve s.tables = .ok l) : s.Holds l.source ∧ s.Holds l.target := by
  obtain ⟨fromTable, toTable, fromColumn, toColumn, hfromTable, htoTable, hfromColumn, htoColumn,
    rfl⟩ := resolve_eq_ok_iff.mp h
  exact ⟨⟨fromTable, (mem_of_tableNamed? hfromTable).1, rfl, fromColumn,
      (mem_of_columnNamed? hfromColumn).1, rfl⟩,
    ⟨toTable, (mem_of_tableNamed? htoTable).1, rfl, toColumn,
      (mem_of_columnNamed? htoColumn).1, rfl⟩⟩

/-- The type of a relation is that of the column with the id of its source. -/
theorem type_eq_of_mem_draw (hids : Function.Injective ids.label) {r : Relation}
    (hr : r ∈ (contents.draw ids).schema.relations) {t : Table}
    (ht : t ∈ (contents.draw ids).schema.tables) {c : Column} (hc : c ∈ t.columns)
    (htid : t.id = r.source.tableId) (hcid : c.id = r.source.columnId) :
    r.type = c.cardinality.name := by
  have hnodup := (List.nodup_append.mp (nodup_ids_draw contents hids)).1
  obtain ⟨k, _, l, hresolve, hsource, _, htype⟩ := exists_link_of_mem_draw contents hr
  obtain ⟨fromTable, toTable, fromColumn, toColumn, hfromTable, _, hfromColumn, _, rfl⟩ :=
    resolve_eq_ok_iff.mp hresolve
  rw [hsource] at htid hcid
  -- ids tell tables and columns apart, so this is the column the link was made from
  obtain rfl := eq_of_table_id hnodup ht (mem_of_tableNamed? hfromTable).1 htid
  obtain rfl := eq_of_column_id hnodup ht hc (mem_of_columnNamed? hfromColumn).1 hcid
  exact htype

theorem isDraft_of_mem_draw {script : String} {t : Table}
    (h : t ∈ (draw script ids).schema.tables) : t.spec.IsDraft := by
  have hspec :
      t.spec ∈ (mintTables (Contents.ofScript script.toList).tables ids).1.map Table.spec :=
    List.mem_map.mpr ⟨t, h, rfl⟩
  rw [spec_mintTables] at hspec
  exact isDraft_of_mem_ofScript hspec

/-- Every drawing of a script is well formed if the supply gives no label twice. -/
theorem wellFormed_draw (script : String) (hids : Function.Injective ids.label) :
    (draw script ids).schema.WellFormed where
  ids_nodup := nodup_ids_draw _ hids
  source_exists := by
    intro r hr
    obtain ⟨k, _, l, hresolve, hsource, _⟩ := exists_link_of_mem_draw _ hr
    rw [hsource]; exact (holds_of_resolve hresolve).1
  target_exists := by
    intro r hr
    obtain ⟨k, _, l, hresolve, _, htarget, _⟩ := exists_link_of_mem_draw _ hr
    rw [htarget]; exact (holds_of_resolve hresolve).2
  ends_differ := ends_differ_draw _
  type_eq := fun _ hr _ ht _ hc => type_eq_of_mem_draw _ hids hr ht hc
  tables_lower := fun _ ht => (isDraft_of_mem_draw ht).name_lower
  columns_lower := fun _ ht c hc =>
    (isDraft_of_mem_draw ht).columns_lower c.toColumnSpec (List.mem_map.mpr ⟨c, hc, rfl⟩)
  columns_valid := fun _ ht c hc =>
    (isDraft_of_mem_draw ht).columns_valid c.toColumnSpec (List.mem_map.mpr ⟨c, hc, rfl⟩)
  on_grid := by
    intro k t hk
    have hplace : t.position = Canvas.gridPosition (0 + k : Nat) := Canvas.position_of_placeFrom hk
    rw [hplace, Nat.zero_add]

/-- A table of one name twice, a column of one name twice, and references to both. -/
theorem wellFormed_draw_repeated :
    (draw "create table t (a int, A text unique, b int references T (a)), c serial);
      CREATE TABLE T (a int, primary key (A), foreign key (a) references t (a)"
      IdSupply.tally).schema.WellFormed :=
  wellFormed_draw _ IdSupply.injective_tally

end Script

end SchemaDraft
