import SchemaDraft.Proofs.Export.DrawnRelations
import SchemaDraft.Proofs.Export.ReadScript

/-!
To which table a foreign key belongs. It is declared by the statement that creates a table, but it
is kept by names and finds its ends by names once all tables are known, and of several tables with
one name the last is found. So the table that declares a key has its relation exactly if it is the
last one with its name and the last one with the name referred to has the column
(`exists_connects_iff`); a key of an earlier table of that name, also of one in another namespace,
goes to the last one or is lost.
-/

namespace SchemaDraft

/-! ### Names that come twice -/

/-- Is a table the last with its name? -/
def IsLastNamed (tables : List Table) (t : Table) : Prop :=
  ∃ before after, tables = before ++ t :: after ∧ ∀ u ∈ after, u.name ≠ t.name

theorem IsLastNamed.mem {tables : List Table} {t : Table} (h : IsLastNamed tables t) :
    t ∈ tables := by
  obtain ⟨before, after, rfl, _⟩ := h
  simp

/-- Among names in lower case, a name finds the last table with it. -/
theorem tableNamed?_eq_some_iff {tables : List Table} (hlower : ∀ t ∈ tables, IsLowerName t.name)
    {name : String} (hname : IsLowerName name) {t : Table} :
    tableNamed? tables name = some t ↔ IsLastNamed tables t ∧ t.name = name := by
  constructor
  · intro h
    obtain ⟨ht, before, after, hsplit, hbefore⟩ := List.find?_eq_some_iff_append.mp h
    -- the search runs over the reversed list, so what it skips stands after the table found
    have htables : tables = after.reverse ++ t :: before.reverse := by
      have hreverse := congrArg List.reverse hsplit
      simpa using hreverse
    have hmem : t ∈ tables := (mem_of_tableNamed? h).1
    have ht : t.name = name := by
      -- the search compares lower-cased names; these are lower already, so it compares the names
      have hcompared := (mem_of_tableNamed? h).2
      rwa [hlower t hmem, hname] at hcompared
    refine ⟨⟨after.reverse, before.reverse, htables, fun u hu hsame => ?_⟩, ht⟩
    have hdiffers := hbefore u (List.mem_reverse.mp hu)
    simp only [hsame, ht, decide_true, Bool.not_true, Bool.false_eq_true] at hdiffers
  · rintro ⟨⟨before, after, rfl, hafter⟩, rfl⟩
    refine List.find?_eq_some_iff_append.mpr
      ⟨by simp, after.reverse, before.reverse, by simp, fun u hu => ?_⟩
    have hu' : u ∈ after := List.mem_reverse.mp hu
    have hulower : IsLowerName u.name := hlower u (by simp [hu'])
    rw [hulower, hname]
    simpa using hafter u hu'

/-- Among names in lower case, a table that some name finds is the last with its own name. -/
theorem isLastNamed_of_tableNamed? {tables : List Table} (hlower : ∀ t ∈ tables, IsLowerName t.name)
    {name : String} {t : Table} (h : tableNamed? tables name = some t) : IsLastNamed tables t := by
  obtain ⟨hmem, hname⟩ := mem_of_tableNamed? h
  rw [tableNamed?_congr hname.symm] at h
  exact ((tableNamed?_eq_some_iff hlower (hlower t hmem)).mp h).1

/-- Among names in lower case, the name of a column finds a column with it. -/
theorem columnNamed?_of_mem {t : Table} (hlower : ∀ c ∈ t.columns, IsLowerName c.name)
    {name : String} (hname : IsLowerName name) (h : ∃ c ∈ t.columns, c.name = name) :
    ∃ c ∈ t.columns, c.name = name ∧ t.columnNamed? name = some c := by
  obtain ⟨c, hc, rfl⟩ := h
  obtain ⟨d, hd⟩ : ∃ d, t.columnNamed? c.name = some d :=
    Option.isSome_iff_exists.mp (List.find?_isSome.mpr ⟨c, hc, by simp⟩)
  obtain ⟨hmem, hcompared⟩ := mem_of_columnNamed? hd
  rw [hlower d hmem, hname] at hcompared
  exact ⟨d, hmem, hcompared, hd⟩

namespace Script

open Export

/-! ### Declared keys -/

/-- Are the names of a foreign key in lower case? -/
structure IsLowerKey (k : ForeignKey) : Prop where
  fromTable : IsLowerName k.fromTable
  fromColumn : IsLowerName k.fromColumn
  toTable : IsLowerName k.toTable
  toColumn : IsLowerName k.toColumn

theorem isLowerName_of_mem_columnNameStrings {list : List Char} {name : String}
    (h : name ∈ columnNameStrings list) : IsLowerName name := by
  obtain ⟨cs, hcs, rfl⟩ := List.mem_map.mp h
  obtain ⟨piece, _, rfl⟩ := List.mem_map.mp hcs
  exact isLowerName_ofList_lower _

/-- A foreign key along a reference starts at the given table, and its names are in lower case if
those of its start are. -/
theorem Reference.key_spec {r : Reference} {table : String} {columns : List String} {k : ForeignKey}
    (h : r.key table columns = .ok k) (htable : IsLowerName table)
    (hcolumns : ∀ name ∈ columns, IsLowerName name) : k.fromTable = table ∧ IsLowerKey k := by
  obtain ⟨hfrom, hto⟩ := mem_of_ofColumns h
  have hnames : k.fromTable = table ∧ k.toTable = String.ofList (normalTableName r.table) := by
    unfold Reference.key ForeignKey.ofColumns at h
    split at h
    · obtain rfl := Except.ok.inj h
      exact ⟨rfl, rfl⟩
    · exact absurd h (by simp)
  obtain ⟨hfromTable, htoTable⟩ := hnames
  exact ⟨hfromTable, hfromTable ▸ htable, hcolumns _ hfrom, htoTable ▸ isLowerName_ofList_lower _,
    isLowerName_of_mem_columnNameStrings hto⟩

/-- A key that a definition declares starts at the table of the definition. -/
theorem foreignKey?_read {table : String} (htable : IsLowerName table) {definition : List Char}
    {k : ForeignKey} (h : (Clause.read table definition).foreignKey? = some k) :
    k.fromTable = table ∧ IsLowerKey k := by
  unfold Clause.read at h
  split at h
  · exact absurd h (by simp [Clause.foreignKey?, Clause.key?])
  split at h
  · exact absurd h (by simp [Clause.foreignKey?, Clause.key?])
  split at h
  · exact Reference.key_spec (toOption_eq_some_iff.mp h) htable
      fun _ => isLowerName_of_mem_columnNameStrings
  split at h
  · exact absurd h (by simp [Clause.foreignKey?, Clause.key?])
  split at h
  · exact absurd h (by simp [Clause.foreignKey?, Clause.key?])
  · -- a reference on a column: the one child column is the column's own name
    rename_i spec hspec
    obtain ⟨outcome, houtcome, hk⟩ := Option.bind_eq_some_iff.mp h
    obtain ⟨found, _, rfl⟩ := Option.map_eq_some_iff.mp houtcome
    refine Reference.key_spec (toOption_eq_some_iff.mp hk) htable fun name hname => ?_
    obtain rfl : name = spec.name := by simpa using hname
    exact (readColumn_spec hspec).2

/-- The keys that a statement declares start at the table that it creates. -/
theorem fromTable_of_mem_keys {statement : List Char} {reading : TableReading}
    (h : (readTable statement).value = some reading) {k : ForeignKey} (hk : k ∈ reading.keys) :
    k.fromTable = reading.table.name ∧ IsLowerKey k := by
  unfold readTable at h
  split at h
  · exact absurd h (by simp)
  · split at h
    · exact absurd h (by simp)
    · obtain rfl := Option.some.inj h
      obtain ⟨clause, hclause, hkey⟩ := List.mem_filterMap.mp hk
      obtain ⟨definition, _, rfl⟩ := List.mem_map.mp hclause
      exact foreignKey?_read (isLowerName_ofList_lower _) hkey

/-! ### Declaring tables -/

/-- The tables that the statements of a script create, each with the keys that it declares. -/
def declaredTables (script : String) : List TableReading :=
  (statementsOf script.toList).filterMap fun st => (readTable st).value

/-- The tables of a drawing are the declared ones, one by one. -/
theorem specs_draw_eq_declared (script : String) (ids : IdSupply) :
    (draw script ids).schema.specs = (declaredTables script).map (·.table) := by
  rw [draw, specs_draw, Contents.ofScript, tables_ofStatements, declaredTables, List.map_filterMap]

/-- Whatever a table declares is a key of the script. -/
theorem keys_subset_of_mem_declared {script : String} {reading : TableReading}
    (h : reading ∈ declaredTables script) :
    reading.keys ⊆ (Contents.ofScript script.toList).keys := by
  obtain ⟨statement, hstatement, hread⟩ := List.mem_filterMap.mp h
  intro k hk
  refine List.mem_flatMap.mpr
    ⟨readStatement statement, List.mem_map.mpr ⟨statement, hstatement, rfl⟩, ?_⟩
  simpa only [readStatement, hread, Contribution.keys] using hk

variable {script : String} {ids : IdSupply} {t : Table} {reading : TableReading} {k : ForeignKey}

/-- A table of a drawing has the name and the columns of its declaration. -/
theorem spec_of_mem_zip
    (h : (t, reading) ∈ (draw script ids).schema.tables.zip (declaredTables script)) :
    t.spec = reading.table := by
  have hspecs : (t.spec, reading.table) ∈
      (draw script ids).schema.specs.zip ((declaredTables script).map (·.table)) := by
    rw [Schema.specs, List.zip_map]
    exact List.mem_map.mpr ⟨(t, reading), h, rfl⟩
  -- the drawn tables are the readings' tables in order, so a pair of the zip is twice the same
  -- table
  rw [specs_draw_eq_declared, List.zip, List.zipWith_self] at hspecs
  obtain ⟨_, _, hpair⟩ := List.mem_map.mp hspecs
  obtain ⟨hleft, hright⟩ := Prod.mk.inj hpair
  exact hleft.symm.trans hright

/-! ### Relations of declared keys -/

/-- Every table of a drawing has its names in lower case. -/
theorem isLowerName_of_mem_draw {u : Table} (h : u ∈ (draw script ids).schema.tables) :
    IsLowerName u.name ∧ ∀ c ∈ u.columns, IsLowerName c.name :=
  ⟨(isDraft_of_mem_draw h).name_lower,
    fun c hc => (isDraft_of_mem_draw h).columns_lower c.toColumnSpec
      (List.mem_map.mpr ⟨c, hc, rfl⟩)⟩

/-- The ends of a relation lie in tables that are the last with their names. -/
theorem exists_isLastNamed_of_mem_draw {r : Relation}
    (hr : r ∈ (draw script ids).schema.relations) :
    ∃ fromTable toTable, IsLastNamed (draw script ids).schema.tables fromTable ∧
      IsLastNamed (draw script ids).schema.tables toTable ∧
      r.source.tableId = fromTable.id ∧ r.target.tableId = toTable.id := by
  have hlower : ∀ v ∈ (draw script ids).schema.tables, IsLowerName v.name :=
    fun _ hv => (isLowerName_of_mem_draw hv).1
  rw [draw] at hr hlower ⊢
  obtain ⟨k, _, l, hresolve, hsource, htarget, _⟩ := exists_link_of_mem_draw _ hr
  obtain ⟨fromTable, toTable, _, _, hfromTable, htoTable, _, _, rfl⟩ :=
    resolve_eq_ok_iff.mp hresolve
  exact ⟨fromTable, toTable, isLastNamed_of_tableNamed? hlower hfromTable,
    isLastNamed_of_tableNamed? hlower htoTable, congrArg Endpoint.tableId hsource,
    congrArg Endpoint.tableId htarget⟩

/-- A key that finds its ends has a relation between them, its own or that of an earlier key. -/
theorem exists_relation_of_resolve {l : Link} (hk : k ∈ (Contents.ofScript script.toList).keys)
    (h : k.resolve (draw script ids).schema.tables = .ok l) :
    ∃ r ∈ (draw script ids).schema.relations, r.source = l.source ∧ r.target = l.target := by
  rw [draw] at h ⊢
  obtain ⟨m, hm, hsame⟩ := exists_mem_resolvedLinks hk h
  obtain ⟨hsource, htarget⟩ := Link.sameEnds_iff.mp hsame
  have hends : (m.source, m.target, m.cardinality.name) ∈
      ((Contents.ofScript script.toList).draw ids).schema.relations.map Relation.ends := by
    rw [relations_draw, ends_buildRelations]
    exact List.mem_map.mpr ⟨m, hm, rfl⟩
  obtain ⟨r, hr, hrends⟩ := List.mem_map.mp hends
  simp only [Relation.ends, Prod.mk.injEq] at hrends
  exact ⟨r, hr, hrends.1.trans hsource, hrends.2.1.trans htarget⟩

/-- Does a relation lead from a column of a table with the name that a key starts at to a column, of
a table, with the names that the key refers to? -/
def Connects (s : Schema) (t : Table) (k : ForeignKey) (r : Relation) : Prop :=
  (∃ c ∈ t.columns, c.name = k.fromColumn ∧ r.source = ⟨t.id, c.id⟩) ∧
    ∃ u ∈ s.tables, u.name = k.toTable ∧ ∃ d ∈ u.columns, d.name = k.toColumn ∧
      r.target = ⟨u.id, d.id⟩

/-- The relation of a declared key belongs to the table that declares it exactly if that table is
the last with its name, has the referring column, and the last table with the name referred to has
the column referred to. -/
theorem exists_connects_iff (hids : Function.Injective ids.label)
    (h : (t, reading) ∈ (draw script ids).schema.tables.zip (declaredTables script))
    (hk : k ∈ reading.keys) :
    (∃ r ∈ (draw script ids).schema.relations, Connects (draw script ids).schema t k r) ↔
      (IsLastNamed (draw script ids).schema.tables t ∧ ∃ c ∈ t.columns, c.name = k.fromColumn) ∧
        ∃ u, IsLastNamed (draw script ids).schema.tables u ∧ u.name = k.toTable ∧
          ∃ d ∈ u.columns, d.name = k.toColumn := by
  obtain ⟨ht, hreading⟩ := List.of_mem_zip h
  have hnodup : ((draw script ids).schema.tables.flatMap Table.ids).Nodup :=
    (List.nodup_append.mp (nodup_ids_draw (Contents.ofScript script.toList) hids)).1
  constructor
  · -- a drawn relation ends in the last tables of two names, and ids tell tables apart
    rintro ⟨r, hr, ⟨c, hc, hcname, hsource⟩, u, hu, huname, d, hd, hdname, htarget⟩
    obtain ⟨fromTable, toTable, hfromTable, htoTable, hfromId, htoId⟩ :=
      exists_isLastNamed_of_mem_draw hr
    rw [hsource] at hfromId
    rw [htarget] at htoId
    obtain rfl : t = fromTable := eq_of_table_id hnodup ht hfromTable.mem hfromId
    obtain rfl : u = toTable := eq_of_table_id hnodup hu htoTable.mem htoId
    exact ⟨⟨hfromTable, c, hc, hcname⟩, u, htoTable, huname, d, hd, hdname⟩
  · -- conversely both lookups find these tables and columns, so the key resolves and is drawn
    rintro ⟨⟨hlast, hcolumn⟩, u, hulast, huname, hucolumn⟩
    obtain ⟨statement, _, hread⟩ := List.mem_filterMap.mp hreading
    obtain ⟨hfrom, hlower⟩ := fromTable_of_mem_keys hread hk
    have htname : t.name = k.fromTable := by
      rw [hfrom, ← spec_of_mem_zip h]; rfl
    have hnames : ∀ v ∈ (draw script ids).schema.tables, IsLowerName v.name :=
      fun _ hv => (isLowerName_of_mem_draw hv).1
    have hfromTable := (tableNamed?_eq_some_iff hnames hlower.fromTable).mpr ⟨hlast, htname⟩
    have htoTable := (tableNamed?_eq_some_iff hnames hlower.toTable).mpr ⟨hulast, huname⟩
    have htcolumns := (isLowerName_of_mem_draw ht).2
    have hucolumns := (isLowerName_of_mem_draw hulast.mem).2
    obtain ⟨c, hcmem, hcname, hc⟩ := columnNamed?_of_mem htcolumns hlower.fromColumn hcolumn
    obtain ⟨d, hdmem, hdname, hd⟩ := columnNamed?_of_mem hucolumns hlower.toColumn hucolumn
    obtain ⟨r, hr, hsource, htarget⟩ := exists_relation_of_resolve
      (keys_subset_of_mem_declared hreading hk)
      (resolve_eq_ok_iff.mpr ⟨t, u, c, d, hfromTable, htoTable, hc, hd, rfl⟩)
    exact ⟨r, hr, ⟨c, hcmem, hcname, hsource⟩, u, hulast.mem, huname, d, hdmem, hdname, htarget⟩

/-- A table before another of its name, whose key is lost, and the last one, which keeps its key. -/
def twoNamespaces : String :=
  "CREATE TABLE a.t (x int REFERENCES p (id)); CREATE TABLE p (id int);
    CREATE TABLE b.T (\"X\" int, y int, FOREIGN KEY (Y) REFERENCES a.P (ID))"

/-- The key that the last of these tables declares. -/
def keptKey : ForeignKey := ⟨"t", "y", "p", "id"⟩

/-- The table that keeps its key is the last of its name, and the table that the key refers to is
the last of its name, too. -/
theorem isLastNamed_twoNamespaces :
    ∃ p ∈ (draw twoNamespaces IdSupply.tally).schema.tables.zip (declaredTables twoNamespaces),
      keptKey ∈ p.2.keys ∧
      (IsLastNamed (draw twoNamespaces IdSupply.tally).schema.tables p.1 ∧
        ∃ c ∈ p.1.columns, c.name = keptKey.fromColumn) ∧
      ∃ u, IsLastNamed (draw twoNamespaces IdSupply.tally).schema.tables u ∧
        u.name = keptKey.toTable ∧ ∃ d ∈ u.columns, d.name = keptKey.toColumn := by
  have hkept :
      ∃ p ∈ (draw twoNamespaces IdSupply.tally).schema.tables.zip (declaredTables twoNamespaces),
      keptKey ∈ p.2.keys ∧ ∃ r ∈ (draw twoNamespaces IdSupply.tally).schema.relations,
        Connects (draw twoNamespaces IdSupply.tally).schema p.1 keptKey r := by
    unfold Connects
    decide +kernel
  obtain ⟨p, hp, hk, hconnects⟩ := hkept
  exact ⟨p, hp, hk, (exists_connects_iff IdSupply.injective_tally hp hk).mp hconnects⟩

/-- Has each declared key a relation from the table that declares it, whenever that table has the
referring column and some table with the name referred to has the column referred to? -/
def KeepsDeclaredKeys (script : String) (ids : IdSupply) : Prop :=
  let s := (draw script ids).schema
  ∀ p ∈ s.tables.zip (declaredTables script), ∀ k ∈ p.2.keys,
    (∃ c ∈ p.1.columns, c.name = k.fromColumn) →
    (∃ u ∈ s.tables, u.name = k.toTable ∧ ∃ d ∈ u.columns, d.name = k.toColumn) →
    ∃ r ∈ s.relations, r.source.tableId = p.1.id ∧
      ∃ c ∈ p.1.columns, c.id = r.source.columnId ∧ c.name = k.fromColumn

/-- A key of a table before another of its name goes to that other table. -/
theorem not_keepsDeclaredKeys :
    ¬KeepsDeclaredKeys "CREATE TABLE a.t (x int REFERENCES p (id)); CREATE TABLE b.t (x int);
      CREATE TABLE p (id int)" IdSupply.tally := by
  unfold KeepsDeclaredKeys
  decide +kernel

end Script

end SchemaDraft
