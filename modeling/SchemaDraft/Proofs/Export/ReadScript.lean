import SchemaDraft.Proofs.Export.NamedRelations
import SchemaDraft.Proofs.Export.ReadableTables

/-!
An exported script, read back. If the names of a drawing are calm, the tables in its script are
those that the statements of its tables give back (`tables_script`), and what else the script says
are the foreign keys that can be read (`mem_keys_script`). If the drawing is recoverable, it is read
in full (`ofScript_script`).
-/

namespace SchemaDraft.Export

open Text Script

/-! ### Statements -/

/-- A statement gives the table that it creates. -/
theorem table?_value_readStatement (statement : List Char) :
    (readStatement statement).value.table? = (readTable statement).value.map (·.table) := by
  simp only [readStatement]
  cases (readTable statement).value with
  | some reading => rfl
  | none => cases (readForeignKey statement).value <;> rfl

/-- A statement that creates no table gives at most one foreign key. -/
theorem keys_readStatement {statement : List Char} (h : (readTable statement).value = none) :
    (readStatement statement).value.keys = (readForeignKey statement).value.toList := by
  simp only [readStatement, h]
  cases (readForeignKey statement).value <;> rfl

theorem closing_notMem_of_columnNameStrings {list : List Char} (h : ')' ∉ list) {name : String}
    (hname : name ∈ columnNameStrings list) : ')' ∉ name.toList := by
  obtain ⟨cs, hcs, rfl⟩ := List.mem_map.mp hname
  rw [String.toList_ofList]
  exact fun hmem => h (mem_of_mem_columnNames hcs (by decide) hmem)

/-- A foreign key connects columns of the two lists that it was made from. -/
theorem mem_of_ofColumns {fromTable toTable : String} {fromColumns toColumns : List String}
    {k : ForeignKey} (h : ForeignKey.ofColumns fromTable fromColumns toTable toColumns = .ok k) :
    k.fromColumn ∈ fromColumns ∧ k.toColumn ∈ toColumns := by
  unfold ForeignKey.ofColumns at h
  split at h
  · obtain rfl := Except.ok.inj h
    exact ⟨by simp, by simp⟩
  · exact absurd h (by simp)

/-- No foreign key is read from or to a column with a closing parenthesis in its name. -/
theorem closing_notMem_of_readForeignKey {statement : List Char} {k : ForeignKey}
    (h : (readForeignKey statement).value = some k) :
    ')' ∉ k.fromColumn.toList ∧ ')' ∉ k.toColumn.toList := by
  unfold readForeignKey at h
  split at h
  · exact absurd h (by simp)
  · rename_i found hfound
    obtain ⟨_, start, _, hread⟩ := exists_of_searchFrom hfound
    obtain ⟨r, hr, hafter⟩ := exists_of_firstOf hread
    obtain ⟨opening, _, rfl⟩ := List.mem_map.mp hr
    obtain ⟨_, _, _, hafter⟩ := bind_eq_some hafter
    obtain ⟨_, _, _, hafter⟩ := bind_eq_some hafter
    obtain ⟨_, _, _, hafter⟩ := bind_eq_some hafter
    obtain ⟨table, _, _, hafter⟩ := bind_eq_some hafter
    obtain ⟨_, _, _, hafter⟩ := bind_eq_some hafter
    obtain ⟨_, _, _, hafter⟩ := bind_eq_some hafter
    obtain ⟨⟨columns, reference⟩, _, hwords, hafter⟩ := bind_eq_some hafter
    obtain ⟨hvalue, _⟩ := Prod.mk.inj (Option.some.inj hafter)
    obtain ⟨hcolumns, hreference⟩ := closing_notMem_of_foreignKeyWords hwords
    simp only [← hvalue] at h
    split at h
    · rename_i key hkey
      obtain rfl := Option.some.inj h
      obtain ⟨hfrom, hto⟩ := mem_of_ofColumns hkey
      exact ⟨closing_notMem_of_columnNameStrings hcolumns hfrom,
        closing_notMem_of_columnNameStrings hreference hto⟩
    · exact absurd h (by simp)

/-! ### Tables -/

variable {s : Schema}

theorem readTable_of_mem_namedKeys (h : IsCalmSchema s) {p : ForeignKey × List Char}
    (hp : p ∈ namedKeys s) : readTable (keyText p.1 p.2) = ⟨none, []⟩ := by
  obtain ⟨hkey, hname⟩ := exists_of_mem_namedKeys hp
  exact readTable_keyText (h.keys p.1 hkey) hname

/-- The tables that some statements give. -/
theorem tables_ofStatements (statements : List (List Char)) :
    (Contents.ofStatements statements).tables =
      statements.filterMap fun st => (readTable st).value.map (·.table) := by
  simp only [Contents.ofStatements, List.filterMap_map]
  exact List.filterMap_congr fun st _ => table?_value_readStatement st

/-- The tables in the script of a drawing are those that the statements of its tables give back. -/
theorem tables_script (h : IsCalmSchema s) :
    (Contents.ofScript (script s)).tables = s.specs.filterMap tableBack := by
  have hkeys : ((namedKeys s).map fun p => keyText p.1 p.2).filterMap
      (fun st => (readTable st).value.map (·.table)) = [] := by
    refine List.filterMap_eq_nil_iff.mpr fun text htext => ?_
    obtain ⟨p, hp, rfl⟩ := List.mem_map.mp htext
    rw [readTable_of_mem_namedKeys h hp, Option.map_none]
  rw [Contents.ofScript, statementsOf_script h, tables_ofStatements, scriptStatements,
    List.filterMap_append, hkeys, List.append_nil, List.filterMap_map, Schema.specs,
    List.filterMap_map]
  rfl

/-- The names in a foreign key of a drawing are as calm as the tables are. -/
theorem isCalmSchema_of_isWritable (h : ∀ t ∈ s.tables, IsWritable t.spec) : IsCalmSchema s where
  tables := fun t ht => (h t ht).calm
  drafts := fun t ht => (h t ht).draft
  keys := by
    intro k hk n hn
    obtain ⟨fromTable, hfromTable, toTable, htoTable, fromColumn, hfromColumn, toColumn, htoColumn,
      rfl⟩ := exists_of_mem_relationKeys hk
    have hcolumn : ∀ t ∈ s.tables, ∀ c ∈ t.columns, IsCalm c.name.toList := fun t ht c hc =>
      (h t ht).calm.columns c.toColumnSpec (List.mem_map.mpr ⟨c, hc, rfl⟩)
    simp only [keyNames, keyBetween, List.mem_cons, List.not_mem_nil, or_false] at hn
    -- the four names of a key are those of two tables and of a column of each
    rcases hn with rfl | rfl | rfl | rfl
    · exact (h fromTable hfromTable).calm.name
    · exact hcolumn fromTable hfromTable fromColumn hfromColumn
    · exact (h toTable htoTable).calm.name
    · exact hcolumn toTable htoTable toColumn htoColumn

/-! ### Recoverable drawings -/

/-- Does the script of a drawing describe its tables and its relations in full? -/
structure IsRecoverable (s : Schema) : Prop where
  readable : ∀ t ∈ s.tables, IsReadable t.spec
  keys_closed : ∀ k ∈ relationKeys s, ')' ∉ k.fromColumn.toList ∧ ')' ∉ k.toColumn.toList

instance (s : Schema) : Decidable (IsRecoverable s) :=
  decidable_of_iff ((∀ t ∈ s.tables, IsReadable t.spec) ∧
      ∀ k ∈ relationKeys s, ')' ∉ k.fromColumn.toList ∧ ')' ∉ k.toColumn.toList)
    ⟨fun h => ⟨h.1, h.2⟩, fun h => ⟨h.readable, h.keys_closed⟩⟩

theorem IsRecoverable.isReadableKey (h : IsRecoverable s)
    (hwritable : ∀ t ∈ s.tables, IsWritable t.spec) {k : ForeignKey} (hk : k ∈ relationKeys s) :
    IsReadableKey k := by
  have hcalm := (isCalmSchema_of_isWritable hwritable).keys k hk
  obtain ⟨hfromClosed, htoClosed⟩ := h.keys_closed k hk
  obtain ⟨fromTable, hfromTable, toTable, htoTable, fromColumn, hfromColumn, toColumn, htoColumn,
    rfl⟩ := exists_of_mem_relationKeys hk
  have hmem : ∀ {t : Table} {c : Column}, c ∈ t.columns → c.toColumnSpec ∈ t.spec.columns :=
    fun hc => List.mem_map.mpr ⟨_, hc, rfl⟩
  refine ⟨hcalm, ?_, ⟨hfromClosed, ?_⟩, ⟨htoClosed, ?_⟩⟩
  · intro n hn
    simp only [keyNames, keyBetween, List.mem_cons, List.not_mem_nil, or_false] at hn
    rcases hn with rfl | rfl | rfl | rfl
    · exact (h.readable fromTable hfromTable).unquoted
    · exact (h.readable fromTable hfromTable).columns_unquoted _ (hmem hfromColumn)
    · exact (h.readable toTable htoTable).unquoted
    · exact (h.readable toTable htoTable).columns_unquoted _ (hmem htoColumn)
  · exact ((hwritable fromTable hfromTable).columns_open _ (hmem hfromColumn)).last
  · exact ((hwritable toTable htoTable).columns_open _ (hmem htoColumn)).last

theorem readStatement_tableText {t : TableSpec} (hwritable : IsWritable t)
    (hreadable : IsReadable t) : readStatement (tableText t) = ⟨.table ⟨t, []⟩, []⟩ := by
  simp only [readStatement, readTable_of_isReadable hwritable hreadable]

/-- A recoverable drawing is read in full from its script. -/
theorem ofScript_script (hwritable : ∀ t ∈ s.tables, IsWritable t.spec) (h : IsRecoverable s) :
    Contents.ofScript (script s) = ⟨s.specs, relationKeys s, []⟩ := by
  have htables : (s.tables.map fun t => tableText t.spec).map readStatement =
      s.specs.map fun t => ⟨.table ⟨t, []⟩, []⟩ := by
    rw [Schema.specs]
    simp only [List.map_map]
    refine List.map_congr_left fun t ht => ?_
    simp only [Function.comp_apply, readStatement_tableText (hwritable t ht) (h.readable t ht)]
  -- each key statement gives its key back, whatever the name of its constraint
  have hkeys : ((namedKeys s).map fun p => keyText p.1 p.2).map readStatement =
      (relationKeys s).map fun k => ⟨.key k, []⟩ := by
    have hfirst : (namedKeys s).map Prod.fst = relationKeys s := map_fst_nameKeysFrom _ _
    rw [← hfirst]
    simp only [List.map_map]
    refine List.map_congr_left fun p hp => ?_
    obtain ⟨hkey, hname⟩ := exists_of_mem_namedKeys hp
    simp only [Function.comp_apply, readStatement_keyText (h.isReadableKey hwritable hkey) hname]
  rw [Contents.ofScript, Contents.ofStatements,
    statementsOf_script (isCalmSchema_of_isWritable hwritable), scriptStatements, List.map_append,
    htables, hkeys]
  simp only [List.filterMap_append, List.flatMap_append, List.filterMap_map, List.flatMap_map,
    Function.comp_def, Contribution.table?, Contribution.keys]
  simp

/-- If its tables are readable, the other foreign keys of a script have no closing parentheses in
the names of their columns. -/
theorem closing_notMem_of_mem_keys (hwritable : ∀ t ∈ s.tables, IsWritable t.spec)
    (hreadable : ∀ t ∈ s.tables, IsReadable t.spec) {k : ForeignKey}
    (h : k ∈ (Contents.ofScript (script s)).keys) :
    ')' ∉ k.fromColumn.toList ∧ ')' ∉ k.toColumn.toList := by
  have hcalm := isCalmSchema_of_isWritable hwritable
  rw [Contents.ofScript, Contents.ofStatements, statementsOf_script hcalm] at h
  obtain ⟨reading, hreading, hk⟩ := List.mem_flatMap.mp h
  obtain ⟨statement, hstatement, rfl⟩ := List.mem_map.mp hreading
  rcases List.mem_append.mp hstatement with hstatement | hstatement
  · obtain ⟨t, ht, rfl⟩ := List.mem_map.mp hstatement
    rw [readStatement_tableText (hwritable t ht) (hreadable t ht)] at hk
    exact absurd hk (by simp [Contribution.keys])
  · -- a key was read from its lists, which end at the first closing parenthesis
    obtain ⟨p, hp, rfl⟩ := List.mem_map.mp hstatement
    rw [keys_readStatement (by rw [readTable_of_mem_namedKeys hcalm hp])] at hk
    exact closing_notMem_of_readForeignKey (by simpa using hk)

end SchemaDraft.Export
