import SchemaDraft.Proofs.Export.ReadTables

/-!
Exactly which tables come back from their statements as they were (`tableBack_iff`): those without
double quotes in their names, without closing parentheses in the names of their key, and with
columns that agree on being in the key if they have the same name. The key line names the columns of
the key, so nothing else tells two columns of one name apart.
-/

namespace SchemaDraft.Export

open Text Script Reader

/-- Is this a table that its statement describes in full? -/
structure IsReadable (t : TableSpec) : Prop where
  unquoted : '"' ∉ t.name.toList
  columns_unquoted : ∀ c ∈ t.columns, '"' ∉ c.name.toList
  keys_closed : ∀ c ∈ t.columns, c.isPrimaryKey = true → ')' ∉ c.name.toList
  keys_agree : ∀ c ∈ t.columns, ∀ d ∈ t.columns, c.name = d.name → c.isPrimaryKey = d.isPrimaryKey

instance (t : TableSpec) : Decidable (IsReadable t) :=
  decidable_of_iff ('"' ∉ t.name.toList ∧ (∀ c ∈ t.columns, '"' ∉ c.name.toList) ∧
      (∀ c ∈ t.columns, c.isPrimaryKey = true → ')' ∉ c.name.toList) ∧
      ∀ c ∈ t.columns, ∀ d ∈ t.columns, c.name = d.name → c.isPrimaryKey = d.isPrimaryKey)
    ⟨fun ⟨hname, hcolumns, hclosed, hagree⟩ => ⟨hname, hcolumns, hclosed, hagree⟩,
      fun h => ⟨h.unquoted, h.columns_unquoted, h.keys_closed, h.keys_agree⟩⟩

/-- The table that the statement of a table creates. -/
def tableBack (t : TableSpec) : Option TableSpec := (readTable (tableText t)).value.map (·.table)

variable {t : TableSpec}

/-! ### Clauses -/

theorem read_columnText (h : IsWritable t) {c : ColumnSpec} (hc : c ∈ t.columns) :
    Clause.read t.name (columnText c) = match readColumn (columnText c) with
      | none => .unreadable (.unreadableDefinition t.name (String.ofList (columnText c)))
      | some spec => .column spec none := by
  have hnone := searchWord_columnText (h.draft.columns_valid c hc) (h.calm.columns c hc).opening
  have hstarts : Starts isMark (columnText c) := starts_isMark_quoteName _ _
  rw [read_of_opensNoClause t.name (opensNoClause_of_starts hstarts), Clause.readColumnLine, hnone]
  rfl

theorem column?_columnText (h : IsWritable t) {c : ColumnSpec} (hc : c ∈ t.columns) :
    (Clause.read t.name (columnText c)).column? = readColumn (columnText c) := by
  rw [read_columnText h hc]
  cases readColumn (columnText c) <;> rfl

/-- The line of a column raises no flags and declares no foreign key. -/
theorem silent_columnText (h : IsWritable t) {c : ColumnSpec} (hc : c ∈ t.columns) :
    (Clause.read t.name (columnText c)).primaryKeyColumns = [] ∧
      (Clause.read t.name (columnText c)).uniqueColumns = [] ∧
      (Clause.read t.name (columnText c)).foreignKey? = none := by
  rw [read_columnText h hc]
  cases readColumn (columnText c) <;> exact ⟨rfl, rfl, rfl⟩

/-- The line of the key is read as a key of names without closing parentheses. -/
theorem exists_key_names (t : TableSpec) : ∃ names : List String,
    (∀ n ∈ names, ')' ∉ n.toList) ∧
    ((∀ c ∈ keyColumns t.columns, IsListedName c.name.toList) →
      names = (keyColumns t.columns).map (·.name)) ∧
    ∃ clauses : List Clause, tableClauses t =
        t.columns.map (fun c => Clause.read t.name (columnText c)) ++ clauses ∧
      (clauses = [] ∧ names = [] ∨ clauses = [.primaryKey names]) := by
  rw [tableClauses, tableTexts]
  by_cases hkeys : keyColumns t.columns = []
  · refine ⟨[], by simp, fun _ => by rw [hkeys]; rfl, [], ?_, .inl ⟨rfl, rfl⟩⟩
    rw [if_pos hkeys, List.append_nil, List.append_nil, List.map_map]
    rfl
  · obtain ⟨list, hlist, hread⟩ := exists_read_keyLine t.name hkeys
    refine ⟨columnNameStrings list, fun n hn => ?_, fun hlisted => ?_,
      [.primaryKey (columnNameStrings list)], ?_, .inr rfl⟩
    · obtain ⟨name, hname, rfl⟩ := List.mem_map.mp hn
      rw [String.toList_ofList]
      exact fun hmem => hlist.open_end (mem_of_mem_columnNames hname (by decide) hmem)
    · rw [read_keyLine t.name hkeys hlisted] at hread
      exact (Clause.primaryKey.inj hread).symm
    · rw [if_neg hkeys, List.map_append, List.map_map, List.map_singleton, hread]
      rfl

/-- The table that its lines describe: the columns that are read, with the flags of the key. -/
theorem exists_ofClauses (h : IsWritable t) : ∃ names : List String,
    (∀ n ∈ names, ')' ∉ n.toList) ∧
    ((∀ c ∈ keyColumns t.columns, IsListedName c.name.toList) →
      names = (keyColumns t.columns).map (·.name)) ∧
    TableReading.ofClauses t.name (tableClauses t) =
      ⟨⟨t.name, (t.columns.filterMap fun c => readColumn (columnText c)).map
        (raiseFlags names [])⟩, []⟩ := by
  obtain ⟨names, hclosed, hlisted, clauses, hclauses, hcases⟩ := exists_key_names t
  refine ⟨names, hclosed, hlisted, ?_⟩
  -- column lines give columns and nothing else
  have hcolumns :
      (t.columns.map fun c => Clause.read t.name (columnText c)).filterMap Clause.column? =
      t.columns.filterMap fun c => readColumn (columnText c) := by
    rw [List.filterMap_map]
    exact List.filterMap_congr fun c hc => column?_columnText h hc
  have hprimary : (t.columns.map fun c => Clause.read t.name (columnText c)).flatMap
      Clause.primaryKeyColumns = [] := by
    simpa using fun c hc => (silent_columnText h hc).1
  have hunique : (t.columns.map fun c => Clause.read t.name (columnText c)).flatMap
      Clause.uniqueColumns = [] := by
    simpa using fun c hc => (silent_columnText h hc).2.1
  have hforeign : (t.columns.map fun c => Clause.read t.name (columnText c)).filterMap
      Clause.foreignKey? = [] := by
    simpa using fun c hc => (silent_columnText h hc).2.2
  rw [TableReading.ofClauses, foldColumns, hclauses]
  simp only [List.filterMap_append, List.flatMap_append, hcolumns, hprimary, hunique, hforeign,
    List.nil_append]
  rcases hcases with ⟨rfl, rfl⟩ | rfl
  · simp
  · simp [Clause.column?, Clause.primaryKeyColumns, Clause.uniqueColumns, Clause.foreignKey?,
      Clause.key?]

/-! ### Flags -/

/-- The key raises again what the line of a column does not say. -/
theorem raiseFlags_bareColumn {c : ColumnSpec} (hvalid : c.IsValid) {names : List String}
    (hnames : names.contains c.name = c.isPrimaryKey) :
    raiseFlags names [] (bareColumn c) = c := by
  obtain ⟨name, type, primaryKey, notNull, unique⟩ := c
  have hkey := hvalid.key
  simp only [raiseFlags, bareColumn, ColumnSpec.make, Bool.or_false, Bool.false_or] at hnames hkey ⊢
  cases primaryKey with
  | false =>
    have hmem : name ∉ names := by simpa using hnames
    simp [hmem]
  | true =>
    obtain ⟨rfl, rfl⟩ := hkey rfl
    have hmem : name ∈ names := by simpa using hnames
    simp [hmem]

/-- A list from which nothing is lost is kept whole. -/
theorem exists_of_length_filterMap {α β : Type} {f : α → Option β} {as : List α}
    (h : (as.filterMap f).length = as.length) : ∀ a ∈ as, ∃ b, f a = some b := by
  -- on the list: one item that is left out makes the result too short
  induction as with
  | nil => simp
  | cons a as ih =>
    cases ha : f a with
    | none =>
      rw [List.filterMap_cons_none ha, List.length_cons] at h
      have hle := List.length_filterMap_le f as
      omega
    | some b =>
      rw [List.filterMap_cons_some ha, List.length_cons, List.length_cons] at h
      intro x hx
      rcases List.mem_cons.mp hx with rfl | hx
      · exact ⟨b, ha⟩
      · exact ih (Nat.succ.inj h) x hx

theorem filterMap_readColumn (h : IsWritable t) (hquote : ∀ c ∈ t.columns, '"' ∉ c.name.toList) :
    (t.columns.filterMap fun c => readColumn (columnText c)) = t.columns.map bareColumn := by
  rw [← List.filterMap_eq_map]
  exact List.filterMap_congr fun c hc =>
    readColumn_columnText (h.draft.columns_valid c hc) (h.calm.columns c hc) (hquote c hc)

/-! ### Tables -/

theorem tableBack_eq (h : IsWritable t) (hquote : '"' ∉ t.name.toList) :
    tableBack t = some (TableReading.ofClauses t.name (tableClauses t)).table := by
  rw [tableBack, readTable_tableText h hquote]
  rfl

theorem notices_tableClauses (h : IsWritable t) (hquote : ∀ c ∈ t.columns, '"' ∉ c.name.toList) :
    (tableClauses t).filterMap Clause.notice? = [] := by
  refine List.filterMap_eq_nil_iff.mpr fun clause hclause => ?_
  obtain ⟨text, htext, rfl⟩ := List.mem_map.mp hclause
  rcases List.mem_append.mp htext with htext | htext
  · obtain ⟨c, hc, rfl⟩ := List.mem_map.mp htext
    rw [read_columnText h hc, readColumn_columnText (h.draft.columns_valid c hc)
      (h.calm.columns c hc) (hquote c hc)]
    rfl
  · split at htext
    · exact absurd htext (by simp)
    · rename_i hkeys
      obtain rfl := List.mem_singleton.mp htext
      obtain ⟨list, _, hread⟩ := exists_read_keyLine t.name hkeys
      rw [hread]
      rfl

/-- A readable table comes back from its statement, and nothing with it. -/
theorem readTable_of_isReadable (h : IsWritable t) (hreadable : IsReadable t) :
    readTable (tableText t) = ⟨some ⟨t, []⟩, []⟩ := by
  obtain ⟨names, _, hlisted, hclauses⟩ := exists_ofClauses h
  have hnames : names = (keyColumns t.columns).map (·.name) := by
    refine hlisted fun c hc => ?_
    obtain ⟨hmem, hkey⟩ := List.mem_filter.mp hc
    exact ⟨h.calm.columns c hmem, hreadable.columns_unquoted c hmem,
      hreadable.keys_closed c hmem hkey, (h.columns_open c hmem).last⟩
  -- a column is raised just if its name is that of a key column
  have hcontains : ∀ c ∈ t.columns, names.contains c.name = c.isPrimaryKey := by
    intro c hc
    rw [hnames, Bool.eq_iff_iff, List.contains_iff_mem, List.mem_map]
    constructor
    · rintro ⟨d, hd, hname⟩
      obtain ⟨hmem, hkey⟩ := List.mem_filter.mp hd
      rw [hreadable.keys_agree c hc d hmem hname.symm]
      exact hkey
    · exact fun hkey => ⟨c, List.mem_filter.mpr ⟨hc, hkey⟩, rfl⟩
  have hcolumns : (t.columns.map bareColumn).map (raiseFlags names []) = t.columns := by
    rw [List.map_map]
    conv_rhs => rw [← List.map_id t.columns]
    exact List.map_congr_left fun c hc =>
      raiseFlags_bareColumn (h.draft.columns_valid c hc) (hcontains c hc)
  rw [readTable_tableText h hreadable.unquoted, hclauses, filterMap_readColumn h
    hreadable.columns_unquoted, hcolumns, notices_tableClauses h hreadable.columns_unquoted]

theorem isReadable_of_tableBack (h : IsWritable t) (hback : tableBack t = some t) :
    IsReadable t := by
  have hquote : '"' ∉ t.name.toList := by
    intro hmem
    rw [tableBack, readTable_tableText_quote h hmem] at hback
    exact absurd hback (by simp)
  obtain ⟨names, hclosed, _, hclauses⟩ := exists_ofClauses h
  rw [tableBack_eq h hquote, hclauses] at hback
  have hcolumns :
      (t.columns.filterMap fun c => readColumn (columnText c)).map (raiseFlags names []) =
      t.columns := congrArg TableSpec.columns (Option.some.inj hback)
  -- a column with a quote in its name is not read, and the table would lack one
  have hunquoted : ∀ c ∈ t.columns, '"' ∉ c.name.toList := by
    have hlength := congrArg List.length hcolumns
    rw [List.length_map] at hlength
    intro c hc hmem
    obtain ⟨spec, hspec⟩ := exists_of_length_filterMap hlength c hc
    rw [readColumn_columnText_quote (h.draft.columns_valid c hc) hmem] at hspec
    exact absurd hspec (by simp)
  rw [filterMap_readColumn h hunquoted, List.map_map] at hcolumns
  -- the flag that came back was raised by the key line alone
  have hkey : ∀ c ∈ t.columns, c.isPrimaryKey = names.contains c.name := by
    intro c hc
    have heach := List.map_inj_left.mp (hcolumns.trans (List.map_id t.columns).symm) c hc
    have hflag := congrArg ColumnSpec.isPrimaryKey heach
    exact hflag.symm
  refine ⟨hquote, hunquoted, fun c hc hprimary => ?_, fun c hc d hd hname => ?_⟩
  · rw [hkey c hc] at hprimary
    exact hclosed c.name (by simpa using hprimary)
  · rw [hkey c hc, hkey d hd, hname]

/-- Exactly the readable tables come back from their statements. -/
theorem tableBack_iff (h : IsWritable t) : tableBack t = some t ↔ IsReadable t := by
  refine ⟨isReadable_of_tableBack h, fun hreadable => ?_⟩
  rw [tableBack, readTable_of_isReadable h hreadable]
  rfl

end SchemaDraft.Export
