import SchemaDraft.Proofs.Text.LetterCase
import SchemaDraft.Script.Import

/-!
What every table read from a script is like, however malformed the script: its columns have types of
the vocabulary and flags in which a key is not null and unique, and all its names are in lower case
(`isDraft_of_mem_ofScript`). Key clauses only raise flags, so they keep this.
-/

namespace SchemaDraft

/-- Is the type of the vocabulary, and is a primary key not null and unique? -/
structure ColumnSpec.IsValid (c : ColumnSpec) : Prop where
  vocabulary : c.type ∈ ColumnType.all.map ColumnType.name
  key : c.isPrimaryKey = true → c.isNotNull = true ∧ c.isUnique = true

instance (c : ColumnSpec) : Decidable c.IsValid :=
  decidable_of_iff (c.type ∈ ColumnType.all.map ColumnType.name ∧
      (c.isPrimaryKey = true → c.isNotNull = true ∧ c.isUnique = true))
    ⟨fun h => ⟨h.1, h.2⟩, fun h => ⟨h.vocabulary, h.key⟩⟩

/-- Is a name its own lower case? -/
def IsLowerName (name : String) : Prop := lowerName name = name

instance (name : String) : Decidable (IsLowerName name) :=
  inferInstanceAs (Decidable (lowerName name = name))

/-- Is a table as scripts give it: names in lower case, columns valid? -/
structure TableSpec.IsDraft (t : TableSpec) : Prop where
  name_lower : IsLowerName t.name
  columns_valid : ∀ c ∈ t.columns, c.IsValid
  columns_lower : ∀ c ∈ t.columns, IsLowerName c.name

theorem isLowerName_ofList_lower (cs : List Char) :
    IsLowerName (String.ofList (Text.lower cs)) := by
  rw [IsLowerName, lowerName, String.toList_ofList, Text.lower_lower]

theorem ColumnSpec.isValid_make (name : String) (type : ColumnType) (p n u : Bool) :
    (ColumnSpec.make name type.name p n u).IsValid where
  vocabulary := ColumnType.name_mem type
  key := by
    intro hkey
    have hp : p = true := hkey
    subst hp
    exact ⟨Bool.or_true n, Bool.or_true u⟩

namespace Script

/-! ### Columns -/

theorem readColumn_spec {definition : List Char} {c : ColumnSpec}
    (h : readColumn definition = some c) : c.IsValid ∧ IsLowerName c.name := by
  obtain ⟨⟨name, remainder⟩, _, rfl⟩ := Option.map_eq_some_iff.mp h
  exact ⟨ColumnSpec.isValid_make _ _ _ _ _, isLowerName_ofList_lower _⟩

/-- Only a column definition defines a column. -/
theorem column?_read {table : String} {definition : List Char} {c : ColumnSpec}
    (h : (Clause.read table definition).column? = some c) : readColumn definition = some c := by
  -- only the last reader of the five makes a column
  unfold Clause.read at h
  split at h
  · exact absurd h (by simp [Clause.column?])
  split at h
  · exact absurd h (by simp [Clause.column?])
  split at h
  · exact absurd h (by simp [Clause.column?])
  split at h
  · exact absurd h (by simp [Clause.column?])
  split at h
  · exact absurd h (by simp [Clause.column?])
  · rename_i spec hspec
    rw [hspec]
    exact h

theorem raiseFlags_name (primaryKeys uniques : List String) (c : ColumnSpec) :
    (raiseFlags primaryKeys uniques c).name = c.name := rfl

/-- Raised flags keep a column valid. -/
theorem isValid_raiseFlags (primaryKeys uniques : List String) {c : ColumnSpec} (h : c.IsValid) :
    (raiseFlags primaryKeys uniques c).IsValid where
  vocabulary := h.vocabulary
  key := by
    intro hkey
    have hraised : (c.isPrimaryKey || primaryKeys.contains c.name) = true := hkey
    simp only [raiseFlags, hraised, Bool.or_true, Bool.true_or, and_self]

/-! ### Tables -/

theorem isDraft_ofClauses {name : List Char} {definitions : List (List Char)} :
    let clauses := definitions.map (Clause.read (String.ofList (Text.lower name)))
    (TableReading.ofClauses (String.ofList (Text.lower name)) clauses).table.IsDraft := by
  intro clauses
  have hcolumn :
      ∀ c ∈ (TableReading.ofClauses (String.ofList (Text.lower name)) clauses).table.columns,
      ∃ d, d.IsValid ∧ IsLowerName d.name ∧ ∃ ps us, c = raiseFlags ps us d := by
    intro c hc
    obtain ⟨d, hd, rfl⟩ := List.mem_map.mp hc
    obtain ⟨clause, hclause, hcol⟩ := List.mem_filterMap.mp hd
    obtain ⟨definition, _, rfl⟩ := List.mem_map.mp hclause
    obtain ⟨hvalid, hlower⟩ := readColumn_spec (column?_read hcol)
    exact ⟨d, hvalid, hlower, _, _, rfl⟩
  -- raised flags change neither the name nor what makes a column valid
  refine ⟨isLowerName_ofList_lower _, fun c hc => ?_, fun c hc => ?_⟩
  · obtain ⟨d, hvalid, _, ps, us, rfl⟩ := hcolumn c hc
    exact isValid_raiseFlags ps us hvalid
  · obtain ⟨d, _, hlower, ps, us, rfl⟩ := hcolumn c hc
    exact hlower

theorem isDraft_readTable {statement : List Char} {reading : TableReading}
    (h : (readTable statement).value = some reading) : reading.table.IsDraft := by
  unfold readTable at h
  split at h
  · exact absurd h (by simp)
  · split at h
    · exact absurd h (by simp)
    · obtain rfl := Option.some.inj h
      exact isDraft_ofClauses

theorem table?_readStatement {statement : List Char} {t : TableSpec}
    (h : (readStatement statement).value.table? = some t) :
    ∃ reading, (readTable statement).value = some reading ∧ reading.table = t := by
  unfold readStatement at h
  simp only at h
  split at h
  · rename_i reading hreading
    exact ⟨reading, hreading, Option.some.inj h⟩
  · split at h <;> exact absurd h (by simp [Contribution.table?])

/-- Every table of a script has valid columns and names in lower case. -/
theorem isDraft_of_mem_ofScript {script : List Char} {t : TableSpec}
    (h : t ∈ (Contents.ofScript script).tables) : t.IsDraft := by
  obtain ⟨reading, hreading, ht⟩ := List.mem_filterMap.mp h
  obtain ⟨statement, _, rfl⟩ := List.mem_map.mp hreading
  obtain ⟨read, hread, rfl⟩ := table?_readStatement ht
  exact isDraft_readTable hread

end Script

end SchemaDraft
