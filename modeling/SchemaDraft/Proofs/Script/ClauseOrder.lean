import SchemaDraft.Proofs.Script.Body

/-!
Clauses of a table may stand anywhere in its body. Each definition is read on its own, key clauses
raise flags by the names that they list, and in which order the lists come does not count. So the
definitions of a body, whatever they are, can be put into any order that keeps the columns in theirs
(`readTable_perm`).
-/

namespace SchemaDraft.Script

variable {clauses clauses' : List Clause} {head name body tail : List Char}

/-- Does a definition become a column? The name of its table does not count. -/
def definesColumn (definition : List Char) : Bool := (Clause.read "" definition).column?.isSome

theorem column?_read_congr (table : String) (definition : List Char) :
    (Clause.read table definition).column? = (Clause.read "" definition).column? := by
  unfold Clause.read
  cases primaryKeyClause definition with
  | some _ => rfl
  | none =>
  cases uniqueClause definition with
  | some _ => rfl
  | none =>
  cases foreignKeyClause definition with
  | some _ => rfl
  | none =>
  cases otherClause definition with
  | some _ => rfl
  | none => cases readColumn definition <;> rfl

/-- Only the definitions that become columns count for the columns. -/
theorem columns_filter (table : String) (definitions : List (List Char)) :
    (definitions.map (Clause.read table)).filterMap Clause.column? =
      (definitions.filter definesColumn).filterMap fun d => (Clause.read "" d).column? := by
  induction definitions with
  | nil => rfl
  | cons definition more ih =>
    rw [List.map_cons, List.filterMap_cons, column?_read_congr, ih, List.filter_cons, definesColumn]
    cases hcolumn : (Clause.read "" definition).column? with
    | none => rfl
    | some spec => simp only [Option.isSome_some, if_true, List.filterMap_cons, hcolumn]

/-- In which order columns are listed for a flag does not count. -/
theorem raiseFlags_perm {primaryKeys primaryKeys' uniques uniques' : List String}
    (hprimary : primaryKeys.Perm primaryKeys') (hunique : uniques.Perm uniques') :
    raiseFlags primaryKeys uniques = raiseFlags primaryKeys' uniques' := by
  funext c
  have hcontains : ∀ {names names' : List String}, names.Perm names' →
      names.contains c.name = names'.contains c.name := by
    intro names names' hperm
    rw [List.contains_eq_mem, List.contains_eq_mem, decide_eq_decide]
    exact hperm.mem_iff
  rw [raiseFlags, raiseFlags, hcontains hprimary, hcontains hunique]

theorem foldColumns_perm (h : clauses.Perm clauses')
    (hcolumns : clauses.filterMap Clause.column? = clauses'.filterMap Clause.column?) :
    foldColumns clauses = foldColumns clauses' := by
  rw [foldColumns, foldColumns, hcolumns, raiseFlags_perm (h.flatMap_right _) (h.flatMap_right _)]

/-- The definitions of a table can stand in any order that keeps the columns in theirs. -/
theorem readTable_perm (h : HasBody head name body tail) {definitions : List (List Char)}
    (hperm : (splitCommas body).Perm definitions)
    (hcolumns : (splitCommas body).filter definesColumn = definitions.filter definesColumn) :
    ∃ reading reading',
      (readTable (head ++ '(' :: (body ++ ')' :: tail))).value = some reading ∧
      (readTable (head ++ '(' :: ([','].intercalate definitions ++ ')' :: tail))).value =
        some reading' ∧
      reading'.table = reading.table ∧ reading'.keys.Perm reading.keys := by
  have hdefinitions : ∀ definition ∈ definitions, IsDefinition definition := fun definition hmem =>
    h.isDefinition (hperm.mem_iff.mpr hmem)
  have hcomplete := fun definition hmem => (hdefinitions definition hmem).complete
  have hbody : splitCommas ([','].intercalate definitions) = definitions :=
    (splitCommas_join hcomplete).trans (tidy_definitions hdefinitions)
  have hread := h.readTable
  have hread' := (h.replace hcomplete tail).readTable
  simp only [readBody, hbody] at hread'
  simp only [readBody] at hread
  refine ⟨_, _, congrArg Noted.value hread, congrArg Noted.value hread', ?_, ?_⟩
  · -- flags do not depend on the order of the key clauses
    have hclauses := hperm.map (Clause.read (String.ofList (normalTableName name)))
    have hsame := foldColumns_perm hclauses (by rw [columns_filter, columns_filter, hcolumns])
    exact congrArg (TableSpec.mk _) hsame.symm
  · exact ((hperm.map _).filterMap _).symm

/-- Keys may come before the columns that they name. -/
theorem readTable_perm_keysFirst :
    let head := "create table if not exists shop.orders ".toList
    let body := String.toList
      "id int, shelf int default (0), primary key (id), foreign key (shelf) references shelf (id)"
    let clauses := ["foreign key (shelf) references shelf (id)".toList, "primary key (id)".toList,
      "id int".toList, "shelf int default (0)".toList]
    ∃ reading reading',
      (readTable (head ++ '(' :: (body ++ ')' :: " without oids".toList))).value = some reading ∧
      (readTable
        (head ++ '(' :: ([','].intercalate clauses ++ ')' :: " without oids".toList))).value =
        some reading' ∧
      reading'.table = reading.table ∧ reading'.keys.Perm reading.keys := by
  intro head body clauses
  have hbody : HasBody head "shop.orders".toList body " without oids".toList :=
    ⟨by decide +kernel, by decide +kernel⟩
  have hperm : (splitCommas body).Perm clauses := by decide +kernel
  exact readTable_perm hbody hperm (by decide +kernel)

end SchemaDraft.Script
