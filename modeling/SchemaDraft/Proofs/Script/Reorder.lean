import Mathlib.Data.List.Rotate
import SchemaDraft.Proofs.Export.DrawnRelations
import SchemaDraft.Proofs.Export.ReadScript

/-!
Scripts with their statements in another order. A script put together from statements falls apart
into them again (`statementsOf_join`). Foreign keys are resolved when all tables are known, so only
the order of tables of one name counts: the last of them is the one that keys find
(`map_spec_tableNamed?_draw`). Statements in another order that keeps this one draw the same tables
and relations, and in the same places if no table changes its turn (`perm_draw_join`).
-/

namespace SchemaDraft.Script

open Text Export

variable {statements statements' : List (List Char)} {ids ids' : IdSupply}

/-! ### Scripts of given statements -/

/-- Is this the text of one statement, without semicolons and marks of comments? -/
structure IsLone (statement : List Char) : Prop where
  semicolon : ';' ∉ statement
  dashes : Avoids '-' '-' statement
  stars : Avoids '/' '*' statement

instance (statement : List Char) : Decidable (IsLone statement) :=
  decidable_of_iff (';' ∉ statement ∧ Avoids '-' '-' statement ∧ Avoids '/' '*' statement)
    ⟨fun h => ⟨h.1, h.2.1, h.2.2⟩, fun h => ⟨h.semicolon, h.dashes, h.stars⟩⟩

/-- Statements with semicolons between them. -/
def join (statements : List (List Char)) : List Char := [';'].intercalate statements

theorem join_cons_cons (statement next : List Char) (rest : List (List Char)) :
    join (statement :: next :: rest) = statement ++ ';' :: join (next :: rest) := by
  rw [join, List.intercalate_cons_cons, List.append_assoc]
  rfl

/-- No mark is made where a semicolon stands between two statements. -/
theorem avoids_join {a b : Char} (ha : ';' ≠ a) (hb : ';' ≠ b)
    (h : ∀ st ∈ statements, Avoids a b st) : Avoids a b (join statements) := by
  induction statements with
  | nil => exact avoids_nil
  | cons st rest ih =>
    have hst := h st (by simp)
    have hrest := ih fun st hst => h st (List.mem_cons_of_mem _ hst)
    cases rest with
    | nil => simpa [join, List.intercalate] using hst
    | cons next rest =>
      rw [join_cons_cons]
      -- neither character of the pair is a semicolon, so no seam makes one
      refine hst.append_right (Avoids.append_left (avoids_singleton _) hrest fun c hc => ?_)
        fun d hd => ?_
      · obtain rfl : ';' = c := by simpa using hc
        exact ha
      · obtain rfl : ';' = d := by simpa using hd
        exact hb

theorem splitStatements_join (h : ∀ st ∈ statements, ';' ∉ st) :
    splitStatements (join statements) = tidy statements := by
  induction statements with
  | nil => rfl
  | cons st rest ih =>
    have hst := splitStatements_of_notMem (h st (by simp))
    cases rest with
    | nil => simpa [join, List.intercalate] using hst
    | cons next rest =>
      rw [join_cons_cons, splitStatements_append, hst, tidy_cons st (next :: rest),
        ih fun st hst => h st (List.mem_cons_of_mem _ hst)]

/-- A script falls apart into the statements that it was put together from. -/
theorem statementsOf_join (h : ∀ st ∈ statements, IsLone st) :
    statementsOf (join statements) = tidy statements := by
  have hstars := avoids_join (by decide) (by decide) fun st hst => (h st hst).stars
  have hdashes := avoids_join (by decide) (by decide) fun st hst => (h st hst).dashes
  rw [statementsOf, dropComments, dropBlockComments_of_avoids hstars,
    dropLineComments_of_avoids hdashes, splitStatements_trim,
    splitStatements_join fun st hst => (h st hst).semicolon]

/-! ### Tables and keys -/

/-- The table that a statement creates; blanks around the statement do not count. -/
def createdTable? (statement : List Char) : Option TableSpec :=
  (readTable (trim statement)).value.map (·.table)

/-- The name of the table that a statement creates. -/
def createdName? (statement : List Char) : Option String := (createdTable? statement).map (·.name)

theorem tables_ofScript_join (h : ∀ st ∈ statements, IsLone st) :
    (Contents.ofScript (join statements)).tables = statements.filterMap createdTable? := by
  have hblank : (readTable []).value = none := rfl
  rw [Contents.ofScript, statementsOf_join h, tables_ofStatements, tidy, List.filterMap_filter,
    List.filterMap_map]
  refine List.filterMap_congr fun st _ => ?_
  show (if decide (trim st ≠ []) then _ else none) = createdTable? st
  split
  · rfl
  · rename_i hempty
    have htrim : trim st = [] := by simpa using hempty
    rw [createdTable?, htrim, hblank, Option.map_none]

theorem perm_keys_ofScript_join (h : ∀ st ∈ statements, IsLone st)
    (hperm : statements.Perm statements') :
    (Contents.ofScript (join statements)).keys.Perm
      (Contents.ofScript (join statements')).keys := by
  have h' : ∀ st ∈ statements', IsLone st := fun st hst => h st (hperm.mem_iff.mpr hst)
  rw [Contents.ofScript, Contents.ofScript, statementsOf_join h, statementsOf_join h']
  exact ((((hperm.map trim).filter _).map readStatement).flatMap_right _)

/-! ### Tables of one name -/

/-- Do the statements that create tables of one name come in the same order? -/
def KeepsOrderByName (statements statements' : List (List Char)) : Prop :=
  ∀ name ∈ statements.filterMap createdName?,
    statements.filter (createdName? · = some name) = statements'.filter (createdName? · = some name)

instance (statements statements' : List (List Char)) :
    Decidable (KeepsOrderByName statements statements') :=
  inferInstanceAs (Decidable (∀ name ∈ statements.filterMap createdName?,
    statements.filter (createdName? · = some name) =
      statements'.filter (createdName? · = some name)))

theorem KeepsOrderByName.filter_eq (h : KeepsOrderByName statements statements')
    (hperm : statements.Perm statements') (name : String) :
    statements.filter (createdName? · = some name) =
      statements'.filter (createdName? · = some name) := by
  by_cases hname : name ∈ statements.filterMap createdName?
  · exact h name hname
  · -- a name that no statement creates: neither list has such a statement
    have hnone : statements.filter (createdName? · = some name) = [] := by
      refine List.filter_eq_nil_iff.mpr fun st hst hcreated => hname ?_
      exact List.mem_filterMap.mpr ⟨st, hst, by simpa using hcreated⟩
    have hlength := (hperm.filter (createdName? · = some name)).length_eq
    rw [hnone, List.length_nil] at hlength
    rw [hnone, List.length_eq_zero_iff.mp hlength.symm]

/-- The tables of one name are those of the statements that create them. -/
theorem filter_createdTables (statements : List (List Char)) (name : String) :
    (statements.filterMap createdTable?).filter (·.name = name) =
      (statements.filter (createdName? · = some name)).filterMap createdTable? := by
  rw [List.filter_filterMap, List.filterMap_filter]
  refine List.filterMap_congr fun st _ => ?_
  rw [createdName?]
  cases createdTable? st with
  | none => simp
  | some t => by_cases hname : t.name = name <;> simp [hname]

/-- Does a statement create a table? -/
def createsTable (statement : List Char) : Bool := (createdTable? statement).isSome

/-- The tables are those of the statements that create one. -/
theorem filterMap_createdTable? (statements : List (List Char)) :
    statements.filterMap createdTable? =
      (statements.filter createsTable).filterMap createdTable? := by
  rw [List.filterMap_filter]
  refine List.filterMap_congr fun st _ => ?_
  rw [createsTable]
  cases createdTable? st <;> rfl

/-- A name finds the last table among those of the script that have it in lower case. -/
theorem map_spec_tableNamed?_draw (script : List Char) (ids : IdSupply) (name : String) :
    (tableNamed? ((Contents.ofScript script).draw ids).schema.tables name).map Table.spec =
      ((Contents.ofScript script).tables.filter (·.name = lowerName name)).getLast? := by
  have hspecs := specs_draw (Contents.ofScript script) ids
  rw [Schema.specs] at hspecs
  have hlower :
      (Contents.ofScript script).tables.filter (fun t => lowerName t.name = lowerName name) =
      (Contents.ofScript script).tables.filter (·.name = lowerName name) := by
    refine List.filter_congr fun t ht => ?_
    have hname : lowerName t.name = t.name := (isDraft_of_mem_ofScript ht).name_lower
    rw [hname]
  rw [spec_tableNamed?, hspecs, ← List.head?_filter, List.filter_reverse,
    List.head?_reverse, hlower]

/-! ### Another order -/

/-- Statements in another order, tables of one name aside, make the same tables and the same
relations. If the statements that create tables keep their order, the tables keep theirs and stand
where they stood. -/
theorem perm_draw_join (h : ∀ st ∈ statements, IsLone st) (hperm : statements.Perm statements')
    (hnames : KeepsOrderByName statements statements') (hids : Function.Injective ids.label)
    (hids' : Function.Injective ids'.label) :
    let s := (draw (String.ofList (join statements)) ids).schema
    let s' := (draw (String.ofList (join statements')) ids').schema
    s.specs.Perm s'.specs ∧ s.namedRelations.Perm s'.namedRelations ∧
      (statements.filter createsTable = statements'.filter createsTable →
        s.layout = s'.layout) := by
  intro s s'
  have h' : ∀ st ∈ statements', IsLone st := fun st hst => h st (hperm.mem_iff.mpr hst)
  have htables := tables_ofScript_join h
  have htables' := tables_ofScript_join h'
  have hs : s = ((Contents.ofScript (join statements)).draw ids).schema := by
    simp only [s, draw, String.toList_ofList]
  have hs' : s' = ((Contents.ofScript (join statements')).draw ids').schema := by
    simp only [s', draw, String.toList_ofList]
  rw [hs, hs']
  refine ⟨?_, perm_namedRelations_draw hids hids' (perm_keys_ofScript_join h hperm) fun name => ?_,
    fun horder => ?_⟩
  · rw [specs_draw, specs_draw, htables, htables']
    exact hperm.filterMap createdTable?
  · rw [map_spec_tableNamed?_draw, map_spec_tableNamed?_draw, htables, htables',
      filter_createdTables, filter_createdTables, hnames.filter_eq hperm]
  · -- without the ids the layout depends on the list of created tables alone
    rw [layout_draw, layout_draw, htables, htables', filterMap_createdTable?,
      filterMap_createdTable? statements', horder]

/-- A table twice under one name, keys before and after their tables, one of them said again, and
statements that give nothing. -/
def libraryStatements : List (List Char) :=
  ["alter table Book add foreign key (shelf) references SHELF (id)".toList,
    "create table book (shelf int, next int references book (Shelf))".toList,
    "create table shelf (old int)".toList, " create table Shelf (id serial unique) ".toList,
    "alter table book add foreign key (shelf) references shelf (id)".toList,
    "create table lost (id int".toList, "".toList, "drop table shelf".toList]

/-- The same statements, first with another order of the tables and then with theirs. -/
theorem perm_draw_join_library :
    let drawn := fun statements => (draw (String.ofList (join statements)) IdSupply.tally).schema
    (drawn libraryStatements).specs.Perm (drawn (libraryStatements.rotate 2)).specs ∧
      (drawn libraryStatements).namedRelations.Perm
        (drawn (libraryStatements.rotate 2)).namedRelations ∧
      (drawn libraryStatements).layout = (drawn (libraryStatements.rotate 1)).layout := by
  have hlone : ∀ st ∈ libraryStatements, IsLone st := by decide +kernel
  have hids := IdSupply.injective_tally
  have hturned (n : Nat) : libraryStatements.Perm (libraryStatements.rotate n) :=
    (libraryStatements.rotate_perm n).symm
  have hnames : KeepsOrderByName libraryStatements (libraryStatements.rotate 2) := by decide +kernel
  have hnames' : KeepsOrderByName libraryStatements (libraryStatements.rotate 1) := by
    decide +kernel
  have hplaces : libraryStatements.filter createsTable =
      (libraryStatements.rotate 1).filter createsTable := by
    decide +kernel
  obtain ⟨hspecs, hrelations, -⟩ := perm_draw_join hlone (hturned 2) hnames hids hids
  obtain ⟨-, -, hlayout⟩ := perm_draw_join hlone (hturned 1) hnames' hids hids
  exact ⟨hspecs, hrelations, hlayout hplaces⟩

end SchemaDraft.Script
