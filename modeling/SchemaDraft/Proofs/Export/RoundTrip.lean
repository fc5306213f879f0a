import SchemaDraft.Proofs.Export.DrawnRelations
import SchemaDraft.Proofs.Export.ReadScript

/-!
Import undoes export. A recoverable drawing comes back from its script with other ids (`redraw`); so
does every plainly named drawing, and it is then exported as the same text again
(`roundTrip_of_isPlain`).
-/

namespace SchemaDraft.Export

open Text Script

/-- Is a name free of everything that could be mistaken for the script around it? -/
structure IsPlainName (name : String) : Prop where
  ne_empty : name ≠ ""
  lower : IsLowerName name
  marks : ∀ c ∈ name.toList, c ∉ ['"', '(', ')', ';']
  dashes : Avoids '-' '-' name.toList
  stars : Avoids '/' '*' name.toList
  backslash : name.toList.getLast? ≠ some '\\'

instance (name : String) : Decidable (IsPlainName name) :=
  decidable_of_iff (name ≠ "" ∧ IsLowerName name ∧ (∀ c ∈ name.toList, c ∉ ['"', '(', ')', ';']) ∧
      Avoids '-' '-' name.toList ∧ Avoids '/' '*' name.toList ∧ name.toList.getLast? ≠ some '\\')
    ⟨fun ⟨hne, hlower, hmarks, hdashes, hstars, hlast⟩ =>
      ⟨hne, hlower, hmarks, hdashes, hstars, hlast⟩,
      fun h => ⟨h.ne_empty, h.lower, h.marks, h.dashes, h.stars, h.backslash⟩⟩

/-- Is a drawing consistent, and are its names plain and not repeated? -/
structure IsPlain (s : Schema) : Prop where
  ids_differ : IdsDiffer s.tables
  table_names_nodup : (s.tables.map (·.name)).Nodup
  column_names_nodup : ∀ t ∈ s.tables, (t.columns.map (·.name)).Nodup
  tables_plain : ∀ t ∈ s.tables, IsPlainName t.name
  columns_plain : ∀ t ∈ s.tables, ∀ c ∈ t.columns, IsPlainName c.name
  columns_valid : ∀ t ∈ s.tables, ∀ c ∈ t.columns, c.IsValid
  source_exists : ∀ r ∈ s.relations, s.Holds r.source
  target_exists : ∀ r ∈ s.relations, s.Holds r.target
  ends_differ : s.relations.Pairwise fun a b => ¬(a.source = b.source ∧ a.target = b.target)
  type_mem : ∀ r ∈ s.relations, r.type ∈ cardinalityNames
  type_iff : ∀ r ∈ s.relations, ∀ t ∈ s.tables, ∀ c ∈ t.columns,
    t.id = r.source.tableId → c.id = r.source.columnId → (r.type = "1:1" ↔ c.isUnique = true)

variable {s : Schema} {ids : IdSupply}

/-! ### Recoverable drawings -/

/-- A recoverable drawing comes back from its script with the same tables and relations. -/
theorem redraw (hwritable : ∀ t ∈ s.tables, IsWritable t.spec) (h : IsRecoverable s)
    (hdiffer : IdsDiffer s.tables)
    (hsettled : ∀ r ∈ s.relations, IsSettled s.tables r)
    (hends : s.relations.Pairwise fun a b => ¬(a.source = b.source ∧ a.target = b.target))
    (hids : Function.Injective ids.label) :
    (draw (String.ofList (script s)) ids).schema.specs = s.specs ∧
      (draw (String.ofList (script s)) ids).schema.namedRelations = s.namedRelations := by
  rw [draw, String.toList_ofList, ofScript_script hwritable h]
  exact ⟨specs_draw _ ids, namedRelations_reread hdiffer (idsDiffer_draw _ hids)
    (spec_mintTables _ ids).symm hsettled hends _⟩

/-! ### Plainly named drawings -/

theorem IsPlainName.isCalm {name : String} (h : IsPlainName name) : IsCalm name.toList where
  ne_nil := fun hnil => h.ne_empty (String.toList_eq_nil_iff.mp hnil)
  lower_eq := by
    have hlower := congrArg String.toList h.lower
    rwa [lowerName, String.toList_ofList] at hlower
  semicolon := fun hmem => absurd (h.marks _ hmem) (by simp)
  opening := fun hmem => absurd (h.marks _ hmem) (by simp)
  dashes := h.dashes
  stars := h.stars

theorem IsPlainName.quote_notMem {name : String} (h : IsPlainName name) : '"' ∉ name.toList :=
  fun hmem => absurd (h.marks _ hmem) (by simp)

theorem IsPlainName.closing_notMem {name : String} (h : IsPlainName name) : ')' ∉ name.toList :=
  fun hmem => absurd (h.marks _ hmem) (by simp)

section Plain

variable (h : IsPlain s) {t : Table}
include h

theorem isWritable_of_isPlain (ht : t ∈ s.tables) : IsWritable t.spec := by
  have hcolumns : ∀ c ∈ t.spec.columns, IsPlainName c.name :=
    List.forall_mem_map.mpr (h.columns_plain t ht)
  have hvalid : ∀ c ∈ t.spec.columns, c.IsValid :=
    List.forall_mem_map.mpr (h.columns_valid t ht)
  exact ⟨⟨(h.tables_plain t ht).isCalm, fun c hc => (hcolumns c hc).isCalm⟩,
    ⟨(h.tables_plain t ht).lower, hvalid, fun c hc => (hcolumns c hc).lower⟩,
    fun c hc => ⟨avoids_of_notMem_right (hcolumns c hc).quote_notMem, (hcolumns c hc).backslash⟩⟩

theorem isReadable_of_isPlain (ht : t ∈ s.tables) : IsReadable t.spec := by
  have hcolumns : ∀ c ∈ t.spec.columns, IsPlainName c.name :=
    List.forall_mem_map.mpr (h.columns_plain t ht)
  refine ⟨(h.tables_plain t ht).quote_notMem, fun c hc => (hcolumns c hc).quote_notMem,
    fun c hc _ => (hcolumns c hc).closing_notMem, ?_⟩
  intro spec hspec spec' hspec' hname
  obtain ⟨c, hc, rfl⟩ := List.mem_map.mp hspec
  obtain ⟨d, hd, rfl⟩ := List.mem_map.mp hspec'
  obtain rfl := List.inj_on_of_nodup_map (h.column_names_nodup t ht) hc hd hname
  rfl

theorem isRecoverable_of_isPlain : IsRecoverable s := by
  refine ⟨fun t ht => isReadable_of_isPlain h ht, ?_⟩
  intro k hk
  obtain ⟨fromTable, hfromTable, toTable, htoTable, fromColumn, hfromColumn, toColumn, htoColumn,
    rfl⟩ := exists_of_mem_relationKeys hk
  exact ⟨(h.columns_plain fromTable hfromTable fromColumn hfromColumn).closing_notMem,
    (h.columns_plain toTable htoTable toColumn htoColumn).closing_notMem⟩

/-- Names that are not repeated find what they name. -/
theorem tableNamed?_of_isPlain (ht : t ∈ s.tables) : tableNamed? s.tables t.name = some t := by
  have hlower : s.tables.map (fun t => lowerName t.name) = s.tables.map (·.name) :=
    List.map_congr_left fun t ht => (h.tables_plain t ht).lower
  have hreverse : (s.tables.reverse.map fun t => lowerName t.name).Nodup := by
    rw [List.map_reverse, List.nodup_reverse, hlower]
    exact h.table_names_nodup
  exact find?_eq_some_of_nodup hreverse (List.mem_reverse.mpr ht)

theorem columnNamed?_of_isPlain (ht : t ∈ s.tables) {c : Column} (hc : c ∈ t.columns) :
    t.columnNamed? c.name = some c := by
  have hlower : t.columns.map (fun c => lowerName c.name) = t.columns.map (·.name) :=
    List.map_congr_left fun c hc => (h.columns_plain t ht c hc).lower
  have hnodup : (t.columns.map fun c => lowerName c.name).Nodup := by
    rw [hlower]
    exact h.column_names_nodup t ht
  exact find?_eq_some_of_nodup hnodup hc

/-- A type that agrees with the flag of the referring column is the one a reader gives it. -/
theorem type_eq_of_isPlain {r : Relation} (hr : r ∈ s.relations) (ht : t ∈ s.tables) {c : Column}
    (hc : c ∈ t.columns) (htable : t.id = r.source.tableId) (hcolumn : c.id = r.source.columnId) :
    r.type = (if c.isUnique then Cardinality.oneToOne else .oneToMany).name := by
  have hiff := h.type_iff r hr t ht c hc htable hcolumn
  have hmem := h.type_mem r hr
  simp only [cardinalityNames, Cardinality.name, List.mem_cons, List.not_mem_nil, or_false] at hmem
  by_cases hunique : c.isUnique = true
  · rw [if_pos hunique]
    exact hiff.mpr hunique
  · rw [if_neg hunique]
    exact hmem.resolve_left fun htype => hunique (hiff.mp htype)

theorem isSettled_of_isPlain {r : Relation} (hr : r ∈ s.relations) : IsSettled s.tables r := by
  obtain ⟨fromTable, hfromTable, hfromId, fromColumn, hfromColumn, hfromColumnId⟩ :=
    h.source_exists r hr
  obtain ⟨toTable, htoTable, htoId, toColumn, htoColumn, htoColumnId⟩ := h.target_exists r hr
  -- plain names find no other table and no other column
  have hresolve : (keyBetween fromTable fromColumn toTable toColumn).resolve s.tables =
      .ok (.between fromTable fromColumn toTable toColumn) :=
    resolve_eq_ok_iff.mpr ⟨fromTable, toTable, fromColumn, toColumn,
      tableNamed?_of_isPlain h hfromTable, tableNamed?_of_isPlain h htoTable,
      columnNamed?_of_isPlain h hfromTable hfromColumn,
      columnNamed?_of_isPlain h htoTable htoColumn,
      rfl⟩
  refine isSettled_of_resolve h.ids_differ hresolve ?_
  rw [Relation.ends, Link.between, hfromId, hfromColumnId, htoId, htoColumnId,
    type_eq_of_isPlain h hr hfromTable hfromColumn hfromId hfromColumnId]

/-- Import undoes export on plainly named drawings, and what comes back is exported as the same
text. -/
theorem roundTrip_of_isPlain (hids : Function.Injective ids.label) :
    (draw (String.ofList (script s)) ids).schema.specs = s.specs ∧
      (draw (String.ofList (script s)) ids).schema.namedRelations = s.namedRelations ∧
      script (draw (String.ofList (script s)) ids).schema = script s := by
  obtain ⟨hspecs, hrelations⟩ := redraw (fun t ht => isWritable_of_isPlain h ht)
    (isRecoverable_of_isPlain h) h.ids_differ
      (fun r hr => isSettled_of_isPlain h hr) h.ends_differ hids
  exact ⟨hspecs, hrelations, script_congr hspecs hrelations⟩

end Plain

/-- Two tables whose names look like more than names, and relations both ways between them. -/
def shop : Schema where
  tables :=
    [⟨"t", "order, - line's 'create table",
      [⟨⟨"primary key", "serial", true, true, true⟩, "a"⟩,
        ⟨⟨"[part].\n\\`number`", "uuid", true, true, true⟩, "b"⟩,
        ⟨⟨"references customer with a name too long for a constraint", "text", false, false, true⟩,
          "c"⟩],
      ⟨0, 0⟩⟩,
    ⟨"u", "customer", [⟨⟨"id", "integer", false, true, false⟩, "a"⟩], ⟨0, 0⟩⟩]
  relations := [⟨"r", ⟨"t", "c"⟩, ⟨"u", "a"⟩, "1:1"⟩, ⟨"s", ⟨"u", "a"⟩, ⟨"t", "b"⟩, "1:N"⟩]

theorem isPlain_shop : IsPlain shop where
  ids_differ := ⟨by decide, by decide⟩
  table_names_nodup := by decide
  column_names_nodup := by decide
  tables_plain := by decide +kernel
  columns_plain := by decide +kernel
  columns_valid := by decide
  source_exists := by unfold Schema.Holds; decide
  target_exists := by unfold Schema.Holds; decide
  ends_differ := by decide
  type_mem := by decide
  type_iff := by decide

theorem roundTrip_shop :
    (draw (String.ofList (script shop)) IdSupply.tally).schema.specs = shop.specs ∧
      (draw (String.ofList (script shop)) IdSupply.tally).schema.namedRelations =
        shop.namedRelations ∧
      script (draw (String.ofList (script shop)) IdSupply.tally).schema = script shop :=
  roundTrip_of_isPlain isPlain_shop IdSupply.injective_tally

end SchemaDraft.Export
