import SchemaDraft.Proofs.Edit.Run

/-!
What goes along with a table or a column. Which ends exist after a deletion or a replacement can be
told from their own ids and the edit, however many tables have an id (`holds_deleteTable_iff`,
`holds_updateTable_iff`), and the edits look at just these. So the relations that go are those that
would be left without an end, and no others; moving a column leaves all ends where they are
(`relations_cascade`).
-/

namespace SchemaDraft

namespace Schema

/-- Does a drawing have both ends of a relation? -/
def HoldsEnds (s : Schema) (r : Relation) : Prop := s.Holds r.source ∧ s.Holds r.target

instance (s : Schema) (r : Relation) : Decidable (s.HoldsEnds r) :=
  inferInstanceAs (Decidable (s.Holds r.source ∧ s.Holds r.target))

/-- Do all relations of a drawing end at columns that exist? -/
def HoldsAllEnds (s : Schema) : Prop := ∀ r ∈ s.relations, s.HoldsEnds r

instance (s : Schema) : Decidable s.HoldsAllEnds :=
  inferInstanceAs (Decidable (∀ r ∈ s.relations, s.HoldsEnds r))

variable {s : Schema} {t : Table} {e : Endpoint}

/-! ### Ends after an edit -/

theorem staysWith_iff :
    staysWith t e = true ↔ e.tableId ≠ t.id ∨ ∃ c ∈ t.columns, c.id = e.columnId := by
  rw [staysWith, Bool.or_eq_true, bne_iff_ne, List.any_eq_true]
  simp only [beq_iff_eq]

/-- An end exists after a deletion exactly if it existed and its table is another one. -/
theorem holds_deleteTable_iff {id : String} :
    (s.deleteTable id).Holds e ↔ s.Holds e ∧ e.tableId ≠ id := by
  constructor
  · rintro ⟨u, hu, huid, hcolumn⟩
    obtain ⟨hmem, hother⟩ := List.mem_filter.mp hu
    exact ⟨⟨u, hmem, huid, hcolumn⟩, by simpa [huid] using hother⟩
  · rintro ⟨h, hother⟩
    exact h.deleteTable hother

/-- An end exists after a replacement exactly if its table is another one or the new table has its
column. -/
theorem holds_updateTable_iff (h : s.Holds e) :
    (s.updateTable t).Holds e ↔ staysWith t e = true := by
  refine ⟨?_, h.updateTable⟩
  rintro ⟨u, hu, huid, hcolumn⟩
  obtain ⟨old, _, rfl⟩ := List.mem_map.mp hu
  rw [staysWith_iff]
  -- the end is on the updated table or on one that was kept
  by_cases hsame : old.id = t.id
  · rw [if_pos hsame] at hcolumn
    exact .inr hcolumn
  · rw [if_neg hsame] at huid
    exact .inl (huid ▸ hsame)

/-- An end stays when its table is replaced by one with all of its columns, if ids tell the tables
apart. -/
theorem staysWith_of_columns (hids : (s.tables.map (·.id)).Nodup) (h : s.Holds e) {u : Table}
    (hu : u ∈ s.tables)
    (hid : t.id = u.id) (hcolumns : u.columns ⊆ t.columns) : staysWith t e = true := by
  rw [staysWith_iff]
  by_cases hsame : e.tableId = t.id
  · obtain ⟨v, hv, hvid, c, hc, hcid⟩ := h
    obtain rfl : v = u := List.inj_on_of_nodup_map hids hv hu (hvid.trans (hsame.trans hid))
    exact .inr ⟨c, hcolumns hc, hcid⟩
  · exact .inl hsame

/-! ### Relations after an edit -/

theorem HoldsAllEnds.updateTable (h : s.HoldsAllEnds) (t : Table) :
    (s.updateTable t).HoldsAllEnds := by
  intro r hr
  obtain ⟨hmem, hstays⟩ := List.mem_filter.mp hr
  obtain ⟨hsource, htarget⟩ := Bool.and_eq_true_iff.mp hstays
  exact ⟨(h r hmem).1.updateTable hsource, (h r hmem).2.updateTable htarget⟩

theorem HoldsAllEnds.reorderColumns (h : s.HoldsAllEnds) (tableId : String) (start finish : Int) :
    (s.reorderColumns tableId start finish).HoldsAllEnds := by
  rcases reorderColumns_cases s tableId start finish with heq | ⟨t, _, columns, _, heq⟩
  · rwa [heq]
  · rw [heq]
    exact h.updateTable _

theorem relations_deleteTable (h : s.HoldsAllEnds) (id : String) :
    (s.deleteTable id).relations = s.relations.filter ((s.deleteTable id).HoldsEnds ·) := by
  refine List.filter_congr fun r hr => ?_
  obtain ⟨hsource, htarget⟩ := h r hr
  rw [Bool.eq_iff_iff]
  simp only [Bool.and_eq_true, bne_iff_ne, decide_eq_true_eq, HoldsEnds,
    holds_deleteTable_iff, hsource, htarget, true_and]

theorem relations_updateTable (h : s.HoldsAllEnds) (t : Table) :
    (s.updateTable t).relations = s.relations.filter ((s.updateTable t).HoldsEnds ·) := by
  refine List.filter_congr fun r hr => ?_
  obtain ⟨hsource, htarget⟩ := h r hr
  rw [Bool.eq_iff_iff]
  simp only [Bool.and_eq_true, decide_eq_true_eq, HoldsEnds, holds_updateTable_iff hsource,
    holds_updateTable_iff htarget]

/-- A table that keeps its columns, whatever their order, keeps the relations at them. -/
theorem relations_updateTable_of_columns (hids : (s.tables.map (·.id)).Nodup) (h : s.HoldsAllEnds)
    {u : Table} (hu : u ∈ s.tables) (hid : t.id = u.id) (hcolumns : u.columns ⊆ t.columns) :
    (s.updateTable t).relations = s.relations := by
  refine List.filter_eq_self.mpr fun r hr => ?_
  obtain ⟨hsource, htarget⟩ := h r hr
  rw [staysWith_of_columns hids hsource hu hid hcolumns,
    staysWith_of_columns hids htarget hu hid hcolumns]
  rfl

theorem relations_reorderColumns (hids : (s.tables.map (·.id)).Nodup) (h : s.HoldsAllEnds)
    (tableId : String)
    (start finish : Int) : (s.reorderColumns tableId start finish).relations = s.relations := by
  rcases reorderColumns_cases s tableId start finish with heq | ⟨t, ht, columns, hperm, heq⟩
  · rw [heq]
  · rw [heq]
    exact relations_updateTable_of_columns hids h ht rfl hperm.symm.subset

/-- A deletion and a replacement keep, in order, exactly the relations whose two ends still exist,
and moving a column keeps all of them. -/
theorem relations_cascade (hids : (s.tables.map (·.id)).Nodup) (h : s.HoldsAllEnds) :
    (∀ id, (s.deleteTable id).relations = s.relations.filter ((s.deleteTable id).HoldsEnds ·)) ∧
      (∀ t, (s.updateTable t).relations = s.relations.filter ((s.updateTable t).HoldsEnds ·)) ∧
      ∀ tableId start finish, (s.reorderColumns tableId start finish).relations = s.relations :=
  ⟨relations_deleteTable h, relations_updateTable h, relations_reorderColumns hids h⟩

end Schema

/-- Two tables with relations within each of them and both ways between them. A column of the first
is connected with itself, and the columns of the second share an id. -/
def crossed : Schema where
  tables :=
    [⟨"t", "orders", [⟨⟨"id", "serial", true, true, true⟩, "a"⟩,
        ⟨⟨"parent", "integer", false, false, false⟩, "b"⟩,
        ⟨⟨"owner", "uuid", false, true, false⟩, "c"⟩], ⟨0, 0⟩⟩,
      ⟨"u", "users",
        [⟨⟨"id", "uuid", false, false, true⟩, "a"⟩, ⟨⟨"name", "text", false, false, false⟩, "a"⟩],
        ⟨0, 0⟩⟩]
  relations :=
    [⟨"self", ⟨"t", "b"⟩, ⟨"t", "b"⟩, "1:N"⟩, ⟨"up", ⟨"t", "b"⟩, ⟨"t", "a"⟩, "1:N"⟩,
      ⟨"out", ⟨"t", "c"⟩, ⟨"u", "a"⟩, "1:N"⟩, ⟨"in", ⟨"u", "a"⟩, ⟨"t", "a"⟩, "1:1"⟩,
      ⟨"within", ⟨"u", "a"⟩, ⟨"u", "a"⟩, "1:1"⟩]

/-- The second table deleted, the first without its column `b`, and a column of the first moved. -/
theorem relations_cascade_crossed :
    let deleted := crossed.deleteTable "u"
    let narrowed := crossed.updateTable ⟨"t", "orders", [⟨⟨"id", "serial", true, true, true⟩, "a"⟩,
      ⟨⟨"new", "text", false, false, false⟩, "d"⟩, ⟨⟨"owner", "uuid", false, true, false⟩, "c"⟩],
      ⟨0, 0⟩⟩
    (crossed.tables.map (·.id)).Nodup ∧ crossed.HoldsAllEnds ∧
      deleted.relations = crossed.relations.filter (deleted.HoldsEnds ·) ∧
      deleted.relations.map (·.id) = ["self", "up"] ∧
      narrowed.relations = crossed.relations.filter (narrowed.HoldsEnds ·) ∧
      narrowed.relations.map (·.id) = ["out", "in", "within"] ∧
      (crossed.reorderColumns "t" 2 0).relations = crossed.relations := by
  intro deleted narrowed
  have hids : (crossed.tables.map (·.id)).Nodup := by decide
  have hends : crossed.HoldsAllEnds := by decide
  obtain ⟨hdelete, hupdate, hreorder⟩ := Schema.relations_cascade hids hends
  exact ⟨hids, hends, hdelete "u", by decide, hupdate _, by decide, hreorder "t" 2 0⟩

end SchemaDraft
