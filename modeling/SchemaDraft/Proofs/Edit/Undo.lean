import SchemaDraft.Proofs.Edit.Cascade

/-!
Edits that take back others. A column moved from one index to another goes there, the others keep
their order (`IsMoved`), and moving it back gives the list that there was (`IsMoved.moveItem_back`).
In drawings whose ids tell the tables apart and whose relations have both ends, that is all that a
reordering does, so it can be taken back, and so can turning a relation around, adding a table and
adding a relation (`edits_undone`).
-/

namespace SchemaDraft

/-! ### Moved items -/

section Moved

variable {α : Type} {items moved : List α} {i j : Nat}

/-- Is the second list the first with its item `i` moved to index `j`, and all others in their
order? -/
structure IsMoved (i j : Nat) (items moved : List α) : Prop where
  at_index : moved[j]? = items[i]?
  others : moved.eraseIdx j = items.eraseIdx i

theorem moveItem_eq (hi : i < items.length) (j : Nat) :
    moveItem items i j = (items.eraseIdx i).insertIdx j items[i] := by
  rw [moveItem, List.getElem?_eq_getElem hi]

theorem isMoved_moveItem (hi : i < items.length) (hj : j < items.length) :
    IsMoved i j items (moveItem items i j) := by
  have hlength : (items.eraseIdx i).length = items.length - 1 := List.length_eraseIdx_of_lt hi
  rw [moveItem_eq hi]
  refine ⟨?_, List.eraseIdx_insertIdx_self _⟩
  rw [List.getElem?_insertIdx_self, if_pos (by omega), List.getElem?_eq_getElem hi]

/-- A moved item can be moved back. -/
theorem IsMoved.moveItem_back (h : IsMoved i j items moved) (hi : i < items.length) :
    moveItem moved j i = items := by
  rw [moveItem, h.at_index, List.getElem?_eq_getElem hi, h.others]
  exact List.insertIdx_eraseIdx_getElem hi

end Moved

namespace Schema

variable {s : Schema} {t : Table} {before after : List Table} {i j : Nat}

/-! ### Moving a column -/

/-- Nothing becomes of items when only those of another id would change. -/
theorem map_ite_of_notMem {α : Type} {f : α → String} {change : α → α} {as : List α} {id : String}
    (h : id ∉ as.map f) : (as.map fun a => if f a = id then change a else a) = as := by
  refine (List.map_congr_left fun a ha => if_neg fun hsame => ?_).trans (List.map_id as)
  exact h (List.mem_map.mpr ⟨a, ha, hsame⟩)

/-- An id finds the one table that has it if ids tell the tables apart. -/
theorem map_replace_of_nodup {u : Table} (hids : ((before ++ t :: after).map (·.id)).Nodup)
    (hid : u.id = t.id) :
    (before ++ t :: after).map (fun old => if old.id = u.id then u else old) =
      before ++ u :: after := by
  have hothers : u.id ∉ (before ++ after).map (·.id) := by
    rw [List.map_append, List.map_cons, List.nodup_middle, ← List.map_append] at hids
    exact hid ▸ (List.nodup_cons.mp hids).1
  rw [List.map_append, List.mem_append, not_or] at hothers
  rw [List.map_append, List.map_cons, if_pos hid.symm, map_ite_of_notMem hothers.1,
    map_ite_of_notMem hothers.2]

/-- A reordering with both indices in range moves a column of one table and does nothing else. -/
theorem reorderColumns_eq_of_lt (hids : (s.tables.map (·.id)).Nodup) (h : s.HoldsAllEnds)
    (hsplit : s.tables = before ++ t :: after) (hi : i < t.columns.length)
    (hj : j < t.columns.length) : s.reorderColumns t.id i j =
      ⟨before ++ { t with columns := moveItem t.columns i j } :: after, s.relations⟩ := by
  have hmem : t ∈ s.tables := by rw [hsplit]; simp
  have hfound : s.table? t.id = some t := Export.find?_eq_some_of_nodup hids hmem
  have hrelations := relations_reorderColumns hids h t.id i j
  have hrange : (isIndex i t.columns.length && isIndex j t.columns.length) = true := by
    simp [isIndex, hi, hj]
  have hupdate :
      s.reorderColumns t.id i j = s.updateTable { t with columns := moveItem t.columns i j } := by
    rw [reorderColumns, hfound]
    exact if_pos hrange
  -- an update changes the table in its place; its columns are the old ones, so no relation goes
  rw [hupdate] at hrelations ⊢
  rw [← hrelations, updateTable, hsplit]
  exact congrArg (Schema.mk · _) (map_replace_of_nodup (hsplit ▸ hids) rfl)

theorem ids_reorderColumns (s : Schema) (tableId : String) (start finish : Int) :
    (s.reorderColumns tableId start finish).tables.map (·.id) = s.tables.map (·.id) := by
  rcases reorderColumns_cases s tableId start finish with heq | ⟨t, _, columns, _, heq⟩
  · rw [heq]
  · rw [heq, ids_updateTable]

/-- A reordering is taken back by the reordering with its indices exchanged. -/
theorem reorderColumns_reorderColumns (hids : (s.tables.map (·.id)).Nodup) (h : s.HoldsAllEnds)
    (hsplit : s.tables = before ++ t :: after) (hi : i < t.columns.length)
    (hj : j < t.columns.length) : (s.reorderColumns t.id i j).reorderColumns t.id j i = s := by
  have hfirst := reorderColumns_eq_of_lt hids h hsplit hi hj
  have hlength : (moveItem t.columns i j).length = t.columns.length :=
    (moveItem_perm hi hj).length_eq
  have hsecond :=
    reorderColumns_eq_of_lt (ids_reorderColumns s t.id i j ▸ hids) (h.reorderColumns t.id i j)
    (congrArg Schema.tables hfirst) (hlength ▸ hj) (hlength ▸ hi)
  refine hsecond.trans ?_
  rw [(isMoved_moveItem hi hj).moveItem_back hi, relations_reorderColumns hids h, ← hsplit]

/-! ### Other edits -/

theorem swapRelation_swapRelation (s : Schema) (id : String) :
    (s.swapRelation id).swapRelation id = s := by
  have hback : ∀ r : Relation, (if (if r.id = id then r.swap else r).id = id then
      (if r.id = id then r.swap else r).swap else if r.id = id then r.swap else r) = r := by
    intro r
    by_cases hid : r.id = id
    · have hswap : r.swap.id = id := hid
      rw [if_pos hid, if_pos hswap, Relation.swap_swap]
    · rw [if_neg hid, if_neg hid]
  refine congrArg (Schema.mk s.tables) (List.map_map.trans ?_)
  exact (List.map_congr_left fun r _ => hback r).trans (List.map_id _)

/-- Nothing goes with an id that no item has. -/
theorem filter_bne_of_notMem {α : Type} {f : α → String} {as : List α} {id : String}
    (h : id ∉ as.map f) : as.filter (f · != id) = as := by
  refine List.filter_eq_self.mpr fun a ha => bne_iff_ne.mpr fun hsame => ?_
  exact h (List.mem_map.mpr ⟨a, ha, hsame⟩)

/-- No relation ends at a table that is not there. -/
theorem HoldsAllEnds.tableId_ne (h : s.HoldsAllEnds) {id : String} (hid : id ∉ s.tables.map (·.id))
    {r : Relation} (hr : r ∈ s.relations) : r.source.tableId ≠ id ∧ r.target.tableId ≠ id := by
  have hne : ∀ e, s.Holds e → e.tableId ≠ id := by
    rintro e ⟨u, hu, huid, _⟩ rfl
    exact hid (List.mem_map.mpr ⟨u, hu, huid⟩)
  exact ⟨hne _ (h r hr).1, hne _ (h r hr).2⟩

theorem deleteTable_of_notMem (h : s.HoldsAllEnds) {id : String} (hid : id ∉ s.tables.map (·.id)) :
    s.deleteTable id = s := by
  have hrelations : (s.relations.filter fun r => r.source.tableId != id && r.target.tableId != id) =
      s.relations := by
    refine List.filter_eq_self.mpr fun r hr => ?_
    obtain ⟨hsource, htarget⟩ := h.tableId_ne hid hr
    rw [bne_iff_ne.mpr hsource, bne_iff_ne.mpr htarget]
    rfl
  rw [deleteTable, filter_bne_of_notMem hid, hrelations]

theorem deleteTable_addTable (h : s.HoldsAllEnds) (hid : t.id ∉ s.tables.map (·.id)) :
    (s.addTable t).deleteTable t.id = s := by
  have hadded : (s.addTable t).deleteTable t.id = s.deleteTable t.id := by
    rw [deleteTable, deleteTable, addTable, List.filter_append]
    simp
  rw [hadded, deleteTable_of_notMem h hid]

/-- The ids of an end find its table and a column of it if ids tell the tables apart. -/
theorem exists_column?_of_holds (hids : (s.tables.map (·.id)).Nodup) {e : Endpoint}
    (h : s.Holds e) : ∃ t c, s.table? e.tableId = some t ∧ t.column? e.columnId = some c := by
  obtain ⟨t, ht, htid, c, hc, hcid⟩ := h
  have hfound : s.table? t.id = some t := Export.find?_eq_some_of_nodup hids ht
  obtain ⟨d, hd⟩ : ∃ d, t.column? e.columnId = some d :=
    Option.isSome_iff_exists.mp (List.find?_isSome.mpr ⟨c, hc, by simpa using hcid⟩)
  exact ⟨t, d, htid ▸ hfound, hd⟩

/-- A relation between two different columns is added behind the others. -/
theorem addRelation_eq_of_holds (hids : (s.tables.map (·.id)).Nodup) {source target : Endpoint}
    (hsource : s.Holds source) (htarget : s.Holds target) (hne : source ≠ target)
    (id type : String) :
    s.addRelation id source target type =
      (⟨s.tables, s.relations ++ [⟨id, source, target, type⟩]⟩, []) := by
  obtain ⟨fromTable, fromColumn, hfromTable, hfromColumn⟩ := exists_column?_of_holds hids hsource
  obtain ⟨toTable, toColumn, htoTable, htoColumn⟩ := exists_column?_of_holds hids htarget
  have hends : s.endsProblem? source target = none := by
    simp only [endsProblem?, hfromTable, htoTable, hfromColumn, htoColumn]
  rw [addRelation, if_neg hne, hends]

theorem deleteRelation_of_notMem {id : String} (hid : id ∉ s.relations.map (·.id)) :
    s.deleteRelation id = s := by
  rw [deleteRelation, filter_bne_of_notMem hid]

theorem deleteRelation_addRelation {id : String} (hid : id ∉ s.relations.map (·.id))
    (source target : Endpoint) (type : String) :
    (s.addRelation id source target type).1.deleteRelation id = s := by
  -- the relation that comes last is the only one with the id
  have hadded :
      ((⟨s.tables, s.relations ++ [⟨id, source, target, type⟩]⟩ : Schema).deleteRelation id) =
      s.deleteRelation id := by
    rw [deleteRelation, deleteRelation, List.filter_append]
    simp
  unfold addRelation
  split
  · exact deleteRelation_of_notMem hid
  split
  · exact deleteRelation_of_notMem hid
  · exact hadded.trans (deleteRelation_of_notMem hid)

/-! ### All of them -/

/-- In a drawing whose ids tell the tables apart and whose relations have both ends: a reordering
moves one column, keeps the order of the others and all else, and is taken back by the one with its
indices exchanged; turning a relation around twice changes nothing; and deleting takes back an added
table or relation with a new id. -/
theorem edits_undone (hids : (s.tables.map (·.id)).Nodup) (h : s.HoldsAllEnds) :
    (∀ before t after, s.tables = before ++ t :: after →
      ∀ i j : Nat, i < t.columns.length → j < t.columns.length →
        (∃ columns, IsMoved i j t.columns columns ∧
          s.reorderColumns t.id i j = ⟨before ++ { t with columns } :: after, s.relations⟩) ∧
        (s.reorderColumns t.id i j).reorderColumns t.id j i = s) ∧
      (∀ id, (s.swapRelation id).swapRelation id = s) ∧
      (∀ t, t.id ∉ s.tables.map (·.id) → (s.addTable t).deleteTable t.id = s) ∧
      ∀ id source target type, id ∉ s.relations.map (·.id) →
        (source ≠ target → s.Holds source → s.Holds target →
          (s.addRelation id source target type).1 =
            ⟨s.tables, s.relations ++ [⟨id, source, target, type⟩]⟩) ∧
        (s.addRelation id source target type).1.deleteRelation id = s := by
  refine ⟨?_, s.swapRelation_swapRelation, fun t hid => deleteTable_addTable h hid, ?_⟩
  · intro before t after hsplit i j hi hj
    exact ⟨⟨_, isMoved_moveItem hi hj, reorderColumns_eq_of_lt hids h hsplit hi hj⟩,
      reorderColumns_reorderColumns hids h hsplit hi hj⟩
  · intro id source target type hid
    refine ⟨fun hne hsource htarget => ?_, deleteRelation_addRelation hid source target type⟩
    exact congrArg Prod.fst (addRelation_eq_of_holds hids hsource htarget hne id type)

end Schema

/-- The first column of a table moved to the end and back, and the other edits each with what takes
it back. -/
theorem edits_undone_crossed :
    let moved := crossed.reorderColumns "t" 0 2
    let added := crossed.addTable ⟨"v", "", [], ⟨0, 0⟩⟩
    let connected := (crossed.addRelation "new" ⟨"t", "a"⟩ ⟨"u", "a"⟩ "1:1").1
    (crossed.tables.map (·.id)).Nodup ∧ crossed.HoldsAllEnds ∧
      (moved.tables.map fun t => t.columns.map (·.id)) = [["b", "c", "a"], ["a", "a"]] ∧
      moved.reorderColumns "t" 2 0 = crossed ∧
      (crossed.swapRelation "in").swapRelation "in" = crossed ∧
      added.deleteTable "v" = crossed ∧
      connected.relations.map (·.id) = ["self", "up", "out", "in", "within", "new"] ∧
      connected.deleteRelation "new" = crossed := by
  intro moved added connected
  have hids : (crossed.tables.map (·.id)).Nodup := by decide
  have hends : crossed.HoldsAllEnds := by decide
  obtain ⟨hreorder, hswap, htable, hrelation⟩ := Schema.edits_undone hids hends
  obtain ⟨_, hback⟩ := hreorder [] _ _ rfl 0 2 (by decide) (by decide)
  obtain ⟨hadded, hdeleted⟩ := hrelation "new" ⟨"t", "a"⟩ ⟨"u", "a"⟩ "1:1" (by decide)
  have hnames :=
    congrArg (fun s : Schema => s.relations.map (·.id)) (hadded (by decide) (by decide) (by decide))
  exact ⟨hids, hends, by decide, hback, hswap "in", htable _ (by decide), hnames, hdeleted⟩

end SchemaDraft
