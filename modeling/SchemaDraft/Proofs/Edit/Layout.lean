import SchemaDraft.Proofs.Edit.Merge
import SchemaDraft.Proofs.Edit.Run
import SchemaDraft.Proofs.Export.DrawnRelations

/-!
Tables that come from scripts never lie on one another. The tables of one script are apart because
places of the grid are (`isLaidOut_draw`), those of several because each merged block begins beyond
the ones before it (`IsLaidOut.merge`), and no other edit moves a table as long as ids tell the
tables apart (`IsLaidOut.edit`). So all tables are apart along every run of imports and such edits
(`isApart_of_mem_run`).
-/

namespace SchemaDraft

/-! ### Laid out tables -/

/-- Do ids tell all tables of a drawing apart, and do all of them stand at whole places, a step or
more from each other? -/
structure Schema.IsLaidOut (s : Schema) : Prop where
  ids_nodup : (s.tables.map (·.id)).Nodup
  whole : s.IsWhole
  apart : s.tables.Pairwise fun t u => t.position.IsApart u.position

variable {s s' : Schema} {ids : IdSupply}

/-- Only ids and places of tables count. -/
theorem Schema.IsLaidOut.congr (h : s.IsLaidOut)
    (hids : s'.tables.map (·.id) = s.tables.map (·.id))
    (hplaces : s'.tables.map (·.position) = s.tables.map (·.position)) : s'.IsLaidOut where
  ids_nodup := hids ▸ h.ids_nodup
  whole := by
    have hwhole : ∀ p ∈ s.tables.map (·.position), p.IsWhole := List.forall_mem_map.mpr h.whole
    rw [← hplaces] at hwhole
    exact List.forall_mem_map.mp hwhole
  apart := by
    have happart : (s.tables.map (·.position)).Pairwise Position.IsApart :=
      List.pairwise_map.mpr h.apart
    rw [← hplaces] at happart
    exact List.pairwise_map.mp happart

theorem Schema.isLaidOut_empty : Schema.empty.IsLaidOut :=
  ⟨List.nodup_nil, by simp [Schema.IsWhole, Schema.empty], List.Pairwise.nil⟩

/-! ### Drawings of scripts -/

namespace Canvas

theorem exists_position_of_mem_placeFrom {index : Nat} {ts : List Table} {t : Table}
    (h : t ∈ placeFrom index ts) : ∃ k : Nat, t.position = gridPosition k := by
  obtain ⟨k, hk⟩ := List.mem_iff_getElem?.mp h
  exact ⟨index + k, position_of_placeFrom hk⟩

/-- Tables on the grid are apart. -/
theorem pairwise_isApart_placeFrom (index : Nat) (ts : List Table) :
    (placeFrom index ts).Pairwise fun t u => t.position.IsApart u.position := by
  rw [List.pairwise_iff_getElem]
  intro i j hi hj hlt
  rw [position_of_placeFrom (List.getElem?_eq_getElem hi),
    position_of_placeFrom (List.getElem?_eq_getElem hj)]
  exact isApart_gridPosition (by omega)

end Canvas

theorem Script.isLaidOut_draw (script : String) (hids : Function.Injective ids.label) :
    (draw script ids).schema.IsLaidOut where
  ids_nodup := (Export.idsDiffer_draw _ hids).tables_nodup
  whole := by
    intro t ht
    obtain ⟨k, hplace⟩ := Canvas.exists_position_of_mem_placeFrom ht
    rw [hplace]
    exact ⟨trivial, trivial⟩
  apart := Canvas.pairwise_isApart_placeFrom 0 _

/-! ### Edits -/

namespace Schema

theorem tables_addRelation (s : Schema) (id : String) (source target : Endpoint) (type : String) :
    (s.addRelation id source target type).1.tables = s.tables := by
  unfold addRelation
  split
  · rfl
  split <;> rfl

/-- A table whose id no other table has can change its columns without any table moving. -/
theorem positions_updateTable (h : (s.tables.map (·.id)).Nodup) {t : Table} (ht : t ∈ s.tables)
    (columns : List Column) :
    (s.updateTable { t with columns }).tables.map (·.position) = s.tables.map (·.position) := by
  rw [updateTable, List.map_map]
  refine List.map_congr_left fun u hu => ?_
  show (if u.id = t.id then { t with columns } else u).position = u.position
  split
  · rename_i hsame
    rw [List.inj_on_of_nodup_map h hu ht hsame]
  · rfl

theorem IsLaidOut.reorderColumns (h : s.IsLaidOut) (tableId : String) (start finish : Int) :
    (s.reorderColumns tableId start finish).IsLaidOut := by
  rcases reorderColumns_cases s tableId start finish with heq | ⟨t, ht, columns, _, heq⟩
  · rwa [heq]
  · rw [heq]
    exact h.congr (ids_updateTable s _) (positions_updateTable h.ids_nodup ht columns)

theorem IsLaidOut.deleteTable (h : s.IsLaidOut) (id : String) : (s.deleteTable id).IsLaidOut where
  ids_nodup := h.ids_nodup.sublist (List.filter_sublist.map _)
  whole := fun t ht => h.whole t (List.mem_of_mem_filter ht)
  apart := h.apart.sublist List.filter_sublist

/-- Tables that come in under new ids stand apart from those that are there. -/
theorem IsLaidOut.merge (h : s.IsLaidOut) (h' : s'.IsLaidOut)
    (hnew : ∀ t ∈ s'.tables, t.id ∉ s.tables.map (·.id)) : (s.importFrom s' .merge).IsLaidOut where
  -- the ids that come in are new
  ids_nodup := by
    rw [importFrom, List.map_append, ids_shift]
    refine h.ids_nodup.append h'.ids_nodup fun id hs hs' => ?_
    obtain ⟨t, ht, rfl⟩ := List.mem_map.mp hs'
    exact hnew t ht hs
  whole := Canvas.isWhole_beside h.whole h'.whole
  apart := Canvas.pairwise_isApart_beside h.apart h'.apart h.whole h'.whole

end Schema

/-- Does an edit leave the tables of a drawing where they are, or bring in those of a script, and to
the tables that stay only such whose ids none of them has? -/
def Edit.IsFromScripts (s : Schema) : Edit → Prop
  | addTable _ | updateTable _ => False
  | importFrom imported mode => ∃ script ids, Function.Injective ids.label ∧
      imported = (Script.draw script ids).schema ∧
      (mode = .merge → ∀ t ∈ imported.tables, t.id ∉ s.tables.map (·.id))
  | _ => True

/-- Such an edit keeps all tables apart. -/
theorem Schema.IsLaidOut.edit (h : s.IsLaidOut) {e : Edit} (he : e.IsFromScripts s) :
    (s.edit e).IsLaidOut := by
  cases e with
  | addTable t => exact he.elim
  | updateTable t => exact he.elim
  | deleteTable id => exact h.deleteTable id
  -- edits of relations move no table
  | addRelation id source target type =>
    have htables := s.tables_addRelation id source target type
    exact h.congr (congrArg _ htables) (congrArg _ htables)
  | deleteRelation id => exact h.congr rfl rfl
  | swapRelation id => exact h.congr rfl rfl
  | updateRelationType id type => exact h.congr rfl rfl
  | reorderColumns tableId start finish => exact h.reorderColumns tableId start finish
  | importFrom imported mode =>
    -- an import brings in tables that are laid out among themselves
    obtain ⟨script, ids, hids, rfl, hnew⟩ := he
    cases mode with
    | replace => exact Script.isLaidOut_draw script hids
    | merge => exact h.merge (Script.isLaidOut_draw script hids) (hnew rfl)

/-! ### Runs -/

/-- From the empty drawing on, any two tables are a step of the grid or more apart along every run
that brings in scripts and does not place tables itself. -/
theorem isApart_of_mem_run {edits : List Edit}
    (h : AllowedAlong (fun s e => e.IsFromScripts s) Schema.empty edits) :
    ∀ s ∈ Schema.empty.run edits, s.tables.Pairwise fun t u => t.position.IsApart u.position :=
  fun s hs => (forall_mem_run (fun _ _ hs he => hs.edit he) Schema.isLaidOut_empty h s hs).apart

/-- The drawing of a small script, with ids from the given one on. -/
def smallDrawing (script : String) (firstId : Nat) : Schema :=
  (Script.draw script (IdSupply.tally.skip firstId)).schema

/-- Scripts brought in beside each other, the leftmost table removed in between, and one in their
place. -/
def importsAndEdits : List Edit :=
  [.importFrom (smallDrawing "create table a (x int, y int); create table b (z int)" 0) .merge,
    .reorderColumns "" 0 1, .deleteTable "",
    .importFrom (smallDrawing "create table a (x int references c (y)); create table c (y int)" 20)
      .merge,
    .addRelation "r" ⟨"|||", "||||"⟩ ⟨"none", "none"⟩ "1:1", .swapRelation "r",
    .updateRelationType "r" "1:N", .deleteRelation "r",
    .importFrom (smallDrawing "not a script" 40) .merge,
    .importFrom (smallDrawing "create table a (x int)" 0) .replace,
    .importFrom (smallDrawing "create table a (x int)" 60) .merge]

/-- The tables of that run stand apart, three at a time in most of its drawings. -/
theorem isApart_run_importsAndEdits :
    AllowedAlong (fun s e => e.IsFromScripts s) Schema.empty importsAndEdits ∧
      (Schema.empty.run importsAndEdits).map (·.tables.length) =
        [0, 2, 2, 1, 3, 3, 3, 3, 3, 3, 1, 2] ∧
      ∀ s ∈ Schema.empty.run importsAndEdits,
        s.tables.Pairwise fun t u => t.position.IsApart u.position := by
  have hids (n : Nat) : Function.Injective (IdSupply.tally.skip n).label := IdSupply.injective_tally
  have hallowed : AllowedAlong (fun s e => e.IsFromScripts s) Schema.empty importsAndEdits :=
    ⟨⟨_, _, hids 0, rfl, fun _ => by decide +kernel⟩, trivial, trivial,
      ⟨_, _, hids 20, rfl, fun _ => by decide +kernel⟩, trivial, trivial, trivial, trivial,
      ⟨_, _, hids 40, rfl, fun _ => by decide +kernel⟩, ⟨_, _, hids 0, rfl, by decide⟩,
      ⟨_, _, hids 60, rfl, fun _ => by decide +kernel⟩, trivial⟩
  exact ⟨hallowed, by decide +kernel, isApart_of_mem_run hallowed⟩

end SchemaDraft
