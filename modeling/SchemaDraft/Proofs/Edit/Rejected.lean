import SchemaDraft.Proofs.Edit.Undo

/-!
Edits that are turned away. An edit asks for something that is not there if it names a table, a
relation or a column that the drawing lacks, an index outside of the columns, or a relation of a
column with itself (`Edit.IsRejected`). Some edits look for this and stop; others go over all tables
and relations and find nothing to change, for deleted and replaced tables because relations have
both ends. Either way the drawing is what it was, and an edit that adds or removes something leaves
it so in no other case (`edit_eq_self`).
-/

namespace SchemaDraft

namespace Schema

variable {s : Schema} {t : Table} {source target : Endpoint} {id tableId : String}
  {start finish : Int}

/-! ### What is not there -/

/-- Is there no table for an end, or is there no column for it in its table? -/
def Lacks (s : Schema) (e : Endpoint) : Prop :=
  e.tableId ∉ s.tables.map (·.id) ∨ ∃ t ∈ s.table? e.tableId, e.columnId ∉ t.columns.map (·.id)

/-- Is there no table of this id, or does one of two indices lie outside of its columns? -/
def LacksIndex (s : Schema) (tableId : String) (start finish : Int) : Prop :=
  tableId ∉ s.tables.map (·.id) ∨ ∃ t ∈ s.table? tableId, ∃ i ∈ [start, finish], i < 0 ∨
    t.columns.length ≤ i

instance (s : Schema) (e : Endpoint) : Decidable (s.Lacks e) :=
  inferInstanceAs (Decidable (e.tableId ∉ s.tables.map (·.id) ∨
    ∃ t ∈ s.table? e.tableId, e.columnId ∉ t.columns.map (·.id)))

instance (s : Schema) (tableId : String) (start finish : Int) :
    Decidable (s.LacksIndex tableId start finish) :=
  inferInstanceAs (Decidable (tableId ∉ s.tables.map (·.id) ∨
    ∃ t ∈ s.table? tableId, ∃ i ∈ [start, finish], i < 0 ∨ t.columns.length ≤ i))

theorem find?_eq_none_iff_notMem {α : Type} {f : α → String} {as : List α} {id : String} :
    as.find? (f · = id) = none ↔ id ∉ as.map f := by
  rw [List.find?_eq_none, List.mem_map]
  simp

theorem lacks_iff {e : Endpoint} :
    s.Lacks e ↔
      s.table? e.tableId = none ∨ ∃ t ∈ s.table? e.tableId, t.column? e.columnId = none := by
  simp only [Lacks, ← find?_eq_none_iff_notMem, Schema.table?, Table.column?]

/-- Nothing stands against a relation exactly if both of its ends are there. -/
theorem endsProblem?_eq_none_iff :
    s.endsProblem? source target = none ↔ ¬s.Lacks source ∧ ¬s.Lacks target := by
  rw [lacks_iff, lacks_iff, endsProblem?]
  cases hfrom : s.table? source.tableId with
  | none => simp
  | some fromTable =>
    cases hto : s.table? target.tableId with
    | none => simp
    | some toTable =>
      cases hsource : fromTable.column? source.columnId <;>
        cases htarget : toTable.column? target.columnId <;>
        simp [hsource, htarget]

theorem isIndex_eq_false_iff {i : Int} {length : Nat} :
    isIndex i length = false ↔ i < 0 ∨ length ≤ i := by
  rw [isIndex, Bool.and_eq_false_iff, decide_eq_false_iff_not, decide_eq_false_iff_not]
  omega

/-! ### Edits that find nothing to do -/

theorem updateTable_of_notMem (h : s.HoldsAllEnds) (hid : t.id ∉ s.tables.map (·.id)) :
    s.updateTable t = s := by
  have hrelations : (s.relations.filter fun r => staysWith t r.source && staysWith t r.target) =
      s.relations := by
    refine List.filter_eq_self.mpr fun r hr => ?_
    obtain ⟨hsource, htarget⟩ := h.tableId_ne hid hr
    rw [staysWith_iff.mpr (.inl hsource), staysWith_iff.mpr (.inl htarget)]
    rfl
  rw [updateTable, map_ite_of_notMem hid, hrelations]

theorem mapRelation_of_notMem (hid : id ∉ s.relations.map (·.id)) (change : Relation → Relation) :
    s.mapRelation id change = s := by
  rw [mapRelation, map_ite_of_notMem hid]

/-! ### Edits that look first -/

theorem reorderColumns_of_lacksIndex (h : s.LacksIndex tableId start finish) :
    s.reorderColumns tableId start finish = s := by
  rw [reorderColumns]
  cases hfound : s.table? tableId with
  | none => rfl
  | some t =>
    -- one of the two indices is out of range, so the guard fails
    have hout : (isIndex start t.columns.length && isIndex finish t.columns.length) = false := by
      rcases h with hid | ⟨u, hu, i, hi, hout⟩
      · rw [Schema.table?, find?_eq_none_iff_notMem.mpr hid] at hfound
        exact absurd hfound (by simp)
      · obtain rfl : t = u := Option.some.inj (hfound.symm.trans hu)
        rw [← isIndex_eq_false_iff] at hout
        rw [Bool.and_eq_false_iff]
        rcases List.mem_pair.mp hi with rfl | rfl
        · exact .inl hout
        · exact .inr hout
    simp only [hout, Bool.false_eq_true, if_false]

/-- A relation is added just if it connects two different columns that are both there. -/
theorem addRelation_eq_ite (s : Schema) (id : String) (source target : Endpoint) (type : String) :
    (s.addRelation id source target type).1 =
      if source = target ∨ s.Lacks source ∨ s.Lacks target then s
      else ⟨s.tables, s.relations ++ [⟨id, source, target, type⟩]⟩ := by
  rw [addRelation]
  by_cases hself : source = target
  · rw [if_pos hself, if_pos (.inl hself)]
  · rw [if_neg hself]
    cases hends : s.endsProblem? source target with
    | none =>
      obtain ⟨hsource, htarget⟩ := endsProblem?_eq_none_iff.mp hends
      rw [if_neg (by simp [hself, hsource, htarget])]
    | some problem =>
      -- only an end that is missing is a problem
      have hlacks : s.Lacks source ∨ s.Lacks target := by
        by_contra hnot
        rw [endsProblem?_eq_none_iff.mpr (not_or.mp hnot)] at hends
        exact absurd hends (by simp)
      rw [if_pos (.inr hlacks)]

end Schema

/-! ### Every edit -/

/-- Does an edit ask for something that is not there? -/
def Edit.IsRejected (s : Schema) : Edit → Prop
  | updateTable t => t.id ∉ s.tables.map (·.id)
  | deleteTable id => id ∉ s.tables.map (·.id)
  | addRelation _ source target _ => source = target ∨ s.Lacks source ∨ s.Lacks target
  | deleteRelation id | swapRelation id | updateRelationType id _ => id ∉ s.relations.map (·.id)
  | reorderColumns tableId start finish => s.LacksIndex tableId start finish
  | addTable _ | importFrom _ _ => False

/-- Does an edit add or remove a table or a relation? -/
def Edit.AddsOrRemoves : Edit → Prop
  | addTable _ | deleteTable _ | addRelation .. | deleteRelation _ => True
  | _ => False

instance (s : Schema) : ∀ e : Edit, Decidable (e.IsRejected s)
  | .updateTable t => inferInstanceAs (Decidable (t.id ∉ s.tables.map (·.id)))
  | .deleteTable id => inferInstanceAs (Decidable (id ∉ s.tables.map (·.id)))
  | .addRelation _ source target _ =>
    inferInstanceAs (Decidable (source = target ∨ s.Lacks source ∨ s.Lacks target))
  | .deleteRelation id | .swapRelation id | .updateRelationType id _ =>
    inferInstanceAs (Decidable (id ∉ s.relations.map (·.id)))
  | .reorderColumns tableId start finish =>
    inferInstanceAs (Decidable (s.LacksIndex tableId start finish))
  | .addTable _ | .importFrom _ _ => inferInstanceAs (Decidable False)

variable {s : Schema} {e : Edit}

/-- An id of which nothing was filtered out is the id of nothing. -/
theorem notMem_of_filter_bne_eq {α : Type} {f : α → String} {as : List α} {id : String}
    (h : as.filter (f · != id) = as) : id ∉ as.map f := by
  intro hmem
  obtain ⟨a, ha, rfl⟩ := List.mem_map.mp hmem
  exact absurd (List.filter_eq_self.mp h a ha) (by simp)

/-- Of the edits that add or remove, only one that is turned away changes nothing. -/
theorem Edit.AddsOrRemoves.isRejected (h : e.AddsOrRemoves) (heq : s.edit e = s) :
    e.IsRejected s := by
  cases e with
  | addTable t => exact absurd (congrArg Schema.tables heq) (by simp [Schema.edit, Schema.addTable])
  | deleteTable id => exact notMem_of_filter_bne_eq (congrArg Schema.tables heq)
  | deleteRelation id => exact notMem_of_filter_bne_eq (congrArg Schema.relations heq)
  | addRelation id source target type =>
    by_contra hnot
    have hadded := (s.addRelation_eq_ite id source target type).trans (if_neg hnot)
    exact absurd (congrArg Schema.relations (hadded.symm.trans heq)) (by simp)
  | updateTable t | swapRelation id | updateRelationType id type => exact h.elim
  | reorderColumns tableId start finish | importFrom imported mode => exact h.elim

/-- In a drawing whose relations have both ends, an edit that asks for something that is not there
leaves everything as it was; one that adds or removes does so in no other case. -/
theorem edit_eq_self (h : s.HoldsAllEnds) (e : Edit) :
    (e.IsRejected s → s.edit e = s) ∧ (e.AddsOrRemoves → s.edit e = s → e.IsRejected s) := by
  refine ⟨fun he => ?_, Edit.AddsOrRemoves.isRejected⟩
  cases e with
  | updateTable t => exact Schema.updateTable_of_notMem h he
  | deleteTable id => exact Schema.deleteTable_of_notMem h he
  | addRelation id source target type =>
    exact (s.addRelation_eq_ite id source target type).trans (if_pos he)
  | deleteRelation id => exact Schema.deleteRelation_of_notMem he
  | swapRelation id => exact Schema.mapRelation_of_notMem he _
  | updateRelationType id type => exact Schema.mapRelation_of_notMem he _
  | reorderColumns tableId start finish => exact Schema.reorderColumns_of_lacksIndex he
  | addTable t | importFrom imported mode => exact he.elim

/-- Every kind of edit that can be turned away, for each of its reasons. -/
def rejectedEdits : List Edit :=
  [.updateTable ⟨"v", "", [], ⟨0, 0⟩⟩, .deleteTable "v", .reorderColumns "v" 0 0,
    .reorderColumns "t" (-1) 0, .reorderColumns "t" 0 3, .reorderColumns "u" 2 1,
    .deleteRelation "v", .swapRelation "v",
    .updateRelationType "v" "1:1", .addRelation "n" ⟨"t", "b"⟩ ⟨"t", "b"⟩ "1:N",
    .addRelation "n" ⟨"v", "b"⟩ ⟨"t", "b"⟩ "1:N", .addRelation "n" ⟨"t", "b"⟩ ⟨"v", "b"⟩ "1:N",
    .addRelation "n" ⟨"u", "b"⟩ ⟨"t", "b"⟩ "1:N", .addRelation "n" ⟨"t", "b"⟩ ⟨"u", "b"⟩ "1:N"]

/-- All of these on two tables that are connected both ways, and an edit among them that does
something. -/
theorem edit_eq_self_crossed :
    crossed.HoldsAllEnds ∧ (∀ e ∈ rejectedEdits, e.IsRejected crossed ∧ crossed.edit e = crossed) ∧
      crossed.edit (.addRelation "n" ⟨"t", "b"⟩ ⟨"u", "a"⟩ "1:N") ≠ crossed := by
  have hends : crossed.HoldsAllEnds := by decide
  have hrejected : ∀ e ∈ rejectedEdits, e.IsRejected crossed := by decide
  have hcarried : ¬Edit.IsRejected crossed (.addRelation "n" ⟨"t", "b"⟩ ⟨"u", "a"⟩ "1:N") := by
    decide
  exact ⟨hends, fun e he => ⟨hrejected e he, (edit_eq_self hends e).1 (hrejected e he)⟩,
    fun heq => hcarried ((edit_eq_self hends _).2 trivial heq)⟩

end SchemaDraft
