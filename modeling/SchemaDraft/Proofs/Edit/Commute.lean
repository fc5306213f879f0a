import SchemaDraft.Proofs.Edit.Run

/-!
Edits of different things commute. An edit that is addressed to a table or to a relation says of
every table and of every relation what becomes of it (`Effect`), and of those that its kind is about
it changes only the ones with its id (`IsLocal`). What an edit of a table does to relations depends
on their ends alone, and an edit of a relation does no more to its ends than exchange them; so
effects at different addresses commute (`Effect.IsAt.comm`), and neither edit moves what the other
looks up (`table?_treat`). Ids may repeat, and ends need not exist.
-/

namespace SchemaDraft

/-! ### Local changes -/

section Local

variable {α : Type} {key : α → String} {k l : String} {change change' : α → Option α}

/-- Does a change leave alone every item but those with one key, and keep the key of these? -/
structure IsLocal (key : α → String) (k : String) (change : α → Option α) : Prop where
  others : ∀ a, key a ≠ k → change a = some a
  keeps_key : ∀ a b, change a = some b → key b = key a

/-- An item has one key, and only the change at this key does anything to it. -/
theorem IsLocal.comm (h : IsLocal key k change) (h' : IsLocal key l change') (hne : k ≠ l) (a : α) :
    (change a).bind change' = (change' a).bind change := by
  -- at most one of the two keys is that of the item
  by_cases hkey : key a = k
  · rw [h'.others a (hkey.trans_ne hne), Option.bind_some]
    cases hchange : change a with
    | none => rfl
    | some b =>
      have hkept : key b = k := (h.keeps_key a b hchange).trans hkey
      exact h'.others b (hkept.trans_ne hne)
  · rw [h.others a hkey, Option.bind_some]
    cases hchange : change' a with
    | none => rfl
    | some b =>
      have hkept : key b = key a := h'.keeps_key a b hchange
      exact (h.others b (hkept.trans_ne hkey)).symm

/-- The first item with another key stays the first. -/
theorem IsLocal.find?_filterMap (h : IsLocal key k change) (hne : k ≠ l) (as : List α) :
    (as.filterMap change).find? (key · = l) = as.find? (key · = l) := by
  induction as with
  | nil => rfl
  | cons a as ih =>
    by_cases hkey : key a = l
    · rw [List.filterMap_cons_some (h.others a (hkey.trans_ne hne.symm)),
        List.find?_cons_of_pos (by simpa), List.find?_cons_of_pos (by simpa)]
    · rw [List.find?_cons_of_neg (by simpa)]
      cases hchange : change a with
      | none => rw [List.filterMap_cons_none hchange, ih]
      | some b =>
        have hkept : key b ≠ l := (h.keeps_key a b hchange).trans_ne hkey
        rw [List.filterMap_cons_some hchange, List.find?_cons_of_neg (by simpa), ih]

theorem isLocal_some (key : α → String) (k : String) : IsLocal key k some :=
  ⟨fun _ _ => rfl, fun _ _ h => by rw [Option.some.inj h]⟩

/-- Removing the items with a key is local. -/
theorem isLocal_guard (key : α → String) (k : String) :
    IsLocal key k (Option.guard (key · != k)) where
  others := fun a ha => by simpa [Option.guard] using ha
  keeps_key := fun a b h => by rw [(Option.guard_eq_some_iff.mp h).1]

/-- Changing the items with a key is local if they keep it. -/
theorem isLocal_ite {f : α → α} (hf : ∀ a, key a = k → key (f a) = k) :
    IsLocal key k fun a => some (if key a = k then f a else a) where
  others := fun a ha => by rw [if_neg ha]
  keeps_key := by
    intro a b h
    obtain rfl := Option.some.inj h
    split
    · rename_i hkey
      rw [hf a hkey, hkey]
    · rfl

end Local

/-! ### Effects -/

/-- What becomes of each table and of each relation; nothing stands for one that goes. -/
structure Effect where
  onTable : Table → Option Table
  onRelation : Relation → Option Relation

/-- The drawing with an effect on each of its tables and relations, in order. -/
def Schema.treat (s : Schema) (f : Effect) : Schema :=
  ⟨s.tables.filterMap f.onTable, s.relations.filterMap f.onRelation⟩

/-- Effects commute on drawings if they do on each table and on each relation. -/
theorem Schema.treat_comm {f g : Effect} (s : Schema)
    (htables : ∀ t, (f.onTable t).bind g.onTable = (g.onTable t).bind f.onTable)
    (hrelations : ∀ r, (f.onRelation r).bind g.onRelation = (g.onRelation r).bind f.onRelation) :
    (s.treat f).treat g = (s.treat g).treat f := by
  simp only [Schema.treat, List.filterMap_filterMap, htables, hrelations]

/-- What is addressed by an edit: the tables or the relations with an id. -/
inductive Address where
  | table (id : String)
  | relation (id : String)
  deriving DecidableEq

/-- A relation, if both of its ends are kept. -/
def keptByEnds (keep : Endpoint → Bool) (r : Relation) : Option Relation :=
  if keep r.source && keep r.target then some r else none

/-- Does a change of relations do no more to their ends than exchange them? -/
def KeepsEnds (change : Relation → Option Relation) : Prop :=
  ∀ r r', change r = some r' → r'.source = r.source ∧ r'.target = r.target ∨
    r'.source = r.target ∧ r'.target = r.source

theorem keepsEnds_keptByEnds (keep : Endpoint → Bool) : KeepsEnds (keptByEnds keep) := by
  intro r r' h
  rw [keptByEnds, Option.ite_none_right_eq_some] at h
  obtain rfl := Option.some.inj h.2
  exact .inl ⟨rfl, rfl⟩

/-- Whether the ends of a relation are kept does not depend on its direction. -/
theorem KeepsEnds.comm {change : Relation → Option Relation} (h : KeepsEnds change)
    (keep : Endpoint → Bool) (r : Relation) :
    (keptByEnds keep r).bind change = (change r).bind (keptByEnds keep) := by
  cases hchange : change r with
  | none =>
    rw [keptByEnds, Option.bind_none]
    split
    · exact hchange
    · rfl
  | some r' =>
    -- a change keeps both ends or swaps them, and the filter asks for both
    have hsame : (keep r'.source && keep r'.target) = (keep r.source && keep r.target) := by
      rcases h r r' hchange with ⟨hsource, htarget⟩ | ⟨hsource, htarget⟩
      · rw [hsource, htarget]
      · rw [hsource, htarget, Bool.and_comm]
    rw [Option.bind_some, keptByEnds, keptByEnds, hsame]
    split
    · exact hchange
    · rfl

/-- The effects that an edit at an address may have: at a table, a local change of tables, and only
relations that go because of their ends; at a relation, a local change of relations that keeps their
ends. -/
inductive Effect.IsAt : Address → Effect → Prop where
  | table {id : String} {onTable : Table → Option Table} (keep : Endpoint → Bool)
    (h : IsLocal Table.id id onTable) : IsAt (.table id) ⟨onTable, keptByEnds keep⟩
  | relation {id : String} {onRelation : Relation → Option Relation}
    (h : IsLocal Relation.id id onRelation)
    (hends : KeepsEnds onRelation) : IsAt (.relation id) ⟨some, onRelation⟩

/-- Effects at different addresses commute. -/
theorem Effect.IsAt.comm {a b : Address} {f g : Effect} (hf : f.IsAt a) (hg : g.IsAt b)
    (hne : a ≠ b) (s : Schema) : (s.treat f).treat g = (s.treat g).treat f := by
  cases hf with
  | @table id onTable keep hf =>
    cases hg with
    | @table id' onTable' keep' hg =>
      -- two tables: neither change touches the table of the other
      have hids : id ≠ id' := fun h => hne (congrArg Address.table h)
      exact s.treat_comm (hf.comm hg hids) ((keepsEnds_keptByEnds keep').comm keep)
    -- a table and a relation: only the filter by ends meets the relation
    | relation hg hends =>
      exact s.treat_comm (fun t => Option.bind_fun_some (onTable t)) (hends.comm keep)
  | @relation id onRelation hf hends =>
    cases hg with
    | @table id' onTable keep hg =>
      exact s.treat_comm (fun t => (Option.bind_fun_some (onTable t)).symm) fun r =>
        (hends.comm keep r).symm
    | @relation id' onRelation' hg hends' =>
      have hids : id ≠ id' := fun h => hne (congrArg Address.relation h)
      exact s.treat_comm (fun _ => rfl) (hf.comm hg hids)

/-- An effect elsewhere does not change which table an id finds. -/
theorem table?_treat {a : Address} {f : Effect} {id : String} (hf : f.IsAt a) (hne : a ≠ .table id)
    (s : Schema) : (s.treat f).table? id = s.table? id := by
  cases hf with
  | table keep h => exact h.find?_filterMap (fun hid => hne (congrArg Address.table hid)) s.tables
  | relation h hends => rw [Schema.treat, List.filterMap_some]; rfl

/-! ### Edits -/

/-- What an edit of a table or of a relation is addressed to. -/
def Edit.address? : Edit → Option Address
  | updateTable t => some (.table t.id)
  | deleteTable id => some (.table id)
  | reorderColumns tableId _ _ => some (.table tableId)
  | deleteRelation id => some (.relation id)
  | swapRelation id => some (.relation id)
  | updateRelationType id _ => some (.relation id)
  | addTable _ | addRelation .. | importFrom .. => none

namespace Effect

/-- One table takes the place of all with its id. -/
def replace (t : Table) : Effect :=
  ⟨fun old => some (if old.id = t.id then t else old), keptByEnds (Schema.staysWith t)⟩

/-- The tables with an id go. -/
def removeTable (id : String) : Effect := ⟨Option.guard (·.id != id), keptByEnds (·.tableId != id)⟩

/-- All stays. -/
def nothing : Effect := ⟨some, keptByEnds fun _ => true⟩

/-- The relations with an id go. -/
def removeRelation (id : String) : Effect := ⟨some, Option.guard (·.id != id)⟩

/-- The relations with an id change. -/
def changeRelation (id : String) (change : Relation → Relation) : Effect :=
  ⟨some, fun r => some (if r.id = id then change r else r)⟩

theorem isAt_replace (t : Table) : (replace t).IsAt (.table t.id) :=
  .table _ (isLocal_ite fun _ _ => rfl)

theorem isAt_removeTable (id : String) : (removeTable id).IsAt (.table id) :=
  .table _ (isLocal_guard _ id)

theorem isAt_nothing (id : String) : nothing.IsAt (.table id) := .table _ (isLocal_some _ id)

theorem isAt_removeRelation (id : String) : (removeRelation id).IsAt (.relation id) := by
  refine .relation (isLocal_guard _ id) fun r r' hr => ?_
  rw [(Option.guard_eq_some_iff.mp hr).1]
  exact .inl ⟨rfl, rfl⟩

theorem isAt_changeRelation {change : Relation → Relation} (id : String)
    (hid : ∀ r, (change r).id = r.id)
    (hends : ∀ r, (change r).source = r.source ∧ (change r).target = r.target ∨
      (change r).source = r.target ∧ (change r).target = r.source) :
    (changeRelation id change).IsAt (.relation id) := by
  refine .relation (isLocal_ite fun r hr => (hid r).trans hr) fun r r' hr => ?_
  obtain rfl := Option.some.inj hr
  split
  · exact hends r
  · exact .inl ⟨rfl, rfl⟩

end Effect

namespace Schema

variable (s : Schema)

theorem filterMap_keptByEnds (keep : Endpoint → Bool) (relations : List Relation) :
    relations.filterMap (keptByEnds keep) =
      relations.filter fun r => keep r.source && keep r.target :=
  congrFun List.filterMap_eq_filter relations

theorem updateTable_eq_treat (t : Table) : s.updateTable t = s.treat (.replace t) := by
  rw [updateTable, treat, Effect.replace, filterMap_keptByEnds, List.filterMap_eq_map']

theorem deleteTable_eq_treat (id : String) : s.deleteTable id = s.treat (.removeTable id) := by
  rw [deleteTable, treat, Effect.removeTable, filterMap_keptByEnds, List.filterMap_eq_filter]

theorem treat_nothing : s.treat .nothing = s := by
  rw [treat, Effect.nothing, filterMap_keptByEnds, List.filterMap_some]
  exact congrArg (Schema.mk s.tables) (List.filter_true s.relations)

theorem deleteRelation_eq_treat (id : String) :
    s.deleteRelation id = s.treat (.removeRelation id) := by
  rw [deleteRelation, treat, Effect.removeRelation, List.filterMap_eq_filter, List.filterMap_some]

theorem mapRelation_eq_treat (id : String) (change : Relation → Relation) :
    s.mapRelation id change = s.treat (.changeRelation id change) := by
  rw [mapRelation, treat, Effect.changeRelation, List.filterMap_some, List.filterMap_eq_map']

/-- The table with a column moved, if both indices are in range. -/
def reordered? (start finish : Int) (t : Table) : Option Table :=
  if isIndex start t.columns.length && isIndex finish t.columns.length then
    some { t with columns := moveItem t.columns start.toNat finish.toNat }
  else none

/-- A reordering depends on the drawing only through the table that its id finds. -/
theorem reorderColumns_eq (tableId : String) (start finish : Int) :
    s.reorderColumns tableId start finish =
      (((s.table? tableId).bind (reordered? start finish)).map s.updateTable).getD s := by
  cases hfound : s.table? tableId with
  | none => rw [reorderColumns, hfound]; rfl
  | some t =>
    rw [reorderColumns, hfound, Option.bind_some, reordered?]
    simp only
    split <;> rfl

/-- The table with a column moved has the id that it was found by. -/
theorem id_of_reordered? {tableId : String} {start finish : Int} {t : Table}
    (h : (s.table? tableId).bind (reordered? start finish) = some t) : t.id = tableId := by
  obtain ⟨u, hfound, hmoved⟩ := Option.bind_eq_some_iff.mp h
  rw [reordered?, Option.ite_none_right_eq_some] at hmoved
  obtain rfl := Option.some.inj hmoved.2
  simpa using List.find?_some hfound

end Schema

/-- An edit at an address has an effect there, the same one on all drawings in which the id of the
addressed table finds the same table. -/
theorem Edit.exists_effect {e : Edit} {a : Address} (h : e.address? = some a) (s : Schema) :
    ∃ f : Effect, f.IsAt a ∧ ∀ s' : Schema, (∀ id, a = .table id → s'.table? id = s.table? id) →
      s'.edit e = s'.treat f := by
  cases e with
  | updateTable t =>
    obtain rfl := Option.some.inj h
    exact ⟨_, Effect.isAt_replace t, fun s' _ => s'.updateTable_eq_treat t⟩
  | deleteTable id =>
    obtain rfl := Option.some.inj h
    exact ⟨_, Effect.isAt_removeTable id, fun s' _ => s'.deleteTable_eq_treat id⟩
  | reorderColumns tableId start finish =>
    obtain rfl := Option.some.inj h
    -- the columns that are moved are those of the table as it stands in the drawing
    cases hmoved : (s.table? tableId).bind (Schema.reordered? start finish) with
    | none =>
      refine ⟨_, Effect.isAt_nothing tableId, fun s' hsame => ?_⟩
      rw [Schema.edit, s'.reorderColumns_eq, hsame tableId rfl, hmoved, s'.treat_nothing]
      rfl
    | some t =>
      obtain rfl := s.id_of_reordered? hmoved
      refine ⟨_, Effect.isAt_replace t, fun s' hsame => ?_⟩
      rw [Schema.edit, s'.reorderColumns_eq, hsame t.id rfl, hmoved]
      exact s'.updateTable_eq_treat t
  | deleteRelation id =>
    obtain rfl := Option.some.inj h
    exact ⟨_, Effect.isAt_removeRelation id, fun s' _ => s'.deleteRelation_eq_treat id⟩
  | swapRelation id =>
    obtain rfl := Option.some.inj h
    have hswap : (Effect.changeRelation id Relation.swap).IsAt (.relation id) :=
      Effect.isAt_changeRelation id (fun _ => rfl) fun _ => .inr ⟨rfl, rfl⟩
    exact ⟨_, hswap, fun s' _ => s'.mapRelation_eq_treat id _⟩
  | updateRelationType id type =>
    obtain rfl := Option.some.inj h
    have htype : (Effect.changeRelation id fun r => { r with type }).IsAt (.relation id) :=
      Effect.isAt_changeRelation id (fun _ => rfl) fun _ => .inl ⟨rfl, rfl⟩
    exact ⟨_, htype, fun s' _ => s'.mapRelation_eq_treat id _⟩
  | addTable _ | addRelation _ _ _ _ | importFrom _ _ => exact absurd h (by simp [Edit.address?])

/-- Edits at different addresses give the same drawing in either order, whatever the drawing. -/
theorem edit_comm {e e' : Edit} {a b : Address} (h : e.address? = some a)
    (h' : e'.address? = some b)
    (hne : a ≠ b) (s : Schema) : (s.edit e).edit e' = (s.edit e').edit e := by
  obtain ⟨f, hf, hedit⟩ := Edit.exists_effect h s
  obtain ⟨g, hg, hedit'⟩ := Edit.exists_effect h' s
  have hfirst : s.edit e = s.treat f := hedit s fun _ _ => rfl
  have hfirst' : s.edit e' = s.treat g := hedit' s fun _ _ => rfl
  calc (s.edit e).edit e' = (s.treat f).treat g := by
        rw [hfirst, hedit' _ fun id hid => table?_treat hf (hid ▸ hne) s]
    _ = (s.treat g).treat f := hf.comm hg hne s
    _ = (s.edit e').edit e := by
        rw [hfirst', hedit _ fun id hid => table?_treat hg (hid ▸ hne.symm) s]

/-- A drawing in which ids of tables, columns and relations repeat and one relation ends nowhere. -/
def tangled : Schema where
  tables := twoTables.tables ++
    [⟨"t", "copies",
      [⟨⟨"id", "serial", true, true, true⟩, "a"⟩, ⟨⟨"note", "text", false, false, false⟩, "a"⟩],
      ⟨0, 0⟩⟩]
  relations :=
    twoTables.relations ++ twoTables.relations ++ [⟨"lost", ⟨"t", "b"⟩, ⟨"w", "z"⟩, "1:N"⟩]

/-- Two edits of tables, one of which takes along relations at both, two of relations, and one of
each. -/
theorem edit_comm_tangled :
    let move := Edit.reorderColumns "t" 0 1
    let narrow := Edit.updateTable ⟨"u", "people", [], ⟨0, 0⟩⟩
    let swap := Edit.swapRelation "r"
    let forget := Edit.deleteRelation "s"
    (tangled.edit move).edit narrow = (tangled.edit narrow).edit move ∧
      (tangled.edit swap).edit forget = (tangled.edit forget).edit swap ∧
      (tangled.edit move).edit swap = (tangled.edit swap).edit move ∧
      (((tangled.edit move).edit narrow).tables.map fun t => t.columns.map (·.id)) =
        [["b", "a"], [], ["b", "a"]] ∧
      ((tangled.edit move).edit narrow).relations.map (·.id) = ["r", "r", "lost"] ∧
      ((tangled.edit swap).edit forget).relations.map (·.source.columnId) = ["a", "a", "b"] := by
  intro move narrow swap forget
  have hmove : move.address? = some (.table "t") := rfl
  have hnarrow : narrow.address? = some (.table "u") := rfl
  have hswap : swap.address? = some (.relation "r") := rfl
  have hforget : forget.address? = some (.relation "s") := rfl
  exact ⟨edit_comm hmove hnarrow (by decide) tangled, edit_comm hswap hforget (by decide) tangled,
    edit_comm hmove hswap (by decide) tangled, by decide, by decide, by decide⟩

end SchemaDraft
