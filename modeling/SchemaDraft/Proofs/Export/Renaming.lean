import SchemaDraft.Proofs.Export.NamedRelations

/-!
Drawings under other ids. Two drawings that differ in the ids of tables and columns, as long as
different ids stay different, and in all that is not written, have the same script
(`script_of_isRenamed`): ids only lead from the ends of relations to tables and columns, and renamed
ones lead to the same (`rel_lastTable?`, `Table.IsRenamed.column?`). Ids may repeat, and relations
may end nowhere.
-/

namespace SchemaDraft

variable {f g : String → String}

/-! ### Other ids -/

/-- The same column under another id. -/
def Column.rename (g : String → String) (c : Column) : Column := { c with id := g c.id }

/-- The same end, its table and its column under other ids. -/
def Endpoint.rename (f g : String → String) (e : Endpoint) : Endpoint := ⟨f e.tableId, g e.columnId⟩

/-- Is the second table the first under other ids, wherever they stand? -/
structure Table.IsRenamed (f g : String → String) (t t' : Table) : Prop where
  id : t'.id = f t.id
  name : t'.name = t.name
  columns : t'.columns = t.columns.map (Column.rename g)

/-- Does the second relation connect the ends of the first under other ids, whatever the ids and
types of the relations themselves? -/
structure Relation.IsRenamed (f g : String → String) (r r' : Relation) : Prop where
  source : r'.source = r.source.rename f g
  target : r'.target = r.target.rename f g

/-- Is the second drawing the first under other ids, table by table and relation by relation? -/
structure Schema.IsRenamed (f g : String → String) (s s' : Schema) : Prop where
  tables : List.Forall₂ (Table.IsRenamed f g) s.tables s'.tables
  relations : List.Forall₂ (Relation.IsRenamed f g) s.relations s'.relations

theorem Table.IsRenamed.spec {t t' : Table} (h : t.IsRenamed f g t') : t'.spec = t.spec := by
  rw [Table.spec, Table.spec, h.name, h.columns, List.map_map]
  rfl

/-! ### Where ids lead -/

/-- Related lists have related items at the first place where a test succeeds. -/
theorem rel_find? {α β : Type} {R : α → β → Prop} {p : α → Bool} {q : β → Bool}
    (hpq : ∀ a b, R a b → p a = q b) {as : List α} {bs : List β} (h : List.Forall₂ R as bs) :
    Option.Rel R (as.find? p) (bs.find? q) := by
  -- on the two lists: the tests agree at each place, so both stop at the same one
  induction h with
  | nil => exact .none
  | @cons a b as bs hab _ ih =>
    cases hp : p a with
    | true =>
      have hq : q b = true := (hpq a b hab).symm.trans hp
      rw [List.find?_cons_of_pos hp, List.find?_cons_of_pos hq]
      exact .some hab
    | false =>
      have hq : q b = false := (hpq a b hab).symm.trans hp
      rw [List.find?_cons_of_neg (by simp [hp]), List.find?_cons_of_neg (by simp [hq])]
      exact ih

/-- A renamed id leads to the renamed table. -/
theorem rel_lastTable? (hf : Function.Injective f) {tables tables' : List Table}
    (h : List.Forall₂ (Table.IsRenamed f g) tables tables') (id : String) :
    Option.Rel (Table.IsRenamed f g) (lastTable? tables id) (lastTable? tables' (f id)) := by
  refine rel_find? (fun t t' ht => ?_) (List.forall₂_reverse_iff.mpr h)
  rw [ht.id, decide_eq_decide]
  exact hf.eq_iff.symm

/-- In a renamed table a renamed id leads to the renamed column. -/
theorem Table.IsRenamed.column? (hg : Function.Injective g) {t t' : Table} (h : t.IsRenamed f g t')
    (id : String) : t'.column? (g id) = (t.column? id).map (Column.rename g) := by
  have htest : ((fun c : Column => decide (c.id = g id)) ∘ Column.rename g) =
      fun c => decide (c.id = id) :=
    funext fun c => decide_eq_decide.mpr hg.eq_iff
  rw [Table.column?, Table.column?, h.columns, List.find?_map, htest]

namespace Export

variable {tables tables' : List Table} {r r' : Relation} {s s' : Schema}

/-- The names at the ends of a relation are the same under other ids. -/
theorem toOption_relationKey_of_isRenamed (hf : Function.Injective f) (hg : Function.Injective g)
    (htables : List.Forall₂ (Table.IsRenamed f g) tables tables') (hr : r.IsRenamed f g r') :
    (relationKey tables' r').toOption = (relationKey tables r).toOption := by
  have hfrom := rel_lastTable? hf htables r.source.tableId
  have hto := rel_lastTable? hf htables r.target.tableId
  rw [relationKey, relationKey, hr.source, hr.target, Endpoint.rename, Endpoint.rename]
  generalize lastTable? tables r.source.tableId = fromTable,
    lastTable? tables' (f r.source.tableId) = fromTable' at hfrom
  generalize lastTable? tables r.target.tableId = toTable,
    lastTable? tables' (f r.target.tableId) = toTable' at hto
  -- both tables are found or neither, and then the same columns
  cases hfrom with
  | none => rfl
  | @some t t' ht =>
    cases hto with
    | none => rfl
    | @some u u' hu =>
      simp only [ht.column? hg, hu.column? hg, ht.name, hu.name]
      cases t.column? r.source.columnId with
      | none => rfl
      | some c => cases u.column? r.target.columnId <;> rfl

/-- The keys of renamed relations are the same, one by one. -/
theorem filterMap_relationKey_of_isRenamed (hf : Function.Injective f) (hg : Function.Injective g)
    (htables : List.Forall₂ (Table.IsRenamed f g) tables tables')
    {relations relations' : List Relation}
    (h : List.Forall₂ (Relation.IsRenamed f g) relations relations') :
    (relations'.filterMap fun r => (relationKey tables' r).toOption) =
      relations.filterMap fun r => (relationKey tables r).toOption := by
  induction h with
  | nil => rfl
  | cons hr _ ih =>
    rw [List.filterMap_cons, List.filterMap_cons,
      toOption_relationKey_of_isRenamed hf hg htables hr, ih]

/-- The script of a drawing does not depend on ids, which may repeat, on places, or on the types of
relations: other ids that keep different ones different, and anything in place of the rest, give the
same script. -/
theorem script_of_isRenamed (hf : Function.Injective f) (hg : Function.Injective g)
    (h : s.IsRenamed f g s') : script s' = script s := by
  have hspecs : s'.specs = s.specs := by
    have hsame : List.Forall₂ (· = ·) s'.specs s.specs :=
      List.rel_map (fun _ _ ht => Table.IsRenamed.spec ht) (List.Forall₂.flip h.tables)
    rwa [List.forall₂_eq_eq_eq] at hsame
  exact script_eq_of_keys hspecs (filterMap_relationKey_of_isRenamed hf hg h.tables h.relations)

/-- Two tables under one id with a column id twice, an edge twice, one back, and one that ends
nowhere. -/
def crossed : Schema where
  tables :=
    [⟨"t", "old", [⟨⟨"x", "text", false, false, false⟩, "ab"⟩], ⟨0, 0⟩⟩,
      ⟨"t", "new",
        [⟨⟨"id", "uuid", true, true, true⟩, "ab"⟩, ⟨⟨"no", "money", false, false, false⟩, "ab"⟩],
        ⟨0, 0⟩⟩,
      ⟨"u", "users", [⟨⟨"id", "serial", false, true, true⟩, "ba"⟩], ⟨0, 0⟩⟩]
  relations :=
    [⟨"r", ⟨"u", "ba"⟩, ⟨"t", "ab"⟩, "1:1"⟩, ⟨"r", ⟨"u", "ba"⟩, ⟨"t", "ab"⟩, "1:N"⟩,
      ⟨"s", ⟨"t", "ab"⟩, ⟨"u", "ba"⟩, "1:1"⟩, ⟨"q", ⟨"t", "ba"⟩, ⟨"u", "ba"⟩, "1:1"⟩]

/-- An id read backwards. -/
def backwards (id : String) : String := String.ofList id.toList.reverse

/-- That drawing with longer ids for tables, the two ids of columns exchanged, all tables at one
place, and all relations of one id and one type. -/
def crossedAgain : Schema where
  tables := crossed.tables.map fun t =>
    ⟨"table " ++ t.id, t.name, t.columns.map (Column.rename backwards), ⟨.int 7, .int 7⟩⟩
  relations := crossed.relations.map fun r =>
    ⟨"", r.source.rename ("table " ++ ·) backwards, r.target.rename ("table " ++ ·) backwards,
      "many"⟩

theorem script_crossedAgain :
    script crossedAgain = script crossed ∧ (relationKeys crossed).length = 3 := by
  have hf : Function.Injective ("table " ++ ·) := fun a b h => by simpa using h
  have hg : Function.Injective backwards :=
    Function.Involutive.injective fun id => by simp [backwards, String.ofList_toList]
  have hrenamed : crossed.IsRenamed ("table " ++ ·) backwards crossedAgain :=
    ⟨List.forall₂_map_right_iff.mpr (List.forall₂_same.mpr fun _ _ => ⟨rfl, rfl, rfl⟩),
      List.forall₂_map_right_iff.mpr (List.forall₂_same.mpr fun _ _ => ⟨rfl, rfl⟩)⟩
  exact ⟨script_of_isRenamed hf hg hrenamed, by decide⟩

end Export

end SchemaDraft
