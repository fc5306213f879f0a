import SchemaDraft.Proofs.Edit.Sound

/-!
Runs of edits. An edit is a change with its arguments, and a run is a list of them, each applied to
the drawing that the one before it left. Whatever the arguments, a sound drawing stays sound along
the whole run as long as the tables that come in have valid columns and the drawings that come in
are sound, and ids stay different if only new ones come in (`isSound_of_mem_run`).
-/

namespace SchemaDraft

/-! ### Edits and runs -/

/-- A change of a drawing with its arguments; a new relation comes with the id that is made for it.
-/
inductive Edit where
  | addTable (t : Table)
  | updateTable (t : Table)
  | deleteTable (id : String)
  | addRelation (id : String) (source target : Endpoint) (type : String)
  | deleteRelation (id : String)
  | swapRelation (id : String)
  | updateRelationType (id type : String)
  | reorderColumns (tableId : String) (start finish : Int)
  | importFrom (imported : Schema) (mode : ImportMode)

/-- The drawing after an edit. -/
def Schema.edit (s : Schema) : Edit → Schema
  | .addTable t => s.addTable t
  | .updateTable t => s.updateTable t
  | .deleteTable id => s.deleteTable id
  | .addRelation id source target type => (s.addRelation id source target type).1
  | .deleteRelation id => s.deleteRelation id
  | .swapRelation id => s.swapRelation id
  | .updateRelationType id type => s.updateRelationType id type
  | .reorderColumns tableId start finish => s.reorderColumns tableId start finish
  | .importFrom imported mode => s.importFrom imported mode

/-- The drawings along a run, the one before it first. -/
def Schema.run (s : Schema) : List Edit → List Schema
  | [] => [s]
  | e :: es => s :: (s.edit e).run es

/-- Is each edit of a run allowed on the drawing that it meets? -/
def AllowedAlong (allowed : Schema → Edit → Prop) (s : Schema) : List Edit → Prop
  | [] => True
  | e :: es => allowed s e ∧ AllowedAlong allowed (s.edit e) es

variable {allowed : Schema → Edit → Prop} {s : Schema} {edits : List Edit}

instance [∀ s e, Decidable (allowed s e)] :
    ∀ (edits : List Edit) (s : Schema), Decidable (AllowedAlong allowed s edits)
  | [], _ => inferInstanceAs (Decidable True)
  | e :: es, s =>
    have := instDecidableAllowedAlong es (s.edit e)
    inferInstanceAs (Decidable (allowed s e ∧ AllowedAlong allowed (s.edit e) es))

/-- What every allowed edit keeps holds of all drawings along a run of allowed edits. -/
theorem forall_mem_run {keeps : Schema → Prop}
    (hstep : ∀ s e, keeps s → allowed s e → keeps (s.edit e)) (hs : keeps s)
    (hallowed : AllowedAlong allowed s edits) : ∀ u ∈ s.run edits, keeps u := by
  induction edits generalizing s with
  | nil =>
    intro u hu
    obtain rfl := List.mem_singleton.mp hu
    exact hs
  | cons e es ih =>
    intro u hu
    rcases List.mem_cons.mp hu with rfl | hu
    · exact hs
    · exact ih (hstep s e hs hallowed.1) hallowed.2 u hu

theorem allowedAlong_of_forall {isValid : Edit → Prop} (h : ∀ e ∈ edits, isValid e) (s : Schema) :
    AllowedAlong (fun _ e => isValid e) s edits := by
  induction edits generalizing s with
  | nil => trivial
  | cons e es ih => exact ⟨h e (by simp), ih (fun f hf => h f (List.mem_cons_of_mem _ hf)) _⟩

/-! ### What comes in -/

/-- Does an edit bring in valid columns and sound drawings only? -/
def Edit.IsValid : Edit → Prop
  | addTable t | updateTable t => ∀ c ∈ t.columns, c.IsValid
  | importFrom imported _ => imported.IsSound
  | _ => True

/-- Does an edit bring in ids that differ from one another and from those of the drawing? -/
def Edit.BringsNewIds (s : Schema) : Edit → Prop
  | addTable t => t.id ∉ s.tables.map (·.id) ∧ (t.columns.map (·.id)).Nodup
  | updateTable t => (t.columns.map (·.id)).Nodup
  | addRelation id _ _ _ => id ∉ s.relations.map (·.id)
  | importFrom imported .replace => imported.IdsDistinct
  | importFrom imported .merge =>
    imported.IdsDistinct ∧ (∀ t ∈ imported.tables, t.id ∉ s.tables.map (·.id)) ∧
      ∀ r ∈ imported.relations, r.id ∉ s.relations.map (·.id)
  | _ => True

instance : ∀ e : Edit, Decidable e.IsValid
  | .addTable t | .updateTable t => inferInstanceAs (Decidable (∀ c ∈ t.columns, c.IsValid))
  | .importFrom imported _ => inferInstanceAs (Decidable imported.IsSound)
  | .deleteTable _ | .addRelation .. | .deleteRelation _ | .swapRelation _ |
    .updateRelationType .. | .reorderColumns .. => inferInstanceAs (Decidable True)

instance (s : Schema) : ∀ e : Edit, Decidable (e.BringsNewIds s)
  | .addTable t =>
    inferInstanceAs (Decidable (t.id ∉ s.tables.map (·.id) ∧ (t.columns.map (·.id)).Nodup))
  | .updateTable t => inferInstanceAs (Decidable (t.columns.map (·.id)).Nodup)
  | .addRelation id .. => inferInstanceAs (Decidable (id ∉ s.relations.map (·.id)))
  | .importFrom imported .replace => inferInstanceAs (Decidable imported.IdsDistinct)
  | .importFrom imported .merge =>
    inferInstanceAs (Decidable (imported.IdsDistinct ∧
      (∀ t ∈ imported.tables, t.id ∉ s.tables.map (·.id)) ∧
      ∀ r ∈ imported.relations, r.id ∉ s.relations.map (·.id)))
  | .deleteTable _ | .deleteRelation _ | .swapRelation _ | .updateRelationType .. |
    .reorderColumns .. => inferInstanceAs (Decidable True)

/-! ### One edit -/

/-- Every edit keeps a drawing sound. -/
theorem Schema.IsSound.edit (h : s.IsSound) {e : Edit} (he : e.IsValid) : (s.edit e).IsSound := by
  cases e with
  | addTable t => exact h.addTable he
  | updateTable t => exact h.updateTable he
  | deleteTable id => exact h.deleteTable id
  | addRelation id source target type => exact h.addRelation id source target type
  | deleteRelation id => exact h.deleteRelation id
  | swapRelation id =>
    exact h.mapRelation id fun r => ⟨by simp [Relation.swap], by simp [Relation.swap]⟩
  | updateRelationType id type => exact h.mapRelation id fun r => ⟨by simp, by simp⟩
  | reorderColumns tableId start finish => exact h.reorderColumns tableId start finish
  | importFrom imported mode => exact h.importFrom he mode

/-- Every edit that brings in new ids keeps them different. -/
theorem Schema.IdsDistinct.edit (h : s.IdsDistinct) {e : Edit} (he : e.BringsNewIds s) :
    (s.edit e).IdsDistinct := by
  cases e with
  | addTable t => exact h.addTable he.1 he.2
  | updateTable t => exact h.updateTable he
  | deleteTable id => exact h.deleteTable id
  | addRelation id source target type => exact h.addRelation he source target type
  | deleteRelation id => exact h.deleteRelation id
  | swapRelation id => exact h.mapRelation id fun _ => rfl
  | updateRelationType id type => exact h.mapRelation id fun _ => rfl
  | reorderColumns tableId start finish => exact h.reorderColumns tableId start finish
  | importFrom imported mode =>
    cases mode with
    | replace => exact he
    | merge =>
      -- the imported ids differ among themselves and from those that are there
      obtain ⟨himported, htables, hrelations⟩ := he
      refine h.merge himported ?_ ?_
      · intro id hs hi
        obtain ⟨t, ht, rfl⟩ := List.mem_map.mp hi
        exact htables t ht hs
      · intro id hs hi
        obtain ⟨r, hr, rfl⟩ := List.mem_map.mp hi
        exact hrelations r hr hs

/-! ### Whole runs -/

/-- A sound drawing stays sound along every run, and its ids stay different if only new ones come
in. -/
theorem isSound_of_mem_run (hs : s.IsSound) (hvalid : ∀ e ∈ edits, e.IsValid) :
    (∀ u ∈ s.run edits, u.IsSound) ∧
      (s.IdsDistinct → AllowedAlong (fun s e => e.BringsNewIds s) s edits →
        ∀ u ∈ s.run edits, u.IdsDistinct) :=
  ⟨forall_mem_run (fun _ _ h he => h.edit he) hs (allowedAlong_of_forall hvalid s),
    fun hids hnew => forall_mem_run (fun _ _ h he => h.edit he) hids hnew⟩

/-- Two tables, a relation between them and one of the first table with itself. -/
def twoTables : Schema where
  tables :=
    [⟨"t", "orders", [⟨⟨"id", "serial", true, true, true⟩, "a"⟩,
        ⟨⟨"parent", "integer", false, false, false⟩, "b"⟩], ⟨0, 0⟩⟩,
      ⟨"u", "users", [⟨⟨"id", "uuid", false, false, true⟩, "a"⟩], ⟨0, 0⟩⟩]
  relations := [⟨"r", ⟨"t", "b"⟩, ⟨"t", "a"⟩, "1:N"⟩, ⟨"s", ⟨"u", "a"⟩, ⟨"t", "a"⟩, "1:1"⟩]

/-- Every kind of edit once or more, also with ids that are not there and indices out of range. -/
def manyEdits : List Edit :=
  [.addTable
    ⟨"v", "", [⟨⟨"x", "text", false, false, false⟩, "p"⟩, ⟨⟨"x", "date", false, true, false⟩, "q"⟩],
      ⟨0, 0⟩⟩,
    .addRelation "n" ⟨"v", "q"⟩ ⟨"u", "a"⟩ "many", .addRelation "m" ⟨"v", "q"⟩ ⟨"w", "a"⟩ "1:N",
    .swapRelation "n", .updateRelationType "none" "1:1", .reorderColumns "v" 0 1,
    .reorderColumns "v" (-1) 7,
    .updateTable ⟨"t", "orders", [⟨⟨"id", "serial", true, true, true⟩, "a"⟩], ⟨0, 0⟩⟩,
    .importFrom ⟨[⟨"w", "t", [], ⟨0, 0⟩⟩], []⟩ .merge, .deleteRelation "none", .deleteTable "u",
    .importFrom twoTables .replace]

/-- The same edits on drawings with different ids, and on one in which an id comes twice. -/
theorem isSound_run_manyEdits :
    (∀ u ∈ twoTables.run manyEdits, u.IsSound ∧ u.IdsDistinct) ∧
      ∀ u ∈ (twoTables.importFrom twoTables .merge).run manyEdits, u.IsSound := by
  have htwo : twoTables.IsSound := by decide
  have hvalid : ∀ e ∈ manyEdits, e.IsValid := by decide
  obtain ⟨hsound, hids⟩ := isSound_of_mem_run htwo hvalid
  have hdistinct := hids (by decide) (by decide)
  exact ⟨fun u hu => ⟨hsound u hu, hdistinct u hu⟩,
    (isSound_of_mem_run (htwo.importFrom htwo .merge) hvalid).1⟩

end SchemaDraft
