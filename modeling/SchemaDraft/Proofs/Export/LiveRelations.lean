import SchemaDraft.Console.Command
import SchemaDraft.Proofs.Catalogue.UniqueKeys
import SchemaDraft.Proofs.Document.ReadBack
import SchemaDraft.Proofs.Export.DrawnRelations
import SchemaDraft.Proofs.Export.Delimited

/-!
Which relations are live. The loader keeps a relation whose ends it finds, the exporter writes one
whose ends it finds, and a summary names the table that one refers to: each looks in its own way,
and all three find the same ends (`isResolvable_iff`, `targetName?_of_relationKey`), also where ids
repeat. What documents and scripts give holds live relations only, and so does what comes of
importing one into another (`isFollowed_of_isProduced`) and what a database gives
(`Catalogue.isFollowed_draw`).
-/

namespace SchemaDraft

/-- Would the loader keep all relations of a drawing? -/
def Schema.IsResolvable (s : Schema) : Prop :=
  ∀ r ∈ s.relations, Document.isResolvable s.tables r = true

variable {tables tables' : List Table} {s s' : Schema} {r : Relation} {ids : IdSupply}

/-! ### Where the loader, the exporter and the summary look -/

theorem hasEnd_iff {e : Endpoint} : Document.hasEnd tables e = true ↔
    ∃ t c, lastTable? tables e.tableId = some t ∧ t.column? e.columnId = some c := by
  unfold Document.hasEnd Table.column?
  constructor
  · intro h
    split at h
    · rename_i t ht
      -- the exporter takes the first column with the id
      obtain ⟨c, hc, hid⟩ := List.any_eq_true.mp h
      have hfound : (t.columns.find? (·.id = e.columnId)).isSome :=
        List.find?_isSome.mpr ⟨c, hc, by simpa using hid⟩
      obtain ⟨d, hd⟩ := Option.isSome_iff_exists.mp hfound
      exact ⟨t, d, ht, hd⟩
    · exact absurd h (by simp)
  · rintro ⟨t, c, ht, hc⟩
    rw [ht]
    exact List.any_eq_true.mpr ⟨c, List.mem_of_find?_eq_some hc, by simpa using List.find?_some hc⟩

/-- The loader keeps the relations that the exporter writes. -/
theorem isResolvable_iff :
    Document.isResolvable tables r = true ↔ ∃ k, Export.relationKey tables r = .ok k := by
  rw [Document.isResolvable, Bool.and_eq_true, hasEnd_iff, hasEnd_iff]
  constructor
  · rintro ⟨⟨t, c, ht, hc⟩, u, d, hu, hd⟩
    exact ⟨_, Export.relationKey_eq_ok_iff.mpr ⟨t, u, c, d, ht, hu, hc, hd, rfl⟩⟩
  · rintro ⟨k, hk⟩
    obtain ⟨t, u, c, d, ht, hu, hc, hd, _⟩ := Export.relationKey_eq_ok_iff.mp hk
    exact ⟨⟨t, c, ht, hc⟩, u, d, hu, hd⟩

/-- A summary names the table that the exporter writes. -/
theorem targetName?_of_relationKey {k : ForeignKey} (h : Export.relationKey s.tables r = .ok k) :
    Console.targetName? s r = some k.toTable := by
  obtain ⟨_, u, _, _, _, hu, _, _, rfl⟩ := Export.relationKey_eq_ok_iff.mp h
  rw [Console.targetName?, hu]
  rfl

/-! ### What follows the relations of a drawing -/

/-- Is this the statement of a relation, a key with the names at its ends? -/
def IsStatementOf (tables : List Table) (r : Relation) (statement : List Char) : Prop :=
  ∃ k name, Export.relationKey tables r = .ok k ∧ statement = Export.keyStatement k name

/-- Is this read as the statement of a relation: does it add a key with the names at its ends? -/
def IsReadingOf (tables : List Table) (r : Relation) (statement : List Export.Lexeme) : Prop :=
  ∃ k name, Export.relationKey tables r = .ok k ∧
    Export.Follows (Export.keyOutline k name) statement

namespace Export

/-- Some statements as a block, one to a line; no block if there are none. -/
def lineBlock (statements : List (List Char)) : List (List Char) :=
  if statements = [] then [] else [['\n'].intercalate statements]

/-- Some blocks as a script, with an empty line between them; no text if there are none. -/
def blockText (blocks : List (List Char)) : List Char :=
  if blocks = [] then [] else "\n\n".toList.intercalate blocks ++ ['\n']

theorem keyBlock_eq (s : Schema) :
    keyBlock s = lineBlock ((namedKeys s).map fun p => keyStatement p.1 p.2) := by
  unfold keyBlock lineBlock namedKeys
  split
  · rename_i h
    rw [if_pos h]
  · rename_i h
    rw [if_neg h]

theorem script_eq (s : Schema) : script s =
    blockText (s.tables.map (fun t => tableStatement t.spec) ++
      lineBlock ((namedKeys s).map fun p => keyStatement p.1 p.2)) := by
  rw [← keyBlock_eq]
  unfold script blockText
  split
  · rename_i h
    rw [if_pos h]
  · rename_i h
    rw [if_neg h]

end Export

/-- Does everything that reads a drawing follow all of its relations? No notice says that the
exporter left one out. The script that it writes is made of the statements of the tables and of one
statement for each relation, in order, and these are the statements that add keys where the script
is read. A summary finds the name of the table that each relation refers to, the same that the
exporter writes. -/
structure Schema.IsFollowed (s : Schema) : Prop where
  no_notices : Export.exportNotices s = []
  written : ∃ statements, List.Forall₂ (IsStatementOf s.tables) s.relations statements ∧
    Export.script s = Export.blockText
      (s.tables.map (fun t => Export.tableStatement t.spec) ++ Export.lineBlock statements)
  read : ∃ ls, Export.lexemes (Export.script s) = some ls ∧
    List.Forall₂ (IsReadingOf s.tables) s.relations (Export.additions ls)
  named : ∀ r ∈ s.relations, ∃ k, Export.relationKey s.tables r = .ok k ∧
    Console.targetName? s r = some k.toTable

/-- Relations that all have a key give just these keys, in order. -/
theorem forall₂_relationKeys {relations : List Relation}
    (h : ∀ r ∈ relations, ∃ k, Export.relationKey tables r = .ok k) :
    List.Forall₂ (fun r k => Export.relationKey tables r = .ok k) relations
      (relations.filterMap fun r => (Export.relationKey tables r).toOption) := by
  induction relations with
  | nil => exact .nil
  | cons r relations ih =>
    obtain ⟨k, hk⟩ := h r (by simp)
    rw [List.filterMap_cons_some (f := fun r => (Export.relationKey tables r).toOption)
      (toOption_eq_some_iff.mpr hk)]
    exact .cons hk (ih fun r hr => h r (List.mem_cons_of_mem _ hr))

theorem forall₂_trans {α β γ : Type} {R : α → β → Prop} {S : β → γ → Prop} {T : α → γ → Prop}
    (h : ∀ a b c, R a b → S b c → T a c) {as : List α} {bs : List β} {cs : List γ}
    (hab : List.Forall₂ R as bs) (hbc : List.Forall₂ S bs cs) : List.Forall₂ T as cs := by
  induction hab generalizing cs with
  | nil =>
    rw [List.forall₂_nil_left_iff.mp hbc]
    exact .nil
  | cons hfirst _ ih =>
    obtain ⟨c, cs, hnext, hmore, rfl⟩ := List.forall₂_cons_left_iff.mp hbc
    exact .cons (h _ _ _ hfirst hnext) (ih hmore)

/-- Are the types of all columns of a drawing words of the vocabulary? -/
def Schema.HasKnownTypes (s : Schema) : Prop := ∀ t ∈ s.tables, Export.HasKnownTypes t.spec.columns

/-- The named keys of a drawing are those of its relations, if all of them are live. -/
theorem Schema.IsResolvable.forall₂_namedKeys (h : s.IsResolvable) :
    List.Forall₂ (fun r p => Export.relationKey s.tables r = .ok p.1) s.relations
      (Export.namedKeys s) := by
  have hkeys := forall₂_relationKeys fun r hr => isResolvable_iff.mp (h r hr)
  have hnamed : Export.relationKeys s = (Export.namedKeys s).map Prod.fst :=
    (Export.map_fst_nameKeysFrom [] _).symm
  rwa [← Export.relationKeys, hnamed, List.forall₂_map_right_iff] at hkeys

theorem Schema.IsResolvable.isFollowed (h : s.IsResolvable) (htypes : s.HasKnownTypes) :
    s.IsFollowed where
  no_notices := by
    refine List.filterMap_eq_nil_iff.mpr fun r hr => ?_
    obtain ⟨k, hk⟩ := isResolvable_iff.mp (h r hr)
    rw [hk]
    rfl
  written := by
    refine ⟨_, List.forall₂_map_right_iff.mpr (h.forall₂_namedKeys.imp fun r p hp => ?_),
      Export.script_eq s⟩
    exact ⟨p.1, p.2, hp, rfl⟩
  read := by
    obtain ⟨ls, hls, hadded⟩ := Export.exists_additions_script htypes
    refine ⟨ls, hls, ?_⟩
    exact forall₂_trans (fun r p statement hkey hfollows => ⟨p.1, p.2, hkey, hfollows⟩)
      h.forall₂_namedKeys hadded
  named := by
    intro r hr
    obtain ⟨k, hk⟩ := isResolvable_iff.mp (h r hr)
    exact ⟨k, hk, targetName?_of_relationKey hk⟩

/-! ### What documents, scripts and databases give -/

theorem Document.isResolvable_load (entries : Entries) (ids : IdSupply) :
    (entries.load ids).schema.IsResolvable :=
  fun _ hr => (List.mem_filter.mp hr).2

theorem Document.isResolvable_of_load {form : Form} {v : Json} {drawn : Drawn}
    (h : load form v ids = .ok drawn) : drawn.schema.IsResolvable := by
  unfold load at h
  split at h
  · rename_i entries _
    obtain rfl := Except.ok.inj h
    exact isResolvable_load entries ids
  · exact absurd h (by simp)

theorem Document.isResolvable_of_loadTextWithin {limit : Option Nat} {text : String} {drawn : Drawn}
    (h : loadTextWithin limit text ids = .ok drawn) : drawn.schema.IsResolvable := by
  unfold loadTextWithin at h
  split at h
  · exact isResolvable_of_load h
  · exact absurd h (by simp)

/-- Types become words of the vocabulary. -/
theorem Document.hasKnownTypes_load (entries : Entries) (ids : IdSupply) :
    (entries.load ids).schema.HasKnownTypes := by
  have hcolumns : ∀ (entries : List ColumnEntry) (ids : IdSupply),
      ∀ c ∈ (mintAll ColumnEntry.mint entries ids).1, c.type ∈ ColumnType.all.map ColumnType.name :=
    forall_mem_mintAll fun _ _ => ColumnType.name_mem _
  refine forall_mem_mintAll (fun t s => ?_) entries.tables ids
  intro c hc
  obtain ⟨d, hd, rfl⟩ := List.mem_map.mp hc
  exact hcolumns t.columns _ d hd

theorem Document.hasKnownTypes_of_load {form : Form} {v : Json} {drawn : Drawn}
    (h : load form v ids = .ok drawn) : drawn.schema.HasKnownTypes := by
  unfold load at h
  split at h
  · rename_i entries _
    obtain rfl := Except.ok.inj h
    exact hasKnownTypes_load entries ids
  · exact absurd h (by simp)

theorem Document.hasKnownTypes_of_loadTextWithin {limit : Option Nat} {text : String}
    {drawn : Drawn}
    (h : loadTextWithin limit text ids = .ok drawn) : drawn.schema.HasKnownTypes := by
  unfold loadTextWithin at h
  split at h
  · exact hasKnownTypes_of_load h
  · exact absurd h (by simp)

theorem Script.Contents.hasKnownTypes_draw {contents : Contents}
    (h : ∀ t ∈ contents.tables, Export.HasKnownTypes t.columns) (ids : IdSupply) :
    (contents.draw ids).schema.HasKnownTypes := by
  intro t ht
  rw [← Export.specs_draw contents ids] at h
  exact h t.spec (List.mem_map.mpr ⟨t, ht, rfl⟩)

theorem Script.hasKnownTypes_draw (script : String) (ids : IdSupply) :
    (draw script ids).schema.HasKnownTypes :=
  Contents.hasKnownTypes_draw
    (fun _ ht c hc => ((isDraft_of_mem_ofScript ht).columns_valid c hc).vocabulary) ids

/-- The relations of a drawing come from foreign keys whose ends were found. -/
theorem Script.Contents.isResolvable_draw (contents : Contents)
    (hids : Function.Injective ids.label) : (contents.draw ids).schema.IsResolvable := by
  intro r hr
  have hdiffer := Export.idsDiffer_draw contents hids
  obtain ⟨k, _, l, hresolve, hsource, htarget, _⟩ := exists_link_of_mem_draw contents hr
  obtain ⟨hholds, hholds'⟩ := holds_of_resolve hresolve
  rw [Document.isResolvable, hsource, htarget]
  exact Bool.and_eq_true_iff.mpr ⟨Document.hasEnd_of_holds hdiffer.tables_nodup hholds,
    Document.hasEnd_of_holds hdiffer.tables_nodup hholds'⟩

theorem Catalogue.hasKnownTypes_spec (t : ListedTable) : Export.HasKnownTypes t.spec.columns := by
  intro c hc
  obtain ⟨entry, _, hentry⟩ := List.mem_map.mp hc
  have htype : c.type = (typeFamily entry.type).columnType.name := by
    rw [← hentry, ListedTable.columnSpec, ColumnSpec.make]
  rw [htype]
  exact ColumnType.name_mem _

/-- What reads the drawing of a database follows all of its relations. -/
theorem Catalogue.isFollowed_draw {l : Listing} {drawn : Drawn} (h : l.draw ids = .ok drawn)
    (hids : Function.Injective ids.label) : drawn.schema.IsFollowed := by
  obtain ⟨contents, htables, rfl⟩ := exists_contents_of_draw h
  refine (contents.isResolvable_draw hids).isFollowed (Script.Contents.hasKnownTypes_draw ?_ ids)
  rw [htables]
  exact List.forall_mem_map.mpr fun t _ => hasKnownTypes_spec t

/-! ### Imports -/

theorem lastTable?_append (tables tables' : List Table) (id : String) :
    lastTable? (tables ++ tables') id = (lastTable? tables' id).or (lastTable? tables id) := by
  rw [lastTable?, List.reverse_append, List.find?_append]
  rfl

theorem lastTable?_shift (tables : List Table) (dx : Number) (id : String) :
    lastTable? (Canvas.shift tables dx) id = (lastTable? tables id).map (Canvas.shiftTable dx) := by
  rw [lastTable?, Canvas.shift, ← List.map_reverse, List.find?_map]
  rfl

/-- The ends in tables that come in are found, before all others. -/
theorem hasEnd_append_shift_right {dx : Number} {e : Endpoint}
    (h : Document.hasEnd tables' e = true) :
    Document.hasEnd (tables ++ Canvas.shift tables' dx) e = true := by
  obtain ⟨t, c, ht, hc⟩ := hasEnd_iff.mp h
  refine hasEnd_iff.mpr ⟨Canvas.shiftTable dx t, c, ?_, hc⟩
  rw [lastTable?_append, lastTable?_shift, ht]
  rfl

/-- The ends in the tables that are there are found as before if the others have new ids. -/
theorem hasEnd_append_shift_left {dx : Number} {e : Endpoint} (h : Document.hasEnd tables e = true)
    (hnew : ∀ t ∈ tables', t.id ∉ tables.map (·.id)) :
    Document.hasEnd (tables ++ Canvas.shift tables' dx) e = true := by
  obtain ⟨t, c, ht, hc⟩ := hasEnd_iff.mp h
  refine hasEnd_iff.mpr ⟨t, c, ?_, hc⟩
  have hid : t.id = e.tableId := by simpa using List.find?_some ht
  have hmem : t ∈ tables := List.mem_reverse.mp (List.mem_of_find?_eq_some ht)
  -- no imported table has the id, so the last table with it is still the same
  have hnone : lastTable? tables' e.tableId = none := by
    refine List.find?_eq_none.mpr fun u hu => ?_
    have hother : u.id ≠ e.tableId := by
      intro hsame
      exact hnew u (List.mem_reverse.mp hu) (List.mem_map.mpr ⟨t, hmem, hid.trans hsame.symm⟩)
    simpa using hother
  rw [lastTable?_append, lastTable?_shift, hnone, ht]
  rfl

theorem Schema.IsResolvable.merge (h : s.IsResolvable) (h' : s'.IsResolvable)
    (hnew : ∀ t ∈ s'.tables, t.id ∉ s.tables.map (·.id)) :
    (s.importFrom s' .merge).IsResolvable := by
  intro r hr
  rcases List.mem_append.mp hr with hr | hr
  · obtain ⟨hsource, htarget⟩ := Bool.and_eq_true_iff.mp (h r hr)
    exact Bool.and_eq_true_iff.mpr
      ⟨hasEnd_append_shift_left hsource hnew, hasEnd_append_shift_left htarget hnew⟩
  · obtain ⟨hsource, htarget⟩ := Bool.and_eq_true_iff.mp (h' r hr)
    exact Bool.and_eq_true_iff.mpr
      ⟨hasEnd_append_shift_right hsource, hasEnd_append_shift_right htarget⟩

theorem Schema.HasKnownTypes.importFrom (h : s.HasKnownTypes) (h' : s'.HasKnownTypes)
    (mode : ImportMode) : (s.importFrom s' mode).HasKnownTypes := by
  cases mode with
  | replace => exact h'
  | merge => exact List.forall_mem_append.mpr ⟨h, List.forall_mem_map.mpr h'⟩

/-- The drawings of accepted documents and of scripts, and what imports make of them. Documents may
say the same id twice; scripts take their ids from a supply that gives none twice, and a merge
brings in tables under new ids. -/
inductive IsProduced : Schema → Prop where
  | value {form : Document.Form} {v : Json} {ids : IdSupply} {drawn : Drawn}
    (h : Document.load form v ids = .ok drawn) : IsProduced drawn.schema
  | text {limit : Option Nat} {text : String} {ids : IdSupply} {drawn : Drawn}
    (h : Document.loadTextWithin limit text ids = .ok drawn) : IsProduced drawn.schema
  | script (script : String) {ids : IdSupply} (hids : Function.Injective ids.label) :
    IsProduced (Script.draw script ids).schema
  | imported {s s' : Schema} (h : IsProduced s) (h' : IsProduced s') (mode : ImportMode)
    (hnew : mode = .merge → ∀ t ∈ s'.tables, t.id ∉ s.tables.map (·.id)) :
    IsProduced (s.importFrom s' mode)

theorem IsProduced.isResolvable (h : IsProduced s) : s.IsResolvable := by
  induction h with
  | value h => exact Document.isResolvable_of_load h
  | text h => exact Document.isResolvable_of_loadTextWithin h
  | script script hids => exact (Script.Contents.ofScript script.toList).isResolvable_draw hids
  | imported _ _ mode hnew ih ih' =>
    cases mode with
    | replace => exact ih'
    | merge => exact ih.merge ih' (hnew rfl)

theorem IsProduced.hasKnownTypes (h : IsProduced s) : s.HasKnownTypes := by
  induction h with
  | value h => exact Document.hasKnownTypes_of_load h
  | text h => exact Document.hasKnownTypes_of_loadTextWithin h
  | script script _ => exact Script.hasKnownTypes_draw script _
  | imported _ _ mode _ ih ih' => exact ih.importFrom ih' mode

/-- What reads a drawing that documents and scripts gave follows all of its relations. -/
theorem isFollowed_of_isProduced (h : IsProduced s) : s.IsFollowed :=
  h.isResolvable.isFollowed h.hasKnownTypes

/-- A document in which a table id and a column id come twice, with relations to the first and to
the last of each. -/
def repeatedIds : Json :=
  let column (id name : String) := Json.object [("id", .string id), ("name", .string name)]
  let relation (fromTable fromColumn toTable toColumn : String) := Json.object
    [("id", .string "r"), ("fromTableId", .string fromTable), ("fromColumnId", .string fromColumn),
      ("toTableId", .string toTable), ("toColumnId", .string toColumn)]
  .object
    [("tables", .array
      [.object [("id", .string "t"), ("name", .string "old"), ("columns", .array [column "a" "a"])],
        .object [("id", .string "t"), ("name", .string "new"),
          ("columns", .array [column "b" "first", column "b" "last"])],
        .object [("id", .string "u"), ("name", .string "users"),
          ("columns", .array [column "a" "id"])]]),
      ("relations",
        .array [relation "u" "a" "t" "a", relation "u" "a" "t" "b", relation "t" "b" "u" "a"])]

/-- That document loaded, with two of its relations left, and a script with a third merged into it.
-/
theorem isFollowed_repeatedIds :
    let script := "create table a (x int references b (y)); create table b (y int)"
    let imported := (Script.draw script IdSupply.tally).schema
    ∃ drawn, Document.load .value repeatedIds IdSupply.tally = .ok drawn ∧
      drawn.schema.relations.length = 2 ∧ drawn.schema.IsFollowed ∧ imported.IsFollowed ∧
      (drawn.schema.importFrom imported .merge).relations.length = 3 ∧
      (drawn.schema.importFrom imported .merge).IsFollowed := by
  intro script imported
  refine ⟨_, rfl, ?_⟩
  have hloaded := IsProduced.value (rfl : Document.load .value repeatedIds IdSupply.tally = .ok _)
  have himported : IsProduced imported := .script script IdSupply.injective_tally
  have hmerged := hloaded.imported himported .merge fun _ => by decide +kernel
  exact ⟨by decide +kernel, isFollowed_of_isProduced hloaded, isFollowed_of_isProduced himported,
    by decide +kernel, isFollowed_of_isProduced hmerged⟩

end SchemaDraft
