import SchemaDraft.Document.Load
import SchemaDraft.Document.Save
import SchemaDraft.Proofs.Edit.Sound
import SchemaDraft.Proofs.Json.Limit

/-!
A drawing is read back from its document (`loadTextWithin_toText`). What is written has the form
that is checked for, each object gives the entry it was written from (`checkSchema_toJson`), and of
a drawing whose columns and relations are as they should be the entries make the same drawing again
(`load_ofSchema`). Only the coordinates change: they come back as doubles.
-/

namespace SchemaDraft

open Document

/-- Is a drawing such that a document keeps all of it, places aside? -/
structure Schema.IsStorable (s : Schema) : Prop where
  sound : s.IsSound
  tables_nodup : (s.tables.map (·.id)).Nodup
  tables_named : ∀ t ∈ s.tables, t.name ≠ ""
  columns_named : ∀ t ∈ s.tables, ∀ c ∈ t.columns, c.name ≠ ""
  cardinalities : ∀ r ∈ s.relations, r.type ∈ cardinalityNames

/-- Are both coordinates integers that are not too long for a reader? -/
def Position.IsWholeWithin (limit : Option Nat) (p : Position) : Prop :=
  p.x.IsWholeWithin limit ∧ p.y.IsWholeWithin limit

instance (limit : Option Nat) (p : Position) : Decidable (p.IsWholeWithin limit) :=
  inferInstanceAs (Decidable (p.x.IsWholeWithin limit ∧ p.y.IsWholeWithin limit))

instance (s : Schema) : Decidable s.IsStorable :=
  decidable_of_iff (s.IsSound ∧ (s.tables.map (·.id)).Nodup ∧ (∀ t ∈ s.tables, t.name ≠ "") ∧
      (∀ t ∈ s.tables, ∀ c ∈ t.columns, c.name ≠ "") ∧ ∀ r ∈ s.relations, r.type ∈ cardinalityNames)
    ⟨fun h => ⟨h.1, h.2.1, h.2.2.1, h.2.2.2.1, h.2.2.2.2⟩,
      fun h => ⟨h.sound, h.tables_nodup, h.tables_named, h.columns_named, h.cardinalities⟩⟩

/-- Is neither coordinate an integer that is too long to be written? -/
def Position.IsWritable (p : Position) : Prop :=
  Json.isWritable p.x = true ∧ Json.isWritable p.y = true

instance (p : Position) : Decidable p.IsWritable :=
  inferInstanceAs (Decidable (Json.isWritable p.x = true ∧ Json.isWritable p.y = true))

/-- A place with its coordinates as doubles. -/
def Position.toReal (p : Position) : Position := ⟨.real p.x.toReal, .real p.y.toReal⟩

/-- A drawing with all coordinates as doubles. -/
def Schema.toReal (s : Schema) : Schema :=
  { s with tables := s.tables.map fun t => { t with position := t.position.toReal } }

namespace Document

/-! ### Entries -/

/-- The entry that a column is written as. -/
def ColumnEntry.ofColumn (c : Column) : ColumnEntry :=
  ⟨some c.id, c.name, c.type, c.isPrimaryKey, c.isNotNull, c.isUnique⟩

/-- The entry that a table is written as. -/
def TableEntry.ofTable (t : Table) : TableEntry :=
  ⟨some t.id, t.name, t.columns.map ColumnEntry.ofColumn, t.position.toReal⟩

/-- The entry that a relation is written as. -/
def RelationEntry.ofRelation (r : Relation) : RelationEntry :=
  ⟨some r.id, r.source, r.target, r.type⟩

/-- The entries that a drawing is written as. -/
def Entries.ofSchema (s : Schema) : Entries :=
  ⟨s.tables.map TableEntry.ofTable, s.relations.map RelationEntry.ofRelation⟩

namespace Checked

variable {α β : Type}

@[simp]
theorem map_valid (f : α → β) (a : α) : f <$> valid a = valid (f a) := rfl

@[simp]
theorem seq_valid (f : α → β) (a : α) : valid f <*> valid a = valid (f a) := rfl

@[simp]
theorem under_valid (step : Step) (a : α) : (valid a).under step = valid a := rfl

/-- A list of objects is as it should be if each of them is. -/
theorem eachFrom_map {check : Json → Checked α} {write : β → Json} {entry : β → α} {bs : List β}
    (h : ∀ b ∈ bs, check (write b) = valid (entry b)) (i : Nat) :
    eachFrom check i (bs.map write) = valid (bs.map entry) := by
  induction bs generalizing i with
  | nil => rfl
  | cons b bs ih =>
    rw [List.map_cons, eachFrom, h b (by simp), ih fun b hb => h b (List.mem_cons_of_mem _ hb)]
    rfl

end Checked

/-! ### Checks -/

theorem single_readString (form : Form) (s : String) :
    Checked.single (readString form) (.string s) = .valid s := rfl

theorem single_readName (form : Form) {s : String} (h : s ≠ "") :
    Checked.single (readName form) (.string s) = .valid s := by
  have hname : readName form (.string s) = .ok s := if_neg h
  rw [Checked.single, hname]

theorem single_readFlag (b : Bool) : Checked.single readFlag (.bool b) = .valid b := rfl

theorem single_readCoordinate (n : Number) :
    Checked.single (readCoordinate .text) (.number n) = .valid (.real n.toReal) := rfl

theorem checkPosition_toJson (p : Position) : checkPosition .text p.toJson = .valid p.toReal := by
  simp [checkPosition, checkObject, Position.toJson, withDefault, Json.get?, Json.lastMember,
    single_readCoordinate, Position.toReal]

theorem checkColumn_toJson {c : Column} (h : c.name ≠ "") :
    checkColumn .text c.toJson = .valid (.ofColumn c) := by
  simp [checkColumn, checkObject, Column.toJson, checkId, withDefault, required, Json.get?,
    Json.lastMember, single_readString, single_readName .text h, single_readFlag,
    ColumnEntry.ofColumn]

theorem checkTable_toJson {t : Table} (hname : t.name ≠ "")
    (hcolumns : ∀ c ∈ t.columns, c.name ≠ "") :
    checkTable .text t.toJson = .valid (.ofTable t) := by
  have hlist : checkList (checkColumn .text) (.array (t.columns.map Column.toJson)) =
      .valid (t.columns.map ColumnEntry.ofColumn) :=
    Checked.eachFrom_map (fun c hc => checkColumn_toJson (hcolumns c hc)) 0
  simp [checkTable, checkObject, Table.toJson, checkId, withDefault, required, Json.get?,
    Json.lastMember, single_readString, single_readName .text hname, hlist, checkPosition_toJson,
    TableEntry.ofTable]

theorem checkRelation_toJson (r : Relation) :
    checkRelation .text r.toJson = .valid (.ofRelation r) := by
  simp [checkRelation, checkObject, Relation.toJson, checkId, withDefault, Json.get?,
    Json.lastMember, single_readString, RelationEntry.ofRelation]

theorem checkSchema_toJson {s : Schema} (htables : ∀ t ∈ s.tables, t.name ≠ "")
    (hcolumns : ∀ t ∈ s.tables, ∀ c ∈ t.columns, c.name ≠ "") :
    checkSchema .text s.toJson = .valid (.ofSchema s) := by
  have htableList : checkList (checkTable .text) (.array (s.tables.map Table.toJson)) =
      .valid (s.tables.map TableEntry.ofTable) :=
    Checked.eachFrom_map (fun t ht => checkTable_toJson (htables t ht) (hcolumns t ht)) 0
  have hrelationList : checkList (checkRelation .text) (.array (s.relations.map Relation.toJson)) =
      .valid (s.relations.map RelationEntry.ofRelation) :=
    Checked.eachFrom_map (fun r _ => checkRelation_toJson r) 0
  simp [checkSchema, checkObject, Schema.toJson, withDefault, required, Json.get?, Json.lastMember,
    htableList, hrelationList, Entries.ofSchema]

/-! ### Drawings -/

/-- Objects that keep their ids take none from the supply. -/
theorem mintAll_map {α β γ : Type} {mint : α → IdSupply → γ × IdSupply} {entry : β → α}
    {made : β → γ}
    {ids : IdSupply} {bs : List β} (h : ∀ b ∈ bs, mint (entry b) ids = (made b, ids)) :
    mintAll mint (bs.map entry) ids = (bs.map made, ids) := by
  induction bs with
  | nil => rfl
  | cons b bs ih =>
    rw [List.map_cons, mintAll, h b (by simp)]
    simp only [ih fun b hb => h b (List.mem_cons_of_mem _ hb), List.map_cons]

theorem columnTypeName_of_mem :
    ∀ type ∈ ColumnType.all.map ColumnType.name, columnTypeName type = type := by
  decide +kernel

theorem make_of_isValid {c : ColumnSpec} (h : c.IsValid) :
    ColumnSpec.make c.name c.type c.isPrimaryKey c.isNotNull c.isUnique = c := by
  obtain ⟨name, type, isPrimaryKey, isNotNull, isUnique⟩ := c
  cases isPrimaryKey with
  | false => simp [ColumnSpec.make]
  | true =>
    obtain ⟨hnotNull, hunique⟩ := h.key rfl
    simp_all [ColumnSpec.make]

theorem mint_ofColumn {c : Column} (h : c.IsValid) (ids : IdSupply) :
    (ColumnEntry.ofColumn c).mint ids = (c, ids) := by
  have htype : columnTypeName c.type = c.type := columnTypeName_of_mem c.type h.vocabulary
  simp only [ColumnEntry.mint, ColumnEntry.ofColumn, takeId, htype, make_of_isValid h]

theorem mint_ofTable {t : Table} (h : ∀ c ∈ t.columns, c.IsValid) (ids : IdSupply) :
    (TableEntry.ofTable t).mint ids = ({ t with position := t.position.toReal }, ids) := by
  have hcolumns : mintAll ColumnEntry.mint (t.columns.map ColumnEntry.ofColumn) ids =
      (t.columns, ids) := by
    rw [mintAll_map fun c hc => mint_ofColumn (h c hc) ids, List.map_id']
  simp only [TableEntry.mint, TableEntry.ofTable, takeId, hcolumns]

theorem mint_ofRelation {r : Relation} (h : r.type ∈ cardinalityNames) (ids : IdSupply) :
    (RelationEntry.ofRelation r).mint ids = (r, ids) := by
  have htype : relationType r.type = r.type := if_pos (by simpa using h)
  simp only [RelationEntry.mint, RelationEntry.ofRelation, takeId, htype]

/-- If ids tell the tables apart, an end that exists is found. -/
theorem hasEnd_of_holds {s : Schema} (h : (s.tables.map (·.id)).Nodup) {e : Endpoint}
    (he : s.Holds e) : hasEnd s.tables e = true := by
  obtain ⟨t, ht, hid, c, hc, hcid⟩ := he
  rw [hasEnd, ← hid, Export.lastTable?_of_nodup h ht]
  exact List.any_eq_true.mpr ⟨c, hc, by simp [hcid]⟩

theorem holds_toReal {s : Schema} {e : Endpoint} (h : s.Holds e) : s.toReal.Holds e := by
  obtain ⟨t, ht, hid, hcolumn⟩ := h
  exact ⟨_, List.mem_map.mpr ⟨t, ht, rfl⟩, hid, hcolumn⟩

theorem load_ofSchema {s : Schema} (h : s.IsStorable) (ids : IdSupply) :
    (Entries.ofSchema s).load ids = ⟨s.toReal, [], ids⟩ := by
  have htables : mintAll TableEntry.mint (s.tables.map TableEntry.ofTable) ids =
      (s.toReal.tables, ids) :=
    mintAll_map fun t ht => mint_ofTable (h.sound.columns_valid t ht) ids
  have hrelations : mintAll RelationEntry.mint (s.relations.map RelationEntry.ofRelation) ids =
      (s.relations, ids) := by
    rw [mintAll_map fun r hr => mint_ofRelation (h.cardinalities r hr) ids, List.map_id']
  have hids : (s.toReal.tables.map (·.id)).Nodup := by
    rw [Schema.toReal, List.map_map]
    exact h.tables_nodup
  -- every relation has both its ends, so none is left out
  have hkept : s.relations.filter (isResolvable s.toReal.tables) = s.relations := by
    refine List.filter_eq_self.mpr fun r hr => ?_
    rw [isResolvable, hasEnd_of_holds hids (holds_toReal (h.sound.source_exists r hr)),
      hasEnd_of_holds hids (holds_toReal (h.sound.target_exists r hr))]
    rfl
  simp only [Entries.load, Entries.ofSchema, htables, hrelations, hkept, Nat.sub_self]
  rfl

/-! ### Texts -/

theorem depthOfItems_le {vs : List Json} {n : Nat} (h : ∀ v ∈ vs, v.depth ≤ n) :
    Json.depthOfItems vs ≤ n := by
  induction vs with
  | nil => exact Nat.zero_le n
  | cons v vs ih =>
    exact Nat.max_le.mpr ⟨h v (by simp), ih fun w hw => h w (List.mem_cons_of_mem _ hw)⟩

/-- Members are as deep as their values. -/
theorem depthOfMembers_eq (ms : List (String × Json)) :
    Json.depthOfMembers ms = Json.depthOfItems (ms.map Prod.snd) := by
  induction ms with
  | nil => rfl
  | cons m ms ih => rw [Json.depthOfMembers, ih, List.map_cons, Json.depthOfItems]

theorem depth_array_le {vs : List Json} {n : Nat} (h : ∀ v ∈ vs, v.depth ≤ n) :
    (Json.array vs).depth ≤ n + 1 := by
  cases vs with
  | nil => exact Nat.zero_le _
  | cons v vs => exact Nat.succ_le_succ (depthOfItems_le h)

theorem depth_object_le {ms : List (String × Json)} {n : Nat} (h : ∀ m ∈ ms, m.2.depth ≤ n) :
    (Json.object ms).depth ≤ n + 1 := by
  cases ms with
  | nil => exact Nat.zero_le _
  | cons m ms =>
    have hmembers : Json.depthOfMembers (m :: ms) ≤ n :=
      (depthOfMembers_eq _).trans_le (depthOfItems_le (List.forall_mem_map.mpr h))
    exact Nat.succ_le_succ hmembers

theorem depth_toJson_le (s : Schema) : s.toJson.depth ≤ 5 := by
  have hstring : ∀ x : String, (Json.string x).depth = 0 := fun _ => rfl
  have hcolumn : ∀ c : Column, c.toJson.depth ≤ 1 := fun c => depth_object_le (by simp [Json.depth])
  have hrelation : ∀ r : Relation, r.toJson.depth ≤ 1 :=
    fun r => depth_object_le (by simp [Json.depth])
  have hposition : ∀ p : Position, p.toJson.depth ≤ 1 :=
    fun p => depth_object_le (by simp [Json.depth])
  -- columns and positions are flat objects, in a table, in a list, in the document
  have htable : ∀ t : Table, t.toJson.depth ≤ 3 := fun t => by
    have hcolumns : (Json.array (t.columns.map Column.toJson)).depth ≤ 2 :=
      depth_array_le (List.forall_mem_map.mpr fun c _ => hcolumn c)
    have hplace := (hposition t.position).trans (by decide : 1 ≤ 2)
    exact depth_object_le (by simp [hstring, hcolumns, hplace])
  have htables : (Json.array (s.tables.map Table.toJson)).depth ≤ 4 :=
    depth_array_le (List.forall_mem_map.mpr fun t _ => htable t)
  have hrelations : (Json.array (s.relations.map Relation.toJson)).depth ≤ 4 :=
    (depth_array_le (List.forall_mem_map.mpr fun r _ => hrelation r)).trans (by decide)
  exact depth_object_le (by simp [htables, hrelations])

theorem numbersOfItems_map {α : Type} (write : α → Json) (as : List α) :
    Json.numbersOfItems (as.map write) = as.flatMap fun a => (write a).numbers := by
  induction as with
  | nil => rfl
  | cons a as ih => rw [List.map_cons, Json.numbersOfItems, ih, List.flatMap_cons]

/-- The numbers in a document are the coordinates of the tables. -/
theorem numbers_toJson (s : Schema) :
    s.toJson.numbers = s.tables.flatMap fun t => [t.position.x, t.position.y] := by
  have hcolumn : ∀ c : Column, c.toJson.numbers = [] := fun _ => rfl
  have hrelation : ∀ r : Relation, r.toJson.numbers = [] := fun _ => rfl
  have htable : ∀ t : Table, t.toJson.numbers = [t.position.x, t.position.y] := by
    intro t
    simp [Table.toJson, Position.toJson, Json.numbers, Json.numbersOfMembers, numbersOfItems_map,
      hcolumn]
  simp [Schema.toJson, Json.numbers, Json.numbersOfMembers, numbersOfItems_map, hrelation, htable]

theorem forall_numbers_toJson {s : Schema} {P : Number → Prop} :
    (∀ n ∈ s.toJson.numbers, P n) ↔ ∀ t ∈ s.tables, P t.position.x ∧ P t.position.y := by
  simp only [numbers_toJson, List.forall_mem_flatMap, List.forall_mem_cons, List.not_mem_nil,
    false_implies, implies_true, and_true]

/-! ### Written and read back -/

/-- Is a drawing, once written, read back with its coordinates as doubles and nothing to note? -/
def ReadsBack (limit : Option Nat) (s : Schema) (width : Option Int) (ids : IdSupply) : Prop :=
  ∃ text, s.toText width = .ok text ∧ loadTextWithin limit text ids = .ok ⟨s.toReal, [], ids⟩

variable {limit : Option Nat}

theorem loadTextWithin_writtenText {s : Schema} (h : s.IsStorable)
    (hwhole : ∀ t ∈ s.tables, t.position.IsWholeWithin limit) (width : Option Int)
    (ids : IdSupply) :
    loadTextWithin limit (s.writtenText width) ids = .ok ⟨s.toReal, [], ids⟩ := by
  have hread : Json.readWithin limit (s.writtenText width) = some s.toJson :=
    Json.readWithin_write (Json.indentOf width) (forall_numbers_toJson.mpr hwhole)
  have hdepth : s.toJson.depth ≤ maxDepth := (depth_toJson_le s).trans (by decide)
  have htext : readText limit (s.writtenText width) = some s.toJson := by
    rw [readText, hread, Option.filter_some_pos (by simpa using hdepth)]
  rw [loadTextWithin, htext]
  simp only [load, checkSchema_toJson h.tables_named h.columns_named, load_ofSchema h]

/-- A reader that accepts the text of a drawing finds none of its coordinates too long. -/
theorem isWholeWithin_of_loadTextWithin {s : Schema}
    (hwhole : ∀ t ∈ s.tables, t.position.IsWholeWithin none) {width : Option Int} {ids : IdSupply}
    {drawn : Drawn} (h : loadTextWithin limit (s.writtenText width) ids = .ok drawn) :
    ∀ t ∈ s.tables, t.position.IsWholeWithin limit := by
  have hnumber : ∀ n : Number, n.IsWholeWithin none → Json.IsWithin limit n →
      n.IsWholeWithin limit := by
    intro n hn hwithin
    cases n with
    | int n => exact hwithin
    | real x => exact hn
  unfold loadTextWithin at h
  split at h
  · rename_i v hv
    obtain ⟨hread, _⟩ := Option.filter_eq_some_iff.mp hv
    obtain ⟨hstrict, hwithin⟩ := Json.readWithin_eq_some hread
    -- without a limit the text holds the value that was written
    have hvalue : Json.read (s.writtenText width) = some s.toJson :=
      Json.readWithin_write (Json.indentOf width) (forall_numbers_toJson.mpr hwhole)
    obtain rfl := Option.some.inj (hstrict.symm.trans hvalue)
    exact fun t ht => ⟨hnumber _ (hwhole t ht).1 (forall_numbers_toJson.mp hwithin t ht).1,
      hnumber _ (hwhole t ht).2 (forall_numbers_toJson.mp hwithin t ht).2⟩
  · exact absurd h (by simp)

theorem all_isWritable_toJson {s : Schema} :
    s.toJson.numbers.all Json.isWritable = true ↔ ∀ t ∈ s.tables, t.position.IsWritable :=
  List.all_eq_true.trans forall_numbers_toJson

theorem toText_eq_ok_iff {s : Schema} {width : Option Int} {text : String} :
    s.toText width = .ok text ↔
      (Json.fitsIndent width = true ∧ ∀ t ∈ s.tables, t.position.IsWritable) ∧
        s.writtenText width = text := by
  rw [← all_isWritable_toJson, Schema.toText, Json.dump]
  split
  · split
    · simp_all [Schema.writtenText]
    · simp_all
  · simp_all

theorem readsBack_iff {s : Schema} (h : s.IsStorable)
    (hwhole : ∀ t ∈ s.tables, t.position.IsWholeWithin none) {width : Option Int} {ids : IdSupply} :
    ReadsBack limit s width ids ↔
      Json.fitsIndent width = true ∧
        ∀ t ∈ s.tables, t.position.IsWritable ∧ t.position.IsWholeWithin limit := by
  constructor
  · rintro ⟨text, htext, hload⟩
    -- only the text that was written can be read back
    obtain ⟨⟨hfits, hwritable⟩, rfl⟩ := toText_eq_ok_iff.mp htext
    have hwithin := isWholeWithin_of_loadTextWithin hwhole hload
    exact ⟨hfits, fun t ht => ⟨hwritable t ht, hwithin t ht⟩⟩
  · rintro ⟨hfits, hall⟩
    exact ⟨_, toText_eq_ok_iff.mpr ⟨⟨hfits, fun t ht => (hall t ht).1⟩, rfl⟩,
      loadTextWithin_writtenText h (fun t ht => (hall t ht).2) width ids⟩

/-- A drawing whose names and ids need escapes of every kind. -/
def strange : Schema where
  tables :=
    [⟨"", "\"\\/", [⟨⟨"\x00\x1f\t\n\r\x08\x0c", "double precision", true, true, true⟩, "é€"⟩],
      ⟨.int (-(10 ^ 400)), 0⟩⟩,
     ⟨"😀", "a\x7f", [⟨⟨"\uffff𐀀", "varchar", false, false, true⟩, ""⟩],
       ⟨.int (2 ^ 53 + 1), .int (-1)⟩⟩]
  relations := [⟨"", ⟨"😀", ""⟩, ⟨"", "é€"⟩, "1:1"⟩]

/-- A drawing of a single table, that far to the right. -/
def farAway (x : Int) : Schema where
  tables := [⟨"t", "t", [], ⟨.int x, 0⟩⟩]
  relations := []

end Document

end SchemaDraft
