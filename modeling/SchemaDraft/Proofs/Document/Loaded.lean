import Mathlib.Data.List.Forall2
import SchemaDraft.Document.Load
import SchemaDraft.Proofs.Document.ReadBack

/-!
What a document is loaded as, said of the document alone (`load_eq_ok_iff_isLoaded`). The loader
checks a document first and takes ids after that, so `IsLoaded` follows the ids of the supply from
object to object (`Threaded`), and for each kind of object it is shown that to have passed the check
and taken an id is to be the object of the document (`isColumnOf_iff`, `isTableOf_iff`,
`isRelationOf_iff`).
-/

namespace SchemaDraft.Document

variable {α β : Type} {form : Form} {v : Json} {name : String} {ids rest : IdSupply}

/-! ### What a document says -/

/-- Is a value an object? -/
def IsObject (v : Json) : Prop := ∃ members, v = .object members

/-- Does a value read as this? -/
def ReadsAs (read : Json → Except Cause α) (v : Json) (a : α) : Prop := read v = .ok a

/-- Does a field of an object say this? What is there decides; if nothing is there, it says the
default. -/
def Says (object : Json) (name : String) (default : α) (reads : Json → α → Prop) (a : α) : Prop :=
  match object.get? name with
  | some w => reads w a
  | none => a = default

/-- Is this the id of an object? It is the one that is given, or else the next of the supply. -/
def TakesId (form : Form) (object : Json) (ids : IdSupply) (id : String) (rest : IdSupply) : Prop :=
  match object.get? "id" with
  | some w => readString form w = .ok id ∧ rest = ids
  | none => id = ids.fresh ∧ rest = ids.advance

/-- Are these the objects of a list, one by one, each with its ids taken after those before it? -/
inductive Threaded (R : α → IdSupply → β → IdSupply → Prop) :
    List α → IdSupply → List β → IdSupply → Prop where
  | nil (ids : IdSupply) : Threaded R [] ids [] ids
  | cons {a : α} {as : List α} {b : β} {bs : List β} {ids rest rest' : IdSupply}
    (h : R a ids b rest)
    (hmore : Threaded R as rest bs rest') : Threaded R (a :: as) ids (b :: bs) rest'

/-- Is this the column of a column document? -/
structure IsColumnOf (form : Form) (v : Json) (ids : IdSupply) (c : Column) (rest : IdSupply) :
    Prop where
  object : IsObject v
  id : TakesId form v ids c.id rest
  name : ∃ w, v.get? "name" = some w ∧ readString form w = .ok c.name
  named : c.name ≠ ""
  type : ∃ type, Says v "type" "text" (ReadsAs (readString form)) type ∧
    c.type = columnTypeName type
  primaryKey : Says v "isPrimaryKey" false (ReadsAs readFlag) c.isPrimaryKey
  notNull : ∃ flag, Says v "isNotNull" false (ReadsAs readFlag) flag ∧
    c.isNotNull = (flag || c.isPrimaryKey)
  unique : ∃ flag, Says v "isUnique" false (ReadsAs readFlag) flag ∧
    c.isUnique = (flag || c.isPrimaryKey)
  valid : c.IsValid

/-- Is this the place that a position document says? A coordinate that is absent is the integer
zero. -/
structure IsPositionOf (form : Form) (v : Json) (p : Position) : Prop where
  object : IsObject v
  x : Says v "x" 0 (ReadsAs (readCoordinate form)) p.x
  y : Says v "y" 0 (ReadsAs (readCoordinate form)) p.y

/-- Is this the table of a table document? -/
structure IsTableOf (form : Form) (v : Json) (ids : IdSupply) (t : Table) (rest : IdSupply) :
    Prop where
  object : IsObject v
  name : ∃ w, v.get? "name" = some w ∧ readString form w = .ok t.name
  named : t.name ≠ ""
  columns : ∃ items middle, Says v "columns" [] (fun w items => w = .array items) items ∧
    TakesId form v ids t.id middle ∧ Threaded (IsColumnOf form) items middle t.columns rest
  position : Says v "position" ⟨0, 0⟩ (IsPositionOf form) t.position

/-- Is this the relation of a relation document, whether its ends exist or not? -/
structure IsRelationOf (form : Form) (v : Json) (ids : IdSupply) (r : Relation) (rest : IdSupply) :
    Prop where
  object : IsObject v
  id : TakesId form v ids r.id rest
  fromTable : Says v "fromTableId" "" (ReadsAs (readString form)) r.source.tableId
  fromColumn : Says v "fromColumnId" "" (ReadsAs (readString form)) r.source.columnId
  toTable : Says v "toTableId" "" (ReadsAs (readString form)) r.target.tableId
  toColumn : Says v "toColumnId" "" (ReadsAs (readString form)) r.target.columnId
  type : ∃ type, Says v "type" "1:N" (ReadsAs (readString form)) type ∧
    r.type = if type ∈ ["1:1", "1:N"] then type else "1:N"

/-- Is there a column at this end, among those of the last table with its id? -/
def EndsInLast (tables : List Table) (e : Endpoint) : Prop :=
  ∃ before t after, tables = before ++ t :: after ∧ t.id = e.tableId ∧
    (∀ u ∈ after, u.id ≠ e.tableId) ∧ ∃ c ∈ t.columns, c.id = e.columnId

/-! ### Checks that succeed -/

namespace Checked

theorem exists_map_iff {f : α → β} {x : Checked α} {p : β → Prop} :
    (∃ b, f <$> x = valid b ∧ p b) ↔ ∃ a, x = valid a ∧ p (f a) := by
  cases x with
  | valid a => simp
  | faulty faults =>
    have hmap : f <$> faulty faults = faulty faults := rfl
    simp [hmap]

/-- A check of two parts passes if both do, one after the other. -/
theorem exists_seq_iff {x : Checked (α → β)} {y : Checked α} {p : β → Prop} :
    (∃ b, x <*> y = valid b ∧ p b) ↔ ∃ f, x = valid f ∧ ∃ a, y = valid a ∧ p (f a) := by
  have hseq : x <*> y = both x y := rfl
  rw [hseq]
  cases x <;> cases y <;> simp [both]

theorem under_eq_valid_iff {step : Step} {x : Checked α} {a : α} :
    x.under step = valid a ↔ x = valid a := by
  cases x <;> simp [under]

theorem single_eq_valid_iff {read : Json → Except Cause α} {a : α} :
    single read v = valid a ↔ ReadsAs read v a := by
  unfold single ReadsAs
  cases read v <;> simp [fault]

/-- A list passes if its items do, one by one. -/
theorem eachFrom_eq_valid_iff {check : Json → Checked α} {i : Nat} {vs : List Json} {as : List α} :
    eachFrom check i vs = valid as ↔ List.Forall₂ (fun w a => check w = valid a) vs as := by
  -- on the items, whose numbers only matter in the paths of faults
  induction vs generalizing i as with
  | nil => cases as <;> simp [eachFrom]
  | cons v vs ih =>
    have hparts :=
      exists_seq_iff (x := List.cons <$> (check v).under (.index i))
        (y := eachFrom check (i + 1) vs)
      (p := (· = as))
    rw [exists_eq_right, exists_map_iff] at hparts
    simp only [under_eq_valid_iff, ih] at hparts
    rw [eachFrom, hparts, List.forall₂_cons_left_iff]
    constructor
    · rintro ⟨a, ha, as, has, rfl⟩
      exact ⟨a, as, ha, has, rfl⟩
    · rintro ⟨a, as, ha, has, rfl⟩
      exact ⟨a, ha, as, has, rfl⟩

end Checked

open Checked

theorem withDefault_eq_valid_iff {default a : α} {check : Json → Checked α} :
    withDefault v name default check = valid a ↔
      Says v name default (fun w a => check w = valid a) a := by
  unfold withDefault Says
  cases v.get? name with
  | none => simp [eq_comm]
  | some w => exact under_eq_valid_iff

theorem required_eq_valid_iff {check : Json → Checked α} {a : α} :
    required v name check = valid a ↔ ∃ w, v.get? name = some w ∧ check w = valid a := by
  unfold required
  cases v.get? name with
  | none => simp [under, fault]
  | some w => simp [under_eq_valid_iff]

theorem exists_checkObject_iff {part : Part} {check : Json → Checked α} {p : α → Prop} :
    (∃ a, checkObject part check v = valid a ∧ p a) ↔
      IsObject v ∧ ∃ a, check v = valid a ∧ p a := by
  unfold checkObject IsObject
  cases v <;> simp [fault]

theorem checkList_eq_valid_iff {check : Json → Checked α} {as : List α} :
    checkList check v = valid as ↔
      ∃ items, v = .array items ∧ List.Forall₂ (fun w a => check w = valid a) items as := by
  unfold checkList
  cases v <;> simp [fault, eachFrom_eq_valid_iff]

theorem readName_eq_ok_iff {s : String} :
    readName form v = .ok s ↔ readString form v = .ok s ∧ s ≠ "" := by
  unfold readName
  cases readString form v with
  | error cause => simp [bind, Except.bind]
  | ok t =>
    simp only [bind, Except.bind, Except.ok.injEq]
    split
    · rename_i ht
      simp [ht, eq_comm]
    · rename_i ht
      exact ⟨fun h => ⟨Except.ok.inj h, Except.ok.inj h ▸ ht⟩, fun h => congrArg _ h.1⟩

/-! ### Objects -/

/-- Objects are read one by one and each takes its ids after those before it, if the list is read
first and then all ids are taken. -/
theorem threaded_iff {γ : Type} {R : Json → IdSupply → β → IdSupply → Prop}
    {check : Json → Checked γ} {mint : γ → IdSupply → β × IdSupply}
    (hR : ∀ w ids b rest, R w ids b rest ↔ ∃ e, check w = .valid e ∧ mint e ids = (b, rest))
    {vs : List Json} {bs : List β} : Threaded R vs ids bs rest ↔
      ∃ es, List.Forall₂ (fun w e => check w = .valid e) vs es ∧
        mintAll mint es ids = (bs, rest) := by
  constructor
  · intro h
    -- the ids that one object leaves are those that the next one takes from
    induction h with
    | nil ids => exact ⟨[], .nil, rfl⟩
    | cons h _ ih =>
      obtain ⟨e, he, hmint⟩ := (hR _ _ _ _).mp h
      obtain ⟨es, hes, hmints⟩ := ih
      refine ⟨e :: es, .cons he hes, ?_⟩
      rw [mintAll_cons, hmint, hmints]
  · rintro ⟨es, hes, hmints⟩
    induction hes generalizing ids bs with
    | nil =>
      obtain ⟨rfl, rfl⟩ := Prod.mk.inj hmints
      exact .nil ids
    | cons he _ ih =>
      rw [mintAll_cons] at hmints
      obtain ⟨rfl, rfl⟩ := Prod.mk.inj hmints
      exact .cons ((hR _ _ _ _).mpr ⟨_, he, rfl⟩) (ih rfl)

/-- A list field that may be absent passes if its items do. -/
theorem says_checkList_iff {check : Json → Checked α} {as : List α} :
    Says v name [] (fun w as => checkList check w = .valid as) as ↔
      ∃ items, Says v name [] (fun w items => w = .array items) items ∧
        List.Forall₂ (fun w a => check w = .valid a) items as := by
  unfold Says
  cases v.get? name with
  | none => simp
  | some w => exact checkList_eq_valid_iff

theorem takesId_iff {id : String} :
    TakesId form v ids id rest ↔ ∃ given, checkId form v = .valid given ∧
      takeId given ids = (id, rest) := by
  unfold checkId TakesId withDefault
  cases v.get? "id" with
  | none =>
    constructor
    · rintro ⟨rfl, rfl⟩
      exact ⟨none, rfl, rfl⟩
    · rintro ⟨given, hgiven, htake⟩
      obtain rfl : none = given := by simpa using hgiven
      exact ⟨(Prod.mk.inj htake).1.symm, (Prod.mk.inj htake).2.symm⟩
  | some w =>
    simp only [under_eq_valid_iff, exists_map_iff, single_eq_valid_iff, ReadsAs]
    constructor
    · rintro ⟨hread, rfl⟩
      exact ⟨id, hread, rfl⟩
    · rintro ⟨given, hread, htake⟩
      obtain ⟨rfl, rfl⟩ := Prod.mk.inj htake
      exact ⟨hread, rfl⟩

theorem isColumnOf_iff {c : Column} :
    IsColumnOf form v ids c rest ↔ ∃ e, checkColumn form v = .valid e ∧ e.mint ids = (c, rest) := by
  simp only [checkColumn, exists_checkObject_iff, exists_seq_iff, exists_map_iff,
    required_eq_valid_iff, withDefault_eq_valid_iff, single_eq_valid_iff]
  constructor
  · intro h
    obtain ⟨given, hgiven, htake⟩ := takesId_iff.mp h.id
    obtain ⟨w, hw, hname⟩ := h.name
    obtain ⟨type, htype, htypeName⟩ := h.type
    obtain ⟨notNull, hnotNull, hnotNullEq⟩ := h.notNull
    obtain ⟨unique, hunique, huniqueEq⟩ := h.unique
    refine ⟨h.object, given, hgiven, c.name, ⟨w, hw, readName_eq_ok_iff.mpr ⟨hname, h.named⟩⟩,
      type, htype, c.isPrimaryKey, h.primaryKey, notNull, hnotNull, unique, hunique, ?_⟩
    simp only [ColumnEntry.mint, htake, ColumnSpec.make, ← htypeName, ← hnotNullEq, ← huniqueEq]
  · rintro ⟨hobject, given, hgiven, name, ⟨w, hw, hname⟩, type, htype, key, hkey, notNull, hnotNull,
      unique, hunique, hmint⟩
    obtain ⟨hread, hnamed⟩ := readName_eq_ok_iff.mp hname
    obtain ⟨rfl, rfl⟩ := Prod.mk.inj hmint
    exact ⟨hobject, takesId_iff.mpr ⟨given, hgiven, rfl⟩, ⟨w, hw, hread⟩, hnamed,
      ⟨type, htype, rfl⟩, hkey, ⟨notNull, hnotNull, rfl⟩, ⟨unique, hunique, rfl⟩,
      ColumnSpec.isValid_make name _ key notNull unique⟩

theorem threaded_isColumnOf_iff {items : List Json} {columns : List Column} :
    Threaded (IsColumnOf form) items ids columns rest ↔
      ∃ es, List.Forall₂ (fun w e => checkColumn form w = .valid e) items es ∧
        mintAll ColumnEntry.mint es ids = (columns, rest) :=
  threaded_iff (R := IsColumnOf form) fun _ _ _ _ => isColumnOf_iff

theorem checkPosition_eq_valid_iff {p : Position} :
    checkPosition form v = .valid p ↔ IsPositionOf form v p := by
  have hparts : (∃ q, checkPosition form v = .valid q ∧ q = p) ↔ _ := exists_checkObject_iff
  simp only [exists_seq_iff, exists_map_iff, withDefault_eq_valid_iff,
    single_eq_valid_iff] at hparts
  rw [exists_eq_right] at hparts
  rw [hparts]
  constructor
  · rintro ⟨hobject, x, hx, y, hy, rfl⟩
    exact ⟨hobject, hx, hy⟩
  · intro h
    exact ⟨h.object, p.x, h.x, p.y, h.y, rfl⟩

theorem isTableOf_iff {t : Table} :
    IsTableOf form v ids t rest ↔ ∃ e, checkTable form v = .valid e ∧ e.mint ids = (t, rest) := by
  simp only [checkTable, exists_checkObject_iff, exists_seq_iff, exists_map_iff,
    required_eq_valid_iff, withDefault_eq_valid_iff, single_eq_valid_iff, says_checkList_iff,
    checkPosition_eq_valid_iff]
  constructor
  · intro h
    obtain ⟨w, hw, hname⟩ := h.name
    obtain ⟨items, middle, hitems, hid, hcolumns⟩ := h.columns
    obtain ⟨given, hgiven, htake⟩ := takesId_iff.mp hid
    obtain ⟨entries, hentries, hmint⟩ := threaded_isColumnOf_iff.mp hcolumns
    refine ⟨h.object, given, hgiven, t.name, ⟨w, hw, readName_eq_ok_iff.mpr ⟨hname, h.named⟩⟩,
      entries, ⟨items, hitems, hentries⟩, t.position, h.position, ?_⟩
    simp only [TableEntry.mint, htake, hmint]
  · rintro ⟨hobject, given, hgiven, name, ⟨w, hw, hname⟩, entries, ⟨items, hitems, hentries⟩,
      position, hposition, hmint⟩
    obtain ⟨hread, hnamed⟩ := readName_eq_ok_iff.mp hname
    obtain ⟨rfl, rfl⟩ := Prod.mk.inj hmint
    exact ⟨hobject, ⟨w, hw, hread⟩, hnamed, ⟨items, _, hitems, takesId_iff.mpr ⟨given, hgiven, rfl⟩,
      threaded_isColumnOf_iff.mpr ⟨entries, hentries, rfl⟩⟩, hposition⟩

theorem threaded_isTableOf_iff {items : List Json} {tables : List Table} :
    Threaded (IsTableOf form) items ids tables rest ↔
      ∃ es, List.Forall₂ (fun w e => checkTable form w = .valid e) items es ∧
        mintAll TableEntry.mint es ids = (tables, rest) :=
  threaded_iff (R := IsTableOf form) fun _ _ _ _ => isTableOf_iff

theorem relationType_eq (type : String) :
    relationType type = if type ∈ ["1:1", "1:N"] then type else "1:N" := by
  simp only [relationType, List.contains_iff_mem]
  rfl

theorem isRelationOf_iff {r : Relation} :
    IsRelationOf form v ids r rest ↔
      ∃ e, checkRelation form v = .valid e ∧ e.mint ids = (r, rest) := by
  simp only [checkRelation, exists_checkObject_iff, exists_seq_iff, exists_map_iff,
    withDefault_eq_valid_iff, single_eq_valid_iff]
  constructor
  · intro h
    obtain ⟨given, hgiven, htake⟩ := takesId_iff.mp h.id
    obtain ⟨type, htype, htypeEq⟩ := h.type
    refine ⟨h.object, given, hgiven, _, h.fromTable, _, h.fromColumn, _, h.toTable, _, h.toColumn,
      type, htype, ?_⟩
    simp only [RelationEntry.mint, htake, relationType_eq, ← htypeEq]
  · rintro ⟨hobject, given, hgiven, fromTable, hfromTable, fromColumn, hfromColumn, toTable,
      htoTable, toColumn, htoColumn, type, htype, hmint⟩
    obtain ⟨rfl, rfl⟩ := Prod.mk.inj hmint
    exact ⟨hobject, takesId_iff.mpr ⟨given, hgiven, rfl⟩, hfromTable, hfromColumn, htoTable,
      htoColumn, ⟨type, htype, relationType_eq type⟩⟩

theorem threaded_isRelationOf_iff {items : List Json} {relations : List Relation} :
    Threaded (IsRelationOf form) items ids relations rest ↔
      ∃ es, List.Forall₂ (fun w e => checkRelation form w = .valid e) items es ∧
        mintAll RelationEntry.mint es ids = (relations, rest) :=
  threaded_iff (R := IsRelationOf form) fun _ _ _ _ => isRelationOf_iff

/-! ### Ends -/

theorem lastTable?_eq_some_iff {tables : List Table} {id : String} {t : Table} :
    lastTable? tables id = some t ↔
    ∃ before after, tables = before ++ t :: after ∧ t.id = id ∧ ∀ u ∈ after, u.id ≠ id := by
  rw [lastTable?, List.find?_eq_some_iff_append]
  simp only [decide_eq_true_eq, Bool.not_eq_true', decide_eq_false_iff_not]
  constructor
  · rintro ⟨hid, after, before, hsplit, hafter⟩
    refine ⟨before.reverse, after.reverse, ?_, hid, fun u hu => hafter u (List.mem_reverse.mp hu)⟩
    rw [← List.reverse_reverse tables, hsplit]
    simp
  · rintro ⟨before, after, rfl, hid, hafter⟩
    refine ⟨hid, after.reverse, before.reverse, by simp,
      fun u hu => hafter u (List.mem_reverse.mp hu)⟩

theorem hasEnd_iff_endsInLast {tables : List Table} {e : Endpoint} :
    hasEnd tables e = true ↔ EndsInLast tables e := by
  unfold hasEnd EndsInLast
  constructor
  · intro h
    split at h
    · rename_i t ht
      -- the last table with an id is the one with no other behind it
      obtain ⟨before, after, hsplit, hid, hafter⟩ := lastTable?_eq_some_iff.mp ht
      obtain ⟨c, hc, hcid⟩ := List.any_eq_true.mp h
      exact ⟨before, t, after, hsplit, hid, hafter, c, hc, by simpa using hcid⟩
    · exact absurd h (by simp)
  · rintro ⟨before, t, after, hsplit, hid, hafter, c, hc, hcid⟩
    rw [lastTable?_eq_some_iff.mpr ⟨before, after, hsplit, hid, hafter⟩]
    exact List.any_eq_true.mpr ⟨c, hc, by simpa using hcid⟩

instance (tables : List Table) (e : Endpoint) : Decidable (EndsInLast tables e) :=
  decidable_of_iff (hasEnd tables e = true) hasEnd_iff_endsInLast

theorem filter_isResolvable (tables : List Table) (relations : List Relation) :
    relations.filter (isResolvable tables) =
      relations.filter fun r => EndsInLast tables r.source ∧ EndsInLast tables r.target := by
  refine List.filter_congr fun r _ => ?_
  rw [Bool.eq_iff_iff, isResolvable, Bool.and_eq_true, hasEnd_iff_endsInLast, hasEnd_iff_endsInLast,
    decide_eq_true_eq]

/-! ### Drawings -/

/-- Is this the drawing of a document that has these relations? Of them, those are drawn that have
both ends; if that leaves any out, one notice says how many. -/
structure IsLoaded (form : Form) (v : Json) (ids : IdSupply) (written : List Relation) (d : Drawn) :
    Prop where
  object : IsObject v
  parts : ∃ tables relations middle, v.get? "tables" = some (.array tables) ∧
    Says v "relations" [] (fun w items => w = .array items) relations ∧
    Threaded (IsTableOf form) tables ids d.schema.tables middle ∧
    Threaded (IsRelationOf form) relations middle written d.ids
  kept : d.schema.relations =
    written.filter fun r => EndsInLast d.schema.tables r.source ∧
      EndsInLast d.schema.tables r.target
  notices : d.notices =
    if written.length = d.schema.relations.length then []
    else [.relationsDropped (written.length - d.schema.relations.length)]
  lines : d.notices.map Notice.line =
    if written.length = d.schema.relations.length then []
    else ["WARNING Dropped " ++
      String.ofList (Number.natText (written.length - d.schema.relations.length)) ++
      " relation(s) with unknown endpoints"]

theorem load_eq_ok_iff {d : Drawn} :
    load form v ids = .ok d ↔ ∃ entries, checkSchema form v = .valid entries ∧
      entries.load ids = d := by
  unfold load
  cases checkSchema form v <;> simp

theorem line_relationsDropped (n : Nat) : (Notice.relationsDropped n).line =
    "WARNING Dropped " ++ String.ofList (Number.natText n) ++
      " relation(s) with unknown endpoints" := by
  have hopening : "WARNING" ++ (" " ++ "Dropped ") = "WARNING Dropped " := by decide
  rw [← hopening, String.append_assoc, String.append_assoc, String.append_assoc]
  rfl

theorem droppedNotices_filter (written : List Relation) (keep : Relation → Bool) :
    droppedNotices (written.length - (written.filter keep).length) =
      if written.length = (written.filter keep).length then []
      else [.relationsDropped (written.length - (written.filter keep).length)] := by
  have hle := List.length_filter_le keep written
  have hnone : written.length - (written.filter keep).length = 0 ↔
      written.length = (written.filter keep).length := by
    omega
  simp only [droppedNotices, hnone]

theorem isLoaded_iff {d : Drawn} :
    (∃ written, IsLoaded form v ids written d) ↔ load form v ids = .ok d := by
  simp only [load_eq_ok_iff, checkSchema, exists_checkObject_iff, exists_seq_iff, exists_map_iff,
    required_eq_valid_iff, withDefault_eq_valid_iff, says_checkList_iff]
  constructor
  · rintro ⟨written, h⟩
    obtain ⟨tables, relations, middle, htables, hrelations, htake, hmore⟩ := h.parts
    -- tables take their ids first, relations go on from there
    obtain ⟨tableEntries, htableEntries, hmint⟩ := threaded_isTableOf_iff.mp htake
    obtain ⟨relationEntries, hrelationEntries, hmintMore⟩ := threaded_isRelationOf_iff.mp hmore
    have hnotices := droppedNotices_filter written
      fun r => EndsInLast d.schema.tables r.source ∧ EndsInLast d.schema.tables r.target
    rw [← h.kept, ← h.notices] at hnotices
    have hload : (Entries.mk tableEntries relationEntries).load ids =
        ⟨⟨d.schema.tables, d.schema.relations⟩, d.notices, d.ids⟩ := by
      simp only [Entries.load, hmint, hmintMore, filter_isResolvable, ← h.kept, hnotices]
    exact ⟨h.object, tableEntries, ⟨_, htables, checkList_eq_valid_iff.mpr ⟨_, rfl, htableEntries⟩⟩,
      relationEntries, ⟨relations, hrelations, hrelationEntries⟩, hload⟩
  · rintro ⟨hobject, tableEntries, ⟨w, htables, hcheck⟩, relationEntries,
      ⟨relations, hrelations, hrelationEntries⟩, rfl⟩
    obtain ⟨tables, rfl, htableEntries⟩ := checkList_eq_valid_iff.mp hcheck
    refine ⟨_, hobject, ⟨tables, relations, _, htables, hrelations,
      threaded_isTableOf_iff.mpr ⟨_, htableEntries, rfl⟩,
      threaded_isRelationOf_iff.mpr ⟨_, hrelationEntries, rfl⟩⟩,
      filter_isResolvable _ _, droppedNotices_filter _ _, ?_⟩
    simp only [Entries.load, droppedNotices_filter]
    -- no relation was dropped, or one notice says how many
    split <;> simp [line_relationsDropped]

/-- A drawing is what a document loads as just if it is the drawing of the document: every table and
every column document is there, in order, with its name, its id (or the next of the supply), a type
of the vocabulary, and flags that a primary key raises; and of the relations just those are there
whose ends are columns of the last tables with their ids, with one warning that says how many are
not, if any. A document in JSON text loads as its value. -/
theorem load_eq_ok_iff_isLoaded (limit : Option Nat) (form : Form) (v : Json) (text : String)
    (ids : IdSupply) (d : Drawn) :
    (load form v ids = .ok d ↔ ∃ written, IsLoaded form v ids written d) ∧
      (loadTextWithin limit text ids = .ok d ↔
        ∃ w written, readText limit text = some w ∧ IsLoaded .text w ids written d) := by
  refine ⟨isLoaded_iff.symm, ?_⟩
  unfold loadTextWithin
  cases readText limit text with
  | none => simp
  | some w => simp [isLoaded_iff]

/-- Relations without ends are dropped together. -/
example : (load .value
    (.object [("tables", .array []), ("relations", .array [.object [], .object []])])
    IdSupply.tally).toOption.map (·.notices) = some [.relationsDropped 2] := by decide

end SchemaDraft.Document
