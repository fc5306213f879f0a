import SchemaDraft.Catalogue.Draw
import SchemaDraft.Proofs.Catalogue.Order
import SchemaDraft.Proofs.Script.WellFormed

/-!
Which columns of a database are drawn as unique. A unique clause or a unique index lists one column,
which is then a key, or several, which are a key jointly. The drawing makes no difference: outside
of the primary key a column is drawn as unique, and what refers from it as one to one, just if it is
a key or a part of one (`isUnique_draw`). So the columns of a joint key are drawn like keys that
they are not, and all others as what they are.
-/

namespace SchemaDraft.Catalogue

variable {l : Listing} {ids : IdSupply} {d : Drawn} {t : ListedTable} {name : String}

/-! ### Keys -/

/-- The lists of columns of the unique clauses and the unique indexes of a table. -/
def ListedTable.uniqueKeys (t : ListedTable) : List (List String) := t.uniques ++ t.uniqueIndexes

/-- Does a unique clause or a unique index list this column and no other? -/
def ListedTable.IsKey (t : ListedTable) (name : String) : Prop :=
  ∃ key ∈ t.uniqueKeys, name ∈ key ∧ ∀ other ∈ key, other = name

/-- Does a unique clause or a unique index list this column with another one? -/
def ListedTable.IsJoint (t : ListedTable) (name : String) : Prop :=
  ∃ key ∈ t.uniqueKeys, name ∈ key ∧ ∃ other ∈ key, other ≠ name

theorem ListedTable.isKey_or_isJoint_iff :
    t.IsKey name ∨ t.IsJoint name ↔ ∃ key ∈ t.uniqueKeys, name ∈ key := by
  constructor
  · rintro (⟨key, hkey, hname, _⟩ | ⟨key, hkey, hname, _⟩) <;> exact ⟨key, hkey, hname⟩
  · rintro ⟨key, hkey, hname⟩
    by_cases halone : ∀ other ∈ key, other = name
    · exact .inl ⟨key, hkey, hname, halone⟩
    · push Not at halone
      exact .inr ⟨key, hkey, hname, halone⟩

theorem ListedTable.mem_uniqueColumns_iff :
    name ∈ t.uniqueColumns ↔ t.IsKey name ∨ t.IsJoint name := by
  rw [ListedTable.isKey_or_isJoint_iff, ListedTable.uniqueColumns, ← List.flatten_append,
    List.mem_flatten]
  rfl

theorem ListedTable.isUnique_columnSpec {c : ColumnEntry} :
    (t.columnSpec c).isUnique = true ↔ c.name ∈ t.primaryKey ∨ t.IsKey c.name ∨
      t.IsJoint c.name := by
  rw [← ListedTable.mem_uniqueColumns_iff]
  simp [ListedTable.columnSpec, ColumnSpec.make, or_comm]

/-! ### Drawings -/

/-- A database is drawn if nothing is wrong with its references: its tables in their order, and the
keys among what its references give. -/
theorem draw_eq_ok_iff : l.draw ids = .ok d ↔
    l.checkTables = .ok () ∧ l.checkFirstColumns = .ok () ∧
      ∃ keys, l.readReferences l.ordered = .ok keys ∧
      d = Script.drawTables (l.ordered.map ListedTable.spec)
        (byNames (keys.filterMap Except.toOption)) (keys.filterMap noticeOf?) ids := by
  rw [Listing.draw]
  -- each check stops the drawing at its first fault
  cases l.checkTables with
  | error fault => simp [bind, Except.bind]
  | ok =>
    cases l.checkFirstColumns with
    | error fault => simp [bind, Except.bind]
    | ok =>
      cases hkeys : l.readReferences l.ordered with
      | error fault => simp [bind, Except.bind, hkeys]
      | ok keys => simp [bind, Except.bind, pure, Except.pure, hkeys, eq_comm]

/-- The drawing of a database is that of what its tables say. -/
theorem exists_contents_of_draw (h : l.draw ids = .ok d) :
    ∃ contents : Script.Contents, contents.tables = l.ordered.map ListedTable.spec ∧
      d = contents.draw ids := by
  obtain ⟨_, _, keys, _, rfl⟩ := draw_eq_ok_iff.mp h
  exact ⟨⟨_, _, _⟩, rfl, rfl⟩

/-- Is a column of a drawing that of a listed table, unique and one to one as far as the keys of the
table go? -/
structure IsDrawnColumn (s : Schema) (u : Table) (t : ListedTable) (e : Column) (c : ColumnEntry) :
    Prop where
  name_eq : e.name = lowerName c.name
  isUnique_iff : e.isUnique = true ↔ c.name ∈ t.primaryKey ∨ t.IsKey c.name ∨ t.IsJoint c.name
  oneToOne_iff : ∀ r ∈ s.relations, r.source = ⟨u.id, e.id⟩ →
    (r.type = Cardinality.oneToOne.name ↔ c.name ∈ t.primaryKey ∨ t.IsKey c.name ∨ t.IsJoint c.name)

/-- Is a table of a drawing a listed table, column by column? -/
structure IsDrawnTable (s : Schema) (u : Table) (t : ListedTable) : Prop where
  name_eq : u.name = lowerName t.name
  columns : List.Forall₂ (IsDrawnColumn s u t) u.columns t.columns

theorem oneToOne_iff_isUnique {c : Column} :
    c.cardinality.name = Cardinality.oneToOne.name ↔ c.isUnique = true := by
  rw [Column.cardinality]
  split
  · simp [*]
  · simp [*, Cardinality.name]

/-- Lists with the same views are related one by one, by what the views tell of members of the
first. -/
theorem forall₂_of_map_eq {α β γ : Type} {as : List α} {bs : List β} {f : α → γ} {g : β → γ}
    (h : as.map f = bs.map g) : List.Forall₂ (fun a b => a ∈ as ∧ f a = g b) as bs := by
  rw [← List.forall₂_eq_eq_eq, List.forall₂_map_left_iff, List.forall₂_map_right_iff] at h
  exact (List.forall₂_and_left as bs).mpr ⟨fun _ ha => ha, h⟩

/-- In the drawing of contents, a table with the specification of a listed one is that table. -/
theorem isDrawnTable_of_spec_eq (contents : Script.Contents) (hids : Function.Injective ids.label)
    {u : Table} (hu : u ∈ (contents.draw ids).schema.tables) (h : u.spec = t.spec) :
    IsDrawnTable (contents.draw ids).schema u t where
  name_eq := congrArg TableSpec.name h
  columns := by
    refine (forall₂_of_map_eq (congrArg TableSpec.columns h)).imp fun e c ⟨he, hspec⟩ => ?_
    have hunique : e.isUnique = true ↔ c.name ∈ t.primaryKey ∨ t.IsKey c.name ∨
        t.IsJoint c.name := by
      rw [← ListedTable.isUnique_columnSpec, ← hspec]
    refine ⟨congrArg ColumnSpec.name hspec, hunique, fun r hr hsource => ?_⟩
    -- a relation takes its type from the column that it starts at
    rw [← hunique, ← oneToOne_iff_isUnique, Script.type_eq_of_mem_draw contents hids hr hu he
      (congrArg Endpoint.tableId hsource).symm (congrArg Endpoint.columnId hsource).symm]

/-- The tables of a drawing are those of the database in some order. The unique columns of a table
are those of its primary key and, whether alone in it or not, of any unique clause and any unique
index; a relation starts at a column, and it is one to one just if it starts at one of these. -/
theorem isUnique_draw (hnames : (l.map ListedTable.name).Nodup)
    (hids : Function.Injective ids.label) (h : l.draw ids = .ok d) :
    (∀ r ∈ d.schema.relations, d.schema.Holds r.source) ∧
      ∃ tables : List ListedTable, tables.Perm l ∧
        List.Forall₂ (IsDrawnTable d.schema) d.schema.tables tables := by
  obtain ⟨contents, htables, rfl⟩ := exists_contents_of_draw h
  refine ⟨fun r hr => ?_, l.ordered, perm_ordered hnames, ?_⟩
  · -- a relation of the drawing comes from a key that was resolved among its tables
    obtain ⟨_, _, _, hresolve, hsource, _⟩ := Script.exists_link_of_mem_draw contents hr
    rw [hsource]
    exact (Script.holds_of_resolve hresolve).1
  · -- the drawing keeps the order of the listing, table by table
    have hspecs : (contents.draw ids).schema.tables.map Table.spec =
        l.ordered.map ListedTable.spec := by
      rw [Script.tables_draw, Script.spec_mintTables, htables]
    refine (forall₂_of_map_eq hspecs).imp fun u t ⟨hu, hspec⟩ => ?_
    exact isDrawnTable_of_spec_eq contents hids hu hspec

/-- Rooms, and seats with a joint key, of which the room refers to the rooms, and with a badge as a
key of its own. -/
def seating : Listing :=
  [⟨"Rooms", [⟨"Id", "INTEGER", false⟩], ["Id"], [], [], []⟩,
    ⟨"Seats", [⟨"Room", "INTEGER", true⟩, ⟨"Row", "INTEGER", true⟩, ⟨"Badge", "TEXT", false⟩], [],
      [["Room", "Row"]], [["Badge"]], [⟨["Room"], "Rooms", ["Id"]⟩]⟩]

/-- A reference from a part of a joint key. -/
theorem isUnique_draw_seating : ∃ d, seating.draw IdSupply.tally = .ok d ∧
    (seating.map ListedTable.name).Nodup ∧ Function.Injective IdSupply.tally.label ∧
    ((∀ r ∈ d.schema.relations, d.schema.Holds r.source) ∧
      ∃ tables : List ListedTable, tables.Perm seating ∧
      List.Forall₂ (IsDrawnTable d.schema) d.schema.tables tables) := by
  have hnames : (seating.map ListedTable.name).Nodup := by decide
  obtain ⟨hbyName, hnodes⟩ :=
    byName_eq_self (show seating.Pairwise fun a b => ¬b.name < a.name by decide)
  have hchecked : seating.checkTables = .ok () ∧ seating.checkFirstColumns = .ok () := by
    rw [Listing.checkTables, Listing.checkFirstColumns, hbyName]
    decide +kernel
  have hordered : seating.ordered = seating := by
    rw [Listing.ordered, orderNodes, hnodes]
    decide +kernel
  have hreferences : seating.readReferences seating.ordered =
      .ok [.ok ⟨"seats", "room", "rooms", "id"⟩] := by
    rw [hordered]
    decide +kernel
  have hdraw : seating.draw IdSupply.tally = .ok _ :=
    draw_eq_ok_iff.mpr ⟨hchecked.1, hchecked.2, _, hreferences, rfl⟩
  exact ⟨_, hdraw, hnames, IdSupply.injective_tally,
    isUnique_draw hnames IdSupply.injective_tally hdraw⟩

end SchemaDraft.Catalogue
