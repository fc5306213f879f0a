import SchemaDraft.Catalogue.DeclaredType
import SchemaDraft.Catalogue.UniqueClause

/-!
The tables of a database as it lists them itself: all columns by their own names, keys to a primary
key with the columns of it, a key only once. A key may refer to a view, or to a table by a name in
another letter case; such a name is listed as a table of its own, which has the columns but no
clauses.
-/

namespace SchemaDraft.Catalogue

/-- A reference from some columns to columns of a table. -/
structure Reference where
  columns : List String
  table : String
  referred : List String
  deriving Repr, DecidableEq, Inhabited

/-- A table as the database lists it. -/
structure ListedTable where
  name : String
  columns : List ColumnEntry
  primaryKey : List String
  uniques : List (List String)
  uniqueIndexes : List (List String)
  references : List Reference
  deriving Repr, DecidableEq, Inhabited

/-- The tables that a database lists. -/
abbrev Listing := List ListedTable

/-! ### References -/

/-- The columns that a key refers to; without a list of its own, the primary key of the table with
that very name. -/
def KeyEntry.referredIn (c : Catalogue) (k : KeyEntry) : List String :=
  k.referred.getD (((c.table? k.table).map TableEntry.keyColumns).getD [])

/-- The foreign keys in the order in which they are listed: those with a list of columns first, the
others from the last to the first. -/
def TableEntry.keysInOrder (t : TableEntry) : List KeyEntry :=
  t.foreignKeys.filter (·.referred.isSome) ++ (t.foreignKeys.filter (·.referred.isNone)).reverse

/-- The references of a table, each of them once. -/
def TableEntry.references (c : Catalogue) (t : TableEntry) : List Reference :=
  (t.keysInOrder.map fun k =>
    (⟨k.columns.map t.ownName, k.table, k.referredIn c⟩ : Reference)).eraseDups

/-! ### Tables -/

/-- The columns of the unique indexes of a table. -/
def TableEntry.uniqueIndexes (t : TableEntry) : List (List String) :=
  (t.indexes.filter (·.unique)).map fun i => i.columns.map t.ownName

def TableEntry.listed (c : Catalogue) (t : TableEntry) : ListedTable :=
  ⟨t.name, t.columns, t.keyColumns, t.knownUniques, t.uniqueIndexes, t.references c⟩

/-- The columns that a view shows: of any value, as far as is known. -/
def viewColumns (c : Catalogue) (v : ViewEntry) : List ColumnEntry :=
  (((c.tableMeant? v.table).map (·.columns)).getD []).map fun column =>
    { column with notNull := false }

/-- What is listed under a name that no table has in this spelling: another spelling of a table, or
a view. -/
def namesake? (c : Catalogue) (name : String) : Option ListedTable :=
  match c.tableMeant? name, c.viewMeant? name with
  | some t, _ => some ⟨name, t.columns, [], [], t.uniqueIndexes, []⟩
  | none, some v => some ⟨name, c.viewColumns v, [], [], [], []⟩
  | none, none => none

/-- The names that keys refer to and no table has, each of them once. -/
def otherNames (c : Catalogue) : List String :=
  ((c.tables.flatMap (·.foreignKeys)).map (·.table)).eraseDups.filter fun name =>
    (c.table? name).isNone

def listing (c : Catalogue) : Listing :=
  c.tables.map (TableEntry.listed c) ++ c.otherNames.filterMap c.namesake?

def Listing.table? (l : Listing) (name : String) : Option ListedTable := l.find? (·.name = name)

/-! ### Columns -/

/-- The columns that the unique clauses and the unique indexes of a table list. -/
def ListedTable.uniqueColumns (t : ListedTable) : List String :=
  t.uniques.flatten ++ t.uniqueIndexes.flatten

/-- The specification of a listed column. -/
def ListedTable.columnSpec (t : ListedTable) (c : ColumnEntry) : ColumnSpec :=
  ColumnSpec.make (lowerName c.name) (typeFamily c.type).columnType.name
    (t.primaryKey.contains c.name) c.notNull (t.uniqueColumns.contains c.name)

def ListedTable.spec (t : ListedTable) : TableSpec :=
  ⟨lowerName t.name, t.columns.map t.columnSpec⟩

end SchemaDraft.Catalogue
