import SchemaDraft.Model.Basic

/-!
The catalogue of a database: its tables and views as they were declared. Names mean the same in any
case of Latin letters, so that a key or a clause may write a name in another way than the table that
has it.
-/

namespace SchemaDraft

namespace Catalogue

/-- A column as it was declared. -/
structure ColumnEntry where
  name : String
  type : String
  notNull : Bool
  deriving Repr, DecidableEq, Inhabited

/-- A foreign key as it was declared; without a list of its own it refers to the primary key. -/
structure KeyEntry where
  columns : List String
  table : String
  referred : Option (List String)
  deriving Repr, DecidableEq, Inhabited

/-- An index on some columns. -/
structure IndexEntry where
  columns : List String
  unique : Bool
  deriving Repr, DecidableEq, Inhabited

/-- A table as it was declared. -/
structure TableEntry where
  name : String
  columns : List ColumnEntry
  primaryKey : List String
  uniques : List (List String)
  foreignKeys : List KeyEntry
  indexes : List IndexEntry
  deriving Repr, DecidableEq, Inhabited

/-- A view of all columns of a table. -/
structure ViewEntry where
  name : String
  table : String
  deriving Repr, DecidableEq, Inhabited

/-- Do two names mean the same? -/
def sameName (a b : String) : Bool :=
  decide (a.toList.map Char.toLower = b.toList.map Char.toLower)

/-- The name of a column as the table has it; a name that no column has stays. -/
def TableEntry.ownName (t : TableEntry) (name : String) : String :=
  ((t.columns.find? fun c => sameName c.name name).map (·.name)).getD name

/-- The columns of the primary key, as the table names them. -/
def TableEntry.keyColumns (t : TableEntry) : List String := t.primaryKey.map t.ownName

end Catalogue

/-- The tables and views of a database. -/
structure Catalogue where
  tables : List Catalogue.TableEntry
  views : List Catalogue.ViewEntry
  deriving Repr, DecidableEq, Inhabited

namespace Catalogue

def empty : Catalogue := ⟨[], []⟩

/-- The table with exactly this name. -/
def table? (c : Catalogue) (name : String) : Option TableEntry := c.tables.find? (·.name = name)

/-- The table that a name means. -/
def tableMeant? (c : Catalogue) (name : String) : Option TableEntry :=
  c.tables.find? fun t => sameName t.name name

def viewMeant? (c : Catalogue) (name : String) : Option ViewEntry :=
  c.views.find? fun v => sameName v.name name

end Catalogue

end SchemaDraft
