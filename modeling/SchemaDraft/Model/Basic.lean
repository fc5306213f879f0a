import SchemaDraft.Number.Basic

/-!
The drawing of a database: tables with ordered columns, placed on a canvas, and relations between
columns. What a column or table *is* (`ColumnSpec`, `TableSpec`) stands apart from the ids that only
tell one from another, so that readers produce specifications and ids are handed out at the end.

Types are kept as text: a drawing made elsewhere may carry a word outside the vocabulary. The words
that readers write are those of `ColumnType` and `Cardinality`.
-/

namespace SchemaDraft

/-- What a column is: its name, its type and its three flags. -/
structure ColumnSpec where
  name : String
  type : String
  isPrimaryKey : Bool
  isNotNull : Bool
  isUnique : Bool
  deriving Repr, DecidableEq, Inhabited

/-- A column: a specification with an id. -/
structure Column extends ColumnSpec where
  id : String
  deriving Repr, DecidableEq, Inhabited

/-- A place on the canvas, `x` to the right and `y` down. -/
structure Position where
  x : Number
  y : Number
  deriving Repr, Inhabited

/-- What a table is: its name and its columns, in order. -/
structure TableSpec where
  name : String
  columns : List ColumnSpec
  deriving Repr, DecidableEq, Inhabited

/-- A table on the canvas. -/
structure Table where
  id : String
  name : String
  columns : List Column
  position : Position
  deriving Repr, Inhabited

/-- One end of a relation: a column of a table, both by id. -/
structure Endpoint where
  tableId : String
  columnId : String
  deriving Repr, DecidableEq, Inhabited

/-- How many rows may refer to one row: a hint that goes with a relation. -/
inductive Cardinality where
  | oneToOne
  | oneToMany
  deriving Repr, DecidableEq

/-- The word for a cardinality. -/
def Cardinality.name : Cardinality → String
  | oneToOne => "1:1"
  | oneToMany => "1:N"

/-- The words for cardinalities. -/
def cardinalityNames : List String := [Cardinality.oneToOne.name, Cardinality.oneToMany.name]

/-- A relation from a referring column to the column it refers to. -/
structure Relation where
  id : String
  source : Endpoint
  target : Endpoint
  type : String
  deriving Repr, DecidableEq, Inhabited

/-- A drawing: its tables and relations, in order. -/
structure Schema where
  tables : List Table
  relations : List Relation
  deriving Repr, Inhabited

/-- The drawing without tables and relations. -/
def Schema.empty : Schema := ⟨[], []⟩

/-- A column of the given flags, where a primary key is also not null and unique. -/
def ColumnSpec.make (name type : String) (primaryKey notNull unique : Bool) : ColumnSpec :=
  { name, type
    isPrimaryKey := primaryKey
    isNotNull := notNull || primaryKey
    isUnique := unique || primaryKey }

/-- The specification of a table, its id and place left out. -/
def Table.spec (t : Table) : TableSpec := ⟨t.name, t.columns.map Column.toColumnSpec⟩

/-- The first column with this id. -/
def Table.column? (t : Table) (id : String) : Option Column := t.columns.find? (·.id = id)

def Schema.table? (s : Schema) (id : String) : Option Table := s.tables.find? (·.id = id)

/-- The last of some tables with this id. -/
def lastTable? (tables : List Table) (id : String) : Option Table :=
  tables.reverse.find? (·.id = id)

def Relation.swap (r : Relation) : Relation := { r with source := r.target, target := r.source }

@[simp]
theorem Relation.swap_swap (r : Relation) : r.swap.swap = r := rfl

end SchemaDraft
