import SchemaDraft.Model.Canvas
import SchemaDraft.Model.ForeignKey

/-!
Changes to a drawing. Each gives a new drawing; one that names an id which is not there changes
nothing. Taking away a column or a table takes the relations at it along.
-/

namespace SchemaDraft

/-- The list with its item `i` taken out and put in again as item `j`. -/
def moveItem {α : Type} (items : List α) (i j : Nat) : List α :=
  match items[i]? with
  | some a => (items.eraseIdx i).insertIdx j a
  | none => items

/-- Is this the index of an item of a list of this length? -/
def isIndex (i : Int) (length : Nat) : Bool := decide (0 ≤ i) && decide (i < length)

namespace Schema

/-! ### Tables -/

/-- The drawing with a table at its end. -/
def addTable (s : Schema) (t : Table) : Schema := { s with tables := s.tables ++ [t] }

/-- Does an end of a relation stay when this table takes the place of the one with its id? -/
def staysWith (t : Table) (e : Endpoint) : Bool :=
  e.tableId != t.id || t.columns.any (·.id == e.columnId)

/-- The drawing with a table in the place of the one with its id; relations at columns that it lacks
go. -/
def updateTable (s : Schema) (t : Table) : Schema :=
  { tables := s.tables.map fun old => if old.id = t.id then t else old
    relations := s.relations.filter fun r => staysWith t r.source && staysWith t r.target }

/-- The drawing without a table and the relations at it. -/
def deleteTable (s : Schema) (id : String) : Schema :=
  { tables := s.tables.filter (·.id != id)
    relations := s.relations.filter fun r => r.source.tableId != id && r.target.tableId != id }

/-- The drawing with a column of a table moved from one index to another; an index that is out of
range changes nothing. -/
def reorderColumns (s : Schema) (tableId : String) (start finish : Int) : Schema :=
  match s.table? tableId with
  | none => s
  | some t =>
    if isIndex start t.columns.length && isIndex finish t.columns.length then
      s.updateTable { t with columns := moveItem t.columns start.toNat finish.toNat }
    else s

/-! ### Relations -/

/-- What stands against a relation between two ends: a table that is not there, or a column that its
table lacks. -/
def endsProblem? (s : Schema) (source target : Endpoint) : Option Notice :=
  match s.table? source.tableId, s.table? target.tableId with
  | some fromTable, some toTable =>
    match fromTable.column? source.columnId, toTable.column? target.columnId with
    | some _, some _ => none
    | _, _ => some .unknownColumnToConnect
  | _, _ => some .unknownTableToConnect

/-- The drawing with a relation between two ends, and the notice left if an end is missing. A column
is not connected to itself, and nothing is said about it. -/
def addRelation (s : Schema) (id : String) (source target : Endpoint) (type : String) :
    Schema × List Notice :=
  if source = target then (s, [])
  else
    match s.endsProblem? source target with
    | some problem => (s, [problem])
    | none => ({ s with relations := s.relations ++ [⟨id, source, target, type⟩] }, [])

/-- The drawing without a relation. -/
def deleteRelation (s : Schema) (id : String) : Schema :=
  { s with relations := s.relations.filter (·.id != id) }

/-- The drawing with the relations of an id changed. -/
def mapRelation (s : Schema) (id : String) (change : Relation → Relation) : Schema :=
  { s with relations := s.relations.map fun r => if r.id = id then change r else r }

def swapRelation (s : Schema) (id : String) : Schema := s.mapRelation id Relation.swap

def updateRelationType (s : Schema) (id type : String) : Schema :=
  s.mapRelation id fun r => { r with type }

end Schema

/-! ### Whole drawings -/

/-- What an import does with the drawing that is there. -/
inductive ImportMode where
  | replace
  | merge
  deriving Repr, DecidableEq

def ImportMode.name : ImportMode → String
  | replace => "replace"
  | merge => "merge"

/-- The drawing after an import: the imported one alone, or both with the imported tables to the
right of the others. -/
def Schema.importFrom (s imported : Schema) : ImportMode → Schema
  | .replace => imported
  | .merge =>
    { tables := s.tables ++
        Canvas.shift imported.tables (Canvas.mergeOffset s.tables imported.tables)
      relations := s.relations ++ imported.relations }

/-- Does a merge overflow on the way? -/
def Schema.importOverflows (s imported : Schema) : ImportMode → Bool
  | .replace => false
  | .merge =>
    Canvas.offsetOverflows s.tables imported.tables ||
      Canvas.shiftOverflows imported.tables (Canvas.mergeOffset s.tables imported.tables)

/-- The drawing after an import, none if it overflows. -/
def Schema.tryImport (s imported : Schema) (mode : ImportMode) : Option Schema :=
  if s.importOverflows imported mode then none else some (s.importFrom imported mode)

end SchemaDraft
