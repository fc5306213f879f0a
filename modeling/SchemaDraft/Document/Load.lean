import SchemaDraft.Document.Check
import SchemaDraft.Json.Read
import SchemaDraft.Model.ColumnType
import SchemaDraft.Model.Drawn

/-!
From a document to a drawing. Types become words of the vocabulary, a primary key is also not null
and unique, and a relation whose ends do not exist is dropped; a notice tells how many were. An
object without an id gets a fresh one.
-/

namespace SchemaDraft.Document

/-- The given id, or a fresh one. -/
def takeId (id : Option String) (ids : IdSupply) : String × IdSupply :=
  match id with
  | some id => (id, ids)
  | none => (ids.fresh, ids.advance)

/-- The column of an entry. -/
def ColumnEntry.mint (c : ColumnEntry) (ids : IdSupply) : Column × IdSupply :=
  let (id, ids) := takeId c.id ids
  ({ ColumnSpec.make c.name (columnTypeName c.type) c.isPrimaryKey c.isNotNull c.isUnique with
    id := id }, ids)

/-- The table of an entry. -/
def TableEntry.mint (t : TableEntry) (ids : IdSupply) : Table × IdSupply :=
  let (id, ids) := takeId t.id ids
  let (columns, ids) := mintAll ColumnEntry.mint t.columns ids
  (⟨id, t.name, columns, t.position⟩, ids)

/-- The type of a relation: a cardinality, one to many for any other word. -/
def relationType (type : String) : String :=
  if cardinalityNames.contains type then type else Cardinality.oneToMany.name

/-- The relation of an entry. -/
def RelationEntry.mint (r : RelationEntry) (ids : IdSupply) : Relation × IdSupply :=
  let (id, ids) := takeId r.id ids
  (⟨id, r.source, r.target, relationType r.type⟩, ids)

/-- Is there a column at this end? Of several tables with one id the last counts. -/
def hasEnd (tables : List Table) (e : Endpoint) : Bool :=
  match lastTable? tables e.tableId with
  | some t => t.columns.any (·.id == e.columnId)
  | none => false

/-- Do both ends of a relation exist? -/
def isResolvable (tables : List Table) (r : Relation) : Bool :=
  hasEnd tables r.source && hasEnd tables r.target

/-- The notice about so many dropped relations, none for none. -/
def droppedNotices (count : Nat) : List Notice :=
  if count = 0 then [] else [.relationsDropped count]

/-- The drawing of a document that has the right form. -/
def Entries.load (entries : Entries) (ids : IdSupply) : Drawn :=
  let (tables, ids) := mintAll TableEntry.mint entries.tables ids
  let (relations, ids) := mintAll RelationEntry.mint entries.relations ids
  let kept := relations.filter (isResolvable tables)
  ⟨⟨tables, kept⟩, droppedNotices (relations.length - kept.length), ids⟩

/-- The drawing of a document that is already read, or the faults of the document. -/
def load (form : Form) (v : Json) (ids : IdSupply) : Except (List Fault) Drawn :=
  match checkSchema form v with
  | .valid entries => .ok (entries.load ids)
  | .faulty faults => .error faults

/-- How deep the containers of a document in JSON text may lie in one another. -/
def maxDepth : Nat := 200

/-- How long the sign and the whole digits of a number in JSON text may be together. -/
def maxWholeLength : Nat := 4300

/-- The value of a JSON text, unless it is nested too deep or one of its numbers is too long. -/
def readText (limit : Option Nat) (text : String) : Option Json :=
  (Json.readWithin limit text).filter fun v => decide (v.depth ≤ maxDepth)

/-- The drawing of a document in JSON text whose numbers are within a limit, or the faults of the
document. -/
def loadTextWithin (limit : Option Nat) (text : String) (ids : IdSupply) :
    Except (List Fault) Drawn :=
  match readText limit text with
  | some v => load .text v ids
  | none => .error [⟨[], .notJson, .string text⟩]

/-- The drawing of a document in JSON text, or the faults of the document. -/
def loadText (text : String) (ids : IdSupply) : Except (List Fault) Drawn :=
  loadTextWithin (some maxWholeLength) text ids

end SchemaDraft.Document
