import SchemaDraft.Catalogue.Order
import SchemaDraft.Script.Import

/-!
From the catalogue of a database to a drawing. Its tables come in their order, and every reference
from one column to one column becomes a relation. The relations come in the order of the names at
their ends.
-/

namespace SchemaDraft.Catalogue

/-- What a reference of a table gives: a key, or a notice if it has several columns. -/
def Listing.readReference (l : Listing) (t : ListedTable) (r : Reference) :
    Except Fault (Except Notice ForeignKey) := do
  let referred ← r.referred.mapM (l.findColumn t r)
  return ForeignKey.ofColumns (lowerName t.name) (r.columns.map lowerName)
    (lowerName r.targetTable) (referred.map lowerName)

/-- What the references of some tables give, in order. -/
def Listing.readReferences (l : Listing) (tables : List ListedTable) :
    Except Fault (List (Except Notice ForeignKey)) :=
  (tables.flatMap fun t => t.references.map fun r => (t, r)).mapM fun (t, r) =>
    l.readReference t r

/-- The names of a foreign key in the order in which they are compared. -/
def keyNames (k : ForeignKey) : List String := [k.fromTable, k.fromColumn, k.toTable, k.toColumn]

/-- Foreign keys in the order of their names. -/
def byNames (keys : List ForeignKey) : List ForeignKey :=
  keys.mergeSort fun a b => !decide (keyNames b < keyNames a)

/-- The drawing of the tables that a database lists. What is wrong with tables is told before what
is wrong with columns. -/
def Listing.draw (l : Listing) (ids : IdSupply) : Except Fault Drawn := do
  l.checkTables
  l.checkFirstColumns
  let tables := l.ordered
  let keys ← l.readReferences tables
  return Script.drawTables (tables.map ListedTable.spec) (byNames (keys.filterMap Except.toOption))
    (keys.filterMap noticeOf?) ids

def draw (c : Catalogue) (ids : IdSupply) : Except Fault Drawn := c.listing.draw ids

end SchemaDraft.Catalogue
