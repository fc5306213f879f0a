import SchemaDraft.Model.Canvas
import SchemaDraft.Model.Resolve
import SchemaDraft.Script.Statement

/-!
From a script to a drawing. Each statement is read on its own; the tables stand on the grid in the
order of their statements, and the foreign keys are resolved when all tables are known, so that a
key may come before its table. Whatever is not understood is left out with a notice, and no text is
refused.
-/

namespace SchemaDraft.Script

/-- What a script says, before anything has an id. -/
structure Contents where
  tables : List TableSpec
  keys : List ForeignKey
  notices : List Notice
  deriving Repr, DecidableEq

/-- What some statements say together. -/
def Contents.ofStatements (statements : List (List Char)) : Contents :=
  let readings := statements.map readStatement
  { tables := readings.filterMap (·.value.table?)
    keys := readings.flatMap (·.value.keys)
    notices := readings.flatMap (·.notices) }

/-- The statements of a script, without comments. -/
def statementsOf (script : List Char) : List (List Char) :=
  splitStatements (Text.trim (dropComments script))

def Contents.ofScript (script : List Char) : Contents := .ofStatements (statementsOf script)

/-- The place of a table that stands nowhere yet. -/
def unplaced : Position := ⟨0, 0⟩

/-- The tables of a script, on the grid, with fresh ids. -/
def mintTables (tables : List TableSpec) (ids : IdSupply) : List Table × IdSupply :=
  let (minted, rest) := mintAll (TableSpec.mintAt unplaced) tables ids
  (Canvas.placeOnGrid minted, rest)

/-- Tables and foreign keys as a drawing. -/
def drawTables (tables : List TableSpec) (keys : List ForeignKey) (notices : List Notice)
    (ids : IdSupply) : Drawn :=
  let (placed, ids) := mintTables tables ids
  let (relations, ids) := buildRelations placed keys ids
  ⟨⟨placed, relations⟩, notices ++ unresolvedNotices placed keys, ids⟩

def Contents.draw (c : Contents) (ids : IdSupply) : Drawn :=
  drawTables c.tables c.keys c.notices ids

/-- The drawing of a script. -/
def draw (script : String) (ids : IdSupply) : Drawn := (Contents.ofScript script.toList).draw ids

end SchemaDraft.Script
