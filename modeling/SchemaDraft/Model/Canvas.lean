import SchemaDraft.Model.IdSupply

/-!
Places on the canvas. Imported tables stand in a grid, four to a row, in the order of their
statements; tables that are added to a drawing move to the right of it as one block.
-/

namespace SchemaDraft

namespace Canvas

/-- Where the first table of the grid stands, to the right and down. -/
def origin : Int := 100

/-- Tables to a row of the grid. -/
def tablesPerRow : Int := 4

/-- From one table of a row to the next. -/
def columnStep : Int := 360

/-- From one row to the next. -/
def rowStep : Int := 280

/-- The place number `index` of the grid, counted along the rows from zero. -/
def gridPosition (index : Int) : Position :=
  { x := .int (origin + index % tablesPerRow * columnStep)
    y := .int (origin + index / tablesPerRow * rowStep) }

/-- The tables at the places of the grid from number `index` on. -/
def placeFrom (index : Nat) : List Table → List Table
  | [] => []
  | t :: ts => { t with position := gridPosition index } :: placeFrom (index + 1) ts

/-- The tables at the places of the grid, in order. -/
def placeOnGrid (tables : List Table) : List Table := placeFrom 0 tables

/-- How far tables that come in must move right to stand one step beyond the rightmost table. -/
def mergeOffset : List Table → List Table → Number
  | c :: current, i :: incoming =>
    Number.largest c.position.x (current.map (·.position.x)) + Number.int columnStep
      - Number.smallest i.position.x (incoming.map (·.position.x))
  | _, _ => .int 0

/-- Does the way to that distance overflow? The step itself is no integer beyond all doubles. -/
def offsetOverflows : List Table → List Table → Bool
  | c :: current, i :: incoming =>
    (Number.largest c.position.x (current.map (·.position.x)) + Number.int columnStep).overflows
      (Number.smallest i.position.x (incoming.map (·.position.x)))
  | _, _ => false

def shiftTable (dx : Number) (t : Table) : Table :=
  { t with position := { t.position with x := t.position.x + dx } }

def shift (tables : List Table) (dx : Number) : List Table := tables.map (shiftTable dx)

/-- Does one of the moves overflow? -/
def shiftOverflows (tables : List Table) (dx : Number) : Bool :=
  tables.any fun t => t.position.x.overflows dx

end Canvas

end SchemaDraft
