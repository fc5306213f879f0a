import SchemaDraft.Model.Basic

/-!
Fresh ids. A supply is an endless row of labels and the place reached in it; it is handed on from
each object that takes an id to the next. If no label repeats, no two objects get the same id.
-/

namespace SchemaDraft

/-- A row of labels and the number of those already taken. -/
structure IdSupply where
  label : Nat → String
  taken : Nat

namespace IdSupply

def fresh (s : IdSupply) : String := s.label s.taken

/-- The supply after its next id is taken. -/
def advance (s : IdSupply) : IdSupply := { s with taken := s.taken + 1 }

end IdSupply

/-- Treats the items of a list in order, handing the supply on from each to the next. -/
def mintAll {α β : Type} (mint : α → IdSupply → β × IdSupply) :
    List α → IdSupply → List β × IdSupply
  | [], s => ([], s)
  | a :: as, s =>
    let (b, s) := mint a s
    let (bs, s) := mintAll mint as s
    (b :: bs, s)

/-- A column with a fresh id. -/
def ColumnSpec.mint (c : ColumnSpec) (s : IdSupply) : Column × IdSupply :=
  ({ c with id := s.fresh }, s.advance)

/-- A table at a place, with fresh ids for it and for its columns. -/
def TableSpec.mintAt (position : Position) (t : TableSpec) (s : IdSupply) : Table × IdSupply :=
  let (columns, rest) := mintAll ColumnSpec.mint t.columns s.advance
  (⟨s.fresh, t.name, columns, position⟩, rest)

end SchemaDraft
