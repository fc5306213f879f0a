import SchemaDraft.Model.ForeignKey
import SchemaDraft.Model.IdSupply
import SchemaDraft.Text.LetterCase

/-!
From foreign keys by name to relations by id. Names match in lower case; of several tables with one
name the last is meant, of several columns the first. A key whose ends cannot be found is dropped
with a notice, a key between ends that an earlier key connects is dropped silently, and a relation
is one to one if its referring column is unique.
-/

namespace SchemaDraft

/-- The last table with this name, in any letter case. -/
def tableNamed? (tables : List Table) (name : String) : Option Table :=
  tables.reverse.find? fun t => lowerName t.name = lowerName name

/-- The first column with this name, in any letter case. -/
def Table.columnNamed? (t : Table) (name : String) : Option Column :=
  t.columns.find? fun c => lowerName c.name = lowerName name

/-- A foreign key whose ends are found: the ids of both and how many rows may refer to one. -/
structure Link where
  source : Endpoint
  target : Endpoint
  cardinality : Cardinality
  deriving Repr, DecidableEq

/-- The ends of a foreign key among some tables. -/
def ForeignKey.resolve (tables : List Table) (k : ForeignKey) : Except Notice Link :=
  match tableNamed? tables k.fromTable, tableNamed? tables k.toTable with
  | some fromTable, some toTable =>
    match fromTable.columnNamed? k.fromColumn, toTable.columnNamed? k.toColumn with
    | some fromColumn, some toColumn =>
      .ok ⟨⟨fromTable.id, fromColumn.id⟩, ⟨toTable.id, toColumn.id⟩,
        if fromColumn.isUnique then .oneToOne else .oneToMany⟩
    | _, _ => .error (.keyToUnknownColumn k)
  | _, _ => .error (.keyToUnknownTable k)

/-- Do two links connect the same ends? -/
def Link.sameEnds (a b : Link) : Bool := a.source = b.source && a.target = b.target

/-- The links whose ends no earlier link connects, `seen` being those before. -/
def distinctLinksFrom (seen : List Link) : List Link → List Link
  | [] => []
  | l :: ls =>
    if seen.any (·.sameEnds l) then distinctLinksFrom seen ls
    else l :: distinctLinksFrom (l :: seen) ls

/-- The links whose ends no earlier link connects. -/
def distinctLinks (links : List Link) : List Link := distinctLinksFrom [] links

/-- The relation of a link, with a fresh id. -/
def Link.mint (l : Link) (s : IdSupply) : Relation × IdSupply :=
  (⟨s.fresh, l.source, l.target, l.cardinality.name⟩, s.advance)

/-- The distinct links of those foreign keys whose ends are found. -/
def resolvedLinks (tables : List Table) (keys : List ForeignKey) : List Link :=
  distinctLinks (keys.filterMap fun k => (k.resolve tables).toOption)

/-- The notices about the foreign keys whose ends are not found. -/
def unresolvedNotices (tables : List Table) (keys : List ForeignKey) : List Notice :=
  keys.filterMap fun k => noticeOf? (k.resolve tables)

/-- The relations that foreign keys make between some tables. -/
def buildRelations (tables : List Table) (keys : List ForeignKey) (ids : IdSupply) :
    List Relation × IdSupply :=
  mintAll Link.mint (resolvedLinks tables keys) ids

end SchemaDraft
