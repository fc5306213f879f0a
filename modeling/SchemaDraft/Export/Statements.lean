import SchemaDraft.Export.Identifier
import SchemaDraft.Model.ColumnType
import SchemaDraft.Model.ForeignKey

/-!
A drawing as a script: one statement for each table, then one for each relation whose ends exist.
Columns come in order with their flags; the columns of the primary key are listed in a line of their
own, so a column of it is not marked unique. The ids, places and types of relations are not written.
-/

namespace SchemaDraft.Export

/-- Blanks before each line of a table. -/
def indentation : List Char := "  ".toList

/-- The line of a column. -/
def columnLine (c : ColumnSpec) : List Char :=
  indentation ++ quoteName c.name.toList ++ ' ' :: (columnTypeInSql c.type).toList
    ++ (if c.isNotNull then " NOT NULL".toList else [])
    ++ (if c.isUnique && !c.isPrimaryKey then " UNIQUE".toList else [])

/-- The line of the primary key, if there is one. -/
def primaryKeyLines (columns : List ColumnSpec) : List (List Char) :=
  match columns.filter (·.isPrimaryKey) with
  | [] => []
  | keys =>
    [indentation ++ "PRIMARY KEY (".toList
      ++ ", ".toList.intercalate (keys.map fun c => quoteName c.name.toList) ++ [')']]

/-- The statement that creates a table. -/
def tableStatement (t : TableSpec) : List Char :=
  let opening := "CREATE TABLE ".toList ++ quoteName t.name.toList
  match t.columns.map columnLine ++ primaryKeyLines t.columns with
  | [] => opening ++ " ();".toList
  | lines => opening ++ " (\n".toList ++ ",\n".toList.intercalate lines ++ "\n);".toList

/-! ### Foreign keys -/

/-- The names at the ends of a relation, each table being the last one with its id and each column
the first one. -/
def relationKey (tables : List Table) (r : Relation) : Except Notice ForeignKey :=
  match lastTable? tables r.source.tableId, lastTable? tables r.target.tableId with
  | some fromTable, some toTable =>
    match fromTable.column? r.source.columnId, toTable.column? r.target.columnId with
    | some fromColumn, some toColumn =>
      .ok ⟨fromTable.name, fromColumn.name, toTable.name, toColumn.name⟩
    | _, _ => .error (.danglingRelation r.id)
  | _, _ => .error (.danglingRelation r.id)

/-- The name of a foreign key before it is kept apart from others: its four names. -/
def constraintBase (k : ForeignKey) : List Char :=
  "fk_".toList ++ ['_'].intercalate
    [k.fromTable.toList, k.fromColumn.toList, k.toTable.toList, k.toColumn.toList]

/-- A name with its number among equal names, the first of which has none. -/
def withNumber (base : List Char) (earlier : Nat) : List Char :=
  if earlier = 0 then base else base ++ '_' :: Number.natText (earlier + 1)

/-- Each foreign key with the name of its constraint; `seen` are the names used before. -/
def nameKeysFrom (seen : List (List Char)) : List ForeignKey → List (ForeignKey × List Char)
  | [] => []
  | k :: ks =>
    (k, fitName (withNumber (constraintBase k) (seen.count (constraintBase k))))
      :: nameKeysFrom (constraintBase k :: seen) ks

/-- The statement that adds a foreign key under a name. -/
def keyStatement (k : ForeignKey) (name : List Char) : List Char :=
  "ALTER TABLE ".toList ++ quoteName k.fromTable.toList
    ++ " ADD CONSTRAINT ".toList ++ quoteName name
    ++ " FOREIGN KEY (".toList ++ quoteName k.fromColumn.toList
    ++ ") REFERENCES ".toList ++ quoteName k.toTable.toList
    ++ " (".toList ++ quoteName k.toColumn.toList ++ ");".toList

/-- The foreign keys of those relations whose ends exist. -/
def relationKeys (s : Schema) : List ForeignKey :=
  s.relations.filterMap fun r => (relationKey s.tables r).toOption

/-- The notices about relations whose ends do not exist. -/
def exportNotices (s : Schema) : List Notice :=
  s.relations.filterMap fun r => noticeOf? (relationKey s.tables r)

/-- The statements for the relations, one to a line; nothing if there are none. -/
def keyBlock (s : Schema) : List (List Char) :=
  match (nameKeysFrom [] (relationKeys s)).map fun p => keyStatement p.1 p.2 with
  | [] => []
  | statements => [['\n'].intercalate statements]

/-- The script of a drawing: blocks with an empty line between them. An empty drawing has an empty
script. -/
def script (s : Schema) : List Char :=
  match s.tables.map (fun t => tableStatement t.spec) ++ keyBlock s with
  | [] => []
  | blocks => "\n\n".toList.intercalate blocks ++ ['\n']

end SchemaDraft.Export
