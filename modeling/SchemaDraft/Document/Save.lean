import SchemaDraft.Json.Write
import SchemaDraft.Model.Basic

/-!
A drawing as a document. The members of each object come in one fixed order.
-/

namespace SchemaDraft

/-- A place as a document has it. -/
def Position.toJson (p : Position) : Json := .object [("x", .number p.x), ("y", .number p.y)]

/-- A column as a document has it. -/
def Column.toJson (c : Column) : Json :=
  .object
    [("id", .string c.id), ("name", .string c.name), ("type", .string c.type),
      ("isPrimaryKey", .bool c.isPrimaryKey), ("isNotNull", .bool c.isNotNull),
      ("isUnique", .bool c.isUnique)]

/-- A table as a document has it. -/
def Table.toJson (t : Table) : Json :=
  .object
    [("id", .string t.id), ("name", .string t.name),
      ("columns", .array (t.columns.map Column.toJson)), ("position", t.position.toJson)]

/-- A relation as a document has it. -/
def Relation.toJson (r : Relation) : Json :=
  .object
    [("id", .string r.id), ("fromTableId", .string r.source.tableId),
      ("fromColumnId", .string r.source.columnId), ("toTableId", .string r.target.tableId),
      ("toColumnId", .string r.target.columnId), ("type", .string r.type)]

/-- A drawing as a document. -/
def Schema.toJson (s : Schema) : Json :=
  .object
    [("tables", .array (s.tables.map Table.toJson)),
      ("relations", .array (s.relations.map Relation.toJson))]

/-- The text of a drawing as a document, on one line or with each level indented, or why it has
none. -/
def Schema.toText (s : Schema) (width : Option Int) : Except Json.WriteFault String :=
  Json.dump width s.toJson

/-- That text if nothing stands against it. -/
def Schema.writtenText (s : Schema) (width : Option Int) : String :=
  Json.write (Json.indentOf width) s.toJson

/-- The indentation of a document if nothing else is asked for. -/
def defaultIndent : Option Int := some 2

end SchemaDraft
